/-! # White space

The characters that Unicode counts as white space. -/

namespace Bindery

def isSpace (c : Char) : Bool :=
  let n := c.toNat
  n = 0x20 || (9 ≤ n && n ≤ 13) || n = 0x85 || n = 0xA0 || n = 0x1680 ||
    (0x2000 ≤ n && n ≤ 0x200A) || n = 0x2028 || n = 0x2029 || n = 0x202F || n = 0x205F || n = 0x3000

def withoutLastSpaces (cs : List Char) : List Char :=
  (cs.reverse.dropWhile isSpace).reverse

end Bindery
