import Bindery.Text.CaseTable

/-! # Upper and lower case

Full case mapping, which may turn one character into several.  A capital sigma becomes the final
form when a cased character stands before it and none after it, where ignorable characters in
between do not count. -/

namespace Bindery.Text

/-- The image of a code point under the first run that holds it. -/
def shifted? : List Shift → Nat → Option Nat
  | [], _ => none
  | run :: rest, n =>
    if n < run.first then none
    else if n ≤ run.last ∧ (n - run.first) % run.step = 0 then some (n + run.offset).toNat
    else shifted? rest n

/-- The image of a character under a case mapping; a character without an entry stays. -/
def mapCase (shifts : List Shift) (expansions : List (Nat × List Nat)) (c : Char) : List Char :=
  match expansions.lookup c.toNat with
  | some image => image.map Char.ofNat
  | none => [((shifted? shifts c.toNat).map Char.ofNat).getD c]

def upperChar (c : Char) : List Char :=
  mapCase upperShifts upperExpansions c

/-- The lower case of a character, away from the rule for the final sigma. -/
def lowerChar (c : Char) : List Char :=
  mapCase lowerShifts lowerExpansions c

/-- Whether the first character that is not ignorable has a case. -/
def startsCased (cs : List Char) : Bool :=
  match cs.dropWhile ignorableRanges.contains with
  | [] => false
  | c :: _ => casedRanges.contains c

/-- Lower case of a text whose characters before it are given, the nearest first. -/
def lowerFrom (before : List Char) : List Char → List Char
  | [] => []
  | c :: rest =>
    let image :=
      if c = 'Σ' then if startsCased before && !startsCased rest then ['ς'] else ['σ']
      else lowerChar c
    image ++ lowerFrom (c :: before) rest

def lower (s : String) : String :=
  String.ofList (lowerFrom [] s.toList)

/-- The text with its first character in upper case. -/
def capitalize (s : String) : String :=
  match s.toList with
  | [] => s
  | c :: rest => String.ofList (upperChar c ++ rest)

end Bindery.Text
