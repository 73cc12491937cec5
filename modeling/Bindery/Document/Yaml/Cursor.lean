/-! # Places in a YAML text

A `Cursor` is a place in a text: what is left from there on, and how far it is from the start of the
text and of its line. -/

namespace Bindery.Yaml

/-- The characters that a YAML text may hold. -/
def isAllowed (c : Char) : Bool :=
  let n := c.toNat
  n = 9 || n = 10 || n = 13 || (0x20 ≤ n && n ≤ 0x7E) || n = 0x85 ||
    (0xA0 ≤ n && n != 0xFFFE && n != 0xFFFF)

/-- Spaces and tabs. -/
def isBlank (c : Char) : Bool :=
  c = ' ' || c = '\t'

def isBreak (c : Char) : Bool :=
  c = '\n' || c = '\r' || c = '\u0085' || c = '\u2028' || c = '\u2029'

/-- The end of a line, if one comes first: the character it stands for, and its length. -/
def lineBreak? : List Char → Option (Char × Nat)
  | '\r' :: '\n' :: _ => some ('\n', 2)
  | c :: _ =>
    if c = '\n' ∨ c = '\r' ∨ c = '\u0085' then some ('\n', 1)
    else if isBreak c then some (c, 1)
    else none
  | [] => none

/-- Whether a blank, the end of a line or the end of the text comes first. -/
def isApart : List Char → Bool
  | [] => true
  | c :: _ => isBlank c || isBreak c

/-- A place in a text. -/
structure Cursor where
  /-- What is left of the text. -/
  rest : List Char
  /-- The length of the whole text. -/
  size : Nat
  /-- The number of characters before. -/
  index : Nat := 0
  line : Nat := 0
  column : Nat := 0

namespace Cursor

def ofText (cs : List Char) : Cursor where
  rest := cs
  size := cs.length

/-- One more than the number of characters that are left. -/
def room (c : Cursor) : Nat :=
  c.size - c.index + 1

/-- The place behind so many characters of the line. -/
def advance (c : Cursor) (n : Nat) : Cursor where
  rest := c.rest.drop n
  size := c.size
  index := c.index + n
  line := c.line
  column := c.column + n

/-- The start of the next line, behind an end of line of so many characters. -/
def nextLine (c : Cursor) (n : Nat) : Cursor where
  rest := c.rest.drop n
  size := c.size
  index := c.index + n
  line := c.line + 1
  column := 0

/-- The place behind the characters that pass a test. -/
def skipWhile (c : Cursor) (p : Char → Bool) : Cursor :=
  c.advance (c.rest.takeWhile p).length

def lineEnd (c : Cursor) : Cursor :=
  c.skipWhile fun x => !isBreak x

/-- Whether a mark stands here at the start of a line, on its own. -/
def isAtMark (c : Cursor) (mark : List Char) : Bool :=
  c.column = 0 && mark.isPrefixOf c.rest && isApart (c.rest.drop mark.length)

/-- Whether the start or the end of a document is marked here. -/
def isAtDocument (c : Cursor) : Bool :=
  c.isAtMark ['-', '-', '-'] || c.isAtMark ['.', '.', '.']

end Cursor

end Bindery.Yaml
