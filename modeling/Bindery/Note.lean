import Bindery.Text.Lines

/-! # Notes

A run reports what it does in notes, in order.  A note is shown with the control characters that
could steer a terminal spelled out, and on as many lines as its text has. -/

namespace Bindery

/-- How much a note matters. -/
inductive Level where
  | info
  | warn
  deriving DecidableEq

/-- A line about what a run does. -/
structure Note where
  level : Level
  text : String
  deriving DecidableEq

namespace Note

/-- A note on the course of events. -/
def info (text : String) : Note :=
  ⟨.info, text⟩

/-- A note on something that looks wrong. -/
def warn (text : String) : Note :=
  ⟨.warn, text⟩

/-- How a character of a note is shown. -/
def shownChar (c : Char) : List Char :=
  if c ∈ ['\x07', '\x08', '\x0c', '\x1b', '\x7f'] then
    '\\' :: 'x' :: (if c.toNat < 0x10 then ['0'] else []) ++ Nat.toDigits 16 c.toNat
  else if 0x80 ≤ c.toNat ∧ c.toNat ≤ 0x9F then
    ['\\', 'u', '\x7b'] ++ Nat.toDigits 16 c.toNat ++ ['\x7d']
  else [c]

/-- The lines on which a note is shown. -/
def lines (n : Note) : List String :=
  Text.lines (String.ofList (n.text.toList.flatMap shownChar))

end Note

end Bindery
