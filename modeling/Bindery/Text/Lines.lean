/-! # Lines of a text -/

namespace Bindery.Text

/-- The pieces of a list between line feeds. -/
def splitLines : List Char → List (List Char)
  | [] => [[]]
  | c :: rest =>
    if c = '\n' then [] :: splitLines rest
    else
      match splitLines rest with
      | [] => [[c]]
      | line :: others => (c :: line) :: others

/-- Drops a carriage return at the end. -/
def withoutReturn (cs : List Char) : List Char :=
  if cs.getLast? = some '\r' then cs.dropLast else cs

/-- The lines of a text that is printed with a line end behind it. -/
def lines (s : String) : List String :=
  (splitLines s.toList).map fun line => String.ofList (withoutReturn line)

end Bindery.Text
