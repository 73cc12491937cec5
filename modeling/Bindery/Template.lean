import Bindery.Document

/-! # Templates

A template is text with holes and blocks.  A hole asks for a value of the data at hand, or for what
a helper makes of such values.  A block gives its body to a helper, which shows it once, several
times or not at all, and perhaps shows an alternative body in its place. -/

namespace Bindery

/-- What a template asks the data for.  The data at hand change inside a block, and a query may go
outwards by some blocks. -/
inductive Query where
  /-- The fields to follow from the value at hand. -/
  | path (up : Nat) (names : List String)
  /-- The fields to follow from the whole data. -/
  | root (names : List String)
  /-- What a repeating block says of the item at hand. -/
  | loop (up : Nat) (name : String)
  deriving DecidableEq

/-- What a template may call. -/
inductive Helper where
  /-- Repeats its body for every item of a list or record. -/
  | each
  /-- Shows its body if a value counts as true. -/
  | given
  /-- Shows its body unless a value counts as true. -/
  | lacking
  /-- Shows its body for a value that counts as true. -/
  | within
  /-- The item of a list or the field of a record. -/
  | lookup
  /-- Shows its body. -/
  | raw
  /-- Shows nothing. -/
  | log
  | equal
  | different
  | greater
  | atLeast
  | less
  | atMost
  | both
  | either
  | negation
  | size
  /-- Something that cannot be called. -/
  | unknown
  deriving DecidableEq

namespace Helper

/-- The helpers by name. -/
def table : List (String × Helper) :=
  [("each", .each), ("if", .given), ("unless", .lacking), ("with", .within), ("lookup", .lookup),
   ("raw", .raw), ("log", .log), ("eq", .equal), ("ne", .different), ("gt", .greater),
   ("gte", .atLeast), ("lt", .less), ("lte", .atMost), ("and", .both), ("or", .either),
   ("not", .negation), ("len", .size)]

def ofName (name : String) : Helper :=
  (table.lookup name).getD .unknown

end Helper

/-- A value as a template gives it: a literal, a query, or the result of a helper. -/
inductive Operand where
  | literal (value : Document)
  | query (query : Query)
  | call (helper : Helper) (arguments : List Operand) (options : List (String × Operand))

inductive Template where
  /-- Text that stands for itself. -/
  | text (content : String)
  /-- The text of a value. -/
  | hole (value : Operand)
  /-- A body under a helper, with names for the value at hand and its key, and an alternative body.
  -/
  | block (helper : Helper) (arguments : List Operand) (options : List (String × Operand))
      (names : List String) (body : List Template) (alternative : Option (List Template))

namespace Template

/-- The text of a field of the data. -/
def field (name : String) : Template :=
  .hole (.query (.path 0 [name]))

/-- The text of the value at hand. -/
def this : Template :=
  .hole (.query (.path 0 []))

/-- A body for each item of a field. -/
def forEach (name : String) (body : List Template) : Template :=
  .block .each [.query (.path 0 [name])] [] [] body none

end Template

end Bindery
