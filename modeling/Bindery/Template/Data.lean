import Bindery.Template

/-! # The data of a template

A `View` is the data that a template sees at some place: all of them, and for each block around the
place the value it is at.  A query that finds nothing gives `some none`; one that asks a list for
something that is no index fails with `none`. -/

namespace Bindery

namespace Document

/-- The position that a text gives in a list: decimal digits behind an optional plus sign. -/
def position? (name : String) : Option Nat :=
  let digits := match name.toList with
    | '+' :: rest => rest
    | cs => cs
  if digits.isEmpty || !digits.all Char.isDigit then none
  else
    let n := digits.foldl (fun n c => 10 * n + (c.toNat - '0'.toNat)) 0
    if n < Nat.pow 2 64 then some n else none

/-- The value that a chain of names leads to. -/
def follow (d : Document) : List String → Option (Option Document)
  | [] => some (some d)
  | name :: rest =>
    match d with
    | .list items =>
      match position? name with
      | none => none
      | some i =>
        match items[i]? with
        | some d => d.follow rest
        | none => some none
    | .record fields =>
      match fields.lookup name with
      | some d => d.follow rest
      | none => some none
    | _ => some none

def numberText : Number → String
  | .int i => toString i
  | .double x => String.ofList x.text

mutual

/-- The text that a value fills a hole with. -/
def holeText : Document → String
  | .null => ""
  | .bool true => "true"
  | .bool false => "false"
  | .number n => numberText n
  | .text s => s
  | .bare s => s
  | .list items => "[" ++ itemsText items ++ "]"
  | .record _ => "[object]"
  | .tagged _ d => holeText d
  | .unreadable => ""

/-- The texts of some values, each with a comma behind it. -/
def itemsText : List Document → String
  | [] => ""
  | d :: rest => holeText d ++ ", " ++ itemsText rest

end

/-- Whether a value counts as true: neither null nor false nor empty nor, unless zero is let in,
zero. -/
def isTruthy (zero : Bool) : Document → Bool
  | .null => false
  | .bool b => b
  | .number (.int i) => zero || i != 0
  | .number (.double x) => zero || (x.isFinite && x.exponentField != 0)
  | .text s => s != ""
  | .bare s => s != ""
  | .list items => !items.isEmpty
  | .record fields => !fields.isEmpty
  | .tagged _ d => isTruthy zero d
  | .unreadable => false

end Document

namespace Template

/-- What a block adds to the data: the value it is at, what it says of that value, and the names it
gives. -/
structure Scope where
  value : Document
  loop : List (String × Document) := []
  names : List (String × Document) := []

namespace Scope

/-- The names of a block for a value and its key. -/
def bind (names : List String) (value key : Document) : List (String × Document) :=
  names.zip [value, key]

/-- The scope of the item at a position among so many. -/
def ofItem (names : List String) (label : String) (count : Nat) (key value : Document) (i : Nat) :
    Scope where
  value := value
  loop := [("first", .bool (i = 0)), ("last", .bool (i + 1 = count)), (label, key)]
  names := bind names value key

/-- The scopes of the items of a list or the fields of a record. -/
def ofItems? (names : List String) : Document → Option (List Scope)
  | .list items =>
    some (items.mapIdx fun i d => ofItem names "index" items.length (.ofNat i) d i)
  | .record fields =>
    some (fields.mapIdx fun i f => ofItem names "key" fields.length (.text f.1) f.2 i)
  | _ => none

/-- The scope of a single value. -/
def ofValue (names : List String) (value : Document) : Scope where
  value := value
  names := if names.length = 1 then bind names value .null else []

end Scope

/-- The data that a template sees. -/
structure View where
  /-- All of the data. -/
  root : Document
  /-- The innermost block, or the template itself. -/
  here : Scope
  /-- What is around it, innermost first. -/
  outer : List Scope := []

namespace View

/-- What a template sees at first. -/
def ofData (d : Document) : View where
  root := d
  here := { value := d }

/-- What is seen inside a block. -/
def enter (v : View) (s : Scope) : View where
  root := v.root
  here := s
  outer := v.here :: v.outer

/-- The block so many levels outwards. -/
def scope? (v : View) : Nat → Option Scope
  | 0 => some v.here
  | up + 1 => v.outer[up]?

/-- The value that a block around names so. -/
def named? (v : View) (name : String) : Option Document :=
  (v.here :: v.outer).findSome? fun s => s.names.lookup name

/-- What a query finds.  Beyond the outermost block it starts from the value at hand.  A name that a
block around gives comes before the fields of that name; behind steps outwards it stands for the
field of that name in the named value. -/
def find (v : View) : Query → Option (Option Document)
  | .root names => v.root.follow names
  | .loop up name => some ((v.scope? up).bind fun s => s.loop.lookup name)
  | .path up names =>
    let start := ((v.scope? up).getD v.here).value
    match names with
    | [] => some (some start)
    | name :: rest =>
      match v.named? name with
      | some d => d.follow (if up = 0 then rest else names)
      | none => start.follow names

end View

end Template

end Bindery
