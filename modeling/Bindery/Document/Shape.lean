import Bindery.Document.Bare

/-! # Reading documents

Readers take a document to a value of the domain.  A text is read from a text or a bare word, a
list from a list, and a map from a record in which the last field of a name counts.  A structure is
read from a record, where a field that occurs twice is refused and unknown fields are passed over,
or from a list that gives its fields in order and may end early, as far as the format of the text
admits it.  An absent field takes its default if it has one.  Tags do not matter where it is known
what to read. -/

namespace Bindery

/-- Why a document does not have the shape that is asked for. -/
inductive ShapeError where
  /-- A field that has no default is absent. -/
  | missing (field : String)
  /-- A field occurs more than once. -/
  | repeated (field : String)
  /-- A list gives more values than the structure has fields. -/
  | surplus
  /-- Something else stands where this kind of document is expected. -/
  | expected (kind : String)
  /-- The value is well shaped, and still not one of those allowed. -/
  | refused (reason : String)
  deriving DecidableEq

inductive Format where
  | json
  | yaml
  | toml
  deriving DecidableEq

abbrev Reader (α : Type) := Document → Except ShapeError α

namespace Reader

def text : Reader String := fun d =>
  match d.untagged with
  | .text s => .ok s
  | .bare s => .ok s
  | _ => .error (.expected "text")

def bool : Reader Bool := fun d =>
  match d.untagged with
  | .bool b => .ok b
  | .bare word =>
    match Bare.bool? word with
    | some b => .ok b
    | none => .error (.expected "truth value")
  | _ => .error (.expected "truth value")

/-- Reads null as nothing, and all else with a reader.  A bare word with a tag is null only if the
tag says so, and then it has to spell null. -/
def nullable {α : Type} (read : Reader α) : Reader (Option α)
  | .null => .ok none
  | .bare word => if Bare.isNull word then .ok none else (read (.bare word)).map some
  | .tagged .null (.bare word) =>
    match Bare.resolveAs .null word with
    | .null => .ok none
    | _ => .error (.expected "null")
  | d => (read d).map some

/-- Reads each item of a list; an empty word is an empty list. -/
def list {α : Type} (read : Reader α) : Reader (List α) := fun d =>
  match d.untagged with
  | .list items => items.mapM read
  | .bare "" => .ok []
  | _ => .error (.expected "list")

/-- Reads the value of each field. -/
def entries {α : Type} (read : Reader α) (fields : List (String × Document)) :
    Except ShapeError (List (String × α)) :=
  fields.mapM fun f => (read f.2).map fun a => (f.1, a)

/-- Reads a map, in which the last field of a name counts. -/
def map {α : Type} (read : Reader α) : Reader (SortedMap String α) := fun d =>
  match d.untagged with
  | .record fields => (entries read fields).map SortedMap.ofList
  | .bare "" => .ok SortedMap.empty
  | _ => .error (.expected "map")

/-- Reads anything, in canonical form. -/
def value : Reader Value := fun d =>
  match Value.ofDocument? d with
  | some v => .ok v
  | none => .error (.refused "number out of range")

end Reader

/-! ### Structures -/

/-- The fields given for a structure, each at most once. -/
structure Fields where
  /-- The documents by field name. -/
  given : List (String × Document)

namespace Fields

/-- The documents of a record for the known fields, none of which may occur twice. -/
def ofRecord (names : List String) (fields : List (String × Document)) : Except ShapeError Fields :=
  let known := fields.filter fun f => names.contains f.1
  match names.find? fun name => 1 < (known.filter fun f => f.1 = name).length with
  | some name => .error (.repeated name)
  | none => .ok ⟨known⟩

/-- The items of a list for the known fields in order.  JSON admits no further items, TOML passes
over them, and YAML admits no list for a structure. -/
def ofList (format : Format) (names : List String) (items : List Document) :
    Except ShapeError Fields :=
  match format with
  | .json => if names.length < items.length then .error .surplus else .ok ⟨names.zip items⟩
  | .yaml => .error (.expected "structure")
  | .toml => .ok ⟨names.zip items⟩

/-- The fields a document gives for a structure with these field names, in order. -/
def read (format : Format) (names : List String) : Reader Fields := fun d =>
  match d.untagged with
  | .record fields => ofRecord names fields
  | .list items => ofList format names items
  | .bare "" => .ok ⟨[]⟩
  | _ => .error (.expected "structure")

/-- Reads a field that must be there. -/
def required {α : Type} (fields : Fields) (name : String) (read : Reader α) :
    Except ShapeError α :=
  match fields.given.lookup name with
  | some d => read d
  | none => .error (.missing name)

/-- Reads a field that has a default. -/
def optional {α : Type} (fields : Fields) (name : String) (read : Reader α) (absent : α) :
    Except ShapeError α :=
  match fields.given.lookup name with
  | some d => read d
  | none => .ok absent

end Fields

end Bindery
