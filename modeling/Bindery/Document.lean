import Bindery.Number.Double
import Bindery.SortedMap

/-! # Documents

A `Document` is what a JSON, YAML or TOML text denotes, with the fields of a record in the order of
the text and repeated fields still there: which of them counts is decided by whoever reads the
record.  An unquoted YAML word stays `bare`, because its meaning depends on what is expected of it,
and for the same reason what has a YAML tag stays `tagged`.  A part of a text that is well formed
but denotes nothing is `unreadable`; it does no harm where it is passed over.

A `Value` is a document in canonical form: no bare words, no tags, nothing unreadable, no number
beyond the range, and the fields of every record in ascending order.  `Value.ofDocument?` brings a
document to that form. -/

namespace Bindery

/-- A number: an integer, or a floating point number. -/
inductive Number where
  | int (value : Int)
  | double (value : Double)
  deriving DecidableEq

/-- Whether a number is neither infinite nor undefined. -/
def Number.isFinite : Number → Bool
  | .int _ => true
  | .double x => x.isFinite

/-- What a tag says of the part of a text behind it. -/
inductive Tag where
  | null
  | bool
  | int
  | double
  /-- That it is of some other kind with a name that is the same everywhere. -/
  | global
  /-- That it is of a kind of the text's own. -/
  | custom
  deriving DecidableEq

/-- The tree a structured text denotes. -/
inductive Document where
  | null
  | bool (value : Bool)
  | number (value : Number)
  | text (value : String)
  | bare (word : String)
  | list (items : List Document)
  | record (fields : List (String × Document))
  | tagged (tag : Tag) (content : Document)
  | unreadable

namespace Document

instance : Inhabited Document := ⟨null⟩

/-! ### Equality is decidable -/

mutual

def decEq : (a b : Document) → Decidable (a = b)
  | .null, .null => isTrue rfl
  | .unreadable, .unreadable => isTrue rfl
  | .bool a, .bool b => decidable_of_iff (a = b) (by simp)
  | .number a, .number b => decidable_of_iff (a = b) (by simp)
  | .text a, .text b => decidable_of_iff (a = b) (by simp)
  | .bare a, .bare b => decidable_of_iff (a = b) (by simp)
  | .list a, .list b =>
    match decEqItems a b with
    | isTrue h => isTrue (by rw [h])
    | isFalse h => isFalse (by simpa using h)
  | .record a, .record b =>
    match decEqFields a b with
    | isTrue h => isTrue (by rw [h])
    | isFalse h => isFalse (by simpa using h)
  | .tagged t a, .tagged u b =>
    if ht : t = u then
      match decEq a b with
      | isTrue h => isTrue (by rw [ht, h])
      | isFalse h => isFalse (by simp [h])
    else isFalse (by simp [ht])
  | .null, .bool _ | .null, .number _ | .null, .text _ | .null, .bare _ | .null, .list _
  | .null, .record _ | .bool _, .null | .bool _, .number _ | .bool _, .text _ | .bool _, .bare _
  | .bool _, .list _ | .bool _, .record _ | .number _, .null | .number _, .bool _
  | .number _, .text _ | .number _, .bare _ | .number _, .list _ | .number _, .record _
  | .text _, .null | .text _, .bool _ | .text _, .number _ | .text _, .bare _ | .text _, .list _
  | .text _, .record _ | .bare _, .null | .bare _, .bool _ | .bare _, .number _ | .bare _, .text _
  | .bare _, .list _ | .bare _, .record _ | .list _, .null | .list _, .bool _ | .list _, .number _
  | .list _, .text _ | .list _, .bare _ | .list _, .record _ | .record _, .null | .record _, .bool _
  | .record _, .number _ | .record _, .text _ | .record _, .bare _ | .record _, .list _
  | .null, .unreadable | .bool _, .unreadable | .number _, .unreadable | .text _, .unreadable
  | .bare _, .unreadable | .list _, .unreadable | .record _, .unreadable | .unreadable, .null
  | .unreadable, .bool _ | .unreadable, .number _ | .unreadable, .text _ | .unreadable, .bare _
  | .unreadable, .list _ | .unreadable, .record _ | .null, .tagged _ _ | .bool _, .tagged _ _
  | .number _, .tagged _ _ | .text _, .tagged _ _ | .bare _, .tagged _ _ | .list _, .tagged _ _
  | .record _, .tagged _ _ | .unreadable, .tagged _ _ | .tagged _ _, .null | .tagged _ _, .bool _
  | .tagged _ _, .number _ | .tagged _ _, .text _ | .tagged _ _, .bare _ | .tagged _ _, .list _
  | .tagged _ _, .record _ | .tagged _ _, .unreadable =>
    isFalse (by simp)

def decEqItems : (a b : List Document) → Decidable (a = b)
  | [], [] => isTrue rfl
  | [], _ :: _ => isFalse (by simp)
  | _ :: _, [] => isFalse (by simp)
  | a :: as, b :: bs =>
    match decEq a b, decEqItems as bs with
    | isTrue h, isTrue h' => isTrue (by rw [h, h'])
    | isFalse h, _ => isFalse (by simp [h])
    | _, isFalse h => isFalse (by simp [h])

def decEqFields : (a b : List (String × Document)) → Decidable (a = b)
  | [], [] => isTrue rfl
  | [], _ :: _ => isFalse (by simp)
  | _ :: _, [] => isFalse (by simp)
  | (k, a) :: as, (j, b) :: bs =>
    if hk : k = j then
      match decEq a b, decEqFields as bs with
      | isTrue h, isTrue h' => isTrue (by rw [hk, h, h'])
      | isFalse h, _ => isFalse (by simp [h])
      | _, isFalse h => isFalse (by simp [h])
    else isFalse (by simp [hk])

end

instance : DecidableEq Document := decEq

/-- A document without the tag it may have. -/
def untagged : Document → Document
  | .tagged _ d => d
  | d => d

/-! ### Building documents -/

/-- A text, or null where there is none. -/
def ofText? : Option String → Document
  | none => .null
  | some s => .text s

def ofTexts (texts : List String) : Document :=
  .list (texts.map .text)

def ofNat (n : Nat) : Document :=
  .number (.int n)

/-! ### Canonical form -/

/-- Without bare words, tags and unbounded numbers, and with every record in the order of its
keys. -/
inductive Canonical : Document → Prop where
  | null : Canonical .null
  | bool (b : Bool) : Canonical (.bool b)
  | number (n : Number) (finite : n.isFinite = true) : Canonical (.number n)
  | text (s : String) : Canonical (.text s)
  | list (items : List Document) (all : ∀ d ∈ items, Canonical d) : Canonical (.list items)
  | record (fields : List (String × Document)) (ascending : Entries.Ascending fields)
      (all : ∀ f ∈ fields, Canonical f.2) : Canonical (.record fields)

end Document

/-- A document in canonical form. -/
def Value : Type := { d : Document // d.Canonical }

namespace Value

instance : DecidableEq Value := inferInstanceAs (DecidableEq { d : Document // d.Canonical })

instance : Inhabited Value := ⟨⟨.null, .null⟩⟩

def document (v : Value) : Document := v.1

def list (items : List Value) : Value :=
  ⟨.list (items.map document), .list _ fun d hd => by
    obtain ⟨v, _, rfl⟩ := List.mem_map.mp hd
    exact v.2⟩

def record (fields : SortedMap String Value) : Value :=
  ⟨.record (fields.mapValues fun _ v => v.document).entries,
    .record _ (fields.mapValues fun _ v => v.document).ascending fun f hf => by
      obtain ⟨e, _, rfl⟩ := List.mem_map.mp hf
      exact e.2.2⟩

/-- A number of the range. -/
def number? (n : Number) : Option Value :=
  if h : n.isFinite = true then some ⟨.number n, .number n h⟩ else none

end Value

end Bindery
