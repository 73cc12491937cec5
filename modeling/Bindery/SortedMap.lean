/-! # Maps and sets in key order

A `SortedMap κ α` is a list of entries whose keys strictly ascend, so the order in which a
map is walked or written belongs to its type, and two maps with the same entries are equal.
`insert` overwrites, `modify` changes a present entry in place, and `ofList` lets the last
of several entries for one key win.  `NameSet` is the set of names built on it. -/

namespace Bindery

universe u v w

variable {κ : Type u} {α : Type v} {β : Type w}

/-! ### Entry lists -/

namespace Entries

variable [Ord κ]

/-- Keys strictly ascend from left to right. -/
def Ascending (entries : List (κ × α)) : Prop :=
  entries.Pairwise fun a b => compare a.1 b.1 = .lt

def find? (key : κ) : List (κ × α) → Option α
  | [] => none
  | (k, a) :: rest => if compare key k = .eq then some a else find? key rest

/-- Puts a value under a key at its place, over the one that is there. -/
def insert (key : κ) (value : α) : List (κ × α) → List (κ × α)
  | [] => [(key, value)]
  | (k, a) :: rest =>
    match compare key k with
    | .lt => (key, value) :: (k, a) :: rest
    | .eq => (key, value) :: rest
    | .gt => (k, a) :: insert key value rest

theorem mem_insert {key : κ} {value : α} {entry : κ × α} {entries : List (κ × α)}
    (h : entry ∈ insert key value entries) : entry = (key, value) ∨ entry ∈ entries := by
  induction entries with
  | nil => simpa [insert] using h
  | cons head rest ih =>
    obtain ⟨k, a⟩ := head
    rw [insert] at h
    split at h
    · simpa using h
    · rcases List.mem_cons.mp h with h | h
      · exact .inl h
      · exact .inr (List.mem_cons_of_mem _ h)
    · rcases List.mem_cons.mp h with h | h
      · exact .inr (by simp [h])
      · rcases ih h with h | h
        · exact .inl h
        · exact .inr (List.mem_cons_of_mem _ h)

theorem Ascending.insert [Std.TransOrd κ] [Std.LawfulEqOrd κ] {entries : List (κ × α)}
    (h : Ascending entries) (key : κ) (value : α) : Ascending (insert key value entries) := by
  induction entries with
  | nil => simp [Ascending, Entries.insert]
  | cons head rest ih =>
    obtain ⟨k, a⟩ := head
    have hhead : ∀ {b}, b ∈ rest → compare k b.1 = .lt := fun hb => List.rel_of_pairwise_cons h hb
    have htail : Ascending rest := h.of_cons
    rw [Ascending, Entries.insert]
    split
    case h_1 hlt =>
      refine h.cons fun b hb => ?_
      rcases List.mem_cons.mp hb with rfl | hb
      · exact hlt
      · exact Std.TransCmp.lt_trans hlt (hhead hb)
    case h_2 heq =>
      obtain rfl := Std.LawfulEqCmp.eq_of_compare heq
      exact htail.cons fun b hb => hhead hb
    case h_3 hgt =>
      refine (ih htail).cons fun b hb => ?_
      rcases mem_insert hb with rfl | hb
      · exact Std.OrientedCmp.lt_of_gt hgt
      · exact hhead hb

end Entries

/-! ### Maps -/

/-- A finite map whose entries stand in ascending order of their keys. -/
structure SortedMap (κ : Type u) (α : Type v) [Ord κ] where
  /-- The entries, least key first. -/
  entries : List (κ × α)
  /-- The keys ascend. -/
  ascending : Entries.Ascending entries

namespace SortedMap

variable [Ord κ]

theorem ext_entries {m n : SortedMap κ α} (h : m.entries = n.entries) : m = n := by
  cases m; cases n; cases h; rfl

instance [DecidableEq κ] [DecidableEq α] : DecidableEq (SortedMap κ α) := fun m n =>
  if h : m.entries = n.entries then isTrue (ext_entries h)
  else isFalse fun e => h (congrArg entries e)

def empty : SortedMap κ α := ⟨[], .nil⟩

instance : EmptyCollection (SortedMap κ α) := ⟨empty⟩

instance : Inhabited (SortedMap κ α) := ⟨empty⟩

def find? (m : SortedMap κ α) (key : κ) : Option α :=
  Entries.find? key m.entries

def contains (m : SortedMap κ α) (key : κ) : Bool :=
  (m.find? key).isSome

/-- The keys in ascending order. -/
def keys (m : SortedMap κ α) : List κ :=
  m.entries.map (·.1)

/-- The values in the order of their keys. -/
def values (m : SortedMap κ α) : List α :=
  m.entries.map (·.2)

def size (m : SortedMap κ α) : Nat :=
  m.entries.length

def isEmpty (m : SortedMap κ α) : Bool :=
  m.entries.isEmpty

/-- Drops the entries that fail a test. -/
def filter (p : κ → α → Bool) (m : SortedMap κ α) : SortedMap κ α :=
  ⟨m.entries.filter fun e => p e.1 e.2, m.ascending.filter _⟩

def erase (m : SortedMap κ α) (key : κ) : SortedMap κ α :=
  m.filter fun k _ => compare key k != .eq

/-- Changes every value, each together with its key. -/
def mapValues (f : κ → α → β) (m : SortedMap κ α) : SortedMap κ β :=
  ⟨m.entries.map fun e => (e.1, f e.1 e.2),
    List.pairwise_map.mpr (m.ascending.imp fun h => h)⟩

/-- Changes the value under one key, if there is one. -/
def modify (m : SortedMap κ α) (key : κ) (f : α → α) : SortedMap κ α :=
  m.mapValues fun k a => if compare key k = .eq then f a else a

variable [Std.TransOrd κ] [Std.LawfulEqOrd κ]

/-- Puts a value under a key, over the one that is there. -/
def insert (m : SortedMap κ α) (key : κ) (value : α) : SortedMap κ α :=
  ⟨Entries.insert key value m.entries, m.ascending.insert key value⟩

/-- Puts the entries of a list one after another, so that the last one for a key stays. -/
def insertAll (m : SortedMap κ α) (entries : List (κ × α)) : SortedMap κ α :=
  entries.foldl (fun m e => m.insert e.1 e.2) m

/-- The map of a list of entries, in which the last one for a key stays. -/
def ofList (entries : List (κ × α)) : SortedMap κ α :=
  empty.insertAll entries

end SortedMap

/-! ### Sets of names -/

/-- A set of names, walked in ascending order. -/
abbrev NameSet := SortedMap String Unit

namespace NameSet

def add (s : NameSet) (name : String) : NameSet :=
  SortedMap.insert s name ()

def ofNames (names : List String) : NameSet :=
  names.foldl add SortedMap.empty

end NameSet

end Bindery
