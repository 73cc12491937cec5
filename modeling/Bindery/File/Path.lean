/-! # Paths

A `Path` is kept as it was spelled.  Two paths are the same place when their components agree:
empty components and inner `.` do not count, and a leading `.` does.  Paths are ordered component
by component. -/

namespace Bindery

inductive Component where
  | root
  | current
  | parent
  | name (text : String)
  deriving DecidableEq

namespace Component

/-- Roots come first, then `.`, then `..`, then names. -/
def rank : Component → Nat
  | .root => 0
  | .current => 1
  | .parent => 2
  | .name _ => 3

def label : Component → String
  | .name text => text
  | _ => ""

/-- Whether a name is short enough for a file: it has at most 255 bytes. -/
def fits (c : Component) : Bool :=
  c.label.utf8ByteSize ≤ 255

instance : Ord Component := ⟨compareLex (compareOn rank) (compareOn label)⟩

theorem eq_of_rank_label {a b : Component} (hr : a.rank = b.rank) (hl : a.label = b.label) :
    a = b := by
  cases a <;> cases b <;> simp_all [rank, label]

instance : Std.TransOrd Component :=
  inferInstanceAs (Std.TransCmp (compareLex (compareOn rank) (compareOn label)))

instance : Std.LawfulEqOrd Component where
  eq_of_compare {a b} h := by
    have h : compareLex (compareOn rank) (compareOn label) a b = .eq := h
    rw [compareLex_eq_eq] at h
    exact eq_of_rank_label (Std.LawfulEqCmp.eq_of_compare h.1) (Std.LawfulEqCmp.eq_of_compare h.2)

end Component

/-- A path as it was spelled. -/
structure Path where
  text : String
  deriving DecidableEq

namespace Path

/-- The pieces of a list between separators. -/
def pieces (separator : Char) : List Char → List (List Char)
  | [] => [[]]
  | c :: rest =>
    if c = separator then [] :: pieces separator rest
    else
      match pieces separator rest with
      | [] => [[c]]
      | piece :: others => (c :: piece) :: others

/-- The component that a piece between slashes is, if it counts. -/
def component? (piece : List Char) : Option Component :=
  match piece with
  | [] => none
  | ['.'] => none
  | ['.', '.'] => some .parent
  | cs => some (.name (String.ofList cs))

def components (p : Path) : List Component :=
  match p.text.toList with
  | '/' :: rest => .root :: (pieces '/' rest).filterMap component?
  | cs =>
    match pieces '/' cs with
    | ['.'] :: others => .current :: others.filterMap component?
    | all => all.filterMap component?

/-- Whether a path starts at the root. -/
def isAbsolute (p : Path) : Bool :=
  p.text.toList.head? = some '/'

/-- Whether a path can name a file at all: it has less than 4096 bytes, and no null character. -/
def isUsable (p : Path) : Bool :=
  p.text.utf8ByteSize < 4096 && !p.text.toList.contains '\x00'

/-- A path below another one; an absolute path stands for itself. -/
def join (p q : Path) : Path :=
  if q.isAbsolute ∨ p.text = "" then q
  else if p.text.toList.getLast? = some '/' then ⟨p.text ++ q.text⟩
  else ⟨p.text ++ "/" ++ q.text⟩

/-- The directory that a path is spelled in. -/
def directory (p : Path) : Path :=
  let cs := p.text.toList.reverse.dropWhile (· = '/')
  ⟨String.ofList ((cs.dropWhile (· ≠ '/')).dropWhile (· = '/')).reverse⟩

/-- The last name of a path, if it ends with one. -/
def fileName? (p : Path) : Option String :=
  match p.components.getLast? with
  | some (.name text) => some text
  | _ => none

/-- A file name as what stands before and behind its last dot.  A dot at the start divides
nothing. -/
def splitName (name : String) : String × Option String :=
  let reversed := name.toList.reverse
  let extension := reversed.takeWhile (· ≠ '.')
  match reversed.dropWhile (· ≠ '.') with
  | [] => (name, none)
  | _ :: [] => (name, none)
  | _ :: stem => (String.ofList stem.reverse, some (String.ofList extension.reverse))

/-- The last name without its extension. -/
def stem? (p : Path) : Option String :=
  p.fileName?.map fun name => (splitName name).1

/-- What stands behind the last dot of the last name. -/
def extension? (p : Path) : Option String :=
  p.fileName?.bind fun name => (splitName name).2

end Path

end Bindery
