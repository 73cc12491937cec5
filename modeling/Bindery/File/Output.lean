import Bindery.Error
import Bindery.File.Tree

/-! # Output

Generated text is collected in an `Output`, one unit per path, and written at the end.  Two
spellings of one path are one unit, which keeps the spelling that came first. -/

namespace Bindery

/-- A text on its way to a path. -/
structure Emission where
  path : Path
  text : String
  deriving DecidableEq

/-- Texts by path. -/
structure Output where
  /-- The units in order of their paths, each with its path as first spelled. -/
  units : SortedMap (List Component) Emission := SortedMap.empty

namespace Output

def append (o : Output) (e : Emission) : Output :=
  match o.units.find? e.path.components with
  | some unit => ⟨o.units.insert e.path.components { unit with text := unit.text ++ e.text }⟩
  | none => ⟨o.units.insert e.path.components e⟩

/-- Collects texts in order. -/
def ofEmissions (emissions : List Emission) : Output :=
  emissions.foldl append {}

def text? (o : Output) (p : Path) : Option String :=
  (o.units.find? p.components).map (·.text)

def size (o : Output) : Nat :=
  o.units.size

/-- Writes units one after another up to the first that cannot be written, and tells the paths that
were written. -/
def writeAll (t : FileTree) (root : Path) : List Emission → FileTree × Except Error (List Path)
  | [] => (t, .ok [])
  | unit :: rest =>
    let path := root.join unit.path
    let put := t.put path unit.text
    if put.2 then
      let others := writeAll put.1 root rest
      (others.1, others.2.map (path :: ·))
    else (put.1, .error (.file path.text))

/-- Writes every unit below a directory. -/
def flush (o : Output) (t : FileTree) (root : Path) : FileTree × Except Error (List Path) :=
  writeAll t root o.units.values

end Output

end Bindery
