import Bindery.Idl.Chain
import Bindery.Idl.Graph

/-! # Renaming interfaces

A rename table sends old identifiers to new ones.  `RenameTable.resolve` collapses its chains.  The
interfaces it names are first all taken out of the graph and then put back one after another, each
under its new identifier or merged into the interface that has it, so that two interfaces can change
places.  Last, every type reference follows. -/

namespace Bindery

/-- Old identifiers, without modules, and their new ones. -/
abbrev RenameTable := SortedMap String String

namespace RenameTable

/-- The last name that is met from a name on before one repeats. -/
def target (table : RenameTable) (name : String) : String :=
  ((chain id table.find? table.size name).getLast?).getD name

/-- The table with every chain collapsed to its end, and without entries that change nothing. -/
def resolve (table : RenameTable) : RenameTable :=
  (table.mapValues fun old _ => table.target old).filter fun old new => new != old

end RenameTable

/-- One interface on its way from one identifier to another. -/
structure Move where
  old : String
  new : String
  interface : Interface
  deriving DecidableEq

namespace Move

/-- The interface with its binding name settled: the new identifier if binding names move, and
otherwise the old one unless there is a binding name already. -/
def bound (m : Move) (bindingNames : Bool) : Interface :=
  if bindingNames then { m.interface with jsName := some m.new }
  else { m.interface with jsName := some (m.interface.jsName.getD m.old) }

/-- Puts the interface back under its new identifier, or merges it into the one that has it. -/
def attach (bindingNames : Bool) (g : Graph) (m : Move) : Graph :=
  if g.contains m.new then g.modify m.new fun i => i.merge (m.bound bindingNames)
  else g.add { m.bound bindingNames with id := m.new }

end Move

/-- What happened to a renamed interface. -/
inductive Renaming where
  | renamed (old new : String)
  | merged (old new : String)
  deriving DecidableEq

namespace Graph

/-- The interfaces that a resolved table moves, in order of their old identifiers. -/
def moves (g : Graph) (resolved : RenameTable) : List Move :=
  resolved.entries.filterMap fun (old, new) => (g.find? old).map fun i => ⟨old, new, i⟩

/-- The graph without the interfaces that move. -/
def detach (g : Graph) (moves : List Move) : Graph :=
  moves.foldl (fun g m => g.remove m.old) g

/-- Puts the moved interfaces back, and tells what becomes of each. -/
def attachAll (bindingNames : Bool) (g : Graph) : List Move → Graph × List Renaming
  | [] => (g, [])
  | m :: rest =>
    let outcome := if g.contains m.new then .merged m.old m.new else .renamed m.old m.new
    let (g, outcomes) := attachAll bindingNames (m.attach bindingNames g) rest
    (g, outcome :: outcomes)

/-- Renames interfaces and every reference to them, and tells what was renamed or merged. -/
def rename (g : Graph) (table : RenameTable) (bindingNames : Bool) : Graph × List Renaming :=
  let resolved := table.resolve
  let moves := g.moves resolved
  let (moved, outcomes) := attachAll bindingNames (g.detach moves) moves
  (moved.mapInterfaces (Interface.mapTypes (TypeName.rename resolved)), outcomes)

end Graph

/-- One round of renaming. -/
structure RenamePass where
  /-- Whether the JavaScript binding name moves to the new identifier too. -/
  bindingNames : Bool := false
  table : RenameTable := SortedMap.empty
  deriving DecidableEq

/-- Renames the interfaces of a graph by the table of a pass. -/
def RenamePass.apply (p : RenamePass) (g : Graph) : Graph × List Renaming :=
  g.rename p.table p.bindingNames

end Bindery
