import Bindery.Idl.Interface

/-! # The interface graph

A `Graph` holds interfaces by identifier, in ascending order.  Its edges are the parents of its
interfaces.  `Graph.ofInterfaces` builds a graph from a list in which no identifier may occur twice.
-/

namespace Bindery

/-- Interfaces by identifier. -/
structure Graph where
  /-- The interfaces in order of their identifiers. -/
  table : SortedMap String Interface
  deriving DecidableEq

/-- Why an interface is not found or not accepted. -/
inductive GraphError where
  | notFound (id : String)
  | duplicate (id : String)
  deriving DecidableEq

namespace Graph

def empty : Graph := ⟨SortedMap.empty⟩

instance : Inhabited Graph := ⟨empty⟩

def find? (g : Graph) (id : String) : Option Interface :=
  g.table.find? id

def contains (g : Graph) (id : String) : Bool :=
  g.table.contains id

/-- The interface of an identifier, which must be there. -/
def require (g : Graph) (id : String) : Except GraphError Interface :=
  match g.find? id with
  | some i => .ok i
  | none => .error (.notFound id)

/-- The identifiers in ascending order. -/
def ids (g : Graph) : List String :=
  g.table.keys

/-- The interfaces in order of their identifiers. -/
def interfaces (g : Graph) : List Interface :=
  g.table.values

def size (g : Graph) : Nat :=
  g.table.size

/-- Puts an interface under its identifier, over one that is there. -/
def add (g : Graph) (i : Interface) : Graph :=
  ⟨g.table.insert i.id i⟩

/-- Takes the interface of an identifier out. -/
def remove (g : Graph) (id : String) : Graph :=
  ⟨g.table.erase id⟩

/-- Changes the interface of an identifier in place. -/
def modify (g : Graph) (id : String) (f : Interface → Interface) : Graph :=
  ⟨g.table.modify id f⟩

/-- Changes every interface in place. -/
def mapInterfaces (g : Graph) (f : Interface → Interface) : Graph :=
  ⟨g.table.mapValues fun _ i => f i⟩

/-- Adds interfaces one after another; the first identifier that is already taken is an error. -/
def addNew (g : Graph) : List Interface → Except GraphError Graph
  | [] => .ok g
  | i :: rest => if g.contains i.id then .error (.duplicate i.id) else (g.add i).addNew rest

/-- The graph of some interfaces with distinct identifiers. -/
def ofInterfaces (interfaces : List Interface) : Except GraphError Graph :=
  empty.addNew interfaces

/-- Every interface is stored under its own identifier. -/
def Keyed (g : Graph) : Prop :=
  ∀ id i, g.find? id = some i → i.id = id

end Graph

end Bindery
