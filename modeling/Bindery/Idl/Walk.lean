import Bindery.Idl.Chain
import Bindery.Idl.Graph

/-! # Walks over parents

A database may hold cycles, so every walk keeps what it has seen.  `Graph.ancestorFirst` orders
interfaces behind everything they inherit from, `Graph.primaryAncestors` follows first parents,
`Graph.lineage` does so on names and goes one name beyond the graph, and `Graph.secondaryAncestors`
lists what is reached through the other parents. -/

namespace Bindery

namespace Graph

/-! ### Ancestors first -/

/-- The parents of an interface that are interfaces of the graph and no containers. -/
def edges (g : Graph) (i : Interface) : List String :=
  (i.parents.map (·.type)).filter fun t => !TypeName.isContainer t && g.contains t

/-- What a walk has seen, and what it has finished, in order. -/
structure Visited where
  seen : List String := []
  order : List String := []

/-- Visits an identifier: first its parents, then itself. -/
def visit (g : Graph) : Nat → Visited → String → Visited
  | 0, v, _ => v
  | fuel + 1, v, id =>
    if v.seen.contains id then v
    else
      match g.find? id with
      | none => { v with seen := id :: v.seen }
      | some i =>
        let v := (g.edges i).foldl (fun v p => visit g fuel v p) { v with seen := id :: v.seen }
        { v with order := v.order ++ [id] }

/-- The interfaces reached from some identifiers, each behind everything it inherits from unless
the two lie on a cycle.  Identifiers outside the graph are passed over. -/
def ancestorFirst (g : Graph) (ids : List String) : List String :=
  ((ids.filter g.contains).foldl (fun v id => g.visit g.size v id) {}).order

/-! ### The primary chain -/

/-- The interface that the primary parent of an interface names. -/
def primaryStep? (g : Graph) (i : Interface) : Option Interface :=
  match i.primaryParent? with
  | none => none
  | some p => g.find? p.type

/-- The interfaces along the primary chain, nearest first. -/
def primaryAncestors (g : Graph) (i : Interface) : List Interface :=
  chain Interface.id g.primaryStep? g.size i

/-- The name of the primary parent of the interface with a name. -/
def primaryName? (g : Graph) (name : String) : Option String :=
  match g.find? name with
  | none => none
  | some i => i.primaryParent?.map (·.type)

/-- The names along the primary chain of an identifier; a name outside the graph ends the chain and
belongs to it. -/
def lineage (g : Graph) (id : String) : List String :=
  chain (fun name => name) g.primaryName? g.size id

/-! ### Secondary ancestors -/

/-- What is reached through secondary parents: an interface, or a container. -/
inductive Ancestor where
  | interface (i : Interface)
  | container (name : TypeName)
  deriving DecidableEq

namespace Ancestor

def name : Ancestor → String
  | .interface i => i.id
  | .container name => name

def interface? : Ancestor → Option Interface
  | .interface i => some i
  | .container _ => none

end Ancestor

/-- The names a walk has seen, and the ancestors it has met, in order. -/
structure Reached where
  seen : List String := []
  ancestors : List Ancestor := []

/-- Follows one parent: a container is met and not followed, an interface is met and followed
through all its parents. -/
def reach (g : Graph) : Nat → Reached → TypeName → Reached
  | 0, r, _ => r
  | fuel + 1, r, name =>
    if TypeName.isContainer name then
      if r.seen.contains name then r
      else ⟨name :: r.seen, r.ancestors ++ [.container name]⟩
    else
      match g.find? name with
      | none => r
      | some i =>
        if r.seen.contains i.id then r
        else
          (i.parents.map (·.type)).foldl (fun r t => reach g fuel r t)
            ⟨i.id :: r.seen, r.ancestors ++ [.interface i]⟩

/-- Everything that the interface of an identifier reaches through its secondary parents. -/
def secondaryAncestors (g : Graph) (id : String) : List Ancestor :=
  match g.find? id with
  | none => []
  | some i =>
    ((i.secondaryParents.map (·.type)).foldl (fun r t => g.reach (g.size + 1) r t)
      ⟨[i.id], []⟩).ancestors

end Graph

/-- The exceptions that some interfaces raise. -/
def raisedTypes (interfaces : List Interface) : NameSet :=
  NameSet.ofNames (interfaces.flatMap Interface.raisedTypes)

end Bindery
