import Bindery.Emit.Call
import Bindery.Member.Overload

/-! # The calls for an interface

Own members come first, marked where an ancestor has them.  Then the secondary ancestors contribute
what is missing: an attribute comes from the first of them that declares its name, and an overload
from the first that has its name and parameter types.  Names that the interface declares itself are
left to it. -/

namespace Bindery

/-! ### Own members -/

/-- The interfaces whose members count as inherited: the primary ancestors, and the mixin base with
its own. -/
def Graph.inheritedFrom (g : Graph) (base : String) (i : Interface) : List Interface :=
  let shared := match g.find? base with
    | some b => if i.id = base then [] else b :: g.primaryAncestors b
    | none => []
  g.primaryAncestors i ++ shared

/-- The constants in ascending order of names. -/
def Interface.sortedConstants (i : Interface) : List Constant :=
  i.constants.mergeSort fun a b => decide (a.id ≤ b.id)

def ownOperationCall (set : OverloadSet) : Call :=
  if set.isStatic then .staticOperation set set.isInherited else .operation set set.isInherited

/-- The calls for the members that an interface declares. -/
def Setting.ownCalls (s : Setting) (i : Interface) : List Call :=
  let ancestors := s.graph.inheritedFrom s.config.mixinBase i
  let signatures := ancestors.flatMap fun a => a.operations.map Operation.signature
  let keys := ancestors.flatMap fun a => a.attributes.flatMap Attribute.accessorKeys
  i.sortedConstants.map .constant ++
    (AccessorPair.ofAttributes i.attributes).map (fun p => .accessors (p.markInherited keys)) ++
    i.elementType?.toList.map .indexer ++
    (ownOverloads i.operations signatures).map ownOperationCall

/-! ### Members of secondary ancestors -/

/-- What secondary ancestors have contributed so far. -/
structure Contributed where
  /-- The names of attributes. -/
  attributes : List String := []
  /-- The signatures of operations. -/
  signatures : List String := []
  /-- The keys of overloads. -/
  overloads : List String := []

/-- The attributes of an owner that neither the interface nor an earlier owner declares. -/
def missingAttributes (i owner : Interface) (c : Contributed) : List Attribute :=
  owner.attributes.filter fun a => !i.hasAttribute a.id && !c.attributes.contains a.id

/-- The operations of an owner that are neither declared by the interface nor had by every
object. -/
def missingOperations (i owner : Interface) : List Operation :=
  owner.operations.filter fun o => !i.hasOperation o.id && !o.isHost

/-- Operations by name, in ascending order of names. -/
def operationGroups (operations : List Operation) : List (List Operation) :=
  (NameSet.ofNames (operations.map (·.id))).keys.map fun id => operations.filter (·.id = id)

/-- The overload sets of groups of operations, each without the overloads that came before, and the
keys of all overloads then. -/
def newOverloadSets (seen : List String) : List (List Operation) → List OverloadSet × List String
  | [] => ([], seen)
  | group :: rest =>
    match OverloadSet.ofOperations? [] group with
    | none => newOverloadSets seen rest
    | some set =>
      let key := fun (o : Overload) => overloadKey set.name o.params
      let fresh := distinctFrom key seen set.overloads
      let (sets, keys) := newOverloadSets (seen ++ set.overloads.map key) rest
      if fresh.isEmpty then (sets, keys) else ({ set with overloads := fresh } :: sets, keys)

/-- The calls for what an owner contributes to an interface, and what is contributed then. -/
def ownerCalls (i owner : Interface) (c : Contributed) : List Call × Contributed :=
  let pairs := AccessorPair.ofAttributes (missingAttributes i owner c)
  let operations := missingOperations i owner
  let fresh := distinctFrom Operation.signature c.signatures operations
  let (sets, keys) := newOverloadSets c.overloads (operationGroups fresh)
  (pairs.map (.secondaryAccessors owner) ++ sets.map (.secondaryOperation owner),
    { attributes := c.attributes ++ owner.attributes.map (·.id)
      signatures := c.signatures ++ operations.map Operation.signature
      overloads := keys })

/-- The calls for what owners contribute to an interface, one after another. -/
def contributionCalls (i : Interface) (c : Contributed) : List Interface → List Call
  | [] => []
  | owner :: rest =>
    let (calls, c) := ownerCalls i owner c
    calls ++ contributionCalls i c rest

/-- The interfaces among the secondary ancestors of an interface. -/
def Graph.owners (g : Graph) (i : Interface) : List Interface :=
  (g.secondaryAncestors i.id).filterMap Graph.Ancestor.interface?

/-- The calls for the members that an interface gets from its secondary ancestors. -/
def Setting.secondaryCalls (s : Setting) (i : Interface) : List Call :=
  contributionCalls i {} (s.graph.owners i)

/-! ### All calls -/

def Setting.interfaceCalls (s : Setting) (i : Interface) : List Call :=
  .start :: (s.ownCalls i ++ s.secondaryCalls i ++ [.finish])

/-- The names of what an interface implements besides its own contract: the secondary ancestors that
pass the source filter, or the mixins of the graph for the mixin base. -/
def Setting.implemented (s : Setting) (i : Interface) : List String :=
  if i.id = s.config.mixinBase then
    s.mixins.keys.filter fun id => id != s.config.mixinBase && s.graph.contains id
  else
    let kept := (s.graph.secondaryAncestors i.id).filter fun a =>
      match a with
      | .interface owner => s.config.matchesSource owner.annotations
      | .container _ => true
    distinct (kept.map Graph.Ancestor.name)

def Setting.context (s : Setting) (i : Interface) : Context :=
  ⟨i, s.implemented i⟩

end Bindery
