import Bindery.Idl.Graph

/-! # Filtering by annotations

An `AnnotationFilter` keeps an interface, parent or member that none of the excluding annotations
marks as displaced or suppressed, and that carries one of the sufficient annotations or, if there
are any, all of the necessary ones.  What is left may mention types that are gone:
`Graph.prune` drops the members that do, and says which type was not found. -/

namespace Bindery

/-! ### Members of unidentified type -/

/-- A member that was dropped because a type it mentions is neither primitive nor in the graph. -/
structure Unidentified where
  interface : String
  member : String
  /-- The first of the types that does not resolve. -/
  typeName : TypeName
  deriving DecidableEq

/-- The first type that does not resolve. -/
def unresolved? (known : String → Bool) (types : List TypeName) : Option TypeName :=
  types.find? fun t => !TypeName.isResolvable known t

/-- The members all of whose types resolve. -/
def resolving {α : Type} (known : String → Bool) (types : α → List TypeName) (members : List α) :
    List α :=
  members.filter fun m => (unresolved? known (types m)).isNone

/-- The members of which some type does not resolve. -/
def unidentified {α : Type} (known : String → Bool) (interface : String) (name : α → String)
    (types : α → List TypeName) (members : List α) : List Unidentified :=
  members.filterMap fun m => (unresolved? known (types m)).map fun t => ⟨interface, name m, t⟩

namespace Interface

def constructorTypes (i : Interface) : List TypeName :=
  (i.constructorArguments.getD []).map (·.type)

/-- Drops the members, parents and the constructor that mention a type which does not resolve. -/
def prune (known : String → Bool) (i : Interface) : Interface :=
  { i with
    constants := resolving known (fun c => [c.type]) i.constants
    attributes := resolving known Attribute.types i.attributes
    operations := resolving known Operation.types i.operations
    parents := resolving known (fun p => [p.type]) i.parents
    constructorArguments :=
      if (unresolved? known i.constructorTypes).isNone then i.constructorArguments else none }

/-- What `prune` drops: constants, attributes, operations, parents, and the constructor. -/
def pruned (known : String → Bool) (i : Interface) : List Unidentified :=
  unidentified known i.id Constant.id (fun c => [c.type]) i.constants ++
  unidentified known i.id Attribute.id Attribute.types i.attributes ++
  unidentified known i.id Operation.id Operation.types i.operations ++
  unidentified known i.id (fun _ => "parent") (fun p => [p.type]) i.parents ++
  unidentified known i.id (fun _ => "constructor") (fun _ => i.constructorTypes) [()]

end Interface

namespace Graph

/-- Drops every member that mentions a type which does not resolve against the graph. -/
def prune (g : Graph) : Graph :=
  g.mapInterfaces (Interface.prune g.contains)

/-- What `prune` drops, in order of interfaces. -/
def pruned (g : Graph) : List Unidentified :=
  g.interfaces.flatMap (Interface.pruned g.contains)

end Graph

/-! ### Annotations -/

/-- The four lists of annotations by which a filter decides. -/
structure AnnotationFilter where
  /-- All of these are necessary, unless one of `requireAny` is there. -/
  requireAll : List String := []
  /-- Each of these is sufficient. -/
  requireAny : List String := []
  /-- What one of these marks as displaced is dropped. -/
  excludeDisplaced : List String := []
  /-- What one of these marks as suppressed is dropped. -/
  excludeSuppressed : List String := []
  deriving DecidableEq

/-- What a filter removed. -/
structure FilterReport where
  removedInterfaces : List String := []
  /-- The number of members and parents that went although their interface stayed. -/
  removedMembers : Nat := 0
  unidentified : List Unidentified := []
  deriving DecidableEq

namespace AnnotationFilter

/-- Whether something with these annotations stays. -/
def keeps (f : AnnotationFilter) (annotations : Annotations) : Bool :=
  if f.excludeDisplaced.any fun a => (annotations.find? a).any Annotation.isDisplaced then false
  else if f.excludeSuppressed.any fun a => (annotations.find? a).any Annotation.isSuppressed then
    false
  else if f.requireAny.any annotations.contains then true
  else if f.requireAll.isEmpty then false
  else f.requireAll.all annotations.contains

/-- Drops the parents and members that do not stay. -/
def keepMembers (f : AnnotationFilter) (i : Interface) : Interface :=
  { i with
    constants := i.constants.filter fun c => f.keeps c.annotations
    attributes := i.attributes.filter fun a => f.keeps a.annotations
    operations := i.operations.filter fun o => f.keeps o.annotations
    parents := i.parents.filter fun p => f.keeps p.annotations }

def memberCount (i : Interface) : Nat :=
  i.constants.length + i.attributes.length + i.operations.length + i.parents.length

/-- The interfaces that stay, each with the members that stay. -/
def keepInterfaces (f : AnnotationFilter) (g : Graph) : Graph :=
  Graph.mapInterfaces ⟨g.table.filter fun _ i => f.keeps i.annotations⟩ f.keepMembers

/-- Filters a graph, then drops the members of unidentified type. -/
def apply (f : AnnotationFilter) (g : Graph) : Graph :=
  (f.keepInterfaces g).prune

/-- What `apply` removes. -/
def report (f : AnnotationFilter) (g : Graph) : FilterReport :=
  let kept := g.interfaces.filter fun i => f.keeps i.annotations
  { removedInterfaces := (g.table.filter fun _ i => !f.keeps i.annotations).keys
    removedMembers :=
      kept.foldl (fun n i => n + (memberCount i - memberCount (f.keepMembers i))) 0
    unidentified := (f.keepInterfaces g).pruned }

end AnnotationFilter

end Bindery
