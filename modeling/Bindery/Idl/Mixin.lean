import Bindery.Idl.Walk

/-! # Mixins

A class extends its primary parent only.  A secondary parent that two interfaces without a common
line declare cannot be implemented by one class for both, so it is a mixin: its members, and those
of its primary ancestors, are copied onto a base that all classes share.  `Graph.findings` goes
through the interfaces in order of identifiers and reports each such conflict, and `Graph.mixins`
collects the names. -/

namespace Bindery

/-! ### Lineages, each computed once -/

/-- The lineages asked for so far. -/
abbrev LineageMemo := SortedMap String (List String)

namespace LineageMemo

/-- The lineage of an identifier, from the memo if it was asked for before. -/
def query (memo : LineageMemo) (g : Graph) (id : String) : List String × LineageMemo :=
  match memo.find? id with
  | some names => (names, memo)
  | none => (g.lineage id, memo.insert id (g.lineage id))

def queryAll (g : Graph) : LineageMemo → List String → List (List String)
  | _, [] => []
  | memo, id :: rest =>
    let (names, memo) := memo.query g id
    names :: queryAll g memo rest

end LineageMemo

/-! ### Detection -/

/-- A reason for an interface to be a mixin. -/
inductive Finding where
  /-- Two interfaces declare it, and neither inherits it from the other. -/
  | shared (mixin first other : String)
  /-- It is a primary ancestor of such an interface. -/
  | ancestor (mixin descendant : String)
  deriving DecidableEq

/-- The interface that a finding is about. -/
def Finding.mixin : Finding → String
  | .shared mixin _ _ => mixin
  | .ancestor mixin _ => mixin

/-- The state of the search: for each secondary parent the first interface that declares it, and the
conflicts found. -/
structure Survey where
  memo : LineageMemo := SortedMap.empty
  first : SortedMap String String := SortedMap.empty
  findings : List Finding := []

namespace Survey

/-- Takes note of one secondary parent of an interface whose lineage is given. -/
def declare (g : Graph) (id : String) (lineage : List String) (s : Survey) (parent : TypeName) :
    Survey :=
  match s.first.find? parent with
  | none => { s with first := s.first.insert parent id }
  | some first =>
    if first = id ∨ first ∈ lineage ∨ parent ∈ lineage then s
    else
      let (names, memo) := s.memo.query g parent
      let ancestors := (names.filter g.contains).map fun a => Finding.ancestor a parent
      { s with memo, findings := s.findings ++ .shared parent first id :: ancestors }

/-- Takes note of all secondary parents of an interface. -/
def visit (g : Graph) (s : Survey) (id : String) : Survey :=
  match g.find? id with
  | none => s
  | some i =>
    let (lineage, memo) := s.memo.query g id
    (i.secondaryParents.map (·.type)).foldl (declare g id lineage) { s with memo }

end Survey

namespace Graph

/-- The conflicts among some interfaces, which are visited in ascending order of identifiers. -/
def findings (g : Graph) (ids : List String) : List Finding :=
  ((NameSet.ofNames ids).keys.foldl (Survey.visit g) {}).findings

/-- The mixins among some interfaces, together with those named by hand. -/
def mixins (g : Graph) (ids manual : List String) : NameSet :=
  NameSet.ofNames ((g.findings ids).map Finding.mixin ++ manual)

end Graph

/-- Capabilities of unrelated interfaces that no declaration shows to be shared. -/
def defaultManualMixins : List String :=
  ["ElementTimeControl", "ElementTraversal"]

/-! ### The mixin base -/

namespace Graph

/-- Adds an empty mixin base unless there is one. -/
def ensureBase (g : Graph) (base : String) : Graph :=
  if g.contains base then g else g.add { id := base }

/-- The mixins other than the base that are in the graph. -/
def mixinInterfaces (g : Graph) (base : String) (mixins : NameSet) : List Interface :=
  (mixins.keys.filter (· != base)).filterMap g.find?

/-- Copies the attributes, operations, annotations and extended attributes of the mixins onto the
mixin base, which must be there. -/
def populateBase (g : Graph) (base : String) (mixins : NameSet) : Except GraphError Graph :=
  let sources := g.mixinInterfaces base mixins
  if g.contains base then
    .ok (g.modify base fun b =>
      { b with
        attributes := b.attributes ++ sources.flatMap (·.attributes)
        operations := b.operations ++ sources.flatMap (·.operations)
        annotations := b.annotations.insertAll (sources.flatMap (·.annotations.entries))
        extensions := b.extensions.insertAll (sources.flatMap (·.extensions.entries)) })
  else .error (.notFound base)

end Graph

end Bindery
