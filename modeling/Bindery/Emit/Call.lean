import Bindery.Config
import Bindery.Idl.Mixin
import Bindery.Java.Types
import Bindery.Member.Accessor

/-! # Calls

Every backend is driven through the same calls.  For an interface these are a start, its constants,
accessors, indexer and operations, then what it gets from its secondary ancestors, and an end; a
callback is one call.  A `Context` says which interface a call is about, and a `Setting` what holds
for the whole run. -/

namespace Bindery

/-- What holds for a whole run. -/
structure Setting where
  /-- The graph in the state from which units are generated. -/
  graph : Graph
  mixins : NameSet
  config : Config

namespace Setting

def types (s : Setting) : Java.TypeMap :=
  ⟨s.graph, s.config.basePackage, s.config.defaultModule⟩

/-- The qualified name of the overlay class of the mixin base. -/
def baseClass (s : Setting) : String :=
  (s.types.map s.config.mixinBase .overlayReturn).imported.getD
    (Java.overlayName s.config.mixinBase)

end Setting

/-- The interface that a call is about. -/
structure Context where
  interface : Interface
  /-- The names of the secondary ancestors that are generated; for the mixin base those of all
  mixins. -/
  implemented : List String
  deriving DecidableEq

namespace Context

def isBase (ctx : Context) (s : Setting) : Bool :=
  ctx.interface.id = s.config.mixinBase

/-- The primary parent, if it is an interface of the graph. -/
def primaryInterface? (ctx : Context) (s : Setting) : Option Interface :=
  match ctx.interface.primaryParent? with
  | none => none
  | some p => if TypeName.isContainer p.type then none else s.graph.find? p.type

end Context

inductive Call where
  | start
  | constant (constant : Constant)
  | accessors (pair : AccessorPair)
  | indexer (element : TypeName)
  | operation (set : OverloadSet) (inherited : Bool)
  | staticOperation (set : OverloadSet) (inherited : Bool)
  /-- Accessors of a secondary ancestor. -/
  | secondaryAccessors (owner : Interface) (pair : AccessorPair)
  /-- An operation of a secondary ancestor. -/
  | secondaryOperation (owner : Interface) (set : OverloadSet)
  | finish
  | callback (callback : Callback)
  deriving DecidableEq

def Call.isCallback : Call → Bool
  | .callback _ => true
  | _ => false

/-- What the backends are told in the course of a run. -/
inductive Signal where
  /-- The mixins are known, and no interface was visited yet. -/
  | prepare
  | visit (ctx : Context) (call : Call)
  /-- All interfaces were visited. -/
  | close
  deriving DecidableEq

end Bindery
