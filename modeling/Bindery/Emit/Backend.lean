import Bindery.Emit.Call
import Bindery.Unit.Render

/-! # Backends

A backend keeps the unit of the interface that was started and not yet finished.  A contract extends
its secondary parents, so it never repeats inherited members; an overlay class cannot, so it takes
over the members of its secondary ancestors, except those of mixins, which the mixin base has. -/

namespace Bindery

namespace Backend

/-- Whether a backend generates anything for an interface.  The mixin base has no contract. -/
def accepts (b : Backend) (s : Setting) (ctx : Context) : Bool :=
  match b with
  | .contract => !ctx.isBase s
  | .overlay => true

def receives (b : Backend) (s : Setting) (ctx : Context) (call : Call) : Bool :=
  call.isCallback || b.accepts s ctx

/-! ### Units -/

/-- The supertypes of a contract: its primary parent, if that is a container or an interface of the
graph, and its secondary ancestors. -/
def contractSupertypes (s : Setting) (ctx : Context) : List TypeName :=
  let primary := (ctx.interface.primaryParent?.map (·.type)).filter fun t =>
    s.graph.contains t || TypeName.isContainer t
  primary.toList ++ ctx.implemented

/-- The interface whose overlay class an overlay class extends: its primary parent, or the mixin
base. -/
def overlaySuperclass (s : Setting) (ctx : Context) : Option TypeName :=
  if ctx.isBase s then none
  else
    match ctx.primaryInterface? s with
    | some parent => some parent.id
    | none => some s.config.mixinBase

/-- What an overlay class implements: its own contract, and its secondary ancestors. -/
def overlayImplemented (s : Setting) (ctx : Context) : List TypeName :=
  if ctx.isBase s then ctx.implemented else ctx.interface.id :: ctx.implemented

/-- The unit of an interface, without members. -/
def opened (b : Backend) (s : Setting) (ctx : Context) : CompilationUnit :=
  let module := s.types.moduleOf ctx.interface
  match b with
  | .contract =>
    { subject := ctx.interface.id
      name := ctx.interface.id
      package := s.types.contractPackage module
      header := .contract (contractSupertypes s ctx) }
  | .overlay =>
    { subject := ctx.interface.id
      name := Java.overlayName ctx.interface.id
      package := s.types.overlayPackage module
      header := .overlay (overlaySuperclass s ctx) (overlayImplemented s ctx) }

def callbackUnit (s : Setting) (ctx : Context) (c : Callback) : CompilationUnit :=
  { subject := c.interface
    name := c.interface
    package := s.types.contractPackage (s.types.moduleOf ctx.interface)
    header := .callback
    members := [.methods c.operation .this] }

/-! ### Members -/

def accessorMembers (getter setter : Option Attribute) : List Member :=
  getter.toList.map .getter ++ setter.toList.map .setter

/-- The members of the accessors that no ancestor has. -/
def ownAccessors (pair : AccessorPair) : List Member :=
  accessorMembers (pair.getter.filter fun _ => !pair.inheritedGetter)
    (pair.setter.filter fun _ => !pair.inheritedSetter)

/-- The overloads that no ancestor has. -/
def ownOverloadSet (set : OverloadSet) : OverloadSet :=
  { set with overloads := set.overloads.filter fun o => !o.inherited }

/-- A list that has items. -/
def nonempty? {α : Type} : List α → Option (List α)
  | [] => none
  | items => some items

/-- The members that a contract gets by a call, if it is concerned. -/
def contractMembers? : Call → Option (List Member)
  | .constant c => some [.constant c]
  | .accessors pair => some (ownAccessors pair)
  | .indexer element => some [.indexer element]
  | .operation set inherited =>
    if inherited then none else some [.methods (ownOverloadSet set) .this]
  | _ => none

/-- The members that an overlay class gets by a call, if it is concerned. -/
def overlayMembers? (s : Setting) (ctx : Context) : Call → Option (List Member)
  | .accessors pair => nonempty? (ownAccessors pair)
  | .indexer element => some [.indexer element]
  | .operation set inherited =>
    if inherited then none else some [.methods (ownOverloadSet set) .this]
  | .staticOperation set inherited =>
    if inherited then none
    else some [.methods (ownOverloadSet set) (.global ctx.interface.bindingName)]
  | .secondaryAccessors owner pair =>
    if s.mixins.contains owner.id then none
    else nonempty? (accessorMembers pair.getter pair.setter)
  | .secondaryOperation owner set =>
    if s.mixins.contains owner.id then none else some [.methods set .this]
  | _ => none

/-- The members that the unit of a backend gets by a call, if it is concerned. -/
def members? (b : Backend) (s : Setting) (ctx : Context) (call : Call) : Option (List Member) :=
  match b with
  | .contract => contractMembers? call
  | .overlay => overlayMembers? s ctx call

/-! ### Synthesized members -/

/-- The creation methods of the factory root. -/
def factoryMethods (s : Setting) : List FactoryMethod :=
  s.config.factoryNaming.methods s.graph

/-- The factories of the global root, which fail if there are typed arrays and no buffers. -/
def globalMembers (s : Setting) : Except Error (List Member) :=
  (s.graph.typedArrayFactories s.config.globalRoot).map fun arrays =>
    arrays.map .typedArray ++ s.graph.constructorSets.map .creation

/-- The creation methods of an overlay class behind the helpers of their groups, which need the type
of all elements. -/
def overlayFactories (s : Setting) (ctx : Context) : Except Error (List Member) :=
  let root := s.config.factoryNaming.suffix
  let methods := factoryMethods s
  let groups := distinctBy ElementGroup.helper (methods.filterMap (·.group))
  if groups.isEmpty || s.graph.contains root then
    .ok (groups.map (fun g => .groupHelper g root) ++ methods.map .factory)
  else .error (.missingInterface root (ctx.interface.id ++ ".createElementNS"))

/-- The helpers of the mixin base, if there are event listeners. -/
def listenerMembers? (s : Setting) : Option (List Member) :=
  (s.graph.find? Overlay.eventListener).map fun i => [.listenerHelpers i.operations.head?]

/-- The members that are added when an interface is finished, in stages any of which may fail. -/
def stages (b : Backend) (s : Setting) (ctx : Context) : List (Except Error (List Member)) :=
  let globals := if ctx.interface.id = s.config.globalRoot then [globalMembers s] else []
  match b with
  | .contract =>
    (if ctx.interface.id = s.config.factoryRoot then [.ok ((factoryMethods s).map .factory)]
      else []) ++ globals
  | .overlay =>
    (if ctx.isBase s then ((listenerMembers? s).map .ok).toList else []) ++
      (if ctx.interface.id = s.config.factoryRoot then [overlayFactories s ctx] else []) ++ globals

/-! ### Calls -/

/-- What comes of a call: the unit that is open afterwards, what was rendered, and the error that
occurred. -/
structure Result where
  unit : Option CompilationUnit
  rendered : Option (CompilationUnit × Emission) := none
  failure : Option Error := none

def addMembers (id : String) (unit : Option CompilationUnit) (members : List Member) : Result :=
  match unit with
  | some u => { unit := some (u.add members) }
  | none => { unit := none, failure := some (.memberBeforeStart id) }

/-- Adds the members of each stage, up to the first failure. -/
def addStages (id : String) (unit : Option CompilationUnit) :
    List (Except Error (List Member)) → Result
  | [] => { unit }
  | .error e :: _ => { unit, failure := some e }
  | .ok members :: rest =>
    match unit with
    | some u => addStages id (some (u.add members)) rest
    | none => { unit := none, failure := some (.memberBeforeStart id) }

/-- Renders a unit, and leaves another one open. -/
def emit (s : Setting) (templates : Templates) (u : CompilationUnit)
    (left : Option CompilationUnit) : Result :=
  match u.render templates s.types s.baseClass with
  | .ok emission => { unit := left, rendered := some (u, emission) }
  | .error e => { unit := left, failure := some e }

def finish (b : Backend) (s : Setting) (templates : Templates) (ctx : Context)
    (unit : Option CompilationUnit) : Result :=
  match addStages ctx.interface.id unit (b.stages s ctx) with
  | { unit, failure := some e, .. } => { unit, failure := some e }
  | { unit := none, .. } => { unit := none, failure := some (.finishBeforeStart ctx.interface.id) }
  | { unit := some u, .. } => emit s templates u none

/-- Handles a call with the given unit open. -/
def handle (b : Backend) (s : Setting) (templates : Templates) (ctx : Context)
    (unit : Option CompilationUnit) (call : Call) : Result :=
  match call with
  | .start => { unit := some (b.opened s ctx) }
  | .finish => b.finish s templates ctx unit
  | .callback c =>
    match b with
    | .contract => emit s templates (callbackUnit s ctx c) unit
    | .overlay => { unit }
  | call =>
    match b.members? s ctx call with
    | some members => addMembers ctx.interface.id unit members
    | none => { unit }

end Backend

end Bindery
