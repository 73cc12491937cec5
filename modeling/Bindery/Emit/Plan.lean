import Bindery.Emit.Interface
import Bindery.Note

/-! # Plans

A plan fixes, before any backend is asked, which interfaces are visited in which order, and with
which calls.  Event sources get their parent, the mixin base is added and gets the members of the
mixins, and interfaces follow everything they inherit from. -/

namespace Bindery

inductive Visit where
  /-- The interface is written by hand. -/
  | skip (id : String)
  | callback (ctx : Context) (callback : Callback)
  | interface (ctx : Context)
  deriving DecidableEq

namespace Visit

def signals (s : Setting) : Visit → List Signal
  | .skip _ => []
  | .callback ctx c => [.visit ctx (.callback c)]
  | .interface ctx => (s.interfaceCalls ctx.interface).map (.visit ctx)

/-- What is said before a visit. -/
def notes : Visit → List Note
  | .skip id => [.info ("Skipping " ++ id ++ " because auxiliary file exists")]
  | .callback ctx _ => [.info ("Generating callback " ++ ctx.interface.id)]
  | .interface ctx =>
    let i := ctx.interface
    let malformed := .warn ("Malformed callback interface " ++ i.id ++ " has " ++
      toString i.operations.length ++ " operations")
    (if i.isCallback then [malformed] else []) ++ [.info ("Generating " ++ i.id)]

def skipped? : Visit → Option String
  | .skip id => some id
  | _ => none

def callback? : Visit → Option String
  | .callback ctx _ => some ctx.interface.id
  | _ => none

/-- The identifier of an interface that is neither skipped nor a callback. -/
def interface? : Visit → Option String
  | .interface ctx => some ctx.interface.id
  | _ => none

end Visit

/-- What a run is going to do. -/
structure Plan where
  setting : Setting
  /-- The exceptions raised by the interfaces that are generated. -/
  exceptions : NameSet
  findings : List Finding
  visits : List Visit

namespace Plan

/-- The identifiers that are visited with all they inherit from: the mixin base, and the interfaces
that pass the source filter. -/
def roots (c : Config) (g : Graph) : List String :=
  c.mixinBase :: (g.interfaces.filter fun i =>
    i.id != c.mixinBase && c.matchesSource i.annotations).map (·.id)

/-- The visit to an interface, given the names of those written by hand. -/
def visit (s : Setting) (auxiliary : NameSet) (i : Interface) : Visit :=
  if auxiliary.contains i.id then .skip i.id
  else
    match i.callback? with
    | some c => .callback (s.context i) c
    | none => .interface (s.context i)

/-- The plan for a graph, given the names of interfaces that are written by hand. -/
def make (c : Config) (auxiliary : NameSet) (g : Graph) : Except Error Plan :=
  let g := g.addEventTargets c.eventTarget
  let ids := roots c g
  let exceptions := raisedTypes (ids.filterMap g.find?)
  let g := g.ensureBase c.mixinBase
  let order := g.ancestorFirst ids
  let mixins := g.mixins order c.manualMixins
  match g.populateBase c.mixinBase mixins with
  | .error e => .error (.graph e)
  | .ok populated =>
    let setting := ⟨populated, mixins, c⟩
    .ok {
      setting, exceptions
      findings := g.findings order
      visits := (order.filterMap populated.find?).map (visit setting auxiliary) }

/-- The notes on the mixins that were found. -/
def findingNote : Finding → Note
  | .shared mixin first other =>
    .info ("Mixin detected " ++ mixin ++ ", previously implemented by " ++ first ++
      ", but also implemented by " ++ other)
  | .ancestor mixin descendant =>
    .info ("Super mixin detected " ++ mixin ++ " (ancestor of " ++ descendant ++ ")")

def signals (p : Plan) : List Signal :=
  .prepare :: (p.visits.flatMap (Visit.signals p.setting) ++ [.close])

end Plan

end Bindery
