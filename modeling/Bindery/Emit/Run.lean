import Bindery.Emit.Backend
import Bindery.Emit.Plan
import Bindery.Report

/-! # Runs

A run carries out a plan: each signal goes to every backend in turn before the next one is sent, and
the first failure ends it.  What was rendered up to then stays. -/

namespace Bindery

/-- A backend at work. -/
structure Station where
  backend : Backend
  templates : Templates
  /-- The unit that was started and not yet finished. -/
  unit : Option CompilationUnit := none

structure Rendered where
  backend : Backend
  unit : CompilationUnit
  emission : Emission
  deriving DecidableEq

/-- What has come of some signals. -/
structure Progress where
  stations : List Station
  /-- What was rendered, in order. -/
  rendered : List Rendered := []
  /-- The signals that every backend has handled. -/
  performed : List Signal := []
  notes : List Note := []
  failure : Option Error := none

namespace Station

/-- Handles a call, unless the backend does not receive it. -/
def handle (st : Station) (s : Setting) (ctx : Context) (call : Call) : Backend.Result :=
  if st.backend.receives s ctx call then
    st.backend.handle s st.templates ctx st.unit call
  else { unit := st.unit }

/-- Makes a call to each backend, up to the first failure. -/
def callAll (s : Setting) (ctx : Context) (call : Call) : List Station → Progress
  | [] => { stations := [] }
  | st :: rest =>
    let r := st.handle s ctx call
    let rendered := r.rendered.toList.map fun (u, e) => ⟨st.backend, u, e⟩
    match r.failure with
    | some e => { stations := { st with unit := r.unit } :: rest, rendered, failure := some e }
    | none =>
      let p := callAll s ctx call rest
      { p with
        stations := { st with unit := r.unit } :: p.stations
        rendered := rendered ++ p.rendered }

def send (s : Setting) (stations : List Station) (signal : Signal) : Progress :=
  match signal with
  | .visit ctx call => callAll s ctx call stations
  | _ => { stations }

/-- Sends signals one after another, up to the first failure. -/
def sendAll (s : Setting) (stations : List Station) : List Signal → Progress
  | [] => { stations }
  | signal :: rest =>
    let p := send s stations signal
    match p.failure with
    | some _ => p
    | none =>
      let q := sendAll s p.stations rest
      { q with rendered := p.rendered ++ q.rendered, performed := signal :: q.performed }

/-- Carries out visits one after another, up to the first failure. -/
def visitAll (s : Setting) (stations : List Station) : List Visit → Progress
  | [] => { stations }
  | visit :: rest =>
    let p := sendAll s stations (visit.signals s)
    match p.failure with
    | some _ => { p with notes := visit.notes }
    | none =>
      let q := visitAll s p.stations rest
      { q with
        rendered := p.rendered ++ q.rendered
        performed := p.performed ++ q.performed
        notes := visit.notes ++ q.notes }

end Station

namespace Plan

def run (plan : Plan) (stations : List Station) : Progress :=
  let p := Station.visitAll plan.setting stations plan.visits
  { p with
    performed := .prepare :: p.performed ++ if p.failure.isSome then [] else [.close]
    notes := plan.findings.map findingNote ++ p.notes }

/-- What is reported of a plan that was carried out. -/
def report (plan : Plan) : Report :=
  { interfaces := plan.visits.filterMap Visit.interface?
    callbacks := plan.visits.filterMap Visit.callback?
    skipped := plan.visits.filterMap Visit.skipped?
    mixins := plan.setting.mixins
    exceptions := plan.exceptions }

end Plan

/-- What comes of generating from a graph. -/
structure Generation where
  /-- What held for the run. -/
  setting : Setting
  rendered : List Rendered := []
  performed : List Signal := []
  notes : List Note := []
  outcome : Except Error Report

/-- Plans and carries out the generation from a graph, given the names of interfaces that are
written by hand. -/
def generate (c : Config) (auxiliary : NameSet) (stations : List Station) (g : Graph) :
    Generation :=
  match Plan.make c auxiliary g with
  | .error e => { setting := ⟨g, SortedMap.empty, c⟩, outcome := .error e }
  | .ok plan =>
    let p := plan.run stations
    { setting := plan.setting
      rendered := p.rendered
      performed := p.performed
      notes := p.notes
      outcome := match p.failure with
        | some e => .error e
        | none => .ok plan.report }

def Generation.output (generation : Generation) : Output :=
  Output.ofEmissions (generation.rendered.map (·.emission))

end Bindery
