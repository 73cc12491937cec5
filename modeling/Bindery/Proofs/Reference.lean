import Bindery.Proofs.Exception
import Bindery.Proofs.JavaType

/-! # References and units

The Java type of an interface and the unit that declares it are found apart from each other: the
type by `Java.TypeMap.map` from the place in which it is mentioned, the unit by a backend, which is
not asked for the interfaces that a plan takes for callbacks.

Both put together the same names (`Java.TypeMap.interfaceType_eq_declares`,
`Generation.Carried.declared_eq`), and both take the same interfaces for callbacks
(`Interface.callbackOperation?_eq_none_iff`).  So a type is declared by the units of one backend
only, which `Java.Flavor.backend` tells, if that backend has any: `references_emitted`. -/

namespace Bindery

/-! ### Types of interfaces -/

/-- An interface is referred to as a callback if and only if it is generated as one. -/
theorem Interface.callbackOperation?_eq_none_iff {i : Interface} :
    i.callbackOperation? = none ↔ i.callback? = none := by
  unfold callback?
  cases i.callbackOperation? <;> simp [OverloadSet.ofOperations?]

/-- The backend whose units are meant in a place. -/
def Java.Flavor.backend (flavor : Flavor) (i : Interface) : Backend :=
  if flavor = .overlayReturn ∧ i.callback? = none then .overlay else .contract

/-- The Java type that the units of a backend for an interface declare. -/
def Backend.declares (b : Backend) (types : Java.TypeMap) (i : Interface) : Java.JavaType :=
  match b with
  | .contract => .inPackage i.id (types.contractPackage (types.moduleOf i))
  | .overlay => .inPackage (Java.overlayName i.id) (types.overlayPackage (types.moduleOf i))

theorem Backend.declares_inj {b b' : Backend} {types : Java.TypeMap} {i : Interface} :
    b.declares types i = b'.declares types i ↔ b = b' := by
  refine ⟨fun h => ?_, fun h => by rw [h]⟩
  have hlength := congrArg (fun t => t.name.length) h
  cases b <;> cases b' <;>
    simp [declares, Java.JavaType.inPackage, Java.overlayName] at hlength ⊢

namespace Java.TypeMap

variable {types : TypeMap} {i : Interface} {id : String} {flavor : Flavor}

theorem interfaceType_eq_declares :
    types.interfaceType i.id i flavor = (flavor.backend i).declares types i := by
  unfold interfaceType Flavor.backend
  simp only [Interface.callbackOperation?_eq_none_iff]
  split <;> rfl

theorem map_of_plain (hword : TypeName.Plain id) (hprimitive : primitive? id = none)
    (hdate : id ≠ "Date") (hi : types.graph.find? id = some i) :
    types.map id flavor = types.interfaceType id i flavor := by
  have hmem : id ∉ TypeName.primitives := by
    rw [mem_primitives_iff, hprimitive]
    simpa using hdate
  have hatom := TypeName.split?_of_lt_notMem hword.isHead.lt_notMem
  have hname := TypeName.unqualified_of_colon_notMem hword.colon_notMem
  have hdenotes : types.Denotes flavor id
      (types.interfaceType (TypeName.unqualified id) i flavor) :=
    .interface hmem (TypeName.element?_of_split?_eq_none hatom) (by rw [hname]; exact hi)
  rw [hdenotes.map_eq, hname]

end Java.TypeMap

/-! ### Units of a run -/

/-- The Java type that a unit declares, with its qualified name. -/
def CompilationUnit.declared (u : CompilationUnit) : Java.JavaType :=
  ⟨u.name, some (u.package ++ "." ++ u.name)⟩

namespace Generation

/-- A reference to an interface is imported by the qualified name of the units that a backend has
rendered for it, of which there are some. -/
def Refers (gen : Generation) (id : String) (flavor : Java.Flavor) (b : Backend) : Prop :=
  gen.HasUnit b id ∧ ∀ r ∈ gen.rendered, r.backend = b → r.unit.subject = id →
    gen.setting.types.map id flavor = r.unit.declared

variable {c : Config} {auxiliary : NameSet} {stations : List Station} {g : Graph} {report : Report}
  {plan : Plan} {i : Interface} {id : String} {flavor : Java.Flavor} {b : Backend}

theorem Carried.find?_of_generates (h : Carried c auxiliary stations g report plan) (hg : g.Keyed)
    (hid : report.Generates id) : ∃ i, plan.setting.graph.find? i.id = some i ∧ i.id = id := by
  have hvisit : ∃ v ∈ plan.visits, v.interface? = some id ∨ v.callback? = some id := by
    rw [h.report_eq] at hid
    rcases hid with hid | hid
    · obtain ⟨v, hv, hid⟩ := List.mem_filterMap.mp hid
      exact ⟨v, hv, .inl hid⟩
    · obtain ⟨v, hv, hid⟩ := List.mem_filterMap.mp hid
      exact ⟨v, hv, .inr hid⟩
  obtain ⟨v, hv, hid⟩ := hvisit
  obtain ⟨i, hi, rfl⟩ := h.exists_of_mem hg hv
  refine ⟨i, hi, ?_⟩
  unfold Plan.visit at hid
  split at hid
  · simp [Visit.interface?, Visit.callback?] at hid
  · split at hid <;> simpa [Visit.interface?, Visit.callback?, Setting.context] using hid

/-- Of what is generated, the report has as callbacks what a plan takes for one. -/
theorem Carried.mem_iff_callback? (h : Carried c auxiliary stations g report plan)
    (hg : g.Keyed) (hi : plan.setting.graph.find? i.id = some i) (hid : report.Generates i.id) :
    (i.id ∈ report.interfaces ↔ i.callback? = none) ∧
      (i.id ∈ report.callbacks ↔ i.callback? ≠ none) := by
  have hinterface : i.id ∈ report.interfaces → i.callback? = none := by
    rw [h.report_eq]
    exact h.callback?_eq_none hg hi
  have hcallback : i.id ∈ report.callbacks → i.callback? ≠ none := by
    rw [h.report_eq, h.mem_callbacks_iff hg hi]
    rintro ⟨callback, hcallback, _⟩
    simp [hcallback]
  refine ⟨⟨hinterface, fun hnone => ?_⟩, hcallback, fun hsome => ?_⟩
  · exact hid.resolve_right fun hmem => hcallback hmem hnone
  · exact hid.resolve_left fun hmem => hsome (hinterface hmem)

theorem Carried.declared_eq (h : Carried c auxiliary stations g report plan) (hg : g.Keyed)
    (hi : plan.setting.graph.find? i.id = some i) {r : Rendered}
    (hr : r ∈ (generate c auxiliary stations g).rendered) (hsubject : r.unit.subject = i.id) :
    r.unit.declared = r.backend.declares plan.setting.types i := by
  have hunit := (h.exists_rendered_iff hg hi r.backend (· = r.unit)).mp
    ⟨r, hr, rfl, hsubject, rfl⟩
  rcases hunit.2 with ⟨_, _, hbuilt⟩ | ⟨_, hcontract, callback, hcallback, hunit⟩
  · rw [← hbuilt]
    cases r.backend <;> rfl
  · rw [← hunit, hcontract]
    unfold CompilationUnit.declared Backend.callbackUnit
    rw [Interface.interface_of_callback? hcallback]
    rfl

theorem Carried.refers_iff (h : Carried c auxiliary stations g report plan) (hg : g.Keyed)
    (hi : plan.setting.graph.find? i.id = some i) (hword : TypeName.Plain i.id)
    (hprimitive : Java.primitive? i.id = none) (hdate : i.id ≠ "Date") :
    (generate c auxiliary stations g).Refers i.id flavor b ↔
      (generate c auxiliary stations g).HasUnit b i.id ∧ b = flavor.backend i := by
  unfold Refers
  refine and_congr_right fun hunit => ?_
  rw [h.setting_eq, Java.TypeMap.map_of_plain hword hprimitive hdate hi,
    Java.TypeMap.interfaceType_eq_declares]
  constructor
  · intro hall
    obtain ⟨r, hr, rfl, hsubject⟩ := hunit
    have hsame := hall r hr rfl hsubject
    rw [h.declared_eq hg hi hr hsubject] at hsame
    exact (Backend.declares_inj.mp hsame).symm
  · rintro rfl r hr hbackend hsubject
    rw [h.declared_eq hg hi hr hsubject, hbackend]

end Generation

/-! ### References of a run -/

variable {c : Config} {auxiliary : NameSet} {stations : List Station} {g : Graph} {report : Report}
  {gen : Generation} {id : String}

/-- With both backends, what an overlay class returns is declared by the overlay class of an
interface and by the contract of a callback; everywhere else the contract is meant.  Such a unit
exists, but for the contract of the mixin base, which it has only if it is a callback. -/
theorem references_emitted (hg : g.Keyed) (hgen : generate c auxiliary stations g = gen)
    (h : gen.outcome = .ok report) (hb : ∀ b, ∃ st ∈ stations, st.backend = b)
    (hid : report.Generates id) (hword : TypeName.Plain id)
    (hprimitive : Java.primitive? id = none) (hdate : id ≠ "Date") :
    (∀ b, gen.Refers id .overlayReturn b ↔
      b = .overlay ∧ id ∈ report.interfaces ∨ b = .contract ∧ id ∈ report.callbacks) ∧
    ∀ flavor ≠ .overlayReturn, ∀ b, gen.Refers id flavor b ↔
      b = .contract ∧ (id = c.mixinBase → id ∈ report.callbacks) := by
  subst hgen
  obtain ⟨plan, hplan⟩ := Generation.exists_carried h
  obtain ⟨i, hi, rfl⟩ := hplan.find?_of_generates hg hid
  have hrefers : ∀ {flavor b}, (generate c auxiliary stations g).Refers i.id flavor b ↔ _ :=
    hplan.refers_iff hg hi hword hprimitive hdate
  simp only [hrefers, hplan.hasUnit_iff hg (hb _) (Graph.contains_iff.mpr ⟨i, hi⟩)]
  obtain ⟨hinterface, hcallback⟩ := hplan.mem_iff_callback? hg hi hid
  rw [hinterface, hcallback]
  refine ⟨fun b => ?_, fun flavor hflavor b => ?_⟩
  · by_cases hnone : i.callback? = none <;> cases b <;> simp [Java.Flavor.backend, hnone]
  · by_cases hnone : i.callback? = none <;> cases b <;> simp [Java.Flavor.backend, hnone, hflavor]

/-- A mixin, a callback, and one with two operations, which is generated as an interface. -/
def listenerInterfaces : List Interface :=
  let callback : Extensions := SortedMap.ofList [("Callback", none)]
  let handle : Operation := { id := "handle", type := "void" }
  [{ id := "ElementTraversal", operations := [{ id := "next", type := "Handler" }] },
    { id := "Handler", operations := [handle], extensions := callback, module := "events" },
    { id := "Observer", operations := [handle, { id := "close", type := "void" }],
      extensions := callback, module := "events" }]

def listenerRun : Generation :=
  generate {} SortedMap.empty bothStations (listenerInterfaces.foldl Graph.add Graph.empty)

def listenerReport : Report :=
  { plainReport ["ElementalMixinBase", "ElementTraversal", "Observer"] with
    callbacks := ["Handler"] }

theorem references_emitted_listenerRun :
    listenerRun.outcome = .ok listenerReport ∧
      listenerRun.setting.types.map "Handler" .overlayReturn =
        ⟨"Handler", some "elemental.events.Handler"⟩ ∧
      listenerRun.setting.types.map "Observer" .overlayReturn =
        ⟨"JsObserver", some "elemental.js.events.JsObserver"⟩ ∧
      listenerRun.Refers "Handler" .overlayReturn .contract ∧
      listenerRun.Refers "Observer" .overlayReturn .overlay ∧
      listenerRun.Refers "Observer" .overlayParameter .contract ∧
      listenerRun.Refers "ElementalMixinBase" .overlayReturn .overlay ∧
      ¬ listenerRun.Refers "ElementalMixinBase" .contract .contract := by
  have hkeyed : (listenerInterfaces.foldl Graph.add Graph.empty).Keyed :=
    Graph.keyed_empty.foldl_add
  have houtcome : listenerRun.outcome = .ok listenerReport := by decide +kernel
  have hboth : ∀ b, ∃ st ∈ bothStations, st.backend = b := by
    intro b
    cases b <;> simp [bothStations]
  have hwords : ∀ id ∈ ["Handler", "Observer", "ElementalMixinBase"],
      listenerReport.Generates id ∧ TypeName.Plain id ∧ Java.primitive? id = none ∧ id ≠ "Date" := by
    decide +kernel
  have hrefers := fun id hid =>
    have ⟨hgenerates, hword, hprimitive, hdate⟩ := hwords id hid
    references_emitted hkeyed rfl houtcome hboth hgenerates hword hprimitive hdate
  obtain ⟨hhandler, _⟩ := hrefers "Handler" (by simp)
  obtain ⟨hreturned, hpassed⟩ := hrefers "Observer" (by simp)
  obtain ⟨hbase, hcontract⟩ := hrefers "ElementalMixinBase" (by simp)
  refine ⟨houtcome, by decide +kernel, by decide +kernel, ?_, ?_, ?_, ?_, ?_⟩
  · exact (hhandler .contract).mpr (by decide)
  · exact (hreturned .overlay).mpr (by decide)
  · exact (hpassed .overlayParameter (by decide) .contract).mpr (by decide)
  · exact (hbase .overlay).mpr (by decide)
  · intro hmeant
    exact absurd ((hcontract .contract (by decide) .contract).mp hmeant) (by decide)

end Bindery
