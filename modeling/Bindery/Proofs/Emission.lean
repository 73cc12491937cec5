import Bindery.Proofs.Flatten
import Bindery.Proofs.Line

/-! # What is emitted for an interface

`Generation.Emits` speaks about the units that a run has rendered.  On success
`Generation.emits_overlay_iff` and `Generation.emits_contract_iff` give it back in terms of the
graph: which interfaces were generated, and what they introduce and take over. -/

namespace Bindery

/-- What a header says to be extended by an interface. -/
def Header.supertypes : Header → List TypeName
  | .contract supertypes => supertypes
  | _ => []

namespace Generation

/-- A backend has rendered a unit of an interface with a feature. -/
def Emits (generation : Generation) (b : Backend) (id : String) (f : Feature) : Prop :=
  ∃ r ∈ generation.rendered, r.backend = b ∧ r.unit.subject = id ∧ f ∈ r.unit.features b

instance (generation : Generation) (b : Backend) (id : String) (f : Feature) :
    Decidable (generation.Emits b id f) :=
  inferInstanceAs (Decidable (∃ r ∈ generation.rendered, _))

/-- The contract of an interface extends another one, as its header says. -/
def Extends (generation : Generation) (id super : String) : Prop :=
  ∃ r ∈ generation.rendered, r.backend = .contract ∧ r.unit.subject = id ∧
    super ∈ r.unit.header.supertypes

instance (generation : Generation) (id super : String) :
    Decidable (generation.Extends id super) :=
  inferInstanceAs (Decidable (∃ r ∈ generation.rendered, _))

end Generation

/-- A callback has a method: its operation, called in one of the ways it may be called. -/
def Interface.Answers (i : Interface) (f : Feature) : Prop :=
  ∃ o, i.callbackOperation? = some o ∧ ∃ types ∈ o.callTypes, f = .method o.emittedName types false

theorem exists_overload_of_one_iff {o : Operation} {types : List TypeName} :
    (∃ x ∈ overloadsOf [] [o], x.types = types) ↔ types ∈ o.callTypes := by
  have hall : (∃ x ∈ overloadsOf [] [o], x.types = types ∧ True) ↔ _ :=
    exists_overloadsOf_iff fun _ => True
  simp only [and_true] at hall
  rw [hall]
  by_cases h : types ∈ o.callTypes <;> simp [h]

theorem mem_features_callbackUnit {s : Setting} {ctx : Context} {i : Interface}
    {callback : Callback} (h : i.callback? = some callback) {f : Feature} :
    f ∈ (Backend.callbackUnit s ctx callback).features .contract ↔ i.Answers f := by
  unfold Interface.callback? at h
  unfold Interface.Answers
  cases ho : i.callbackOperation? with
  | none => rw [ho] at h; cases h
  | some o =>
      rw [ho] at h
      cases h
      unfold CompilationUnit.features Backend.callbackUnit
      simp only [List.flatMap_singleton, Member.features, List.mem_map]
      constructor
      · rintro ⟨x, hx, rfl⟩
        exact ⟨o, rfl, x.types, exists_overload_of_one_iff.mp ⟨x, hx, rfl⟩, rfl⟩
      · rintro ⟨o', ho', types, htypes, rfl⟩
        obtain rfl := Option.some.inj ho'
        obtain ⟨x, hx, rfl⟩ := exists_overload_of_one_iff.mpr htypes
        exact ⟨x, hx, rfl⟩

theorem Backend.accepts_contract_iff {s : Setting} {i : Interface} :
    Backend.contract.accepts s (s.context i) = true ↔ i.id ≠ s.config.mixinBase := by
  rw [Backend.accepts_iff]
  simp [Setting.context]

/-! ### Successful runs -/

namespace Generation

variable {c : Config} {auxiliary : NameSet} {stations : List Station} {g : Graph} {report : Report}
  {gen : Generation} {i : Interface} {f : Feature}

theorem keyed_setting (hg : g.Keyed) (hgen : generate c auxiliary stations g = gen)
    (h : gen.outcome = .ok report) :
    gen.setting.graph.Keyed ∧
      gen.setting.config = c := by
  subst hgen
  obtain ⟨plan, hplan⟩ := exists_carried h
  rw [hplan.setting_eq]
  exact ⟨hplan.keyed hg, hplan.config_eq⟩

/-- An overlay class is emitted for each interface that is generated. -/
theorem emits_overlay_iff (hg : g.Keyed) (hgen : generate c auxiliary stations g = gen)
    (h : gen.outcome = .ok report) (hb : ∃ st ∈ stations, st.backend = .overlay)
    (hi : gen.setting.graph.find? i.id = some i) :
    gen.Emits .overlay i.id f ↔
      i.id ∈ report.interfaces ∧ (gen.setting.Introduces i f ∨
        gen.setting.Flattens i f) := by
  subst hgen
  obtain ⟨plan, hplan⟩ := exists_carried h
  rw [hplan.setting_eq] at hi ⊢
  unfold Emits
  rw [hplan.exists_rendered_iff hg hi .overlay fun u => f ∈ u.features .overlay,
    mem_features_overlay, and_iff_right hb]
  simp [Backend.accepts]

/-- A contract is emitted for each interface that is generated, except the mixin base, and for each
callback. -/
theorem emits_contract_iff (hg : g.Keyed) (hgen : generate c auxiliary stations g = gen)
    (h : gen.outcome = .ok report) (hb : ∃ st ∈ stations, st.backend = .contract)
    (hi : gen.setting.graph.find? i.id = some i) :
    gen.Emits .contract i.id f ↔
      (i.id ∈ report.interfaces ∧ i.id ≠ c.mixinBase ∧
          gen.setting.Introduces i f ∧ f.isStatic = false) ∨
        (i.id ∈ report.callbacks ∧ i.Answers f) := by
  subst hgen
  obtain ⟨plan, hplan⟩ := exists_carried h
  rw [hplan.setting_eq] at hi ⊢
  unfold Emits
  rw [hplan.exists_rendered_iff hg hi .contract fun u => f ∈ u.features .contract,
    mem_features_contract, and_iff_right hb, Backend.accepts_contract_iff, hplan.config_eq]
  refine or_congr Iff.rfl (and_congr_right fun hcallback => ?_)
  rw [hplan.report_eq, hplan.mem_callbacks_iff hg hi] at hcallback
  obtain ⟨callback, hcallback, _⟩ := hcallback
  constructor
  · rintro ⟨_, _, hcallback', hf⟩
    exact (mem_features_callbackUnit hcallback').mp hf
  · intro hf
    exact ⟨rfl, callback, hcallback, (mem_features_callbackUnit hcallback).mpr hf⟩

theorem extends_iff (hg : g.Keyed) (hgen : generate c auxiliary stations g = gen)
    (h : gen.outcome = .ok report) (hb : ∃ st ∈ stations, st.backend = .contract)
    (hi : gen.setting.graph.find? i.id = some i) {super : String} :
    gen.Extends i.id super ↔
      i.id ∈ report.interfaces ∧ i.id ≠ c.mixinBase ∧
        super ∈ Backend.contractSupertypes gen.setting
          (gen.setting.context i) := by
  subst hgen
  obtain ⟨plan, hplan⟩ := exists_carried h
  rw [hplan.setting_eq] at hi ⊢
  unfold Extends
  rw [hplan.exists_rendered_iff hg hi .contract fun u => super ∈ u.header.supertypes,
    and_iff_right hb, Backend.accepts_contract_iff, hplan.config_eq]
  constructor
  · rintro (hextends | ⟨_, _, _, _, hsuper⟩)
    · exact hextends
    · cases hsuper
  · exact .inl

theorem find?_of_mem_rendered (hg : g.Keyed) (hgen : generate c auxiliary stations g = gen)
    (h : gen.outcome = .ok report) {r : Rendered} (hr : r ∈ gen.rendered) :
    ∃ i, gen.setting.graph.find? i.id = some i ∧ r.unit.subject = i.id := by
  subst hgen
  obtain ⟨plan, hplan⟩ := exists_carried h
  rw [hplan.setting_eq]
  exact hplan.find?_subject hg hr

end Generation

/-! ### Runs under the default configuration -/

/-- What a backend generates for some interfaces. -/
def defaultRun (b : Backend) (interfaces : List Interface) : Generation :=
  generate {} SortedMap.empty [{ backend := b, templates := .builtin }]
    (interfaces.foldl Graph.add Graph.empty)

/-- The report on interfaces that raise nothing and share no parents. -/
def plainReport (ids : List String) : Report :=
  { interfaces := ids, mixins := NameSet.ofNames defaultManualMixins }

end Bindery
