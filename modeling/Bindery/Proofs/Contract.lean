import Bindery.Proofs.Emission

/-! # Contracts along their supertypes

A contract leaves inherited members to the contracts that it extends, directly or through others.
Whether the hierarchy has a feature is a matter of the graph: some interface that is reached along
supertypes has to introduce it, or to be a callback with it (`contract_hierarchy_keeps_iff`).  What
a mixin declares is on the mixin base, which counts as an ancestor and has no contract, so the
contract of a mixin has no features at all. -/

namespace Bindery

open Relation

/-- The contract of an interface that is generated names another interface of the graph as a
supertype. -/
def Setting.Extends (s : Setting) (report : Report) (i j : Interface) : Prop :=
  i.id ∈ report.interfaces ∧ i.id ≠ s.config.mixinBase ∧ s.graph.find? j.id = some j ∧
    j.id ∈ Backend.contractSupertypes s (s.context i)

/-! ### Mixins -/

/-- The mixin base carries every mark of a mixin. -/
theorem Graph.exists_base_of_populateBase {g populated : Graph} {base : String} {mixins : NameSet}
    (h : g.populateBase base mixins = .ok populated) :
    ∃ b, populated.find? base = some b ∧ ∀ m : Interface, populated.find? m.id = some m →
      mixins.contains m.id = true → m.id ≠ base → ∀ mark, m.Carries mark → b.Carries mark := by
  unfold populateBase at h
  dsimp only at h
  split at h
  · next hcontains =>
    obtain ⟨b, hb⟩ := contains_iff.mp hcontains
    cases h
    refine ⟨_, by rw [find?_modify, if_pos rfl, hb]; rfl, ?_⟩
    intro m hm hmixin hne mark hcarries
    rw [find?_modify, if_neg hne] at hm
    have hsource : m ∈ g.mixinInterfaces base mixins :=
      mem_mixinInterfaces_iff.mpr ⟨m.id, hmixin, hne, hm⟩
    cases mark with
    | accessor half name =>
        obtain ⟨a, ha, hmentions⟩ := hcarries
        exact ⟨a, List.mem_append_right _ (List.mem_flatMap.mpr ⟨m, hsource, ha⟩), hmentions⟩
    | signature text =>
        obtain ⟨o, ho, hsignature⟩ := hcarries
        exact ⟨o, List.mem_append_right _ (List.mem_flatMap.mpr ⟨m, hsource, ho⟩), hsignature⟩
  · cases h

variable {c : Config} {auxiliary : NameSet} {stations : List Station} {g : Graph} {report : Report}
  {gen : Generation} {f : Feature}

theorem Generation.not_introduces_of_mixin (hgen : generate c auxiliary stations g = gen)
    (h : gen.outcome = .ok report) {m : Interface} (hm : gen.setting.graph.find? m.id = some m)
    (hmixin : gen.setting.mixins.contains m.id = true) (hne : m.id ≠ c.mixinBase) :
    ¬ gen.setting.Introduces m f := by
  subst hgen
  obtain ⟨plan, hplan⟩ := exists_carried h
  rw [hplan.setting_eq] at hm hmixin ⊢
  obtain ⟨b, hb, hcarries⟩ := Graph.exists_base_of_populateBase hplan.populated
  rintro ⟨mark, hoffers, hnone⟩
  refine hnone b ?_ (hcarries m hm hmixin hne mark (Interface.carries_of_offers hoffers))
  rw [Graph.mem_inheritedFrom_iff, hplan.config_eq]
  exact .inr ⟨b, hb, hne, List.mem_cons_self⟩

/-! ### Supertypes -/

section
variable {i a : Interface}

theorem Generation.extends_of_step (hg : g.Keyed) (hgen : generate c auxiliary stations g = gen)
    (h : gen.outcome = .ok report) {j : Interface} (hi : i.id ∈ report.interfaces)
    (hne : i.id ≠ c.mixinBase) (hstep : gen.setting.graph.primaryStep? i = some j) :
    gen.setting.Extends report i j := by
  obtain ⟨hkeyed, hconfig⟩ := keyed_setting hg hgen h
  unfold Graph.primaryStep? at hstep
  split at hstep
  · cases hstep
  · next p hparent =>
    have hid : j.id = p.type := hkeyed _ j hstep
    refine ⟨hi, hconfig ▸ hne, by rw [hid]; exact hstep, ?_⟩
    have hcontains : gen.setting.graph.contains p.type = true :=
      Graph.contains_iff.mpr ⟨j, hstep⟩
    unfold Backend.contractSupertypes
    refine List.mem_append_left _ (Option.mem_toList.mpr ?_)
    show ((i.primaryParent?.map (·.type)).filter _) = some j.id
    rw [hparent, hid]
    simp [hcontains]

theorem Generation.reflTransGen_extends (hg : g.Keyed)
    (hgen : generate c auxiliary stations g = gen) (h : gen.outcome = .ok report)
    (hb : ∃ st ∈ stations, st.backend = .contract)
    (hi : gen.setting.graph.find? i.id = some i)
    (hreach : ReflTransGen (gen.setting.Extends report) i a) :
    ReflTransGen gen.Extends i.id a.id ∧ gen.setting.graph.find? a.id = some a := by
  obtain ⟨_, hconfig⟩ := keyed_setting hg hgen h
  induction hreach with
  | refl => exact ⟨.refl, hi⟩
  | tail _ hstep ih =>
      obtain ⟨hids, hfind⟩ := ih
      obtain ⟨hgenerated, hne, hfind', hsuper⟩ := hstep
      refine ⟨hids.tail ?_, hfind'⟩
      exact (extends_iff hg hgen h hb hfind).mpr ⟨hgenerated, hconfig ▸ hne, hsuper⟩

theorem Generation.reflTransGen_of_extends (hg : g.Keyed)
    (hgen : generate c auxiliary stations g = gen) (h : gen.outcome = .ok report)
    (hb : ∃ st ∈ stations, st.backend = .contract)
    (ha : gen.setting.graph.find? a.id = some a) {id : String}
    (hreach : ReflTransGen gen.Extends id a.id) (hi : gen.setting.graph.find? i.id = some i)
    (hid : id = i.id) : ReflTransGen (gen.setting.Extends report) i a := by
  obtain ⟨_, hconfig⟩ := keyed_setting hg hgen h
  induction hreach using ReflTransGen.head_induction_on generalizing i with
  | refl =>
      rw [hid, hi] at ha
      cases ha
      exact .refl
  | @head x y hstep hrest ih =>
      subst hid
      -- only interfaces are extended on the way: the last one is, and the others extend something
      obtain ⟨j, hj, hy⟩ : ∃ j, gen.setting.graph.find? j.id = some j ∧ y = j.id := by
        rcases hrest.cases_head with rfl | ⟨z, hnext, _⟩
        · exact ⟨a, ha, rfl⟩
        · obtain ⟨r, hr, _, rfl, _⟩ := hnext
          exact find?_of_mem_rendered hg hgen h hr
      obtain ⟨hgenerated, hne, hsuper⟩ := (extends_iff hg hgen h hb hi).mp hstep
      subst hy
      exact .head ⟨hgenerated, hconfig ▸ hne, hj, hsuper⟩ (ih hj rfl)

end

/-! ### Features of the hierarchy -/

/-- A feature is in the contract of an interface or in one that it extends, directly or through
others, exactly if an interface that is reached along supertypes introduces it or is a callback with
it. -/
theorem Generation.exists_contract_iff (hg : g.Keyed)
    (hgen : generate c auxiliary stations g = gen) (h : gen.outcome = .ok report)
    (hb : ∃ st ∈ stations, st.backend = .contract) {i : Interface}
    (hi : gen.setting.graph.find? i.id = some i) (hf : f.isStatic = false) :
    (∃ id, ReflTransGen gen.Extends i.id id ∧ gen.Emits .contract id f) ↔
      ∃ a, ReflTransGen (gen.setting.Extends report) i a ∧
        (a.id ∈ report.interfaces ∧ a.id ≠ c.mixinBase ∧ gen.setting.Introduces a f ∨
          a.id ∈ report.callbacks ∧ a.Answers f) := by
  constructor
  · rintro ⟨id, hreach, hemits⟩
    obtain ⟨a, ha, rfl⟩ : ∃ a, gen.setting.graph.find? a.id = some a ∧ id = a.id := by
      obtain ⟨r, hr, _, rfl, _⟩ := hemits
      exact find?_of_mem_rendered hg hgen h hr
    refine ⟨a, reflTransGen_of_extends hg hgen h hb ha hreach hi rfl, ?_⟩
    rcases (emits_contract_iff hg hgen h hb ha).mp hemits with ⟨h1, h2, h3, _⟩ | hcallback
    · exact .inl ⟨h1, h2, h3⟩
    · exact .inr hcallback
  · rintro ⟨a, hreach, ha⟩
    obtain ⟨hids, hfind⟩ := reflTransGen_extends hg hgen h hb hi hreach
    refine ⟨a.id, hids, (emits_contract_iff hg hgen h hb hfind).mpr ?_⟩
    rcases ha with ⟨h1, h2, h3⟩ | hcallback
    · exact .inl ⟨h1, h2, h3, hf⟩
    · exact .inr hcallback

theorem Generation.not_emits_of_mixin (hg : g.Keyed)
    (hgen : generate c auxiliary stations g = gen) (h : gen.outcome = .ok report)
    (hb : ∃ st ∈ stations, st.backend = .contract) {m : Interface}
    (hm : gen.setting.graph.find? m.id = some m) (hgenerated : m.id ∈ report.interfaces)
    (hmixin : gen.setting.mixins.contains m.id = true) (hne : m.id ≠ c.mixinBase) :
    ¬ gen.Emits .contract m.id f := by
  rw [emits_contract_iff hg hgen h hb hm]
  rintro (⟨_, _, hintroduces, _⟩ | ⟨hcallback, _⟩)
  · exact not_introduces_of_mixin hgen h hm hmixin hne hintroduces
  · subst hgen
    obtain ⟨plan, hplan⟩ := exists_carried h
    rw [hplan.setting_eq] at hm
    rw [hplan.report_eq] at hgenerated hcallback
    obtain ⟨callback, hsome, _⟩ := (hplan.mem_callbacks_iff hg hm).mp hcallback
    rw [hplan.callback?_eq_none hg hm hgenerated] at hsome
    cases hsome

/-- The hierarchy of contracts has a feature that needs an object exactly if an interface that is
reached along supertypes introduces it or is a callback with it.  The contract of a mixin has no
features.  Nothing is lost where the primary line ends and is generated, the mixin base and its
ancestors have nothing of the feature, and every ancestor that carries its mark offers it. -/
theorem contract_hierarchy_keeps_iff (hg : g.Keyed)
    (hgen : generate c auxiliary stations g = gen) (h : gen.outcome = .ok report)
    (hb : ∃ st ∈ stations, st.backend = .contract) {i : Interface}
    (hi : gen.setting.graph.find? i.id = some i) (hgenerated : i.id ∈ report.interfaces)
    (hne : i.id ≠ c.mixinBase) (f : Feature) (hf : f.isStatic = false) :
    ((∃ id, ReflTransGen gen.Extends i.id id ∧ gen.Emits .contract id f) ↔
        ∃ a, ReflTransGen (gen.setting.Extends report) i a ∧
          (a.id ∈ report.interfaces ∧ a.id ≠ c.mixinBase ∧ gen.setting.Introduces a f ∨
            a.id ∈ report.callbacks ∧ a.Answers f)) ∧
      (gen.setting.mixins.contains i.id = true → ¬ gen.Emits .contract i.id f) ∧
      ∀ mark, i.Offers f mark → gen.setting.graph.Grounded i →
        (∀ a ∈ gen.setting.graph.primaryAncestors i,
          a.id ∈ report.interfaces ∧ a.id ≠ c.mixinBase ∧ (a.Carries mark → a.Offers f mark)) →
        (∀ b, gen.setting.graph.find? c.mixinBase = some b →
          ∀ a ∈ b :: gen.setting.graph.primaryAncestors b, ¬ a.Carries mark) →
        ∃ id, ReflTransGen gen.Extends i.id id ∧ gen.Emits .contract id f := by
  obtain ⟨_, hconfig⟩ := Generation.keyed_setting hg hgen h
  have hiff := Generation.exists_contract_iff hg hgen h hb hi hf
  refine ⟨hiff, fun hmixin =>
    Generation.not_emits_of_mixin hg hgen h hb hi hgenerated hmixin hne, ?_⟩
  intro mark hoffers hgrounded hline hbase
  rw [← hconfig] at hbase
  have hall : ∀ a ∈ i :: gen.setting.graph.primaryAncestors i,
      a.id ∈ report.interfaces ∧ a.id ≠ c.mixinBase := by
    intro a ha
    rcases List.mem_cons.mp ha with rfl | ha
    · exact ⟨hgenerated, hne⟩
    · exact ⟨(hline a ha).1, (hline a ha).2.1⟩
  obtain ⟨a, ha, _, hintroduces⟩ := Setting.exists_introduces hgrounded hoffers
    (fun a ha => (hline a ha).2.2) hbase
  have hreach : ReflTransGen (gen.setting.Extends report) i a := by
    refine Exhausts.reflTransGen hgrounded ?_ a ha
    intro x hx y hstep
    exact Generation.extends_of_step hg hgen h (hall x hx).1 (hall x hx).2 hstep
  exact hiff.mpr ⟨a, hreach, .inl ⟨(hall a ha).1, (hall a ha).2, hintroduces⟩⟩

/-- A mixin, by its name. -/
def childTraversal : Interface :=
  { id := "ElementTraversal", attributes := [{ id := "child", type := "Element" }] }

/-- An interface that repeats an attribute of its parent, and gets another one from the mixin. -/
def childElement : Interface :=
  { id := "Element", parents := [{ type := "Node" }, { type := "ElementTraversal" }]
    attributes := [{ id := "name", type := "DOMString" }] }

/-- The contracts of both and of the parent. -/
def childRun : Generation :=
  defaultRun .contract
    [{ id := "Node", attributes := [{ id := "name", type := "DOMString" }] },
      childTraversal, childElement]

theorem childRun_outcome :
    childRun.outcome =
        .ok (plainReport ["ElementalMixinBase", "Node", "ElementTraversal", "Element"]) ∧
      childRun.setting.graph.find? childElement.id = some childElement ∧
      childRun.setting.graph.Grounded childElement ∧
      (∀ a ∈ childRun.setting.graph.primaryAncestors childElement,
        a.id ∈ (plainReport
            ["ElementalMixinBase", "Node", "ElementTraversal", "Element"]).interfaces ∧
          a.id ≠ "ElementalMixinBase" ∧ (a.Carries (.accessor .getter "name") →
            a.Offers (.accessor .getter "name") (.accessor .getter "name"))) ∧
      (∀ b ∈ childRun.setting.graph.find? "ElementalMixinBase",
        ∀ a ∈ b :: childRun.setting.graph.primaryAncestors b,
          ¬ a.Carries (.accessor .getter "name")) ∧
      ∀ r ∈ childRun.rendered, .accessor .getter "child" ∉ r.unit.features .contract := by
  decide +kernel

theorem contract_hierarchy_keeps_iff_name :
    ∃ id, ReflTransGen childRun.Extends childElement.id id ∧
      childRun.Emits .contract id (.accessor .getter "name") := by
  obtain ⟨houtcome, hfind, hgrounded, hline, hbase, _⟩ := childRun_outcome
  exact (contract_hierarchy_keeps_iff (Graph.keyed_of_entries (by decide +kernel)) rfl houtcome
    ⟨_, List.mem_cons_self, rfl⟩ hfind (by decide) (by decide) (.accessor .getter "name")
    rfl).2.2 (.accessor .getter "name") (by decide) hgrounded hline hbase

/-- The getter of a mixin is in no contract: neither in its own, nor in one that this extends. -/
theorem contract_loses_mixin_child :
    childRun.outcome =
        .ok (plainReport ["ElementalMixinBase", "Node", "ElementTraversal", "Element"]) ∧
      childTraversal.Declares (.accessor .getter "child") ∧
      ¬ ∃ id, ReflTransGen childRun.Extends childTraversal.id id ∧
        childRun.Emits .contract id (.accessor .getter "child") := by
  refine ⟨childRun_outcome.1, by decide, ?_⟩
  rintro ⟨id, _, r, hr, _, _, hf⟩
  exact childRun_outcome.2.2.2.2.2 r hr hf

end Bindery
