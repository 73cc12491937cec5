import Bindery.Proofs.Supertypes

/-! # Which exceptions are reported

Exceptions are collected from the mixin base and from what the source filter selects, before the
mixin base gets the members of the mixins.  More than that is generated: whatever the selected
interfaces inherit from, and on the mixin base the members of all mixins.

Of the preparations of a graph only the last one changes what is raised
(`Graph.raises_addEventTargets`, `Graph.raises_ensureBase`, `Graph.raises_populateBase`), so every
exception of a run can be traced to an interface of the graph it started from
(`Plan.Made.raises_iff`).  `exceptions_cover_iff` says which of these must raise nothing new for the
report to be complete. -/

namespace Bindery

/-! ### What is raised -/

/-- A getter, a setter or an operation of an interface raises an exception. -/
def Interface.Raises (i : Interface) (t : TypeName) : Prop :=
  (∃ a ∈ i.attributes, a.getRaises = some t ∨ a.setRaises = some t) ∨
    ∃ o ∈ i.operations, o.raises = some t

instance (i : Interface) (t : TypeName) : Decidable (i.Raises t) :=
  inferInstanceAs (Decidable (_ ∨ _))

theorem Interface.mem_raisedTypes_iff {i : Interface} {t : TypeName} :
    t ∈ i.raisedTypes ↔ i.Raises t := by
  simp [raisedTypes, Raises]

theorem contains_raisedTypes_iff {interfaces : List Interface} {t : TypeName} :
    (raisedTypes interfaces).contains t = true ↔ ∃ i ∈ interfaces, i.Raises t := by
  unfold raisedTypes
  rw [NameSet.contains_ofNames, List.mem_flatMap]
  simp only [Interface.mem_raisedTypes_iff]

theorem Interface.raises_addEventTarget {target : String} {i : Interface} {t : TypeName} :
    (i.addEventTarget target).Raises t ↔ i.Raises t := by
  unfold addEventTarget
  split <;> rfl

/-- An interface that takes over the members of others raises what they raise. -/
theorem Interface.raises_of_append {i j : Interface} {sources : List Interface} {t : TypeName}
    (hattributes : j.attributes = i.attributes ++ sources.flatMap (·.attributes))
    (hoperations : j.operations = i.operations ++ sources.flatMap (·.operations)) :
    j.Raises t ↔ i.Raises t ∨ ∃ source ∈ sources, source.Raises t := by
  unfold Raises
  rw [hattributes, hoperations]
  simp only [List.mem_append, List.mem_flatMap]
  constructor
  · rintro (⟨a, ha | ⟨source, hsource, ha⟩, hraises⟩ | ⟨o, ho | ⟨source, hsource, ho⟩, hraises⟩)
    · exact .inl (.inl ⟨a, ha, hraises⟩)
    · exact .inr ⟨source, hsource, .inl ⟨a, ha, hraises⟩⟩
    · exact .inl (.inr ⟨o, ho, hraises⟩)
    · exact .inr ⟨source, hsource, .inr ⟨o, ho, hraises⟩⟩
  · rintro ((⟨a, ha, hraises⟩ | ⟨o, ho, hraises⟩) |
      ⟨source, hsource, ⟨a, ha, hraises⟩ | ⟨o, ho, hraises⟩⟩)
    · exact .inl ⟨a, .inl ha, hraises⟩
    · exact .inr ⟨o, .inl ho, hraises⟩
    · exact .inl ⟨a, .inr ⟨source, hsource, ha⟩, hraises⟩
    · exact .inr ⟨o, .inr ⟨source, hsource, ho⟩, hraises⟩

namespace Graph

/-- The interface of an identifier raises an exception. -/
def Raises (g : Graph) (id : String) (t : TypeName) : Prop :=
  ∃ i, g.find? id = some i ∧ i.Raises t

instance (g : Graph) (id : String) (t : TypeName) : Decidable (g.Raises id t) :=
  inferInstanceAs (Decidable (∃ i ∈ g.find? id, i.Raises t))

variable {g : Graph} {id base : String} {t : TypeName}

theorem raises_addEventTargets {target : String} :
    (g.addEventTargets target).Raises id t ↔ g.Raises id t := by
  unfold Raises addEventTargets
  simp [find?_mapInterfaces, Interface.raises_addEventTarget]

theorem raises_ensureBase : (g.ensureBase base).Raises id t ↔ g.Raises id t := by
  unfold ensureBase
  split
  · rfl
  · next hbase =>
    unfold Raises
    rw [find?_add]
    split
    · next hid =>
      have hnone : g.find? id = none := find?_eq_none_iff.mpr (by simpa [hid] using hbase)
      simp [hnone, Interface.Raises]
    · rfl

/-- The mixin base raises what the mixins raise, besides its own exceptions. -/
theorem raises_populateBase {mixins : NameSet} {populated : Graph}
    (h : g.populateBase base mixins = .ok populated) :
    populated.Raises id t ↔
      g.Raises id t ∨ id = base ∧ ∃ m, mixins.contains m = true ∧ g.Raises m t := by
  unfold populateBase at h
  dsimp only at h
  split at h
  · next hcontains =>
    cases h
    obtain ⟨b, hb⟩ := contains_iff.mp hcontains
    unfold Raises
    rw [find?_modify]
    by_cases hid : id = base
    · subst hid
      rw [if_pos rfl, hb, Option.map_some]
      simp only [Option.some.injEq, exists_eq_left']
      rw [Interface.raises_of_append rfl rfl, true_and]
      -- what the base raises itself is there without the mixins
      constructor
      · rintro (hbase | ⟨source, hsource, hraises⟩)
        · exact .inl hbase
        · obtain ⟨m, hmixin, _, hm⟩ := mem_mixinInterfaces_iff.mp hsource
          exact .inr ⟨m, hmixin, source, hm, hraises⟩
      · rintro (hbase | ⟨m, hmixin, source, hm, hraises⟩)
        · exact .inl hbase
        · by_cases hne : m = id
          · rw [hne, hb] at hm
            cases hm
            exact .inl hraises
          · exact .inr ⟨source, mem_mixinInterfaces_iff.mpr ⟨m, hmixin, hne, hm⟩, hraises⟩
    · simp [hid]
  · cases h

end Graph

/-! ### What is collected -/

/-- The exceptions of an interface are collected: it is the mixin base, or it passes the source
filter. -/
def Config.Selects (c : Config) (i : Interface) : Prop :=
  i.id = c.mixinBase ∨ c.matchesSource i.annotations = true

instance (c : Config) (i : Interface) : Decidable (c.Selects i) :=
  inferInstanceAs (Decidable (_ ∨ _))

theorem Config.selects_addEventTarget {c : Config} {target : String} {i : Interface} :
    c.Selects (i.addEventTarget target) ↔ c.Selects i := by
  unfold Interface.addEventTarget
  split <;> rfl

/-- An interface of the graph that is selected raises an exception. -/
def Config.Collects (c : Config) (g : Graph) (t : TypeName) : Prop :=
  ∃ i ∈ g.interfaces, c.Selects i ∧ i.Raises t

instance (c : Config) (g : Graph) (t : TypeName) : Decidable (c.Collects g t) :=
  inferInstanceAs (Decidable (∃ i ∈ g.interfaces, _))

namespace Plan

variable {c : Config} {auxiliary : NameSet} {g : Graph} {plan : Plan} {id : String} {t : TypeName}

/-- The roots of a run that are in the graph are the interfaces that are selected. -/
theorem mem_filterMap_roots_iff (hg : g.Keyed) {i : Interface} :
    i ∈ (roots c g).filterMap g.find? ↔ i ∈ g.interfaces ∧ c.Selects i := by
  rw [List.mem_filterMap, hg.mem_interfaces_iff]
  unfold roots Config.Selects
  constructor
  · rintro ⟨id, hid, hi⟩
    obtain rfl := hg id i hi
    refine ⟨hi, (List.mem_cons.mp hid).imp_right fun hmem => ?_⟩
    obtain ⟨j, hj, hsame⟩ := List.mem_map.mp hmem
    obtain ⟨hj, htest⟩ := List.mem_filter.mp hj
    have hfind := hg.mem_interfaces_iff.mp hj
    rw [hsame, hi] at hfind
    cases hfind
    exact (Bool.and_eq_true_iff.mp htest).2
  · rintro ⟨hi, hselects⟩
    refine ⟨i.id, ?_, hi⟩
    by_cases hbase : i.id = c.mixinBase
    · exact hbase ▸ List.mem_cons_self
    · refine List.mem_cons_of_mem _ (List.mem_map_of_mem (List.mem_filter.mpr ⟨?_, ?_⟩))
      · exact hg.mem_interfaces_iff.mpr hi
      · simpa [hbase] using hselects.resolve_left hbase

theorem exceptions_of_make (h : make c auxiliary g = .ok plan) :
    plan.exceptions = raisedTypes ((roots c (g.addEventTargets c.eventTarget)).filterMap
      (g.addEventTargets c.eventTarget).find?) := by
  unfold make at h
  dsimp only at h
  split at h
  · cases h
  · cases h
    rfl

theorem contains_exceptions_iff (hg : g.Keyed) (h : make c auxiliary g = .ok plan) :
    plan.exceptions.contains t = true ↔ c.Collects g t := by
  rw [exceptions_of_make h, contains_raisedTypes_iff]
  unfold Config.Collects
  simp only [mem_filterMap_roots_iff (hg.addEventTargets c.eventTarget)]
  unfold Graph.addEventTargets
  simp only [Graph.interfaces_mapInterfaces, List.mem_map]
  constructor
  · rintro ⟨_, ⟨⟨i, hi, rfl⟩, hselects⟩, hraises⟩
    exact ⟨i, hi, Config.selects_addEventTarget.mp hselects,
      Interface.raises_addEventTarget.mp hraises⟩
  · rintro ⟨i, hi, hselects, hraises⟩
    exact ⟨_, ⟨⟨i, hi, rfl⟩, Config.selects_addEventTarget.mpr hselects⟩,
      Interface.raises_addEventTarget.mpr hraises⟩

/-- What an interface of a run raises, it raises in the graph already, or it is the mixin base and a
mixin raises it there. -/
theorem Made.raises_iff (h : Made c auxiliary g plan) :
    plan.setting.graph.Raises id t ↔
      g.Raises id t ∨
        id = c.mixinBase ∧ ∃ m, plan.setting.mixins.contains m = true ∧ g.Raises m t := by
  rw [Graph.raises_populateBase h.populated]
  unfold prepared
  simp only [Graph.raises_ensureBase, Graph.raises_addEventTargets]

end Plan

/-! ### What is reported -/

namespace Report

/-- An interface is generated, as such or as a callback. -/
def Generates (report : Report) (id : String) : Prop :=
  id ∈ report.interfaces ∨ id ∈ report.callbacks

/-- The members of an interface are generated: those of its own, or on the mixin base as those of a
mixin. -/
def Shows (report : Report) (base id : String) : Prop :=
  report.Generates id ∨ report.mixins.contains id = true ∧ report.Generates base

instance (report : Report) (id : String) : Decidable (report.Generates id) :=
  inferInstanceAs (Decidable (_ ∨ _))

instance (report : Report) (base id : String) : Decidable (report.Shows base id) :=
  inferInstanceAs (Decidable (_ ∨ _))

end Report

/-- Every exception that a generated interface raises, as it stands in the graph of the run, is
reported. -/
def Generation.Covers (gen : Generation) (report : Report) : Prop :=
  ∀ id, report.Generates id → ∀ t, gen.setting.graph.Raises id t →
    report.exceptions.contains t = true

variable {c : Config} {auxiliary : NameSet} {stations : List Station} {g : Graph} {report : Report}
  {gen : Generation}

/-- What generated interfaces raise is what the interfaces whose members are generated raise. -/
theorem Generation.Carried.exists_raises_iff {plan : Plan} {t : TypeName}
    (h : Carried c auxiliary stations g report plan) (hg : g.Keyed) :
    (∃ id, report.Generates id ∧ plan.setting.graph.Raises id t) ↔
      ∃ i ∈ g.interfaces, report.Shows c.mixinBase i.id ∧ i.Raises t := by
  have hmixins : report.mixins = plan.setting.mixins := by
    rw [h.report_eq]
    rfl
  unfold Report.Shows
  simp only [h.raises_iff, hg.mem_interfaces_iff, hmixins]
  constructor
  · rintro ⟨id, hid, ⟨i, hi, hraises⟩ | ⟨rfl, m, hmixin, i, hi, hraises⟩⟩
    · obtain rfl := hg id i hi
      exact ⟨i, hi, .inl hid, hraises⟩
    · obtain rfl := hg m i hi
      exact ⟨i, hi, .inr ⟨hmixin, hid⟩, hraises⟩
  · rintro ⟨i, hi, hid | ⟨hmixin, hbase⟩, hraises⟩
    · exact ⟨i.id, hid, .inl ⟨i, hi, hraises⟩⟩
    · exact ⟨c.mixinBase, hbase, .inr ⟨rfl, i.id, hmixin, i, hi, hraises⟩⟩

/-- The reported exceptions are those of the interfaces that are selected.  So they are all that the
run raises if and only if the other interfaces whose members are generated raise nothing that no
selected one raises.  Without a source filter there are no others. -/
theorem exceptions_cover_iff (hg : g.Keyed) (hgen : generate c auxiliary stations g = gen)
    (h : gen.outcome = .ok report) :
    (∀ t, report.exceptions.contains t = true ↔ c.Collects g t) ∧
    (gen.Covers report ↔
      ∀ i ∈ g.interfaces, ¬ c.Selects i → report.Shows c.mixinBase i.id →
        ∀ t, i.Raises t → c.Collects g t) ∧
    (c.sourceFilter = [] → gen.Covers report) := by
  subst hgen
  obtain ⟨plan, hplan⟩ := Plan.exists_make c auxiliary g
  obtain ⟨hcarried, _⟩ := Generation.carried_of_make hplan h
  have hreported : ∀ t, report.exceptions.contains t = true ↔ c.Collects g t := by
    intro t
    rw [hcarried.report_eq]
    exact Plan.contains_exceptions_iff hg hplan
  have hcovers : (generate c auxiliary stations g).Covers report ↔
      ∀ i ∈ g.interfaces, ¬ c.Selects i → report.Shows c.mixinBase i.id →
        ∀ t, i.Raises t → c.Collects g t := by
    unfold Generation.Covers
    rw [hcarried.setting_eq]
    simp only [hreported]
    constructor
    · intro hall i hi _ hshows t hraises
      obtain ⟨id, hid, hraised⟩ := (hcarried.exists_raises_iff hg).mpr ⟨i, hi, hshows, hraises⟩
      exact hall id hid t hraised
    · intro hothers id hid t hraised
      obtain ⟨i, hi, hshows, hraises⟩ := (hcarried.exists_raises_iff hg).mp ⟨id, hid, hraised⟩
      by_cases hselects : c.Selects i
      · exact ⟨i, hi, hselects, hraises⟩
      · exact hothers i hi hselects hshows t hraises
  refine ⟨hreported, hcovers, fun hfilter => hcovers.mpr fun i _ hselects => ?_⟩
  have hmatches : c.matchesSource i.annotations = true := by
    simp [Config.matchesSource, hfilter]
  exact absurd (.inr hmatches) hselects

/-- An element of one source with an ancestor and a mixin that other sources declare.  Both of these
raise exceptions, and the element raises the given one. -/
def elementInterfaces (raised : Option TypeName) : List Interface :=
  let count : Attribute :=
    { id := "childElementCount", type := "long", getRaises := some "HierarchyException" }
  let normalize : Operation :=
    { id := "normalize", type := "void", raises := some "HierarchyException" }
  let content : Attribute :=
    { id := "innerHTML", type := "DOMString", isSetter := true, setRaises := raised }
  [{ id := "ElementTraversal", attributes := [count] },
    { id := "Node", operations := [normalize] },
    { id := "Element", parents := [{ type := "Node" }], attributes := [content],
      annotations := webKit }]

def elementReport (raised : List String) : Report :=
  { plainReport ["ElementalMixinBase", "Node", "Element"] with
    exceptions := NameSet.ofNames raised }

/-- Here the element raises what the others raise, and nothing is missing. -/
theorem exceptions_cover_iff_element :
    let run := sourceRun (elementInterfaces (some "HierarchyException"))
    let report := elementReport ["HierarchyException"]
    run.outcome = .ok report ∧ run.setting.graph.Raises "Node" "HierarchyException" ∧
      run.setting.graph.Raises "ElementalMixinBase" "HierarchyException" ∧ run.Covers report := by
  intro run report
  have hfacts : run.outcome = .ok report ∧
      run.setting.graph.Raises "Node" "HierarchyException" ∧
      run.setting.graph.Raises "ElementalMixinBase" "HierarchyException" := by
    decide +kernel
  refine ⟨hfacts.1, hfacts.2.1, hfacts.2.2, ?_⟩
  refine (exceptions_cover_iff Graph.keyed_empty.foldl_add rfl hfacts.1).2.1.mpr ?_
  have hcollects : ∀ i ∈ ((elementInterfaces (some "HierarchyException")).foldl Graph.add
      Graph.empty).interfaces, ∀ t ∈ i.raisedTypes,
        Config.Collects { sourceFilter := ["WebKit"] }
          ((elementInterfaces (some "HierarchyException")).foldl Graph.add Graph.empty) t := by
    decide +kernel
  exact fun i hi _ _ t hraises => hcollects i hi t (Interface.mem_raisedTypes_iff.mpr hraises)

/-- Here it raises nothing, and neither what its ancestor raises nor what the mixin base raises is
reported. -/
theorem element_exceptions_missing :
    let run := sourceRun (elementInterfaces none)
    let report := elementReport []
    run.outcome = .ok report ∧
      (∀ id ∈ ["Node", "ElementalMixinBase"],
        report.Generates id ∧ run.setting.graph.Raises id "HierarchyException") ∧
      ¬ run.Covers report := by
  intro run report
  have hfacts : run.outcome = .ok report ∧
      ∀ id ∈ ["Node", "ElementalMixinBase"],
        report.Generates id ∧ run.setting.graph.Raises id "HierarchyException" := by
    decide +kernel
  refine ⟨hfacts.1, hfacts.2, fun hcovers => ?_⟩
  obtain ⟨hgenerates, hraises⟩ := hfacts.2 "Node" (by simp)
  exact absurd (hcovers "Node" hgenerates _ hraises) (by decide)

end Bindery
