import Bindery.Proofs.Ancestors
import Bindery.Proofs.Emission
import Bindery.Proofs.Mixin
import Bindery.Proofs.Protocol

/-! # Supertypes are emitted

A header names interfaces that other code has chosen than the one that decides what is visited.  The
two agree because a visit takes along what an interface inherits from: whatever a header takes from
the parents of an interface is reached along them (`Graph.secondaryAncestors_sound`), and so it is
visited as well (`Plan.Made.mem_order_of_reach`).  The mixins are found among what is visited, but
for those that are named by hand (`Plan.Made.mem_order_of_mixin`).

What is visited has a unit of each kind, except that callbacks have no overlay class and the mixin
base has no contract.  `supertypes_emitted` puts this together.  It leaves two cases open, in which
the supertype is missing as well (`not_hasUnit_of_left_open`). -/

namespace Bindery

open Relation

/-! ### What headers name -/

/-- The interfaces that a header names as supertypes, each with the kind of unit that is meant.
They are given by their identifiers in the graph, whereas the text of the header drops the modules
of an identifier. -/
def Header.named : Header → List (Backend × TypeName)
  | .contract supertypes => supertypes.map (.contract, ·)
  | .overlay superclass implemented =>
    superclass.toList.map (.overlay, ·) ++ implemented.map (.contract, ·)
  | .callback => []

/-! ### Ancestors are inherited from -/

namespace Graph

variable {g : Graph} {id : String}

theorem secondaryAncestors_sound (hg : g.Keyed) {a : Ancestor} (h : a ∈ g.secondaryAncestors id) :
    TypeName.isContainer a.name = true ∨ ReflTransGen g.Inherits id a.name := by
  cases hi : g.find? id with
  | none => simp [secondaryAncestors, hi] at h
  | some i =>
      obtain rfl := hg id i hi
      obtain ⟨_, hstands, p, hp, hleads⟩ := (mem_secondaryAncestors_iff hg hi).mp h
      cases hcontainer : TypeName.isContainer a.name with
      | true => exact .inl rfl
      | false =>
          have hcontains : g.contains a.name = true :=
            (exists_ancestor?_iff.mp ⟨a, hstands⟩).resolve_left (by simp [hcontainer])
          obtain ⟨hparent, hparent', hreach⟩ :=
            reflTransGen_inherits_of_leads hleads hcontainer hcontains
          have hstep : g.Inherits i.id p.type :=
            ⟨i, hi, ⟨p, List.mem_of_mem_tail hp, rfl⟩, hparent, hparent'⟩
          exact .inr (.head hstep hreach)

/-! ### Containers end a walk -/

/-- An interface of the graph that bears the name of a container, or that is met on the primary
chain of one.  No walk goes beyond a container. -/
def BehindContainer (g : Graph) (name : String) : Prop :=
  ∃ container, TypeName.isContainer container = true ∧ g.contains container = true ∧
    ReflTransGen (fun u v => g.primaryName? u = some v) container name

theorem behindContainer_of_isContainer {name : String} (h : TypeName.isContainer name = true)
    (hname : g.contains name = true) : g.BehindContainer name :=
  ⟨name, h, hname, .refl⟩

variable {ids : List String} {u v : String}

theorem mem_ancestorFirst_of_parent (hu : u ∈ g.ancestorFirst ids) {i : Interface}
    (hi : g.find? u = some i) (hparent : v ∈ i.parents.map (·.type)) (hv : g.contains v = true) :
    v ∈ g.ancestorFirst ids ∨ g.BehindContainer v := by
  cases hcontainer : TypeName.isContainer v with
  | true => exact .inr (behindContainer_of_isContainer hcontainer hv)
  | false =>
      have hinherits : g.Inherits u v := ⟨i, hi, List.mem_map.mp hparent, hcontainer, hv⟩
      exact .inl (mem_ancestorFirst_of_inherits hu hinherits)

theorem exists_of_primaryName? (h : g.primaryName? u = some v) :
    ∃ i, g.find? u = some i ∧ v ∈ i.parents.map (·.type) := by
  unfold primaryName? at h
  split at h
  · cases h
  · next i hi =>
    obtain ⟨p, hp, rfl⟩ := Option.map_eq_some_iff.mp h
    exact ⟨i, hi, List.mem_map_of_mem (List.mem_of_head? hp)⟩

/-- A walk takes along the primary chain of a parent, as far as there is no container. -/
theorem mem_ancestorFirst_of_chain (hu : u ∈ g.ancestorFirst ids) {i : Interface}
    (hi : g.find? u = some i) {parent : TypeName} (hparent : parent ∈ i.parents.map (·.type))
    (hchain : ReflTransGen (fun u v => g.primaryName? u = some v) parent v)
    (hv : g.contains v = true) : v ∈ g.ancestorFirst ids ∨ g.BehindContainer v := by
  induction hchain with
  | refl => exact mem_ancestorFirst_of_parent hu hi hparent hv
  | @tail w v _ hstep ih =>
      obtain ⟨j, hj, hmem⟩ := exists_of_primaryName? hstep
      rcases ih (contains_iff.mpr ⟨j, hj⟩) with hw | ⟨container, hcontainer, hcontains, hchain⟩
      · exact mem_ancestorFirst_of_parent hw hj hmem hv
      · exact .inr ⟨container, hcontainer, hcontains, hchain.tail hstep⟩

/-- What is hoisted on account of listed interfaces was taken along by the walk that lists them. -/
theorem mem_ancestorFirst_of_hoists {parent first other : String}
    (h : g.Conflict (g.ancestorFirst ids) parent first other) (hhoists : g.Hoists parent v)
    (hv : g.contains v = true) : v ∈ g.ancestorFirst ids ∨ g.BehindContainer v := by
  obtain ⟨_, ⟨hother, i, hi, hparent⟩, _⟩ := h
  have hmem : parent ∈ i.parents.map (·.type) := by
    obtain ⟨p, hp, rfl⟩ := List.mem_map.mp hparent
    exact List.mem_map_of_mem (List.mem_of_mem_tail hp)
  rcases hhoists with rfl | ⟨hlineage, _⟩
  · exact mem_ancestorFirst_of_parent hother hi hmem hv
  · have hchain := transGen_of_mem_chainFrom hlineage
    exact mem_ancestorFirst_of_chain hother hi hmem hchain.to_reflTransGen hv

/-! ### Graphs with the same parents -/

/-- Two graphs have the same interfaces, with the same parents. -/
def SameParents (g h : Graph) : Prop :=
  ∀ id, (g.find? id).map (·.parents) = (h.find? id).map (·.parents)

theorem sameParents_populateBase {base : String} {mixins : NameSet} {populated : Graph}
    (h : g.populateBase base mixins = .ok populated) : populated.SameParents g := by
  intro id
  unfold populateBase at h
  dsimp only at h
  split at h
  · cases h
    rw [find?_modify]
    split
    · rw [Option.map_map]
      rfl
    · rfl
  · cases h

variable {h : Graph}

theorem SameParents.symm (hsame : g.SameParents h) : h.SameParents g :=
  fun id => (hsame id).symm

theorem SameParents.exists_find? (hsame : g.SameParents h) {i : Interface}
    (hi : g.find? u = some i) : ∃ j, h.find? u = some j ∧ j.parents = i.parents := by
  have hparents := hsame u
  rw [hi, Option.map_some] at hparents
  exact Option.map_eq_some_iff.mp hparents.symm

theorem SameParents.contains (hsame : g.SameParents h) (hu : g.contains u = true) :
    h.contains u = true := by
  obtain ⟨i, hi⟩ := contains_iff.mp hu
  obtain ⟨j, hj, _⟩ := hsame.exists_find? hi
  exact contains_iff.mpr ⟨j, hj⟩

theorem SameParents.inherits (hsame : g.SameParents h) (hinherits : g.Inherits u v) :
    h.Inherits u v := by
  obtain ⟨i, hi, hparent, hcontainer, hcontains⟩ := hinherits
  obtain ⟨j, hj, hparents⟩ := hsame.exists_find? hi
  exact ⟨j, hj, hparents ▸ hparent, hcontainer, hsame.contains hcontains⟩

theorem SameParents.primaryName? (hsame : g.SameParents h) (hname : g.primaryName? u = some v) :
    h.primaryName? u = some v := by
  unfold Graph.primaryName? at hname ⊢
  cases hi : g.find? u with
  | none => simp [hi] at hname
  | some i =>
      obtain ⟨j, hj, hparents⟩ := hsame.exists_find? hi
      simpa [hi, hj, Interface.primaryParent?, hparents] using hname

theorem SameParents.behindContainer (hsame : g.SameParents h) (hu : g.BehindContainer u) :
    h.BehindContainer u := by
  obtain ⟨container, hcontainer, hcontains, hchain⟩ := hu
  exact ⟨container, hcontainer, hsame.contains hcontains,
    ReflTransGen.mono (fun _ _ => hsame.primaryName?) _ _ hchain⟩

end Graph

/-! ### What headers name is visited -/

namespace Plan

variable {c : Config} {auxiliary : NameSet} {g : Graph} {plan : Plan} {i : Interface} {t : TypeName}

theorem mixinBase_mem_order (c : Config) (g : Graph) : c.mixinBase ∈ order c g :=
  Graph.mem_ancestorFirst_iff.mpr ⟨c.mixinBase, List.mem_cons_self,
    contains_prepared_iff.mpr (.inl rfl), .refl⟩

theorem Made.sameParents (h : Made c auxiliary g plan) :
    plan.setting.graph.SameParents (prepared c g) :=
  Graph.sameParents_populateBase h.populated

theorem Made.mem_order_of_reach (h : Made c auxiliary g plan) {u v : String} (hu : u ∈ order c g)
    (hreach : ReflTransGen plan.setting.graph.Inherits u v) : v ∈ order c g :=
  Graph.mem_ancestorFirst_of_reflTransGen hu
    (ReflTransGen.mono (fun _ _ => h.sameParents.inherits) _ _ hreach)

theorem Made.mem_order_of_parent (h : Made c auxiliary g plan) (hi : i.id ∈ order c g)
    (hfind : plan.setting.graph.find? i.id = some i) (hparent : t ∈ i.parents.map (·.type))
    (ht : plan.setting.graph.contains t = true) :
    t ∈ order c g ∨ plan.setting.graph.BehindContainer t := by
  obtain ⟨j, hj, hparents⟩ := h.sameParents.exists_find? hfind
  refine (Graph.mem_ancestorFirst_of_parent hi hj (hparents ▸ hparent)
    (h.sameParents.contains ht)).imp_right h.sameParents.symm.behindContainer

theorem Made.mem_order_of_mixin (h : Made c auxiliary g plan)
    (hmixin : plan.setting.mixins.contains t = true)
    (ht : plan.setting.graph.contains t = true) :
    t ∈ order c g ∨ plan.setting.graph.BehindContainer t ∨ t ∈ c.manualMixins := by
  rw [h.mixins_eq, Graph.contains_mixins] at hmixin
  rcases hmixin with hmanual | ⟨parent, first, other, hconflict, hhoists⟩
  · exact .inr (.inr hmanual)
  · refine (Graph.mem_ancestorFirst_of_hoists hconflict hhoists
      (h.sameParents.contains ht)).imp_right fun hbehind => ?_
    exact .inl (h.sameParents.symm.behindContainer hbehind)

theorem Made.mem_order_of_implemented (h : Made c auxiliary g plan) (hg : g.Keyed)
    (hi : i.id ∈ order c g) (hnamed : t ∈ plan.setting.implemented i)
    (ht : plan.setting.graph.contains t = true) :
    t ∈ order c g ∨ plan.setting.graph.BehindContainer t ∨
      i.id = c.mixinBase ∧ t ∈ c.manualMixins := by
  unfold Setting.implemented at hnamed
  rw [h.config_eq] at hnamed
  split at hnamed
  · next hbase =>
    obtain ⟨hmixin, _⟩ := List.mem_filter.mp hnamed
    refine (h.mem_order_of_mixin (SortedMap.mem_keys_iff.mp hmixin) ht).imp_right ?_
    exact Or.imp_right fun hmanual => ⟨hbase, hmanual⟩
  · obtain ⟨a, ha, rfl⟩ := List.mem_map.mp (mem_distinct_iff.mp hnamed)
    obtain ⟨ha, _⟩ := List.mem_filter.mp ha
    rcases Graph.secondaryAncestors_sound (h.keyed hg) ha with hcontainer | hreach
    · exact .inr (.inl (Graph.behindContainer_of_isContainer hcontainer ht))
    · exact .inl (h.mem_order_of_reach hi hreach)

theorem Made.mem_order_of_superclass (h : Made c auxiliary g plan) (hg : g.Keyed)
    (hi : i.id ∈ order c g) (hfind : plan.setting.graph.find? i.id = some i)
    (hsuper : Backend.overlaySuperclass plan.setting (plan.setting.context i) = some t) :
    t ∈ order c g := by
  unfold Backend.overlaySuperclass at hsuper
  split at hsuper
  · cases hsuper
  · split at hsuper
    · next parent hparent =>
      cases hsuper
      unfold Context.primaryInterface? at hparent
      split at hparent
      · cases hparent
      · next p hp =>
        split at hparent
        · cases hparent
        · next hcontainer =>
          have hinherits : plan.setting.graph.Inherits i.id p.type :=
            ⟨i, hfind, ⟨p, List.mem_of_head? hp, rfl⟩, by simpa using hcontainer,
              Graph.contains_iff.mpr ⟨parent, hparent⟩⟩
          rw [h.keyed hg p.type parent hparent]
          exact h.mem_order_of_reach hi (.single hinherits)
    · cases hsuper
      rw [h.config_eq]
      exact mixinBase_mem_order c g

/-- The interfaces that the header of a visited interface names are visited, except those behind
containers and the mixins that are named by hand. -/
theorem Made.mem_order_of_named (h : Made c auxiliary g plan) (hg : g.Keyed)
    (hi : i.id ∈ order c g) (hfind : plan.setting.graph.find? i.id = some i) {b kind : Backend}
    (hnamed : (kind, t) ∈ (b.opened plan.setting (plan.setting.context i)).header.named)
    (ht : plan.setting.graph.contains t = true) :
    t ∈ order c g ∨ kind = .contract ∧
      (plan.setting.graph.BehindContainer t ∨ i.id = c.mixinBase ∧ t ∈ c.manualMixins) := by
  have himplemented : t ∈ plan.setting.implemented i →
      t ∈ order c g ∨ plan.setting.graph.BehindContainer t ∨
        i.id = c.mixinBase ∧ t ∈ c.manualMixins :=
    fun hmem => h.mem_order_of_implemented hg hi hmem ht
  cases b with
  | contract =>
      obtain ⟨_, hmem, heq⟩ := List.mem_map.mp hnamed
      cases heq
      rcases List.mem_append.mp hmem with hprimary | hmem
      · obtain ⟨hparent, _⟩ := Option.filter_eq_some_iff.mp (Option.mem_toList.mp hprimary)
        obtain ⟨p, hp, rfl⟩ := Option.map_eq_some_iff.mp hparent
        have hmem : p.type ∈ i.parents.map (·.type) := List.mem_map_of_mem (List.mem_of_head? hp)
        refine (h.mem_order_of_parent hi hfind hmem ht).imp_right fun hbehind => ?_
        exact ⟨rfl, .inl hbehind⟩
      · exact (himplemented hmem).imp_right fun hrest => ⟨rfl, hrest⟩
  | overlay =>
      rcases List.mem_append.mp hnamed with hsuper | himpl
      · obtain ⟨_, hmem, heq⟩ := List.mem_map.mp hsuper
        cases heq
        exact .inl (h.mem_order_of_superclass hg hi hfind (Option.mem_toList.mp hmem))
      · obtain ⟨_, hmem, heq⟩ := List.mem_map.mp himpl
        cases heq
        have hown : t = i.id ∨ t ∈ plan.setting.implemented i := by
          unfold Backend.overlayImplemented at hmem
          split at hmem
          · exact .inr hmem
          · exact List.mem_cons.mp hmem
        rcases hown with rfl | hmem
        · exact .inl hi
        · exact (himplemented hmem).imp_right fun hrest => ⟨rfl, hrest⟩

end Plan

/-! ### What is visited has units -/

namespace Generation

/-- A backend has rendered a unit of an interface. -/
def HasUnit (gen : Generation) (b : Backend) (id : String) : Prop :=
  ∃ r ∈ gen.rendered, r.backend = b ∧ r.unit.subject = id

instance (gen : Generation) (b : Backend) (id : String) : Decidable (gen.HasUnit b id) :=
  inferInstanceAs (Decidable (∃ r ∈ gen.rendered, _))

variable {c : Config} {auxiliary : NameSet} {stations : List Station} {g : Graph} {report : Report}
  {plan : Plan} {b : Backend} {id : String}

/-- Interfaces that are generated have a unit of each kind, the mixin base without a contract, and
callbacks have a contract. -/
theorem Carried.hasUnit_iff (h : Carried c auxiliary stations g report plan) (hg : g.Keyed)
    (hb : ∃ st ∈ stations, st.backend = b) (hid : plan.setting.graph.contains id = true) :
    (generate c auxiliary stations g).HasUnit b id ↔
      id ∈ report.interfaces ∧ (b = .overlay ∨ id ≠ c.mixinBase) ∨
        id ∈ report.callbacks ∧ b = .contract := by
  obtain ⟨i, hi⟩ := Graph.contains_iff.mp hid
  obtain rfl : i.id = id := h.keyed hg id i hi
  have hunits := h.exists_rendered_iff hg hi b fun _ => True
  simp only [and_true, and_iff_right hb] at hunits
  unfold HasUnit
  rw [hunits]
  refine or_congr (and_congr_right fun _ => ?_) (and_congr_right fun hcallback => ?_)
  · rw [Backend.accepts_iff, h.config_eq]
    cases b <;> simp [Setting.context]
  · rw [h.report_eq, h.mem_callbacks_iff hg hi] at hcallback
    obtain ⟨callback, hcallback, _⟩ := hcallback
    exact and_iff_left ⟨callback, hcallback⟩

/-- A unit that names supertypes is that of an interface which was generated. -/
theorem Carried.exists_of_named (h : Carried c auxiliary stations g report plan) (hg : g.Keyed)
    {r : Rendered} (hr : r ∈ (generate c auxiliary stations g).rendered)
    {entry : Backend × TypeName} (hnamed : entry ∈ r.unit.header.named) :
    ∃ i, plan.setting.graph.find? i.id = some i ∧ i.id = r.unit.subject ∧
      i.id ∈ report.interfaces ∧
      entry ∈ (r.backend.opened plan.setting (plan.setting.context i)).header.named := by
  obtain ⟨i, hi, hsubject⟩ := h.find?_subject hg hr
  have hunit := (h.exists_rendered_iff hg hi r.backend (· = r.unit)).mp
    ⟨r, hr, rfl, hsubject, rfl⟩
  rcases hunit.2 with ⟨hgenerated, _, hbuilt⟩ | ⟨_, _, callback, _, hcallback⟩
  · refine ⟨i, hi, hsubject.symm, hgenerated, ?_⟩
    rw [← hbuilt] at hnamed
    exact hnamed
  · rw [← hcallback] at hnamed
    cases hnamed

end Generation

/-- All that a run has visited. -/
def Report.visited (report : Report) : List String :=
  report.interfaces ++ report.callbacks ++ report.skipped

/-- The supertypes that a header of the given subject may name without a unit of the kind that is
meant: the contract of the mixin base, which has none, for the mixin base itself the contract of a
mixin that is named by hand and not visited, and the overlay class of a callback, which has none
either. -/
def Report.Exempt (report : Report) (c : Config) (subject : String) (kind : Backend)
    (t : TypeName) : Prop :=
  match kind with
  | .contract =>
    t = c.mixinBase ∧ t ∈ report.interfaces ∨
      subject = c.mixinBase ∧ t ∈ c.manualMixins ∧ t ∉ report.visited
  | .overlay => t ∈ report.callbacks ∧ t ≠ c.mixinBase

instance (report : Report) (c : Config) (subject : String) (kind : Backend) (t : TypeName) :
    Decidable (report.Exempt c subject kind t) :=
  match kind with
  | .contract => inferInstanceAs (Decidable (_ ∨ _))
  | .overlay => inferInstanceAs (Decidable (_ ∧ _))

variable {c : Config} {auxiliary : NameSet} {stations : List Station} {g : Graph} {report : Report}
  {plan : Plan} {gen : Generation} {kind : Backend} {t : TypeName}

theorem Interleaves.disjoint {items first second third : List String}
    (h : Interleaves items first second third) :
    first.Disjoint second ∧ first.Disjoint third ∧ second.Disjoint third := by
  have hnodup := h.perm.nodup_iff.mpr h.nodup
  have hthird := List.disjoint_of_nodup_append hnodup
  rw [List.disjoint_append_left] at hthird
  exact ⟨List.disjoint_of_nodup_append hnodup.of_append_left, hthird⟩

theorem Generation.Performed.mem_order_iff (h : Performed c auxiliary stations g report plan)
    (hg : g.Keyed) : t ∈ Plan.order c g ↔ t ∈ report.visited :=
  (h.interleaves hg).perm.mem_iff.symm

theorem Report.mem_visited_iff :
    t ∈ report.visited ↔ t ∈ report.interfaces ∨ t ∈ report.callbacks ∨ t ∈ report.skipped := by
  simp [visited]

/-- What is visited has a unit, is written by hand or exempt. -/
theorem Generation.Performed.hasUnit_of_mem_order (h : Performed c auxiliary stations g report plan)
    (hg : g.Keyed) (hb : ∃ st ∈ stations, st.backend = kind) (ht : t ∈ Plan.order c g)
    (subject : String) :
    (generate c auxiliary stations g).HasUnit kind t ∨ t ∈ report.skipped ∨
      report.Exempt c subject kind t ∨
        kind = .overlay ∧ t = c.mixinBase ∧ t ∈ report.callbacks := by
  have hcontains : plan.setting.graph.contains t = true :=
    h.sameParents.symm.contains (Graph.contains_of_mem_ancestorFirst ht)
  rw [h.hasUnit_iff hg hb hcontains]
  rcases Report.mem_visited_iff.mp ((h.mem_order_iff hg).mp ht) with
    hgenerated | hcalled | hskipped
  · by_cases hbase : t = c.mixinBase
    · subst hbase
      cases kind with
      | overlay => exact .inl (.inl ⟨hgenerated, .inl rfl⟩)
      | contract => exact .inr (.inr (.inl (.inl ⟨rfl, hgenerated⟩)))
    · exact .inl (.inl ⟨hgenerated, .inr hbase⟩)
  · cases kind with
    | contract => exact .inl (.inr ⟨hcalled, rfl⟩)
    | overlay =>
        by_cases hbase : t = c.mixinBase
        · exact .inr (.inr (.inr ⟨rfl, hbase, hcalled⟩))
        · exact .inr (.inr (.inl ⟨hcalled, hbase⟩))
  · exact .inr (.inl hskipped)

theorem Generation.Performed.not_hasUnit_of_mem_callbacks
    (h : Performed c auxiliary stations g report plan) (hg : g.Keyed)
    (hb : ∃ st ∈ stations, st.backend = .overlay) (ht : plan.setting.graph.contains t = true)
    (hcalled : t ∈ report.callbacks) :
    ¬ (generate c auxiliary stations g).HasUnit .overlay t ∧ t ∉ report.skipped := by
  obtain ⟨hcallbacks, _, hskipped⟩ := (h.interleaves hg).disjoint
  have hnot : t ∉ report.interfaces := fun hgenerated => hcallbacks hgenerated hcalled
  rw [h.hasUnit_iff hg hb ht]
  exact ⟨by simpa using hnot, hskipped hcalled⟩

theorem Generation.Performed.not_hasUnit_mixinBase
    (h : Performed c auxiliary stations g report plan) (hg : g.Keyed)
    (hb : ∃ st ∈ stations, st.backend = .contract)
    (ht : plan.setting.graph.contains c.mixinBase = true)
    (hgenerated : c.mixinBase ∈ report.interfaces) :
    ¬ (generate c auxiliary stations g).HasUnit .contract c.mixinBase ∧
      c.mixinBase ∉ report.skipped := by
  obtain ⟨hcallbacks, hskipped, _⟩ := (h.interleaves hg).disjoint
  have hnot : c.mixinBase ∉ report.callbacks := hcallbacks hgenerated
  rw [h.hasUnit_iff hg hb ht]
  exact ⟨by simpa using hnot, hskipped hgenerated⟩

theorem Generation.Performed.not_hasUnit_of_not_visited
    (h : Performed c auxiliary stations g report plan) (hg : g.Keyed)
    (hb : ∃ st ∈ stations, st.backend = kind) (ht : plan.setting.graph.contains t = true)
    (hunvisited : t ∉ report.visited) :
    ¬ (generate c auxiliary stations g).HasUnit kind t ∧ t ∉ report.skipped := by
  rw [h.hasUnit_iff hg hb ht]
  simp only [Report.mem_visited_iff, not_or] at hunvisited
  exact ⟨by simp [hunvisited], hunvisited.2.2⟩

theorem Generation.Performed.not_hasUnit_of_exempt
    (h : Performed c auxiliary stations g report plan) (hg : g.Keyed)
    (hb : ∃ st ∈ stations, st.backend = kind) (ht : plan.setting.graph.contains t = true)
    {subject : String} (hexempt : report.Exempt c subject kind t) :
    ¬ (generate c auxiliary stations g).HasUnit kind t ∧ t ∉ report.skipped := by
  cases kind with
  | overlay => exact h.not_hasUnit_of_mem_callbacks hg hb ht hexempt.1
  | contract =>
      rcases hexempt with ⟨rfl, hgenerated⟩ | ⟨_, _, hunvisited⟩
      · exact h.not_hasUnit_mixinBase hg hb ht hgenerated
      · exact h.not_hasUnit_of_not_visited hg hb ht hunvisited

/-- A mixin base that has become a callback has no overlay class, and what is not visited because it
lies behind an interface with the name of a container has no contract.  Neither is written by
hand. -/
theorem not_hasUnit_of_left_open (hg : g.Keyed) (hgen : generate c auxiliary stations g = gen)
    (h : gen.outcome = .ok report) (hb : ∀ b, ∃ st ∈ stations, st.backend = b)
    (ht : gen.setting.graph.contains t = true)
    (hopen : (kind = .overlay ∧ t = c.mixinBase ∧ t ∈ report.callbacks) ∨
      (kind = .contract ∧ t ∉ report.visited ∧ gen.setting.graph.BehindContainer t)) :
    ¬ gen.HasUnit kind t ∧ t ∉ report.skipped := by
  subst hgen
  obtain ⟨plan, hplan⟩ := Generation.exists_performed h
  rw [hplan.setting_eq] at ht
  rcases hopen with ⟨rfl, _, hcalled⟩ | ⟨_, hunvisited, _⟩
  · exact hplan.not_hasUnit_of_mem_callbacks hg (hb .overlay) ht hcalled
  · exact hplan.not_hasUnit_of_not_visited hg (hb kind) ht hunvisited

/-- In a run of both backends, every interface of the graph that a header names as a supertype has a
unit of the kind that is meant or is written by hand, unless it is exempt, and nothing that is
exempt has.  Left open are the overlay class of a mixin base that has itself become a callback, and
what is not visited because it lies behind an interface with the name of a container. -/
theorem supertypes_emitted (hg : g.Keyed) (hgen : generate c auxiliary stations g = gen)
    (h : gen.outcome = .ok report) (hb : ∀ b, ∃ st ∈ stations, st.backend = b) {r : Rendered}
    (hr : r ∈ gen.rendered) (hnamed : (kind, t) ∈ r.unit.header.named)
    (ht : gen.setting.graph.contains t = true) :
    (gen.HasUnit kind t ∨ t ∈ report.skipped ∨ report.Exempt c r.unit.subject kind t ∨
        (kind = .overlay ∧ t = c.mixinBase ∧ t ∈ report.callbacks) ∨
        (kind = .contract ∧ t ∉ report.visited ∧ gen.setting.graph.BehindContainer t)) ∧
      (report.Exempt c r.unit.subject kind t → ¬ gen.HasUnit kind t ∧ t ∉ report.skipped) := by
  subst hgen
  obtain ⟨plan, hplan⟩ := Generation.exists_performed h
  rw [hplan.setting_eq] at ht ⊢
  refine ⟨?_, hplan.not_hasUnit_of_exempt hg (hb kind) ht⟩
  obtain ⟨i, hi, hsubject, hgenerated, hopened⟩ := hplan.exists_of_named hg hr hnamed
  have hvisited : i.id ∈ Plan.order c g :=
    (hplan.mem_order_iff hg).mpr (Report.mem_visited_iff.mpr (.inl hgenerated))
  by_cases horder : t ∈ Plan.order c g
  · have hunit := hplan.hasUnit_of_mem_order hg (hb kind) horder r.unit.subject
    exact hunit.imp_right (Or.imp_right (Or.imp_right .inl))
  · have hunvisited : t ∉ report.visited := fun hmem => horder ((hplan.mem_order_iff hg).mpr hmem)
    obtain ⟨rfl, hbehind | ⟨hbase, hmanual⟩⟩ :=
      (hplan.mem_order_of_named hg hvisited hi hopened ht).resolve_left horder
    · exact .inr (.inr (.inr (.inr ⟨rfl, hunvisited, hbehind⟩)))
    · exact .inr (.inr (.inl (.inr ⟨hsubject ▸ hbase, hmanual, hunvisited⟩)))

/-- Both backends, with their own templates. -/
def bothStations : List Station :=
  [.contract, .overlay].map fun b => { backend := b, templates := .builtin }

/-- What both backends generate for the interfaces of one source. -/
def sourceRun (interfaces : List Interface) : Generation :=
  generate { sourceFilter := ["WebKit"] } SortedMap.empty bothStations
    (interfaces.foldl Graph.add Graph.empty)

/-- The annotations of that source. -/
def webKit : Annotations :=
  SortedMap.ofList [("WebKit", SortedMap.empty)]

/-- A mixin of another source, a callback with an heir, and an heir of the mixin base. -/
def panelInterfaces : List Interface :=
  [{ id := "ElementTraversal" }, { id := "Node", annotations := webKit },
    { id := "Handler", operations := [{ id := "handle", type := "void" }],
      extensions := SortedMap.ofList [("Callback", none)], annotations := webKit },
    { id := "Button", parents := [{ type := "Handler" }], annotations := webKit },
    { id := "Panel", parents := [{ type := "ElementalMixinBase" }, { type := "Node" }],
      annotations := webKit }]

def panelRun : Generation :=
  sourceRun panelInterfaces

def panelReport : Report :=
  { plainReport ["ElementalMixinBase", "Button", "Node", "Panel"] with callbacks := ["Handler"] }

theorem panelRun_named :
    panelRun.outcome = .ok panelReport ∧
      (∀ id ∈ panelRun.setting.graph.ids, TypeName.isContainer id = false) ∧
      ∀ entry ∈ [("Panel", Backend.contract, "Node"),
          ("ElementalMixinBase", .contract, "ElementTraversal"), ("Button", .overlay, "Handler"),
          ("Panel", .contract, "ElementalMixinBase")],
        panelRun.setting.graph.contains entry.2.2 = true ∧
          ∃ r ∈ panelRun.rendered, r.unit.subject = entry.1 ∧ entry.2 ∈ r.unit.header.named := by
  decide +kernel

theorem supertypes_emitted_panelRun :
    panelRun.HasUnit .contract "Node" ∧ ¬ panelRun.HasUnit .contract "ElementTraversal" ∧
      ¬ panelRun.HasUnit .overlay "Handler" ∧
      ¬ panelRun.HasUnit .contract "ElementalMixinBase" := by
  obtain ⟨houtcome, hcontainers, hnamed⟩ := panelRun_named
  have hkeyed : (panelInterfaces.foldl Graph.add Graph.empty).Keyed := Graph.keyed_empty.foldl_add
  have hboth : ∀ b, ∃ st ∈ bothStations, st.backend = b := by
    intro b
    cases b <;> simp [bothStations]
  refine ⟨?_, ?_, ?_, ?_⟩
  · obtain ⟨ht, r, hr, hsubject, hmem⟩ := hnamed ("Panel", .contract, "Node") (by simp)
    have hemitted := (supertypes_emitted hkeyed rfl houtcome hboth hr hmem ht).1
    rcases hemitted with hunit | hskipped | hexempt | ⟨hkind, _⟩ | ⟨_, _, k, hk, hcontains, _⟩
    · exact hunit
    · cases hskipped
    · rw [hsubject] at hexempt
      exact absurd hexempt (by decide)
    · cases hkind
    · rw [hcontainers k (Graph.mem_ids_iff.mpr hcontains)] at hk
      cases hk
  · obtain ⟨ht, r, hr, hsubject, hmem⟩ :=
      hnamed ("ElementalMixinBase", .contract, "ElementTraversal") (by simp)
    refine ((supertypes_emitted hkeyed rfl houtcome hboth hr hmem ht).2 ?_).1
    rw [hsubject]
    decide
  · obtain ⟨ht, r, hr, hsubject, hmem⟩ := hnamed ("Button", .overlay, "Handler") (by simp)
    refine ((supertypes_emitted hkeyed rfl houtcome hboth hr hmem ht).2 ?_).1
    rw [hsubject]
    decide
  · obtain ⟨ht, r, hr, hsubject, hmem⟩ :=
      hnamed ("Panel", .contract, "ElementalMixinBase") (by simp)
    refine ((supertypes_emitted hkeyed rfl houtcome hboth hr hmem ht).2 ?_).1
    rw [hsubject]
    decide

/-- The mixin base implements the contract of a mixin that is not generated. -/
theorem mixinBase_implements_unvisited :
    let run := sourceRun [{ id := "ElementTraversal" }, { id := "Node", annotations := webKit }]
    let report := plainReport ["ElementalMixinBase", "Node"]
    run.outcome = .ok report ∧
      ∃ r ∈ run.rendered, (Backend.contract, "ElementTraversal") ∈ r.unit.header.named ∧
        run.setting.graph.contains "ElementTraversal" = true ∧
        ¬ run.HasUnit .contract "ElementTraversal" ∧ "ElementTraversal" ∉ report.skipped := by
  decide +kernel

end Bindery
