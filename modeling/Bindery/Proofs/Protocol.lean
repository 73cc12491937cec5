import Mathlib.Data.String.Basic
import Mathlib.Order.Compare
import Bindery.Proofs.Emission
import Bindery.Proofs.Failure
import Bindery.Proofs.Walk

/-! # The protocol of a run

A backend hears the first and the last signal of a run and, in between, the calls for the interfaces
that it accepts and for all callbacks.  The calls about one interface form a block: blocks follow
one another in the order of the visits, and their calls in an order that depends on the interface
and the graph alone (`CallSequence.Describes`).  What is rendered is what the backends make of their
blocks (`Station.work`). -/

namespace Bindery

/-! ### What a backend receives -/

/-- Whether a signal belongs to the visit to an interface. -/
def Signal.isAbout (id : String) : Signal → Bool
  | .visit ctx _ => ctx.interface.id = id
  | _ => false

/-- Whether a signal reaches a backend that accepts some interfaces. -/
def Signal.reaches (accepts : Context → Bool) : Signal → Bool
  | .visit ctx call => call.isCallback || accepts ctx
  | _ => true

namespace Generation

/-- The signals that a backend receives in the course of a run, if it accepts some interfaces. -/
def received (gen : Generation) (accepts : Context → Bool) : List Signal :=
  gen.performed.filter (Signal.reaches accepts)

/-- The signals about an interface that a backend receives. -/
def block (gen : Generation) (accepts : Context → Bool) (id : String) : List Signal :=
  (gen.received accepts).filter (Signal.isAbout id)

end Generation

namespace Station

variable {s : Setting} {stations : List Station}

theorem performed_sendAll {signals : List Signal}
    (h : (sendAll s stations signals).failure = none) :
    (sendAll s stations signals).performed = signals := by
  induction signals generalizing stations with
  | nil => rfl
  | cons signal rest ih =>
      rw [sendAll] at h ⊢
      cases hsignal : (send s stations signal).failure with
      | some e => simp [hsignal] at h
      | none =>
          simp only [hsignal] at h ⊢
          rw [ih h]

theorem performed_visitAll {visits : List Visit} (h : (visitAll s stations visits).failure = none) :
    (visitAll s stations visits).performed = visits.flatMap (Visit.signals s) := by
  induction visits generalizing stations with
  | nil => rfl
  | cons visit rest ih =>
      rw [visitAll] at h ⊢
      cases hvisit : (sendAll s stations (visit.signals s)).failure with
      | some e => simp [hvisit] at h
      | none =>
          simp only [hvisit] at h ⊢
          rw [performed_sendAll hvisit, ih h, List.flatMap_cons]

end Station

/-! ### Visits in order -/

theorem filterMap_sublist_map {α β : Type} {f : α → Option β} {key : α → β}
    (h : ∀ {a b}, f a = some b → key a = b) (items : List α) :
    (items.filterMap f).Sublist (items.map key) := by
  induction items with
  | nil => exact .slnil
  | cons a rest ih =>
      rw [List.filterMap_cons, List.map_cons]
      split
      · exact ih.cons _
      · next b hb =>
        rw [h hb]
        exact ih.cons_cons _

namespace Visit

def id : Visit → String
  | .skip id => id
  | .callback ctx _ => ctx.interface.id
  | .interface ctx => ctx.interface.id

theorem id_of_interface? {v : Visit} {id : String} (h : v.interface? = some id) : v.id = id := by
  cases v <;> cases h
  rfl

theorem id_of_callback? {v : Visit} {id : String} (h : v.callback? = some id) : v.id = id := by
  cases v <;> cases h
  rfl

theorem id_of_skipped? {v : Visit} {id : String} (h : v.skipped? = some id) : v.id = id := by
  cases v <;> cases h
  rfl

theorem map_id_perm (visits : List Visit) :
    (visits.filterMap interface? ++ visits.filterMap callback? ++ visits.filterMap skipped?).Perm
      (visits.map Visit.id) := by
  induction visits with
  | nil => exact .refl _
  | cons v rest ih =>
      cases v with
      | interface ctx => exact ih.cons _
      | callback ctx c =>
          refine List.Perm.trans ?_ (ih.cons ctx.interface.id)
          exact (List.perm_middle.append_right _)
      | skip id => exact List.perm_middle.trans (ih.cons id)

theorem isAbout_of_mem_signals {s : Setting} {v : Visit} {signal : Signal}
    (h : signal ∈ v.signals s) (id : String) : signal.isAbout id = decide (v.id = id) := by
  cases v with
  | skip => cases h
  | callback ctx c =>
      obtain rfl := List.mem_singleton.mp h
      rfl
  | interface ctx =>
      obtain ⟨call, _, rfl⟩ := List.mem_map.mp h
      rfl

/-- The signals of a visit that reach a backend. -/
def heard (s : Setting) (accepts : Context → Bool) (v : Visit) : List Signal :=
  (v.signals s).filter (Signal.reaches accepts)

theorem filter_isAbout_heard (s : Setting) (accepts : Context → Bool) (v : Visit) (id : String) :
    (v.heard s accepts).filter (Signal.isAbout id) =
      if v.id = id then v.heard s accepts else [] := by
  have habout : ∀ signal ∈ v.heard s accepts, signal.isAbout id = decide (v.id = id) :=
    fun signal h => isAbout_of_mem_signals (List.mem_filter.mp h).1 id
  rw [List.filter_congr habout]
  split <;> simp_all

end Visit

namespace Graph

variable {g : Graph}

theorem contains_of_mem_ancestorFirst {ids : List String} {id : String}
    (h : id ∈ g.ancestorFirst ids) : g.contains id = true := by
  obtain ⟨root, _, hroot, hreach⟩ := mem_ancestorFirst_iff.mp h
  cases hreach with
  | refl => exact hroot
  | tail _ hlast =>
      obtain ⟨_, _, _, _, hcontains⟩ := hlast
      exact hcontains

theorem contains_addEventTargets (g : Graph) (target id : String) :
    (g.addEventTargets target).contains id = g.contains id :=
  contains_mapInterfaces g _ id

theorem contains_modify (g : Graph) (key : String) (f : Interface → Interface) (id : String) :
    (g.modify key f).contains id = g.contains id := by
  show ((g.modify key f).find? id).isSome = (g.find? id).isSome
  rw [find?_modify]
  split <;> simp

theorem contains_populateBase {base : String} {mixins : NameSet} {populated : Graph}
    (h : g.populateBase base mixins = .ok populated) (id : String) :
    populated.contains id = g.contains id := by
  unfold populateBase at h
  dsimp only at h
  split at h
  · cases h
    exact contains_modify g base _ id
  · cases h

end Graph

namespace Plan

variable {c : Config} {auxiliary : NameSet} {g : Graph} {plan : Plan}

theorem contains_prepared_iff {id : String} :
    (prepared c g).contains id = true ↔ id = c.mixinBase ∨ g.contains id = true := by
  unfold prepared
  rw [Graph.contains_ensureBase_iff, Graph.contains_addEventTargets]

theorem id_visit (s : Setting) (auxiliary : NameSet) (i : Interface) :
    (visit s auxiliary i).id = i.id := by
  unfold visit
  split
  · rfl
  · split <;> rfl

theorem Made.map_id_visits (h : Made c auxiliary g plan) (hg : g.Keyed) :
    plan.visits.map Visit.id = order c g := by
  have hfind : ∀ id ∈ order c g, (plan.setting.graph.find? id).map (·.id) = some id := by
    intro id hid
    have hcontains : plan.setting.graph.contains id = true := by
      rw [Graph.contains_populateBase h.populated]
      exact Graph.contains_of_mem_ancestorFirst hid
    obtain ⟨i, hi⟩ := Graph.contains_iff.mp hcontains
    rw [hi, Option.map_some, h.keyed hg id i hi]
  rw [h.visits_eq, List.map_map, List.map_filterMap]
  calc (order c g).filterMap (fun id => (plan.setting.graph.find? id).map
        (Visit.id ∘ visit plan.setting auxiliary))
      = (order c g).filterMap fun id => (plan.setting.graph.find? id).map (·.id) := by
        simp only [Function.comp_def, id_visit]
    _ = (order c g).filterMap some := List.filterMap_congr hfind
    _ = order c g := List.filterMap_some

/-- Without a source filter every interface is visited. -/
theorem mem_order_iff (hg : g.Keyed) (hfilter : c.sourceFilter = []) {id : String} :
    id ∈ order c g ↔ (prepared c g).contains id = true := by
  refine ⟨Graph.contains_of_mem_ancestorFirst, fun hid => ?_⟩
  refine Graph.mem_ancestorFirst_iff.mpr ⟨id, ?_, hid, .refl⟩
  unfold roots
  by_cases hbase : id = c.mixinBase
  · exact hbase ▸ List.mem_cons_self
  · have hcontains := (contains_prepared_iff.mp hid).resolve_left hbase
    rw [← Graph.contains_addEventTargets g c.eventTarget] at hcontains
    obtain ⟨i, hi⟩ := Graph.contains_iff.mp hcontains
    obtain rfl := hg.addEventTargets c.eventTarget id i hi
    refine List.mem_cons_of_mem _ (List.mem_map.mpr ⟨i, List.mem_filter.mpr ⟨?_, ?_⟩, rfl⟩)
    · exact Graph.mem_interfaces_iff.mpr ⟨_, hi⟩
    · simp [hbase, Config.matchesSource, hfilter]

end Plan

/-! ### Blocks -/

namespace Generation

/-- What holds of a generation that succeeded, down to its signals. -/
structure Performed (c : Config) (auxiliary : NameSet) (stations : List Station) (g : Graph)
    (report : Report) (plan : Plan) : Prop extends
    Carried c auxiliary stations g report plan where
  performed_eq : (generate c auxiliary stations g).performed = plan.signals
  failure?_eq_none : ∀ v ∈ plan.visits, ∀ st ∈ stations, st.failure? plan.setting v = none

variable {c : Config} {auxiliary : NameSet} {stations : List Station} {g : Graph} {report : Report}
  {plan : Plan}

theorem exists_performed (h : (generate c auxiliary stations g).outcome = .ok report) :
    ∃ plan, Performed c auxiliary stations g report plan := by
  obtain ⟨plan, hplan⟩ := Plan.exists_make c auxiliary g
  obtain ⟨hcarried, hvisits⟩ := carried_of_make hplan h
  refine ⟨plan, hcarried, ?_, fun v hv st hst => ?_⟩
  · have hperformed := Station.performed_visitAll hvisits
    simp [generate, hplan, Plan.run, hvisits, hperformed, Plan.signals]
  · rw [Station.failure_visitAll, List.findSome?_eq_none_iff] at hvisits
    exact List.findSome?_eq_none_iff.mp (hvisits v hv) st hst

theorem Performed.received_eq (h : Performed c auxiliary stations g report plan)
    (accepts : Context → Bool) :
    (generate c auxiliary stations g).received accepts =
      .prepare :: (plan.visits.flatMap (Visit.heard plan.setting accepts) ++ [.close]) := by
  unfold received
  rw [h.performed_eq, Plan.signals, List.filter_cons_of_pos rfl, List.filter_append,
    List.filter_flatMap]
  rfl

theorem Performed.block_eq_flatMap (h : Performed c auxiliary stations g report plan)
    (accepts : Context → Bool) (id : String) :
    (generate c auxiliary stations g).block accepts id =
      plan.visits.flatMap fun v => if v.id = id then v.heard plan.setting accepts else [] := by
  unfold block
  rw [h.received_eq, List.filter_cons_of_neg (by simp [Signal.isAbout]), List.filter_append,
    List.filter_flatMap]
  simp only [Visit.filter_isAbout_heard]
  exact List.append_nil _

theorem Performed.block_eq (h : Performed c auxiliary stations g report plan) (hg : g.Keyed)
    (accepts : Context → Bool) {v : Visit} (hv : v ∈ plan.visits) :
    (generate c auxiliary stations g).block accepts v.id = v.heard plan.setting accepts := by
  have hnodup : (plan.visits.map Visit.id).Nodup := by
    rw [h.map_id_visits hg]
    exact Graph.nodup_ancestorFirst _ _
  rw [h.block_eq_flatMap]
  exact flatMap_of_nodup_keys hnodup hv _

theorem Performed.received_eq_blocks (h : Performed c auxiliary stations g report plan)
    (hg : g.Keyed) (accepts : Context → Bool) :
    (generate c auxiliary stations g).received accepts =
      .prepare :: ((Plan.order c g).flatMap ((generate c auxiliary stations g).block accepts) ++
        [.close]) := by
  rw [h.received_eq, ← h.map_id_visits hg, List.flatMap_map,
    List.flatMap_congr fun v hv => h.block_eq hg accepts hv]

end Generation

/-! ### The calls for an interface -/

/-- The names of the declared operations, without those that every object has. -/
def Interface.declaredNames (i : Interface) : List String :=
  (i.operations.filter fun o => !o.isHost).map Operation.emittedName

/-- The calls for members of a secondary ancestor: its accessors, then its operations. -/
def ContributedBy (owner : Interface) (calls : List Call) : Prop :=
  ∃ pairs sets, calls = List.map (.secondaryAccessors owner) pairs ++
    List.map (.secondaryOperation owner) sets

/-- The parts of the calls for an interface. -/
structure CallSequence where
  constants : List Constant
  /-- The names of the attributes. -/
  names : List String
  pairs : List AccessorPair
  indexer : Option TypeName
  operations : List OverloadSet
  /-- The calls for the members of each secondary ancestor. -/
  contributions : List (List Call)

namespace CallSequence

/-- The calls themselves. -/
def calls (q : CallSequence) : List Call :=
  .start :: (q.constants.map .constant ++ q.pairs.map .accessors ++
    q.indexer.toList.map .indexer ++ q.operations.map ownOperationCall ++
    q.contributions.flatten ++ [.finish])

/-- What holds of the parts of the calls for an interface. -/
structure Describes (q : CallSequence) (s : Setting) (i : Interface) : Prop where
  constants_perm : q.constants.Perm i.constants
  constants_ascending : q.constants.Pairwise fun a b => a.id ≤ b.id
  /-- Constants of one name stay in order. -/
  constants_stable : ∀ id, q.constants.filter (·.id = id) = i.constants.filter (·.id = id)
  names_ascending : q.names.Pairwise (· < ·)
  mem_names_iff : ∀ name, name ∈ q.names ↔
    ∃ a ∈ i.attributes, a.id = name ∧ (a.isGetter = true ∨ a.hasSetter = true)
  pairs_eq : q.pairs.map (fun p => (p.getter, p.setter)) = q.names.map fun name =>
    (i.attributes.find? fun a => a.id = name ∧ a.isGetter = true,
      i.attributes.find? fun a => a.id = name ∧ a.hasSetter = true)
  indexer_eq : q.indexer = i.elementType?
  /-- Operations follow the first declarations of their names. -/
  operations_ordered : (q.operations.map (·.name)).Pairwise fun a b =>
    i.declaredNames.idxOf a < i.declaredNames.idxOf b
  mem_operations_iff : ∀ name, name ∈ q.operations.map (·.name) ↔ name ∈ i.declaredNames
  /-- The members of secondary ancestors are grouped by them. -/
  contributions_grouped : List.Forall₂ ContributedBy (s.graph.owners i) q.contributions

end CallSequence

namespace Constant

theorem trans_id_le (a b c : Constant) (hab : decide (a.id ≤ b.id) = true)
    (hbc : decide (b.id ≤ c.id) = true) : decide (a.id ≤ c.id) = true :=
  decide_eq_true (String.le_trans (of_decide_eq_true hab) (of_decide_eq_true hbc))

theorem total_id_le (a b : Constant) :
    (decide (a.id ≤ b.id) || decide (b.id ≤ a.id)) = true := by
  simpa using String.le_total a.id b.id

end Constant

namespace Interface

theorem pairwise_sortedConstants (i : Interface) :
    i.sortedConstants.Pairwise fun a b => a.id ≤ b.id :=
  (List.pairwise_mergeSort Constant.trans_id_le Constant.total_id_le i.constants).imp
    of_decide_eq_true

/-- Sorting keeps the order of constants of one name. -/
theorem filter_sortedConstants (i : Interface) (id : String) :
    i.sortedConstants.filter (·.id = id) = i.constants.filter (·.id = id) := by
  have hpairwise : (i.constants.filter (·.id = id)).Pairwise fun a b =>
      decide (a.id ≤ b.id) = true := by
    refine List.pairwise_of_forall_mem_list fun a ha b hb => ?_
    have hab : a.id = b.id := by
      rw [of_decide_eq_true (List.mem_filter.mp ha).2, of_decide_eq_true (List.mem_filter.mp hb).2]
    rw [hab]
    exact decide_eq_true (String.le_refl _)
  have hsublist := List.sublist_mergeSort Constant.trans_id_le Constant.total_id_le
    hpairwise List.filter_sublist
  have hfiltered := hsublist.filter (·.id = id)
  rw [List.filter_filter] at hfiltered
  simp only [Bool.and_self] at hfiltered
  refine (hfiltered.eq_of_length ?_).symm
  exact ((List.mergeSort_perm i.constants _).filter _).length_eq.symm

end Interface

/-- The names of the accessor pairs of some attributes. -/
def AccessorPair.names (attributes : List Attribute) : List String :=
  (NameSet.ofNames (attributes.map (·.id))).keys.filter fun name =>
    (ofName attributes name).attribute?.isSome

namespace AccessorPair

theorem ofAttributes_eq (attributes : List Attribute) :
    ofAttributes attributes = (names attributes).map (ofName attributes) := by
  unfold ofAttributes names
  rw [List.filter_map]
  rfl

theorem names_ascending (attributes : List Attribute) :
    (names attributes).Pairwise (· < ·) :=
  ((SortedMap.keys_ascending _).imp compare_lt_iff_lt.mp).filter _

theorem mem_names_iff {attributes : List Attribute} {name : String} :
    name ∈ names attributes ↔
      ∃ a ∈ attributes, a.id = name ∧ (a.isGetter = true ∨ a.hasSetter = true) := by
  unfold names
  rw [List.mem_filter, NameSet.mem_keys_ofNames]
  simp only [attribute?, ofName, Option.isSome_or, Bool.or_eq_true, List.find?_isSome,
    decide_eq_true_eq]
  constructor
  · rintro ⟨_, ⟨a, ha, hid, hget⟩ | ⟨a, ha, hid, hset⟩⟩
    · exact ⟨a, ha, hid, .inl hget⟩
    · exact ⟨a, ha, hid, .inr hset⟩
  · rintro ⟨a, ha, rfl, hhalf⟩
    refine ⟨List.mem_map_of_mem ha, hhalf.imp ?_ ?_⟩
    · exact fun hget => ⟨a, ha, rfl, hget⟩
    · exact fun hset => ⟨a, ha, rfl, hset⟩

theorem map_id_attribute?_ofName {attributes : List Attribute} {name : String}
    (h : name ∈ names attributes) :
    (ofName attributes name).attribute?.map (·.id) = some name := by
  obtain ⟨a, ha⟩ := Option.isSome_iff_exists.mp (List.mem_filter.mp h).2
  obtain ⟨half, hhalf⟩ : ∃ half, (ofName attributes name).get half = some a := by
    rcases Option.or_eq_some_iff.mp ha with hgetter | ⟨_, hsetter⟩
    · exact ⟨.getter, hgetter⟩
    · exact ⟨.setter, hsetter⟩
  rw [get_ofName] at hhalf
  rw [ha, Option.map_some, (eq_of_find?_some hhalf).1]

end AccessorPair

theorem map_name_ofOperations? {operations : List Operation} {name : String}
    (hne : operations ≠ []) (hname : ∀ o ∈ operations, o.emittedName = name)
    (parentSignatures : List String) :
    (OverloadSet.ofOperations? parentSignatures (distinctBy Operation.signature operations)).map
      (·.name) = some name := by
  cases hset : distinctBy Operation.signature operations with
  | nil => exact absurd (distinctBy_eq_nil_iff.mp hset) hne
  | cons first rest =>
      have hfirst : first ∈ operations := mem_of_mem_distinctBy (hset ▸ List.mem_cons_self)
      rw [OverloadSet.ofOperations?, Option.map_some, hname first hfirst]

theorem map_name_ownOverloads (i : Interface) (parentSignatures : List String) :
    (ownOverloads i.operations parentSignatures).map (·.name) = distinct i.declaredNames := by
  unfold ownOverloads Interface.declaredNames
  dsimp only
  rw [List.map_filterMap]
  refine (List.filterMap_congr fun name hname => ?_).trans List.filterMap_some
  obtain ⟨o, ho, hoName⟩ := List.mem_map.mp (mem_distinct_iff.mp hname)
  refine map_name_ofOperations? (List.ne_nil_of_mem (a := o) ?_) (fun o' ho' => ?_) parentSignatures
  · exact List.mem_filter.mpr ⟨ho, decide_eq_true hoName⟩
  · exact of_decide_eq_true (List.mem_filter.mp ho').2

theorem exists_contributions (i : Interface) (c : Contributed) (owners : List Interface) :
    ∃ contributions : List (List Call), contributionCalls i c owners = contributions.flatten ∧
      List.Forall₂ ContributedBy owners contributions := by
  induction owners generalizing c with
  | nil => exact ⟨[], rfl, .nil⟩
  | cons owner rest ih =>
      obtain ⟨contributions, hcalls, hgrouped⟩ := ih (ownerCalls i owner c).2
      refine ⟨(ownerCalls i owner c).1 :: contributions, ?_, .cons ⟨_, _, rfl⟩ hgrouped⟩
      rw [contributionCalls, List.flatten_cons, ← hcalls]

theorem CallSequence.exists_describes (s : Setting) (i : Interface) :
    ∃ q : CallSequence, q.Describes s i ∧ s.interfaceCalls i = q.calls := by
  obtain ⟨contributions, hcalls, hgrouped⟩ := exists_contributions i {} (s.graph.owners i)
  let ancestors := s.graph.inheritedFrom s.config.mixinBase i
  let keys := ancestors.flatMap fun a => a.attributes.flatMap Attribute.accessorKeys
  let signatures := ancestors.flatMap fun a => a.operations.map Operation.signature
  refine ⟨{
    constants := i.sortedConstants
    names := AccessorPair.names i.attributes
    pairs := (AccessorPair.ofAttributes i.attributes).map (AccessorPair.markInherited keys)
    indexer := i.elementType?
    operations := ownOverloads i.operations signatures
    contributions }, ?_, ?_⟩
  · refine {
      constants_perm := List.mergeSort_perm _ _
      constants_ascending := i.pairwise_sortedConstants
      constants_stable := i.filter_sortedConstants
      names_ascending := AccessorPair.names_ascending _
      mem_names_iff := fun _ => AccessorPair.mem_names_iff
      pairs_eq := ?_
      indexer_eq := rfl
      operations_ordered := ?_
      mem_operations_iff := fun name => ?_
      contributions_grouped := hgrouped }
    · rw [AccessorPair.ofAttributes_eq, List.map_map, List.map_map]
      rfl
    · rw [map_name_ownOverloads]
      exact pairwise_idxOf_distinct _
    · rw [map_name_ownOverloads, mem_distinct_iff]
  · unfold Setting.interfaceCalls Setting.secondaryCalls
    rw [hcalls, CallSequence.calls, List.map_map]
    rfl

/-! ### What backends make of their blocks -/

namespace Station

variable {s : Setting} {ctx : Context} {st : Station}

/-- What a backend renders if it handles just the given signals, one after another. -/
def work (s : Setting) (st : Station) : List Signal → List Rendered
  | [] => []
  | .visit ctx call :: rest =>
    let r := st.backend.handle s st.templates ctx st.unit call
    (r.rendered.toList.map fun r => ⟨st.backend, r.1, r.2⟩) ++
      work s { st with unit := r.unit } rest
  | _ :: rest => work s st rest

theorem work_cons {call : Call} (h : st.backend.receives s ctx call = true) (rest : List Signal) :
    st.work s (.visit ctx call :: rest) =
      renderedBy s ctx call st ++ (after s ctx st call).work s rest := by
  unfold renderedBy after handle
  rw [work, if_pos h]

theorem work_of_quiet {calls : List Call} (haccepts : st.backend.accepts s ctx = true)
    (hquiet : ∀ call ∈ calls, ∀ st : Station, (st.handle s ctx call).rendered = none)
    (more : List Signal) :
    st.work s (calls.map (.visit ctx) ++ more) = (calls.foldl (after s ctx) st).work s more := by
  induction calls generalizing st with
  | nil => rfl
  | cons call rest ih =>
      have hreceives : st.backend.receives s ctx call = true := by
        simp [Backend.receives, haccepts]
      have hnone : renderedBy s ctx call st = [] := by
        simp [renderedBy, hquiet call List.mem_cons_self]
      have hafter : (after s ctx st call).backend.accepts s ctx = true := haccepts
      rw [List.map_cons, List.cons_append, work_cons hreceives, hnone, List.nil_append,
        List.foldl_cons]
      exact ih hafter fun c hc => hquiet c (List.mem_cons_of_mem _ hc)

end Station

namespace Visit

variable {s : Setting} {accepts : Context → Bool}

theorem heard_callback (ctx : Context) (c : Callback) :
    heard s accepts (.callback ctx c) = [.visit ctx (.callback c)] := rfl

theorem heard_interface (ctx : Context) :
    heard s accepts (.interface ctx) =
      if accepts ctx then signals s (.interface ctx) else [] := by
  have hreaches : ∀ signal ∈ signals s (.interface ctx),
      signal.reaches accepts = accepts ctx := by
    intro signal hsignal
    rw [Station.signals_interface] at hsignal
    rcases List.mem_append.mp hsignal with hsignal | hsignal
    · obtain ⟨call, hcall, rfl⟩ := List.mem_map.mp hsignal
      simp [Signal.reaches, (Station.quiet_of_mem_openingCalls hcall).1]
    · obtain rfl := List.mem_singleton.mp hsignal
      rfl
  rw [heard, List.filter_congr hreaches]
  cases accepts ctx <;> simp

end Visit

theorem Station.work_heard {s : Setting} {st : Station} {v : Visit}
    (h : st.failure? s v = none) :
    st.work s (v.heard s (st.backend.accepts s)) = (st.product? s v).toList := by
  cases v with
  | skip id => rfl
  | callback ctx c =>
      rw [Visit.heard_callback, work_cons (by simp [Backend.receives, Call.isCallback]),
        renderedBy_callback]
      exact List.append_nil _
  | interface ctx =>
      rw [Visit.heard_interface]
      cases haccepts : st.backend.accepts s ctx with
      | false => simp [work, product?, Backend.unit?, haccepts]
      | true =>
          rw [← failure_handle_finish] at h
          rw [if_pos rfl, signals_interface, work_of_quiet haccepts
            fun call hcall => (quiet_of_mem_openingCalls hcall).2 ctx, work_cons,
            (finish_of_success h).1]
          · exact List.append_nil _
          · rw [foldl_after_eq]
            simp [Backend.receives, haccepts]

/-! ### The protocol -/

/-- A list consists of three others, each in its own order, and has nothing twice. -/
structure Interleaves (items first second third : List String) : Prop where
  nodup : items.Nodup
  perm : (first ++ second ++ third).Perm items
  first_sublist : first.Sublist items
  second_sublist : second.Sublist items
  third_sublist : third.Sublist items

namespace Generation

/-- What a backend receives in a run that visits interfaces in some order, if it accepts some
interfaces. -/
structure Follows (gen : Generation) (report : Report) (order : List String)
    (accepts : Context → Bool) : Prop where
  received_eq : gen.received accepts = .prepare :: (order.flatMap (gen.block accepts) ++ [.close])
  skipped : ∀ id ∈ report.skipped, gen.block accepts id = []
  callback : ∀ id ∈ report.callbacks, ∃ i callback, gen.setting.graph.find? id = some i ∧
    i.callback? = some callback ∧
    gen.block accepts id = [.visit (gen.setting.context i) (.callback callback)]
  interface : ∀ id ∈ report.interfaces, ∃ i, gen.setting.graph.find? id = some i ∧
    ∃ q : CallSequence, q.Describes gen.setting i ∧ gen.block accepts id =
      if accepts (gen.setting.context i) then q.calls.map (.visit (gen.setting.context i)) else []

variable {c : Config} {auxiliary : NameSet} {stations : List Station} {g : Graph} {report : Report}
  {plan : Plan}

theorem Performed.interleaves (h : Performed c auxiliary stations g report plan) (hg : g.Keyed) :
    Interleaves (Plan.order c g) report.interfaces report.callbacks report.skipped := by
  rw [h.report_eq, ← h.map_id_visits hg]
  exact {
    nodup := by
      rw [h.map_id_visits hg]
      exact Graph.nodup_ancestorFirst _ _
    perm := Visit.map_id_perm plan.visits
    first_sublist := filterMap_sublist_map Visit.id_of_interface? _
    second_sublist := filterMap_sublist_map Visit.id_of_callback? _
    third_sublist := filterMap_sublist_map Visit.id_of_skipped? _ }

theorem Performed.follows (h : Performed c auxiliary stations g report plan) (hg : g.Keyed)
    (accepts : Context → Bool) :
    (generate c auxiliary stations g).Follows report (Plan.order c g) accepts := by
  refine ⟨h.received_eq_blocks hg accepts, ?_, ?_, ?_⟩ <;>
    rw [h.report_eq] <;> intro id hid <;> obtain ⟨v, hv, hvid⟩ := List.mem_filterMap.mp hid
  · cases v with
    | skip => rw [← Visit.id_of_skipped? hvid, h.block_eq hg accepts hv]; rfl
    | callback | interface => cases hvid
  · cases v with
    | skip | interface => cases hvid
    | callback ctx c =>
        obtain ⟨i, hi, hvisit⟩ := h.exists_of_mem hg hv
        obtain ⟨rfl, hcallback⟩ := Plan.visit_eq_callback hvisit.symm
        have hid := Visit.id_of_callback? hvid
        rw [← hid, h.block_eq hg accepts hv, h.setting_eq]
        exact ⟨i, c, hi, hcallback, rfl⟩
  · cases v with
    | skip | callback => cases hvid
    | interface ctx =>
        obtain ⟨i, hi, hvisit⟩ := h.exists_of_mem hg hv
        obtain rfl := Plan.visit_eq_interface hvisit.symm
        obtain ⟨q, hq, hcalls⟩ := CallSequence.exists_describes plan.setting i
        rw [← Visit.id_of_interface? hvid, h.block_eq hg accepts hv, h.setting_eq,
          Visit.heard_interface]
        refine ⟨i, hi, q, hq, ?_⟩
        rw [← hcalls]
        rfl

theorem Performed.block_congr (h : Performed c auxiliary stations g report plan) (hg : g.Keyed)
    {accepts accepts' : Context → Bool} {i : Interface}
    (hi : plan.setting.graph.find? i.id = some i)
    (haccepts : accepts (plan.setting.context i) = true)
    (haccepts' : accepts' (plan.setting.context i) = true) :
    (generate c auxiliary stations g).block accepts i.id =
      (generate c auxiliary stations g).block accepts' i.id := by
  rw [h.block_eq_flatMap, h.block_eq_flatMap]
  refine List.flatMap_congr fun v hv => ?_
  obtain ⟨j, hj, rfl⟩ := h.exists_of_mem hg hv
  rw [Plan.id_visit]
  split
  · next hid =>
    -- only the visit to the interface itself counts
    rw [hid, hi] at hj
    obtain rfl := Option.some.inj hj
    cases hvisit : Plan.visit plan.setting auxiliary i with
    | skip | callback => rfl
    | interface ctx =>
        obtain rfl := Plan.visit_eq_interface hvisit
        rw [Visit.heard_interface, Visit.heard_interface, haccepts, haccepts']
  · rfl

theorem Performed.rendered_eq_work (h : Performed c auxiliary stations g report plan)
    (hg : g.Keyed) :
    (generate c auxiliary stations g).rendered = (Plan.order c g).flatMap fun id =>
      stations.flatMap fun st => st.work plan.setting
        ((generate c auxiliary stations g).block (st.backend.accepts plan.setting) id) := by
  rw [h.rendered_eq, ← h.map_id_visits hg, List.flatMap_map]
  refine List.flatMap_congr fun v hv => ?_
  rw [List.filterMap_eq_flatMap_toList]
  refine List.flatMap_congr fun st hst => ?_
  rw [h.block_eq hg _ hv, Station.work_heard (h.failure?_eq_none v hv st hst)]

/-- Every interface of the order is visited once, each backend receives one block of calls for each
visit, two backends that accept an interface receive the same one, and what is rendered is what the
backends make of their blocks. -/
theorem emission_protocol {gen : Generation} (hg : g.Keyed)
    (hgen : generate c auxiliary stations g = gen) (h : gen.outcome = .ok report) :
    Interleaves (Plan.order c g) report.interfaces report.callbacks report.skipped ∧
      (c.sourceFilter = [] →
        (report.interfaces ++ report.callbacks ++ report.skipped).Perm gen.setting.graph.ids) ∧
      (∀ accepts, gen.Follows report (Plan.order c g) accepts) ∧
      (∀ accepts accepts' i, gen.setting.graph.find? i.id = some i →
        accepts (gen.setting.context i) = true → accepts' (gen.setting.context i) = true →
        gen.block accepts i.id = gen.block accepts' i.id) ∧
      gen.rendered = (Plan.order c g).flatMap fun id => stations.flatMap fun st =>
        st.work gen.setting (gen.block (st.backend.accepts gen.setting) id) := by
  subst hgen
  obtain ⟨plan, hplan⟩ := exists_performed h
  have hinterleaves := hplan.interleaves hg
  refine ⟨hinterleaves, fun hfilter => hinterleaves.perm.trans ?_, hplan.follows hg, ?_, ?_⟩
  · have hids : (generate c auxiliary stations g).setting.graph.ids.Nodup := SortedMap.nodup_keys _
    refine (List.perm_ext_iff_of_nodup hinterleaves.nodup hids).mpr fun id => ?_
    rw [Plan.mem_order_iff hg hfilter, Graph.mem_ids_iff, hplan.setting_eq,
      Graph.contains_populateBase hplan.populated]
  · rw [hplan.setting_eq]
    exact fun accepts accepts' i => hplan.block_congr hg
  · rw [hplan.setting_eq]
    exact hplan.rendered_eq_work hg

/-- A list of nodes with a secondary ancestor. -/
def nodeList : Interface :=
  { id := "NodeList", parents := [{ type := "sequence<Node>" }, { type := "Sized" }],
    constants := [⟨"FIRST", "long", "0", SortedMap.empty⟩],
    operations := [{ id := "item", type := "Node" }, { id := "clear", type := "void" }] }

/-- The graph of a list with a callback, and an interface that is written by hand. -/
def listGraph : Graph :=
  [nodeList, { id := "Sized", operations := [{ id := "size", type := "long" }] }, { id := "Node" },
    { id := "NodeFilter", operations := [{ id := "accept", type := "boolean" }],
      extensions := SortedMap.ofList [("Callback", none)] },
    { id := "Window" }].foldl Graph.add Graph.empty

def listRun : Generation :=
  generate {} (NameSet.ofNames ["Window"])
    ([.contract, .overlay].map fun b => { backend := b, templates := .builtin }) listGraph

def listReport : Report :=
  { plainReport ["ElementalMixinBase", "Node", "Sized", "NodeList"] with
    callbacks := ["NodeFilter"]
    skipped := ["Window"] }

theorem emission_protocol_listRun :
    listRun.outcome = .ok listReport ∧
      (listReport.interfaces ++ listReport.callbacks ++ listReport.skipped).Perm
        listRun.setting.graph.ids ∧
      listRun.Follows listReport
        ["ElementalMixinBase", "Node", "NodeFilter", "Sized", "NodeList", "Window"]
        (Backend.contract.accepts listRun.setting) ∧
      listRun.block (Backend.contract.accepts listRun.setting) "NodeList" =
        listRun.block (Backend.overlay.accepts listRun.setting) "NodeList" := by
  have houtcome : listRun.outcome = .ok listReport := by decide +kernel
  have horder : Plan.order {} listGraph =
      ["ElementalMixinBase", "Node", "NodeFilter", "Sized", "NodeList", "Window"] := by
    decide +kernel
  obtain ⟨_, hids, hfollows, hsame, _⟩ :=
    emission_protocol (Graph.keyed_of_entries (by decide +kernel)) rfl houtcome
  rw [horder] at hfollows
  refine ⟨houtcome, hids rfl, hfollows _, ?_⟩
  exact hsame _ _ nodeList (by decide +kernel) (by decide +kernel) (by decide +kernel)

end Generation

end Bindery
