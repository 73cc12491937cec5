import Mathlib.Data.List.ProdSigma
import Bindery.Proofs.Independence
import Bindery.Proofs.Path
import Bindery.Proofs.Protocol

/-! # One unit per path

A run renders the units of its plan in order, and stops at a failure
(`Generation.rendered_prefix`).  A backend has at most one unit for an interface, and
`Backend.place` says where that unit lies: contracts and overlay classes lie at different depths,
and within a backend the file name tells the interface.  So no text is ever appended to the text of
another unit. -/

namespace Bindery

/-! ### What is rendered before a failure -/

namespace Backend

variable {b : Backend} {s : Setting} {templates : Templates} {ctx : Context} {call : Call}
  {unit : Option CompilationUnit} {e : Error}

theorem rendered_emit_of_failure {u : CompilationUnit}
    (h : (emit s templates u unit).failure = some e) :
    (emit s templates u unit).rendered = none := by
  unfold emit at h ⊢
  split at h
  · cases h
  · rfl

theorem rendered_of_failure (h : (b.handle s templates ctx unit call).failure = some e) :
    (b.handle s templates ctx unit call).rendered = none := by
  cases call with
  | start => cases h
  | callback c =>
      cases b with
      | contract => exact rendered_emit_of_failure h
      | overlay => cases h
  | finish =>
      have h : (b.finish s templates ctx unit).failure = some e := h
      show (b.finish s templates ctx unit).rendered = none
      unfold finish at h ⊢
      split at h
      · rfl
      · rfl
      · exact rendered_emit_of_failure h
  | _ => exact rendered_of_addsMembers rfl unit

end Backend

namespace Station

variable {s : Setting} {ctx : Context} {call : Call} {stations : List Station}

theorem renderedBy_of_failure {st : Station} {e : Error}
    (h : (st.handle s ctx call).failure = some e) : renderedBy s ctx call st = [] := by
  have hnone : (st.handle s ctx call).rendered = none := by
    unfold handle at h ⊢
    split at h
    · next hreceives =>
      rw [if_pos hreceives]
      exact Backend.rendered_of_failure h
    · cases h
  rw [renderedBy, hnone]
  rfl

/-- If the backends that succeed render the given units, then a call renders them up to the first
failure. -/
theorem rendered_callAll_prefix {units : Station → List Rendered}
    (h : ∀ st ∈ stations, (st.handle s ctx call).failure = none →
      renderedBy s ctx call st = units st) :
    (callAll s ctx call stations).rendered <+: stations.flatMap units := by
  induction stations with
  | nil => exact List.nil_prefix
  | cons st rest ih =>
      rw [callAll, List.flatMap_cons]
      cases hst : (st.handle s ctx call).failure with
      | some e =>
          have hnone := renderedBy_of_failure hst
          show renderedBy s ctx call st <+: _
          rw [hnone]
          exact List.nil_prefix
      | none =>
          show renderedBy s ctx call st ++ (callAll s ctx call rest).rendered <+: _
          rw [h st List.mem_cons_self hst]
          exact (List.prefix_append_right_inj _).mpr
            (ih fun st hst => h st (List.mem_cons_of_mem _ hst))

theorem rendered_sendAll_visit (s : Setting) (stations : List Station) (ctx : Context)
    (call : Call) :
    (sendAll s stations [.visit ctx call]).rendered = (callAll s ctx call stations).rendered := by
  simp only [sendAll, send]
  split <;> simp

theorem rendered_sendAll_append {first second : List Signal}
    (h : (sendAll s stations first).failure = none) :
    (sendAll s stations (first ++ second)).rendered =
      (sendAll s stations first).rendered ++
        (sendAll s (sendAll s stations first).stations second).rendered := by
  induction first generalizing stations with
  | nil => rfl
  | cons signal rest ih =>
      rw [List.cons_append, sendAll]
      rw [sendAll] at h ⊢
      cases hsignal : (send s stations signal).failure with
      | some e => simp [hsignal] at h
      | none =>
          simp only [hsignal] at h ⊢
          rw [ih h, List.append_assoc]

theorem rendered_signals_prefix (s : Setting) (stations : List Station) (visit : Visit) :
    (sendAll s stations (visit.signals s)).rendered <+:
      stations.filterMap (product? · s visit) := by
  rw [List.filterMap_eq_flatMap_toList]
  cases visit with
  | skip id => exact List.nil_prefix
  | callback ctx c =>
      show (sendAll s stations [.visit ctx (.callback c)]).rendered <+: _
      rw [rendered_sendAll_visit]
      exact rendered_callAll_prefix fun st _ _ => renderedBy_callback st c
  | interface ctx =>
      have hopen := failure_openingCalls s ctx stations
      obtain ⟨hstations, hrendered⟩ := sendAll_of_quiet
        (fun call hcall => (quiet_of_mem_openingCalls hcall).2 ctx) hopen
      rw [signals_interface, rendered_sendAll_append hopen, hrendered, hstations,
        rendered_sendAll_visit, List.nil_append]
      -- the calls before the last one have only changed the units that are open
      have hproduct : ∀ st : Station,
          ((openingCalls s ctx.interface).foldl (after s ctx) st).product? s (.interface ctx) =
            st.product? s (.interface ctx) := by
        intro st
        rw [foldl_after_eq]
        rfl
      have hlast : ∀ st' ∈ stations.map ((openingCalls s ctx.interface).foldl (after s ctx)),
          (st'.handle s ctx .finish).failure = none →
            renderedBy s ctx .finish st' = (st'.product? s (.interface ctx)).toList := by
        intro st' hst' hfailure
        obtain ⟨st, _, rfl⟩ := List.mem_map.mp hst'
        rw [(finish_of_success hfailure).1, hproduct]
      have hfront := rendered_callAll_prefix hlast
      rw [List.flatMap_map] at hfront
      simpa only [hproduct] using hfront

/-- A run renders the units of its visits in order, up to the first failure. -/
theorem rendered_visitAll_prefix (s : Setting) (stations : List Station) (visits : List Visit) :
    (visitAll s stations visits).rendered <+:
      visits.flatMap fun v => stations.filterMap (product? · s v) := by
  induction visits generalizing stations with
  | nil => exact List.nil_prefix
  | cons visit rest ih =>
      rw [visitAll, List.flatMap_cons]
      have hvisit := rendered_signals_prefix s stations visit
      cases hfailure : (sendAll s stations (visit.signals s)).failure with
      | some e => exact hvisit.trans (List.prefix_append _ _)
      | none =>
          obtain ⟨⟨unit, hstations⟩, hrendered, _⟩ := served_of_success hfailure
          dsimp only
          rw [hrendered, hstations]
          have hrest := ih (stations.map fun st => { st with unit := unit st })
          simp only [List.filterMap_map] at hrest
          exact (List.prefix_append_right_inj _).mpr hrest

end Station

/-- What backends render if a plan is carried out to its end. -/
def Plan.products (plan : Plan) (stations : List Station) : List Rendered :=
  plan.visits.flatMap fun v => stations.filterMap (Station.product? · plan.setting v)

/-- A generation renders the units of its plan in order, up to the first failure. -/
theorem Generation.rendered_prefix (c : Config) (auxiliary : NameSet) (stations : List Station)
    (g : Graph) :
    ∃ plan, Plan.Made c auxiliary g plan ∧
      (generate c auxiliary stations g).setting = plan.setting ∧
      (generate c auxiliary stations g).rendered <+:
        plan.products stations := by
  obtain ⟨plan, hplan⟩ := Plan.exists_make c auxiliary g
  refine ⟨plan, Plan.made_of_make hplan, ?_, ?_⟩
  · simp [generate, hplan]
  · have hrendered : (generate c auxiliary stations g).rendered =
        (Station.visitAll plan.setting stations plan.visits).rendered := by
      simp only [generate, hplan]
      rfl
    rw [hrendered]
    exact Station.rendered_visitAll_prefix plan.setting stations plan.visits

/-! ### Where a unit lies -/

namespace Backend

variable {b b' : Backend} {s : Setting} {auxiliary : NameSet} {i j : Interface}
  {u : CompilationUnit}

/-- The unit at the visit to an interface is the one that is built for it, or the contract of a
callback. -/
theorem unit?_visit (h : b.unit? s (Plan.visit s auxiliary i) = some u) :
    (b.accepts s (s.context i) = true ∧ u = b.built s (s.context i)) ∨
      (b = .contract ∧ ∃ callback, i.callback? = some callback ∧
        u = callbackUnit s (s.context i) callback) := by
  cases hvisit : Plan.visit s auxiliary i with
  | skip id => rw [hvisit] at h; cases h
  | callback ctx callback =>
      obtain ⟨rfl, hcallback⟩ := Plan.visit_eq_callback hvisit
      rw [hvisit] at h
      cases b with
      | overlay => cases h
      | contract =>
          cases h
          exact .inr ⟨rfl, callback, hcallback, rfl⟩
  | interface ctx =>
      obtain rfl := Plan.visit_eq_interface hvisit
      rw [hvisit] at h
      simp only [unit?] at h
      split at h
      · next haccepts =>
        cases h
        exact .inl ⟨haccepts, rfl⟩
      · cases h

theorem subject_of_unit? (h : b.unit? s (Plan.visit s auxiliary i) = some u) :
    u.subject = i.id := by
  rcases unit?_visit h with ⟨_, rfl⟩ | ⟨_, callback, hcallback, rfl⟩
  · exact subject_built b s (s.context i)
  · exact Interface.interface_of_callback? hcallback

/-- Where the unit of an interface lies: contracts below their module, overlay classes below a
directory of their own. -/
def place (b : Backend) (types : Java.TypeMap) (i : Interface) : List Component :=
  (packageDirectory types.basePackage).components ++
    match b with
    | .contract => [.name (types.moduleOf i), .name (i.id ++ ".java")]
    | .overlay => .name "js" :: .name (types.moduleOf i) :: (Java.overlayFile i.id).components

theorem components_opened (hmodule : TypeName.Plain (s.types.moduleOf i))
    (hid : b = .contract → TypeName.Plain i.id) :
    (b.opened s (s.context i)).path.components = b.place s.types i := by
  rw [CompilationUnit.path_eq]
  cases b with
  | contract =>
      have hword := hid rfl
      show (Path.join (packageDirectory (s.types.contractPackage (s.types.moduleOf i)))
        ⟨i.id ++ ".java"⟩).components = _
      rw [Path.components_join _ (hword.leadsInward_append ".java"),
        Java.components_contractPackage _ hmodule, hword.components_java, List.append_assoc]
      rfl
  | overlay =>
      show (Path.join (packageDirectory (s.types.overlayPackage (s.types.moduleOf i)))
        (Java.overlayFile i.id)).components = _
      rw [Path.components_join _ (Java.leadsInward_overlayFile i.id),
        Java.components_overlayPackage _ hmodule, List.append_assoc]
      rfl

theorem components_of_unit? (h : b.unit? s (Plan.visit s auxiliary i) = some u)
    (hmodule : TypeName.Plain (s.types.moduleOf i)) (hid : b = .contract → TypeName.Plain i.id) :
    u.path.components = b.place s.types i := by
  rw [← components_opened hmodule hid, CompilationUnit.path_eq, CompilationUnit.path_eq]
  rcases unit?_visit h with ⟨_, rfl⟩ | ⟨rfl, callback, hcallback, rfl⟩
  · rfl
  · show (Path.join _ ⟨callback.interface ++ ".java"⟩).components = _
    rw [Interface.interface_of_callback? hcallback]
    rfl

theorem length_place_contract (types : Java.TypeMap) (i : Interface) :
    (Backend.contract.place types i).length =
      (packageDirectory types.basePackage).components.length + 2 := by
  simp [place]

theorem lt_length_place_overlay (types : Java.TypeMap) (i : Interface) :
    (packageDirectory types.basePackage).components.length + 2 <
      (Backend.overlay.place types i).length := by
  have hpos := List.length_pos_iff.mpr (Java.components_overlayFile_ne_nil i.id)
  simp only [place, List.length_append, List.length_cons]
  omega

/-- Places tell backends and interfaces apart, if one of two identifiers is a word. -/
theorem place_inj {types : Java.TypeMap} (h : b.place types i = b'.place types j)
    (hword : i.id ≠ j.id → TypeName.Plain i.id ∨ TypeName.Plain j.id) :
    b = b' ∧ i.id = j.id := by
  have hi := lt_length_place_overlay types i
  have hj := lt_length_place_overlay types j
  have hlength := congrArg List.length h
  cases b with
  | contract =>
      cases b' with
      | contract =>
          simp only [place, List.append_cancel_left_eq, List.cons.injEq, Component.name.injEq,
            String.append_left_inj] at h
          exact ⟨rfl, h.2.1⟩
      | overlay =>
          rw [length_place_contract] at hlength
          omega
  | overlay =>
      cases b' with
      | contract =>
          rw [length_place_contract] at hlength
          omega
      | overlay =>
          simp only [place, List.append_cancel_left_eq, List.cons.injEq] at h
          refine ⟨rfl, ?_⟩
          by_contra hne
          rcases hword hne with hword | hword
          · exact hne (Java.overlayFile_inj hword h.2.2)
          · exact hne (Java.overlayFile_inj hword h.2.2.symm).symm

end Backend

/-! ### Backends and interfaces of units -/

theorem Station.exists_of_product? {st : Station} {s : Setting} {v : Visit} {r : Rendered}
    (h : st.product? s v = some r) :
    r.backend = st.backend ∧ st.backend.unit? s v = some r.unit ∧
      r.unit.render st.templates s.types s.baseClass = .ok r.emission := by
  obtain ⟨u, hu, hr⟩ := Option.bind_eq_some_iff.mp h
  obtain ⟨e, he, rfl⟩ := Option.map_eq_some_iff.mp hr
  refine ⟨rfl, hu, ?_⟩
  cases hrender : u.render st.templates s.types s.baseClass with
  | error e' => rw [hrender] at he; cases he
  | ok e' => rw [hrender] at he; cases he; rfl

theorem CompilationUnit.path_of_render {u : CompilationUnit} {templates : Templates}
    {types : Java.TypeMap} {base : String} {e : Emission}
    (h : u.render templates types base = .ok e) : e.path = u.path := by
  unfold render at h
  split at h <;> cases h
  rfl

/-- The interface and the backend of a unit. -/
def Rendered.key (r : Rendered) : String × Backend :=
  (r.unit.subject, r.backend)

namespace Plan

variable {c : Config} {auxiliary : NameSet} {g : Graph} {plan : Plan} {stations : List Station}

theorem Made.key_eq (h : Made c auxiliary g plan) (hg : g.Keyed) {v : Visit}
    (hv : v ∈ plan.visits) {st : Station} {r : Rendered}
    (hr : st.product? plan.setting v = some r) : r.key = (v.id, st.backend) := by
  obtain ⟨i, _, rfl⟩ := h.exists_of_mem hg hv
  obtain ⟨hbackend, hunit, _⟩ := Station.exists_of_product? hr
  rw [Rendered.key, hbackend, id_visit, Backend.subject_of_unit? hunit]

theorem Made.nodup_key (h : Made c auxiliary g plan) (hg : g.Keyed)
    (hkinds : (stations.map (·.backend)).Nodup) :
    ((plan.products stations).map Rendered.key).Nodup := by
  have hids : (plan.visits.map Visit.id).Nodup := by
    rw [h.map_id_visits hg]
    exact Graph.nodup_ancestorFirst _ _
  have hone : ∀ v ∈ plan.visits,
      ((stations.filterMap (Station.product? · plan.setting v)).map Rendered.key).Sublist
        ((stations.map (·.backend)).map fun b => (v.id, b)) := by
    intro v hv
    rw [List.map_filterMap, List.map_map]
    refine filterMap_sublist_map (fun {st key} hkey => ?_) stations
    obtain ⟨r, hr, rfl⟩ := Option.map_eq_some_iff.mp hkey
    exact (h.key_eq hg hv hr).symm
  have hall : ∀ visits : List Visit, visits.Sublist plan.visits →
      ((visits.flatMap fun v => stations.filterMap (Station.product? · plan.setting v)).map
        Rendered.key).Sublist (visits.map Visit.id ×ˢ stations.map (·.backend)) := by
    intro visits hvisits
    induction visits with
    | nil => exact .slnil
    | cons v rest ih =>
        rw [List.flatMap_cons, List.map_append, List.map_cons, List.product_cons]
        exact (hone v (hvisits.subset List.mem_cons_self)).append
          (ih ((List.sublist_cons_self v rest).trans hvisits))
  exact (hids.product hkinds).sublist (hall plan.visits (.refl _))

/-! ### Names of a plan -/

end Plan

/-- Identifiers and modules are words. -/
def Graph.NamedByWords (g : Graph) : Prop :=
  ∀ i ∈ g.interfaces, TypeName.Plain i.id ∧ ∀ module ∈ i.module, TypeName.Plain module

instance (g : Graph) : Decidable g.NamedByWords :=
  inferInstanceAs (Decidable (∀ i ∈ g.interfaces, _))

namespace Graph

variable {g : Graph} {id : String} {i : Interface}

theorem module_of_find?_addEventTargets {target : String}
    (h : (g.addEventTargets target).find? id = some i) :
    ∃ j, g.find? id = some j ∧ i.module = j.module := by
  rw [addEventTargets, find?_mapInterfaces] at h
  obtain ⟨j, hj, rfl⟩ := Option.map_eq_some_iff.mp h
  refine ⟨j, hj, ?_⟩
  unfold Interface.addEventTarget
  split <;> rfl

theorem module_of_find?_populateBase {base : String} {mixins : NameSet} {populated : Graph}
    (hpopulated : g.populateBase base mixins = .ok populated)
    (h : populated.find? id = some i) : ∃ j, g.find? id = some j ∧ i.module = j.module := by
  unfold populateBase at hpopulated
  dsimp only at hpopulated
  split at hpopulated
  · cases hpopulated
    rw [find?_modify] at h
    split at h
    · obtain ⟨j, hj, rfl⟩ := Option.map_eq_some_iff.mp h
      exact ⟨j, hj, rfl⟩
    · exact ⟨i, h, rfl⟩
  · cases hpopulated

end Graph

namespace Plan

variable {c : Config} {auxiliary : NameSet} {g : Graph} {plan : Plan} {stations : List Station}
  {i : Interface}

/-- An interface of a run has the module that it has in the graph, or it is a mixin base that was
not there. -/
theorem Made.module_origin (h : Made c auxiliary g plan) {id : String}
    (hi : plan.setting.graph.find? id = some i) :
    (∃ j, g.find? id = some j ∧ i.module = j.module) ∨ (id = c.mixinBase ∧ i.module = none) := by
  obtain ⟨j, hj, hmodule⟩ := Graph.module_of_find?_populateBase h.populated hi
  unfold prepared Graph.ensureBase at hj
  split at hj
  · obtain ⟨k, hk, hmodule'⟩ := Graph.module_of_find?_addEventTargets hj
    exact .inl ⟨k, hk, hmodule.trans hmodule'⟩
  · rw [Graph.find?_add] at hj
    split at hj
    · next hid =>
      cases hj
      exact .inr ⟨hid, hmodule⟩
    · obtain ⟨k, hk, hmodule'⟩ := Graph.module_of_find?_addEventTargets hj
      exact .inl ⟨k, hk, hmodule.trans hmodule'⟩

theorem Made.plain_moduleOf (h : Made c auxiliary g plan) (hwords : g.NamedByWords)
    (hdefault : TypeName.Plain c.defaultModule) {id : String}
    (hi : plan.setting.graph.find? id = some i) :
    TypeName.Plain (plan.setting.types.moduleOf i) := by
  have hconfig : plan.setting.types.defaultModule = c.defaultModule :=
    congrArg Config.defaultModule h.config_eq
  unfold Java.TypeMap.moduleOf
  rw [hconfig]
  rcases h.module_origin hi with ⟨j, hj, hmodule⟩ | ⟨_, hmodule⟩
  · rw [hmodule]
    cases hj' : j.module with
    | none => exact hdefault
    | some module => exact (hwords j (Graph.mem_interfaces_iff.mpr ⟨id, hj⟩)).2 module hj'
  · rw [hmodule]
    exact hdefault

theorem Made.plain_or_base (h : Made c auxiliary g plan) (hg : g.Keyed) (hwords : g.NamedByWords)
    {id : String} (hi : plan.setting.graph.find? id = some i) :
    TypeName.Plain id ∨ id = c.mixinBase := by
  rcases h.module_origin hi with ⟨j, hj, _⟩ | ⟨hbase, _⟩
  · have hword := (hwords j (Graph.mem_interfaces_iff.mpr ⟨id, hj⟩)).1
    rw [hg id j hj] at hword
    exact .inl hword
  · exact .inr hbase

/-- Every unit is the rendering of a backend, and lies where this backend puts the interface.  Only
a mixin base that is a callback has a contract under a name that need not be in the graph. -/
theorem Made.exists_place (h : Made c auxiliary g plan) (hg : g.Keyed) (hwords : g.NamedByWords)
    (hdefault : TypeName.Plain c.defaultModule) {r : Rendered} (hr : r ∈ plan.products stations)
    (hbase : r.unit.subject = c.mixinBase → r.unit.header = .callback →
      TypeName.Plain c.mixinBase) :
    ∃ i, plan.setting.graph.find? i.id = some i ∧ r.unit.subject = i.id ∧
      (∃ st ∈ stations, st.backend = r.backend ∧
        r.unit.render st.templates plan.setting.types plan.setting.baseClass = .ok r.emission) ∧
      r.emission.path.components = r.backend.place plan.setting.types i := by
  obtain ⟨v, hv, hr⟩ := List.mem_flatMap.mp hr
  obtain ⟨st, hst, hr⟩ := List.mem_filterMap.mp hr
  obtain ⟨i, hi, rfl⟩ := h.exists_of_mem hg hv
  obtain ⟨hbackend, hunit, hrender⟩ := Station.exists_of_product? hr
  have hsubject := Backend.subject_of_unit? hunit
  refine ⟨i, hi, hsubject, ⟨st, hst, hbackend.symm, hrender⟩, ?_⟩
  rw [CompilationUnit.path_of_render hrender, hbackend]
  refine Backend.components_of_unit? hunit (h.plain_moduleOf hwords hdefault hi) fun hcontract => ?_
  rcases h.plain_or_base hg hwords hi with hword | hid
  · exact hword
  · rw [hid]
    refine hbase (hsubject.trans hid) ?_
    rcases Backend.unit?_visit hunit with ⟨haccepts, _⟩ | ⟨_, callback, _, hcallback⟩
    · rw [hcontract, Backend.accepts_contract_iff, h.config_eq] at haccepts
      exact absurd hid haccepts
    · rw [hcallback]
      rfl

/-- Units at one place are of one backend and one interface, and so they are the same. -/
theorem Made.eq_of_components (h : Made c auxiliary g plan) (hg : g.Keyed) (hwords : g.NamedByWords)
    (hdefault : TypeName.Plain c.defaultModule) (hkinds : (stations.map (·.backend)).Nodup)
    {rendered : List Rendered} (hfront : rendered <+: plan.products stations)
    (hbase : ∀ r ∈ rendered, r.unit.subject = c.mixinBase → r.unit.header = .callback →
      TypeName.Plain c.mixinBase) {r r' : Rendered} (hr : r ∈ rendered) (hr' : r' ∈ rendered)
    (hpath : r.emission.path.components = r'.emission.path.components) : r = r' := by
  obtain ⟨i, hi, hid, _, hplace⟩ :=
    h.exists_place hg hwords hdefault (hfront.subset hr) (hbase r hr)
  obtain ⟨j, hj, hid', _, hplace'⟩ :=
    h.exists_place hg hwords hdefault (hfront.subset hr') (hbase r' hr')
  rw [hplace, hplace'] at hpath
  -- only the mixin base may have a name that is no word, and there is one mixin base
  have hword : i.id ≠ j.id → TypeName.Plain i.id ∨ TypeName.Plain j.id := by
    intro hne
    rcases h.plain_or_base hg hwords hi with hword | hi
    · exact .inl hword
    · rcases h.plain_or_base hg hwords hj with hword | hj
      · exact .inr hword
      · exact absurd (hi.trans hj.symm) hne
  obtain ⟨hbackend, hsame⟩ := Backend.place_inj hpath hword
  have hkey : r.key = r'.key := by
    rw [Rendered.key, Rendered.key, hid, hid', hbackend, hsame]
  exact List.inj_on_of_nodup_map (h.nodup_key hg hkinds) (hfront.subset hr) (hfront.subset hr')
    hkey

end Plan

/-! ### Collected units -/

namespace Output

variable {emissions : List Emission}

/-- Texts at different paths are put in as they are. -/
theorem units_foldl_append {o : Output} (hnodup : (emissions.map (·.path.components)).Nodup)
    (hfresh : ∀ e ∈ emissions, o.units.find? e.path.components = none) :
    (emissions.foldl append o).units =
      o.units.insertAll (emissions.map fun e => (e.path.components, e)) := by
  induction emissions generalizing o with
  | nil => rfl
  | cons e rest ih =>
      rw [List.map_cons, List.nodup_cons] at hnodup
      have happend : o.append e = ⟨o.units.insert e.path.components e⟩ := by
        simp [append, hfresh e List.mem_cons_self]
      have hrest : ∀ e' ∈ rest,
          (o.units.insert e.path.components e).find? e'.path.components = none := by
        intro e' he'
        have hne : e'.path.components ≠ e.path.components := fun heq =>
          hnodup.1 (heq ▸ List.mem_map_of_mem he')
        rw [SortedMap.find?_insert, if_neg hne]
        exact hfresh e' (List.mem_cons_of_mem _ he')
      rw [List.foldl_cons, happend]
      exact ih (o := ⟨o.units.insert e.path.components e⟩) hnodup.2 hrest

theorem units_ofEmissions (h : (emissions.map (·.path.components)).Nodup) :
    (ofEmissions emissions).units =
      SortedMap.ofList (emissions.map fun e => (e.path.components, e)) :=
  units_foldl_append h fun _ _ => rfl

theorem find?_ofEmissions (h : (emissions.map (·.path.components)).Nodup)
    {place : List Component} {e : Emission} :
    (ofEmissions emissions).units.find? place = some e ↔
      e ∈ emissions ∧ e.path.components = place := by
  rw [units_ofEmissions h, SortedMap.ofList,
    SortedMap.find?_insertAll (by simpa [Function.comp_def] using h), SortedMap.find?_empty]
  simp only [List.mem_map, Prod.mk.injEq, reduceCtorEq, and_false, or_false]
  constructor
  · rintro ⟨e', he', hplace, rfl⟩
    exact ⟨he', hplace⟩
  · rintro ⟨he, hplace⟩
    exact ⟨e, he, hplace, rfl⟩

theorem size_ofEmissions (h : (emissions.map (·.path.components)).Nodup) :
    (ofEmissions emissions).size = emissions.length := by
  have hkeys : ((emissions.map fun e => (e.path.components, e)).map (·.1)).Nodup := by
    simpa [Function.comp_def] using h
  have hlength := (SortedMap.entries_ofList_perm hkeys).length_eq
  rw [List.length_map, ← units_ofEmissions h] at hlength
  exact hlength

end Output

/-! ### Counting units -/

theorem countP_contract (s : Setting) (visits : List Visit) :
    visits.countP (fun v => (Backend.contract.unit? s v).isSome) =
      ((visits.filterMap Visit.interface?).filter (· ≠ s.config.mixinBase)).length +
        (visits.filterMap Visit.callback?).length := by
  induction visits with
  | nil => rfl
  | cons v rest ih =>
      rw [List.countP_cons, ih]
      cases v with
      | skip id => rfl
      | callback ctx c => rfl
      | interface ctx =>
          rw [List.filterMap_cons_some (f := Visit.interface?) rfl,
            List.filterMap_cons_none (f := Visit.callback?) rfl, List.filter_cons]
          by_cases hbase : ctx.interface.id = s.config.mixinBase
          · simp [Backend.unit?, Backend.accepts, Context.isBase, hbase]
          · simp [Backend.unit?, Backend.accepts, Context.isBase, hbase]
            omega

theorem countP_overlay (s : Setting) (visits : List Visit) :
    visits.countP (fun v => (Backend.overlay.unit? s v).isSome) =
      (visits.filterMap Visit.interface?).length := by
  rw [List.length_filterMap_eq_countP]
  refine List.countP_congr fun v _ => ?_
  cases v <;> simp [Backend.unit?, Backend.accepts, Visit.interface?]

namespace Generation

variable {c : Config} {auxiliary : NameSet} {stations : List Station} {g : Graph} {report : Report}
  {plan : Plan}

/-- On success a backend has rendered a unit for each visit at which it has one. -/
theorem Carried.length_filter_rendered (h : Carried c auxiliary stations g report plan)
    (hkinds : (stations.map (·.backend)).Nodup) (b : Backend) :
    ((generate c auxiliary stations g).rendered.filter (·.backend = b)).length =
      if b ∈ stations.map (·.backend) then
        plan.visits.countP fun v => (b.unit? plan.setting v).isSome
      else 0 := by
  split
  · next hb =>
    obtain ⟨st, hst, rfl⟩ := List.mem_map.mp hb
    rw [h.filter_rendered hkinds hst, ← List.filterMap_eq_flatMap_toList,
      List.length_filterMap_eq_countP]
    refine List.countP_congr fun v hv => ?_
    cases hu : st.backend.unit? plan.setting v with
    | none => simp [Station.product?, hu]
    | some u =>
        obtain ⟨e, he⟩ := h.renders v hv st hst u hu
        simp [Station.product?, hu, he, Except.toOption]
  · next hb =>
    rw [List.length_eq_zero_iff, List.filter_eq_nil_iff]
    intro r hr hbackend
    rw [h.rendered_eq] at hr
    obtain ⟨v, _, hr⟩ := List.mem_flatMap.mp hr
    obtain ⟨st, hst, hr⟩ := List.mem_filterMap.mp hr
    rw [decide_eq_true_eq, Station.backend_of_product? hr] at hbackend
    exact hb (hbackend ▸ List.mem_map_of_mem hst)

theorem length_eq_add_filter (rendered : List Rendered) :
    rendered.length = (rendered.filter (·.backend = .contract)).length +
      (rendered.filter (·.backend = .overlay)).length := by
  induction rendered with
  | nil => rfl
  | cons r rest ih =>
      cases hr : r.backend <;> simp [hr, ih] <;> omega

/-- On success there is a contract for each callback and for each interface but the mixin base, and
an overlay class for each interface, as far as the backends take part. -/
theorem Carried.length_rendered (h : Carried c auxiliary stations g report plan)
    (hkinds : (stations.map (·.backend)).Nodup) :
    (generate c auxiliary stations g).rendered.length =
      (if .contract ∈ stations.map (·.backend) then
        (report.interfaces.filter (· ≠ c.mixinBase)).length + report.callbacks.length else 0) +
      (if .overlay ∈ stations.map (·.backend) then report.interfaces.length else 0) := by
  rw [length_eq_add_filter, h.length_filter_rendered hkinds, h.length_filter_rendered hkinds,
    countP_contract, countP_overlay, h.config_eq, h.report_eq]
  rfl

/-! ### One unit per path -/

/-- The mixin base is emitted as a callback, under the name that the configuration gives it. -/
def BaseIsCallback (gen : Generation) : Prop :=
  ∃ r ∈ gen.rendered, r.unit.subject = gen.setting.config.mixinBase ∧ r.unit.header = .callback

instance (gen : Generation) : Decidable gen.BaseIsCallback :=
  inferInstanceAs (Decidable (∃ r ∈ gen.rendered, _))

/-- What is rendered goes to paths of its own, so that the output holds every text as it was
rendered. -/
structure Separates (gen : Generation) (stations : List Station) : Prop where
  distinct : (gen.rendered.map (·.emission.path.components)).Nodup
  kept : ∀ r ∈ gen.rendered,
    gen.output.units.find? r.emission.path.components = some r.emission
  /-- A unit of the output is the rendering of one unit, and nothing else goes to its path. -/
  sole : ∀ place e, gen.output.units.find? place = some e → ∃ r ∈ gen.rendered,
    (∃ st ∈ stations, st.backend = r.backend ∧
      r.unit.render st.templates gen.setting.types gen.setting.baseClass = .ok e) ∧
    ∀ r' ∈ gen.rendered, r'.emission.path.components = place ↔ r' = r

/-- No two units are rendered to one path, whether the run succeeds or not, if identifiers and
modules are words, and also the mixin base in case that it becomes a callback.  On success the units
are counted by the report. -/
theorem one_unit_per_path {gen : Generation} (hg : g.Keyed)
    (hgen : generate c auxiliary stations g = gen) (hwords : g.NamedByWords)
    (hmodule : TypeName.Plain c.defaultModule)
    (hbase : gen.BaseIsCallback → TypeName.Plain c.mixinBase)
    (hkinds : (stations.map (·.backend)).Nodup) :
    gen.Separates stations ∧ ∀ report, gen.outcome = .ok report →
      gen.output.size =
        (if .contract ∈ stations.map (·.backend) then
          (report.interfaces.filter (· ≠ c.mixinBase)).length + report.callbacks.length else 0) +
        (if .overlay ∈ stations.map (·.backend) then report.interfaces.length else 0) := by
  subst hgen
  obtain ⟨plan, hplan, hsetting, hfront⟩ := rendered_prefix c auxiliary stations g
  have hcallback : ∀ r ∈ (generate c auxiliary stations g).rendered,
      r.unit.subject = c.mixinBase → r.unit.header = .callback → TypeName.Plain c.mixinBase := by
    intro r hr hsubject hheader
    refine hbase ⟨r, hr, ?_, hheader⟩
    rw [hsetting, hplan.config_eq, hsubject]
  have hinj : ∀ r ∈ (generate c auxiliary stations g).rendered,
      ∀ r' ∈ (generate c auxiliary stations g).rendered,
      r.emission.path.components = r'.emission.path.components → r = r' :=
    fun r hr r' hr' => hplan.eq_of_components hg hwords hmodule hkinds hfront hcallback hr hr'
  have hnodup : (generate c auxiliary stations g).rendered.Nodup :=
    (List.Nodup.of_map _ (hplan.nodup_key hg hkinds)).sublist hfront.sublist
  have hdistinct := hnodup.map_on hinj
  have hemissions : (((generate c auxiliary stations g).rendered.map (·.emission)).map
      (·.path.components)).Nodup := by
    rw [List.map_map]
    exact hdistinct
  refine ⟨⟨hdistinct, fun r hr => ?_, fun place e he => ?_⟩, fun report hreport => ?_⟩
  · exact (Output.find?_ofEmissions hemissions).mpr ⟨List.mem_map_of_mem hr, rfl⟩
  · obtain ⟨hmem, hplace⟩ := (Output.find?_ofEmissions hemissions).mp he
    obtain ⟨r, hr, rfl⟩ := List.mem_map.mp hmem
    obtain ⟨_, _, _, hrender, _⟩ :=
      hplan.exists_place hg hwords hmodule (hfront.subset hr) (hcallback r hr)
    refine ⟨r, hr, ?_, fun r' hr' => ⟨fun hpath => ?_, ?_⟩⟩
    · rw [hsetting]
      exact hrender
    · exact hinj r' hr' r hr (hpath.trans hplace.symm)
    · rintro rfl
      exact hplace
  · obtain ⟨plan, hcarried⟩ := exists_carried hreport
    rw [← hcarried.length_rendered hkinds]
    exact (Output.size_ofEmissions hemissions).trans (List.length_map _)

/-- A configuration whose mixin base has a slash in its name. -/
def slashConfig : Config :=
  { defaultModule := "js", mixinBase := "dom/JsNode", manualMixins := ["Filter"] }

/-- A callback with one operation. -/
def callbackNamed (id : String) : Interface where
  id := id
  operations := [{ id := "accept", type := "boolean" }]
  extensions := SortedMap.ofList [("Callback", none)]

/-- What both backends generate under this configuration. -/
def slashRun (interfaces : List Interface) : Generation :=
  generate slashConfig SortedMap.empty
    ([.contract, .overlay].map fun b => { backend := b, templates := .builtin })
    (interfaces.foldl Graph.add Graph.empty)

/-- Interfaces whose names and modules are close to those of each other's units. -/
def nearbyInterfaces : List Interface :=
  [{ id := "Node", module := some "dom" }, { id := "JsNode" }, callbackNamed "Handler"]

theorem one_unit_per_path_nearby :
    (slashRun nearbyInterfaces).Separates
        ([.contract, .overlay].map fun b => { backend := b, templates := .builtin }) ∧
      (slashRun nearbyInterfaces).output.size = 6 ∧
      (slashRun nearbyInterfaces).rendered.map (·.emission.path.text) =
        ["elemental/js/js/Jsdom/JsNode.java", "elemental/js/Handler.java",
          "elemental/js/JsNode.java", "elemental/js/js/JsJsNode.java",
          "elemental/dom/Node.java", "elemental/js/dom/JsNode.java"] := by
  have hrun : (slashRun nearbyInterfaces).outcome =
        .ok { interfaces := ["dom/JsNode", "JsNode", "Node"], callbacks := ["Handler"],
              mixins := NameSet.ofNames ["Filter"] } ∧
      ¬(slashRun nearbyInterfaces).BaseIsCallback ∧
      (slashRun nearbyInterfaces).rendered.map (·.emission.path.text) =
        ["elemental/js/js/Jsdom/JsNode.java", "elemental/js/Handler.java",
          "elemental/js/JsNode.java", "elemental/js/js/JsJsNode.java",
          "elemental/dom/Node.java", "elemental/js/dom/JsNode.java"] := by
    decide +kernel
  obtain ⟨hreport, hbase, hpaths⟩ := hrun
  obtain ⟨hseparates, hsize⟩ := one_unit_per_path (Graph.keyed_of_entries (by decide +kernel))
    (rfl : generate slashConfig _ _ _ = slashRun nearbyInterfaces) (by decide +kernel)
    (by decide +kernel) (fun h => absurd h hbase) (by decide)
  exact ⟨hseparates, hsize _ hreport, hpaths⟩

/-- Interfaces of which the mixin makes the mixin base a callback. -/
def filterInterfaces : List Interface :=
  [{ id := "Node", module := some "dom" }, callbackNamed "Filter"]

/-- The contract of such a mixin base may lie in the file of an overlay class, and there are fewer
units than the report counts. -/
theorem slash_base_shares_path :
    (filterInterfaces.foldl Graph.add Graph.empty).Keyed ∧
      (filterInterfaces.foldl Graph.add Graph.empty).NamedByWords ∧
      TypeName.Plain slashConfig.defaultModule ∧
      (slashRun filterInterfaces).outcome =
        .ok { interfaces := ["Node"], callbacks := ["dom/JsNode", "Filter"],
              mixins := NameSet.ofNames ["Filter"] } ∧
      (slashRun filterInterfaces).rendered.map (·.emission.path.text) =
        ["elemental/js/dom/JsNode.java", "elemental/js/Filter.java", "elemental/dom/Node.java",
          "elemental/js/dom/JsNode.java"] ∧
      (slashRun filterInterfaces).output.size = 3 :=
  ⟨Graph.keyed_empty.foldl_add, by decide +kernel⟩

end Generation

end Bindery
