import Mathlib.Data.List.Basic
import Bindery.Emit.Run
import Bindery.Proofs.Graph

/-! # What a successful run renders

Backends work side by side and keep an open unit between calls.  On success none of this shows:
every visit makes a backend render one unit or none, which depends on the visit and the setting
alone (`Backend.unit?`), and `Station.rendered_visitAll` says that nothing else is rendered, visit by
visit and backend by backend.  `Generation.Carried.exists_rendered_iff` reads off the units of an
interface. -/

namespace Bindery

/-! ### Finished units -/

namespace CompilationUnit

theorem add_nil (u : CompilationUnit) : u.add [] = u := by
  simp [add]

theorem add_add (u : CompilationUnit) (first second : List Member) :
    (u.add first).add second = u.add (first ++ second) := by
  simp [add]

end CompilationUnit

namespace Backend

variable (b : Backend) (s : Setting) (ctx : Context)

/-- The members that some calls add to a unit, in order. -/
def callMembers (calls : List Call) : List Member :=
  calls.flatMap fun call => (b.members? s ctx call).getD []

/-- The members that are added at the end if no stage fails. -/
def stageMembers : List Member :=
  (b.stages s ctx).flatMap fun stage => stage.toOption.getD []

/-- The unit of an interface with all its members. -/
def built : CompilationUnit :=
  (b.opened s ctx).add
    (b.callMembers s ctx (s.ownCalls ctx.interface ++ s.secondaryCalls ctx.interface) ++
      b.stageMembers s ctx)

/-- The unit that a backend renders at a visit. -/
def unit? : Visit → Option CompilationUnit
  | .skip _ => none
  | .callback ctx c =>
    match b with
    | .contract => some (callbackUnit s ctx c)
    | .overlay => none
  | .interface ctx => if b.accepts s ctx then some (b.built s ctx) else none

end Backend

namespace Station

/-- What a backend at work renders at a visit. -/
def product? (st : Station) (s : Setting) (visit : Visit) : Option Rendered :=
  (st.backend.unit? s visit).bind fun u =>
    (u.render st.templates s.types s.baseClass).toOption.map fun e => ⟨st.backend, u, e⟩

/-! ### One call -/

variable {s : Setting} {ctx : Context} {call : Call} {stations : List Station}

/-- A backend after a call. -/
def after (s : Setting) (ctx : Context) (st : Station) (call : Call) : Station :=
  { st with unit := (st.handle s ctx call).unit }

/-- What a backend renders by a call. -/
def renderedBy (s : Setting) (ctx : Context) (call : Call) (st : Station) : List Rendered :=
  (st.handle s ctx call).rendered.toList.map fun r => ⟨st.backend, r.1, r.2⟩

theorem callAll_of_success (h : (callAll s ctx call stations).failure = none) :
    (callAll s ctx call stations).stations = stations.map (after s ctx · call) ∧
      (callAll s ctx call stations).rendered = stations.flatMap (renderedBy s ctx call) ∧
      ∀ st ∈ stations, (st.handle s ctx call).failure = none := by
  induction stations with
  | nil => simp [callAll]
  | cons st rest ih =>
      rw [callAll] at h ⊢
      cases hst : (st.handle s ctx call).failure with
      | some e => simp [hst] at h
      | none =>
          simp only [hst] at h ⊢
          obtain ⟨hstations, hrendered, hall⟩ := ih h
          refine ⟨?_, ?_, ?_⟩
          · simp [hstations, after]
          · simp [hrendered, renderedBy]
          · simpa [hst] using hall

/-! ### Several calls -/

theorem sendAll_append (s : Setting) (stations : List Station) (first second : List Signal) :
    (sendAll s stations (first ++ second)).failure = none →
      (sendAll s stations first).failure = none ∧
        (sendAll s (sendAll s stations first).stations second).failure = none ∧
        (sendAll s stations (first ++ second)).stations =
          (sendAll s (sendAll s stations first).stations second).stations ∧
        (sendAll s stations (first ++ second)).rendered =
          (sendAll s stations first).rendered ++
            (sendAll s (sendAll s stations first).stations second).rendered := by
  intro h
  induction first generalizing stations with
  | nil => simpa [sendAll] using h
  | cons signal rest ih =>
      rw [List.cons_append, sendAll] at h ⊢
      rw [sendAll]
      cases hsignal : (send s stations signal).failure with
      | some e => simp [hsignal] at h
      | none =>
          simp only [hsignal] at h ⊢
          obtain ⟨hfirst, hsecond, hstations, hrendered⟩ := ih _ h
          refine ⟨hfirst, hsecond, hstations, ?_⟩
          rw [hrendered, List.append_assoc]

theorem sendAll_visit (s : Setting) (stations : List Station) (ctx : Context) (call : Call) :
    (sendAll s stations [.visit ctx call]).failure = (callAll s ctx call stations).failure ∧
      ((callAll s ctx call stations).failure = none →
        (sendAll s stations [.visit ctx call]).stations =
          (callAll s ctx call stations).stations ∧
        (sendAll s stations [.visit ctx call]).rendered =
          (callAll s ctx call stations).rendered) := by
  simp only [sendAll, send]
  cases h : (callAll s ctx call stations).failure <;> simp [h]

/-- Calls of which no backend renders anything by itself leave behind what they do to each
backend. -/
theorem sendAll_of_quiet {calls : List Call}
    (hquiet : ∀ call ∈ calls, ∀ st : Station, (st.handle s ctx call).rendered = none)
    (h : (sendAll s stations (calls.map (.visit ctx))).failure = none) :
    (sendAll s stations (calls.map (.visit ctx))).stations =
        stations.map (calls.foldl (after s ctx)) ∧
      (sendAll s stations (calls.map (.visit ctx))).rendered = [] := by
  induction calls generalizing stations with
  | nil => simp [sendAll]
  | cons call rest ih =>
      rw [List.map_cons, ← List.singleton_append] at h ⊢
      obtain ⟨hcall, hrest, hstations, hrendered⟩ := sendAll_append s stations _ _ h
      rw [(sendAll_visit s stations ctx call).1] at hcall
      obtain ⟨hs, hr⟩ := (sendAll_visit s stations ctx call).2 hcall
      obtain ⟨hs', hr', -⟩ := callAll_of_success hcall
      rw [hs, hs'] at hrest
      rw [hstations, hrendered, hs, hs', hr, hr']
      obtain ⟨ihstations, ihrendered⟩ :=
        ih (fun c hc => hquiet c (List.mem_cons_of_mem _ hc)) hrest
      have hnone : stations.flatMap (renderedBy s ctx call) = [] := by
        simp [renderedBy, hquiet call List.mem_cons_self]
      rw [ihstations, ihrendered, hnone, List.map_map]
      exact ⟨rfl, rfl⟩

end Station

/-! ### The visit to an interface -/

/-- Whether a call only adds members. -/
def Call.addsMembers : Call → Bool
  | .start | .finish | .callback _ => false
  | _ => true

theorem isCallback_of_addsMembers {call : Call} (h : call.addsMembers = true) :
    call.isCallback = false := by
  cases call with
  | callback => cases h
  | _ => rfl

theorem addsMembers_ownCalls {s : Setting} {i : Interface} {call : Call}
    (h : call ∈ s.ownCalls i) : call.addsMembers = true := by
  simp only [Setting.ownCalls, List.mem_append, List.mem_map] at h
  rcases h with ((⟨_, _, rfl⟩ | ⟨_, _, rfl⟩) | ⟨_, _, rfl⟩) | ⟨set, _, rfl⟩
  · rfl
  · rfl
  · rfl
  · unfold ownOperationCall
    split <;> rfl

theorem addsMembers_contributionCalls {i : Interface} {owners : List Interface} {c : Contributed}
    {call : Call} (h : call ∈ contributionCalls i c owners) : call.addsMembers = true := by
  induction owners generalizing c with
  | nil => cases h
  | cons owner rest ih =>
      rw [contributionCalls, List.mem_append] at h
      rcases h with h | h
      · simp only [ownerCalls, List.mem_append, List.mem_map] at h
        rcases h with ⟨_, _, rfl⟩ | ⟨_, _, rfl⟩ <;> rfl
      · exact ih h

namespace Backend

variable {b : Backend} {s : Setting} {templates : Templates} {ctx : Context} {call : Call}

theorem accepts_iff :
    b.accepts s ctx = true ↔
      b = .overlay ∨ b = .contract ∧ ctx.interface.id ≠ s.config.mixinBase := by
  cases b <;> simp [accepts, Context.isBase]

theorem handle_of_addsMembers (h : call.addsMembers = true) (u : CompilationUnit) :
    b.handle s templates ctx (some u) call =
      { unit := some (u.add ((b.members? s ctx call).getD [])) } := by
  cases call with
  | start | finish | callback => cases h
  | _ =>
      simp only [handle]
      cases b.members? s ctx _ with
      | none => simp [CompilationUnit.add_nil]
      | some members => simp [addMembers]

theorem rendered_of_addsMembers (h : call.addsMembers = true) (unit : Option CompilationUnit) :
    (b.handle s templates ctx unit call).rendered = none := by
  cases call with
  | start | finish | callback => cases h
  | _ =>
      simp only [handle]
      cases b.members? s ctx _ with
      | none => rfl
      | some members => cases unit <;> rfl

theorem addStages_of_success {id : String} {u : CompilationUnit}
    {stages : List (Except Error (List Member))}
    (h : (addStages id (some u) stages).failure = none) :
    addStages id (some u) stages =
      { unit := some (u.add (stages.flatMap fun stage => stage.toOption.getD [])) } := by
  induction stages generalizing u with
  | nil => simp [addStages, CompilationUnit.add_nil]
  | cons stage rest ih =>
      cases stage with
      | error e => simp [addStages] at h
      | ok members =>
          simp only [addStages] at h ⊢
          rw [ih h, CompilationUnit.add_add]
          rfl

theorem emit_of_success {u : CompilationUnit} {left : Option CompilationUnit}
    (h : (emit s templates u left).failure = none) :
    ∃ e, u.render templates s.types s.baseClass = .ok e ∧
      emit s templates u left = { unit := left, rendered := some (u, e) } := by
  unfold emit at h ⊢
  cases hu : u.render templates s.types s.baseClass with
  | ok e => exact ⟨e, rfl, rfl⟩
  | error e => simp [hu] at h

theorem finish_of_success {u : CompilationUnit}
    (h : (b.finish s templates ctx (some u)).failure = none) :
    ∃ e, (u.add (b.stageMembers s ctx)).render templates s.types s.baseClass = .ok e ∧
      b.finish s templates ctx (some u) =
        { unit := none, rendered := some (u.add (b.stageMembers s ctx), e) } := by
  unfold finish at h ⊢
  have hstages : (addStages ctx.interface.id (some u) (b.stages s ctx)).failure = none := by
    cases hf : addStages ctx.interface.id (some u) (b.stages s ctx) with
    | mk unit rendered failure =>
        cases failure with
        | none => rfl
        | some e => simp [hf] at h
  rw [addStages_of_success hstages] at h ⊢
  exact emit_of_success h

end Backend

namespace Station

variable {s : Setting} {ctx : Context} {stations : List Station}

theorem handle_of_rejects {st : Station} {call : Call} (h : st.backend.accepts s ctx = false)
    (hcall : call.isCallback = false) : st.handle s ctx call = { unit := st.unit } := by
  simp [handle, Backend.receives, h, hcall]

theorem handle_of_accepts {b : Backend} {templates : Templates} {unit : Option CompilationUnit}
    {call : Call} (h : b.accepts s ctx = true) :
    handle ⟨b, templates, unit⟩ s ctx call = b.handle s templates ctx unit call := by
  simp [handle, Backend.receives, h]

theorem foldl_after_eq (s : Setting) (ctx : Context) (calls : List Call) (st : Station) :
    calls.foldl (after s ctx) st = { st with unit := (calls.foldl (after s ctx) st).unit } := by
  induction calls generalizing st with
  | nil => rfl
  | cons call rest ih =>
      rw [List.foldl_cons, ih]
      rfl

theorem foldl_after_of_accepts {st : Station} {calls : List Call} {u : CompilationUnit}
    (h : st.backend.accepts s ctx = true) (hcalls : ∀ call ∈ calls, call.addsMembers = true) :
    calls.foldl (after s ctx) { st with unit := some u } =
      { st with unit := some (u.add (st.backend.callMembers s ctx calls)) } := by
  induction calls generalizing u with
  | nil => simp [Backend.callMembers, CompilationUnit.add_nil]
  | cons call rest ih =>
      have hcall : call.addsMembers = true := hcalls call List.mem_cons_self
      have hafter : after s ctx { st with unit := some u } call =
          { st with unit := some (u.add ((st.backend.members? s ctx call).getD [])) } := by
        unfold after
        rw [handle_of_accepts h, Backend.handle_of_addsMembers hcall]
      rw [List.foldl_cons, hafter, ih fun c hc => hcalls c (List.mem_cons_of_mem _ hc),
        CompilationUnit.add_add]
      rfl

theorem foldl_after_of_rejects {st : Station} {calls : List Call}
    (h : st.backend.accepts s ctx = false) (hcalls : ∀ call ∈ calls, call.isCallback = false) :
    calls.foldl (after s ctx) st = st := by
  induction calls with
  | nil => rfl
  | cons call rest ih =>
      have hafter : after s ctx st call = st := by
        unfold after
        rw [handle_of_rejects h (hcalls call List.mem_cons_self)]
      rw [List.foldl_cons, hafter]
      exact ih fun c hc => hcalls c (List.mem_cons_of_mem _ hc)

/-- The calls of a visit before the last one. -/
def openingCalls (s : Setting) (i : Interface) : List Call :=
  .start :: (s.ownCalls i ++ s.secondaryCalls i)

theorem signals_interface (s : Setting) (ctx : Context) :
    Visit.signals s (.interface ctx) =
      (openingCalls s ctx.interface).map (.visit ctx) ++ [.visit ctx .finish] := by
  simp [Visit.signals, Setting.interfaceCalls, openingCalls]

theorem addsMembers_of_mem {i : Interface} {call : Call}
    (h : call ∈ s.ownCalls i ++ s.secondaryCalls i) : call.addsMembers = true := by
  rcases List.mem_append.mp h with h | h
  · exact addsMembers_ownCalls h
  · exact addsMembers_contributionCalls h

theorem quiet_of_mem_openingCalls {i : Interface} {call : Call} (h : call ∈ openingCalls s i) :
    call.isCallback = false ∧
      ∀ (ctx : Context) (st : Station), (st.handle s ctx call).rendered = none := by
  rcases List.mem_cons.mp h with rfl | h
  · refine ⟨rfl, fun ctx st => ?_⟩
    unfold handle
    split <;> rfl
  · have hadds := addsMembers_of_mem h
    refine ⟨isCallback_of_addsMembers hadds, fun ctx st => ?_⟩
    unfold handle
    split
    · exact Backend.rendered_of_addsMembers hadds st.unit
    · rfl

/-- A backend that accepts an interface has its whole unit open before the end of the visit, but for
the members of the last stages. -/
theorem after_openingCalls {st : Station} (h : st.backend.accepts s ctx = true) :
    (openingCalls s ctx.interface).foldl (after s ctx) st =
      { st with unit := some ((st.backend.opened s ctx).add (st.backend.callMembers s ctx
          (s.ownCalls ctx.interface ++ s.secondaryCalls ctx.interface))) } := by
  have hstart : after s ctx st .start =
      { st with unit := some (st.backend.opened s ctx) } := by
    unfold after
    rw [handle_of_accepts h]
    rfl
  rw [openingCalls, List.foldl_cons, hstart]
  exact foldl_after_of_accepts h fun call hcall => addsMembers_of_mem hcall

theorem finish_of_success {st : Station}
    (h : (((openingCalls s ctx.interface).foldl (after s ctx) st).handle s ctx .finish).failure =
      none) :
    renderedBy s ctx .finish ((openingCalls s ctx.interface).foldl (after s ctx) st) =
        (st.product? s (.interface ctx)).toList ∧
      ∀ u, st.backend.unit? s (.interface ctx) = some u →
        ∃ e, u.render st.templates s.types s.baseClass = .ok e := by
  cases haccepts : st.backend.accepts s ctx with
  | false =>
      have hsame : (openingCalls s ctx.interface).foldl (after s ctx) st = st :=
        foldl_after_of_rejects haccepts fun call hcall =>
          (quiet_of_mem_openingCalls hcall).1
      rw [hsame, renderedBy, handle_of_rejects haccepts rfl]
      simp [product?, Backend.unit?, haccepts]
  | true =>
      rw [after_openingCalls haccepts] at h ⊢
      rw [handle_of_accepts haccepts] at h
      obtain ⟨e, hrender, hfinish⟩ := Backend.finish_of_success h
      rw [CompilationUnit.add_add] at hrender hfinish
      refine ⟨?_, ?_⟩
      · rw [renderedBy, handle_of_accepts haccepts]
        show ((st.backend.finish s st.templates ctx _).rendered.toList.map _) = _
        have hbuilt : (st.backend.built s ctx).render st.templates s.types s.baseClass = .ok e :=
          hrender
        rw [hfinish, product?, Backend.unit?, if_pos haccepts, Option.bind_some, hbuilt]
        rfl
      · intro u hu
        simp only [Backend.unit?, haccepts, if_true, Option.some.injEq] at hu
        rw [← hu]
        exact ⟨e, hrender⟩

/-! ### All visits -/

/-- What holds of the backends behind a visit that succeeded: each has rendered its unit, and only
the open units may have changed. -/
structure Served (s : Setting) (visit : Visit) (stations : List Station) (p : Progress) : Prop where
  stations_eq : ∃ unit : Station → Option CompilationUnit,
    p.stations = stations.map fun st => { st with unit := unit st }
  rendered_eq : p.rendered = stations.filterMap (product? · s visit)
  renders : ∀ st ∈ stations, ∀ u, st.backend.unit? s visit = some u →
    ∃ e, u.render st.templates s.types s.baseClass = .ok e

theorem served_skip (id : String) : Served s (.skip id) stations { stations } where
  stations_eq := ⟨fun st => st.unit, by simp⟩
  rendered_eq := by simp [product?, Backend.unit?]
  renders := fun st _ u hu => by simp [Backend.unit?] at hu

theorem renderedBy_callback (st : Station) (c : Callback) :
    renderedBy s ctx (.callback c) st = (st.product? s (.callback ctx c)).toList := by
  obtain ⟨b, templates, unit⟩ := st
  cases b with
  | overlay => rfl
  | contract =>
      show (Backend.emit s templates (Backend.callbackUnit s ctx c) unit).rendered.toList.map _ = _
      unfold Backend.emit product? Backend.unit?
      cases hrender : (Backend.callbackUnit s ctx c).render templates s.types s.baseClass <;>
        simp [hrender, Except.toOption]

theorem served_callback {c : Callback}
    (h : (sendAll s stations [.visit ctx (.callback c)]).failure = none) :
    Served s (.callback ctx c) stations (sendAll s stations [.visit ctx (.callback c)]) := by
  rw [(sendAll_visit s stations ctx _).1] at h
  obtain ⟨hstations, hrendered⟩ := (sendAll_visit s stations ctx _).2 h
  obtain ⟨hs, hr, hall⟩ := callAll_of_success h
  refine ⟨⟨_, hstations.trans hs⟩, ?_, ?_⟩
  · rw [hrendered, hr, List.filterMap_eq_flatMap_toList]
    exact List.flatMap_congr fun st _ => renderedBy_callback st c
  · -- a contract renders the unit of the callback, an overlay has none
    rintro ⟨b, templates, unit⟩ hst u hu
    cases b with
    | overlay => cases hu
    | contract =>
        obtain ⟨e, hrender, _⟩ := Backend.emit_of_success (hall _ hst)
        obtain rfl : Backend.callbackUnit s ctx c = u := Option.some.inj hu
        exact ⟨e, hrender⟩

theorem served_interface
    (h : (sendAll s stations (Visit.signals s (.interface ctx))).failure = none) :
    Served s (.interface ctx) stations (sendAll s stations (Visit.signals s (.interface ctx))) := by
  rw [signals_interface] at h ⊢
  obtain ⟨hopen, hlast, hstations, hrendered⟩ := sendAll_append s stations _ _ h
  obtain ⟨hs, hr⟩ := sendAll_of_quiet
    (fun call hcall => (quiet_of_mem_openingCalls hcall).2 ctx) hopen
  rw [hs] at hlast hstations hrendered
  rw [(sendAll_visit s _ ctx _).1] at hlast
  obtain ⟨hs', hr'⟩ := (sendAll_visit s _ ctx _).2 hlast
  obtain ⟨hs'', hr'', hall⟩ := callAll_of_success hlast
  have hone : ∀ st ∈ stations, _ := fun st hst =>
    finish_of_success (hall _ (List.mem_map_of_mem hst))
  refine ⟨⟨fun st => ((openingCalls s ctx.interface ++ [Call.finish]).foldl (after s ctx)
    st).unit, ?_⟩, ?_, fun st hst => (hone st hst).2⟩
  · rw [hstations, hs', hs'', List.map_map]
    refine List.map_congr_left fun st _ => ?_
    rw [← foldl_after_eq, List.foldl_append]
    rfl
  · rw [hrendered, hr, hr', hr'', List.nil_append, List.flatMap_map,
      List.filterMap_eq_flatMap_toList]
    exact List.flatMap_congr fun st hst => (hone st hst).1

theorem served_of_success {visit : Visit}
    (h : (sendAll s stations (visit.signals s)).failure = none) :
    Served s visit stations (sendAll s stations (visit.signals s)) := by
  cases visit with
  | skip id => exact served_skip id
  | callback ctx c => exact served_callback h
  | interface ctx => exact served_interface h

/-- A run that succeeds renders, visit by visit, the unit of each backend that has one. -/
theorem rendered_visitAll {visits : List Visit} (h : (visitAll s stations visits).failure = none) :
    (visitAll s stations visits).rendered =
        visits.flatMap (fun visit => stations.filterMap (product? · s visit)) ∧
      ∀ visit ∈ visits, ∀ st ∈ stations, ∀ u, st.backend.unit? s visit = some u →
        ∃ e, u.render st.templates s.types s.baseClass = .ok e := by
  induction visits generalizing stations with
  | nil => simp [visitAll]
  | cons visit rest ih =>
      rw [visitAll] at h ⊢
      cases hvisit : (sendAll s stations (visit.signals s)).failure with
      | some e => simp [hvisit] at h
      | none =>
          simp only [hvisit] at h ⊢
          obtain ⟨⟨unit, hstations⟩, hrendered, hrenders⟩ := served_of_success hvisit
          rw [hstations] at h ⊢
          obtain ⟨ihrendered, ihrenders⟩ := ih h
          refine ⟨?_, ?_⟩
          · -- a product does not depend on the unit that is open
            rw [hrendered, ihrendered, List.flatMap_cons]
            congr 1
            refine List.flatMap_congr fun v _ => ?_
            rw [List.filterMap_map]
            rfl
          · intro v hv st hst u hu
            rcases List.mem_cons.mp hv with rfl | hv
            · exact hrenders st hst u hu
            · exact ihrenders v hv { st with unit := unit st } (List.mem_map_of_mem hst) u hu

end Station

theorem flatMap_of_nodup_keys {α β κ : Type} [DecidableEq κ] {key : α → κ} {items : List α}
    (hitems : (items.map key).Nodup) {a : α} (ha : a ∈ items) (f : α → List β) :
    items.flatMap (fun b => if key b = key a then f b else []) = f a := by
  induction items with
  | nil => cases ha
  | cons b rest ih =>
      rw [List.map_cons, List.nodup_cons] at hitems
      rw [List.flatMap_cons]
      rcases List.mem_cons.mp ha with rfl | ha
      · have hnone : ∀ b ∈ rest, (if key b = key a then f b else []) = [] := by
          intro b hb
          exact if_neg fun hkey : key b = key a => hitems.1 (hkey ▸ List.mem_map_of_mem hb)
        rw [if_pos rfl, List.flatMap_eq_nil_iff.mpr hnone, List.append_nil]
      · have hne : key b ≠ key a := fun hkey => hitems.1 (hkey.symm ▸ List.mem_map_of_mem ha)
        rw [if_neg hne, List.nil_append, ih hitems.2 ha]

/-! ### Plans -/

namespace Plan

/-- The graph in which a run looks for mixins. -/
def prepared (c : Config) (g : Graph) : Graph :=
  (g.addEventTargets c.eventTarget).ensureBase c.mixinBase

/-- The identifiers that a run visits, in order. -/
def order (c : Config) (g : Graph) : List String :=
  (prepared c g).ancestorFirst (roots c (g.addEventTargets c.eventTarget))

/-- What a plan consists of. -/
structure Made (c : Config) (auxiliary : NameSet) (g : Graph) (plan : Plan) : Prop where
  config_eq : plan.setting.config = c
  mixins_eq : plan.setting.mixins = (prepared c g).mixins (order c g) c.manualMixins
  populated : (prepared c g).populateBase c.mixinBase plan.setting.mixins = .ok plan.setting.graph
  visits_eq : plan.visits =
    ((order c g).filterMap plan.setting.graph.find?).map (visit plan.setting auxiliary)

theorem made_of_make {c : Config} {auxiliary : NameSet} {g : Graph} {plan : Plan}
    (h : make c auxiliary g = .ok plan) : Made c auxiliary g plan := by
  unfold make at h
  dsimp only at h
  split at h
  · cases h
  · next populated hpopulated =>
    cases h
    refine ⟨rfl, ?_, ?_, ?_⟩
    · unfold order prepared
      rfl
    · unfold prepared
      exact hpopulated
    · unfold order prepared
      rfl

variable {c : Config} {auxiliary : NameSet} {g : Graph} {plan : Plan}

theorem Made.keyed (h : Made c auxiliary g plan) (hg : g.Keyed) : plan.setting.graph.Keyed :=
  ((hg.addEventTargets c.eventTarget).ensureBase c.mixinBase).populateBase h.populated

theorem Made.exists_of_mem (h : Made c auxiliary g plan) (hg : g.Keyed) {v : Visit}
    (hv : v ∈ plan.visits) :
    ∃ i, plan.setting.graph.find? i.id = some i ∧ v = visit plan.setting auxiliary i := by
  rw [h.visits_eq] at hv
  obtain ⟨i, hi, rfl⟩ := List.mem_map.mp hv
  obtain ⟨id, _, hid⟩ := List.mem_filterMap.mp hi
  refine ⟨i, ?_, rfl⟩
  rw [h.keyed hg id i hid]
  exact hid

theorem visit_eq_interface {s : Setting} {i : Interface} {ctx : Context}
    (h : visit s auxiliary i = .interface ctx) : ctx = s.context i := by
  unfold visit at h
  split at h
  · cases h
  · split at h <;> cases h
    rfl

theorem visit_eq_callback {s : Setting} {i : Interface} {ctx : Context} {callback : Callback}
    (h : visit s auxiliary i = .callback ctx callback) :
    ctx = s.context i ∧ i.callback? = some callback := by
  unfold visit at h
  split at h
  · cases h
  · split at h <;> cases h
    next hcallback => exact ⟨rfl, hcallback⟩

theorem Made.mem_interfaces_iff (h : Made c auxiliary g plan) (hg : g.Keyed) {i : Interface}
    (hi : plan.setting.graph.find? i.id = some i) :
    i.id ∈ plan.report.interfaces ↔ Visit.interface (plan.setting.context i) ∈ plan.visits := by
  unfold report
  rw [List.mem_filterMap]
  constructor
  · rintro ⟨v, hv, hid⟩
    obtain ⟨j, hj, hvj⟩ := h.exists_of_mem hg hv
    cases v with
    | interface ctx =>
        obtain rfl := visit_eq_interface hvj.symm
        have hsame : j.id = i.id := Option.some.inj hid
        rw [hsame, hi] at hj
        rw [Option.some.inj hj]
        exact hv
    | skip id => cases hid
    | callback ctx callback => cases hid
  · intro hv
    exact ⟨_, hv, rfl⟩

theorem Made.callback?_eq_none (h : Made c auxiliary g plan) (hg : g.Keyed) {i : Interface}
    (hi : plan.setting.graph.find? i.id = some i) (hgenerated : i.id ∈ plan.report.interfaces) :
    i.callback? = none := by
  obtain ⟨j, _, hj⟩ := h.exists_of_mem hg ((h.mem_interfaces_iff hg hi).mp hgenerated)
  have hsame : i = j := congrArg Context.interface (visit_eq_interface hj.symm)
  rw [← hsame] at hj
  unfold visit at hj
  split at hj
  · cases hj
  · cases hcallback : i.callback? with
    | none => rfl
    | some callback => rw [hcallback] at hj; cases hj

theorem Made.mem_callbacks_iff (h : Made c auxiliary g plan) (hg : g.Keyed) {i : Interface}
    (hi : plan.setting.graph.find? i.id = some i) :
    i.id ∈ plan.report.callbacks ↔ ∃ callback, i.callback? = some callback ∧
      Visit.callback (plan.setting.context i) callback ∈ plan.visits := by
  unfold report
  rw [List.mem_filterMap]
  constructor
  · rintro ⟨v, hv, hid⟩
    obtain ⟨j, hj, hvj⟩ := h.exists_of_mem hg hv
    cases v with
    | callback ctx callback =>
        obtain ⟨rfl, hcallback⟩ := visit_eq_callback hvj.symm
        have hsame : j.id = i.id := Option.some.inj hid
        rw [hsame, hi] at hj
        rw [Option.some.inj hj]
        exact ⟨callback, hcallback, hv⟩
    | skip id => cases hid
    | interface ctx => cases hid
  · rintro ⟨callback, _, hv⟩
    exact ⟨_, hv, rfl⟩

end Plan

/-! ### Generations -/

theorem Interface.interface_of_callback? {i : Interface} {callback : Callback}
    (h : i.callback? = some callback) : callback.interface = i.id := by
  unfold Interface.callback? at h
  split at h
  · cases h
  · obtain ⟨set, _, rfl⟩ := Option.map_eq_some_iff.mp h
    rfl

theorem Backend.subject_built (b : Backend) (s : Setting) (ctx : Context) :
    (b.built s ctx).subject = ctx.interface.id := by
  cases b <;> rfl

namespace Generation

/-- What holds of a generation that succeeded, with the plan that was carried out. -/
structure Carried (c : Config) (auxiliary : NameSet) (stations : List Station) (g : Graph)
    (report : Report) (plan : Plan) : Prop extends Plan.Made c auxiliary g plan where
  setting_eq : (generate c auxiliary stations g).setting = plan.setting
  report_eq : report = plan.report
  rendered_eq : (generate c auxiliary stations g).rendered =
    plan.visits.flatMap fun v => stations.filterMap (Station.product? · plan.setting v)
  renders : ∀ v ∈ plan.visits, ∀ st ∈ stations, ∀ u,
    st.backend.unit? plan.setting v = some u →
      ∃ e, u.render st.templates plan.setting.types plan.setting.baseClass = .ok e

variable {c : Config} {auxiliary : NameSet} {stations : List Station} {g : Graph} {report : Report}

theorem carried_of_make {plan : Plan} (hplan : Plan.make c auxiliary g = .ok plan)
    (h : (generate c auxiliary stations g).outcome = .ok report) :
    Carried c auxiliary stations g report plan ∧
      (Station.visitAll plan.setting stations plan.visits).failure = none := by
  cases hfailure : (plan.run stations).failure with
  | some e => simp [generate, hplan, hfailure] at h
  | none =>
      have hrun : generate c auxiliary stations g =
          { setting := plan.setting
            rendered := (plan.run stations).rendered
            performed := (plan.run stations).performed
            notes := (plan.run stations).notes
            outcome := .ok plan.report } := by
        simp [generate, hplan, hfailure]
      have hvisits : (Station.visitAll plan.setting stations plan.visits).failure = none :=
        hfailure
      obtain ⟨hrendered, hrenders⟩ := Station.rendered_visitAll hvisits
      rw [hrun] at h
      refine ⟨⟨Plan.made_of_make hplan, ?_, (Except.ok.inj h).symm, ?_, hrenders⟩, hvisits⟩
      · rw [hrun]
      · rw [hrun]
        exact hrendered

theorem exists_carried (h : (generate c auxiliary stations g).outcome = .ok report) :
    ∃ plan, Carried c auxiliary stations g report plan := by
  cases hplan : Plan.make c auxiliary g with
  | error e => simp [generate, hplan] at h
  | ok plan => exact ⟨plan, (carried_of_make hplan h).1⟩

variable {plan : Plan}

theorem Carried.exists_unit_iff (h : Carried c auxiliary stations g report plan) (b : Backend)
    (P : CompilationUnit → Prop) :
    (∃ r ∈ (generate c auxiliary stations g).rendered, r.backend = b ∧ P r.unit) ↔
      (∃ st ∈ stations, st.backend = b) ∧
        ∃ v ∈ plan.visits, ∃ u, b.unit? plan.setting v = some u ∧ P u := by
  rw [h.rendered_eq]
  constructor
  · rintro ⟨r, hr, rfl, hP⟩
    obtain ⟨v, hv, hr⟩ := List.mem_flatMap.mp hr
    obtain ⟨st, hst, hr⟩ := List.mem_filterMap.mp hr
    unfold Station.product? at hr
    obtain ⟨u, hu, hr⟩ := Option.bind_eq_some_iff.mp hr
    obtain ⟨e, _, rfl⟩ := Option.map_eq_some_iff.mp hr
    exact ⟨⟨st, hst, rfl⟩, v, hv, u, hu, hP⟩
  · rintro ⟨⟨st, hst, rfl⟩, v, hv, u, hu, hP⟩
    obtain ⟨e, he⟩ := h.renders v hv st hst u hu
    refine ⟨⟨st.backend, u, e⟩, ?_, rfl, hP⟩
    rw [List.mem_flatMap]
    refine ⟨v, hv, List.mem_filterMap.mpr ⟨st, hst, ?_⟩⟩
    rw [Station.product?, hu, Option.bind_some, he]
    rfl

theorem Carried.find?_subject (h : Carried c auxiliary stations g report plan) (hg : g.Keyed)
    {r : Rendered} (hr : r ∈ (generate c auxiliary stations g).rendered) :
    ∃ i, plan.setting.graph.find? i.id = some i ∧ r.unit.subject = i.id := by
  obtain ⟨_, v, hv, u, hu, hsubject⟩ :=
    (h.exists_unit_iff r.backend (· = r.unit)).mp ⟨r, hr, rfl, rfl⟩
  obtain ⟨i, hi, rfl⟩ := h.exists_of_mem hg hv
  refine ⟨i, hi, ?_⟩
  rw [← hsubject]
  cases hvisit : Plan.visit plan.setting auxiliary i with
  | skip id => rw [hvisit] at hu; cases hu
  | callback ctx callback =>
      obtain ⟨_, hcallback⟩ := Plan.visit_eq_callback hvisit
      rw [hvisit] at hu
      cases hb : r.backend with
      | overlay => rw [hb] at hu; cases hu
      | contract =>
          rw [hb] at hu
          cases hu
          exact Interface.interface_of_callback? hcallback
  | interface ctx =>
      rw [hvisit] at hu
      simp only [Backend.unit?] at hu
      split at hu
      · cases hu
        rw [Backend.subject_built, Plan.visit_eq_interface hvisit]
        rfl
      · cases hu

/-- The units of an interface: the one that was built for it, or the contract of a callback. -/
theorem Carried.exists_rendered_iff (h : Carried c auxiliary stations g report plan) (hg : g.Keyed)
    {i : Interface} (hi : plan.setting.graph.find? i.id = some i) (b : Backend)
    (P : CompilationUnit → Prop) :
    (∃ r ∈ (generate c auxiliary stations g).rendered,
        r.backend = b ∧ r.unit.subject = i.id ∧ P r.unit) ↔
      (∃ st ∈ stations, st.backend = b) ∧
        ((i.id ∈ report.interfaces ∧ b.accepts plan.setting (plan.setting.context i) = true ∧
            P (b.built plan.setting (plan.setting.context i))) ∨
          (i.id ∈ report.callbacks ∧ b = .contract ∧ ∃ callback, i.callback? = some callback ∧
            P (Backend.callbackUnit plan.setting (plan.setting.context i) callback))) := by
  rw [h.exists_unit_iff b fun u => u.subject = i.id ∧ P u, h.report_eq, h.mem_interfaces_iff hg hi,
    h.mem_callbacks_iff hg hi]
  refine and_congr_right fun _ => ?_
  constructor
  · rintro ⟨v, hv, u, hu, hsubject, hP⟩
    obtain ⟨j, hj, hvj⟩ := h.exists_of_mem hg hv
    cases v with
    | skip id => cases hu
    | callback ctx callback =>
        obtain ⟨rfl, hcallback⟩ := Plan.visit_eq_callback hvj.symm
        cases b with
        | overlay => cases hu
        | contract =>
            cases hu
            have hsame : j.id = i.id :=
              (Interface.interface_of_callback? hcallback).symm.trans hsubject
            rw [hsame, hi] at hj
            cases hj
            exact .inr ⟨⟨callback, hcallback, hv⟩, rfl, callback, hcallback, hP⟩
    | interface ctx =>
        obtain rfl := Plan.visit_eq_interface hvj.symm
        simp only [Backend.unit?] at hu
        split at hu
        · next haccepts =>
          cases hu
          have hsame : j.id = i.id := (b.subject_built _ _).symm.trans hsubject
          rw [hsame, hi] at hj
          cases hj
          exact .inl ⟨hv, haccepts, hP⟩
        · cases hu
  · rintro (⟨hv, haccepts, hP⟩ | ⟨⟨callback, hcallback, hv⟩, rfl, callback', hcallback', hP⟩)
    · refine ⟨_, hv, b.built plan.setting (plan.setting.context i), ?_, b.subject_built _ _, hP⟩
      simp [Backend.unit?, haccepts]
    · rw [hcallback] at hcallback'
      cases hcallback'
      exact ⟨_, hv, _, rfl, Interface.interface_of_callback? hcallback, hP⟩

end Generation

end Bindery
