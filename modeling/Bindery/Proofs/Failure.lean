import Bindery.Proofs.Distinct
import Bindery.Proofs.Run

/-! # When a run fails

A backend can fail in three ways: a call finds no open unit, a stage at the end of an interface
needs something that the graph lacks, or a unit cannot be rendered.  The first never happens
(`Station.failure_openingCalls`), so that the failure of a run is the first one among the stages and
renderings of its visits (`Station.failure_visitAll`).  The built-in templates render every unit
(`CompilationUnit.render_builtin`), and `generation_fails_iff` says what is left: typed arrays
without buffers, and element groups without the type of all elements. -/

namespace Bindery

/-- The error of something that failed. -/
def failureOf {α : Type} : Except Error α → Option Error
  | .ok _ => none
  | .error e => some e

theorem failureOf_eq_some_iff {α : Type} {x : Except Error α} {e : Error} :
    failureOf x = some e ↔ x = .error e := by
  cases x <;> simp [failureOf]

/-! ### One backend at one visit -/

namespace Backend

variable {b : Backend} {s : Setting} {ctx : Context} {templates : Templates}

theorem failure_addStages (id : String) (u : CompilationUnit)
    (stages : List (Except Error (List Member))) :
    (addStages id (some u) stages).failure = stages.findSome? failureOf := by
  induction stages generalizing u with
  | nil => rfl
  | cons stage rest ih =>
      cases stage with
      | error e => rfl
      | ok members => exact ih (u.add members)

theorem failure_emit (u : CompilationUnit) (left : Option CompilationUnit) :
    (emit s templates u left).failure = failureOf (u.render templates s.types s.baseClass) := by
  unfold emit
  cases u.render templates s.types s.baseClass <;> rfl

/-- An open unit is finished unless a stage fails, or else its rendering. -/
theorem failure_finish (u : CompilationUnit) :
    (b.finish s templates ctx (some u)).failure =
      ((b.stages s ctx).findSome? failureOf).or
        (failureOf ((u.add (b.stageMembers s ctx)).render templates s.types s.baseClass)) := by
  have hstages := failure_addStages ctx.interface.id u (b.stages s ctx)
  unfold finish
  cases hfailure : (b.stages s ctx).findSome? failureOf with
  | some e =>
      rw [hfailure] at hstages
      generalize addStages ctx.interface.id (some u) (b.stages s ctx) = result at hstages ⊢
      obtain ⟨unit, rendered, failure⟩ := result
      cases hstages
      rfl
  | none =>
      rw [hfailure] at hstages
      rw [addStages_of_success hstages]
      exact failure_emit _ none

/-- The stages that a backend goes through at a visit. -/
def stagesAt (b : Backend) (s : Setting) : Visit → List (Except Error (List Member))
  | .interface ctx => if b.accepts s ctx then b.stages s ctx else []
  | _ => []

end Backend

namespace Station

variable {s : Setting} {ctx : Context} {call : Call} {st : Station} {stations : List Station}

/-- The failure of a backend at a visit: that of a stage, or else of the rendering of its unit. -/
def failure? (s : Setting) (visit : Visit) (st : Station) : Option Error :=
  ((st.backend.stagesAt s visit).findSome? failureOf).or
    ((st.backend.unit? s visit).bind fun u =>
      failureOf (u.render st.templates s.types s.baseClass))

/-! ### Calls before the last one -/

/-- A backend that is concerned with an interface has a unit open. -/
def Ready (s : Setting) (ctx : Context) (st : Station) : Prop :=
  st.backend.accepts s ctx = true → ∃ u, st.unit = some u

theorem ready_start (s : Setting) (ctx : Context) (st : Station) :
    (st.handle s ctx .start).failure = none ∧ (after s ctx st .start).Ready s ctx := by
  constructor
  · unfold handle
    split <;> rfl
  · intro haccepts
    have hstart : st.handle s ctx .start = { unit := some (st.backend.opened s ctx) } :=
      handle_of_accepts haccepts
    exact ⟨st.backend.opened s ctx, congrArg Backend.Result.unit hstart⟩

theorem Ready.addsMembers (h : st.Ready s ctx) (hcall : call.addsMembers = true) :
    (st.handle s ctx call).failure = none ∧ (after s ctx st call).Ready s ctx := by
  cases haccepts : st.backend.accepts s ctx with
  | false =>
      have hsame := handle_of_rejects haccepts (isCallback_of_addsMembers hcall)
      refine ⟨by rw [hsame], ?_⟩
      intro haccepts'
      exact absurd (haccepts.symm.trans haccepts') Bool.false_ne_true
  | true =>
      obtain ⟨u, hu⟩ := h haccepts
      have hhandle : st.handle s ctx call =
          { unit := some (u.add ((st.backend.members? s ctx call).getD [])) } := by
        obtain ⟨b, templates, unit⟩ := st
        cases hu
        rw [handle_of_accepts haccepts, Backend.handle_of_addsMembers hcall]
      exact ⟨by rw [hhandle], fun _ => ⟨_, by unfold after; rw [hhandle]⟩⟩

theorem failure_callAll (s : Setting) (ctx : Context) (call : Call) (stations : List Station) :
    (callAll s ctx call stations).failure =
      stations.findSome? fun st => (st.handle s ctx call).failure := by
  induction stations with
  | nil => rfl
  | cons st rest ih =>
      rw [callAll, List.findSome?_cons]
      cases hst : (st.handle s ctx call).failure with
      | some e => rfl
      | none => exact ih

theorem failure_callAll_eq_none_iff :
    (callAll s ctx call stations).failure = none ↔
      ∀ st ∈ stations, (st.handle s ctx call).failure = none := by
  rw [failure_callAll, List.findSome?_eq_none_iff]

theorem failure_sendAll_cons (hcall : (callAll s ctx call stations).failure = none)
    (rest : List Signal) :
    (sendAll s stations (.visit ctx call :: rest)).failure =
      (sendAll s (stations.map (after s ctx · call)) rest).failure := by
  rw [sendAll, ← (callAll_of_success hcall).1]
  simp only [send, hcall]

theorem failure_sendAll_of_ready {calls : List Call} (hready : ∀ st ∈ stations, st.Ready s ctx)
    (hcalls : ∀ call ∈ calls, call.addsMembers = true) :
    (sendAll s stations (calls.map (.visit ctx))).failure = none := by
  induction calls generalizing stations with
  | nil => rfl
  | cons call rest ih =>
      have hcall : call.addsMembers = true := hcalls call List.mem_cons_self
      have hnone : (callAll s ctx call stations).failure = none :=
        failure_callAll_eq_none_iff.mpr fun st hst => ((hready st hst).addsMembers hcall).1
      rw [List.map_cons, failure_sendAll_cons hnone]
      refine ih ?_ fun c hc => hcalls c (List.mem_cons_of_mem _ hc)
      intro st' hst'
      obtain ⟨st, hst, rfl⟩ := List.mem_map.mp hst'
      exact ((hready st hst).addsMembers hcall).2

/-- No call of a visit but the last one fails, whatever units were open before. -/
theorem failure_openingCalls (s : Setting) (ctx : Context) (stations : List Station) :
    (sendAll s stations ((openingCalls s ctx.interface).map (.visit ctx))).failure = none := by
  have hnone : (callAll s ctx .start stations).failure = none :=
    failure_callAll_eq_none_iff.mpr fun st _ => (ready_start s ctx st).1
  rw [openingCalls, List.map_cons, failure_sendAll_cons hnone]
  refine failure_sendAll_of_ready ?_ fun call hcall => addsMembers_of_mem hcall
  intro st' hst'
  obtain ⟨st, _, rfl⟩ := List.mem_map.mp hst'
  exact (ready_start s ctx st).2

/-! ### Visits -/

theorem failure_sendAll_append {first second : List Signal}
    (h : (sendAll s stations first).failure = none) :
    (sendAll s stations (first ++ second)).failure =
      (sendAll s (sendAll s stations first).stations second).failure := by
  induction first generalizing stations with
  | nil => rfl
  | cons signal rest ih =>
      rw [List.cons_append, sendAll]
      rw [sendAll] at h ⊢
      cases hsignal : (send s stations signal).failure with
      | some e => simp [hsignal] at h
      | none =>
          simp only [hsignal] at h ⊢
          exact ih h

theorem failure_handle_callback (st : Station) (c : Callback) :
    (st.handle s ctx (.callback c)).failure = st.failure? s (.callback ctx c) := by
  obtain ⟨b, templates, unit⟩ := st
  cases b with
  | overlay => rfl
  | contract => exact Backend.failure_emit _ unit

theorem failure_handle_finish (st : Station) :
    (((openingCalls s ctx.interface).foldl (after s ctx) st).handle s ctx .finish).failure =
      st.failure? s (.interface ctx) := by
  unfold failure? Backend.stagesAt Backend.unit?
  cases haccepts : st.backend.accepts s ctx with
  | false =>
      rw [foldl_after_of_rejects haccepts fun call hcall => (quiet_of_mem_openingCalls hcall).1,
        handle_of_rejects haccepts rfl]
      simp [haccepts]
  | true =>
      rw [after_openingCalls haccepts, handle_of_accepts haccepts]
      show (st.backend.finish s st.templates ctx (some _)).failure = _
      rw [Backend.failure_finish, CompilationUnit.add_add]
      simp [haccepts, Backend.built]

/-- A visit fails by the first backend that fails at it. -/
theorem failure_sendAll_signals (s : Setting) (stations : List Station) (visit : Visit) :
    (sendAll s stations (visit.signals s)).failure = stations.findSome? (failure? s visit) := by
  cases visit with
  | skip id =>
      show none = _
      rw [eq_comm, List.findSome?_eq_none_iff]
      intro st _
      rfl
  | callback ctx c =>
      show (sendAll s stations [.visit ctx (.callback c)]).failure = _
      rw [(sendAll_visit s stations ctx _).1, failure_callAll]
      simp only [failure_handle_callback]
  | interface ctx =>
      have hopen := failure_openingCalls s ctx stations
      have hstations := (sendAll_of_quiet
        (fun call hcall => (quiet_of_mem_openingCalls hcall).2 ctx) hopen).1
      rw [signals_interface, failure_sendAll_append hopen, (sendAll_visit s _ ctx _).1,
        failure_callAll, hstations, List.findSome?_map]
      exact congrArg (stations.findSome? ·) (funext fun st => failure_handle_finish st)

/-- A run fails by the first visit at which a backend fails. -/
theorem failure_visitAll (s : Setting) (stations : List Station) (visits : List Visit) :
    (visitAll s stations visits).failure =
      visits.findSome? fun visit => stations.findSome? (failure? s visit) := by
  induction visits generalizing stations with
  | nil => rfl
  | cons visit rest ih =>
      rw [visitAll, List.findSome?_cons, ← failure_sendAll_signals]
      cases hvisit : (sendAll s stations (visit.signals s)).failure with
      | some e => simp
      | none =>
          -- the backends go on with other units, which do not matter for failures
          obtain ⟨unit, hstations⟩ := (served_of_success hvisit).stations_eq
          dsimp only
          rw [ih, hstations]
          simp only [List.findSome?_map]
          rfl

end Station

/-! ### Whole runs -/

theorem Graph.contains_ensureBase_iff {g : Graph} {base id : String} :
    (g.ensureBase base).contains id = true ↔ id = base ∨ g.contains id = true := by
  unfold ensureBase
  split
  · next hbase =>
    refine ⟨.inr, ?_⟩
    rintro (rfl | h)
    · exact hbase
    · exact h
  · rw [contains_iff, find?_add, contains_iff]
    by_cases hid : id = base <;> simp [hid]

theorem Plan.exists_make (c : Config) (auxiliary : NameSet) (g : Graph) :
    ∃ plan, Plan.make c auxiliary g = .ok plan := by
  unfold Plan.make Graph.populateBase
  simp only [Graph.contains_ensureBase_iff.mpr (.inl rfl), if_true]
  exact ⟨_, rfl⟩

/-- Every generation carries a plan out, and fails by the first visit at which a backend fails. -/
theorem Generation.exists_plan (c : Config) (auxiliary : NameSet) (stations : List Station)
    (g : Graph) :
    ∃ plan, Plan.Made c auxiliary g plan ∧
      (generate c auxiliary stations g).setting = plan.setting ∧
      (generate c auxiliary stations g).outcome =
        match plan.visits.findSome? fun v =>
          stations.findSome? (Station.failure? plan.setting v) with
        | some e => .error e
        | none => .ok plan.report := by
  obtain ⟨plan, hplan⟩ := Plan.exists_make c auxiliary g
  refine ⟨plan, Plan.made_of_make hplan, ?_, ?_⟩
  · simp [generate, hplan]
  · rw [← Station.failure_visitAll]
    simp only [generate, hplan]
    rfl

/-! ### Built-in templates -/

namespace Template

theorem isSome_renderAll?_iff {view : View} {templates : List Template} :
    (renderAll? view templates).isSome = true ↔
      ∀ t ∈ templates, (render? view t).isSome = true := by
  induction templates with
  | nil => simp [renderAll?]
  | cons t rest ih =>
      rw [renderAll?, List.forall_mem_cons, ← ih]
      cases render? view t <;> cases renderAll? view rest <;> simp

theorem isSome_render?_this (view : View) : (render? view .this).isSome = true := rfl

variable {fields : List (String × Document)} {name : String}

theorem isSome_render?_field (h : (fields.lookup name).isSome = true) :
    (render? (.ofData (.record fields)) (.field name)).isSome = true := by
  obtain ⟨d, hd⟩ := Option.isSome_iff_exists.mp h
  simp [field, render?, Operand.value?, View.find, View.named?, View.ofData, View.scope?,
    Document.follow, hd]

/-- A list is repeated with whatever body always shows its item. -/
theorem isSome_render?_forEach {items : List Document} {body : List Template}
    (h : fields.lookup name = some (.list items))
    (hbody : ∀ view, (renderAll? view body).isSome = true) :
    (render? (.ofData (.record fields)) (.forEach name body)).isSome = true := by
  have hvalues : Operand.values? (.ofData (.record fields)) [.query (.path 0 [name])] =
      some [some (.list items)] := by
    simp [Operand.values?, Operand.value?, View.find, View.named?, View.ofData, View.scope?,
      Document.follow, h]
  -- the text of the body in each view
  have htext : ∀ view, renderAll? view body = some ((renderAll? view body).get (hbody view)) :=
    fun view => (Option.some_get _).symm
  rw [forEach, render?, hvalues]
  simp only [Operand.optionValues?, Option.bind_some, Scope.ofItems?]
  cases items.mapIdx _ with
  | nil => rfl
  | cons first rest =>
      have hmap := List.mapM_pure (m := Option) (l := first :: rest)
        (f := fun scope => (renderAll? (View.enter (.ofData (.record fields)) scope) body).get
          (hbody _))
      have hall : (first :: rest).mapM (fun scope =>
          renderAll? (View.enter (.ofData (.record fields)) scope) body) = some _ :=
        (congrArg (List.mapM · (first :: rest)) (funext fun _ => htext _)).trans hmap
      simp only [hall]
      rfl

theorem isSome_renderAll?_builtin (kind : UnitKind) (f : Frame) :
    (renderAll? (.ofData f.document) kind.builtin).isSome = true := by
  have hline : ∀ view, (renderAll? view [.text "import ", .this, .text ";\n"]).isSome = true := by
    intro view
    rw [isSome_renderAll?_iff]
    simp [isSome_render?_this, render?]
  have hnames : List.lookup "imports" [("body", .text f.body), ("declaration", .text f.declaration),
      ("imports", .ofTexts f.imports), ("name", .text f.name), ("package", .text f.package)] =
        some (Document.list (f.imports.map .text)) := rfl
  have himports := isSome_render?_forEach hnames hline
  have hopening : ∀ t ∈ kind.opening, (render? (.ofData f.document) t).isSome = true := by
    cases kind with
    | contract | callback => exact fun _ ht => nomatch ht
    | overlay =>
        simp only [UnitKind.opening, List.forall_mem_cons]
        exact ⟨rfl, isSome_render?_field rfl, rfl, fun _ ht => nomatch ht⟩
  rw [isSome_renderAll?_iff, UnitKind.builtin]
  simp only [List.forall_mem_append, List.forall_mem_cons]
  exact ⟨⟨⟨rfl, isSome_render?_field rfl, rfl, himports, rfl, isSome_render?_field rfl, rfl,
    fun _ ht => nomatch ht⟩, hopening⟩, isSome_render?_field rfl, rfl, fun _ ht => nomatch ht⟩

end Template

theorem Templates.find?_builtin (kind : UnitKind) :
    Templates.builtin.table.find? kind.templateName = some kind.builtin := by
  cases kind <;> rfl

theorem CompilationUnit.render_builtin (u : CompilationUnit) (types : Java.TypeMap)
    (base : String) : ∃ e, u.render .builtin types base = .ok e := by
  obtain ⟨text, htext⟩ := Option.isSome_iff_exists.mp
    (Template.isSome_renderAll?_builtin u.header.kind (u.frame types base))
  refine ⟨⟨u.path, text⟩, ?_⟩
  simp [render, Templates.render, Templates.find?_builtin, htext]

/-! ### Stages -/

theorem Interface.callback?_eq_none_iff {i : Interface} :
    i.callback? = none ↔ ¬(i.isCallback = true ∧ i.operations.length = 1) := by
  unfold callback? callbackOperation?
  rw [List.length_eq_one_iff]
  cases i.isCallback with
  | false => simp
  | true =>
      cases i.operations with
      | nil => simp
      | cons first rest => cases rest <;> simp [OverloadSet.ofOperations?]

theorem Graph.typedArrays_ne_nil_iff {g : Graph} :
    g.typedArrays ≠ [] ↔ ∃ i ∈ g.interfaces, g.isTypedArray i = true := by
  simp [typedArrays, List.filter_eq_nil_iff]

/-- There are typed arrays, and no buffers for them. -/
def Graph.LacksBuffers (g : Graph) : Prop :=
  (∃ i ∈ g.interfaces, g.isTypedArray i = true) ∧ g.contains buffer = false

instance (g : Graph) : Decidable g.LacksBuffers :=
  inferInstanceAs (Decidable (_ ∧ _))

/-- There are element types of a group, and no type of all elements. -/
def FactoryNaming.LacksElements (naming : FactoryNaming) (g : Graph) : Prop :=
  (∃ m ∈ naming.methods g, m.group.isSome = true) ∧ g.contains naming.suffix = false

instance (naming : FactoryNaming) (g : Graph) : Decidable (naming.LacksElements g) :=
  inferInstanceAs (Decidable (_ ∧ _))

namespace Backend

variable {b : Backend} {s : Setting} {ctx : Context}

theorem globalMembers_eq_error_iff {e : Error} :
    globalMembers s = .error e ↔ s.graph.LacksBuffers ∧
      ∃ i ∈ s.graph.typedArrays.head?,
        e = .missingInterface Graph.buffer (s.config.globalRoot ++ ".new" ++ i.id) := by
  unfold globalMembers Graph.typedArrayFactories Graph.LacksBuffers
  rw [← Graph.typedArrays_ne_nil_iff]
  cases s.graph.typedArrays with
  | nil => simp [Except.map]
  | cons first rest =>
      cases s.graph.contains Graph.buffer with
      | true => simp [Except.map]
      | false => simp [Except.map, eq_comm]

theorem overlayFactories_eq_error_iff {e : Error} :
    overlayFactories s ctx = .error e ↔ s.config.factoryNaming.LacksElements s.graph ∧
      e = .missingInterface s.config.factoryNaming.suffix
        (ctx.interface.id ++ ".createElementNS") := by
  have hgroups : distinctBy ElementGroup.helper ((factoryMethods s).filterMap (·.group)) = [] ↔
      ¬∃ m ∈ s.config.factoryNaming.methods s.graph, m.group.isSome = true := by
    rw [distinctBy_eq_nil_iff, List.filterMap_eq_nil_iff]
    simp [factoryMethods]
  unfold overlayFactories FactoryNaming.LacksElements
  dsimp only
  cases hempty : distinctBy ElementGroup.helper ((factoryMethods s).filterMap (·.group)) with
  | nil => simp [hgroups.mp hempty]
  | cons first rest =>
      have hsome := not_not.mp (mt hgroups.mpr (by simp [hempty]))
      cases s.graph.contains s.config.factoryNaming.suffix with
      | true => simp
      | false =>
          simp only [List.isEmpty_cons, Bool.or_self, Bool.false_eq_true, if_false,
            Except.error.injEq, hsome, true_and]
          exact eq_comm

/-- The stages that can fail: the factories of the global root, and those of an overlay class. -/
theorem error_mem_stages_iff {e : Error} :
    .error e ∈ b.stages s ctx ↔
      ctx.interface.id = s.config.globalRoot ∧ globalMembers s = .error e ∨
        b = .overlay ∧ ctx.interface.id = s.config.factoryRoot ∧
          overlayFactories s ctx = .error e := by
  have hone : ∀ {p : Prop} [Decidable p] {stage : Except Error (List Member)},
      .error e ∈ (if p then [stage] else []) ↔ p ∧ stage = .error e := by
    intro p _ stage
    split <;> simp_all [eq_comm]
  cases b with
  | contract =>
      simp only [stages, List.mem_append, hone, reduceCtorEq, false_and, and_false, or_false,
        false_or]
  | overlay =>
      have hbase : .error e ∉ (if ctx.isBase s then ((listenerMembers? s).map .ok).toList else
          ([] : List (Except Error (List Member)))) := by
        split <;> simp
      simp only [stages, List.mem_append, hone, hbase, true_and, false_or]
      exact or_comm

/-- At a visit a backend can fail only by the stages of an interface that it accepts. -/
theorem error_mem_stagesAt_iff {visit : Visit} {e : Error} :
    .error e ∈ b.stagesAt s visit ↔
      ∃ ctx, visit = .interface ctx ∧ b.accepts s ctx = true ∧ .error e ∈ b.stages s ctx := by
  cases visit with
  | skip id => simp [stagesAt]
  | callback ctx c => simp [stagesAt]
  | interface ctx =>
      unfold stagesAt
      cases haccepts : b.accepts s ctx <;> simp [haccepts]

end Backend

theorem error_mem_of_findSome? {α : Type} {stages : List (Except Error α)} {e : Error}
    (h : stages.findSome? failureOf = some e) : .error e ∈ stages := by
  obtain ⟨stage, hstage, hfailure⟩ := List.exists_of_findSome?_eq_some h
  rw [failureOf_eq_some_iff] at hfailure
  exact hfailure ▸ hstage

/-- With the built-in templates a backend fails by its stages only. -/
theorem Station.failure?_of_builtin {st : Station} (h : st.templates = .builtin) (s : Setting)
    (visit : Visit) : st.failure? s visit = (st.backend.stagesAt s visit).findSome? failureOf := by
  unfold failure?
  cases st.backend.unit? s visit with
  | none => exact Option.or_none
  | some u =>
      obtain ⟨e, he⟩ := u.render_builtin s.types s.baseClass
      rw [h, Option.bind_some, he]
      exact Option.or_none

/-! ### Which runs fail -/

namespace Plan

/-- An interface is generated: it is visited, not written by hand, and no callback with its one
operation. -/
def Generates (c : Config) (auxiliary : NameSet) (g : Graph) (s : Setting) (id : String) : Prop :=
  id ∈ order c g ∧ auxiliary.contains id = false ∧
    ∃ i, s.graph.find? id = some i ∧ ¬(i.isCallback = true ∧ i.operations.length = 1)

theorem visit_eq_interface_iff {s : Setting} {auxiliary : NameSet} {i : Interface} {ctx : Context} :
    visit s auxiliary i = .interface ctx ↔
      auxiliary.contains i.id = false ∧ i.callback? = none ∧ s.context i = ctx := by
  unfold visit
  cases auxiliary.contains i.id <;> cases i.callback? <;> simp

theorem Made.generates_iff {c : Config} {auxiliary : NameSet} {g : Graph} {plan : Plan}
    (h : Made c auxiliary g plan) (hg : g.Keyed) {id : String} :
    Generates c auxiliary g plan.setting id ↔
      ∃ ctx, .interface ctx ∈ plan.visits ∧ ctx.interface.id = id := by
  rw [h.visits_eq]
  constructor
  · rintro ⟨horder, hwritten, i, hi, hcallback⟩
    have hid : i.id = id := h.keyed hg id i hi
    refine ⟨plan.setting.context i, List.mem_map.mpr ⟨i, ?_, ?_⟩, hid⟩
    · exact List.mem_filterMap.mpr ⟨id, horder, hi⟩
    · exact visit_eq_interface_iff.mpr
        ⟨hid ▸ hwritten, Interface.callback?_eq_none_iff.mpr hcallback, rfl⟩
  · rintro ⟨ctx, hctx, rfl⟩
    obtain ⟨i, hi, hvisit⟩ := List.mem_map.mp hctx
    obtain ⟨key, horder, hfind⟩ := List.mem_filterMap.mp hi
    obtain ⟨hwritten, hcallback, rfl⟩ := visit_eq_interface_iff.mp hvisit
    have hkey : i.id = key := h.keyed hg key i hfind
    show Generates c auxiliary g plan.setting i.id
    exact ⟨hkey ▸ horder, hwritten, i, hkey ▸ hfind, Interface.callback?_eq_none_iff.mp hcallback⟩

end Plan

namespace Generation

variable {c : Config} {auxiliary : NameSet} {stations : List Station} {g : Graph}

/-- With the built-in templates a generation fails exactly if a stage does. -/
theorem exists_failing_stage (c : Config) (auxiliary : NameSet) (g : Graph)
    (hbuiltin : ∀ st ∈ stations, st.templates = .builtin) :
    ∃ plan, Plan.Made c auxiliary g plan ∧
      (generate c auxiliary stations g).setting = plan.setting ∧
      (∀ e, (generate c auxiliary stations g).outcome = .error e →
        ∃ v ∈ plan.visits, ∃ st ∈ stations, .error e ∈ st.backend.stagesAt plan.setting v) ∧
      ((∃ v ∈ plan.visits, ∃ st ∈ stations, ∃ e, .error e ∈ st.backend.stagesAt plan.setting v) →
        ∃ e, (generate c auxiliary stations g).outcome = .error e) := by
  obtain ⟨plan, hmade, hsetting, houtcome⟩ := exists_plan c auxiliary stations g
  refine ⟨plan, hmade, hsetting, ?_, ?_⟩
  · intro e he
    rw [houtcome] at he
    split at he
    · next e' hfailure =>
      cases he
      obtain ⟨v, hv, hfailure⟩ := List.exists_of_findSome?_eq_some hfailure
      obtain ⟨st, hst, hfailure⟩ := List.exists_of_findSome?_eq_some hfailure
      rw [Station.failure?_of_builtin (hbuiltin st hst)] at hfailure
      exact ⟨v, hv, st, hst, error_mem_of_findSome? hfailure⟩
    · cases he
  · rintro ⟨v, hv, st, hst, e, he⟩
    rw [houtcome]
    split
    · next e' _ => exact ⟨e', rfl⟩
    · next hnone =>
      -- no visit fails, in particular not this one
      rw [List.findSome?_eq_none_iff] at hnone
      have hst' := List.findSome?_eq_none_iff.mp (hnone v hv) st hst
      rw [Station.failure?_of_builtin (hbuiltin st hst), List.findSome?_eq_none_iff] at hst'
      exact nomatch hst' _ he

/-- The global root is generated by a backend, and lacks the buffers that it needs. -/
def LacksBuffers (c : Config) (auxiliary : NameSet) (stations : List Station) (g : Graph)
    (s : Setting) : Prop :=
  Plan.Generates c auxiliary g s c.globalRoot ∧
    (∃ st ∈ stations,
      st.backend = .overlay ∨ st.backend = .contract ∧ c.globalRoot ≠ c.mixinBase) ∧
    s.graph.LacksBuffers

/-- The factory root is generated as an overlay class, and lacks the type of all elements. -/
def LacksElements (c : Config) (auxiliary : NameSet) (stations : List Station) (g : Graph)
    (s : Setting) : Prop :=
  Plan.Generates c auxiliary g s c.factoryRoot ∧ (∃ st ∈ stations, st.backend = .overlay) ∧
    c.factoryNaming.LacksElements s.graph

theorem lacks_of_error_mem {plan : Plan} (h : Plan.Made c auxiliary g plan) (hg : g.Keyed)
    {visit : Visit} (hvisit : visit ∈ plan.visits) {st : Station} (hst : st ∈ stations) {e : Error}
    (he : .error e ∈ st.backend.stagesAt plan.setting visit) :
    LacksBuffers c auxiliary stations g plan.setting ∧
        (∃ i ∈ plan.setting.graph.typedArrays.head?,
          e = .missingInterface Graph.buffer (c.globalRoot ++ ".new" ++ i.id)) ∨
      LacksElements c auxiliary stations g plan.setting ∧
        e = .missingInterface c.factoryNaming.suffix (c.factoryRoot ++ ".createElementNS") := by
  obtain ⟨ctx, rfl, haccepts, hstage⟩ := Backend.error_mem_stagesAt_iff.mp he
  rw [Backend.error_mem_stages_iff, Backend.globalMembers_eq_error_iff,
    Backend.overlayFactories_eq_error_iff, h.config_eq] at hstage
  have hgenerates := (h.generates_iff hg).mpr ⟨ctx, hvisit, rfl⟩
  rcases hstage with ⟨hroot, hlacks, herror⟩ | ⟨hoverlay, hroot, hlacks, rfl⟩
  · have hbackend := Backend.accepts_iff.mp haccepts
    rw [hroot, h.config_eq] at hbackend
    exact .inl ⟨⟨hroot ▸ hgenerates, ⟨st, hst, hbackend⟩, hlacks⟩, herror⟩
  · exact .inr ⟨⟨hroot ▸ hgenerates, ⟨st, hst, hoverlay⟩, hlacks⟩, by rw [hroot]⟩

theorem exists_error_mem_of_lacks {plan : Plan} (h : Plan.Made c auxiliary g plan) (hg : g.Keyed)
    (hlacks : LacksBuffers c auxiliary stations g plan.setting ∨
      LacksElements c auxiliary stations g plan.setting) :
    ∃ v ∈ plan.visits, ∃ st ∈ stations, ∃ e, .error e ∈ st.backend.stagesAt plan.setting v := by
  rcases hlacks with ⟨hgenerates, ⟨st, hst, hbackend⟩, hlacks⟩ |
      ⟨hgenerates, ⟨st, hst, hoverlay⟩, hlacks⟩ <;>
    obtain ⟨ctx, hctx, hroot⟩ := (h.generates_iff hg).mp hgenerates
  · have haccepts : st.backend.accepts plan.setting ctx = true := by
      rw [Backend.accepts_iff, h.config_eq, hroot]
      exact hbackend
    obtain ⟨first, hfirst⟩ := Option.isSome_iff_exists.mp
      (List.isSome_head?.mpr (Graph.typedArrays_ne_nil_iff.mpr hlacks.1))
    have hstage := Backend.globalMembers_eq_error_iff.mpr ⟨hlacks, first, hfirst, rfl⟩
    have hmem := Backend.error_mem_stages_iff (b := st.backend).mpr
      (.inl ⟨hroot.trans (congrArg Config.globalRoot h.config_eq).symm, hstage⟩)
    exact ⟨_, hctx, st, hst, _, Backend.error_mem_stagesAt_iff.mpr ⟨ctx, rfl, haccepts, hmem⟩⟩
  · have haccepts : st.backend.accepts plan.setting ctx = true :=
      Backend.accepts_iff.mpr (.inl hoverlay)
    rw [← h.config_eq] at hlacks
    have hstage : Backend.overlayFactories plan.setting ctx = .error _ :=
      Backend.overlayFactories_eq_error_iff.mpr ⟨hlacks, rfl⟩
    have hmem := Backend.error_mem_stages_iff.mpr
      (.inr ⟨hoverlay, hroot.trans (congrArg Config.factoryRoot h.config_eq).symm, hstage⟩)
    exact ⟨_, hctx, st, hst, _, Backend.error_mem_stagesAt_iff.mpr ⟨ctx, rfl, haccepts, hmem⟩⟩

/-- With the built-in templates, generation fails exactly if the global root cannot have its typed
arrays or the overlay class of the factory root its element groups; every error names the interface
that is missing from the graph, and what needs it. -/
theorem generation_fails_iff (c : Config) (auxiliary : NameSet) (stations : List Station)
    (g : Graph) (hg : g.Keyed) (hbuiltin : ∀ st ∈ stations, st.templates = .builtin) :
    let s := (generate c auxiliary stations g).setting
    let outcome := (generate c auxiliary stations g).outcome
    (Plan.prepared c g).populateBase c.mixinBase s.mixins = .ok s.graph ∧
      ((∃ e, outcome = .error e) ↔
        LacksBuffers c auxiliary stations g s ∨ LacksElements c auxiliary stations g s) ∧
      ∀ e, outcome = .error e →
        LacksBuffers c auxiliary stations g s ∧
            (∃ i ∈ s.graph.typedArrays.head?,
              e = .missingInterface Graph.buffer (c.globalRoot ++ ".new" ++ i.id)) ∨
          LacksElements c auxiliary stations g s ∧
            e = .missingInterface c.factoryNaming.suffix (c.factoryRoot ++ ".createElementNS") := by
  intro s outcome
  obtain ⟨plan, hmade, hsetting, herror, hfails⟩ :=
    exists_failing_stage c auxiliary g hbuiltin
  have hs : s = plan.setting := hsetting
  rw [hs]
  refine ⟨hmade.populated, ⟨?_, fun hlacks => ?_⟩, fun e he => ?_⟩
  · rintro ⟨e, he⟩
    obtain ⟨v, hv, st, hst, hstage⟩ := herror e he
    exact (lacks_of_error_mem hmade hg hv hst hstage).imp And.left And.left
  · exact hfails (exists_error_mem_of_lacks hmade hg hlacks)
  · obtain ⟨v, hv, st, hst, hstage⟩ := herror e he
    exact lacks_of_error_mem hmade hg hv hst hstage

/-- The graph of a window with a typed array, and of a document with a group of elements. -/
def bareGraph : Graph :=
  [{ id := "Window" }, { id := "Int8Array", parents := [{ type := "ArrayBufferView" }] },
    { id := "Document" }, { id := "SVGCircleElement" }].foldl Graph.add Graph.empty

/-- A run from this graph with the built-in templates. -/
def bareRun (b : Backend) (auxiliary : List String) : Generation :=
  generate {} (NameSet.ofNames auxiliary) [{ backend := b, templates := .builtin }] bareGraph

theorem generation_fails_iff_bareRun :
    (∃ e, (bareRun .contract []).outcome = .error e) ∧
      (∃ e, (bareRun .overlay ["Window"]).outcome = .error e) ∧
      ¬∃ e, (bareRun .contract ["Window"]).outcome = .error e := by
  have hkeyed : bareGraph.Keyed := Graph.keyed_of_entries (by decide +kernel)
  have hiff := fun b auxiliary => (generation_fails_iff {} (NameSet.ofNames auxiliary)
    [{ backend := b, templates := .builtin }] bareGraph hkeyed (by simp)).2.1
  refine ⟨(hiff _ _).mpr (.inl ?_), (hiff _ _).mpr (.inr ?_), fun herror => ?_⟩
  · refine ⟨⟨by decide +kernel, by decide +kernel, { id := "Window" }, by decide +kernel,
      by decide⟩, by decide, by decide +kernel⟩
  · refine ⟨⟨by decide +kernel, by decide +kernel, { id := "Document" }, by decide +kernel,
      by decide⟩, by decide, by decide +kernel⟩
  · rcases (hiff _ _).mp herror with ⟨⟨_, hwritten, _⟩, _⟩ | ⟨_, hoverlay, _⟩
    · exact absurd hwritten (by decide +kernel)
    · exact absurd hoverlay (by decide)

end Generation

end Bindery
