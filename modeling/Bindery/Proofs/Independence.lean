import Bindery.Command
import Bindery.Proofs.Emission
import Bindery.Proofs.Failure

/-! # Backends do not influence each other

What a backend renders depends on the plan and on its own templates (`Carried.filter_rendered`), and
the plan on the graph, the configuration and the names written by hand.  The mixins depend on even
less: `Plan.mixins` reads neither the backends nor the targets, so that every command that generates
a target finds the same ones. -/

namespace Bindery

/-! ### What a backend renders -/

theorem Station.backend_of_product? {st : Station} {s : Setting} {v : Visit} {r : Rendered}
    (h : st.product? s v = some r) : r.backend = st.backend := by
  obtain ⟨u, _, hu⟩ := Option.bind_eq_some_iff.mp h
  obtain ⟨e, _, rfl⟩ := Option.map_eq_some_iff.mp hu
  rfl

theorem Station.filter_product? (b : Backend) (st : Station) (s : Setting) (v : Visit) :
    (st.product? s v).toList.filter (·.backend = b) =
      if st.backend = b then (st.product? s v).toList else [] := by
  cases hproduct : st.product? s v with
  | none => simp
  | some r => simp [backend_of_product? hproduct, List.filter_cons]

namespace Generation

variable {c : Config} {auxiliary : NameSet} {stations stations' : List Station} {g : Graph}
  {report report' : Report} {plan : Plan}

/-- A backend that is the only one of its kind renders its own units, whatever others do. -/
theorem Carried.filter_rendered (h : Carried c auxiliary stations g report plan)
    (hkinds : (stations.map (·.backend)).Nodup) {st : Station} (hst : st ∈ stations) :
    (generate c auxiliary stations g).rendered.filter (·.backend = st.backend) =
      plan.visits.flatMap fun v => (st.product? plan.setting v).toList := by
  rw [h.rendered_eq, List.filter_flatMap]
  refine List.flatMap_congr fun v _ => ?_
  rw [List.filterMap_eq_flatMap_toList, List.filter_flatMap]
  simp only [Station.filter_product?]
  exact flatMap_of_nodup_keys hkinds hst _

theorem Carried.filter_rendered_eq (h : Carried c auxiliary stations g report plan)
    (h' : Carried c auxiliary stations' g report' plan)
    (hkinds : (stations.map (·.backend)).Nodup) (hkinds' : (stations'.map (·.backend)).Nodup)
    {st st' : Station} (hst : st ∈ stations) (hst' : st' ∈ stations')
    (hbackend : st.backend = st'.backend) (htemplates : st.templates = st'.templates) :
    (generate c auxiliary stations g).rendered.filter (·.backend = st.backend) =
      (generate c auxiliary stations' g).rendered.filter (·.backend = st.backend) := by
  rw [h.filter_rendered hkinds hst, hbackend, h'.filter_rendered hkinds' hst']
  refine List.flatMap_congr fun v _ => ?_
  rw [Station.product?, Station.product?, hbackend, htemplates]

end Generation

/-! ### Mixins -/

/-- The mixins that a run finds in a graph. -/
def Plan.mixins (c : Config) (g : Graph) : NameSet :=
  (prepared c g).mixins (order c g) c.manualMixins

theorem Generation.mixins_of_success {c : Config} {auxiliary : NameSet} {stations : List Station}
    {g : Graph} {report : Report} (h : (generate c auxiliary stations g).outcome = .ok report) :
    report.mixins = Plan.mixins c g := by
  obtain ⟨plan, hplan⟩ := exists_carried h
  rw [hplan.report_eq]
  exact hplan.mixins_eq

theorem Generation.exists_report (c : Config) (auxiliary : NameSet) (g : Graph) :
    ∃ report, (generate c auxiliary [] g).outcome = .ok report := by
  obtain ⟨plan, _, _, houtcome⟩ := exists_plan c auxiliary [] g
  have hnone : plan.visits.findSome? (fun v =>
      [].findSome? (Station.failure? plan.setting v)) = none :=
    List.findSome?_eq_none_iff.mpr fun _ _ => rfl
  rw [hnone] at houtcome
  exact ⟨plan.report, houtcome⟩

theorem exists_of_map_eq_ok {α β : Type} {f : α → β} {x : Except Error α} {b : β}
    (h : x.map f = .ok b) : ∃ a, x = .ok a ∧ f a = b := by
  cases x with
  | error e => cases h
  | ok a => exact ⟨a, rfl, Except.ok.inj h⟩

theorem eq_error_of_map_eq_error {α β : Type} {f : α → β} {x : Except Error α} {e : Error}
    (h : x.map f = .error e) : x = .error e := by
  cases x with
  | error e' => exact congrArg Except.error (Except.error.inj h)
  | ok a => cases h

namespace Target

/-- A report is on a target, and has the mixins of its graph. -/
def Lists (c : Config) (g : Graph) (t : Target) (report : Report) : Prop :=
  report.target = t.name ∧ report.mixins = Plan.mixins c (t.prepare g).graph

variable {c : Config} {tree : FileTree} {g : Graph} {t : Target} {report : Report}

theorem lists_of_generate (h : (t.generate c tree g).outcome = .ok report) :
    t.Lists c g report := by
  unfold generate at h
  dsimp only at h
  split at h
  · cases h
  · split at h
    · cases h
    · obtain ⟨found, hfound, rfl⟩ := exists_of_map_eq_ok h
      have hmixins := Generation.mixins_of_success hfound
      exact ⟨rfl, hmixins⟩

theorem lists_of_run (h : (t.run c tree g).outcome = .ok report) : t.Lists c g report := by
  unfold run at h
  dsimp only at h
  split at h
  · cases h
  · next generated hgenerated =>
    split at h
    · cases h
    · cases h
      obtain ⟨htarget, hmixins⟩ := lists_of_generate hgenerated
      exact ⟨htarget, hmixins⟩

theorem lists_of_runAll {targets : List Target} {reports : List Report}
    (h : (runAll c tree g targets).outcome = .ok reports) :
    List.Forall₂ (Lists c g) targets reports := by
  induction targets generalizing tree reports with
  | nil =>
      cases h
      exact .nil
  | cons t rest ih =>
      rw [runAll] at h
      dsimp only at h
      split at h
      · cases h
      · next report hreport =>
        obtain ⟨others, hothers, rfl⟩ := exists_of_map_eq_ok h
        exact .cons (lists_of_run hreport) (ih hothers)

end Target

/-! ### Commands -/

/-- The report on the target of a name, or the first one if no name is given. -/
def Report.ofTarget? (reports : List Report) : Option String → Option Report
  | some name => reports.find? (·.target = name)
  | none => reports.head?

theorem forall₂_find? {α β : Type} {R : α → β → Prop} {p : α → Bool} {q : β → Bool}
    {items : List α} {others : List β} (h : List.Forall₂ R items others)
    (hpq : ∀ {a b}, R a b → p a = q b) {a : α} (ha : items.find? p = some a) :
    ∃ b, others.find? q = some b ∧ R a b := by
  induction h with
  | nil => cases ha
  | @cons first other _ _ hfirst _ ih =>
      rw [List.find?_cons] at ha ⊢
      rw [← hpq hfirst]
      cases hp : p first with
      | true =>
          rw [hp] at ha
          cases ha
          exact ⟨other, rfl, hfirst⟩
      | false =>
          rw [hp] at ha
          exact ih ha

theorem exists_ofTarget? {c : Config} {g : Graph} {target : Option String} {t : Target}
    {reports : List Report} (ht : c.target target = .ok t)
    (h : List.Forall₂ (Target.Lists c g) c.targets reports) :
    ∃ report, Report.ofTarget? reports target = some report ∧ t.Lists c g report := by
  unfold Config.target at ht
  cases target with
  | none =>
      generalize c.targets = targets at ht h
      cases h with
      | nil => cases ht
      | cons hfirst _ =>
          cases ht
          exact ⟨_, rfl, hfirst⟩
  | some name =>
      dsimp only at ht
      split at ht
      · next found hfound =>
        cases ht
        exact forall₂_find? h (fun {t report} hlists => by rw [hlists.1]) hfound
      · cases ht

namespace Command

variable {tree : FileTree} {database : Path} {config output file : Option Path}
  {target : Option String} {systems : List String} {g : Graph} {c : Config} {t : Target}

theorem runMixins_outcome (hg : loadDatabase tree database = .ok g)
    (hc : loadConfig tree config = .ok c) (ht : c.target target = .ok t) :
    (runMixins tree database config target).outcome =
      .ok (Plan.mixins c (t.prepare g).graph).keys := by
  obtain ⟨report, hreport⟩ :=
    Generation.exists_report c SortedMap.empty (t.prepare g).graph
  unfold runMixins withInputs
  simp only [hg, hc, ht, hreport, Generation.mixins_of_success hreport]

theorem targets_ne_nil (ht : c.target target = .ok t) : c.targets ≠ [] := by
  intro hnil
  unfold Config.target at ht
  rw [hnil] at ht
  cases target <;> cases ht

/-- Another output directory and other backends do not change the mixins of a target. -/
theorem lists_of_overrideFirst {c' : Config} {reports : List Report} (ht : c.targets ≠ [])
    (hc : overrideFirst c output systems = .ok c')
    (h : List.Forall₂ (Target.Lists c' g) c'.targets reports) :
    List.Forall₂ (Target.Lists c g) c.targets reports := by
  unfold overrideFirst at hc
  split at hc
  · cases hc
    exact h
  · obtain ⟨first, others, htargets⟩ := List.exists_cons_of_ne_nil ht
    rw [htargets] at hc ⊢
    dsimp only at hc
    split at hc
    · cases hc
    · cases hc
      cases h with
      | cons hfirst hothers => exact .cons hfirst hothers

theorem outcome_of_writeFile {α : Type} {tree : FileTree} {notes : List Note} {p : Path}
    {content attempt : String} {wrote : Note} {result a : α}
    (h : (writeFile tree notes p content attempt wrote result).outcome = .ok a) : result = a := by
  unfold writeFile at h
  split at h <;> cases h
  rfl

theorem lists_of_runGenerate {reports : List Report} (hg : loadDatabase tree database = .ok g)
    (hc : loadConfig tree config = .ok c) (ht : c.target target = .ok t)
    (h : (runGenerate tree database config output systems file).outcome = .ok reports) :
    List.Forall₂ (Target.Lists c g) c.targets reports := by
  unfold runGenerate withInputs at h
  simp only [hg, hc] at h
  split at h
  · cases h
  · next c' hc' =>
    refine lists_of_overrideFirst (targets_ne_nil ht) hc' ?_
    split at h
    · cases h
    · next hreports =>
      cases h
      exact Target.lists_of_runAll hreports
    · next hreports =>
      obtain rfl := outcome_of_writeFile h
      exact Target.lists_of_runAll hreports

end Command

/-! ### Independence -/

/-- Two runs that differ in their backends report the same, leave the same graph behind, and render
the same units for every backend that is part of both.  So a run without backends lists the mixins
that any report on the target has. -/
theorem backends_independent :
    (∀ (c : Config) (auxiliary : NameSet) (g : Graph) (stations stations' : List Station)
        (report report' : Report),
      (stations.map (·.backend)).Nodup → (stations'.map (·.backend)).Nodup →
      (∀ st ∈ stations, ∀ st' ∈ stations', st.backend = st'.backend →
        st.templates = st'.templates) →
      (generate c auxiliary stations g).outcome = .ok report →
      (generate c auxiliary stations' g).outcome = .ok report' →
      report = report' ∧
        (generate c auxiliary stations g).setting.graph =
          (generate c auxiliary stations' g).setting.graph ∧
        ∀ b ∈ stations.map (·.backend), b ∈ stations'.map (·.backend) →
          ((generate c auxiliary stations g).rendered.filter (·.backend = b)).map (·.emission) =
            ((generate c auxiliary stations' g).rendered.filter (·.backend = b)).map
              (·.emission)) ∧
    ∀ (tree : FileTree) (database : Path) (config : Option Path) (target : Option String)
        (g : Graph) (c : Config) (t : Target),
      Command.loadDatabase tree database = .ok g → Command.loadConfig tree config = .ok c →
      c.target target = .ok t →
      ∃ names, (Command.runMixins tree database config target).outcome = .ok names ∧
        (∀ report, (t.generate c tree g).outcome = .ok report → names = report.mixins.keys) ∧
        ∀ (output : Option Path) (systems : List String) (file : Option Path)
          (reports : List Report),
          (Command.runGenerate tree database config output systems file).outcome = .ok reports →
          ∃ report, Report.ofTarget? reports target = some report ∧ report.target = t.name ∧
            names = report.mixins.keys := by
  constructor
  · intro c auxiliary g stations stations' report report' hkinds hkinds' htemplates h h'
    obtain ⟨plan, hplan⟩ := Plan.exists_make c auxiliary g
    have hcarried := (Generation.carried_of_make hplan h).1
    have hcarried' := (Generation.carried_of_make hplan h').1
    refine ⟨?_, ?_, fun b hb hb' => ?_⟩
    · rw [hcarried.report_eq, hcarried'.report_eq]
    · rw [hcarried.setting_eq, hcarried'.setting_eq]
    · obtain ⟨st, hst, rfl⟩ := List.mem_map.mp hb
      obtain ⟨st', hst', hbackend⟩ := List.mem_map.mp hb'
      rw [hcarried.filter_rendered_eq hcarried' hkinds hkinds' hst hst' hbackend.symm
        (htemplates st hst st' hst' hbackend.symm)]
  · intro tree database config target g c t hg hc ht
    refine ⟨_, Command.runMixins_outcome hg hc ht, fun report hreport => ?_, ?_⟩
    · rw [(Target.lists_of_generate hreport).2]
    · intro output systems file reports hreports
      obtain ⟨report, hreport, htarget, hmixins⟩ :=
        exists_ofTarget? ht (Command.lists_of_runGenerate hg hc ht hreports)
      exact ⟨report, hreport, htarget, by rw [hmixins]⟩

/-- A tree with the database of one interface. -/
def nodeTree : FileTree :=
  FileTree.addFile {} ["node.json"] "[\x7b\"id\": \"Node\"\x7d]"

def nodeGraph : Graph :=
  Graph.empty.add { id := "Node" }

/-- The runs of some backends from this graph. -/
def nodeRun (backends : List Backend) : Generation :=
  generate {} SortedMap.empty (backends.map fun b => { backend := b, templates := .builtin })
    nodeGraph

/-- The report of the command on this database, with overlay classes only. -/
def nodeReport : Report :=
  { plainReport ["ElementalMixinBase", "Node"] with
    target := "default"
    files := [⟨"generated/elemental/js/dom/JsElementalMixinBase.java"⟩,
      ⟨"generated/elemental/js/dom/JsNode.java"⟩]
    filter := some {} }

theorem backends_independent_node :
    ((nodeRun [.contract]).rendered.filter (·.backend = .contract)).map (·.emission) =
        ((nodeRun [.overlay, .contract]).rendered.filter (·.backend = .contract)).map
          (·.emission) ∧
      (nodeRun [.contract]).rendered.map (·.unit.name) = ["Node"] ∧
      (nodeRun [.overlay, .contract]).rendered.map (·.unit.name) =
        ["JsElementalMixinBase", "JsNode", "Node"] ∧
      (Command.runMixins nodeTree ⟨"node.json"⟩ none none).outcome =
        .ok nodeReport.mixins.keys := by
  have hreport : ∀ backends ∈ [[Backend.contract], [.overlay, .contract]],
      (nodeRun backends).outcome = .ok (plainReport ["ElementalMixinBase", "Node"]) := by
    decide +kernel
  refine ⟨?_, by decide +kernel, by decide +kernel, ?_⟩
  · exact (backends_independent.1 {} SortedMap.empty nodeGraph _ _ _ _ (by decide) (by decide)
      (by simp) (hreport _ (by simp)) (hreport _ (by simp))).2.2 .contract (by decide) (by decide)
  · have hreports : (Command.runGenerate nodeTree ⟨"node.json"⟩ none none ["jso"] none).outcome =
        .ok [nodeReport] := by
      decide +kernel
    obtain ⟨names, hnames, _, hall⟩ := backends_independent.2 nodeTree ⟨"node.json"⟩ none none
      nodeGraph {} {} (by decide +kernel) rfl rfl
    obtain ⟨report, hfound, _, rfl⟩ := hall none ["jso"] none [nodeReport] hreports
    cases hfound
    exact hnames

end Bindery
