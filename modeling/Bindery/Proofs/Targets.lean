import Bindery.Proofs.Files
import Bindery.Proofs.Independence

/-! # Runs of several targets

Targets are run one after another, up to the first that fails.  What a target generates depends
neither on the other targets (`Target.generate_withTargets`) nor, without directories to read from,
on the files that are there (`Target.generate_tree`), and nothing is written before it is generated.
So a run that fails has the effect of a run of the targets before the one that fails, and in a run
that succeeds every target has the report that it has alone (`targets_run_exact`). -/

namespace Bindery

/-! ### Other targets do not matter -/

/-- The same setting under a configuration with other targets. -/
def Setting.withTargets (s : Setting) (targets : List Target) : Setting :=
  { s with config := { s.config with targets } }

namespace Station

variable (s : Setting) (targets : List Target)

theorem callAll_withTargets (ctx : Context) (call : Call) (stations : List Station) :
    callAll (s.withTargets targets) ctx call stations = callAll s ctx call stations := by
  induction stations with
  | nil => rfl
  | cons st rest ih =>
      have hhandle : st.handle (s.withTargets targets) ctx call = st.handle s ctx call := rfl
      rw [callAll, callAll, hhandle, ih]

theorem sendAll_withTargets (stations : List Station) (signals : List Signal) :
    sendAll (s.withTargets targets) stations signals = sendAll s stations signals := by
  induction signals generalizing stations with
  | nil => rfl
  | cons signal rest ih =>
      have hsend : send (s.withTargets targets) stations signal = send s stations signal := by
        cases signal with
        | visit ctx call => exact callAll_withTargets s targets ctx call stations
        | prepare => rfl
        | close => rfl
      rw [sendAll, sendAll, hsend, ih]

theorem visitAll_withTargets (stations : List Station) (visits : List Visit) :
    visitAll (s.withTargets targets) stations visits = visitAll s stations visits := by
  induction visits generalizing stations with
  | nil => rfl
  | cons visit rest ih =>
      have hsignals : visit.signals (s.withTargets targets) = visit.signals s := rfl
      rw [visitAll, visitAll, hsignals, sendAll_withTargets, ih]

end Station

theorem Plan.make_withTargets (c : Config) (targets : List Target) (auxiliary : NameSet)
    (g : Graph) :
    make { c with targets } auxiliary g =
      (make c auxiliary g).map fun plan =>
        { plan with setting := plan.setting.withTargets targets } := by
  have hroots : roots { c with targets } = roots c := rfl
  unfold make
  simp only [hroots]
  split <;> rfl

theorem generate_withTargets (c : Config) (targets : List Target) (auxiliary : NameSet)
    (stations : List Station) (g : Graph) :
    generate { c with targets } auxiliary stations g =
      { generate c auxiliary stations g with
        setting := (generate c auxiliary stations g).setting.withTargets targets } := by
  unfold generate
  rw [Plan.make_withTargets]
  cases Plan.make c auxiliary g with
  | error e => rfl
  | ok plan =>
      simp only [Except.map, Plan.run, Station.visitAll_withTargets]
      rfl

namespace Target

variable {c : Config} {g : Graph} {tree : FileTree} {t : Target}

theorem generate_withTargets (t : Target) (c : Config) (targets : List Target) (tree : FileTree)
    (g : Graph) : t.generate { c with targets } tree g = t.generate c tree g := by
  unfold generate
  have hstations : stationsFor { c with targets } tree t.systems = stationsFor c tree t.systems :=
    rfl
  have hauxiliary : auxiliaryNames { c with targets } tree = auxiliaryNames c tree := rfl
  rw [hstations, hauxiliary]
  simp only [Bindery.generate_withTargets]
  rfl

theorem run_withTargets (t : Target) (c : Config) (targets : List Target) (tree : FileTree)
    (g : Graph) : t.run { c with targets } tree g = t.run c tree g := by
  unfold run
  rw [generate_withTargets]

theorem runAll_withTargets (c : Config) (targets : List Target) (tree : FileTree) (g : Graph)
    (chosen : List Target) : runAll { c with targets } tree g chosen = runAll c tree g chosen := by
  induction chosen generalizing tree with
  | nil => rfl
  | cons t rest ih => rw [runAll, runAll, run_withTargets, ih]

/-! ### Files do not matter -/

/-- Without templates and interfaces to read, what is generated does not depend on the files. -/
theorem generate_tree (hauxiliary : c.auxiliaryDir = none) (htemplates : c.templateDir = none)
    (t : Target) (tree other : FileTree) (g : Graph) :
    t.generate c tree g = t.generate c other g := by
  have hstations : stationsFor c tree t.systems = stationsFor c other t.systems := by
    unfold stationsFor
    rw [htemplates]
    rfl
  have hnames : auxiliaryNames c tree = auxiliaryNames c other := by
    unfold auxiliaryNames
    rw [hauxiliary]
  unfold generate
  rw [hstations, hnames]

/-! ### One target -/

/-- The units that a target generates can be written to the tree. -/
def Writable (t : Target) (c : Config) (g : Graph) (tree : FileTree) : Prop :=
  ∃ files, ((t.generate c tree g).output.flush tree t.outputDir).2 = .ok files

variable {report : Report} {e : Error}

theorem run_of_generate_error (h : (t.generate c tree g).outcome = .error e) :
    (t.run c tree g).outcome = .error e ∧ (t.run c tree g).tree = tree := by
  unfold run
  simp only [h, and_self]

/-- A target that can be generated and written has the report with its files. -/
theorem run_of_generate_ok (h : (t.generate c tree g).outcome = .ok report)
    (hwritable : t.Writable c g tree) :
    ∃ files, (t.run c tree g).outcome = .ok { report with files } ∧
      Output.Wrote (t.generate c tree g).output.units.values t.outputDir tree (t.run c tree g).tree
        files := by
  obtain ⟨files, hfiles⟩ := hwritable
  unfold run
  rcases hflush : (t.generate c tree g).output.flush tree t.outputDir with ⟨after, written⟩
  rw [hflush] at hfiles
  obtain rfl : written = .ok files := hfiles
  simp only [h, hflush]
  exact ⟨files, rfl, Output.wrote_of_writeAll hflush⟩

theorem exists_of_run_ok (h : (t.run c tree g).outcome = .ok report) :
    ∃ generated, (t.generate c tree g).outcome = .ok generated := by
  cases hgenerated : (t.generate c tree g).outcome with
  | error e =>
      rw [(run_of_generate_error hgenerated).1] at h
      cases h
  | ok generated => exact ⟨generated, rfl⟩

/-! ### One target after another -/

variable {targets : List Target} {reports : List Report} {k : Nat}

theorem runAll_cons_of_error (rest : List Target)
    (h : (t.run c tree g).outcome = .error e) :
    (runAll c tree g (t :: rest)).outcome = .error (.target t.name e) ∧
      (runAll c tree g (t :: rest)).tree = (t.run c tree g).tree := by
  rw [runAll]
  simp only [h, and_self]

theorem runAll_cons_of_ok (rest : List Target)
    (h : (t.run c tree g).outcome = .ok report) :
    (runAll c tree g (t :: rest)).outcome =
        (runAll c (t.run c tree g).tree g rest).outcome.map (report :: ·) ∧
      (runAll c tree g (t :: rest)).tree = (runAll c (t.run c tree g).tree g rest).tree := by
  rw [runAll]
  simp only [h, and_self]

/-- A run fails by a target behind others that succeed, and leaves the tree of that target. -/
theorem exists_of_runAll_error (h : (runAll c tree g targets).outcome = .error e) :
    ∃ k t source reports, targets[k]? = some t ∧ e = .target t.name source ∧
      (runAll c tree g (targets.take k)).outcome = .ok reports ∧
      (t.run c (runAll c tree g (targets.take k)).tree g).outcome = .error source ∧
      (runAll c tree g targets).tree =
        (t.run c (runAll c tree g (targets.take k)).tree g).tree := by
  induction targets generalizing tree e with
  | nil => cases h
  | cons t rest ih =>
      cases hfirst : (t.run c tree g).outcome with
      | error source =>
          obtain ⟨houtcome, htree⟩ := runAll_cons_of_error rest hfirst
          rw [houtcome] at h
          exact ⟨0, t, source, [], rfl, (Except.error.inj h).symm, rfl, hfirst, htree⟩
      | ok report =>
          rw [(runAll_cons_of_ok rest hfirst).1] at h
          rw [(runAll_cons_of_ok rest hfirst).2]
          obtain ⟨k, t', source, reports, ht, he, hbefore, hfails, htree⟩ :=
            ih (eq_error_of_map_eq_error h)
          obtain ⟨htake, htakeTree⟩ := runAll_cons_of_ok (rest.take k) hfirst
          refine ⟨k + 1, t', source, report :: reports, ht, he, ?_, ?_, ?_⟩
          · rw [List.take_succ_cons, htake, hbefore]
            rfl
          · rw [List.take_succ_cons, htakeTree]
            exact hfails
          · rw [List.take_succ_cons, htakeTree]
            exact htree

/-- In a run that succeeds, every target succeeds where the targets before it have left off. -/
theorem exists_of_runAll_ok (h : (runAll c tree g targets).outcome = .ok reports)
    (ht : targets[k]? = some t) :
    ∃ report others, reports[k]? = some report ∧
      (runAll c tree g (targets.take k)).outcome = .ok others ∧
      (t.run c (runAll c tree g (targets.take k)).tree g).outcome = .ok report ∧
      (runAll c tree g (targets.take (k + 1))).tree =
        (t.run c (runAll c tree g (targets.take k)).tree g).tree := by
  induction targets generalizing tree reports k with
  | nil => cases ht
  | cons first rest ih =>
      cases hfirst : (first.run c tree g).outcome with
      | error source =>
          rw [(runAll_cons_of_error rest hfirst).1] at h
          cases h
      | ok report =>
          rw [(runAll_cons_of_ok rest hfirst).1] at h
          obtain ⟨later, hlater, rfl⟩ := exists_of_map_eq_ok h
          cases k with
          | zero =>
              cases ht
              exact ⟨report, [], rfl, rfl, hfirst, (runAll_cons_of_ok [] hfirst).2⟩
          | succ k =>
              obtain ⟨found, others, hfound, hothers, hrun, htree⟩ := ih hlater ht
              obtain ⟨htake, htakeTree⟩ := runAll_cons_of_ok (rest.take k) hfirst
              refine ⟨found, report :: others, hfound, ?_, ?_, ?_⟩
              · rw [List.take_succ_cons, htake, hothers]
                rfl
              · rw [List.take_succ_cons, htakeTree]
                exact hrun
              · rw [List.take_succ_cons, List.take_succ_cons, htakeTree,
                  (runAll_cons_of_ok (rest.take (k + 1)) hfirst).2]
                exact htree

theorem exists_of_mem_of_runAll_ok (h : (runAll c tree g targets).outcome = .ok reports)
    (ht : t ∈ targets) :
    ∃ tree' report, (t.run c tree' g).outcome = .ok report := by
  obtain ⟨k, hk⟩ := List.mem_iff_getElem?.mp ht
  obtain ⟨report, _, _, _, hrun, _⟩ := exists_of_runAll_ok h hk
  exact ⟨_, report, hrun⟩

end Target

/-! ### Whole runs -/

namespace Config

/-- The configuration with the targets before a position only. -/
def upTo (c : Config) (k : Nat) : Config :=
  { c with targets := c.targets.take k }

/-- The configuration with one target only. -/
def only (c : Config) (t : Target) : Config :=
  { c with targets := [t] }

/-- A target whose turn comes can be written, if it can be generated. -/
def WritesSucceed (c : Config) (g : Graph) (tree : FileTree) : Prop :=
  ∀ k t, c.targets[k]? = some t →
    ∀ reports, ((c.upTo k).run tree g).outcome = .ok reports →
      ∀ report, (t.generate c tree g).outcome = .ok report →
        t.Writable c g ((c.upTo k).run tree g).tree

variable {c : Config} {g : Graph} {tree : FileTree} {t : Target} {k : Nat}

theorem run_upTo (c : Config) (k : Nat) (tree : FileTree) (g : Graph) :
    (c.upTo k).run tree g = Target.runAll c tree g (c.targets.take k) :=
  Target.runAll_withTargets c _ tree g _

theorem run_only (c : Config) (t : Target) (tree : FileTree) (g : Graph) :
    (c.only t).run tree g = Target.runAll c tree g [t] :=
  Target.runAll_withTargets c _ tree g _

theorem WritesSucceed.generate_error (hwrites : c.WritesSucceed g tree)
    (hauxiliary : c.auxiliaryDir = none) (htemplates : c.templateDir = none)
    (ht : c.targets[k]? = some t) {reports : List Report}
    (hbefore : ((c.upTo k).run tree g).outcome = .ok reports) {source : Error}
    (h : (t.run c ((c.upTo k).run tree g).tree g).outcome = .error source) :
    (t.generate c tree g).outcome = .error source ∧
      (t.run c ((c.upTo k).run tree g).tree g).tree = ((c.upTo k).run tree g).tree := by
  have hsame := t.generate_tree hauxiliary htemplates tree ((c.upTo k).run tree g).tree g
  rw [hsame]
  cases hgenerated : (t.generate c ((c.upTo k).run tree g).tree g).outcome with
  | error e =>
      obtain ⟨houtcome, htree⟩ := Target.run_of_generate_error hgenerated
      rw [houtcome] at h
      exact ⟨h, htree⟩
  | ok report =>
      have hwritable := hwrites k t ht reports hbefore report (hsame.symm ▸ hgenerated)
      obtain ⟨files, houtcome, _⟩ := Target.run_of_generate_ok hgenerated hwritable
      rw [houtcome] at h
      cases h

/-- The report of a target does not depend on the tree that its files are written to. -/
theorem run_only_of_run_ok (hauxiliary : c.auxiliaryDir = none) (htemplates : c.templateDir = none)
    {report : Report} (hwritable : t.Writable c g tree)
    (h : (t.run c tree g).outcome = .ok report) {other : FileTree}
    (hother : t.Writable c g other) : ((c.only t).run other g).outcome = .ok [report] := by
  obtain ⟨generated, hgenerated⟩ := Target.exists_of_run_ok h
  have hsame := t.generate_tree hauxiliary htemplates tree other g
  obtain ⟨files, houtcome, hwrote⟩ := Target.run_of_generate_ok hgenerated hwritable
  obtain ⟨files', houtcome', hwrote'⟩ := Target.run_of_generate_ok (hsame ▸ hgenerated) hother
  have hfiles : files' = files := by rw [hwrote'.files_eq, hwrote.files_eq, hsame]
  rw [run_only, (Target.runAll_cons_of_ok [] houtcome').1, hfiles]
  rw [houtcome] at h
  rw [Except.ok.inj h]
  rfl

end Config

/-- Without directories to read from, and if files can be written, a run that fails names the first
target that cannot be generated, with the reason, and has written what the targets before it write
by themselves.  A run that succeeds has a report for each target, the one it has by itself on
whatever tree it can be written to, and between the targets before it and those up to it exactly the
files of its report were written. -/
theorem targets_run_exact {c : Config} (hauxiliary : c.auxiliaryDir = none)
    (htemplates : c.templateDir = none) {g : Graph} {tree : FileTree}
    (hwrites : c.WritesSucceed g tree) :
    (∀ e, (c.run tree g).outcome = .error e →
      ∃ k t source, c.targets[k]? = some t ∧ e = .target t.name source ∧
        (t.generate c tree g).outcome = .error source ∧
        (∀ other ∈ c.targets.take k, ∃ report, (other.generate c tree g).outcome = .ok report) ∧
        (∃ reports, ((c.upTo k).run tree g).outcome = .ok reports) ∧
        (c.run tree g).tree = ((c.upTo k).run tree g).tree) ∧
    ∀ reports, (c.run tree g).outcome = .ok reports →
      reports.length = c.targets.length ∧
      ∀ k t, c.targets[k]? = some t → ∃ report, reports[k]? = some report ∧
        (∀ other, t.Writable c g other → ((c.only t).run other g).outcome = .ok [report]) ∧
        Output.Wrote (t.generate c tree g).output.units.values t.outputDir
          ((c.upTo k).run tree g).tree ((c.upTo (k + 1)).run tree g).tree report.files := by
  refine ⟨fun e h => ?_, fun reports h => ⟨(Target.lists_of_runAll h).length_eq.symm, ?_⟩⟩
  · obtain ⟨k, t, source, reports, ht, he, hbefore, hfails, htree⟩ :=
      Target.exists_of_runAll_error h
    rw [← Config.run_upTo] at hbefore hfails htree
    obtain ⟨hgenerated, hsame⟩ :=
      hwrites.generate_error hauxiliary htemplates ht hbefore hfails
    refine ⟨k, t, source, ht, he, hgenerated, ?_, ⟨reports, hbefore⟩, htree.trans hsame⟩
    intro other hother
    rw [Config.run_upTo] at hbefore
    obtain ⟨tree', report, hrun⟩ := Target.exists_of_mem_of_runAll_ok hbefore hother
    rw [other.generate_tree hauxiliary htemplates tree tree' g]
    exact Target.exists_of_run_ok hrun
  · intro k t ht
    obtain ⟨report, others, hreport, hbefore, hrun, htree⟩ := Target.exists_of_runAll_ok h ht
    rw [← Config.run_upTo] at hbefore hrun htree
    rw [← Config.run_upTo] at htree
    obtain ⟨generated, hgenerated⟩ := Target.exists_of_run_ok hrun
    have hsame := t.generate_tree hauxiliary htemplates tree ((c.upTo k).run tree g).tree g
    have hwritable := hwrites k t ht others hbefore generated (hsame.symm ▸ hgenerated)
    refine ⟨report, hreport, fun other hother =>
      Config.run_only_of_run_ok hauxiliary htemplates hwritable hrun hother, ?_⟩
    obtain ⟨files, houtcome, hwrote⟩ := Target.run_of_generate_ok hgenerated hwritable
    rw [houtcome] at hrun
    rw [← Except.ok.inj hrun, htree, hsame]
    exact hwrote

/-- An interface of one source, and typed arrays without buffers. -/
def arrayGraph : Graph :=
  [{ id := "Node", annotations := SortedMap.ofList [("WebKit", SortedMap.empty)] },
    { id := "Window" }, { id := "ArrayBufferView" },
    { id := "Int8Array", parents := [{ type := "ArrayBufferView" }] }].foldl Graph.add Graph.empty

/-- A target that leaves the typed arrays out. -/
def webTarget : Target :=
  { name := "web", outputDir := ⟨"out"⟩, systems := [.contract],
    filter := some { requireAll := ["WebKit"] } }

/-- A target that does not, in the same directory. -/
def fullTarget : Target :=
  { name := "full", outputDir := ⟨"out"⟩, systems := [.contract] }

/-- A configuration in which the second of three targets fails. -/
def arrayConfig : Config :=
  { targets := [webTarget, fullTarget, { webTarget with name := "late" }] }

/-- A directory with an older output. -/
def staleTree : FileTree :=
  FileTree.addFile {} ["out", "elemental", "dom", "Node.java"] "stale"

def webReport : Report :=
  { plainReport ["ElementalMixinBase", "Node"] with
    target := "web"
    files := [⟨"out/elemental/dom/Node.java"⟩]
    filter := some { removedInterfaces := ["ArrayBufferView", "Int8Array", "Window"] } }

theorem arrayConfig_outcomes :
    (arrayConfig.run staleTree arrayGraph).outcome =
        .error (.target "full" (.missingInterface "ArrayBuffer" "Window.newInt8Array")) ∧
      ((arrayConfig.upTo 2).run staleTree arrayGraph).outcome =
        .error (.target "full" (.missingInterface "ArrayBuffer" "Window.newInt8Array")) ∧
      (fullTarget.generate arrayConfig staleTree arrayGraph).outcome =
        .error (.missingInterface "ArrayBuffer" "Window.newInt8Array") ∧
      ((arrayConfig.only webTarget).run staleTree arrayGraph).outcome = .ok [webReport] ∧
      ((webTarget.generate arrayConfig staleTree arrayGraph).output.flush staleTree
        webTarget.outputDir).2 = .ok webReport.files := by
  decide +kernel

theorem targets_run_exact_arrayConfig :
    (∃ k t source, arrayConfig.targets[k]? = some t ∧
        .target "full" (.missingInterface "ArrayBuffer" "Window.newInt8Array") =
          Error.target t.name source ∧
        (t.generate arrayConfig staleTree arrayGraph).outcome = .error source ∧
        (arrayConfig.run staleTree arrayGraph).tree =
          ((arrayConfig.upTo k).run staleTree arrayGraph).tree) ∧
      Output.Wrote (webTarget.generate arrayConfig staleTree arrayGraph).output.units.values
        webTarget.outputDir staleTree
        (((arrayConfig.only webTarget).upTo 1).run staleTree arrayGraph).tree webReport.files := by
  obtain ⟨hrun, hupTo, hfull, hweb, hflush⟩ := arrayConfig_outcomes
  have hwrites : arrayConfig.WritesSucceed arrayGraph staleTree := by
    intro k t ht reports hbefore report hgenerated
    match k, ht with
    | 0, ht =>
        cases ht
        exact ⟨_, hflush⟩
    | 1, ht =>
        cases ht
        rw [hfull] at hgenerated
        cases hgenerated
    | 2, ht =>
        rw [hupTo] at hbefore
        cases hbefore
    | k + 3, ht => cases ht
  have hsame : webTarget.generate (arrayConfig.only webTarget) staleTree arrayGraph =
      webTarget.generate arrayConfig staleTree arrayGraph :=
    Target.generate_withTargets ..
  rw [← hsame] at hflush ⊢
  have hwritesWeb : (arrayConfig.only webTarget).WritesSucceed arrayGraph staleTree := by
    intro k t ht reports hbefore report hgenerated
    match k, ht with
    | 0, ht =>
        cases ht
        exact ⟨_, hflush⟩
    | k + 1, ht => cases ht
  constructor
  · obtain ⟨k, t, source, ht, he, hgenerated, _, _, htree⟩ :=
      (targets_run_exact rfl rfl hwrites).1 _ hrun
    exact ⟨k, t, source, ht, he, hgenerated, htree⟩
  · obtain ⟨_, hall⟩ := (targets_run_exact rfl rfl hwritesWeb).2 _ hweb
    obtain ⟨report, hreport, _, hwrote⟩ := hall 0 webTarget rfl
    cases hreport
    exact hwrote

end Bindery
