import Bindery.Proofs.Emission
import Bindery.Proofs.Mixin

/-! # Primary chains and superclasses

Three walks follow first parents: `Graph.primaryAncestors` from interface to interface,
`Graph.lineage` from name to name, and the headers of overlay classes, each from the context of its
own interface.  In a graph none of whose identifiers is that of a container they meet the same
interfaces (`Graph.map_id_primaryAncestors`, `Setting.primaryInterface?_context`), so that members
count as inherited along the chain of superclasses up to the mixin base
(`Setting.mem_inheritedFrom_iff_superclass`).

At the mixin base the two part.  Its overlay class extends that of no interface, while its own
primary ancestors count for all classes: `Setting.primary_walks_agree`. -/

namespace Bindery

/-! ### From interface to interface, and from name to name -/

namespace Graph

variable {g : Graph} {i j : Interface}

/-- Behind an interface of the graph the walk over names meets the same, and one name more at most,
which is outside the graph. -/
theorem map_id_chainFrom (hg : g.Keyed) (hi : g.find? i.id = some i) (fuel : Nat)
    (seen : List String) :
    (chainFrom Interface.id g.primaryStep? fuel seen i).map (·.id) =
      (chainFrom (fun name => name) g.primaryName? fuel seen i.id).filter g.contains := by
  induction fuel generalizing i seen with
  | zero => rfl
  | succ fuel ih =>
      rw [chainFrom, chainFrom]
      have hname : g.primaryName? i.id = i.primaryParent?.map (·.type) := by
        rw [primaryName?, hi]
      cases hparent : i.primaryParent? with
      | none => simp [hname, primaryStep?, hparent]
      | some p =>
          rw [hname, hparent, primaryStep?, hparent, Option.map_some]
          dsimp only
          cases hj : g.find? p.type with
          | none =>
              -- the name is the last one, and outside the graph
              have hout : g.contains p.type = false := find?_eq_none_iff.mp hj
              have hend : chainFrom (fun name => name) g.primaryName? fuel (p.type :: seen) p.type =
                  [] := by
                cases fuel with
                | zero => rfl
                | succ fuel => simp [chainFrom, primaryName?, hj]
              rw [hend]
              dsimp only
              split <;> simp [hout]
          | some j =>
              have hid : j.id = p.type := hg p.type j hj
              have hin : g.contains p.type = true := contains_iff.mpr ⟨j, hj⟩
              rw [← hid] at hj hin ⊢
              dsimp only
              split
              · rfl
              · rw [List.map_cons, List.filter_cons_of_pos hin, ih hj]

theorem map_id_primaryAncestors (hg : g.Keyed) (hi : g.find? i.id = some i) :
    (g.primaryAncestors i).map (·.id) = (g.lineage i.id).filter g.contains :=
  map_id_chainFrom hg hi g.size [i.id]

end Graph

/-! ### From header to header -/

/-- The interface whose overlay class a header says to be extended. -/
def Header.superclass? : Header → Option TypeName
  | .overlay superclass _ => superclass
  | _ => none

namespace Setting

variable {s : Setting} {i j : Interface}

/-- The interface whose overlay class the one of a name extends, as its header says. -/
def superclass? (s : Setting) (name : String) : Option String :=
  match s.graph.find? name with
  | none => none
  | some i => (Backend.overlay.opened s (s.context i)).header.superclass?

/-- The superclasses of the overlay class of an interface, nearest first. -/
def superclasses (s : Setting) (i : Interface) : List String :=
  chain (fun name => name) s.superclass? s.graph.size i.id

/-- What comes before the mixin base. -/
def belowBase (s : Setting) (names : List String) : List String :=
  names.takeWhile (· != s.config.mixinBase)

/-- Where no identifier is that of a container, a context has the parent that the graph has. -/
theorem primaryInterface?_context (hplain : ∀ id ∈ s.graph.ids, TypeName.isContainer id = false)
    (i : Interface) : (s.context i).primaryInterface? s = s.graph.primaryStep? i := by
  unfold Context.primaryInterface? Graph.primaryStep? Setting.context
  cases i.primaryParent? with
  | none => rfl
  | some p =>
      dsimp only
      split
      · next hcontainer =>
        symm
        rw [Graph.find?_eq_none_iff, ← Bool.not_eq_true]
        intro hcontains
        rw [hplain p.type (Graph.mem_ids_iff.mpr hcontains)] at hcontainer
        cases hcontainer
      · rfl

theorem superclass?_of_base (hi : s.graph.find? i.id = some i) (hbase : i.id = s.config.mixinBase) :
    s.superclass? i.id = none := by
  rw [superclass?, hi]
  simp [Backend.opened, Header.superclass?, Backend.overlaySuperclass, Context.isBase,
    Setting.context, hbase]

theorem superclass?_of_ne (hplain : ∀ id ∈ s.graph.ids, TypeName.isContainer id = false)
    (hi : s.graph.find? i.id = some i) (hne : i.id ≠ s.config.mixinBase) :
    s.superclass? i.id =
      some (((s.graph.primaryStep? i).map (·.id)).getD s.config.mixinBase) := by
  have hbase : (s.context i).isBase s = false := by simp [Context.isBase, Setting.context, hne]
  rw [superclass?, hi]
  simp only [Backend.opened, Header.superclass?, Backend.overlaySuperclass, hbase,
    primaryInterface?_context hplain]
  cases s.graph.primaryStep? i with
  | none => rfl
  | some j => rfl

theorem pursues_superclasses (s : Setting) (i : Interface) :
    Pursues (fun name => name) s.superclass? [i.id] i.id (s.superclasses i) := by
  refine pursues_chain (P := fun _ => True) ?_ trivial s.graph.length_ids.le
  intro a b _ hab
  refine ⟨Graph.mem_ids_iff.mpr ?_, trivial⟩
  rw [Graph.contains_iff]
  unfold superclass? at hab
  split at hab
  · cases hab
  · next j hj => exact ⟨j, hj⟩

/-! ### Up to the mixin base -/

/-- Below the mixin base a class extends that of the parent, and above the last parent that of the
mixin base. -/
theorem belowBase_of_pursues (hs : s.graph.Keyed)
    (hplain : ∀ id ∈ s.graph.ids, TypeName.isContainer id = false) {seen : List String}
    (hi : s.graph.find? i.id = some i) (hne : i.id ≠ s.config.mixinBase)
    {ancestors : List Interface} {names : List String}
    (h : Pursues Interface.id s.graph.primaryStep? seen i ancestors)
    (h' : Pursues (fun name => name) s.superclass? seen i.id names) :
    s.belowBase names = s.belowBase (ancestors.map (·.id)) := by
  have hsuper := superclass?_of_ne hplain hi hne
  induction ancestors generalizing i seen names with
  | nil =>
      cases names with
      | nil => rfl
      | cons name rest =>
          obtain ⟨hname, hnew, _⟩ := h'
          cases hstep : s.graph.primaryStep? i with
          | none =>
              rw [hsuper, hstep] at hname
              cases hname
              simp [belowBase]
          | some j =>
              rw [hsuper, hstep] at hname
              cases hname
              exact absurd (h j hstep) hnew
  | cons j rest ih =>
      obtain ⟨hstep, hnew, hrest⟩ := h
      rw [hstep] at hsuper
      cases names with
      | nil => exact absurd (h' j.id hsuper) hnew
      | cons name rest' =>
          obtain ⟨hname, _, hrest'⟩ := h'
          cases hsuper.symm.trans hname
          unfold belowBase
          rw [List.map_cons, List.takeWhile_cons, List.takeWhile_cons]
          by_cases hbase : j.id = s.config.mixinBase
          · simp [hbase]
          · have hj := hs.find?_of_primaryStep? hstep
            have hlater := ih hj hbase hrest hrest' (superclass?_of_ne hplain hj hbase)
            unfold belowBase at hlater
            simp [hbase, hlater]

theorem belowBase_superclasses (hs : s.graph.Keyed)
    (hplain : ∀ id ∈ s.graph.ids, TypeName.isContainer id = false)
    (hi : s.graph.find? i.id = some i) (hne : i.id ≠ s.config.mixinBase) :
    s.belowBase (s.superclasses i) = s.belowBase ((s.graph.primaryAncestors i).map (·.id)) :=
  belowBase_of_pursues hs hplain hi hne (Graph.pursues_primaryAncestors hs hi)
    (s.pursues_superclasses i)

theorem belowBase_append_base (s : Setting) (names more : List String) :
    s.belowBase (names ++ s.config.mixinBase :: more) = s.belowBase names := by
  unfold belowBase
  induction names with
  | nil => simp
  | cons name rest ih =>
      rw [List.cons_append, List.takeWhile_cons, List.takeWhile_cons, ih]

theorem belowBase_inheritedFrom (hs : s.graph.Keyed) (i : Interface) :
    s.belowBase ((s.graph.inheritedFrom s.config.mixinBase i).map (·.id)) =
      s.belowBase ((s.graph.primaryAncestors i).map (·.id)) := by
  unfold Graph.inheritedFrom
  cases hb : s.graph.find? s.config.mixinBase with
  | none => simp
  | some b =>
      dsimp only
      split
      · rw [List.append_nil]
      · rw [List.map_append, List.map_cons, hs _ b hb, belowBase_append_base]

theorem inheritedFrom_of_base (hbase : i.id = s.config.mixinBase) :
    s.graph.inheritedFrom s.config.mixinBase i = s.graph.primaryAncestors i := by
  unfold Graph.inheritedFrom
  cases s.graph.find? s.config.mixinBase with
  | none => simp
  | some b => simp [hbase]

/-- What a primary line has from the mixin base on is the line of the mixin base. -/
theorem mem_belowBase_or_of_mem (hs : s.graph.Keyed) (hi : s.graph.find? i.id = some i)
    (hj : j ∈ s.graph.primaryAncestors i) :
    j.id ∈ s.belowBase ((s.graph.primaryAncestors i).map (·.id)) ∨
      ∃ b, s.graph.find? s.config.mixinBase = some b ∧ j ∈ b :: s.graph.primaryAncestors b := by
  have hline := Graph.pursues_primaryAncestors hs hi
  have hall := fun a => Graph.find?_of_mem_primaryAncestors (a := a) (i := i) hs
  generalize s.graph.primaryAncestors i = line at hj hline hall ⊢
  have hsplit := @List.takeWhile_append_dropWhile _ (fun a : Interface => a.id != s.config.mixinBase)
    line
  rw [← hsplit, List.mem_append] at hj
  rcases hj with hj | hj
  · left
    rw [belowBase, List.takeWhile_map]
    exact List.mem_map_of_mem hj
  · right
    cases hdrop : line.dropWhile (fun a => a.id != s.config.mixinBase) with
    | nil =>
        rw [hdrop] at hj
        cases hj
    | cons b behind =>
        have hbase : b.id = s.config.mixinBase := by
          have hhead := List.head?_dropWhile_not (fun a : Interface => a.id != s.config.mixinBase) line
          rw [hdrop] at hhead
          simpa using hhead
        rw [hdrop] at hj hsplit
        rw [← hsplit] at hline hall
        have hb := hall b (List.mem_append_right _ List.mem_cons_self)
        obtain ⟨seen, hseen, hbehind⟩ := hline.suffix
        have hinit := hbehind.isPrefix_of_subset (Graph.pursues_primaryAncestors hs hb)
          (List.cons_subset.mpr ⟨hseen, List.nil_subset _⟩)
        refine ⟨b, hbase ▸ hb, ?_⟩
        rcases List.mem_cons.mp hj with rfl | hj
        · exact List.mem_cons_self
        · exact List.mem_cons_of_mem _ (hinit.subset hj)

/-- Members count as inherited from the superclasses below the mixin base, from the mixin base, and
from what the mixin base has as primary ancestors. -/
theorem mem_inheritedFrom_iff_superclass (hs : s.graph.Keyed)
    (hplain : ∀ id ∈ s.graph.ids, TypeName.isContainer id = false)
    (hi : s.graph.find? i.id = some i) (hne : i.id ≠ s.config.mixinBase) :
    j ∈ s.graph.inheritedFrom s.config.mixinBase i ↔
      (s.graph.find? j.id = some j ∧ j.id ∈ s.belowBase (s.superclasses i)) ∨
        ∃ b, s.graph.find? s.config.mixinBase = some b ∧ j ∈ b :: s.graph.primaryAncestors b := by
  rw [Graph.mem_inheritedFrom_iff, belowBase_superclasses hs hplain hi hne]
  constructor
  · rintro (hj | ⟨b, hb, _, hj⟩)
    · refine (mem_belowBase_or_of_mem hs hi hj).imp_left fun hbelow => ⟨?_, hbelow⟩
      exact Graph.find?_of_mem_primaryAncestors hs hj
    · exact .inr ⟨b, hb, hj⟩
  · rintro (⟨hj, hbelow⟩ | ⟨b, hb, hj⟩)
    · left
      obtain ⟨a, ha, hid⟩ := List.mem_map.mp ((List.takeWhile_sublist _).subset hbelow)
      have hfind := Graph.find?_of_mem_primaryAncestors hs ha
      rw [hid, hj] at hfind
      exact Option.some.inj hfind ▸ ha
    · exact .inr ⟨b, hb, hne, hj⟩

/-- In a graph none of whose identifiers is that of a container, the three walks along first parents
meet the same interfaces: the one from interface to interface, the one from name to name, whatever
it was asked before, and the one through contexts, which goes on until there is no parent or an
identifier would repeat.  Hence the interfaces whose members count as inherited are the superclasses
of the overlay class below the mixin base, together with the mixin base and its primary ancestors;
for the mixin base, whose class extends no other one, they are its primary ancestors. -/
theorem primary_walks_agree (s : Setting) (hs : s.graph.Keyed)
    (hplain : ∀ id ∈ s.graph.ids, TypeName.isContainer id = false) :
    ∀ i ∈ s.graph.interfaces,
      (∀ asked, ((LineageMemo.queryAll s.graph SortedMap.empty (asked ++ [i.id])).getLast?.map
        fun names => names.filter s.graph.contains) =
          some ((s.graph.primaryAncestors i).map (·.id))) ∧
      (∀ items, Pursues Interface.id (fun j => (s.context j).primaryInterface? s) [i.id] i items ↔
        items = s.graph.primaryAncestors i) ∧
      (∀ names, Pursues (fun name => name) s.superclass? [i.id] i.id names ↔
        names = s.superclasses i) ∧
      (i.id ≠ s.config.mixinBase →
        s.belowBase ((s.graph.inheritedFrom s.config.mixinBase i).map (·.id)) =
            s.belowBase (s.superclasses i) ∧
          ∀ j, j ∈ s.graph.inheritedFrom s.config.mixinBase i ↔
            (s.graph.find? j.id = some j ∧ j.id ∈ s.belowBase (s.superclasses i)) ∨
              ∃ b, s.graph.find? s.config.mixinBase = some b ∧
                j ∈ b :: s.graph.primaryAncestors b) ∧
      (i.id = s.config.mixinBase →
        s.superclasses i = [] ∧
          s.graph.inheritedFrom s.config.mixinBase i = s.graph.primaryAncestors i) := by
  intro i hmem
  have hi : s.graph.find? i.id = some i := hs.mem_interfaces_iff.mp hmem
  have hclasses := s.pursues_superclasses i
  refine ⟨?_, ?_, fun names => hclasses.pursues_iff, ?_, ?_⟩
  · intro asked
    have hmemo : LineageMemo.Sound s.graph SortedMap.empty := fun _ _ h => by cases h
    rw [hmemo.queryAll, List.map_append, List.map_singleton, List.getLast?_concat, Option.map_some,
      Graph.map_id_primaryAncestors hs hi]
  · intro items
    rw [funext (primaryInterface?_context hplain)]
    exact (Graph.pursues_primaryAncestors hs hi).pursues_iff
  · intro hne
    refine ⟨?_, fun j => mem_inheritedFrom_iff_superclass hs hplain hi hne⟩
    rw [belowBase_inheritedFrom hs, belowBase_superclasses hs hplain hi hne]
  · intro hbase
    refine ⟨?_, inheritedFrom_of_base hbase⟩
    refine hclasses.unique ?_
    intro name hname
    rw [superclass?_of_base hi hbase] at hname
    cases hname

/-- The youngest of three generations, the oldest of which has a parent that nobody knows. -/
def branchButton : Interface :=
  { id := "Button", parents := [{ type := "Element" }, { type := "Left" }] }

/-- The three generations, beside two interfaces that are parents of each other. -/
def branchSetting : Setting where
  graph := [{ id := "ElementalMixinBase" }, branchButton,
    { id := "Element", parents := [{ type := "Node" }] },
    { id := "Node", parents := [{ type := "Root" }] },
    { id := "Left", parents := [{ type := "Right" }] },
    { id := "Right", parents := [{ type := "Left" }] }].foldl Graph.add Graph.empty
  mixins := SortedMap.empty
  config := {}

theorem primary_walks_agree_branch :
    branchSetting.graph.lineage "Button" = ["Element", "Node", "Root"] ∧
      (branchSetting.graph.primaryAncestors branchButton).map (·.id) = ["Element", "Node"] ∧
      Pursues Interface.id (fun j => (branchSetting.context j).primaryInterface? branchSetting)
        ["Button"] branchButton (branchSetting.graph.primaryAncestors branchButton) ∧
      branchSetting.superclasses branchButton = ["Element", "Node", "ElementalMixinBase"] ∧
      branchSetting.belowBase
          ((branchSetting.graph.inheritedFrom "ElementalMixinBase" branchButton).map (·.id)) =
        branchSetting.belowBase (branchSetting.superclasses branchButton) := by
  obtain ⟨_, hcontexts, _, hbelow, _⟩ := primary_walks_agree branchSetting
    (Graph.keyed_of_entries (by decide +kernel)) (by decide +kernel) branchButton (by decide +kernel)
  exact ⟨by decide +kernel, by decide +kernel, (hcontexts _).mpr rfl, by decide +kernel,
    (hbelow (by decide)).1⟩

end Setting

/-! ### Beyond the mixin base -/

/-- The parent of the mixin base. -/
def towerTarget : Interface :=
  { id := "EventTarget", attributes := [{ id := "name", type := "DOMString" }] }

/-- A child of the mixin base. -/
def towerElement : Interface :=
  { id := "Element", parents := [{ type := "Node" }]
    attributes := [{ id := "name", type := "DOMString" }] }

/-- The overlay classes of both, with an interface between them as the mixin base. -/
def towerRun : Generation :=
  generate { mixinBase := "Node" } SortedMap.empty [{ backend := .overlay, templates := .builtin }]
    ([towerTarget, { id := "Node", parents := [{ type := "EventTarget" }] }, towerElement].foldl
      Graph.add Graph.empty)

/-- The parent of the mixin base is a superclass of neither class, and yet members count as inherited
from it in both, even in its own. -/
theorem towerRun_inherits_beyond_superclasses :
    towerRun.outcome = .ok (plainReport ["EventTarget", "Node", "Element"]) ∧
      towerRun.setting.graph.Keyed ∧
      (∀ id ∈ towerRun.setting.graph.ids, TypeName.isContainer id = false) ∧
      towerRun.setting.superclasses towerElement = ["Node"] ∧
      (towerRun.setting.graph.primaryAncestors towerElement).map (·.id) = ["Node", "EventTarget"] ∧
      towerTarget ∈ towerRun.setting.graph.inheritedFrom "Node" towerElement ∧
      ¬ towerRun.Emits .overlay "Element" (.accessor .getter "name") ∧
      towerRun.setting.superclasses towerTarget = ["Node"] ∧
      towerTarget ∈ towerRun.setting.graph.inheritedFrom "Node" towerTarget ∧
      ¬ towerRun.Emits .overlay "EventTarget" (.accessor .getter "name") :=
  ⟨by decide +kernel, Graph.keyed_of_entries (by decide +kernel), by decide +kernel⟩

end Bindery
