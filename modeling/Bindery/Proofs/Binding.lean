import Mathlib.Data.List.Perm.Subperm
import Bindery.Proofs.Passes
import Bindery.Target

/-! # Binding names under renaming

An interface that is renamed keeps its JavaScript constructor: unless binding names move too, the
first pass that moves it writes down its identifier as its binding name, and later passes leave that
alone.  `Graph.Traces` says that the interfaces of one graph come from different interfaces of
another one and have their binding names.  A pass has this property (`RenamePass.traces_apply`),
so passes one after another have it (`RenamePass.traces_renameAll`), and `bindingNames_renameAll`
draws the conclusions. -/

namespace Bindery

/-! ### What keeps a binding name -/

namespace Interface

theorem bindingName_foldl_merge (i : Interface) (others : List Interface) :
    (others.foldl merge i).bindingName = i.bindingName := by
  induction others generalizing i with
  | nil => rfl
  | cons other rest ih => exact ih (i.merge other)

theorem bindingName_relocated (i : Interface) (new : String) :
    (i.relocated i.id new false).bindingName = i.bindingName :=
  rfl

end Interface

/-! ### Interfaces by their origin -/

namespace Graph

def bindingName? (g : Graph) (id : String) : Option String :=
  (g.find? id).map Interface.bindingName

def bindingNames (g : Graph) : List String :=
  g.interfaces.map Interface.bindingName

theorem bindingNames_eq (g : Graph) : g.bindingNames = g.ids.filterMap g.bindingName? := by
  unfold bindingNames interfaces ids SortedMap.values SortedMap.keys
  rw [List.map_map, List.filterMap_map, ← List.filterMap_eq_map]
  refine List.filterMap_congr fun e he => ?_
  have hfind : g.find? e.1 = some e.2 := SortedMap.find?_eq_some_iff.mpr he
  simp [bindingName?, hfind]

/-- Every interface of a graph comes from one of another graph, different ones from different ones,
and has its binding name. -/
structure Traces (before after : Graph) (origin : String → String) : Prop where
  mem {name : String} : name ∈ after.ids → origin name ∈ before.ids
  inj {a b : String} : a ∈ after.ids → b ∈ after.ids → origin a = origin b → a = b
  bindingName?_eq {name : String} : name ∈ after.ids →
    after.bindingName? name = before.bindingName? (origin name)

namespace Traces

theorem refl (g : Graph) : g.Traces g id :=
  ⟨fun h => h, fun _ _ h => h, fun _ => rfl⟩

theorem trans {g before after : Graph} {first second : String → String}
    (h : g.Traces before first) (h' : before.Traces after second) :
    g.Traces after (first ∘ second) where
  mem hname := h.mem (h'.mem hname)
  inj ha hb hsame := h'.inj ha hb (h.inj (h'.mem ha) (h'.mem hb) hsame)
  bindingName?_eq hname := (h'.bindingName?_eq hname).trans (h.bindingName?_eq (h'.mem hname))

variable {before after : Graph} {origin : String → String} (h : before.Traces after origin)

include h

theorem subperm_ids : (after.ids.map origin).Subperm before.ids := by
  refine List.subperm_of_subset (List.Nodup.map_on ?_ after.nodup_ids) ?_
  · exact fun a ha b hb => h.inj ha hb
  · intro name hname
    obtain ⟨new, hnew, rfl⟩ := List.mem_map.mp hname
    exact h.mem hnew

theorem subperm_bindingNames : after.bindingNames.Subperm before.bindingNames := by
  have hnames : after.bindingNames = (after.ids.map origin).filterMap before.bindingName? := by
    rw [bindingNames_eq, List.filterMap_map]
    exact List.filterMap_congr fun name hname => h.bindingName?_eq hname
  obtain ⟨l, hperm, hsublist⟩ := h.subperm_ids
  rw [hnames, bindingNames_eq before]
  exact ⟨l.filterMap before.bindingName?, hperm.filterMap _, hsublist.filterMap _⟩

theorem perm_bindingNames_iff :
    after.bindingNames.Perm before.bindingNames ↔ after.size = before.size := by
  have hlength : ∀ g : Graph, g.bindingNames.length = g.size := by
    intro g
    simp [bindingNames, interfaces, SortedMap.values, size, SortedMap.size]
  constructor
  · intro hperm
    rw [← hlength, ← hlength, hperm.length_eq]
  · intro hsize
    refine h.subperm_bindingNames.perm_of_length_le ?_
    rw [hlength, hlength, hsize]

end Traces

end Graph

/-- The old name of an interface that was renamed to a name. -/
def Renaming.oldName? (name : String) : Renaming → Option String
  | .renamed old new => if new = name then some old else none
  | .merged _ _ => none

/-- The first interface that comes to a name which is not taken is reported as renamed to it, and
no other one. -/
theorem Graph.findSome?_oldName?_attachAll (bindingNames : Bool) (g : Graph) (moves : List Move)
    (name : String) :
    (attachAll bindingNames g moves).2.findSome? (Renaming.oldName? name) =
      if g.contains name = true then none
      else ((moves.filter (·.new = name)).head?).map (·.old) := by
  induction moves generalizing g with
  | nil => simp [attachAll]
  | cons m rest ih =>
      have hcontains : (m.attach bindingNames g).contains name = true ↔
          name = m.new ∨ g.contains name = true := by
        rw [contains_iff, find?_attach, contains_iff]
        by_cases hname : name = m.new <;> simp [hname]
      show List.findSome? _ ((if g.contains m.new = true then .merged m.old m.new
        else .renamed m.old m.new) :: (attachAll bindingNames (m.attach bindingNames g) rest).2) = _
      rw [List.findSome?_cons, ih]
      by_cases hname : m.new = name
      · subst hname
        by_cases htaken : g.contains m.new = true
        · simp [htaken, hcontains, Renaming.oldName?]
        · simp [htaken, Renaming.oldName?]
      · have hsame : (m.attach bindingNames g).contains name = true ↔ g.contains name = true := by
          simp [hcontains, Ne.symm hname]
        have hother : Renaming.oldName? name (if g.contains m.new = true then .merged m.old m.new
            else .renamed m.old m.new) = none := by
          split <;> simp [Renaming.oldName?, hname]
        rw [hother, List.filter_cons_of_neg (by simpa using hname)]
        simp only [hsame]

namespace RenamePass

variable {p : RenamePass} {g : Graph}

/-- Where the interface of a name stood before a pass, by the report on the pass: under the name
from which it was renamed, or under its own. -/
def origin (p : RenamePass) (g : Graph) (name : String) : String :=
  ((p.apply g).2.findSome? (Renaming.oldName? name)).getD name

/-- Where the interface of a name stood before all passes. -/
def originAll : List RenamePass → Graph → String → String
  | [], _, name => name
  | p :: rest, g, name => p.origin g (originAll rest (p.apply g).1 name)

/-- The interface of a name is that of the first which comes there. -/
theorem origin_eq (p : RenamePass) (g : Graph) (name : String) :
    p.origin g name = ((g.contributors p.table.resolve name).head?).getD name := by
  have hreport : (p.apply g).2 = (Graph.attachAll p.bindingNames
    (g.detach (g.moves p.table.resolve)) (g.moves p.table.resolve)).2 := rfl
  rw [origin, hreport, Graph.findSome?_oldName?_attachAll, Graph.contributors_eq]
  split
  · rfl
  · rw [List.nil_append, List.head?_map]

theorem bindingName_gathered (hg : g.Keyed) {resolved : RenameTable} {name : String}
    {j : Interface} (hj : g.gathered resolved false name = some j) :
    ∃ old i, (g.contributors resolved name).head? = some old ∧ g.find? old = some i ∧
      j.bindingName = i.bindingName := by
  unfold Graph.gathered at hj
  cases hcontributors : g.contributors resolved name with
  | nil => simp [hcontributors] at hj
  | cons first rest =>
      rw [hcontributors] at hj
      obtain ⟨i, hi, rfl⟩ := Option.map_eq_some_iff.mp hj
      refine ⟨first, i, rfl, hi, ?_⟩
      rw [Interface.bindingName_foldl_merge]
      split
      · rfl
      · rw [← hg first i hi, Interface.bindingName_relocated]

theorem exists_origin (hg : g.Keyed) (hclear : p.bindingNames = false) {name : String}
    (hname : name ∈ (p.apply g).1.ids) :
    ∃ i j, p.origin g name ∈ g.contributors p.table.resolve name ∧
      g.find? (p.origin g name) = some i ∧ (p.apply g).1.find? name = some j ∧
      j.bindingName = i.bindingName := by
  obtain ⟨j, hj⟩ := Graph.mem_ids_iff_exists.mp hname
  have hfind := hj
  rw [apply, hclear, Graph.find?_rename] at hfind
  obtain ⟨k, hk, rfl⟩ := Option.map_eq_some_iff.mp hfind
  obtain ⟨old, i, hold, hi, hsame⟩ := bindingName_gathered hg hk
  have horigin : p.origin g name = old := by rw [origin_eq, hold, Option.getD_some]
  rw [horigin]
  exact ⟨i, _, List.mem_of_mem_head? hold, hi, hj, hsame⟩

/-- After a pass that leaves binding names alone, every interface has the binding name that it had
before the pass. -/
theorem traces_apply (hg : g.Keyed) (hclear : p.bindingNames = false) :
    g.Traces (p.apply g).1 (p.origin g) where
  mem hname := by
    obtain ⟨i, _, _, hi, _⟩ := exists_origin hg hclear hname
    exact Graph.mem_ids_iff_exists.mpr ⟨i, hi⟩
  inj ha hb hsame := by
    obtain ⟨_, _, hmem, _⟩ := exists_origin hg hclear ha
    obtain ⟨_, _, hmem', _⟩ := exists_origin hg hclear hb
    rw [← hsame] at hmem'
    exact Graph.eq_of_mem_contributors hmem hmem'
  bindingName?_eq hname := by
    obtain ⟨i, j, _, hi, hj, hsame⟩ := exists_origin hg hclear hname
    rw [Graph.bindingName?, Graph.bindingName?, hi, hj, Option.map_some, Option.map_some, hsame]

theorem traces_renameAll (label : String) (hg : g.Keyed) {passes : List RenamePass}
    (hclear : ∀ p ∈ passes, p.bindingNames = false) :
    g.Traces (Target.renameAll label g passes).1 (originAll passes g) := by
  induction passes generalizing g with
  | nil => exact .refl g
  | cons p rest ih =>
      have hfirst := traces_apply hg (hclear p List.mem_cons_self)
      have hkeyed : (p.apply g).1.Keyed := hg.rename p.table p.bindingNames
      exact hfirst.trans (ih hkeyed fun q hq => hclear q (List.mem_cons_of_mem _ hq))

end RenamePass

/-- Passes that leave binding names alone make none up: the binding names afterwards are some of
those before, each no more often than it was there, and all of them exactly if the number of
interfaces is the same.  Each interface has the binding name of the one that it was at first. -/
theorem bindingNames_renameAll (label : String) {g final : Graph} (hg : g.Keyed)
    {passes : List RenamePass} (hclear : ∀ p ∈ passes, p.bindingNames = false)
    (hfinal : (Target.renameAll label g passes).1 = final) :
    final.bindingNames.Subperm g.bindingNames ∧
      (final.bindingNames.Perm g.bindingNames ↔ final.size = g.size) ∧
      (∀ name j, final.find? name = some j → ∃ i,
        g.find? (RenamePass.originAll passes g name) = some i ∧ j.bindingName = i.bindingName) ∧
      (∀ a ∈ final.ids, ∀ b ∈ final.ids,
        RenamePass.originAll passes g a = RenamePass.originAll passes g b → a = b) := by
  have htraces := RenamePass.traces_renameAll label hg hclear
  rw [hfinal] at htraces
  refine ⟨htraces.subperm_bindingNames, htraces.perm_bindingNames_iff, ?_, ?_⟩
  · intro name j hj
    have hname : name ∈ final.ids := Graph.mem_ids_iff.mpr (Graph.contains_iff.mpr ⟨j, hj⟩)
    have hsame := htraces.bindingName?_eq hname
    rw [Graph.bindingName?, hj, Option.map_some] at hsame
    obtain ⟨i, hi, hbinding⟩ := Option.map_eq_some_iff.mp hsame.symm
    exact ⟨i, hi, hbinding.symm⟩
  · exact fun a ha b hb => htraces.inj ha hb

/-- Three interfaces, one of which has a binding name of its own. -/
def outlineGraph : Graph :=
  [{ id := "WebKitPoint" }, { id := "Node", jsName := some "HTMLNode" }, { id := "Text" }].foldl
    Graph.add Graph.empty

/-- The first interface is renamed twice, the second changes places with the third, and the third is
merged into the second in the end. -/
def outlinePasses : List RenamePass :=
  [{ table := SortedMap.ofList [("WebKitPoint", "SVGPoint"), ("Node", "Text"), ("Text", "Node")] },
    { table := SortedMap.ofList [("SVGPoint", "Point")] },
    { table := SortedMap.ofList [("Node", "Text")] }]

theorem bindingNames_renameAll_outline :
    (Target.renameAll "outline" outlineGraph outlinePasses).1.bindingNames =
        ["WebKitPoint", "HTMLNode"] ∧
      RenamePass.originAll outlinePasses outlineGraph "Point" = "WebKitPoint" ∧
      (Target.renameAll "outline" outlineGraph outlinePasses).1.bindingNames.Subperm
        outlineGraph.bindingNames ∧
      (Target.renameAll "outline" outlineGraph (outlinePasses.take 2)).1.bindingNames.Perm
        outlineGraph.bindingNames := by
  have hkeyed : outlineGraph.Keyed := Graph.keyed_of_entries (by decide +kernel)
  have hclear : ∀ p ∈ outlinePasses, p.bindingNames = false := by decide +kernel
  have hclearFirst : ∀ p ∈ outlinePasses.take 2, p.bindingNames = false :=
    fun p hp => hclear p (List.mem_of_mem_take hp)
  obtain ⟨hsubperm, _⟩ := bindingNames_renameAll "outline" hkeyed hclear rfl
  obtain ⟨_, hperm, _⟩ := bindingNames_renameAll "outline" hkeyed hclearFirst rfl
  exact ⟨by decide +kernel, by decide +kernel, hsubperm, hperm.mpr (by decide +kernel)⟩

end Bindery
