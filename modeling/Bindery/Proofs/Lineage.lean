import Bindery.Proofs.Chain
import Bindery.Proofs.Mixin

/-! # Lineages

A lineage goes from name to name along first parents (`Graph.FirstParent`) until there is none or
one would repeat (`Graph.pursues_lineage`).  It does not depend on what was asked for before, since
a memo has nothing but lineages in it.  On a line that comes back to none of its names
(`Graph.Straight`), the lineage of an identifier is its first parent with the lineage of that
(`Graph.lineage_eq_cons`).  On a circle it is not, because each lineage leaves out the identifier it
belongs to.  `Graph.lineage_exact` puts this together. -/

namespace Bindery

namespace Graph

open Relation

variable {g : Graph} {u v id p : String}

/-! ### First parents -/

/-- An interface of the graph has a name for its first parent. -/
def FirstParent (g : Graph) (u v : String) : Prop :=
  ∃ i, g.find? u = some i ∧ (i.parents.map (·.type)).head? = some v

theorem primaryName?_eq_some_iff : g.primaryName? u = some v ↔ g.FirstParent u v := by
  unfold primaryName? FirstParent Interface.primaryParent?
  cases g.find? u with
  | none => simp
  | some i => simp

theorem primaryName?_eq_none_iff :
    g.primaryName? u = none ↔ u ∉ g.ids ∨ ∃ i, g.find? u = some i ∧ i.parents = [] := by
  rw [mem_ids_iff_exists]
  unfold primaryName? Interface.primaryParent?
  cases g.find? u with
  | none => simp
  | some i => simp

theorem firstParent_eq (g : Graph) : g.FirstParent = fun u v => g.primaryName? u = some v := by
  funext u v
  exact propext primaryName?_eq_some_iff.symm

/-! ### Where a lineage stops -/

/-- A lineage stops only where there is no first parent or where a name would repeat. -/
theorem pursues_lineage (g : Graph) (id : String) :
    Pursues (fun name => name) g.primaryName? [id] id (g.lineage id) := by
  refine pursues_chain (P := fun _ => True) ?_ trivial g.length_ids.le
  intro u v _ hstep
  obtain ⟨i, hi, _⟩ := primaryName?_eq_some_iff.mp hstep
  exact ⟨mem_ids_iff_exists.mpr ⟨i, hi⟩, trivial⟩

/-- The last name of a line from an identifier is outside the graph, or has no parents, or its first
parent is the identifier or on the line. -/
inductive EndsAt (g : Graph) (id : String) (line : List String) (last : String) : Prop
  | outside : last ∉ g.ids → EndsAt g id line last
  | parentless {i : Interface} : g.find? last = some i → i.parents = [] → EndsAt g id line last
  | repeats {p : String} : g.FirstParent last p → p = id ∨ p ∈ line → EndsAt g id line last

theorem endsAt_lineage (g : Graph) (id : String) :
    g.EndsAt id (g.lineage id) ((g.lineage id).getLast?.getD id) := by
  obtain ⟨_, _, _, hstop⟩ := pursues_iff_isChain.mp (g.pursues_lineage id)
  cases hnext : g.primaryName? ((g.lineage id).getLast?.getD id) with
  | none =>
      rcases primaryName?_eq_none_iff.mp hnext with hout | ⟨i, hi, hparents⟩
      · exact .outside hout
      · exact .parentless hi hparents
  | some p =>
      have hmet := hstop p hnext
      exact .repeats (primaryName?_eq_some_iff.mp hnext) (by simpa using hmet)

/-! ### Lines that do not come back -/

/-- The line of first parents from an identifier comes back to none of its names. -/
def Straight (g : Graph) (id : String) : Prop :=
  ∀ name, ReflTransGen g.FirstParent id name → ¬ TransGen g.FirstParent name name

/-- If there is a first parent at the end of a lineage, then first parents lead around from it. -/
theorem transGen_of_next_last (h : g.primaryName? ((g.lineage id).getLast?.getD id) = some v) :
    ReflTransGen g.FirstParent id v ∧ TransGen g.FirstParent v v := by
  rw [firstParent_eq]
  obtain ⟨_, _, _, hstop⟩ := pursues_iff_isChain.mp (g.pursues_lineage id)
  have hv : v ∈ id :: g.lineage id := by simpa using hstop v h
  have hback := reflTransGen_last_chainFrom (List.mem_singleton.mpr rfl) v hv
  refine ⟨?_, .tail' (ReflTransGen.mono (fun _ _ => And.left) _ _ hback) h⟩
  rcases List.mem_cons.mp hv with rfl | hv
  · exact .refl
  · exact (transGen_of_mem_chainFrom hv).to_reflTransGen

/-- A line comes back to none of its names exactly if the lineage goes on to where there is no first
parent. -/
theorem straight_iff : g.Straight id ↔ Exhausts g.primaryName? id (g.lineage id) := by
  constructor
  · intro h
    refine (g.pursues_lineage id).exhausts ?_
    rw [Option.eq_none_iff_forall_ne_some]
    intro v hv
    obtain ⟨hreached, hcircle⟩ := transGen_of_next_last hv
    exact h v hreached hcircle
  · intro h name
    rw [firstParent_eq]
    exact h.not_transGen

instance (g : Graph) : DecidablePred g.Straight :=
  fun _ => decidable_of_iff _ straight_iff.symm

theorem lineage_eq_cons (h : g.Straight id) (hp : g.FirstParent id p) :
    g.lineage id = p :: g.lineage p :=
  chain_eq_cons_of_exhausts (straight_iff.mp h) (primaryName?_eq_some_iff.mpr hp)

/-! ### Lineages as a whole -/

/-- Whatever was asked for before, an answer is the one of an empty memo.  A lineage follows first
parents from its identifier, without a repetition and without the identifier.  It stops only at a
name outside the graph, at an interface without parents, or where the first parent is the identifier
or was met before.  On a line that does not come back, it is the first parent with the lineage of
that. -/
theorem lineage_exact (g : Graph) :
    (∀ ids, LineageMemo.queryAll g SortedMap.empty ids =
      ids.map fun id => (LineageMemo.query SortedMap.empty g id).1) ∧
    ∀ id, (LineageMemo.query SortedMap.empty g id).1 = g.lineage id ∧
      (g.lineage id).Nodup ∧ id ∉ g.lineage id ∧
      (id :: g.lineage id).IsChain g.FirstParent ∧
      g.EndsAt id (g.lineage id) ((g.lineage id).getLast?.getD id) ∧
      (g.Straight id → ∀ p, g.FirstParent id p → g.lineage id = p :: g.lineage p) := by
  have hempty : LineageMemo.Sound g SortedMap.empty := fun _ _ h => by cases h
  refine ⟨fun ids => ?_, fun id => ?_⟩
  · rw [hempty.queryAll]
    exact List.map_congr_left fun id _ => (hempty.query id).1.symm
  · obtain ⟨hchain, hnodup, hnew, _⟩ := pursues_iff_isChain.mp (g.pursues_lineage id)
    refine ⟨(hempty.query id).1, by simpa using hnodup, fun hmem => hnew id hmem (by simp), ?_,
      g.endsAt_lineage id, fun h p => lineage_eq_cons h⟩
    rw [firstParent_eq]
    exact hchain

/-- A circle of two interfaces with one that leads into it, and a line that ends outside the
graph. -/
def looseGraph : Graph :=
  [{ id := "Attr", parents := [{ type := "Left" }] },
    { id := "Left", parents := [{ type := "Right" }] },
    { id := "Right", parents := [{ type := "Left" }, { type := "Node" }] },
    { id := "Element", parents := [{ type := "Node" }] },
    { id := "Node", parents := [{ type := "EventTarget" }] }].foldl Graph.add Graph.empty

theorem lineage_exact_loose :
    LineageMemo.queryAll looseGraph SortedMap.empty ["Attr", "Right", "Left", "Right", "Element"] =
        [["Left", "Right"], ["Left"], ["Right"], ["Left"], ["Node", "EventTarget"]] ∧
      looseGraph.EndsAt "Attr" ["Left", "Right"] "Right" ∧
      looseGraph.lineage "Left" ≠ "Right" :: looseGraph.lineage "Right" ∧
      looseGraph.Straight "Element" ∧
      looseGraph.lineage "Element" = "Node" :: looseGraph.lineage "Node" := by
  obtain ⟨hmemo, hall⟩ := lineage_exact looseGraph
  have hstraight : looseGraph.Straight "Element" := by decide +kernel
  have hparent : looseGraph.FirstParent "Element" "Node" :=
    primaryName?_eq_some_iff.mp (by decide +kernel)
  have hattr : looseGraph.lineage "Attr" = ["Left", "Right"] := by decide +kernel
  obtain ⟨_, _, _, _, hends, _⟩ := hall "Attr"
  obtain ⟨_, _, _, _, _, hcons⟩ := hall "Element"
  refine ⟨(hmemo _).trans (by decide +kernel), ?_, by decide +kernel, hstraight,
    hcons hstraight "Node" hparent⟩
  rw [hattr] at hends
  exact hends

end Graph

end Bindery
