import Bindery.Proofs.Chain
import Bindery.Proofs.Feature

/-! # Primary lines

A walk along primary parents stops at a cycle or at an interface without a parent in the graph.  In
the second case (`Graph.Grounded`) the ancestors of an ancestor are the rest of the walk
(`Graph.Grounded.primaryAncestors_eq`), so that a feature on which all ancestors agree is introduced
by the last one that carries its mark (`Setting.exists_introduces`). -/

namespace Bindery

/-! ### Primary ancestors -/

namespace Graph

variable {g : Graph} {i a : Interface}

/-- The primary line of an interface ends, and does not run into a cycle. -/
def Grounded (g : Graph) (i : Interface) : Prop :=
  Exhausts g.primaryStep? i (g.primaryAncestors i)

instance (g : Graph) (i : Interface) : Decidable (g.Grounded i) :=
  inferInstanceAs (Decidable (Exhausts g.primaryStep? i (g.primaryAncestors i)))

theorem primaryStep?_eq_some_iff :
    g.primaryStep? i = some a ↔ ∃ p, i.primaryParent? = some p ∧ g.find? p.type = some a := by
  unfold primaryStep?
  cases i.primaryParent? with
  | none => simp
  | some p => simp

theorem Keyed.find?_of_primaryStep? (hg : g.Keyed) (h : g.primaryStep? i = some a) :
    g.find? a.id = some a := by
  obtain ⟨p, _, ha⟩ := primaryStep?_eq_some_iff.mp h
  rw [hg p.type a ha]
  exact ha

theorem find?_of_mem_primaryAncestors (hg : g.Keyed) (h : a ∈ g.primaryAncestors i) :
    g.find? a.id = some a := by
  obtain ⟨j, hj⟩ := exists_step_of_mem_chainFrom h
  exact hg.find?_of_primaryStep? hj

/-- The walk from interface to interface stops only where there is no step or where an identifier
would repeat. -/
theorem pursues_primaryAncestors (hg : g.Keyed) (hi : g.find? i.id = some i) :
    Pursues Interface.id g.primaryStep? [i.id] i (g.primaryAncestors i) := by
  refine pursues_chain (P := fun j => g.find? j.id = some j) ?_ hi g.length_ids.le
  intro a b ha hab
  exact ⟨mem_ids_iff_exists.mpr ⟨a, ha⟩, hg.find?_of_primaryStep? hab⟩

theorem head?_primaryAncestors_eq_some_iff (hg : g.Keyed) (hi : g.find? i.id = some i) :
    (g.primaryAncestors i).head? = some a ↔
      (∃ p, i.primaryParent? = some p ∧ g.find? p.type = some a) ∧ a.id ≠ i.id := by
  rw [(pursues_primaryAncestors hg hi).head?_eq_some_iff, primaryStep?_eq_some_iff,
    List.mem_singleton]

theorem Grounded.primaryAncestors_eq (h : g.Grounded i) {before behind : List Interface}
    (hsplit : g.primaryAncestors i = before ++ a :: behind) :
    g.primaryAncestors a = behind ∧ g.Grounded a := by
  have hsame : g.primaryAncestors a = behind := chain_eq_of_exhausts h hsplit
  refine ⟨hsame, ?_⟩
  unfold Grounded at h ⊢
  rw [hsplit] at h
  rw [hsame]
  exact h.suffix

theorem mem_inheritedFrom_iff {base : String} :
    a ∈ g.inheritedFrom base i ↔ a ∈ g.primaryAncestors i ∨
      ∃ b, g.find? base = some b ∧ i.id ≠ base ∧ a ∈ b :: g.primaryAncestors b := by
  unfold inheritedFrom
  rw [List.mem_append]
  refine or_congr_right ?_
  cases hbase : g.find? base with
  | none => simp
  | some b =>
      by_cases hi : i.id = base
      · simp [hi]
      · simp [hi]

end Graph

/-! ### Where features are introduced -/

theorem Interface.carries_of_offers {i : Interface} {f : Feature} {mark : Mark}
    (h : i.Offers f mark) : i.Carries mark := by
  cases f with
  | accessor half name =>
      obtain ⟨rfl, a, hleads, hname⟩ := h
      have hhas : a.has half = true := (AccessorPair.eq_of_find?_some hleads).2
      refine ⟨a, List.mem_of_find?_eq_some hleads, ?_, hname⟩
      cases half with
      | getter => exact hhas
      | setter => exact (Bool.and_eq_true_iff.mp hhas).1
  | method name types isStatic =>
      obtain ⟨o, ho, rfl, _⟩ := h
      have hmem := mem_of_mem_distinctBy (List.mem_of_find?_eq_some ho)
      exact ⟨o, (mem_emittedAs.mp hmem).1, rfl⟩

namespace Setting

variable {s : Setting} {i : Interface} {f : Feature} {mark : Mark}

/-- On a line that ends and has nothing of a feature at the mixin base, the last interface that
carries the mark of the feature introduces it, if every one that carries it offers it. -/
theorem exists_introduces (hi : s.graph.Grounded i) (hoffers : i.Offers f mark)
    (hagree : ∀ a ∈ s.graph.primaryAncestors i, a.Carries mark → a.Offers f mark)
    (hbase : ∀ b, s.graph.find? s.config.mixinBase = some b →
      ∀ a ∈ b :: s.graph.primaryAncestors b, ¬ a.Carries mark) :
    ∃ a ∈ i :: s.graph.primaryAncestors i, a.Carries mark ∧ s.Introduces a f := by
  -- the rest of the line is shorter at every interface that carries the mark
  induction hlength : (s.graph.primaryAncestors i).length using Nat.strongRecOn
    generalizing i with
  | ind n ih =>
      by_cases hmore : ∃ a ∈ s.graph.primaryAncestors i, a.Carries mark
      · obtain ⟨a, ha, hcarries⟩ := hmore
        have haoffers := hagree a ha hcarries
        obtain ⟨before, behind, hsplit⟩ := List.append_of_mem ha
        obtain ⟨hbehind, hgrounded⟩ := hi.primaryAncestors_eq hsplit
        have hsub : ∀ x ∈ a :: behind, x ∈ s.graph.primaryAncestors i := by
          intro x hx
          rw [hsplit]
          exact List.mem_append_right _ hx
        have hshort : (s.graph.primaryAncestors a).length < n := by
          rw [← hlength, hbehind, hsplit, List.length_append, List.length_cons]
          omega
        obtain ⟨x, hx, hx'⟩ := ih _ hshort hgrounded haoffers
          (fun x hx => hagree x (hsub x (List.mem_cons_of_mem _ (hbehind ▸ hx)))) rfl
        rw [hbehind] at hx
        exact ⟨x, List.mem_cons_of_mem _ (hsub x hx), hx'⟩
      · refine ⟨i, List.mem_cons_self, Interface.carries_of_offers hoffers, mark, hoffers, ?_⟩
        intro a ha hcarries
        rcases Graph.mem_inheritedFrom_iff.mp ha with ha | ⟨b, hb, _, ha⟩
        · exact hmore ⟨a, ha, hcarries⟩
        · exact hbase b hb a ha hcarries

end Setting

end Bindery
