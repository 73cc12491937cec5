import Mathlib.Data.List.Basic
import Mathlib.Tactic.Tauto
import Bindery.Distinct

/-! # First occurrences in a list

An item stays in `distinctBy` exactly if it is the first one of its key
(`mem_distinctBy_iff`), every key keeps one item (`exists_mem_distinctBy`), and what stays keeps its
order (`pairwise_idxOf_distinct`). -/

namespace Bindery

theorem exists_find?_eq_some {α : Type} {p : α → Bool} {items : List α} {a : α} (h : a ∈ items)
    (ha : p a = true) : ∃ b ∈ items, items.find? p = some b ∧ p b = true := by
  have hsome : (items.find? p).isSome := by
    rw [List.find?_isSome]
    exact ⟨a, h, ha⟩
  obtain ⟨b, hb⟩ := Option.isSome_iff_exists.mp hsome
  exact ⟨b, List.mem_of_find?_eq_some hb, hb, List.find?_some hb⟩

variable {α β : Type} [DecidableEq β]

theorem mem_distinctFrom_iff {key : α → β} {seen : List β} {items : List α} {a : α} :
    a ∈ distinctFrom key seen items ↔
      key a ∉ seen ∧ items.find? (fun b => key b = key a) = some a := by
  induction items generalizing seen with
  | nil => simp [distinctFrom]
  | cons first rest ih =>
      rw [distinctFrom, List.find?_cons]
      by_cases hkey : key first = key a
      · -- only `first` itself can be the item of this key
        by_cases hseen : key first ∈ seen
        · rw [if_pos hseen, ih]
          rw [hkey] at hseen
          simp [hseen]
        · rw [if_neg hseen, List.mem_cons, ih]
          rw [hkey] at hseen
          simp [hkey, hseen, eq_comm]
      · have hne : key a ≠ key first := fun h => hkey h.symm
        have hitem : a ≠ first := fun h => hkey (by rw [h])
        by_cases hseen : key first ∈ seen
        · rw [if_pos hseen, ih]
          simp [hkey]
        · rw [if_neg hseen, List.mem_cons, ih]
          simp [hkey, hne, hitem]

theorem mem_distinctBy_iff {key : α → β} {items : List α} {a : α} :
    a ∈ distinctBy key items ↔ items.find? (fun b => key b = key a) = some a := by
  rw [distinctBy, mem_distinctFrom_iff]
  simp

theorem mem_of_mem_distinctBy {key : α → β} {items : List α} {a : α}
    (h : a ∈ distinctBy key items) : a ∈ items :=
  List.mem_of_find?_eq_some (mem_distinctBy_iff.mp h)

theorem exists_mem_distinctBy {key : α → β} {items : List α} {a : α} (h : a ∈ items) :
    ∃ b ∈ distinctBy key items, key b = key a := by
  obtain ⟨b, _, hb, hkey⟩ := exists_find?_eq_some (p := fun b => key b = key a) h (by simp)
  have hkey : key b = key a := of_decide_eq_true hkey
  refine ⟨b, ?_, hkey⟩
  rw [mem_distinctBy_iff, hkey]
  exact hb

theorem mem_distinct_iff {items : List β} {a : β} : a ∈ distinct items ↔ a ∈ items := by
  constructor
  · intro h
    exact mem_of_mem_distinctBy h
  · intro h
    have hfirst : ∃ b ∈ distinctBy id items, id b = id a := exists_mem_distinctBy h
    obtain ⟨b, hb, rfl⟩ := hfirst
    exact hb

theorem head?_distinctFrom {key : α → β} {seen : List β} {items : List α}
    (h : ∀ a ∈ items, key a ∉ seen) : (distinctFrom key seen items).head? = items.head? := by
  cases items with
  | nil => rfl
  | cons first rest =>
      have hfirst : key first ∉ seen := h first List.mem_cons_self
      rw [distinctFrom, if_neg hfirst]
      rfl

theorem head?_distinctBy (key : α → β) (items : List α) :
    (distinctBy key items).head? = items.head? :=
  head?_distinctFrom fun _ _ => List.not_mem_nil

/-- Of each key that was not seen, the first item stays. -/
theorem filter_distinctFrom (key : α → β) (seen : List β) (items : List α) (k : β) :
    (distinctFrom key seen items).filter (key · = k) =
      if k ∈ seen then [] else (items.find? (key · = k)).toList := by
  induction items generalizing seen with
  | nil => simp [distinctFrom]
  | cons a rest ih =>
      rw [distinctFrom]
      by_cases hseen : key a ∈ seen
      · rw [if_pos hseen, ih]
        by_cases hk : key a = k
        · rw [← hk, if_pos hseen, if_pos hseen]
        · simp [hk]
      · rw [if_neg hseen]
        by_cases hk : key a = k
        · -- behind the first item of the key there is none
          have hrest : (distinctFrom key (key a :: seen) rest).filter (key · = k) = [] := by
            rw [ih, if_pos (by simp [hk])]
          rw [hk] at hseen
          simp [hk, hseen, ← hrest]
        · simp [ih, hk, Ne.symm hk]

theorem nodup_map_distinctFrom (key : α → β) (seen : List β) (items : List α) :
    ((distinctFrom key seen items).map key).Nodup := by
  induction items generalizing seen with
  | nil => exact List.nodup_nil
  | cons a rest ih =>
      rw [distinctFrom]
      split
      · exact ih seen
      · rw [List.map_cons, List.nodup_cons]
        refine ⟨fun hmem => ?_, ih (key a :: seen)⟩
        obtain ⟨b, hb, hkey⟩ := List.mem_map.mp hmem
        exact (mem_distinctFrom_iff.mp hb).1 (hkey ▸ List.mem_cons_self)

/-! ### Parts -/

theorem distinctBy_eq_nil_iff {key : α → β} {items : List α} :
    distinctBy key items = [] ↔ items = [] := by
  rw [← List.head?_eq_none_iff, head?_distinctBy, List.head?_eq_none_iff]

theorem distinctFrom_congr {key : α → β} {seen seen' : List β} (h : ∀ b, b ∈ seen ↔ b ∈ seen')
    (items : List α) : distinctFrom key seen items = distinctFrom key seen' items := by
  induction items generalizing seen seen' with
  | nil => rfl
  | cons a rest ih =>
      have hcons : ∀ b, b ∈ key a :: seen ↔ b ∈ key a :: seen' := by simp [h]
      simp only [distinctFrom, h, ih h, ih hcons]

/-- Keys that tell the same items apart keep the same items. -/
theorem distinctFrom_congr_key {γ : Type} [DecidableEq γ] {key : α → β} {key' : α → γ}
    {seen items : List α}
    (h : ∀ a ∈ items, ∀ b ∈ seen ++ items, key a = key b ↔ key' a = key' b) :
    distinctFrom key (seen.map key) items = distinctFrom key' (seen.map key') items := by
  induction items generalizing seen with
  | nil => rfl
  | cons a rest ih =>
      have hseen : key a ∈ seen.map key ↔ key' a ∈ seen.map key' := by
        simp only [List.mem_map, eq_comm (b := key a), eq_comm (b := key' a)]
        refine exists_congr fun b => and_congr_right fun hb => ?_
        exact h a List.mem_cons_self b (List.mem_append_left _ hb)
      have hrest : ∀ b ∈ rest, ∀ c ∈ seen ++ a :: rest, key b = key c ↔ key' b = key' c :=
        fun b hb => h b (.tail _ hb)
      simp only [distinctFrom, hseen]
      split
      · exact ih fun b hb c hc => hrest b hb c (by grind)
      · rw [← List.map_cons, ← List.map_cons, ih]
        exact fun b hb c hc => hrest b hb c (by grind)

theorem distinctFrom_append (key : α → β) (seen : List β) (first second : List α) :
    distinctFrom key seen (first ++ second) =
      distinctFrom key seen first ++ distinctFrom key (seen ++ first.map key) second := by
  induction first generalizing seen with
  | nil => simp [distinctFrom]
  | cons a rest ih =>
      rw [List.cons_append, distinctFrom, distinctFrom]
      by_cases ha : key a ∈ seen
      · have hsame : ∀ b, b ∈ seen ++ rest.map key ↔ b ∈ seen ++ (a :: rest).map key := by
          intro b
          simp only [List.mem_append, List.map_cons, List.mem_cons]
          constructor
          · tauto
          · rintro (hb | rfl | hb)
            · exact .inl hb
            · exact .inl ha
            · exact .inr hb
        rw [if_pos ha, if_pos ha, ih, distinctFrom_congr hsame]
      · have hsame : ∀ b, b ∈ key a :: seen ++ rest.map key ↔ b ∈ seen ++ (a :: rest).map key := by
          intro b
          simp only [List.mem_append, List.map_cons, List.mem_cons]
          tauto
        rw [if_neg ha, if_neg ha, ih, distinctFrom_congr hsame, List.cons_append]

theorem distinctFrom_map {γ : Type} (key : α → β) (f : γ → α) (seen : List β) (items : List γ) :
    distinctFrom key seen (items.map f) = (distinctFrom (fun x => key (f x)) seen items).map f := by
  induction items generalizing seen with
  | nil => rfl
  | cons a rest ih =>
      simp only [List.map_cons, distinctFrom]
      split
      · exact ih seen
      · rw [ih, List.map_cons]

theorem map_distinctFrom [BEq β] [LawfulBEq β] (key : α → β) (seen : List β) (items : List α) :
    (distinctFrom key seen items).map key =
      ((items.map key).filter fun b => b ∉ seen).eraseDups := by
  induction items generalizing seen with
  | nil => rfl
  | cons a rest ih =>
      rw [distinctFrom, List.map_cons]
      by_cases ha : key a ∈ seen
      · rw [if_pos ha, ih, List.filter_cons_of_neg (by simpa using ha)]
      · rw [if_neg ha, List.map_cons, ih, List.filter_cons_of_pos (by simpa using ha),
          List.eraseDups_cons, List.filter_filter]
        have hsame : (fun b => decide (b ∉ key a :: seen)) =
            fun b => (!b == key a) && decide (b ∉ seen) := by
          funext b
          rw [Bool.eq_iff_iff]
          simp
        rw [hsame]

theorem map_distinctBy [BEq β] [LawfulBEq β] (key : α → β) (items : List α) :
    (distinctBy key items).map key = (items.map key).eraseDups := by
  rw [distinctBy, map_distinctFrom]
  simp

theorem distinctBy_append_of_forall {key : α → β} {first second : List α}
    (h : ∀ b ∈ second, ∃ a ∈ first, key a = key b) :
    distinctBy key (first ++ second) = distinctBy key first := by
  have hnone : distinctFrom key (first.map key) second = [] := by
    rw [List.eq_nil_iff_forall_not_mem]
    intro b hb
    obtain ⟨hfresh, hfind⟩ := mem_distinctFrom_iff.mp hb
    obtain ⟨a, ha, hkey⟩ := h b (List.mem_of_find?_eq_some hfind)
    exact hfresh (hkey ▸ List.mem_map_of_mem ha)
  rw [distinctBy, distinctFrom_append, List.nil_append, hnone, List.append_nil]
  rfl

/-- First occurrences stand in the order of their places. -/
theorem pairwise_idxOf_distinctFrom (seen items : List β) :
    (distinctFrom id seen items).Pairwise fun a b => items.idxOf a < items.idxOf b := by
  induction items generalizing seen with
  | nil => exact .nil
  | cons first rest ih =>
      -- behind the first item every place moves by one
      have hshift : ∀ seen', first ∈ seen' →
          (distinctFrom id seen' rest).Pairwise fun a b =>
            (first :: rest).idxOf a < (first :: rest).idxOf b := by
        intro seen' hfirst
        have hne : ∀ a ∈ distinctFrom id seen' rest, first ≠ a := by
          rintro a ha rfl
          exact (mem_distinctFrom_iff.mp ha).1 hfirst
        refine (ih seen').imp_of_mem fun {a b} ha hb hlt => ?_
        rw [List.idxOf_cons_ne _ (hne a ha), List.idxOf_cons_ne _ (hne b hb)]
        exact Nat.succ_lt_succ hlt
      rw [distinctFrom]
      split
      · next hseen => exact hshift seen hseen
      · refine List.pairwise_cons.mpr ⟨fun b hb => ?_, hshift _ List.mem_cons_self⟩
        have hne : first ≠ b := by
          rintro rfl
          exact (mem_distinctFrom_iff.mp hb).1 List.mem_cons_self
        rw [List.idxOf_cons_self, List.idxOf_cons_ne _ hne]
        exact Nat.succ_pos _

theorem pairwise_idxOf_distinct (items : List β) :
    (distinct items).Pairwise fun a b => items.idxOf a < items.idxOf b :=
  pairwise_idxOf_distinctFrom [] items

end Bindery
