import Mathlib.Tactic.Tauto
import Bindery.SortedMap

/-! # Look-ups in maps

What `find?` gives after each operation on a `SortedMap`.  `find?_eq_some_iff` ties looking up to
the entries, and with it facts about entries carry over to `keys`, `values` and `contains`.  Since a
map has one entry for each key, maps that give the same look-ups are equal (`ext_find?`), and
erasing a key takes one entry away (`entries_perm_erase`). -/

namespace Bindery

universe u v w

variable {κ : Type u} {α : Type v} {β : Type w} [Ord κ]

namespace Entries

theorem find?_cons (key : κ) (entry : κ × α) (rest : List (κ × α)) :
    find? key (entry :: rest) =
      if compare key entry.1 = .eq then some entry.2 else find? key rest :=
  rfl

variable [Std.LawfulEqOrd κ]

theorem mem_of_find? {key : κ} {value : α} {entries : List (κ × α)}
    (h : find? key entries = some value) : (key, value) ∈ entries := by
  induction entries with
  | nil => simp [find?] at h
  | cons entry rest ih =>
      rw [find?_cons] at h
      split at h
      · next heq =>
        have hkey : key = entry.1 := Std.LawfulEqCmp.eq_of_compare heq
        have hvalue : entry.2 = value := Option.some.inj h
        rw [hkey, ← hvalue]
        exact List.mem_cons_self
      · exact List.mem_cons_of_mem _ (ih h)

theorem find?_of_mem [Std.TransOrd κ] {key : κ} {value : α} {entries : List (κ × α)}
    (hasc : Ascending entries) (h : (key, value) ∈ entries) : find? key entries = some value := by
  induction entries with
  | nil => cases h
  | cons entry rest ih =>
      rw [find?_cons]
      rcases List.mem_cons.mp h with rfl | h
      · simp [Std.ReflCmp.compare_self]
      · -- the head has a smaller key, so the search goes on behind it
        have hlt : compare entry.1 key = .lt := List.rel_of_pairwise_cons hasc h
        have hgt : compare key entry.1 = .gt := Std.OrientedCmp.gt_of_lt hlt
        rw [if_neg (by simp [hgt])]
        exact ih hasc.of_cons h

theorem find?_insert [DecidableEq κ] (key other : κ) (value : α) (entries : List (κ × α)) :
    find? other (insert key value entries) =
      if other = key then some value else find? other entries := by
  induction entries with
  | nil => simp [insert, find?]
  | cons entry rest ih =>
      obtain ⟨k, a⟩ := entry
      rw [insert]
      split
      case h_1 => simp [find?_cons]
      case h_2 heq =>
        obtain rfl := Std.LawfulEqCmp.eq_of_compare heq
        by_cases h : other = key <;> simp [find?_cons, h]
      case h_3 hgt =>
        rw [find?_cons, ih, find?_cons]
        by_cases h : other = key
        · subst h
          simp [hgt]
        · simp [h]

theorem find?_mapValues (key : κ) (f : κ → α → β) (entries : List (κ × α)) :
    find? key (entries.map fun e => (e.1, f e.1 e.2)) = (find? key entries).map (f key) := by
  induction entries with
  | nil => rfl
  | cons entry rest ih =>
      rw [List.map_cons, find?_cons, find?_cons]
      by_cases h : compare key entry.1 = .eq
      · rw [if_pos h, if_pos h, Std.LawfulEqCmp.eq_of_compare h]
        rfl
      · rw [if_neg h, if_neg h, ih]

end Entries

namespace SortedMap

theorem contains_iff {m : SortedMap κ α} {key : κ} :
    m.contains key = true ↔ ∃ value, m.find? key = some value := by
  rw [contains, Option.isSome_iff_exists]

@[simp] theorem find?_empty (key : κ) : (empty : SortedMap κ α).find? key = none := rfl

theorem keys_ascending (m : SortedMap κ α) : m.keys.Pairwise fun a b => compare a b = .lt :=
  List.pairwise_map.mpr m.ascending

theorem keys_mapValues (f : κ → α → β) (m : SortedMap κ α) : (m.mapValues f).keys = m.keys := by
  simp [keys, mapValues]

variable [Std.LawfulEqOrd κ]

theorem nodup_keys (m : SortedMap κ α) : m.keys.Nodup := by
  refine m.keys_ascending.imp ?_
  rintro a b hlt rfl
  simp [Std.ReflCmp.compare_self] at hlt

theorem nodup_entries (m : SortedMap κ α) : m.entries.Nodup :=
  List.Pairwise.of_map (·.1) (fun _ _ hne heq => hne (congrArg _ heq)) m.nodup_keys

theorem find?_mapValues (f : κ → α → β) (m : SortedMap κ α) (key : κ) :
    (m.mapValues f).find? key = (m.find? key).map (f key) :=
  Entries.find?_mapValues key f m.entries

theorem find?_modify [DecidableEq κ] (m : SortedMap κ α) (key other : κ) (f : α → α) :
    (m.modify key f).find? other =
      if other = key then (m.find? other).map f else m.find? other := by
  rw [modify, find?_mapValues]
  by_cases h : other = key
  · subst h
    simp [Std.ReflCmp.compare_self]
  · have hne : compare key other ≠ .eq := fun heq => h (Std.LawfulEqCmp.eq_of_compare heq).symm
    simp [h, hne]

variable [Std.TransOrd κ]

theorem find?_insert [DecidableEq κ] (m : SortedMap κ α) (key other : κ) (value : α) :
    (m.insert key value).find? other = if other = key then some value else m.find? other :=
  Entries.find?_insert key other value m.entries

/-! ### Entries, keys and values -/

theorem find?_eq_some_iff {m : SortedMap κ α} {key : κ} {value : α} :
    m.find? key = some value ↔ (key, value) ∈ m.entries :=
  ⟨Entries.mem_of_find?, Entries.find?_of_mem m.ascending⟩

theorem mem_keys_iff {m : SortedMap κ α} {key : κ} : key ∈ m.keys ↔ m.contains key = true := by
  rw [keys, contains_iff, List.mem_map]
  constructor
  · rintro ⟨⟨k, a⟩, hmem, rfl⟩
    exact ⟨a, find?_eq_some_iff.mpr hmem⟩
  · rintro ⟨a, ha⟩
    exact ⟨(key, a), find?_eq_some_iff.mp ha, rfl⟩

theorem mem_values_iff {m : SortedMap κ α} {value : α} :
    value ∈ m.values ↔ ∃ key, m.find? key = some value := by
  rw [values, List.mem_map]
  constructor
  · rintro ⟨⟨k, a⟩, hmem, rfl⟩
    exact ⟨k, find?_eq_some_iff.mpr hmem⟩
  · rintro ⟨k, hk⟩
    exact ⟨(k, value), find?_eq_some_iff.mp hk, rfl⟩

theorem find?_filter_eq_some {p : κ → α → Bool} {m : SortedMap κ α} {key : κ} {value : α} :
    (m.filter p).find? key = some value ↔ m.find? key = some value ∧ p key value = true := by
  rw [find?_eq_some_iff, find?_eq_some_iff, filter]
  exact List.mem_filter

theorem keys_filter (p : κ → α → Bool) (m : SortedMap κ α) :
    (m.filter p).keys = m.keys.filter fun key => (m.find? key).any (p key) := by
  unfold keys filter
  rw [List.filter_map]
  refine congrArg (List.map _) (List.filter_congr fun e he => ?_)
  have hfind : m.find? e.1 = some e.2 := find?_eq_some_iff.mpr he
  simp [hfind]

theorem find?_erase [DecidableEq κ] (m : SortedMap κ α) (key other : κ) :
    (m.erase key).find? other = if other = key then none else m.find? other := by
  apply Option.ext
  intro value
  rw [erase, find?_filter_eq_some]
  by_cases h : other = key
  · subst h
    simp [Std.ReflCmp.compare_self]
  · have hne : compare key other ≠ .eq := fun heq => h (Std.LawfulEqCmp.eq_of_compare heq).symm
    simp [h, hne]

/-- With distinct keys nothing that was put is replaced. -/
theorem find?_insertAll [DecidableEq κ] {m : SortedMap κ α} {entries : List (κ × α)}
    (hnodup : (entries.map (·.1)).Nodup) {key : κ} {value : α} :
    (m.insertAll entries).find? key = some value ↔
      (key, value) ∈ entries ∨ ((∀ e ∈ entries, e.1 ≠ key) ∧ m.find? key = some value) := by
  induction entries generalizing m with
  | nil => simp [insertAll]
  | cons first rest ih =>
      rw [List.map_cons, List.nodup_cons] at hnodup
      have hfresh : ∀ e ∈ rest, e.1 ≠ first.1 :=
        fun e he heq => hnodup.1 (heq ▸ List.mem_map_of_mem he)
      show ((m.insert first.1 first.2).insertAll rest).find? key = some value ↔ _
      rw [ih hnodup.2, find?_insert]
      simp only [List.mem_cons, forall_eq_or_imp]
      by_cases hkey : key = first.1
      · subst hkey
        have hother : (first.1, value) ∉ rest := fun hmem => hfresh _ hmem rfl
        have hsame : (first.1, value) = first ↔ first.2 = value := by
          rw [Prod.ext_iff]
          simp [eq_comm]
        rw [hsame, and_iff_right hfresh]
        simp [hother]
      · have hne : (key, value) ≠ first := fun heq => hkey (congrArg Prod.fst heq)
        simp [hkey, hne, Ne.symm hkey]

/-- What is put from another map goes before what was there. -/
theorem find?_insertAll_entries [DecidableEq κ] (m n : SortedMap κ α) (key : κ) :
    (m.insertAll n.entries).find? key = (n.find? key).or (m.find? key) := by
  apply Option.ext
  intro value
  rw [find?_insertAll n.nodup_keys, ← find?_eq_some_iff]
  have hfresh : (∀ e ∈ n.entries, e.1 ≠ key) ↔ n.find? key = none := by
    rw [Option.eq_none_iff_forall_ne_some]
    constructor
    · intro h value hfind
      exact h _ (find?_eq_some_iff.mp hfind) rfl
    · rintro h ⟨k, a⟩ he rfl
      exact h a (find?_eq_some_iff.mpr he)
  rw [hfresh]
  cases n.find? key with
  | none => simp
  | some a => simp

/-! ### Maps by their look-ups -/

theorem ext_find? {m n : SortedMap κ α} (h : ∀ key, m.find? key = n.find? key) : m = n := by
  have hmem : ∀ e, e ∈ m.entries ↔ e ∈ n.entries := by
    rintro ⟨key, value⟩
    rw [← find?_eq_some_iff, ← find?_eq_some_iff, h]
  have hperm : m.entries.Perm n.entries :=
    (List.perm_ext_iff_of_nodup m.nodup_entries n.nodup_entries).mpr hmem
  refine ext_entries (hperm.eq_of_pairwise ?_ m.ascending n.ascending)
  intro a b _ _ hab hba
  rw [Std.OrientedCmp.gt_of_lt hab] at hba
  cases hba

theorem ofList_entries [DecidableEq κ] (m : SortedMap κ α) : ofList m.entries = m := by
  refine ext_find? fun key => ?_
  rw [ofList, find?_insertAll_entries, find?_empty, Option.or_none]

theorem entries_ofList_perm [DecidableEq κ] {entries : List (κ × α)}
    (h : (entries.map (·.1)).Nodup) : (ofList entries).entries.Perm entries := by
  have hnodup : entries.Nodup :=
    List.Pairwise.of_map (·.1) (fun _ _ hne heq => hne (congrArg _ heq)) h
  rw [List.perm_ext_iff_of_nodup (nodup_entries _) hnodup]
  rintro ⟨key, value⟩
  rw [← find?_eq_some_iff, ofList, find?_insertAll h, find?_empty]
  simp

end SortedMap

/-! ### Sets of names -/

namespace NameSet

theorem contains_add (s : NameSet) (name other : String) :
    (s.add name).contains other = true ↔ other = name ∨ s.contains other = true := by
  rw [add, SortedMap.contains_iff, SortedMap.contains_iff, SortedMap.find?_insert]
  by_cases h : other = name <;> simp [h]

theorem contains_foldl_add (names : List String) (s : NameSet) (name : String) :
    (names.foldl add s).contains name = true ↔ name ∈ names ∨ s.contains name = true := by
  induction names generalizing s with
  | nil => simp
  | cons first rest ih =>
      rw [List.foldl_cons, ih, contains_add, List.mem_cons]
      tauto

theorem contains_ofNames {names : List String} {name : String} :
    (ofNames names).contains name = true ↔ name ∈ names := by
  rw [ofNames, contains_foldl_add]
  simp [SortedMap.contains]

theorem mem_keys_ofNames {names : List String} {name : String} :
    name ∈ (ofNames names).keys ↔ name ∈ names := by
  rw [SortedMap.mem_keys_iff, contains_ofNames]

theorem ext_contains {s t : NameSet} (h : ∀ name, s.contains name = true ↔ t.contains name = true) :
    s = t := by
  apply SortedMap.ext_find?
  intro name
  have hsome : (s.find? name).isSome = (t.find? name).isSome := Bool.eq_iff_iff.mpr (h name)
  cases hs : s.find? name <;> cases ht : t.find? name <;> simp [hs, ht] at hsome ⊢

end NameSet

end Bindery
