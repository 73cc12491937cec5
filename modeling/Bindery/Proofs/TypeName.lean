import Mathlib.Data.List.Basic
import Mathlib.Data.List.TakeWhile
import Bindery.Idl.Rename
import Bindery.Proofs.SortedMap

/-! # Renaming types

A type is taken apart in one way only (`split?_eq_some_iff`), and renaming follows its parts
(`rename_eq`).  If names are words, then a renamed type is taken apart again into the renamed parts,
and a type that resolves still does once its identifiers have moved along
(`isResolvable_rename`). -/

namespace Bindery

namespace TypeName

/-- A name that is a word. -/
def Plain (name : String) : Prop :=
  name ≠ "" ∧ name.toList.all Text.isWord = true

instance (name : String) : Decidable (Plain name) :=
  inferInstanceAs (Decidable (_ ∧ _))

/-- A name that may stand before an argument. -/
def IsHead (t : TypeName) : Prop :=
  t ≠ "" ∧ ∀ c ∈ t.toList, isHeadChar c = true

/-- A name that may stand as an argument. -/
def IsArgument (t : TypeName) : Prop :=
  t ≠ "" ∧ ∀ c ∈ t.toList, isArgumentChar c = true

theorem Plain.isWord {t : TypeName} (h : Plain t) {c : Char} (hc : c ∈ t.toList) :
    Text.isWord c = true :=
  List.all_eq_true.mp h.2 c hc

theorem Plain.isHead {t : TypeName} (h : Plain t) : IsHead t := by
  refine ⟨h.1, fun c hc => ?_⟩
  simp [isHeadChar, h.isWord hc]

theorem IsHead.isArgument {t : TypeName} (h : IsHead t) : IsArgument t := by
  refine ⟨h.1, fun c hc => ?_⟩
  simp [isArgumentChar, h.2 c hc]

theorem IsHead.lt_notMem {t : TypeName} (h : IsHead t) : '<' ∉ t.toList := by
  intro hmem
  have hhead := h.2 '<' hmem
  exact absurd hhead (by decide)

theorem Plain.colon_notMem {t : TypeName} (h : Plain t) : ':' ∉ t.toList := by
  intro hmem
  have hword := h.isWord hmem
  exact absurd hword (by decide)

/-! ### Qualification -/

theorem afterModules?_eq_some {cs tail : List Char} (h : afterModules? cs = some tail) :
    ∃ modules, cs = modules ++ ':' :: ':' :: tail ∧ '<' ∉ modules := by
  induction cs with
  | nil => cases h
  | cons c rest ih =>
      unfold afterModules? at h
      by_cases hc : c = '<'
      · simp [hc] at h
      · rw [if_neg hc] at h
        cases hrest : afterModules? rest with
        | some found =>
            rw [hrest] at h
            cases h
            obtain ⟨modules, rfl, hlt⟩ := ih hrest
            exact ⟨c :: modules, rfl, by simp [hlt, Ne.symm hc]⟩
        | none =>
            rw [hrest] at h
            dsimp only at h
            split at h
            · cases h
              exact ⟨[], rfl, List.not_mem_nil⟩
            · cases h

theorem unqualified_of_not_qualified {t : TypeName} (h : ¬ [':', ':'] <:+: t.toList) :
    unqualified t = t := by
  unfold unqualified
  cases hmodules : afterModules? t.toList with
  | none => rfl
  | some tail =>
      obtain ⟨modules, hsplit, _⟩ := afterModules?_eq_some hmodules
      exact absurd ⟨modules, tail, by rw [hsplit]; simp⟩ h

theorem unqualified_of_colon_notMem {t : TypeName} (h : ':' ∉ t.toList) : unqualified t = t := by
  apply unqualified_of_not_qualified
  intro hcolons
  exact h (hcolons.subset List.mem_cons_self)

theorem lt_mem_unqualified {t : TypeName} (h : '<' ∈ t.toList) : '<' ∈ (unqualified t).toList := by
  unfold unqualified
  cases hmodules : afterModules? t.toList with
  | none => exact h
  | some tail =>
      obtain ⟨modules, hsplit, hlt⟩ := afterModules?_eq_some hmodules
      rw [hsplit, List.mem_append] at h
      simpa using h.resolve_left hlt

/-! ### Application -/

theorem split?_of_lt_notMem {t : TypeName} (h : '<' ∉ t.toList) : split? t = none := by
  have hdrop : t.toList.dropWhile (· ≠ '<') = [] := by
    rw [List.dropWhile_eq_nil_iff]
    intro c hc
    simpa using fun hlt : c = '<' => h (hlt ▸ hc)
  unfold split? splitChars?
  rw [hdrop]
  rfl

theorem splitChars?_eq_some_iff {cs outer inner : List Char} :
    splitChars? cs = some (outer, inner) ↔
      cs = outer ++ '<' :: (inner ++ ['>']) ∧ (outer ≠ [] ∧ ∀ c ∈ outer, isHeadChar c = true) ∧
        (inner ≠ [] ∧ ∀ c ∈ inner, isArgumentChar c = true) := by
  constructor
  · intro h
    have hwhole : cs.takeWhile (· ≠ '<') ++ cs.dropWhile (· ≠ '<') = cs :=
      List.takeWhile_append_dropWhile
    unfold splitChars? at h
    dsimp only at h
    split at h
    · cases h
    · next first rest hrest =>
      have hfirst : first = '<' := by
        have hhead := List.head?_dropWhile_not (fun c : Char => decide (c ≠ '<')) cs
        rw [hrest] at hhead
        simpa using hhead
      rw [Option.ite_none_right_eq_some] at h
      obtain ⟨⟨hlast, houter, hinner, hhead, hargument⟩, h⟩ := h
      obtain ⟨rfl, rfl⟩ := Prod.mk.inj (Option.some.inj h)
      refine ⟨?_, ⟨houter, List.all_eq_true.mp hhead⟩, hinner, List.all_eq_true.mp hargument⟩
      rw [hrest, hfirst] at hwhole
      rw [List.dropLast_append_getLast? _ hlast]
      exact hwhole.symm
  · rintro ⟨rfl, ⟨houter, hhead⟩, hinner, hargument⟩
    have hne : ∀ c ∈ outer, decide (c ≠ '<') = true := by
      intro c hc
      rw [decide_eq_true_eq]
      rintro rfl
      exact absurd (hhead '<' hc) (by decide)
    unfold splitChars?
    rw [List.takeWhile_append_of_pos hne, List.dropWhile_append_of_pos hne]
    simpa [houter, hinner] using ⟨hhead, hargument⟩

theorem split?_eq_some_iff {t outer inner : TypeName} :
    split? t = some (outer, inner) ↔
      t = outer ++ "<" ++ inner ++ ">" ∧ IsHead outer ∧ IsArgument inner := by
  have hchars : split? t = some (outer, inner) ↔
      splitChars? t.toList = some (outer.toList, inner.toList) := by
    unfold split?
    rw [Option.map_eq_some_iff]
    constructor
    · rintro ⟨⟨o, i⟩, h, hparts⟩
      obtain ⟨rfl, rfl⟩ := Prod.mk.inj hparts
      simpa using h
    · intro h
      exact ⟨_, h, by simp⟩
  have hwritten : t = outer ++ "<" ++ inner ++ ">" ↔
      t.toList = outer.toList ++ '<' :: (inner.toList ++ ['>']) := by
    rw [← String.toList_inj]
    simp
  rw [hchars, splitChars?_eq_some_iff, hwritten]
  simp [IsHead, IsArgument]

theorem element?_eq_some_iff {t element : TypeName} :
    element? t = some element ↔
      ∃ outer, split? t = some (outer, element) ∧ unqualified outer ∈ containers := by
  unfold element?
  cases hsplit : split? t with
  | none => simp
  | some parts =>
      obtain ⟨outer, inner⟩ := parts
      simp [and_comm]

theorem element?_eq_none_iff {t : TypeName} :
    element? t = none ↔
      ∀ outer inner, split? t = some (outer, inner) → unqualified outer ∉ containers := by
  simp only [Option.eq_none_iff_forall_ne_some, ne_eq, element?_eq_some_iff]
  grind

theorem element?_of_split?_eq_none {t : TypeName} (h : split? t = none) : element? t = none := by
  unfold element?
  rw [h]

/-! ### Resolution -/

theorem isResolvable_iff {known : String → Bool} {t : TypeName} :
    isResolvable known t = true ↔
      (t ∈ primitives ∨ t ∈ containers) ∨ known (unqualified t) = true ∨
        ∃ outer inner, split? t = some (outer, inner) ∧ isResolvable known outer = true ∧
          isResolvable known inner = true := by
  rw [isResolvable]
  split
  · next h =>
    simp only [isPrimitive, Bool.or_eq_true, List.contains_eq_mem, decide_eq_true_eq] at h
    rcases h with h | h
    · exact ⟨fun _ => .inl h, fun _ => rfl⟩
    · exact ⟨fun _ => .inr (.inl h), fun _ => rfl⟩
  · next h =>
    simp only [isPrimitive, Bool.or_eq_true, List.contains_eq_mem, decide_eq_true_eq, not_or] at h
    obtain ⟨hname, hknown⟩ := h
    split
    · next outer inner hsplit =>
      rw [Bool.and_eq_true, hsplit]
      constructor
      · intro hparts
        exact .inr (.inr ⟨outer, inner, rfl, hparts⟩)
      · rintro ((hp | hc) | hk | ⟨o, i, hparts, hresolvable⟩)
        · exact absurd hp hname.1
        · exact absurd hc hname.2
        · exact absurd hk hknown
        · cases hparts
          exact hresolvable
    · next hsplit =>
      rw [hsplit]
      simp [hname, hknown]

/-- Names that need no interface are not qualified and not applied. -/
theorem atom_of_mem {t : TypeName} (h : t ∈ primitives ∨ t ∈ containers) :
    unqualified t = t ∧ split? t = none := by
  have hchars : ∀ name ∈ primitives ++ containers, ':' ∉ name.toList ∧ '<' ∉ name.toList := by
    decide
  obtain ⟨hcolon, hlt⟩ := hchars t (List.mem_append.mpr h)
  exact ⟨unqualified_of_colon_notMem hcolon, split?_of_lt_notMem hlt⟩

theorem notMem_primitives_of_split? {t outer inner : TypeName}
    (h : split? t = some (outer, inner)) : t ∉ primitives := by
  intro hmem
  rw [(atom_of_mem (.inl hmem)).2] at h
  cases h

/-! ### Renaming -/

theorem rename_eq (table : RenameTable) (t : TypeName) :
    rename table t =
      match table.find? (unqualified t), split? t with
      | some new, _ => new
      | none, none => t
      | none, some (outer, inner) => rename table outer ++ "<" ++ rename table inner ++ ">" := by
  unfold rename
  rw [renamed?]
  cases hfind : table.find? (unqualified t) with
  | some new => rfl
  | none =>
      dsimp only
      split
      · next hsplit => rw [hsplit]; rfl
      · next outer inner hsplit =>
        rw [hsplit]
        have hwritten := (split?_eq_some_iff.mp hsplit).1
        cases houter : renamed? table outer <;> cases hinner : renamed? table inner <;>
          simp [hwritten, houter, hinner]

end TypeName

/-- A table between words, none of which stands for a type that needs no interface. -/
structure RenameTable.Tidy (table : RenameTable) : Prop where
  plain_key {old new : String} : table.find? old = some new → TypeName.Plain old
  key_notMem {old new : String} : table.find? old = some new →
    ¬ (old ∈ TypeName.primitives ∨ old ∈ TypeName.containers)
  plain_target {old new : String} : table.find? old = some new → TypeName.Plain new

namespace TypeName

variable {table : RenameTable} {t : TypeName}

theorem IsHead.rename (h : IsHead t)
    (htarget : ∀ {old new : String}, table.find? old = some new → Plain new) :
    IsHead (rename table t) := by
  rw [rename_eq, split?_of_lt_notMem h.lt_notMem]
  cases hfind : table.find? (unqualified t) with
  | some new => exact (htarget hfind).isHead
  | none => exact h

theorem isArgument_append {outer inner : TypeName} (houter : IsArgument outer)
    (hinner : IsArgument inner) : IsArgument (outer ++ "<" ++ inner ++ ">") := by
  refine ⟨fun h => houter.1 ?_, fun c hc => ?_⟩
  · rw [← String.toList_inj] at h ⊢
    simp at h
  · simp only [String.toList_append, List.mem_append] at hc
    rcases hc with ((hc | hc) | hc) | hc
    · exact houter.2 c hc
    · rw [show c = '<' by simpa using hc]
      decide
    · exact hinner.2 c hc
    · rw [show c = '>' by simpa using hc]
      decide

theorem IsArgument.rename (h : IsArgument t)
    (htarget : ∀ {old new : String}, table.find? old = some new → Plain new) :
    IsArgument (rename table t) := by
  induction hlength : t.length using Nat.strongRecOn generalizing t with
  | ind n ih =>
      rw [rename_eq]
      cases hfind : table.find? (unqualified t) with
      | some new => exact (htarget hfind).isHead.isArgument
      | none =>
          cases hsplit : split? t with
          | none => exact h
          | some parts =>
              obtain ⟨outer, inner⟩ := parts
              obtain ⟨_, houter, hinner⟩ := split?_eq_some_iff.mp hsplit
              have hshort := length_of_split? hsplit
              exact isArgument_append (houter.rename htarget).isArgument
                (ih inner.length (by omega) hinner rfl)

/-- A type that resolves against some identifiers resolves, once renamed, against any others among
which each of them has moved to its new name. -/
theorem isResolvable_rename (ht : table.Tidy) {known known' : String → Bool}
    (hplain : ∀ id, known id = true → Plain id)
    (hmoved : ∀ id, known id = true → known' ((table.find? id).getD id) = true)
    (h : isResolvable known t = true) : isResolvable known' (rename table t) = true := by
  induction hlength : t.length using Nat.strongRecOn generalizing t with
  | ind n ih =>
      rw [rename_eq]
      cases hfind : table.find? (unqualified t) with
      | some new =>
          -- only an identifier can be a key, and the graph has its new name
          have hknown : known (unqualified t) = true := by
            rcases isResolvable_iff.mp h with hname | hknown | ⟨outer, inner, hsplit, _⟩
            · rw [(atom_of_mem hname).1] at hfind
              exact absurd hname (ht.key_notMem hfind)
            · exact hknown
            · have hlt : '<' ∈ t.toList := by
                rw [(split?_eq_some_iff.mp hsplit).1]
                simp
              exact absurd (lt_mem_unqualified hlt) (ht.plain_key hfind).isHead.lt_notMem
          have hnew := hmoved _ hknown
          rw [hfind, Option.getD_some] at hnew
          have hsame := unqualified_of_colon_notMem (ht.plain_target hfind).colon_notMem
          exact isResolvable_iff.mpr (.inr (.inl (by rw [hsame]; exact hnew)))
      | none =>
          rcases isResolvable_iff.mp h with hname | hknown | ⟨outer, inner, hsplit, ho, hi⟩
          · rw [(atom_of_mem hname).2]
            exact isResolvable_iff.mpr (.inl hname)
          · have hlt : '<' ∉ t.toList := fun hmem =>
              (hplain _ hknown).isHead.lt_notMem (lt_mem_unqualified hmem)
            rw [split?_of_lt_notMem hlt]
            have hkept := hmoved _ hknown
            rw [hfind, Option.getD_none] at hkept
            exact isResolvable_iff.mpr (.inr (.inl hkept))
          · have hshort := length_of_split? hsplit
            obtain ⟨_, houter, hinner⟩ := split?_eq_some_iff.mp hsplit
            rw [hsplit]
            refine isResolvable_iff.mpr (.inr (.inr ⟨_, _, split?_eq_some_iff.mpr
              ⟨rfl, houter.rename ht.plain_target, hinner.rename ht.plain_target⟩, ?_, ?_⟩))
            · exact ih outer.length (by omega) ho rfl
            · exact ih inner.length (by omega) hi rfl

end TypeName

end Bindery
