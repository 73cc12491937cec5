import Mathlib.Data.List.Nodup
import Mathlib.Logic.Relation
import Bindery.Idl.Chain

/-! # Chains that end

A chain stops where there is no step or where a name would repeat.  In the first case it `Exhausts`
its step, and what comes behind one of its items is the chain of that item
(`chain_eq_of_exhausts`).  With enough fuel there is no third case, and a chain `Pursues` its step
(`pursues_chain`): it is what follows the step without a repetition and goes furthest
(`pursues_iff_isChain`, `Pursues.isPrefix_of_isChain`).  If the step tells its items apart, the name
that would repeat is that of the start (`next_last_chainFrom_ne`). -/

namespace Bindery

variable {α : Type} {name : α → String} {next : α → Option α}

/-- The items are all that a step meets behind a start, to where there is no further step. -/
def Exhausts (next : α → Option α) : α → List α → Prop
  | start, [] => next start = none
  | start, met :: rest => next start = some met ∧ Exhausts next met rest

instance decidableExhausts [DecidableEq α] (start : α) (items : List α) :
    Decidable (Exhausts next start items) :=
  match items with
  | [] => inferInstanceAs (Decidable (next start = none))
  | met :: rest =>
    have : Decidable (Exhausts next met rest) := decidableExhausts met rest
    inferInstanceAs (Decidable (next start = some met ∧ Exhausts next met rest))

theorem Exhausts.suffix {start met : α} {before behind : List α}
    (h : Exhausts next start (before ++ met :: behind)) : Exhausts next met behind := by
  induction before generalizing start with
  | nil => exact h.2
  | cons first rest ih => exact ih h.2

theorem Exhausts.reflTransGen {R : α → α → Prop} {start : α} {items : List α}
    (h : Exhausts next start items)
    (hR : ∀ x ∈ start :: items, ∀ y, next x = some y → R x y) :
    ∀ x ∈ start :: items, Relation.ReflTransGen R start x := by
  induction items generalizing start with
  | nil =>
      intro x hx
      rw [List.mem_singleton.mp hx]
  | cons first rest ih =>
      intro x hx
      rcases List.mem_cons.mp hx with rfl | hx
      · exact .refl
      · have hrest := ih h.2 fun y hy => hR y (List.mem_cons_of_mem _ hy)
        exact .head (hR start List.mem_cons_self first h.1) (hrest x hx)

/-- Steps do not lead around from what is met on a way that ends. -/
theorem Exhausts.not_transGen {start met : α} {items : List α} (h : Exhausts next start items)
    (hmet : Relation.ReflTransGen (fun a b => next a = some b) start met) :
    ¬ Relation.TransGen (fun a b => next a = some b) met met := by
  induction items generalizing start with
  | nil =>
      have hend : next start = none := h
      have hsame : met = start := by
        rcases Relation.ReflTransGen.cases_head hmet with hsame | ⟨first, hfirst, _⟩
        · exact hsame.symm
        · rw [hend] at hfirst
          cases hfirst
      intro hcircle
      obtain ⟨first, hfirst, _⟩ := Relation.TransGen.head'_iff.mp hcircle
      rw [hsame, hend] at hfirst
      cases hfirst
  | cons first rest ih =>
      obtain ⟨hstep, hrest⟩ := h
      intro hcircle
      rcases Relation.ReflTransGen.cases_head hmet with hsame | ⟨other, hother, hlater⟩
      · -- going around from the start leads through the first item
        subst hsame
        obtain ⟨other, hother, hback⟩ := Relation.TransGen.head'_iff.mp hcircle
        cases hstep.symm.trans hother
        exact ih hrest hback hcircle
      · cases hstep.symm.trans hother
        exact ih hrest hlater hcircle

theorem transGen_of_mem_chainFrom {fuel : Nat} {seen : List String} {start met : α}
    (h : met ∈ chainFrom name next fuel seen start) :
    Relation.TransGen (fun a b => next a = some b) start met := by
  induction fuel generalizing seen start with
  | zero => cases h
  | succ fuel ih =>
      rw [chainFrom] at h
      cases hstep : next start with
      | none => simp [hstep] at h
      | some first =>
          simp only [hstep] at h
          split at h
          · cases h
          · rcases List.mem_cons.mp h with rfl | h
            · exact .single hstep
            · exact .head hstep (ih h)

theorem exists_step_of_mem_chainFrom {fuel : Nat} {seen : List String} {start met : α}
    (h : met ∈ chainFrom name next fuel seen start) : ∃ a, next a = some met := by
  obtain ⟨a, _, ha⟩ := Relation.TransGen.tail'_iff.mp (transGen_of_mem_chainFrom h)
  exact ⟨a, ha⟩

theorem nodup_chainFrom (name : α → String) (next : α → Option α) (fuel : Nat)
    (seen : List String) (start : α) :
    ((chainFrom name next fuel seen start).map name).Nodup ∧
      (∀ met ∈ chainFrom name next fuel seen start, name met ∉ seen) ∧
      (chainFrom name next fuel seen start).length ≤ fuel := by
  induction fuel generalizing seen start with
  | zero => simp [chainFrom]
  | succ fuel ih =>
      rw [chainFrom]
      cases next start with
      | none => simp
      | some first =>
          dsimp only
          split
          · simp
          · next hfirst =>
            obtain ⟨hnodup, hseen, hlength⟩ := ih (name first :: seen) first
            refine ⟨?_, ?_, ?_⟩
            · rw [List.map_cons, List.nodup_cons, List.mem_map]
              refine ⟨?_, hnodup⟩
              rintro ⟨met, hmet, hname⟩
              exact hseen met hmet (by simp [hname])
            · intro met hmet
              rcases List.mem_cons.mp hmet with rfl | hmet
              · simpa using hfirst
              · intro hname
                exact hseen met hmet (List.mem_cons_of_mem _ hname)
            · rw [List.length_cons]
              omega

theorem chainFrom_of_exhausts {fuel : Nat} {seen : List String} {start : α} {items : List α}
    (h : Exhausts next start items) (hnodup : (items.map name).Nodup)
    (hseen : ∀ met ∈ items, name met ∉ seen) (hfuel : items.length ≤ fuel) :
    chainFrom name next fuel seen start = items := by
  induction items generalizing fuel seen start with
  | nil =>
      cases fuel with
      | zero => rfl
      | succ fuel =>
          have hstep : next start = none := h
          rw [chainFrom, hstep]
  | cons first rest ih =>
      obtain ⟨hstep, hrest⟩ := h
      rw [List.length_cons] at hfuel
      rw [List.map_cons, List.nodup_cons] at hnodup
      obtain ⟨fuel, rfl⟩ : ∃ n, fuel = n + 1 := ⟨fuel - 1, by omega⟩
      have hfirst : name first ∉ seen := hseen first List.mem_cons_self
      rw [chainFrom, hstep]
      simp only [List.contains_eq_mem, decide_eq_true_eq, hfirst, if_false]
      rw [ih hrest hnodup.2 ?_ (by omega)]
      intro met hmet hname
      rcases List.mem_cons.mp hname with hname | hname
      · exact hnodup.1 (hname ▸ List.mem_map_of_mem hmet)
      · exact hseen met (List.mem_cons_of_mem _ hmet) hname

/-- On a chain that ends, what comes behind an item is the chain of the item. -/
theorem chain_eq_of_exhausts {fuel : Nat} {start met : α} {before behind : List α}
    (h : Exhausts next start (chain name next fuel start))
    (hsplit : chain name next fuel start = before ++ met :: behind) :
    chain name next fuel met = behind := by
  obtain ⟨hnodup, _, hlength⟩ := nodup_chainFrom name next fuel [name start] start
  change ((chain name next fuel start).map name).Nodup at hnodup
  change (chain name next fuel start).length ≤ fuel at hlength
  rw [hsplit] at h hnodup hlength
  rw [List.map_append, List.map_cons, List.nodup_append] at hnodup
  obtain ⟨_, hnodup, _⟩ := hnodup
  rw [List.nodup_cons] at hnodup
  refine chainFrom_of_exhausts h.suffix hnodup.2 ?_ ?_
  · intro x hx hname
    rw [List.mem_singleton] at hname
    exact hnodup.1 (hname ▸ List.mem_map_of_mem hx)
  · rw [List.length_append, List.length_cons] at hlength
    omega

theorem chain_eq_cons_of_exhausts {fuel : Nat} {start met : α}
    (h : Exhausts next start (chain name next fuel start)) (hmet : next start = some met) :
    chain name next fuel start = met :: chain name next fuel met := by
  cases hitems : chain name next fuel start with
  | nil =>
      rw [hitems, Exhausts, hmet] at h
      cases h
  | cons first rest =>
      have hsplit : chain name next fuel start = [] ++ first :: rest := hitems
      have hrest := chain_eq_of_exhausts h hsplit
      rw [hitems] at h
      cases hmet.symm.trans h.1
      rw [hrest]

/-! ### Where a chain stops -/

theorem length_filter_notMem_cons_lt {keys visited : List String} {key : String} (hkey : key ∈ keys)
    (hvisited : key ∉ visited) :
    (keys.filter (· ∉ key :: visited)).length < (keys.filter (· ∉ visited)).length := by
  have hfilter : keys.filter (· ∉ key :: visited) =
      (keys.filter (· ∉ visited)).filter (· ≠ key) := by
    rw [List.filter_filter]
    apply List.filter_congr
    intro other _
    simp
  rw [hfilter, List.length_filter_lt_length_iff_exists]
  refine ⟨key, ?_, by simp⟩
  rw [List.mem_filter]
  exact ⟨hkey, by simpa using hvisited⟩

/-- The items are what a step meets behind a start, up to where there is no step or where the next
name was seen before. -/
def Pursues (name : α → String) (next : α → Option α) : List String → α → List α → Prop
  | seen, start, [] => ∀ met ∈ next start, name met ∈ seen
  | seen, start, met :: rest =>
    next start = some met ∧ name met ∉ seen ∧ Pursues name next (name met :: seen) met rest

instance decidablePursues [DecidableEq α] (seen : List String) (start : α) (items : List α) :
    Decidable (Pursues name next seen start items) :=
  match items with
  | [] => inferInstanceAs (Decidable (∀ met ∈ next start, name met ∈ seen))
  | met :: rest =>
    have : Decidable (Pursues name next (name met :: seen) met rest) := decidablePursues _ met rest
    inferInstanceAs (Decidable (next start = some met ∧ name met ∉ seen ∧ Pursues _ _ _ _ _))

/-- The items come one after another from the start, their names are new and do not repeat, and the
step from the last one leads nowhere or to a name that was met before. -/
theorem pursues_iff_isChain {seen : List String} {start : α} {items : List α} :
    Pursues name next seen start items ↔
      (start :: items).IsChain (fun a b => next a = some b) ∧ (items.map name).Nodup ∧
        (∀ met ∈ items, name met ∉ seen) ∧
        ∀ met ∈ next (items.getLast?.getD start), name met ∈ seen ∨ name met ∈ items.map name := by
  induction items generalizing seen start with
  | nil => simp [Pursues]
  | cons first rest ih =>
      rw [Pursues, ih, List.isChain_cons_cons, List.map_cons, List.nodup_cons, List.getLast?_cons,
        Option.getD_some]
      simp only [List.mem_cons, List.mem_map, forall_eq_or_imp, not_or, not_exists, not_and]
      constructor
      · rintro ⟨hstep, hnew, hchain, hnodup, hfresh, hstop⟩
        refine ⟨⟨hstep, hchain⟩, ⟨fun met hmet => (hfresh met hmet).1, hnodup⟩,
          ⟨hnew, fun met hmet => (hfresh met hmet).2⟩, fun met hmet => ?_⟩
        rcases hstop met hmet with (h | h) | h
        · exact .inr (.inl h)
        · exact .inl h
        · exact .inr (.inr h)
      · rintro ⟨⟨hstep, hchain⟩, ⟨hfirst, hnodup⟩, ⟨hnew, hfresh⟩, hstop⟩
        refine ⟨hstep, hnew, hchain, hnodup, fun met hmet => ⟨hfirst met hmet, hfresh met hmet⟩,
          fun met hmet => ?_⟩
        rcases hstop met hmet with h | h | h
        · exact .inl (.inr h)
        · exact .inl (.inl h)
        · exact .inr h

/-- Nothing that follows the step without a repetition goes further. -/
theorem Pursues.isPrefix_of_isChain {seen : List String} {start : α} {items others : List α}
    (h : Pursues name next seen start items)
    (hchain : (start :: others).IsChain fun a b => next a = some b)
    (hnodup : (others.map name).Nodup) (hnew : ∀ met ∈ others, name met ∉ seen) :
    others <+: items := by
  induction others generalizing seen start items with
  | nil => exact List.nil_prefix
  | cons met rest ih =>
      rw [List.isChain_cons_cons] at hchain
      rw [List.map_cons, List.nodup_cons, List.mem_map] at hnodup
      cases items with
      | nil => exact absurd (h met hchain.1) (hnew met List.mem_cons_self)
      | cons first items =>
          obtain ⟨hstep, _, hrest⟩ := h
          cases hstep.symm.trans hchain.1
          refine List.cons_prefix_cons.mpr ⟨rfl, ih hrest hchain.2 hnodup.2 fun x hx => ?_⟩
          rw [List.mem_cons, not_or]
          exact ⟨fun hname => hnodup.1 ⟨x, hx, hname⟩, hnew x (List.mem_cons_of_mem _ hx)⟩

/-- The more was seen before, the earlier the items end. -/
theorem Pursues.isPrefix_of_subset {seen seen' : List String} {start : α} {items items' : List α}
    (h : Pursues name next seen start items) (h' : Pursues name next seen' start items')
    (hsub : seen' ⊆ seen) : items <+: items' := by
  obtain ⟨hchain, hnodup, hfresh, _⟩ := pursues_iff_isChain.mp h
  exact h'.isPrefix_of_isChain hchain hnodup fun met hmet hseen => hfresh met hmet (hsub hseen)

theorem Pursues.unique {seen : List String} {start : α} {items items' : List α}
    (h : Pursues name next seen start items) (h' : Pursues name next seen start items') :
    items = items' :=
  (h.isPrefix_of_subset h' (List.Subset.refl _)).eq_of_length_le
    (h'.isPrefix_of_subset h (List.Subset.refl _)).length_le

theorem Pursues.pursues_iff {seen : List String} {start : α} {items items' : List α}
    (h : Pursues name next seen start items) :
    Pursues name next seen start items' ↔ items' = items := by
  constructor
  · intro h'
    exact h'.unique h
  · rintro rfl
    exact h

theorem Pursues.head?_eq_some_iff {seen : List String} {start met : α} {items : List α}
    (h : Pursues name next seen start items) :
    items.head? = some met ↔ next start = some met ∧ name met ∉ seen := by
  cases items with
  | nil =>
      simp only [List.head?_nil, reduceCtorEq, false_iff, not_and, not_not]
      exact h met
  | cons first rest =>
      obtain ⟨hstep, hnew, _⟩ := h
      rw [List.head?_cons, hstep]
      constructor
      · rintro ⟨⟩
        exact ⟨rfl, hnew⟩
      · exact And.left

theorem Pursues.suffix {seen : List String} {start met : α} {before behind : List α}
    (h : Pursues name next seen start (before ++ met :: behind)) :
    ∃ seen', name met ∈ seen' ∧ Pursues name next seen' met behind := by
  induction before generalizing seen start with
  | nil => exact ⟨_, List.mem_cons_self, h.2.2⟩
  | cons first rest ih => exact ih h.2.2

theorem Pursues.exhausts {seen : List String} {start : α} {items : List α}
    (h : Pursues name next seen start items) (hend : next (items.getLast?.getD start) = none) :
    Exhausts next start items := by
  induction items generalizing seen start with
  | nil => exact hend
  | cons first rest ih =>
      rw [List.getLast?_cons, Option.getD_some] at hend
      exact ⟨h.1, ih h.2.2 hend⟩

/-- If there is as much fuel as there are names with a step, then a chain does not stop early.  Only
the items that are met from the start on have to have their names among those. -/
theorem pursues_chainFrom {P : α → Prop} {keys visited : List String} {fuel : Nat} {start : α}
    (hkeys : ∀ a b, P a → next a = some b → name a ∈ keys ∧ P b) (hP : P start)
    (hstart : name start ∉ visited) (hfuel : (keys.filter (· ∉ visited)).length ≤ fuel) :
    Pursues name next (name start :: visited) start
      (chainFrom name next fuel (name start :: visited) start) := by
  induction fuel generalizing visited start with
  | zero =>
      -- all names with a step are behind the start, so that it has none
      intro met hmet
      have hkey : name start ∈ keys.filter (· ∉ visited) := by
        rw [List.mem_filter]
        exact ⟨(hkeys _ _ hP hmet).1, by simpa using hstart⟩
      have hpos := List.length_pos_of_mem hkey
      omega
  | succ fuel ih =>
      rw [chainFrom]
      cases hstep : next start with
      | none =>
          intro met hmet
          simp [hstep] at hmet
      | some first =>
          obtain ⟨hkey, hfirst⟩ := hkeys _ _ hP hstep
          dsimp only
          by_cases hseen : name first ∈ name start :: visited
          · rw [if_pos (by simpa using hseen)]
            intro met hmet
            cases hstep.symm.trans hmet
            exact hseen
          · rw [if_neg (by simpa using hseen)]
            have hshort := length_filter_notMem_cons_lt hkey hstart
            exact ⟨hstep, hseen, ih hfirst hseen (by omega)⟩

theorem pursues_chain {P : α → Prop} {keys : List String} {fuel : Nat} {start : α}
    (hkeys : ∀ a b, P a → next a = some b → name a ∈ keys ∧ P b) (hP : P start)
    (hfuel : keys.length ≤ fuel) :
    Pursues name next [name start] start (chain name next fuel start) :=
  pursues_chainFrom hkeys hP List.not_mem_nil (Nat.le_trans (List.length_filter_le _ _) hfuel)

/-- A step that leads from different items to different ones does not lead from the end of a chain
back into it: what it would meet there was met from the item before it. -/
theorem next_last_chainFrom_ne
    (hinj : ∀ a b c, next a = some c → next b = some c → a = b) {fuel : Nat} {seen : List String}
    {start met : α} (hstart : name start ∈ seen) (hmet : met ∈ chainFrom name next fuel seen start) :
    next (((chainFrom name next fuel seen start).getLast?).getD start) ≠ some met := by
  induction fuel generalizing seen start with
  | zero => cases hmet
  | succ fuel ih =>
      obtain ⟨_, hfresh, _⟩ := nodup_chainFrom name next (fuel + 1) seen start
      rw [chainFrom] at hmet hfresh ⊢
      cases hstep : next start with
      | none => simp [hstep] at hmet
      | some first =>
          simp only [hstep] at hmet hfresh ⊢
          split at hmet
          · cases hmet
          · next hseen =>
            rw [if_neg hseen] at hfresh ⊢
            rw [List.getLast?_cons, Option.getD_some]
            intro hlast
            rcases List.mem_cons.mp hmet with rfl | hmet
            · -- then the end is the start, which does not occur again
              have hend := hinj _ _ _ hlast hstep
              rw [← List.getLastD_eq_getLast?] at hend
              exact hfresh start (hend ▸ List.getLastD_mem_cons) hstart
            · exact ih List.mem_cons_self hmet hlast

/-- Whatever a chain meets, its start included, leads on to where it stops. -/
theorem reflTransGen_last_chainFrom {fuel : Nat} {seen : List String} {start : α}
    (hstart : name start ∈ seen) :
    ∀ x ∈ start :: chainFrom name next fuel seen start,
      Relation.ReflTransGen (fun a b => next a = some b ∧ name b ≠ name a) x
        (((chainFrom name next fuel seen start).getLast?).getD start) := by
  induction fuel generalizing seen start with
  | zero =>
      intro x hx
      rw [List.mem_singleton.mp hx]
      exact .refl
  | succ fuel ih =>
      rw [chainFrom]
      cases hstep : next start with
      | none =>
          intro x hx
          rw [List.mem_singleton.mp hx]
          exact .refl
      | some first =>
          dsimp only
          split
          · intro x hx
            rw [List.mem_singleton.mp hx]
            exact .refl
          · next hseen =>
            have hfirst : name first ∉ seen := by simpa using hseen
            have hne : name first ≠ name start := fun h => hfirst (h ▸ hstart)
            have hrest := @ih (name first :: seen) first List.mem_cons_self
            rw [List.getLast?_cons, Option.getD_some]
            intro x hx
            rcases List.mem_cons.mp hx with rfl | hx
            · exact .head ⟨hstep, hne⟩ (hrest first List.mem_cons_self)
            · exact hrest x hx

end Bindery
