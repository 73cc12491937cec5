import Mathlib.Data.List.Cycle
import Bindery.Proofs.Idempotence

/-! # Resolved tables

A table leads from each name along a path (`RenameTable.Path`).  Among the paths that meet no name
twice there is one that goes on from all others (`RenameTable.longestPath_chain`), and resolving a
table sends each key to the end of it.  Where this path stops although the table leads on, it has
come to a circle (`RenameTable.exists_circle`).  So without circles of two or more names a resolved
table sends nothing to one of its own keys, and on such a circle it goes one step back
(`RenameTable.Circle.target_eq`): `RenameTable.resolve_exact`. -/

namespace Bindery

namespace RenameTable

open Relation

variable {table : RenameTable} {name next old new : String} {names others : List String}

/-! ### Paths -/

/-- Names behind a start to which a table leads one after another, none of them met twice. -/
structure Path (table : RenameTable) (start : String) (names : List String) : Prop where
  isChain : (start :: names).IsChain fun old new => table.find? old = some new
  nodup : (start :: names).Nodup

/-- The path that goes on from all others of the same start. -/
structure LongestPath (table : RenameTable) (start : String) (names : List String) : Prop
    extends Path table start names where
  isPrefix {others : List String} : table.Path start others → others <+: names

theorem LongestPath.unique (h : table.LongestPath name names)
    (h' : table.LongestPath name others) : names = others :=
  (h'.isPrefix h.toPath).eq_of_length_le (h.isPrefix h'.toPath).length_le

theorem longestPath_of_pursues (h : Pursues id table.find? [name] name names) :
    table.LongestPath name names := by
  obtain ⟨hchain, hnodup, hnew, _⟩ := pursues_iff_isChain.mp h
  rw [List.map_id] at hnodup
  refine { isChain := hchain, nodup := ?_, isPrefix := ?_ }
  · exact List.nodup_cons.mpr ⟨fun hmem => hnew name hmem (by simp), hnodup⟩
  · intro others hothers
    obtain ⟨hfresh, hdistinct⟩ := List.nodup_cons.mp hothers.nodup
    refine h.isPrefix_of_isChain hothers.isChain (by rwa [List.map_id]) fun met hmet hname => ?_
    obtain rfl : met = name := List.mem_singleton.mp hname
    exact hfresh hmet

theorem longestPath_chain (table : RenameTable) {fuel : Nat} (hfuel : table.size ≤ fuel)
    (name : String) : table.LongestPath name (chain id table.find? fuel name) :=
  longestPath_of_pursues (table.pursues_chain_find? hfuel name)

theorem LongestPath.target_eq (h : table.LongestPath name names) :
    table.target name = names.getLast?.getD name := by
  rw [target, (table.longestPath_chain le_rfl name).unique h]

theorem target_eq_self_iff (hentry : table.find? old = some next) :
    table.target old = old ↔ next = old := by
  constructor
  · intro htarget
    have hstep : table.find? (table.target old) = some next := by rw [htarget, hentry]
    have hpath := table.longestPath_chain le_rfl old
    have hempty : chain id table.find? table.size old = [] := by
      rw [← List.getLast?_eq_none_iff, Option.eq_none_iff_forall_ne_some]
      intro last hlast
      rw [target, hlast, Option.getD_some] at htarget
      have hmem := List.mem_of_getLast? hlast
      rw [htarget] at hmem
      exact (List.nodup_cons.mp hpath.nodup).1 hmem
    have hmet := mem_chain_of_find?_target hstep
    rw [hempty] at hmet
    exact List.mem_singleton.mp hmet
  · rintro rfl
    exact target_of_find?_self hentry

theorem find?_resolve (hentry : table.find? old = some next) :
    table.resolve.find? old = if next = old then none else some (table.target old) := by
  apply Option.ext
  intro new
  rw [find?_resolve_eq_some]
  split
  · next hsame =>
    have htarget := (target_eq_self_iff hentry).mpr hsame
    simp only [htarget, reduceCtorEq, iff_false]
    rintro ⟨_, rfl, hne⟩
    exact hne rfl
  · next hne =>
    have htarget : table.target old ≠ old := fun h => hne ((target_eq_self_iff hentry).mp h)
    rw [Option.some.injEq]
    constructor
    · exact fun h => h.2.1
    · rintro rfl
      exact ⟨⟨next, hentry⟩, rfl, htarget⟩

theorem find?_resolve_eq_none (h : table.find? old = none) : table.resolve.find? old = none := by
  rw [Option.eq_none_iff_forall_ne_some]
  intro new hnew
  obtain ⟨⟨next, hnext⟩, _⟩ := find?_resolve_eq_some.mp hnew
  rw [h] at hnext
  cases hnext

theorem resolve_eq_self
    (h : ∀ old new, table.find? old = some new → new ≠ old ∧ table.find? new = none) :
    table.resolve = table := by
  apply SortedMap.ext_find?
  intro old
  cases hentry : table.find? old with
  | none => exact find?_resolve_eq_none hentry
  | some new =>
      obtain ⟨hne, hend⟩ := h old new hentry
      have hpursues : Pursues id table.find? [old] old [new] :=
        ⟨hentry, by simpa using hne, fun met hmet => by rw [hend] at hmet; cases hmet⟩
      rw [find?_resolve hentry, if_neg hne, (longestPath_of_pursues hpursues).target_eq]
      rfl

/-! ### Circles -/

/-- Two or more names around which a table leads. -/
structure Circle (table : RenameTable) (c : Cycle String) : Prop where
  nodup : c.Nodup
  nontrivial : c.Nontrivial
  chain : c.Chain fun old new => table.find? old = some new

/-- Where a path stops although the table leads on to another name, that name is on a circle. -/
theorem exists_circle (h : table.find? (table.target name) = some next)
    (hne : next ≠ table.target name) : ∃ c, table.Circle c := by
  have hpath := table.longestPath_chain le_rfl name
  obtain ⟨before, behind, hsplit⟩ := List.append_of_mem (mem_chain_of_find?_target h)
  have hlast : behind.getLast?.getD next = table.target name := by
    have hends := congrArg List.getLast? hsplit
    rw [List.getLast?_cons, List.getLast?_append, List.getLast?_cons, Option.some_or] at hends
    exact (Option.some.inj hends).symm
  have hsuffix : next :: behind <:+ name :: chain id table.find? table.size name :=
    ⟨before, hsplit.symm⟩
  have hnodup : (next :: behind).Nodup := hpath.nodup.sublist hsuffix.sublist
  have hchain := hpath.isChain.suffix hsuffix
  refine ⟨↑(next :: behind), hnodup, ?_, ?_⟩
  · rw [Cycle.nontrivial_coe_nodup_iff hnodup]
    cases behind with
    | nil => exact absurd hlast hne
    | cons second rest => simp
  · rw [Cycle.chain_coe_cons, ← List.cons_append, List.isChain_append]
    refine ⟨hchain, List.isChain_singleton _, ?_⟩
    intro last hmem first hfirst
    rw [List.getLast?_cons, hlast] at hmem
    simp only [Option.mem_def, Option.some.injEq, List.head?_cons] at hmem hfirst
    rw [← hmem, ← hfirst]
    exact h

theorem exists_coe_cons {c : Cycle String} (hname : name ∈ c) :
    ∃ rest : List String, c = ↑(name :: rest) := by
  induction c using Quotient.inductionOn' with
  | h items =>
      obtain ⟨before, behind, rfl⟩ := List.append_of_mem (Cycle.mem_coe_iff.mp hname)
      exact ⟨behind ++ before, Cycle.coe_eq_coe.mpr List.isRotated_append⟩

namespace Circle

variable {c : Cycle String} (hc : table.Circle c) (hname : name ∈ c)

include hc hname

theorem exists_changes : ∃ next, table.Changes name next := by
  obtain ⟨rest, rfl⟩ := exists_coe_cons hname
  have hnodup : (name :: rest).Nodup := Cycle.nodup_coe_iff.mp hc.nodup
  have htwo := (Cycle.nontrivial_coe_nodup_iff hnodup).mp hc.nontrivial
  have hchain := (Cycle.chain_coe_cons _ _ _).mp hc.chain
  cases rest with
  | nil =>
      rw [List.length_singleton] at htwo
      omega
  | cons second rest =>
      rw [List.cons_append, List.isChain_cons_cons] at hchain
      refine ⟨second, hchain.1, ?_⟩
      rintro rfl
      simp at hnodup

/-- The longest path from a name of a circle goes once around it and stops before it comes back. -/
theorem exists_longestPath :
    ∃ rest : List String, c = ↑(name :: rest) ∧ table.LongestPath name rest ∧
      table.find? (rest.getLast?.getD name) = some name := by
  obtain ⟨rest, rfl⟩ := exists_coe_cons hname
  obtain ⟨hfresh, hdistinct⟩ := List.nodup_cons.mp (Cycle.nodup_coe_iff.mp hc.nodup)
  have hchain := (Cycle.chain_coe_cons _ _ _).mp hc.chain
  rw [← List.cons_append, List.isChain_append] at hchain
  obtain ⟨hchain, _, hback⟩ := hchain
  have hlast : table.find? (rest.getLast?.getD name) = some name :=
    hback _ (by rw [List.getLast?_cons]; rfl) name rfl
  refine ⟨rest, rfl, longestPath_of_pursues (pursues_iff_isChain.mpr ⟨hchain, ?_, ?_, ?_⟩), hlast⟩
  · rwa [List.map_id]
  · intro met hmet hsame
    obtain rfl : met = name := List.mem_singleton.mp hsame
    exact hfresh hmet
  · intro met hmet
    rw [hlast] at hmet
    cases hmet
    exact .inl List.mem_cons_self

theorem find?_target : table.find? (table.target name) = some name := by
  obtain ⟨rest, _, hpath, hlast⟩ := hc.exists_longestPath hname
  rwa [hpath.target_eq]

theorem target_eq : table.target name = c.prev hc.nodup name hname := by
  obtain ⟨rest, rfl, hpath, _⟩ := hc.exists_longestPath hname
  have hprev : (name :: rest).prev name List.mem_cons_self =
      (name :: rest).getLast (List.cons_ne_nil _ _) := List.prev_getLast_cons _ _ _
  refine Eq.trans ?_ hprev.symm
  apply Option.some.inj
  rw [← List.getLast?_eq_some_getLast, List.getLast?_cons, hpath.target_eq]

/-- On a circle a resolved table goes one step back. -/
theorem find?_resolve : table.resolve.find? name = some (c.prev hc.nodup name hname) := by
  obtain ⟨next, hnext, hne⟩ := hc.exists_changes hname
  rw [RenameTable.find?_resolve hnext, if_neg hne, hc.target_eq hname]

/-- A resolved table permutes the names of a circle. -/
theorem existsUnique_find?_resolve : ∃! old, old ∈ c ∧ table.resolve.find? old = some name := by
  refine ⟨c.next hc.nodup name hname, ⟨c.next_mem hc.nodup name hname, ?_⟩, ?_⟩
  · rw [hc.find?_resolve (c.next_mem hc.nodup name hname), c.prev_next]
  · rintro old ⟨hold, hfind⟩
    rw [hc.find?_resolve hold, Option.some.injEq] at hfind
    subst hfind
    exact (c.next_prev hc.nodup old hold).symm

end Circle

/-! ### Tables without circles -/

theorem transGen_changes_self (hcircle : TransGen table.Changes old old)
    (hreach : ReflTransGen table.Changes old new) : TransGen table.Changes new new := by
  induction hreach with
  | refl => exact hcircle
  | tail _ hstep ih =>
      obtain ⟨first, hfirst, hback⟩ := TransGen.head'_iff.mp ih
      cases hstep.1.symm.trans hfirst.1
      exact .tail' hback hstep

theorem reflTransGen_target (table : RenameTable) (name : String) :
    ReflTransGen table.Changes name (table.target name) :=
  reflTransGen_last_chainFrom (List.mem_singleton.mpr rfl) name List.mem_cons_self

theorem acyclic_iff : table.Acyclic ↔ ∀ c, ¬ table.Circle c := by
  constructor
  · intro h c hc
    obtain ⟨name, _, _, hname, _⟩ := hc.nontrivial
    obtain ⟨next, hnext⟩ := hc.exists_changes hname
    have hback := hc.find?_target hname
    have hne : name ≠ table.target name := by
      intro hsame
      rw [← hsame, hnext.1] at hback
      exact hnext.2 (Option.some.inj hback)
    exact h name (.tail' (table.reflTransGen_target name) ⟨hback, hne⟩)
  · intro h name hcircle
    -- the end of the path is on the way around too, so the table leads on from it
    obtain ⟨next, hnext, _⟩ := TransGen.head'_iff.mp
      (transGen_changes_self hcircle (table.reflTransGen_target name))
    obtain ⟨c, hc⟩ := exists_circle hnext.1 hnext.2
    exact h c hc

/-! ### Tables as a whole -/

/-- Resolving a table looks at every key, and comes to an end: there is a path from the key without
a repetition that goes on from all others, and no further turn changes it.  An entry is dropped
exactly if it has its key for its target, and any other key is sent to the end of its path; other
names have no entry.  Without circles of two or more names, no target of the resolved table is one
of its keys, and resolving it again changes nothing.  On every such circle the resolved table sends
each name to the one before it, and so permutes the circle. -/
theorem resolve_exact (table : RenameTable) :
    (∀ old next, table.find? old = some next → ∃ names, table.LongestPath old names ∧
      (∀ fuel, table.size ≤ fuel → Bindery.chain id table.find? fuel old = names) ∧
      table.resolve.find? old = if next = old then none else some (names.getLast?.getD old)) ∧
    (∀ old, table.find? old = none → table.resolve.find? old = none) ∧
    ((∀ c, ¬ table.Circle c) →
      (∀ old new, table.resolve.find? old = some new → table.resolve.find? new = none) ∧
        table.resolve.resolve = table.resolve) ∧
    ∀ c (hc : table.Circle c),
      (∀ name (hname : name ∈ c),
        table.resolve.find? name = some (c.prev hc.nodup name hname)) ∧
      ∀ name ∈ c, ∃! old, old ∈ c ∧ table.resolve.find? old = some name := by
  refine ⟨fun old next hentry => ?_, fun old => find?_resolve_eq_none, fun h => ?_, fun c hc => ?_⟩
  · have hpath := table.longestPath_chain le_rfl old
    refine ⟨_, hpath, fun fuel hfuel => (table.longestPath_chain hfuel old).unique hpath, ?_⟩
    rw [find?_resolve hentry, hpath.target_eq]
  · have hacyclic := acyclic_iff.mpr h
    refine ⟨fun old new => hacyclic.find?_resolve, resolve_eq_self fun old new hfind => ?_⟩
    exact ⟨(find?_resolve_eq_some.mp hfind).2.2, hacyclic.find?_resolve hfind⟩
  · exact ⟨fun name hname => hc.find?_resolve hname,
      fun name hname => hc.existsUnique_find?_resolve hname⟩

/-- A circle of three names with one that leads into it, and two names that lead to one that is
kept. -/
def ringTable : RenameTable :=
  SortedMap.ofList [("Shape", "Circle"), ("Circle", "Line"), ("Line", "Point"), ("Point", "Circle"),
    ("Text", "Attr"), ("Attr", "Node"), ("Node", "Node")]

def ring : Cycle String :=
  ↑["Circle", "Line", "Point"]

theorem circle_ring : ringTable.Circle ring where
  nodup := Cycle.nodup_coe_iff.mpr (by decide)
  nontrivial := (Cycle.nontrivial_coe_nodup_iff (by decide)).mpr (by decide)
  chain := (Cycle.chain_coe_cons _ _ _).mpr (by decide +kernel)

theorem resolve_exact_ring :
    ringTable.LongestPath "Shape" ["Circle", "Line", "Point"] ∧
      ringTable.resolve.find? "Shape" = some "Point" ∧
      ringTable.resolve.find? "Text" = some "Node" ∧ ringTable.resolve.find? "Node" = none ∧
      ringTable.resolve.find? "Circle" = some "Point" ∧
      (∃! old, old ∈ ring ∧ ringTable.resolve.find? old = some "Point") ∧
      (∀ c, ¬ Graph.pointTable.Circle c) ∧
      Graph.pointTable.resolve.resolve = Graph.pointTable.resolve := by
  obtain ⟨hpaths, _, _, hcircles⟩ := resolve_exact ringTable
  obtain ⟨_, _, hsettles, _⟩ := resolve_exact Graph.pointTable
  obtain ⟨shape, hshape, hshapeChain, hshapeEnd⟩ := hpaths "Shape" "Circle" (by decide +kernel)
  obtain ⟨text, _, htextChain, htextEnd⟩ := hpaths "Text" "Attr" (by decide +kernel)
  obtain ⟨_, _, _, hnodeEnd⟩ := hpaths "Node" "Node" (by decide +kernel)
  obtain ⟨hback, hpermutes⟩ := hcircles ring circle_ring
  obtain rfl : ["Circle", "Line", "Point"] = shape :=
    Eq.trans (by decide +kernel) (hshapeChain _ le_rfl)
  obtain rfl : ["Attr", "Node"] = text := Eq.trans (by decide +kernel) (htextChain _ le_rfl)
  have hfree : ∀ c, ¬ Graph.pointTable.Circle c :=
    acyclic_iff.mp (acyclic_of_length (by decide +kernel))
  have hmem : ∀ name ∈ ["Circle", "Line", "Point"], name ∈ ring :=
    fun name => Cycle.mem_coe_iff.mpr
  exact ⟨hshape, hshapeEnd, htextEnd, hnodeEnd, hback "Circle" (hmem _ (by decide)),
    hpermutes "Point" (hmem _ (by decide)), hfree, (hsettles hfree).2⟩

end RenameTable

end Bindery
