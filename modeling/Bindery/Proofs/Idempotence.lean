import Bindery.Proofs.Rename
import Bindery.Proofs.TypeName

/-! # Renaming twice

A table that sends no names around in a circle (`RenameTable.Acyclic`) leads every name to one that
it does not rename (`RenameTable.Acyclic.find?_target`).  If besides its names cannot be taken for
applied or qualified types, the resolved table is `Settled`: a second application finds no
interface to move, and no part of a type to rename (`TypeName.rename_rename`).
`Graph.rename_idempotent` puts the two together. -/

namespace Bindery

open Relation

/-! ### Tables without circles -/

namespace RenameTable

variable {table : RenameTable} {name : String}

/-- An entry that changes its name. -/
def Changes (table : RenameTable) (old new : String) : Prop :=
  table.find? old = some new ∧ new ≠ old

/-- No sequence of entries leads from a name through other names back to it. -/
def Acyclic (table : RenameTable) : Prop :=
  ∀ name, ¬ TransGen table.Changes name name

/-- A table has no circle if its entries make names shorter. -/
theorem acyclic_of_length
    (h : ∀ e ∈ table.entries, e.2 = e.1 ∨ e.2.length < e.1.length) : table.Acyclic := by
  have hshorter : ∀ old new, table.Changes old new → new.length < old.length := by
    rintro old new ⟨hfind, hne⟩
    exact (h _ (SortedMap.find?_eq_some_iff.mp hfind)).resolve_left hne
  intro name hcircle
  have htrans : ∀ other, TransGen table.Changes name other → other.length < name.length := by
    intro other hpath
    induction hpath with
    | single hstep => exact hshorter _ _ hstep
    | tail _ hstep ih => exact lt_trans (hshorter _ _ hstep) ih
  exact lt_irrefl _ (htrans name hcircle)

/-- Without circles, a name leads to one that has no entry, or one for itself. -/
theorem Acyclic.find?_target (h : table.Acyclic) {next : String}
    (hnext : table.find? (table.target name) = some next) : next = table.target name := by
  have hmet := mem_chain_of_find?_target hnext
  have hpath : ReflTransGen table.Changes next (table.target name) :=
    reflTransGen_last_chainFrom (List.mem_singleton.mpr rfl) next hmet
  by_contra hne
  exact h next (.tail' hpath ⟨hnext, hne⟩)

theorem target_of_find?_self (h : table.find? name = some name) : table.target name = name := by
  have hempty : chain id table.find? table.size name = [] := by
    unfold chain
    cases table.size with
    | zero => rfl
    | succ fuel => simp [chainFrom, h]
  rw [target, hempty]
  rfl

/-- Without circles, a resolved table does not rename what it renames to. -/
theorem Acyclic.find?_resolve (h : table.Acyclic) {old new : String}
    (hfind : table.resolve.find? old = some new) : table.resolve.find? new = none := by
  obtain ⟨_, rfl, _⟩ := find?_resolve_eq_some.mp hfind
  cases hagain : table.resolve.find? (table.target old) with
  | none => rfl
  | some further =>
      obtain ⟨⟨next, hnext⟩, rfl, hne⟩ := find?_resolve_eq_some.mp hagain
      rw [h.find?_target hnext] at hnext
      exact absurd (target_of_find?_self hnext) hne

/-- Without circles, a name that the resolved table keeps has no entry that changes it. -/
theorem Acyclic.not_changes (h : table.Acyclic) {new : String}
    (hkept : table.resolve.find? name = none) : ¬ table.Changes name new := by
  rintro ⟨hfind, hne⟩
  have htarget : table.target name = name := by
    by_contra hmoved
    have hsome := find?_resolve_eq_some.mpr ⟨⟨new, hfind⟩, rfl, hmoved⟩
    rw [hkept] at hsome
    cases hsome
  have hend : table.find? (table.target name) = some new := by rw [htarget, hfind]
  exact hne ((h.find?_target hend).trans htarget)

/-- A table whose names are neither applied nor, if they are new ones, qualified, and which renames
no new name. -/
structure Settled (table : RenameTable) : Prop where
  lt_notMem_key {old new : String} : table.find? old = some new → '<' ∉ old.toList
  lt_notMem_target {old new : String} : table.find? old = some new → '<' ∉ new.toList
  not_qualified {old new : String} : table.find? old = some new → ¬ [':', ':'] <:+: new.toList
  find?_target {old new : String} : table.find? old = some new → table.find? new = none

theorem Acyclic.settled (h : table.Acyclic) (hkeys : ∀ old ∈ table.keys, '<' ∉ old.toList)
    (htargets : ∀ new ∈ table.values, '<' ∉ new.toList ∧ ¬ [':', ':'] <:+: new.toList) :
    table.resolve.Settled := by
  have htarget : ∀ old new, table.resolve.find? old = some new →
      '<' ∉ new.toList ∧ ¬ [':', ':'] <:+: new.toList := by
    intro old new hfind
    obtain ⟨_, rfl, hne⟩ := find?_resolve_eq_some.mp hfind
    exact htargets _ (SortedMap.mem_values_iff.mpr (exists_of_target_ne hne))
  refine ⟨?_, fun hfind => (htarget _ _ hfind).1, fun hfind => (htarget _ _ hfind).2,
    h.find?_resolve⟩
  intro old new hfind
  obtain ⟨hentry, _⟩ := find?_resolve_eq_some.mp hfind
  exact hkeys old (SortedMap.mem_keys_iff.mpr (SortedMap.contains_iff.mpr hentry))

end RenameTable

/-! ### Types that were renamed -/

namespace TypeName

variable {table : RenameTable}

theorem lt_notMem_rename (h : table.Settled) {t : TypeName} (ht : '<' ∉ t.toList) :
    '<' ∉ (rename table t).toList := by
  rw [rename_eq, split?_of_lt_notMem ht]
  cases hfind : table.find? (unqualified t) with
  | some new => exact h.lt_notMem_target hfind
  | none => exact ht

/-- The head and the argument of an application can be told apart if the head has no `<`. -/
theorem application_inj {outer inner outer' inner' : TypeName} (h : '<' ∉ outer.toList)
    (h' : '<' ∉ outer'.toList)
    (heq : outer ++ "<" ++ inner ++ ">" = outer' ++ "<" ++ inner' ++ ">") :
    outer = outer' ∧ inner = inner' := by
  have hchars : outer.toList ++ '<' :: (inner.toList ++ ['>']) =
      outer'.toList ++ '<' :: (inner'.toList ++ ['>']) := by
    rw [← String.toList_inj] at heq
    simpa using heq
  have hhead : ∀ {o rest : List Char}, '<' ∉ o →
      (o ++ '<' :: rest).takeWhile (· ≠ '<') = o := by
    intro o rest ho
    rw [List.takeWhile_append_of_pos]
    · simp
    · intro c hc
      simpa using fun hlt : c = '<' => ho (hlt ▸ hc)
  have houter : outer.toList = outer'.toList := by
    rw [← hhead h, hchars, hhead h']
  rw [houter] at hchars
  have hinner := List.append_cancel_left hchars
  rw [List.cons.injEq] at hinner
  exact ⟨String.toList_inj.mp houter, String.toList_inj.mp (List.append_cancel_right hinner.2)⟩

/-- An application is kept if its parts are: no key has a `<`, and if the application is taken apart
then into these parts. -/
theorem rename_application_of_kept (h : table.Settled) {outer inner : TypeName}
    (hlt : '<' ∉ outer.toList) (houter : rename table outer = outer)
    (hinner : rename table inner = inner) :
    rename table (outer ++ "<" ++ inner ++ ">") = outer ++ "<" ++ inner ++ ">" := by
  have hnone : table.find? (unqualified (outer ++ "<" ++ inner ++ ">")) = none := by
    by_contra hsome
    obtain ⟨new, hnew⟩ := Option.ne_none_iff_exists'.mp hsome
    exact h.lt_notMem_key hnew (lt_mem_unqualified (by simp))
  rw [rename_eq, hnone]
  cases hsplit : split? (outer ++ "<" ++ inner ++ ">") with
  | none => rfl
  | some parts =>
      obtain ⟨outer', inner'⟩ := parts
      obtain ⟨hwritten, houter', _⟩ := split?_eq_some_iff.mp hsplit
      obtain ⟨rfl, rfl⟩ := application_inj hlt houter'.lt_notMem hwritten
      dsimp only
      rw [houter, hinner]

theorem rename_rename (h : table.Settled) (t : TypeName) :
    rename table (rename table t) = rename table t := by
  induction hlength : t.length using Nat.strongRecOn generalizing t with
  | ind n ih =>
      rw [rename_eq table t]
      cases hfind : table.find? (unqualified t) with
      | some new =>
          -- a new name is no key, and it cannot be taken apart
          show rename table new = new
          rw [rename_eq, unqualified_of_not_qualified (h.not_qualified hfind), h.find?_target hfind,
            split?_of_lt_notMem (h.lt_notMem_target hfind)]
      | none =>
          cases hsplit : split? t with
          | none =>
              show rename table t = t
              rw [rename_eq, hfind, hsplit]
          | some parts =>
              obtain ⟨outer, inner⟩ := parts
              obtain ⟨_, houter, _⟩ := split?_eq_some_iff.mp hsplit
              have hshort := length_of_split? hsplit
              exact rename_application_of_kept h (lt_notMem_rename h houter.lt_notMem)
                (ih outer.length (by omega) outer rfl) (ih inner.length (by omega) inner rfl)

end TypeName

/-! ### Graphs that were renamed -/

theorem Interface.mapTypes_mapTypes (f f' : TypeName → TypeName) (i : Interface) :
    (i.mapTypes f).mapTypes f' = i.mapTypes (f' ∘ f) := by
  unfold mapTypes Attribute.mapTypes Operation.mapTypes
  cases i.constructorArguments <;> simp

namespace Graph

variable {g : Graph} {table : RenameTable}

theorem rename_of_moving_eq_nil (h : g.moving table.resolve = []) (bindingNames : Bool) :
    g.rename table bindingNames =
      (g.mapInterfaces (Interface.mapTypes (TypeName.rename table.resolve)), []) := by
  have hmoves : g.moves table.resolve = [] := by
    rw [← List.map_eq_nil_iff, map_old_moves, h]
  unfold rename
  dsimp only
  rw [hmoves]
  rfl

theorem moving_rename (g : Graph) (h : table.resolve.Settled) (bindingNames : Bool) :
    (g.rename table bindingNames).1.moving table.resolve = [] := by
  rw [List.eq_nil_iff_forall_not_mem]
  intro name hmoving
  obtain ⟨hcontains, new, hnew⟩ := mem_moving_iff.mp hmoving
  rcases contains_rename.mp hcontains with ⟨hthere, hstays⟩ | ⟨old, _, hold⟩
  · exact hstays (mem_moving_iff.mpr ⟨hthere, new, hnew⟩)
  · rw [h.find?_target hold] at hnew
    cases hnew

/-- By a table without circles, whose names cannot be taken for applied or qualified types, renaming
leaves no identifier that the table changes, and renaming once more moves nothing and changes
nothing. -/
theorem rename_idempotent (g : Graph) (bindingNames again : Bool) {table : RenameTable}
    (hacyclic : table.Acyclic) (hkeys : ∀ old ∈ table.keys, '<' ∉ old.toList)
    (htargets : ∀ new ∈ table.values, '<' ∉ new.toList ∧ ¬ [':', ':'] <:+: new.toList) :
    (∀ name ∈ (g.rename table bindingNames).1.ids, ∀ new, ¬ table.Changes name new) ∧
      (g.rename table bindingNames).1.rename table again =
        ((g.rename table bindingNames).1, []) := by
  have hsettled := hacyclic.settled hkeys htargets
  have hmoving := g.moving_rename hsettled bindingNames
  constructor
  · intro name hname new
    apply hacyclic.not_changes
    by_contra hsome
    have hmoves := mem_moving_iff.mpr
      ⟨mem_ids_iff.mp hname, Option.ne_none_iff_exists'.mp hsome⟩
    rw [hmoving] at hmoves
    cases hmoves
  · rw [rename_of_moving_eq_nil hmoving]
    congr 1
    apply ext_find?
    intro name
    rw [find?_mapInterfaces, find?_rename, Option.map_map]
    congr 1
    funext i
    have htwice : TypeName.rename table.resolve ∘ TypeName.rename table.resolve =
        TypeName.rename table.resolve := funext (TypeName.rename_rename hsettled)
    rw [Function.comp_apply, Interface.mapTypes_mapTypes, htwice]

/-- A chain of two entries, and one that changes nothing. -/
def pointTable : RenameTable :=
  SortedMap.ofList [("WebKitPoint", "SVGPoint"), ("SVGPoint", "Point"), ("Node", "Node")]

/-- Two interfaces that come together, one of which mentions the other inside of an application. -/
def pointGraph : Graph :=
  ((Graph.empty.add { id := "Node" }).add { id := "SVGPoint" }).add
    { id := "WebKitPoint", operations := [{ id := "path", type := "sequence<svg::SVGPoint>" }] }

theorem rename_idempotent_points :
    (pointGraph.rename pointTable false).2.length = 2 ∧
      (pointGraph.rename pointTable false).1.rename pointTable false =
        ((pointGraph.rename pointTable false).1, []) := by
  refine ⟨by decide +kernel, ?_⟩
  exact (rename_idempotent pointGraph false false
    (RenameTable.acyclic_of_length (by decide +kernel)) (by decide +kernel) (by decide +kernel)).2

end Graph

end Bindery
