import Mathlib.Data.List.Nodup
import Mathlib.Data.String.Basic
import Mathlib.Order.Compare
import Bindery.Idl.Mixin
import Bindery.Idl.Role
import Bindery.Proofs.SortedMap

/-! # Look-ups in graphs

What `Graph.find?` gives after each change of a graph, and that the preparations of a run keep every
interface under its own identifier (`Graph.Keyed`).  The interfaces of such a graph stand in
strictly ascending order of their identifiers, and the graph can be built from their list again
(`Graph.ofInterfaces_interfaces`). -/

namespace Bindery

namespace Graph

variable {g : Graph}

/-! ### Look-ups -/

theorem contains_iff {id : String} : g.contains id = true ↔ ∃ i, g.find? id = some i :=
  SortedMap.contains_iff

theorem find?_eq_none_iff {id : String} : g.find? id = none ↔ g.contains id = false := by
  rw [← Option.not_isSome_iff_eq_none, Bool.not_eq_true]
  rfl

theorem mem_ids_iff {id : String} : id ∈ g.ids ↔ g.contains id = true :=
  SortedMap.mem_keys_iff

theorem mem_ids_iff_exists {id : String} : id ∈ g.ids ↔ ∃ i, g.find? id = some i :=
  mem_ids_iff.trans contains_iff

theorem mem_interfaces_iff {i : Interface} : i ∈ g.interfaces ↔ ∃ id, g.find? id = some i :=
  SortedMap.mem_values_iff

theorem mem_mixinInterfaces_iff {base : String} {mixins : NameSet} {i : Interface} :
    i ∈ g.mixinInterfaces base mixins ↔
      ∃ m, mixins.contains m = true ∧ m ≠ base ∧ g.find? m = some i := by
  unfold mixinInterfaces
  simp [SortedMap.mem_keys_iff, and_assoc]

theorem find?_add (g : Graph) (i : Interface) (id : String) :
    (g.add i).find? id = if id = i.id then some i else g.find? id :=
  SortedMap.find?_insert g.table i.id id i

theorem find?_modify (g : Graph) (key : String) (f : Interface → Interface) (id : String) :
    (g.modify key f).find? id = if id = key then (g.find? id).map f else g.find? id :=
  SortedMap.find?_modify g.table key id f

theorem find?_mapInterfaces (g : Graph) (f : Interface → Interface) (id : String) :
    (g.mapInterfaces f).find? id = (g.find? id).map f :=
  SortedMap.find?_mapValues (fun _ i => f i) g.table id

theorem find?_remove (g : Graph) (key id : String) :
    (g.remove key).find? id = if id = key then none else g.find? id :=
  SortedMap.find?_erase g.table key id

theorem contains_mapInterfaces (g : Graph) (f : Interface → Interface) (id : String) :
    (g.mapInterfaces f).contains id = g.contains id := by
  have h := g.find?_mapInterfaces f id
  unfold find? at h
  simp [contains, SortedMap.contains, h]

/-! ### Graphs by their look-ups -/

theorem ext_find? {h : Graph} (hfind : ∀ id, g.find? id = h.find? id) : g = h := by
  cases g
  cases h
  exact congrArg Graph.mk (SortedMap.ext_find? hfind)

theorem interfaces_mapInterfaces (g : Graph) (f : Interface → Interface) :
    (g.mapInterfaces f).interfaces = g.interfaces.map f := by
  simp [interfaces, mapInterfaces, SortedMap.values, SortedMap.mapValues]

theorem keyed_of_entries (h : ∀ e ∈ g.table.entries, e.2.id = e.1) : g.Keyed := by
  intro id i hi
  exact h (id, i) (SortedMap.find?_eq_some_iff.mp hi)

theorem Keyed.add (hg : g.Keyed) (i : Interface) : (g.add i).Keyed := by
  intro id j hj
  rw [find?_add] at hj
  split at hj
  · next hid =>
    cases hj
    exact hid.symm
  · exact hg id j hj

theorem Keyed.modify (hg : g.Keyed) (key : String) {f : Interface → Interface}
    (hf : ∀ i, (f i).id = i.id) : (g.modify key f).Keyed := by
  intro id j hj
  rw [find?_modify] at hj
  split at hj
  · obtain ⟨i, hi, rfl⟩ := Option.map_eq_some_iff.mp hj
    rw [hf]
    exact hg id i hi
  · exact hg id j hj

theorem Keyed.mapInterfaces (hg : g.Keyed) {f : Interface → Interface}
    (hf : ∀ i, (f i).id = i.id) : (g.mapInterfaces f).Keyed := by
  intro id j hj
  rw [find?_mapInterfaces] at hj
  obtain ⟨i, hi, rfl⟩ := Option.map_eq_some_iff.mp hj
  rw [hf]
  exact hg id i hi

theorem Keyed.addEventTargets (hg : g.Keyed) (target : String) :
    (g.addEventTargets target).Keyed := by
  apply hg.mapInterfaces
  intro i
  unfold Interface.addEventTarget
  split <;> rfl

theorem Keyed.ensureBase (hg : g.Keyed) (base : String) : (g.ensureBase base).Keyed := by
  unfold Graph.ensureBase
  split
  · exact hg
  · exact hg.add _

theorem Keyed.populateBase (hg : g.Keyed) {base : String} {mixins : NameSet} {populated : Graph}
    (h : g.populateBase base mixins = .ok populated) : populated.Keyed := by
  unfold Graph.populateBase at h
  split at h
  · cases h
    exact hg.modify base fun _ => rfl
  · cases h

/-! ### The list of interfaces -/

theorem length_ids (g : Graph) : g.ids.length = g.size := by
  simp [ids, size, SortedMap.keys, SortedMap.size]

theorem nodup_ids (g : Graph) : g.ids.Nodup :=
  g.table.nodup_keys

theorem ids_ascending (g : Graph) : g.ids.Pairwise (· < ·) :=
  g.table.keys_ascending.imp compare_lt_iff_lt.mp

theorem Keyed.map_id_interfaces (hg : g.Keyed) : g.interfaces.map (·.id) = g.ids := by
  unfold interfaces ids SortedMap.values SortedMap.keys
  rw [List.map_map]
  refine List.map_congr_left fun e he => ?_
  exact hg e.1 e.2 (SortedMap.find?_eq_some_iff.mpr he)

theorem Keyed.nodup_map_id (hg : g.Keyed) : (g.interfaces.map (·.id)).Nodup := by
  rw [hg.map_id_interfaces]
  exact g.nodup_ids

theorem Keyed.mem_interfaces_iff (hg : g.Keyed) {i : Interface} :
    i ∈ g.interfaces ↔ g.find? i.id = some i := by
  rw [Graph.mem_interfaces_iff]
  constructor
  · rintro ⟨id, hi⟩
    rw [hg id i hi]
    exact hi
  · exact fun hi => ⟨i.id, hi⟩

theorem keyed_empty : empty.Keyed := by
  intro id i hi
  cases hi

theorem contains_add {i : Interface} {id : String} :
    (g.add i).contains id = true ↔ id = i.id ∨ g.contains id = true := by
  rw [contains_iff, find?_add, contains_iff]
  by_cases h : id = i.id <;> simp [h]

variable {interfaces : List Interface}

theorem Keyed.foldl_add (hg : g.Keyed) : (interfaces.foldl Graph.add g).Keyed := by
  induction interfaces generalizing g with
  | nil => exact hg
  | cons i rest ih => exact ih (hg.add i)

theorem foldl_add_eq (g : Graph) (interfaces : List Interface) :
    interfaces.foldl add g = ⟨g.table.insertAll (interfaces.map fun i => (i.id, i))⟩ := by
  induction interfaces generalizing g with
  | nil => rfl
  | cons first rest ih => exact ih (g.add first)

/-- With distinct identifiers nothing that was added is replaced. -/
theorem find?_foldl_add (hnodup : (interfaces.map (·.id)).Nodup) {id : String} {i : Interface} :
    (interfaces.foldl add g).find? id = some i ↔
      (i ∈ interfaces ∧ i.id = id) ∨
        ((∀ j ∈ interfaces, j.id ≠ id) ∧ g.find? id = some i) := by
  have hkeys : ((interfaces.map fun i => (i.id, i)).map (·.1)).Nodup := by
    rw [List.map_map]
    exact hnodup
  have hentry : (id, i) ∈ interfaces.map (fun i => (i.id, i)) ↔ i ∈ interfaces ∧ i.id = id := by
    simp only [List.mem_map, Prod.mk.injEq]
    constructor
    · rintro ⟨j, hj, rfl, rfl⟩
      exact ⟨hj, rfl⟩
    · rintro ⟨hi, rfl⟩
      exact ⟨i, hi, rfl, rfl⟩
  rw [foldl_add_eq]
  refine (SortedMap.find?_insertAll hkeys).trans (or_congr hentry (and_congr_left fun _ => ?_))
  simp

/-- Interfaces are added exactly if their identifiers are distinct and none of them is taken. -/
theorem addNew_eq_ok_iff {h : Graph} :
    g.addNew interfaces = .ok h ↔
      (interfaces.map (·.id)).Nodup ∧ (∀ i ∈ interfaces, g.contains i.id = false) ∧
        h = interfaces.foldl add g := by
  induction interfaces generalizing g with
  | nil => simpa [addNew] using eq_comm
  | cons first rest ih =>
      rw [addNew]
      split
      · next htaken => simp [htaken]
      · next hfree =>
        have hiff : ∀ i : Interface, (g.add first).contains i.id = false ↔
            i.id ≠ first.id ∧ g.contains i.id = false := by
          intro i
          rw [← Bool.not_eq_true, contains_add, not_or, Bool.not_eq_true]
        rw [ih, List.map_cons, List.nodup_cons, List.foldl_cons]
        simp only [hiff, List.mem_cons, forall_eq_or_imp, List.mem_map, not_exists, not_and]
        constructor
        · rintro ⟨hnodup, hrest, rfl⟩
          exact ⟨⟨fun i hi => (hrest i hi).1, hnodup⟩,
            ⟨by simpa using hfree, fun i hi => (hrest i hi).2⟩, rfl⟩
        · rintro ⟨⟨hfirst, hnodup⟩, ⟨_, hrest⟩, rfl⟩
          exact ⟨hnodup, fun i hi => ⟨hfirst i hi, hrest i hi⟩, rfl⟩

theorem ofInterfaces_eq_ok_iff :
    ofInterfaces interfaces = .ok g ↔
      (interfaces.map (·.id)).Nodup ∧ g = interfaces.foldl add empty := by
  unfold ofInterfaces
  rw [addNew_eq_ok_iff]
  exact and_congr_right fun _ => and_iff_right fun i _ => rfl

theorem keyed_of_ofInterfaces (h : ofInterfaces interfaces = .ok g) : g.Keyed := by
  obtain ⟨_, rfl⟩ := ofInterfaces_eq_ok_iff.mp h
  exact keyed_empty.foldl_add

theorem interfaces_perm_of_ofInterfaces (h : ofInterfaces interfaces = .ok g) :
    g.interfaces.Perm interfaces := by
  have hkeyed := keyed_of_ofInterfaces h
  obtain ⟨hnodup, rfl⟩ := ofInterfaces_eq_ok_iff.mp h
  refine (List.perm_ext_iff_of_nodup (.of_map _ hkeyed.nodup_map_id)
    (.of_map _ hnodup)).mpr fun i => ?_
  rw [hkeyed.mem_interfaces_iff, find?_foldl_add hnodup]
  simp [Graph.find?, empty]

theorem ofInterfaces_interfaces (hg : g.Keyed) : ofInterfaces g.interfaces = .ok g := by
  refine ofInterfaces_eq_ok_iff.mpr ⟨hg.nodup_map_id, ext_find? fun id => Option.ext fun i => ?_⟩
  rw [find?_foldl_add hg.nodup_map_id, hg.mem_interfaces_iff]
  constructor
  · intro hi
    have hid := hg id i hi
    exact .inl ⟨hid ▸ hi, hid⟩
  · rintro (⟨hi, rfl⟩ | ⟨_, hnone⟩)
    · exact hi
    · cases hnone

end Graph

end Bindery
