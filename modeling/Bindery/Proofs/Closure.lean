import Bindery.Proofs.Rename
import Bindery.Proofs.TypeName
import Bindery.Target

/-! # Closed graphs

A graph is closed if every type that its interfaces mention resolves against its own identifiers.
Dropping the members of unidentified type makes a graph closed (`Graph.closed_prune`), and a round
of renaming keeps it so (`Graph.Closed.rename`): interfaces move to their new names or into others
(`Graph.contains_rename`), mention what they did before (`Graph.AllTypes.attachAll`), and then the
types follow.
`Target.prepare_closed` puts the rounds together. -/

namespace Bindery

/-! ### Types of interfaces -/

namespace Attribute

theorem types_mapTypes (f : TypeName → TypeName) (a : Attribute) :
    (a.mapTypes f).types = a.types.map f := by
  unfold mapTypes types
  cases a.getRaises <;> cases a.setRaises <;> rfl

end Attribute

namespace Operation

theorem types_mapTypes (f : TypeName → TypeName) (o : Operation) :
    (o.mapTypes f).types = o.types.map f := by
  unfold mapTypes types argumentTypes
  cases o.raises <;> simp

end Operation

namespace Interface

theorem types_mapTypes (f : TypeName → TypeName) (i : Interface) :
    (i.mapTypes f).types = i.types.map f := by
  unfold mapTypes types
  cases i.constructorArguments <;>
    simp [List.flatMap_map, List.map_flatMap, Attribute.types_mapTypes, Operation.types_mapTypes,
      Function.comp_def]

theorem mem_foldl_addAttribute {first second : List Attribute} {a : Attribute}
    (h : a ∈ second.foldl addAttribute first) : a ∈ first ∨ a ∈ second := by
  induction second generalizing first with
  | nil => exact .inl h
  | cons b rest ih =>
      rcases ih h with h | h
      · unfold addAttribute at h
        split at h
        · exact .inl h
        · rcases List.mem_append.mp h with h | h
          · exact .inl h
          · rw [List.mem_singleton.mp h]
            exact .inr List.mem_cons_self
      · exact .inr (List.mem_cons_of_mem _ h)

theorem mem_types_merge {i other : Interface} {t : TypeName} (h : t ∈ (i.merge other).types) :
    t ∈ i.types ∨ t ∈ other.types := by
  unfold merge types at h
  simp only [List.mem_append, List.mem_flatMap, List.mem_map] at h
  unfold types
  simp only [List.mem_append, List.mem_flatMap, List.mem_map]
  rcases h with (((h | ⟨a, ha, h⟩) | ⟨o, ho | ho, h⟩) | ⟨c, hc | hc, h⟩) | h
  · exact .inl (.inl (.inl (.inl (.inl h))))
  · rcases mem_foldl_addAttribute ha with ha | ha
    · exact .inl (.inl (.inl (.inl (.inr ⟨a, ha, h⟩))))
    · exact .inr (.inl (.inl (.inl (.inr ⟨a, ha, h⟩))))
  · exact .inl (.inl (.inl (.inr ⟨o, ho, h⟩)))
  · exact .inr (.inl (.inl (.inr ⟨o, ho, h⟩)))
  · exact .inl (.inl (.inr ⟨c, hc, h⟩))
  · exact .inr (.inl (.inr ⟨c, hc, h⟩))
  · exact .inl (.inr h)

end Interface

/-! ### Members of unidentified type -/

theorem unresolved?_eq_none_iff {known : String → Bool} {types : List TypeName} :
    unresolved? known types = none ↔ ∀ t ∈ types, TypeName.isResolvable known t = true := by
  simp [unresolved?, List.find?_eq_none]

theorem isResolvable_of_mem_resolving {α : Type} {known : String → Bool}
    {types : α → List TypeName} {members : List α} {m : α} (h : m ∈ resolving known types members) :
    ∀ t ∈ types m, TypeName.isResolvable known t = true := by
  have hnone := (List.mem_filter.mp h).2
  rw [Option.isNone_iff_eq_none] at hnone
  exact unresolved?_eq_none_iff.mp hnone

theorem Interface.isResolvable_of_mem_prune {known : String → Bool} {i : Interface} {t : TypeName}
    (h : t ∈ (i.prune known).types) : TypeName.isResolvable known t = true := by
  unfold prune types at h
  simp only [List.mem_append, List.mem_flatMap, List.mem_map] at h
  rcases h with (((⟨p, hp, rfl⟩ | ⟨a, ha, h⟩) | ⟨o, ho, h⟩) | ⟨c, hc, rfl⟩) | ⟨x, hx, rfl⟩
  · exact isResolvable_of_mem_resolving hp _ List.mem_cons_self
  · exact isResolvable_of_mem_resolving ha t h
  · exact isResolvable_of_mem_resolving ho t h
  · exact isResolvable_of_mem_resolving hc _ List.mem_cons_self
  · split at hx
    · next hnone =>
      rw [Option.isNone_iff_eq_none] at hnone
      exact unresolved?_eq_none_iff.mp hnone _ (List.mem_map_of_mem hx)
    · cases hx

namespace Graph

variable {g : Graph} {id : String}

/-- Every type that an interface of the graph mentions has a property. -/
def AllTypes (P : TypeName → Prop) (g : Graph) : Prop :=
  ∀ id i, g.find? id = some i → ∀ t ∈ i.types, P t

/-- Every type that an interface of the graph mentions resolves against the identifiers of the
graph. -/
def Closed (g : Graph) : Prop :=
  ∀ i ∈ g.interfaces, ∀ t ∈ i.types, TypeName.isResolvable g.contains t = true

theorem closed_iff : g.Closed ↔ g.AllTypes (TypeName.isResolvable g.contains · = true) := by
  constructor
  · intro h id i hi
    exact h i (mem_interfaces_iff.mpr ⟨id, hi⟩)
  · intro h i hi
    obtain ⟨id, hid⟩ := mem_interfaces_iff.mp hi
    exact h id i hid

theorem AllTypes.mapInterfaces {P Q : TypeName → Prop} {f : Interface → Interface}
    (h : g.AllTypes P) (hf : ∀ i : Interface, (∀ t ∈ i.types, P t) → ∀ t ∈ (f i).types, Q t) :
    (g.mapInterfaces f).AllTypes Q := by
  intro id i hi
  rw [find?_mapInterfaces] at hi
  obtain ⟨j, hj, rfl⟩ := Option.map_eq_some_iff.mp hi
  exact hf j (h id j hj)

theorem closed_prune (g : Graph) : g.prune.Closed := by
  have hsame : g.prune.contains = g.contains := funext fun id => contains_mapInterfaces g _ id
  rw [closed_iff, hsame]
  have hall : g.AllTypes fun _ => True := fun _ _ _ _ _ => trivial
  exact hall.mapInterfaces fun i _ t ht => Interface.isResolvable_of_mem_prune ht

/-! ### Moves -/

variable {P : TypeName → Prop} {bindingNames : Bool} {m : Move} {moves : List Move}

theorem mem_types_onto {present : Option Interface} {t : TypeName}
    (h : t ∈ (m.onto bindingNames present).types) :
    (∃ i, present = some i ∧ t ∈ i.types) ∨ t ∈ m.interface.types := by
  cases present with
  | none => exact .inr h
  | some i =>
      rcases Interface.mem_types_merge h with h | h
      · exact .inl ⟨i, rfl, h⟩
      · exact .inr h

theorem AllTypes.attach (h : g.AllTypes P) (hm : ∀ t ∈ m.interface.types, P t) :
    (m.attach bindingNames g).AllTypes P := by
  intro id i hi
  rw [find?_attach] at hi
  split at hi
  · cases hi
    intro t ht
    rcases mem_types_onto ht with ⟨j, hj, ht⟩ | ht
    · exact h id j hj t ht
    · exact hm t ht
  · exact h id i hi

theorem AllTypes.attachAll (h : g.AllTypes P)
    (hmoves : ∀ m ∈ moves, ∀ t ∈ m.interface.types, P t) :
    (Graph.attachAll bindingNames g moves).1.AllTypes P := by
  induction moves generalizing g with
  | nil => exact h
  | cons m rest ih =>
      exact ih (h.attach (hmoves m List.mem_cons_self))
        fun x hx => hmoves x (List.mem_cons_of_mem _ hx)

end Graph

/-! ### Rounds of renaming -/

namespace RenameTable

variable {table : RenameTable}

theorem Tidy.resolve (h : table.Tidy) : table.resolve.Tidy where
  plain_key hfind := by
    obtain ⟨⟨_, hnext⟩, _⟩ := find?_resolve_eq_some.mp hfind
    exact h.plain_key hnext
  key_notMem hfind := by
    obtain ⟨⟨_, hnext⟩, _⟩ := find?_resolve_eq_some.mp hfind
    exact h.key_notMem hnext
  plain_target hfind := by
    obtain ⟨_, rfl, hne⟩ := find?_resolve_eq_some.mp hfind
    obtain ⟨old, hold⟩ := exists_of_target_ne hne
    exact h.plain_target hold

theorem tidy_of_entries
    (h : ∀ e ∈ table.entries, TypeName.Plain e.1 ∧ TypeName.Plain e.2 ∧
      ¬ (e.1 ∈ TypeName.primitives ∨ e.1 ∈ TypeName.containers)) : table.Tidy where
  plain_key hfind := (h _ (SortedMap.find?_eq_some_iff.mp hfind)).1
  key_notMem hfind := (h _ (SortedMap.find?_eq_some_iff.mp hfind)).2.2
  plain_target hfind := (h _ (SortedMap.find?_eq_some_iff.mp hfind)).2.1

end RenameTable

namespace Graph

variable {g : Graph} {table : RenameTable} {bindingNames : Bool} {id : String}

theorem contains_rename_of_contains (h : g.contains id = true) :
    (g.rename table bindingNames).1.contains ((table.resolve.find? id).getD id) = true := by
  rw [contains_rename]
  cases hfind : table.resolve.find? id with
  | none =>
      refine .inl ⟨h, fun hmoving => ?_⟩
      obtain ⟨_, new, hnew⟩ := mem_moving_iff.mp hmoving
      rw [Option.getD_none, hfind] at hnew
      cases hnew
  | some new => exact .inr ⟨id, mem_moving_iff.mpr ⟨h, new, hfind⟩, hfind⟩

theorem plain_rename (ht : table.Tidy) (hplain : ∀ id, g.contains id = true → TypeName.Plain id)
    (h : (g.rename table bindingNames).1.contains id = true) : TypeName.Plain id := by
  rcases contains_rename.mp h with ⟨hcontains, _⟩ | ⟨old, _, hfind⟩
  · exact hplain id hcontains
  · exact ht.resolve.plain_target hfind

theorem Closed.rename (hclosed : g.Closed) (ht : table.Tidy)
    (hplain : ∀ id, g.contains id = true → TypeName.Plain id) :
    (g.rename table bindingNames).1.Closed := by
  have hall := closed_iff.mp hclosed
  have hdetached : (g.detach (g.moves table.resolve)).AllTypes
      (TypeName.isResolvable g.contains · = true) := by
    intro id i hi
    rw [find?_detach] at hi
    split at hi
    · cases hi
    · exact hall id i hi
  have hmoved : (attachAll bindingNames (g.detach (g.moves table.resolve))
      (g.moves table.resolve)).1.AllTypes (TypeName.isResolvable g.contains · = true) :=
    hdetached.attachAll fun m hm => hall m.old m.interface (mem_moves_iff.mp hm).2
  rw [closed_iff]
  refine hmoved.mapInterfaces fun i hi t ht' => ?_
  rw [Interface.types_mapTypes] at ht'
  obtain ⟨old, hold, rfl⟩ := List.mem_map.mp ht'
  exact TypeName.isResolvable_rename ht.resolve hplain
    (fun id hid => contains_rename_of_contains hid) (hi old hold)

end Graph

/-! ### Targets -/

namespace Target

/-- The name that some rounds of renaming give to an identifier. -/
def finalName (passes : List RenamePass) (id : String) : String :=
  passes.foldl (fun id p => (p.table.resolve.find? id).getD id) id

theorem closed_renameAll {name : String} {passes : List RenamePass} {g : Graph}
    (hclosed : g.Closed) (hplain : ∀ id, g.contains id = true → TypeName.Plain id)
    (ht : ∀ p ∈ passes, p.table.Tidy) :
    (renameAll name g passes).1.Closed ∧ ∀ id, g.contains id = true →
      (renameAll name g passes).1.contains (finalName passes id) = true := by
  induction passes generalizing g with
  | nil => exact ⟨hclosed, fun _ h => h⟩
  | cons p rest ih =>
      have htidy := ht p List.mem_cons_self
      obtain ⟨hrest, hids⟩ := ih (g := (p.apply g).1) (hclosed.rename htidy hplain)
        (fun id hid => Graph.plain_rename htidy hplain hid)
        fun q hq => ht q (List.mem_cons_of_mem _ hq)
      exact ⟨hrest, fun id hid => hids _ (Graph.contains_rename_of_contains hid)⟩

theorem contains_of_filtered {t : Target} {g : Graph} {id : String}
    (h : (t.filtered g).1.contains id = true) : g.contains id = true := by
  unfold filtered at h
  split at h
  · next f _ =>
    change (f.apply g).contains id = true at h
    unfold AnnotationFilter.apply AnnotationFilter.keepInterfaces Graph.prune at h
    rw [Graph.contains_mapInterfaces, Graph.contains_mapInterfaces, Graph.contains_iff] at h
    obtain ⟨i, hi⟩ := h
    exact Graph.contains_iff.mpr ⟨i, (SortedMap.find?_filter_eq_some.mp hi).1⟩
  · change g.prune.contains id = true at h
    unfold Graph.prune at h
    rw [Graph.contains_mapInterfaces] at h
    exact h

theorem closed_filtered (t : Target) (g : Graph) : (t.filtered g).1.Closed := by
  unfold filtered
  split
  · exact Graph.closed_prune _
  · exact Graph.closed_prune g

/-- The graph that is prepared for a target is closed if names are words and no entry of a table
renames a type that needs no interface, and it has every interface that passes the filter, under
the name that it gets. -/
theorem prepare_closed (t : Target) (g : Graph) (hids : ∀ id ∈ g.ids, TypeName.Plain id)
    (ht : ∀ p ∈ t.renames, p.table.Tidy) :
    (t.prepare g).graph.Closed ∧ ∀ id, (t.filtered g).1.contains id = true →
      (t.prepare g).graph.contains (finalName t.renames id) = true := by
  refine closed_renameAll (t.closed_filtered g) (fun id hid => ?_) ht
  exact hids id (Graph.mem_ids_iff.mpr (contains_of_filtered hid))

/-- Two interfaces change places, and one of them then moves on. -/
def swapTarget : Target :=
  { renames := [{ table := SortedMap.ofList [("Element", "Node"), ("Node", "Element")] },
      { table := SortedMap.ofList [("Node", "DomNode")] }] }

/-- Two interfaces, one of which mentions the other inside of an application. -/
def swapGraph : Graph :=
  (Graph.empty.add { id := "Element", parents := [{ type := "Node" }, { type := "Missing" }] }).add
    { id := "Node", operations := [{ id := "children", type := "sequence<dom::Element>" }] }

theorem prepare_closed_swap :
    (swapTarget.prepare swapGraph).graph.Closed ∧
      (swapTarget.prepare swapGraph).graph.contains "DomNode" = true := by
  have hentries : ∀ p ∈ swapTarget.renames, ∀ e ∈ p.table.entries, TypeName.Plain e.1 ∧
      TypeName.Plain e.2 ∧ ¬ (e.1 ∈ TypeName.primitives ∨ e.1 ∈ TypeName.containers) := by
    decide +kernel
  obtain ⟨hclosed, hids⟩ := prepare_closed swapTarget swapGraph (by decide +kernel)
    fun p hp => RenameTable.tidy_of_entries (hentries p hp)
  exact ⟨hclosed, hids "Element" (by decide +kernel)⟩

end Target

end Bindery
