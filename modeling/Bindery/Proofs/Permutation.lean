import Bindery.Proofs.Rename

/-! # Tables that permute their names

If the new names of a table are its old names, each once (`RenameTable.Permutes`), then every chain
goes around a circle and stops one step before its start, so the resolved table is the table read
backwards (`RenameTable.Permutes.find?_resolve_iff`).  Under each name comes to stand what the table
gives to this name (`RenameTable.Permutes.find?_rename`), and nothing is in its way, because what
was there has moved too.  So nothing is merged, and no interface is lost
(`Graph.rename_permutes`). -/

namespace Bindery

/-! ### Circles -/

namespace RenameTable

variable {table : RenameTable}

/-- The new names of the table are its old names, each once. -/
def Permutes (table : RenameTable) : Prop :=
  table.values.Perm table.keys

instance (table : RenameTable) : Decidable table.Permutes :=
  inferInstanceAs (Decidable (table.values.Perm table.keys))

namespace Permutes

variable (h : table.Permutes)

include h

theorem inj {a b new : String} (ha : table.find? a = some new) (hb : table.find? b = some new) :
    a = b := by
  have hnodup : table.values.Nodup := h.nodup_iff.mpr table.nodup_keys
  have hsame := List.inj_on_of_nodup_map hnodup (SortedMap.find?_eq_some_iff.mp ha)
    (SortedMap.find?_eq_some_iff.mp hb) rfl
  exact congrArg Prod.fst hsame

theorem exists_find?_iff {name : String} :
    (∃ next, table.find? name = some next) ↔ ∃ old, table.find? old = some name := by
  rw [← SortedMap.mem_values_iff, h.mem_iff, SortedMap.mem_keys_iff, SortedMap.contains_iff]

/-- A chain goes once around and stops before it would come back to its start. -/
theorem find?_target {old next : String} (hold : table.find? old = some next) :
    table.find? (table.target old) = some old := by
  have hentry : ∃ met, table.find? (table.target old) = some met := by
    by_cases hmoved : table.target old = old
    · rw [hmoved]
      exact ⟨next, hold⟩
    · exact h.exists_find?_iff.mpr (exists_of_target_ne hmoved)
  obtain ⟨met, hmet⟩ := hentry
  rcases List.mem_cons.mp (mem_chain_of_find?_target hmet) with rfl | hchain
  · exact hmet
  · exact absurd hmet (next_last_chainFrom_ne (fun _ _ _ => h.inj) List.mem_cons_self hchain)

/-- The resolved table is the table read backwards, without the names that it keeps. -/
theorem find?_resolve_iff {old new : String} :
    table.resolve.find? old = some new ↔ table.find? new = some old ∧ new ≠ old := by
  rw [find?_resolve_eq_some]
  constructor
  · rintro ⟨⟨next, hnext⟩, rfl, hne⟩
    exact ⟨h.find?_target hnext, hne⟩
  · rintro ⟨hnew, hne⟩
    obtain ⟨next, hnext⟩ := h.exists_find?_iff.mpr ⟨new, hnew⟩
    exact ⟨⟨next, hnext⟩, h.inj (h.find?_target hnext) hnew, hne⟩

theorem exists_find?_resolve_iff {old : String} :
    (∃ new, table.resolve.find? old = some new) ↔
      ∃ next, table.find? old = some next ∧ next ≠ old := by
  simp only [h.find?_resolve_iff]
  constructor
  · rintro ⟨new, hnew, hne⟩
    obtain ⟨next, hnext⟩ := h.exists_find?_iff.mpr ⟨new, hnew⟩
    refine ⟨next, hnext, ?_⟩
    rintro rfl
    exact hne (h.inj hnew hnext)
  · rintro ⟨next, hnext, hne⟩
    obtain ⟨new, hnew⟩ := h.exists_find?_iff.mp ⟨next, hnext⟩
    refine ⟨new, hnew, ?_⟩
    rintro rfl
    exact hne (Option.some.inj (hnext.symm.trans hnew))

end Permutes

end RenameTable

/-! ### One interface for each name -/

/-- The name whose interface comes to stand under a name: the one that the table gives to it. -/
def RenameTable.source (table : RenameTable) (name : String) : String :=
  (table.find? name).getD name

namespace RenameTable.Permutes

variable {table : RenameTable} (h : table.Permutes)

include h

theorem source_inj {a b : String} (hsame : table.source a = table.source b) : a = b := by
  unfold source at hsame
  cases ha : table.find? a with
  | none =>
      cases hb : table.find? b with
      | none => simpa [ha, hb] using hsame
      | some y =>
          -- then `a` is a new name, but no old one
          obtain rfl : a = y := by simpa [ha, hb] using hsame
          obtain ⟨next, hnext⟩ := h.exists_find?_iff.mpr ⟨b, hb⟩
          rw [ha] at hnext
          cases hnext
  | some x =>
      cases hb : table.find? b with
      | none =>
          obtain rfl : x = b := by simpa [ha, hb] using hsame
          obtain ⟨next, hnext⟩ := h.exists_find?_iff.mpr ⟨a, ha⟩
          rw [hb] at hnext
          cases hnext
      | some y =>
          obtain rfl : x = y := by simpa [ha, hb] using hsame
          exact h.inj ha hb

theorem exists_source (name : String) : ∃ new, table.source new = name := by
  unfold source
  cases hname : table.find? name with
  | none => exact ⟨name, by rw [hname]; rfl⟩
  | some next => exact ⟨table.target name, by rw [h.find?_target hname]; rfl⟩

/-- What comes to stand under a name has moved there, or has this name and does not move. -/
theorem source_eq_iff {name old : String} :
    table.source name = old ↔
      table.resolve.find? old = some name ∨ (old = name ∧ table.resolve.find? name = none) := by
  have hkept : table.resolve.find? name = none ↔
      ∀ next, table.find? name = some next → next = name := by
    rw [Option.eq_none_iff_forall_ne_some, ← not_exists, h.exists_find?_resolve_iff]
    simp
  rw [h.find?_resolve_iff, hkept, source]
  cases hname : table.find? name with
  | none => simp [eq_comm]
  | some x =>
      rw [Option.getD_some]
      constructor
      · rintro rfl
        by_cases hx : x = name
        · exact .inr ⟨hx, fun next hnext => (Option.some.inj hnext).symm.trans hx⟩
        · exact .inl ⟨rfl, Ne.symm hx⟩
      · rintro (⟨hold, _⟩ | ⟨rfl, hall⟩)
        · exact Option.some.inj hold
        · exact hall x rfl

theorem mem_contributors_iff {g : Graph} {id name : String} :
    id ∈ g.contributors table.resolve name ↔ g.contains id = true ∧ table.source name = id := by
  rw [Graph.mem_contributors_iff, Graph.mem_moving_iff, Graph.mem_moving_iff, h.source_eq_iff]
  constructor
  · rintro (⟨rfl, hthere, hstays⟩ | ⟨⟨hthere, _⟩, hmoves⟩)
    · refine ⟨hthere, .inr ⟨rfl, ?_⟩⟩
      rw [Option.eq_none_iff_forall_ne_some]
      exact fun new hnew => hstays ⟨hthere, new, hnew⟩
    · exact ⟨hthere, .inl hmoves⟩
  · rintro ⟨hthere, hmoves | ⟨rfl, hstays⟩⟩
    · exact .inr ⟨⟨hthere, name, hmoves⟩, hmoves⟩
    · refine .inl ⟨rfl, hthere, ?_⟩
      rintro ⟨_, new, hnew⟩
      rw [hstays] at hnew
      cases hnew

theorem contributors_eq (g : Graph) (name : String) :
    g.contributors table.resolve name =
      if g.contains (table.source name) = true then [table.source name] else [] := by
  have hmem : ∀ id, id ∈ g.contributors table.resolve name ↔
      id ∈ if g.contains (table.source name) = true then [table.source name] else [] := by
    intro id
    rw [h.mem_contributors_iff]
    split
    · next hthere =>
      rw [List.mem_singleton]
      constructor
      · exact fun hid => hid.2.symm
      · rintro rfl
        exact ⟨hthere, rfl⟩
    · next hthere =>
      constructor
      · rintro ⟨hid, rfl⟩
        exact absurd hid hthere
      · exact fun hid => nomatch hid
  have hperm := (List.perm_ext_iff_of_nodup (g.nodup_contributors table.resolve name)
    (by split <;> simp)).mpr hmem
  split at hperm
  · next hthere => rw [if_pos hthere, List.perm_singleton.mp hperm]
  · next hthere => rw [if_neg hthere, List.perm_nil.mp hperm]

/-- After renaming by a permutation, each name has the interface that the name which the table gives
to it had before. -/
theorem find?_rename (g : Graph) (bindingNames : Bool) (name : String) :
    (g.rename table bindingNames).1.find? name =
      (g.find? (table.source name)).map fun i =>
        (if table.source name = name then i
          else i.relocated (table.source name) name bindingNames).mapTypes
            (TypeName.rename table.resolve) := by
  rw [Graph.find?_rename, Graph.gathered, h.contributors_eq]
  cases hfind : g.find? (table.source name) with
  | none =>
      have hnone : g.contains (table.source name) = false := Graph.find?_eq_none_iff.mp hfind
      rw [hnone]
      rfl
  | some i =>
      have hsome : g.contains (table.source name) = true := Graph.contains_iff.mpr ⟨i, hfind⟩
      simp [hsome, hfind]

theorem size_rename (g : Graph) (bindingNames : Bool) :
    (g.rename table bindingNames).1.size = g.size := by
  have hlength : ∀ g : Graph, g.size = g.ids.length := fun g => (List.length_map _).symm
  have hcontains : ∀ name, (g.rename table bindingNames).1.contains name =
      g.contains (table.source name) := by
    intro name
    rw [Bool.eq_iff_iff, Graph.contains_iff, Graph.contains_iff, h.find?_rename]
    simp
  have hnodup : ((g.rename table bindingNames).1.ids.map table.source).Nodup :=
    List.Nodup.map (fun _ _ => h.source_inj) (Graph.nodup_ids _)
  have hperm : ((g.rename table bindingNames).1.ids.map table.source).Perm g.ids := by
    refine (List.perm_ext_iff_of_nodup hnodup g.nodup_ids).mpr fun id => ?_
    simp only [List.mem_map, Graph.mem_ids_iff, hcontains]
    constructor
    · rintro ⟨name, hname, rfl⟩
      exact hname
    · intro hid
      obtain ⟨name, rfl⟩ := h.exists_source id
      exact ⟨name, hid, rfl⟩
  rw [hlength, hlength, ← hperm.length_eq, List.length_map]

end RenameTable.Permutes

/-! ### Places that are free -/

/-- Interfaces that move to different names, none of which is taken, are all renamed. -/
theorem Graph.outcomes_attachAll (bindingNames : Bool) {g : Graph} {moves : List Move}
    (hfree : ∀ m ∈ moves, g.contains m.new = false)
    (hnodup : (moves.map (·.new)).Nodup) :
    (attachAll bindingNames g moves).2 = moves.map fun m => .renamed m.old m.new := by
  induction moves generalizing g with
  | nil => rfl
  | cons m rest ih =>
      rw [List.map_cons, List.nodup_cons] at hnodup
      have hrest : ∀ x ∈ rest, (m.attach bindingNames g).contains x.new = false := by
        intro x hx
        have hne : x.new ≠ m.new := fun heq => hnodup.1 (heq ▸ List.mem_map_of_mem hx)
        rw [← find?_eq_none_iff, find?_attach, if_neg hne, find?_eq_none_iff]
        exact hfree x (List.mem_cons_of_mem _ hx)
      have hm := hfree m List.mem_cons_self
      show (if g.contains m.new = true then Renaming.merged m.old m.new
        else .renamed m.old m.new) :: (attachAll bindingNames (m.attach bindingNames g) rest).2 = _
      rw [ih hrest hnodup.2, hm]
      rfl

namespace RenameTable.Permutes

variable {table : RenameTable} (h : table.Permutes)

include h

/-- Whatever moves finds its new name free: what had the name has moved as well. -/
theorem contains_detach {g : Graph} {m : Move} (hm : m ∈ g.moves table.resolve) :
    (g.detach (g.moves table.resolve)).contains m.new = false := by
  obtain ⟨hentry, _⟩ := Graph.mem_moves_iff.mp hm
  obtain ⟨hold, hne⟩ := h.find?_resolve_iff.mp hentry
  rw [← Graph.find?_eq_none_iff, Graph.find?_detach_moves]
  split
  · rfl
  · next hstays =>
    rw [Graph.mem_moving_iff, not_and] at hstays
    rw [Graph.find?_eq_none_iff, ← Bool.not_eq_true]
    intro hthere
    exact hstays hthere (h.exists_find?_resolve_iff.mpr ⟨m.old, hold, hne.symm⟩)

theorem nodup_new_moves (g : Graph) : ((g.moves table.resolve).map (·.new)).Nodup := by
  have hold : ((g.moves table.resolve).map (·.old)).Nodup := by
    rw [Graph.map_old_moves]
    exact table.resolve.nodup_keys.filter _
  refine List.pairwise_map.mpr ((List.pairwise_map.mp hold).imp_of_mem fun hm hm' hne hsame => ?_)
  obtain ⟨hfind, _⟩ := h.find?_resolve_iff.mp (Graph.mem_moves_iff.mp hm).1
  obtain ⟨hfind', _⟩ := h.find?_resolve_iff.mp (Graph.mem_moves_iff.mp hm').1
  rw [hsame, hfind'] at hfind
  exact hne (Option.some.inj hfind).symm

theorem outcomes_rename (g : Graph) (bindingNames : Bool) :
    (g.rename table bindingNames).2 =
      (g.moving table.resolve).map fun old => .renamed old (table.target old) := by
  have houtcomes := Graph.outcomes_attachAll bindingNames
    (fun m hm => h.contains_detach hm) (h.nodup_new_moves g)
  rw [← Graph.map_old_moves, List.map_map]
  refine houtcomes.trans (List.map_congr_left fun m hm => ?_)
  obtain ⟨_, htarget, _⟩ := find?_resolve_eq_some.mp (Graph.mem_moves_iff.mp hm).1
  rw [Function.comp_apply, htarget]

end RenameTable.Permutes

namespace Graph

/-- By a table that permutes its names nothing is merged and no interface is lost.  The interfaces
of names that the table does not keep move, each to the name to which the table gives its own, so
different ones to different names of the table; they change their identifiers, binding names and
types, and nothing else.  All other interfaces stay. -/
theorem rename_permutes (g : Graph) (bindingNames : Bool) {table : RenameTable}
    (h : table.Permutes) :
    (g.rename table bindingNames).2 =
        (g.moving table.resolve).map (fun old => .renamed old (table.target old)) ∧
      (g.rename table bindingNames).1.size = g.size ∧
      (∀ old, old ∈ g.moving table.resolve ↔
        g.contains old = true ∧ ∃ next, table.find? old = some next ∧ next ≠ old) ∧
      (∀ old ∈ g.moving table.resolve,
        table.target old ∈ table.keys ∧ table.find? (table.target old) = some old) ∧
      (∀ old ∈ g.moving table.resolve, ∀ other ∈ g.moving table.resolve,
        table.target old = table.target other → old = other) ∧
      (∀ old ∈ g.moving table.resolve, ∀ i, g.find? old = some i →
        (g.rename table bindingNames).1.find? (table.target old) =
          some ((i.relocated old (table.target old) bindingNames).mapTypes
            (TypeName.rename table.resolve))) ∧
      (∀ name, name ∉ g.moving table.resolve → ∀ i, g.find? name = some i →
        (g.rename table bindingNames).1.find? name =
          some (i.mapTypes (TypeName.rename table.resolve))) := by
  have hmoving : ∀ old ∈ g.moving table.resolve,
      table.resolve.find? old = some (table.target old) := by
    intro old hold
    obtain ⟨_, new, hnew⟩ := mem_moving_iff.mp hold
    obtain ⟨_, rfl, _⟩ := RenameTable.find?_resolve_eq_some.mp hnew
    exact hnew
  have htarget : ∀ old ∈ g.moving table.resolve,
      table.find? (table.target old) = some old ∧ table.target old ≠ old :=
    fun old hold => h.find?_resolve_iff.mp (hmoving old hold)
  refine ⟨h.outcomes_rename g bindingNames, h.size_rename g bindingNames,
    ?_, ?_, ?_, ?_, ?_⟩
  · intro old
    rw [mem_moving_iff, h.exists_find?_resolve_iff]
  · intro old hold
    have hfind := (htarget old hold).1
    exact ⟨SortedMap.mem_keys_iff.mpr (SortedMap.contains_iff.mpr ⟨old, hfind⟩), hfind⟩
  · intro old hold other hother hsame
    have hfind := (htarget old hold).1
    rw [hsame, (htarget other hother).1] at hfind
    exact (Option.some.inj hfind).symm
  · intro old hold i hi
    have hsource : table.source (table.target old) = old :=
      h.source_eq_iff.mpr (.inl (hmoving old hold))
    have hne : old ≠ table.target old := (htarget old hold).2.symm
    rw [h.find?_rename, hsource, hi, Option.map_some, if_neg hne]
  · intro name hname i hi
    have hstays : table.resolve.find? name = none := by
      rw [Option.eq_none_iff_forall_ne_some]
      exact fun new hnew => hname (mem_moving_iff.mpr ⟨contains_iff.mpr ⟨i, hi⟩, new, hnew⟩)
    have hsource : table.source name = name := h.source_eq_iff.mpr (.inr ⟨rfl, hstays⟩)
    rw [h.find?_rename, hsource, hi, Option.map_some, if_pos rfl]

/-- A circle of three names, one of two, and a name that is kept. -/
def shapeTable : RenameTable :=
  SortedMap.ofList [("Circle", "Line"), ("Line", "Point"), ("Point", "Circle"), ("Path", "Shape"),
    ("Shape", "Path"), ("Node", "Node")]

/-- Interfaces of some of these names, and one of another name that mentions two of them. -/
def shapeGraph : Graph :=
  [{ id := "Circle", parents := [{ type := "Shape" }] }, { id := "Line", module := some "svg" },
    { id := "Node" }, { id := "Shape" },
    { id := "Text", operations := [{ id := "outline", type := "sequence<svg::Line>" }] }].foldl
      Graph.add Graph.empty

theorem rename_permutes_shapes :
    shapeTable.Permutes ∧
      (shapeGraph.rename shapeTable false).2 =
        [.renamed "Circle" "Point", .renamed "Line" "Circle", .renamed "Shape" "Path"] ∧
      (shapeGraph.rename shapeTable false).1.size = 5 ∧
      (shapeGraph.rename shapeTable false).1.find? "Circle" =
        some { id := "Circle", module := some "svg", jsName := some "Line" } ∧
      (shapeGraph.rename shapeTable false).1.find? "Text" = some
        { id := "Text", operations := [{ id := "outline", type := "sequence<Circle>" }] } := by
  have hpermutes : shapeTable.Permutes := by decide +kernel
  obtain ⟨houtcomes, hsize, _, _, _, hmoved, hstays⟩ :=
    rename_permutes shapeGraph false hpermutes
  refine ⟨hpermutes, houtcomes.trans (by decide +kernel), hsize, ?_, ?_⟩
  · exact (hmoved "Line" (by decide +kernel) _ rfl).trans (by decide +kernel)
  · exact (hstays "Text" (by decide +kernel) _ rfl).trans (by decide +kernel)

end Graph

end Bindery
