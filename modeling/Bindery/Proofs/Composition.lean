import Bindery.Proofs.TypeName

/-! # Renaming types twice

Two tables between words compose into one (`RenameTable.andThen`).  A second renaming has to take
the text apart that the first one made.  If names are words, it finds the renamed parts there
(`RenameTable.Words.split?_rename`), because no entry can stand for an application and no new name
brings in a bracket or a module.  So renaming twice is renaming once by the composed table:
`RenameTable.rename_andThen`. -/

namespace Bindery

namespace RenameTable

variable {table first second : RenameTable} {t outer inner : TypeName}

/-- The table that renames by a first table and then by a second one. -/
def andThen (first second : RenameTable) : RenameTable :=
  second.insertAll (first.mapValues fun _ new => (second.find? new).getD new).entries

theorem find?_andThen (first second : RenameTable) (key : String) :
    (first.andThen second).find? key =
      match first.find? key with
      | some new => some ((second.find? new).getD new)
      | none => second.find? key := by
  rw [andThen, SortedMap.find?_insertAll_entries, SortedMap.find?_mapValues]
  cases first.find? key <;> rfl

/-- The keys and the targets of a table are words. -/
structure Words (table : RenameTable) : Prop where
  plain_key {old new : String} : table.find? old = some new → TypeName.Plain old
  plain_target {old new : String} : table.find? old = some new → TypeName.Plain new

theorem words_of_entries (h : ∀ e ∈ table.entries, TypeName.Plain e.1 ∧ TypeName.Plain e.2) :
    table.Words where
  plain_key hfind := (h _ (SortedMap.find?_eq_some_iff.mp hfind)).1
  plain_target hfind := (h _ (SortedMap.find?_eq_some_iff.mp hfind)).2

theorem Words.andThen (hfirst : first.Words) (hsecond : second.Words) :
    (first.andThen second).Words := by
  have hentry : ∀ {old new}, (first.andThen second).find? old = some new →
      TypeName.Plain old ∧ TypeName.Plain new := by
    intro old new hfind
    rw [find?_andThen] at hfind
    cases hold : first.find? old with
    | none =>
        rw [hold] at hfind
        exact ⟨hsecond.plain_key hfind, hsecond.plain_target hfind⟩
    | some middle =>
        rw [hold] at hfind
        cases hfind
        refine ⟨hfirst.plain_key hold, ?_⟩
        cases hmiddle : second.find? middle with
        | none => exact hfirst.plain_target hold
        | some last => exact hsecond.plain_target hmiddle
  exact ⟨fun hfind => (hentry hfind).1, fun hfind => (hentry hfind).2⟩

/-! ### Parts of a renamed type -/

theorem Words.find?_of_lt_mem (h : table.Words) (hlt : '<' ∈ t.toList) :
    table.find? (TypeName.unqualified t) = none := by
  rw [Option.eq_none_iff_forall_ne_some]
  intro new hfind
  exact (h.plain_key hfind).isHead.lt_notMem (TypeName.lt_mem_unqualified hlt)

/-- An application is renamed part by part. -/
theorem Words.rename_of_split? (h : table.Words)
    (hsplit : TypeName.split? t = some (outer, inner)) :
    TypeName.rename table t =
      TypeName.rename table outer ++ "<" ++ TypeName.rename table inner ++ ">" := by
  have hlt : '<' ∈ t.toList := by
    rw [(TypeName.split?_eq_some_iff.mp hsplit).1]
    simp
  rw [TypeName.rename_eq, h.find?_of_lt_mem hlt, hsplit]

/-- A renamed application is taken apart into the renamed parts. -/
theorem Words.split?_rename (h : table.Words)
    (hsplit : TypeName.split? t = some (outer, inner)) :
    TypeName.split? (TypeName.rename table t) =
      some (TypeName.rename table outer, TypeName.rename table inner) := by
  obtain ⟨_, houter, hinner⟩ := TypeName.split?_eq_some_iff.mp hsplit
  exact TypeName.split?_eq_some_iff.mpr
    ⟨h.rename_of_split? hsplit, houter.rename h.plain_target, hinner.rename h.plain_target⟩

theorem rename_of_split?_eq_none (hsplit : TypeName.split? t = none) :
    TypeName.rename table t = (table.find? (TypeName.unqualified t)).getD t := by
  rw [TypeName.rename_eq, hsplit]
  cases table.find? (TypeName.unqualified t) <;> rfl

theorem rename_of_plain (ht : TypeName.Plain t) :
    TypeName.rename table t = (table.find? t).getD t := by
  rw [rename_of_split?_eq_none (TypeName.split?_of_lt_notMem ht.isHead.lt_notMem),
    TypeName.unqualified_of_colon_notMem ht.colon_notMem]

theorem rename_andThen (hfirst : first.Words) (hsecond : second.Words) (t : TypeName) :
    TypeName.rename second (TypeName.rename first t) = TypeName.rename (first.andThen second) t := by
  induction hlength : t.length using Nat.strongRecOn generalizing t with
  | ind n ih =>
      cases hsplit : TypeName.split? t with
      | some parts =>
          obtain ⟨outer, inner⟩ := parts
          have hshort := TypeName.length_of_split? hsplit
          rw [hsecond.rename_of_split? (hfirst.split?_rename hsplit),
            (hfirst.andThen hsecond).rename_of_split? hsplit, ih outer.length (by omega) outer rfl,
            ih inner.length (by omega) inner rfl]
      | none =>
          rw [rename_of_split?_eq_none hsplit, rename_of_split?_eq_none hsplit, find?_andThen]
          cases hfind : first.find? (TypeName.unqualified t) with
          | some new => rw [Option.getD_some, rename_of_plain (hfirst.plain_target hfind)]; rfl
          | none => rw [Option.getD_none, rename_of_split?_eq_none hsplit]

/-- Tables between words compose.  The composed table sends a key of the first one to where the
second one sends its target, if the target is a key there, and to the target otherwise; it sends any
other key to where the second one does.  Renaming a type by it is renaming by the first table and
then by the second one.  Moreover a table between words renames an application part by part, and
the parts are found again in what comes out. -/
theorem renaming_composes (hfirst : first.Words) (hsecond : second.Words) :
    (∀ key, (first.andThen second).find? key =
      match first.find? key with
      | some new => some ((second.find? new).getD new)
      | none => second.find? key) ∧
    (first.andThen second).Words ∧
    ∀ t, TypeName.rename second (TypeName.rename first t) =
        TypeName.rename (first.andThen second) t ∧
      ∀ outer inner, TypeName.split? t = some (outer, inner) →
        ∀ table : RenameTable, table.Words →
          TypeName.rename table t =
              TypeName.rename table outer ++ "<" ++ TypeName.rename table inner ++ ">" ∧
            TypeName.split? (TypeName.rename table t) =
              some (TypeName.rename table outer, TypeName.rename table inner) := by
  refine ⟨find?_andThen first second, hfirst.andThen hsecond, fun t => ?_⟩
  refine ⟨rename_andThen hfirst hsecond t, fun outer inner hsplit table htable => ?_⟩
  exact ⟨htable.rename_of_split? hsplit, htable.split?_rename hsplit⟩

/-- The second table renames a target of the first one and a container, and not the other target,
which the first one renames. -/
def shift : RenameTable × RenameTable :=
  (SortedMap.ofList [("Attr", "Node"), ("Node", "Element")],
    SortedMap.ofList [("Element", "Item"), ("sequence", "List")])

theorem renaming_composes_shift :
    (shift.1.andThen shift.2).entries =
        [("Attr", "Node"), ("Element", "Item"), ("Node", "Item"), ("sequence", "List")] ∧
      TypeName.rename shift.2 (TypeName.rename shift.1 "idl::sequence<Map<dom::Node>>") =
        TypeName.rename (shift.1.andThen shift.2) "idl::sequence<Map<dom::Node>>" ∧
      TypeName.rename (shift.1.andThen shift.2) "idl::sequence<Map<dom::Node>>" =
        "List<Map<Item>>" ∧
      TypeName.split? (TypeName.rename shift.1 "idl::sequence<Map<dom::Node>>") =
        some (TypeName.rename shift.1 "idl::sequence", TypeName.rename shift.1 "Map<dom::Node>") := by
  have hfirst : shift.1.Words := words_of_entries (by decide +kernel)
  have hsecond : shift.2.Words := words_of_entries (by decide +kernel)
  obtain ⟨_, _, htypes⟩ := renaming_composes hfirst hsecond
  obtain ⟨htwice, hparts⟩ := htypes "idl::sequence<Map<dom::Node>>"
  refine ⟨by decide +kernel, htwice, by decide +kernel, ?_⟩
  exact (hparts "idl::sequence" "Map<dom::Node>" (by decide +kernel) shift.1 hfirst).2

end RenameTable

end Bindery
