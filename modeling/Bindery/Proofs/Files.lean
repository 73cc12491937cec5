import Bindery.File.Output
import Bindery.Proofs.SortedMap

/-! # What writing changes

Writing makes directories and takes none away (`FileTree.Grows`), so that a path keeps leading where
it led.  One file that is written is one entry of the tree (`FileTree.exists_of_put`), and from this
`Output.Wrote` says what comes of many: the tree has the listed files with the texts of the units,
and every other file as it was. -/

namespace Bindery

namespace FileTree

variable {t u v : FileTree} {p : Path} {place : Location} {content : String}

/-! ### Trees that grow -/

/-- A tree has all directories of another one, and the same working directory. -/
structure Grows (t u : FileTree) : Prop where
  working_eq : u.working = t.working
  isDirectory : ∀ place, t.isDirectory place = true → u.isDirectory place = true

theorem Grows.refl (t : FileTree) : t.Grows t :=
  ⟨rfl, fun _ h => h⟩

theorem Grows.trans (h : t.Grows u) (h' : u.Grows v) : t.Grows v :=
  ⟨h'.working_eq.trans h.working_eq, fun place hplace =>
    h'.isDirectory place (h.isDirectory place hplace)⟩

theorem Grows.follow (h : t.Grows u) {cs : List Component} {start : Location}
    (hfollow : t.follow start cs = some place) : u.follow start cs = some place := by
  induction cs generalizing start with
  | nil => exact hfollow
  | cons c rest ih =>
      rw [FileTree.follow] at hfollow ⊢
      split at hfollow
      · next hpass =>
        rw [Bool.and_eq_true] at hpass
        rw [if_pos (by simp [h.isDirectory start hpass.1, hpass.2])]
        exact ih hfollow
      · cases hfollow

theorem Grows.locate? (h : t.Grows u) (hlocate : t.locate? p = some place) :
    u.locate? p = some place := by
  unfold FileTree.locate? at hlocate ⊢
  split at hlocate
  · next husable =>
    rw [if_pos husable, h.working_eq]
    exact h.follow hlocate
  · cases hlocate

theorem grows_addDirectory (t : FileTree) (place : Location) : t.Grows (t.addDirectory place) := by
  unfold addDirectory
  split
  · exact .refl t
  · refine ⟨rfl, fun other hother => ?_⟩
    unfold isDirectory at hother ⊢
    rw [Bool.or_eq_true] at hother ⊢
    refine hother.imp_right fun hcontains => ?_
    rw [SortedMap.contains_iff, SortedMap.find?_insert]
    split
    · exact ⟨(), rfl⟩
    · exact SortedMap.contains_iff.mp hcontains

theorem files_addDirectory (t : FileTree) (place : Location) :
    (t.addDirectory place).files = t.files := by
  unfold addDirectory
  split <;> rfl

theorem read?_eq_some_iff :
    t.read? p = some content ↔
      namesDirectory p = false ∧ ∃ place, t.locate? p = some place ∧
        t.files.find? place = some content := by
  unfold read?
  cases namesDirectory p <;> simp [Option.bind_eq_some_iff]

/-! ### One file -/

/-- Making directories leaves the files as they are. -/
theorem makeDirectories_spec {cs : List Component} {start : Location} {made : Bool}
    (h : t.makeDirectories start cs = (u, made)) : t.Grows u ∧ u.files = t.files := by
  induction cs generalizing t start with
  | nil =>
      cases h
      exact ⟨.refl _, rfl⟩
  | cons c rest ih =>
      rw [makeDirectories] at h
      split at h
      · cases h
        exact ⟨.refl _, rfl⟩
      · obtain ⟨hgrows, hfiles⟩ := ih h
        exact ⟨(grows_addDirectory t _).trans hgrows, hfiles.trans (files_addDirectory t _)⟩

/-- A file that was written is where its path leads, and the only one that has changed. -/
theorem exists_of_put (h : t.put p content = (u, true)) :
    ∃ place, u.locate? p = some place ∧ namesDirectory p = false ∧
      u.files = t.files.insert place content ∧ t.Grows u := by
  unfold put at h
  split at h
  · split at h
    · cases h
    · next made hmade =>
      obtain ⟨hgrows, hfiles⟩ := makeDirectories_spec hmade
      unfold write? at h
      split at h
      · next after hafter =>
        cases h
        split at hafter
        · cases hafter
        · next hnames =>
          split at hafter
          · cases hafter
          · next place hplace =>
            split at hafter
            · cases hafter
            · cases hafter
              have hsame : made.Grows { made with files := made.files.insert place content } :=
                ⟨rfl, fun _ hdirectory => hdirectory⟩
              refine ⟨place, hsame.locate? hplace, by simpa using hnames, ?_, hgrows.trans hsame⟩
              rw [hfiles]
      · cases h
  · cases h

end FileTree

/-! ### Many files -/

namespace Output

open FileTree

/-- Units were written below a directory: the files are those of their paths, each has the text of a
unit that leads there, and no other file has changed. -/
structure Wrote (units : List Emission) (root : Path) (before after : FileTree)
    (files : List Path) : Prop where
  files_eq : files = units.map fun unit => root.join unit.path
  written : ∀ p ∈ files, ∃ unit ∈ units,
    after.locate? (root.join unit.path) = after.locate? p ∧ after.read? p = some unit.text
  kept : ∀ place, (∀ p ∈ files, after.locate? p ≠ some place) →
    after.files.find? place = before.files.find? place

variable {units : List Emission} {root : Path} {before after : FileTree} {files : List Path}

theorem exists_of_writeAll_cons {unit : Emission}
    (h : writeAll before root (unit :: units) = (after, .ok files)) :
    ∃ between others, before.put (root.join unit.path) unit.text = (between, true) ∧
      writeAll between root units = (after, .ok others) ∧
      files = root.join unit.path :: others := by
  rw [writeAll] at h
  rcases hput : before.put (root.join unit.path) unit.text with ⟨between, made⟩
  rcases hrest : writeAll between root units with ⟨last, written⟩
  simp only [hput, hrest] at h
  cases made with
  | false => simp at h
  | true =>
      obtain ⟨rfl, hfiles⟩ := Prod.mk.inj h
      cases written with
      | error e => simp [Except.map] at hfiles
      | ok others => exact ⟨between, others, rfl, hrest, (Except.ok.inj hfiles).symm⟩

theorem grows_of_writeAll (h : writeAll before root units = (after, .ok files)) :
    before.Grows after := by
  induction units generalizing before files with
  | nil =>
      cases h
      exact .refl _
  | cons unit rest ih =>
      obtain ⟨between, others, hput, hrest, _⟩ := exists_of_writeAll_cons h
      obtain ⟨_, _, _, _, hgrows⟩ := exists_of_put hput
      exact hgrows.trans (ih hrest)

theorem Wrote.cons {unit : Emission} {between : FileTree} {others : List Path}
    (hput : before.put (root.join unit.path) unit.text = (between, true))
    (hgrows : between.Grows after) (h : Wrote units root between after others) :
    Wrote (unit :: units) root before after (root.join unit.path :: others) := by
  obtain ⟨place, hbetween, hnames, hfiles, _⟩ := exists_of_put hput
  have hplace : after.locate? (root.join unit.path) = some place := hgrows.locate? hbetween
  have hread : ∀ {text}, after.files.find? place = some text →
      after.read? (root.join unit.path) = some text :=
    fun htext => read?_eq_some_iff.mpr ⟨hnames, place, hplace, htext⟩
  refine ⟨by rw [h.files_eq, List.map_cons], ?_, ?_⟩
  · intro p hp
    rcases List.mem_cons.mp hp with rfl | hp
    · -- the file has this text unless a later unit leads to the same place
      by_cases hlater : ∃ q ∈ others, after.locate? q = some place
      · obtain ⟨q, hq, hqplace⟩ := hlater
        obtain ⟨other, hother, hsame, htext⟩ := h.written q hq
        obtain ⟨_, place', hplace', htext⟩ := read?_eq_some_iff.mp htext
        rw [hqplace] at hplace'
        cases hplace'
        exact ⟨other, List.mem_cons_of_mem _ hother, by rw [hsame, hqplace, hplace], hread htext⟩
      · refine ⟨unit, List.mem_cons_self, rfl, hread ?_⟩
        rw [h.kept place fun q hq hqplace => hlater ⟨q, hq, hqplace⟩, hfiles,
          SortedMap.find?_insert, if_pos rfl]
    · obtain ⟨other, hother, hwritten⟩ := h.written p hp
      exact ⟨other, List.mem_cons_of_mem _ hother, hwritten⟩
  · intro other hother
    have hne : other ≠ place := fun hsame => hother _ List.mem_cons_self (hsame ▸ hplace)
    rw [h.kept other fun q hq => hother q (List.mem_cons_of_mem _ hq), hfiles,
      SortedMap.find?_insert, if_neg hne]

theorem wrote_of_writeAll (h : writeAll before root units = (after, .ok files)) :
    Wrote units root before after files := by
  induction units generalizing before files with
  | nil =>
      cases h
      exact ⟨rfl, by simp, fun _ _ => rfl⟩
  | cons unit rest ih =>
      obtain ⟨between, others, hput, hrest, rfl⟩ := exists_of_writeAll_cons h
      exact (ih hrest).cons hput (grows_of_writeAll hrest)

end Output

end Bindery
