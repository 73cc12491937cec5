import Bindery.Proofs.TypeName
import Bindery.Unit

/-! # Paths of units

A path that leads inward adds its components to those of the path that it is joined to
(`Path.components_join`), so a unit lies below the directory of the base package
(`Java.components_contractPackage`, `Java.components_overlayPackage`).  An identifier with slashes
makes an overlay class lie deeper, so that its file is not the one of any identifier that is a word
(`Java.overlayFile_inj`). -/

namespace Bindery

namespace Path

/-! ### Pieces -/

theorem pieces_ne_nil (separator : Char) (cs : List Char) : pieces separator cs ≠ [] := by
  cases cs with
  | nil => simp [pieces]
  | cons c rest =>
      rw [pieces]
      split
      · simp
      · split <;> simp

theorem pieces_cons_of_ne {separator c : Char} (h : c ≠ separator) (rest : List Char) :
    ∃ piece others, pieces separator rest = piece :: others ∧
      pieces separator (c :: rest) = (c :: piece) :: others := by
  cases hrest : pieces separator rest with
  | nil => exact absurd hrest (pieces_ne_nil separator rest)
  | cons piece others => exact ⟨piece, others, rfl, by rw [pieces, if_neg h, hrest]⟩

theorem pieces_append (separator : Char) (first rest : List Char) :
    pieces separator (first ++ separator :: rest) =
      pieces separator first ++ pieces separator rest := by
  induction first with
  | nil => simp [pieces]
  | cons c cs ih =>
      by_cases hc : c = separator
      · rw [List.cons_append, pieces, if_pos hc, ih, pieces, if_pos hc, List.cons_append]
      · obtain ⟨piece, others, hcs, hcons⟩ := pieces_cons_of_ne hc cs
        rw [hcons, List.cons_append, pieces, if_neg hc, ih, hcs]
        rfl

theorem pieces_of_notMem {separator : Char} {cs : List Char} (h : separator ∉ cs) :
    pieces separator cs = [cs] := by
  induction cs with
  | nil => rfl
  | cons c rest ih =>
      rw [List.mem_cons, not_or] at h
      rw [pieces, if_neg (Ne.symm h.1), ih h.2]

theorem exists_mem_pieces {separator c : Char} {cs : List Char} (hc : c ∈ cs)
    (hne : c ≠ separator) : ∃ piece ∈ pieces separator cs, c ∈ piece := by
  induction cs with
  | nil => cases hc
  | cons first rest ih =>
      by_cases hfirst : first = separator
      · have hrest : c ∈ rest := (List.mem_cons.mp hc).resolve_left fun h => hne (h.trans hfirst)
        obtain ⟨piece, hpiece, hmem⟩ := ih hrest
        rw [pieces, if_pos hfirst]
        exact ⟨piece, List.mem_cons_of_mem _ hpiece, hmem⟩
      · obtain ⟨head, others, hrest, hcons⟩ := pieces_cons_of_ne hfirst rest
        rw [hcons]
        rcases List.mem_cons.mp hc with rfl | hc
        · exact ⟨_, List.mem_cons_self, List.mem_cons_self⟩
        · obtain ⟨piece, hpiece, hmem⟩ := ih hc
          rw [hrest] at hpiece
          rcases List.mem_cons.mp hpiece with rfl | hpiece
          · exact ⟨_, List.mem_cons_self, List.mem_cons_of_mem _ hmem⟩
          · exact ⟨piece, List.mem_cons_of_mem _ hpiece, hmem⟩

/-! ### Components -/

theorem component?_of_mem {piece : List Char} {c : Char} (hc : c ∈ piece) (hdot : c ≠ '.') :
    component? piece = some (.name (String.ofList piece)) := by
  unfold component?
  split
  · cases hc
  · exact absurd (List.mem_singleton.mp hc) hdot
  · simp [hdot] at hc
  · rfl

theorem filterMap_component?_ne_nil {cs : List Char} {c : Char} (hc : c ∈ cs) (hslash : c ≠ '/')
    (hdot : c ≠ '.') : (pieces '/' cs).filterMap component? ≠ [] := by
  obtain ⟨piece, hpiece, hmem⟩ := exists_mem_pieces hc hslash
  exact List.ne_nil_of_mem
    (List.mem_filterMap.mpr ⟨piece, hpiece, component?_of_mem hmem hdot⟩)

/-- The components of a path that does not start at the root, from its pieces. -/
def relativeComponents : List (List Char) → List Component
  | ['.'] :: others => .current :: others.filterMap component?
  | all => all.filterMap component?

theorem relativeComponents_append {first : List (List Char)} (h : first ≠ [])
    (rest : List (List Char)) :
    relativeComponents (first ++ rest) = relativeComponents first ++ rest.filterMap component? := by
  obtain ⟨piece, others, rfl⟩ := List.exists_cons_of_ne_nil h
  by_cases hpiece : piece = ['.']
  · subst hpiece
    simp [relativeComponents]
  · have hall : ∀ more, relativeComponents (piece :: more) = (piece :: more).filterMap component? :=
      fun more => relativeComponents.eq_2 _ fun _ heq => hpiece (List.cons.inj heq).1
    rw [List.cons_append, hall, hall, ← List.cons_append, List.filterMap_append]

theorem components_slash (rest : List Char) :
    components ⟨String.ofList ('/' :: rest)⟩ = .root :: (pieces '/' rest).filterMap component? := by
  simp [components]

theorem components_of_ne {c : Char} (hc : c ≠ '/') (rest : List Char) :
    components ⟨String.ofList (c :: rest)⟩ = relativeComponents (pieces '/' (c :: rest)) := by
  unfold components
  simp only [String.toList_ofList]
  split
  · next heq => exact absurd (List.cons.inj heq).1 hc
  · rfl

/-- What follows a slash adds the components between its own slashes. -/
theorem components_append {first : List Char} (h : first ≠ []) (rest : List Char) :
    components ⟨String.ofList (first ++ '/' :: rest)⟩ =
      components ⟨String.ofList first⟩ ++ (pieces '/' rest).filterMap component? := by
  obtain ⟨c, cs, rfl⟩ := List.exists_cons_of_ne_nil h
  by_cases hc : c = '/'
  · subst hc
    rw [components_slash, List.cons_append, components_slash, pieces_append, List.filterMap_append,
      List.cons_append]
  · rw [components_of_ne hc, List.cons_append, components_of_ne hc, ← List.cons_append,
      pieces_append, relativeComponents_append (pieces_ne_nil _ _)]

theorem components_slash_append (front rest : List Char) :
    components ⟨String.ofList (front ++ '/' :: rest)⟩ =
      components ⟨String.ofList (front ++ ['/'])⟩ ++ (pieces '/' rest).filterMap component? := by
  have hnil : (pieces '/' []).filterMap component? = [] := rfl
  by_cases hfront : front = []
  · rw [hfront, List.nil_append, List.nil_append, components_slash, components_slash, hnil]
    rfl
  · rw [components_append hfront, components_append hfront, hnil, List.append_nil]

/-! ### Joined paths -/

/-- A path that starts with a character of a name, and so leads below the path that it is joined
to. -/
def LeadsInward (q : Path) : Prop :=
  ∃ c ∈ q.text.toList.head?, c ≠ '/' ∧ c ≠ '.'

theorem LeadsInward.components_eq {q : Path} (h : q.LeadsInward) :
    q.components = (pieces '/' q.text.toList).filterMap component? := by
  obtain ⟨c, hc, hslash, hdot⟩ := h
  obtain ⟨rest, hrest⟩ := List.head?_eq_some_iff.mp hc
  obtain ⟨piece, others, _, hcons⟩ := pieces_cons_of_ne hslash rest
  have htext : q = ⟨String.ofList (c :: rest)⟩ := by rw [← hrest, String.ofList_toList]
  rw [hrest, htext, components_of_ne hslash, hcons]
  exact relativeComponents.eq_2 _ fun _ heq => hdot (List.cons.inj (List.cons.inj heq).1).1

theorem components_join (p : Path) {q : Path} (hq : q.LeadsInward) :
    (p.join q).components = p.components ++ q.components := by
  have habsolute : q.isAbsolute = false := by
    obtain ⟨c, hc, hslash, _⟩ := hq
    simp [isAbsolute, Option.mem_def.mp hc, hslash]
  obtain ⟨cs, rfl⟩ : ∃ cs, p = ⟨String.ofList cs⟩ := ⟨p.text.toList, by rw [String.ofList_toList]⟩
  unfold join
  rw [hq.components_eq]
  by_cases hempty : cs = []
  · subst hempty
    rw [if_pos (.inr rfl), hq.components_eq]
    rfl
  · rw [if_neg (by simp [habsolute, hempty])]
    split
    · -- the path ends with a slash, which divides it from what follows
      next hlast =>
      rw [String.toList_ofList] at hlast
      obtain ⟨front, rfl⟩ := List.getLast?_eq_some_iff.mp hlast
      rw [← components_slash_append]
      congr 2
      apply String.toList_inj.mp
      simp
    · rw [← components_append hempty]
      congr 2
      apply String.toList_inj.mp
      simp

/-- A path without slashes is one name. -/
theorem LeadsInward.components_of_notMem {q : Path} (h : q.LeadsInward)
    (hslash : '/' ∉ q.text.toList) : q.components = [.name q.text] := by
  rw [h.components_eq, pieces_of_notMem hslash]
  obtain ⟨c, hc, _, hdot⟩ := h
  rw [List.filterMap_cons, component?_of_mem (List.mem_of_mem_head? hc) hdot, String.ofList_toList]
  rfl

theorem leadsInward_append {first : String} {c : Char} (hc : c ∈ first.toList.head?)
    (hslash : c ≠ '/') (hdot : c ≠ '.') (rest : String) : LeadsInward ⟨first ++ rest⟩ := by
  refine ⟨c, ?_, hslash, hdot⟩
  rw [String.toList_append, List.head?_append, Option.mem_def.mp hc]
  rfl

end Path

/-! ### Words -/

namespace TypeName.Plain

variable {name : String}

theorem notMem (h : Plain name) {c : Char} (hc : Text.isWord c = false) : c ∉ name.toList :=
  fun hmem => Bool.false_ne_true (hc.symm.trans (h.isWord hmem))

theorem leadsInward_append (h : Plain name) (rest : String) :
    Path.LeadsInward ⟨name ++ rest⟩ := by
  obtain ⟨c, cs, hcs⟩ : ∃ c cs, name.toList = c :: cs :=
    List.exists_cons_of_ne_nil (by simpa using h.1)
  have hmem : c ∈ name.toList := hcs ▸ List.mem_cons_self
  refine Path.leadsInward_append (c := c) (by rw [hcs]; rfl) ?_ ?_ rest
  · rintro rfl
    exact h.notMem (by decide) hmem
  · rintro rfl
    exact h.notMem (by decide) hmem

theorem leadsInward (h : Plain name) : Path.LeadsInward ⟨name⟩ := by
  have happend := h.leadsInward_append ""
  rwa [String.append_empty] at happend

theorem components_eq (h : Plain name) : Path.components ⟨name⟩ = [.name name] :=
  h.leadsInward.components_of_notMem (h.notMem (by decide))

theorem components_java (h : Plain name) :
    Path.components ⟨name ++ ".java"⟩ = [.name (name ++ ".java")] := by
  refine (h.leadsInward_append ".java").components_of_notMem ?_
  simpa using h.notMem (c := '/') (by decide)

end TypeName.Plain

/-! ### Packages -/

def packageDirectory (package : String) : Path :=
  (Path.pieces '.' package.toList).foldl
    (fun (p : Path) piece => p.join ⟨String.ofList piece⟩) (⟨""⟩ : Path)

theorem CompilationUnit.path_eq (u : CompilationUnit) :
    u.path = (packageDirectory u.package).join ⟨u.name ++ ".java"⟩ := rfl

/-- The part behind the last dot is a directory of its own. -/
theorem components_packageDirectory (package : String) {part : String}
    (h : TypeName.Plain part) :
    (packageDirectory (package ++ "." ++ part)).components =
      (packageDirectory package).components ++ [.name part] := by
  have htext : (package ++ "." ++ part).toList = package.toList ++ '.' :: part.toList := by simp
  unfold packageDirectory
  rw [htext, Path.pieces_append, Path.pieces_of_notMem (h.notMem (by decide)), List.foldl_append,
    List.foldl_cons, List.foldl_nil, String.ofList_toList, Path.components_join _ h.leadsInward,
    h.components_eq]

namespace Java

variable (m : TypeMap) {module : String}

theorem components_contractPackage (h : TypeName.Plain module) :
    (packageDirectory (m.contractPackage module)).components =
      (packageDirectory m.basePackage).components ++ [.name module] :=
  components_packageDirectory m.basePackage h

theorem components_overlayPackage (h : TypeName.Plain module) :
    (packageDirectory (m.overlayPackage module)).components =
      (packageDirectory m.basePackage).components ++ [.name "js", .name module] := by
  have htext : m.overlayPackage module = m.basePackage ++ "." ++ "js" ++ "." ++ module := by
    unfold TypeMap.overlayPackage
    apply String.toList_inj.mp
    simp
  have hjs : TypeName.Plain "js" := by decide
  rw [htext, components_packageDirectory _ h, components_packageDirectory m.basePackage hjs,
    List.append_assoc]
  rfl

/-! ### Files of overlay classes -/

/-- The file of an overlay class, in the directory of its package. -/
def overlayFile (id : String) : Path :=
  ⟨overlayName id ++ ".java"⟩

theorem leadsInward_overlayFile (id : String) : (overlayFile id).LeadsInward := by
  unfold overlayFile overlayName
  rw [String.append_assoc]
  exact Path.leadsInward_append (c := 'J') (by decide) (by decide) (by decide) _

theorem toList_overlayFile (id : String) :
    (overlayFile id).text.toList = 'J' :: 's' :: (id.toList ++ ".java".toList) := by
  simp [overlayFile, overlayName]

theorem components_overlayFile_of_notMem {id : String} (h : '/' ∉ id.toList) :
    (overlayFile id).components = [.name (overlayName id ++ ".java")] := by
  refine (leadsInward_overlayFile id).components_of_notMem ?_
  rw [toList_overlayFile]
  simpa using h

/-- With slashes in the identifier the class lies deeper: there are a directory that starts with
`Js` and a file that ends in `.java`. -/
theorem two_le_length_components_overlayFile {id : String} (h : '/' ∈ id.toList) :
    2 ≤ (overlayFile id).components.length := by
  obtain ⟨front, rest, hid⟩ := List.append_of_mem h
  have htext : (overlayFile id).text.toList =
      ('J' :: 's' :: front) ++ '/' :: (rest ++ ".java".toList) := by
    rw [toList_overlayFile, hid]
    simp
  have hfirst : (Path.pieces '/' ('J' :: 's' :: front)).filterMap Path.component? ≠ [] :=
    Path.filterMap_component?_ne_nil (c := 'J') List.mem_cons_self (by decide) (by decide)
  have hlast : (Path.pieces '/' (rest ++ ".java".toList)).filterMap Path.component? ≠ [] :=
    Path.filterMap_component?_ne_nil (c := 'j') (List.mem_append_right _ (by decide)) (by decide)
      (by decide)
  rw [(leadsInward_overlayFile id).components_eq, htext, Path.pieces_append, List.filterMap_append,
    List.length_append]
  have hpos := List.length_pos_iff.mpr hfirst
  have hpos' := List.length_pos_iff.mpr hlast
  omega

theorem components_overlayFile_ne_nil (id : String) : (overlayFile id).components ≠ [] := by
  by_cases h : '/' ∈ id.toList
  · have hlength := two_le_length_components_overlayFile h
    intro hnil
    rw [hnil] at hlength
    cases hlength
  · rw [components_overlayFile_of_notMem h]
    exact List.cons_ne_nil _ _

theorem overlayFile_inj {id other : String} (hid : TypeName.Plain id)
    (h : (overlayFile id).components = (overlayFile other).components) : id = other := by
  rw [components_overlayFile_of_notMem (hid.notMem (by decide))] at h
  by_cases hother : '/' ∈ other.toList
  · have hlength := two_le_length_components_overlayFile hother
    rw [← h] at hlength
    simp at hlength
  · rw [components_overlayFile_of_notMem hother] at h
    have hname := Component.name.inj (List.cons.inj h).1
    rw [String.append_left_inj] at hname
    exact (String.append_right_inj _).mp hname

end Java

end Bindery
