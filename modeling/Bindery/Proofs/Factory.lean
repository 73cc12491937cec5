import Bindery.Member.Factory
import Bindery.Proofs.Graph

/-! # Creation methods

An element type has the creation method that its identifier without the suffix names, except for the
root of a group, which has another name.  Since the suffix can be put back, two methods can have the
same name only if one of them is that of a root, and then the name is also what is left of another
identifier.  A naming that excludes those identifiers `Separates` its methods, and gives different
names to different element types (`FactoryNaming.Separates.id_eq`).  The default naming does:
`FactoryNaming.methods_exact`. -/

namespace Bindery

theorem withoutSuffix?_eq_some_iff {suffix text base : String} :
    withoutSuffix? suffix text = some base ↔ text = base ++ suffix := by
  unfold withoutSuffix?
  rw [Option.ite_none_right_eq_some, List.isSuffixOf_iff_suffix, Option.some.injEq,
    ← String.toList_inj, ← String.toList_inj, String.toList_ofList, String.toList_append]
  constructor
  · rintro ⟨⟨front, hfront⟩, hbase⟩
    rw [← hbase, ← hfront]
    simp
  · intro htext
    rw [htext]
    simp

namespace FactoryNaming

variable {naming : FactoryNaming} {id id' : String} {f f' : FactoryMethod}

/-! ### One method -/

/-- An identifier that ends with the suffix, is more than the suffix, and is not excluded. -/
def IsElementType (naming : FactoryNaming) (id : String) : Prop :=
  ∃ base, id = base ++ naming.suffix ∧ base ≠ "" ∧ id ∉ naming.excluded

theorem exists_method?_iff : (∃ f, naming.method? id = some f) ↔ naming.IsElementType id := by
  unfold method? IsElementType
  cases hbase : withoutSuffix? naming.suffix id with
  | none =>
      simp only [reduceCtorEq, exists_false, false_iff, not_exists, not_and]
      intro base hid
      rw [withoutSuffix?_eq_some_iff.mpr hid] at hbase
      cases hbase
  | some base =>
      have hid := withoutSuffix?_eq_some_iff.mp hbase
      have hunique : ∀ other, id = other ++ naming.suffix ↔ other = base := by
        intro other
        rw [← withoutSuffix?_eq_some_iff, hbase, Option.some.injEq, eq_comm]
      simp [hunique]

/-- What a creation method is called: after its element type, or after the group of which this is
the root. -/
theorem of_method? (h : naming.method? id = some f) :
    f.element = id ∧ ∃ base, id = base ++ naming.suffix ∧ id ∉ naming.excluded ∧
      (f.method = "create" ++ base ∨
        ∃ g ∈ naming.groups, g.root = id ∧ f.method = "create" ++ g.rootName) := by
  unfold method? at h
  cases hbase : withoutSuffix? naming.suffix id with
  | none =>
      rw [hbase] at h
      cases h
  | some base =>
      rw [hbase] at h
      simp only [Option.ite_none_left_eq_some, not_or, Option.some.injEq] at h
      obtain ⟨⟨_, hexcluded⟩, rfl⟩ := h
      refine ⟨rfl, base, withoutSuffix?_eq_some_iff.mp hbase, hexcluded, ?_⟩
      unfold nameAndTag
      split
      · exact .inl rfl
      · next g hg =>
        split
        · next hroot => exact .inr ⟨g, List.mem_of_find?_eq_some hg, hroot, rfl⟩
        · exact .inl rfl

/-! ### Different methods -/

/-- What is named like the root of a group is not created, and groups with different roots have
different names for them. -/
structure Separates (naming : FactoryNaming) : Prop where
  excluded : ∀ g ∈ naming.groups, g.rootName ++ naming.suffix ∈ naming.excluded
  root_eq : ∀ g ∈ naming.groups, ∀ g' ∈ naming.groups, g.rootName = g'.rootName → g.root = g'.root

theorem Separates.id_eq (hs : naming.Separates) (h : naming.method? id = some f)
    (h' : naming.method? id' = some f') (hsame : f.method = f'.method) : id = id' := by
  obtain ⟨_, base, hid, hexcluded, hname⟩ := of_method? h
  obtain ⟨_, base', hid', hexcluded', hname'⟩ := of_method? h'
  rcases hname with hname | ⟨g, hg, hroot, hname⟩ <;>
    rcases hname' with hname' | ⟨g', hg', hroot', hname'⟩ <;>
    rw [hname, hname', String.append_right_inj] at hsame
  · rw [hid, hid', hsame]
  · rw [hid, hsame] at hexcluded
    exact absurd (hs.excluded g' hg') hexcluded
  · rw [hid', ← hsame] at hexcluded'
    exact absurd (hs.excluded g hg) hexcluded'
  · rw [← hroot, ← hroot']
    exact hs.root_eq g hg g' hg' hsame

theorem separates_default : Separates {} where
  excluded := by decide
  root_eq := by decide

/-! ### The methods of a graph -/

variable {g : Graph}

theorem methods_eq (hg : g.Keyed) : naming.methods g = g.ids.filterMap naming.method? := by
  rw [methods, ← hg.map_id_interfaces, List.filterMap_map]
  rfl

theorem mem_map_element_methods (hg : g.Keyed) :
    id ∈ (naming.methods g).map (·.element) ↔ id ∈ g.ids ∧ naming.IsElementType id := by
  rw [methods_eq hg, ← exists_method?_iff]
  simp only [List.mem_map, List.mem_filterMap]
  constructor
  · rintro ⟨f, ⟨id, hid, hf⟩, rfl⟩
    rw [(of_method? hf).1]
    exact ⟨hid, f, hf⟩
  · rintro ⟨hid, f, hf⟩
    exact ⟨f, ⟨id, hid, hf⟩, (of_method? hf).1⟩

theorem element_methods_ascending (hg : g.Keyed) :
    ((naming.methods g).map (·.element)).Pairwise (· < ·) := by
  rw [methods_eq hg, List.pairwise_map, List.pairwise_filterMap]
  refine g.ids_ascending.imp fun hlt f hf f' hf' => ?_
  rw [(of_method? hf).1, (of_method? hf').1]
  exact hlt

theorem Separates.nodup_methods (hs : naming.Separates) (hg : g.Keyed) :
    ((naming.methods g).map (·.method)).Nodup := by
  rw [methods_eq hg, List.Nodup, List.pairwise_map, List.pairwise_filterMap]
  exact g.nodup_ids.imp fun hne f hf f' hf' hsame => hne (hs.id_eq hf hf' hsame)

theorem isElementType_default_iff :
    IsElementType {} id ↔
      "Element".toList <:+ id.toList ∧ id ≠ "Element" ∧ id ≠ "SVGElement" := by
  have hexcluded : id ∉ ["Element", "SVGElement"] ↔ id ≠ "Element" ∧ id ≠ "SVGElement" := by
    simp
  constructor
  · rintro ⟨base, rfl, _, hid⟩
    refine ⟨⟨base.toList, ?_⟩, hexcluded.mp hid⟩
    rw [String.toList_append]
  · rintro ⟨⟨front, hfront⟩, hid⟩
    have hwhole : id = String.ofList front ++ "Element" := by
      rw [← String.toList_inj, String.toList_append, String.toList_ofList]
      exact hfront.symm
    refine ⟨String.ofList front, hwhole, ?_, hexcluded.mpr hid⟩
    intro hempty
    rw [hempty] at hwhole
    exact hid.1 hwhole

/-- By the default naming there is, in ascending order of identifiers, one creation method for each
identifier of the graph that ends in `Element`, other than `Element` itself and `SVGElement`, and no
two of the methods have the same name. -/
theorem methods_exact (hg : g.Keyed) :
    ((methods {} g).map (·.element)).Pairwise (· < ·) ∧
      (∀ id, id ∈ (methods {} g).map (·.element) ↔
        id ∈ g.ids ∧ "Element".toList <:+ id.toList ∧ id ≠ "Element" ∧ id ≠ "SVGElement") ∧
      ((methods {} g).map (·.method)).Nodup := by
  refine ⟨element_methods_ascending hg, fun id => ?_, separates_default.nodup_methods hg⟩
  rw [mem_map_element_methods hg, isElementType_default_iff]

/-- Element types with and without a group, the root of the group, and what is never created. -/
def svgGraph : Graph :=
  [{ id := "Element" }, { id := "SVGElement" }, { id := "SVGSVGElement" }, { id := "SVGAElement" },
    { id := "ButtonElement" }, { id := "Elements" }].foldl Graph.add Graph.empty

theorem methods_exact_svg :
    svgGraph.Keyed ∧
      (methods {} svgGraph).map (·.element) = ["ButtonElement", "SVGAElement", "SVGSVGElement"] ∧
      "Elements" ∉ (methods {} svgGraph).map (·.element) ∧
      (methods {} svgGraph).map (·.method) = ["createButton", "createSVGA", "createSVG"] ∧
      ["createButton", "createSVGA", "createSVG"].Nodup := by
  have hkeyed : svgGraph.Keyed := Graph.keyed_empty.foldl_add
  have hnames : (methods {} svgGraph).map (·.method) =
      ["createButton", "createSVGA", "createSVG"] := by decide +kernel
  obtain ⟨_, helements, hnodup⟩ := methods_exact hkeyed
  refine ⟨hkeyed, by decide +kernel, fun hmem => ?_, hnames, ?_⟩
  · obtain ⟨_, hsuffix, _⟩ := (helements "Elements").mp hmem
    exact absurd hsuffix (by decide +kernel)
  · rw [hnames] at hnodup
    exact hnodup

end FactoryNaming

end Bindery
