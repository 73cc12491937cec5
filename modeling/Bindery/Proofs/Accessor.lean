import Mathlib.Data.List.Induction
import Bindery.Proofs.Protocol

/-! # Accessor pairs

The pairs of some attributes can be gathered in one pass that fills the pair of each name side by
side (`AccessorPair.gather`).  What stands under a name after any part of the pass is the pair of
the attributes that were met (`find?_gather`), so a pass over all of them leaves exactly the pairs
of `AccessorPair.ofAttributes`.

A pair depends on the attributes of its name alone (`ofName_eq`).  `ofAttributes_faithful` says what
the pairs are, and that attributes of other names may stand anywhere between them. -/

namespace Bindery.AccessorPair

/-! ### One pass -/

/-- Takes in an attribute: it becomes the getter and the setter, if it is one and there is none. -/
def take (p : AccessorPair) (a : Attribute) : AccessorPair :=
  { p with
    getter := p.getter.or (if a.isGetter then some a else none)
    setter := p.setter.or (if a.hasSetter then some a else none) }

/-- Takes an attribute into the pair of its name. -/
def enter (pairs : SortedMap String AccessorPair) (a : Attribute) :
    SortedMap String AccessorPair :=
  pairs.insert a.id (((pairs.find? a.id).getD {}).take a)

/-- The pairs by name after a pass over some attributes. -/
def gather (attributes : List Attribute) : SortedMap String AccessorPair :=
  attributes.foldl enter SortedMap.empty

variable {attributes : List Attribute} {name : String}

theorem ofName_concat (attributes : List Attribute) (a : Attribute) (name : String) :
    ofName (attributes ++ [a]) name =
      if a.id = name then (ofName attributes name).take a else ofName attributes name := by
  unfold ofName take
  rw [List.find?_append, List.find?_append]
  split
  · next hid => simp [hid]
  · next hid => simp [hid]

theorem ofName_of_notMem (h : name ∉ attributes.map (·.id)) : ofName attributes name = {} := by
  have hnone : ∀ p : Attribute → Prop, ∀ [DecidablePred p],
      attributes.find? (fun a => a.id = name ∧ p a) = none := by
    intro p _
    rw [List.find?_eq_none]
    intro a ha hp
    exact h (List.mem_map.mpr ⟨a, ha, (of_decide_eq_true hp).1⟩)
  unfold ofName
  rw [hnone, hnone]

/-- Behind any part of the pass, the names that were met have the pair of what was met. -/
theorem find?_gather (attributes : List Attribute) (name : String) :
    (gather attributes).find? name =
      if name ∈ attributes.map (·.id) then some (ofName attributes name) else none := by
  induction attributes using List.reverseRecOn with
  | nil => rfl
  | append_singleton attributes a ih =>
      have hstep : gather (attributes ++ [a]) = enter (gather attributes) a := by
        simp [gather]
      rw [hstep, enter, SortedMap.find?_insert, ofName_concat]
      by_cases hname : name = a.id
      · -- a name that is new starts from the empty pair
        subst hname
        have hpair : ((gather attributes).find? a.id).getD {} = ofName attributes a.id := by
          rw [ih]
          split
          · rfl
          · next hnew => exact (ofName_of_notMem hnew).symm
        simp [hpair]
      · simp [hname, Ne.symm hname, ih]

theorem gather_eq (attributes : List Attribute) :
    gather attributes =
      (NameSet.ofNames (attributes.map (·.id))).mapValues fun name _ => ofName attributes name := by
  apply SortedMap.ext_find?
  intro name
  rw [find?_gather, SortedMap.find?_mapValues]
  split
  · next hmem =>
    obtain ⟨_, hfind⟩ := SortedMap.contains_iff.mp (NameSet.contains_ofNames.mpr hmem)
    rw [hfind]
    rfl
  · next hmem =>
    have hnone : (NameSet.ofNames (attributes.map (·.id))).find? name = none := by
      rw [← Option.not_isSome_iff_eq_none]
      exact fun hsome => hmem (NameSet.contains_ofNames.mp hsome)
    rw [hnone]
    rfl

theorem ofAttributes_eq_gather (attributes : List Attribute) :
    ofAttributes attributes = (gather attributes).values.filter fun p => p.attribute?.isSome := by
  unfold ofAttributes
  rw [gather_eq, SortedMap.values, SortedMap.mapValues, SortedMap.keys, List.map_map, List.map_map]
  rfl

/-! ### The attributes of a name -/

theorem ofName_eq (attributes : List Attribute) (name : String) :
    ofName attributes name =
      { getter := ((attributes.filter (·.id = name)).filter (·.isGetter)).head?
        setter := ((attributes.filter (·.id = name)).filter (·.hasSetter)).head? } := by
  unfold ofName
  simp only [List.head?_filter, List.find?_filter, decide_eq_true_eq]

theorem ofName_congr {other : List Attribute}
    (h : attributes.filter (·.id = name) = other.filter (·.id = name)) :
    ofName attributes name = ofName other name := by
  rw [ofName_eq, ofName_eq, h]

theorem mem_map_id_iff :
    name ∈ attributes.map (·.id) ↔ attributes.filter (·.id = name) ≠ [] := by
  simp [List.filter_eq_nil_iff]

theorem ofAttributes_congr {other : List Attribute}
    (h : ∀ name, attributes.filter (·.id = name) = other.filter (·.id = name)) :
    ofAttributes attributes = ofAttributes other := by
  have hnames : NameSet.ofNames (attributes.map (·.id)) = NameSet.ofNames (other.map (·.id)) := by
    apply NameSet.ext_contains
    intro name
    rw [NameSet.contains_ofNames, NameSet.contains_ofNames, mem_map_id_iff, mem_map_id_iff, h]
  have hpairs : ofName attributes = ofName other := funext fun name => ofName_congr (h name)
  unfold ofAttributes
  rw [hnames, hpairs]

/-! ### Faithful pairs -/

/-- The pair of a name: the first getter and the first setter that is not replaceable among the
attributes of the name, at least one of which is there. -/
structure Joins (attributes : List Attribute) (name : String) (p : AccessorPair) : Prop where
  id_eq : p.attribute?.map (·.id) = some name
  getter_eq : p.getter = ((attributes.filter (·.id = name)).filter (·.isGetter)).head?
  setter_eq : p.setter =
    ((attributes.filter (·.id = name)).filter fun a => a.isSetter && !a.replaceable).head?
  /-- Nothing is known of ancestors. -/
  own : p.inheritedGetter = false ∧ p.inheritedSetter = false

theorem joins_ofName (h : name ∈ names attributes) :
    Joins attributes name (ofName attributes name) where
  id_eq := map_id_attribute?_ofName h
  getter_eq := congrArg getter (ofName_eq attributes name)
  setter_eq := congrArg setter (ofName_eq attributes name)
  own := ⟨rfl, rfl⟩

/-- The pairs of some attributes are what one pass over them gathers, except where neither side was
found.  They stand in strictly ascending order of names, one for each name with a getter or a setter
that is not replaceable, and join the first ones of these.  Only the attributes of a name decide on
its pair. -/
theorem ofAttributes_faithful (attributes : List Attribute) :
    ofAttributes attributes =
      (gather attributes).values.filter (fun p => p.attribute?.isSome) ∧
    (∃ names : List String, names.Pairwise (· < ·) ∧
      (∀ name, name ∈ names ↔ ∃ a ∈ attributes,
        a.id = name ∧ (a.isGetter = true ∨ a.isSetter = true ∧ a.replaceable = false)) ∧
      List.Forall₂ (Joins attributes) names (ofAttributes attributes)) ∧
    ∀ other : List Attribute,
      (∀ name, attributes.filter (·.id = name) = other.filter (·.id = name)) →
        ofAttributes attributes = ofAttributes other := by
  refine ⟨ofAttributes_eq_gather attributes,
    ⟨names attributes, names_ascending attributes, fun name => ?_, ?_⟩,
    fun other h => ofAttributes_congr h⟩
  · rw [mem_names_iff]
    simp [Attribute.hasSetter]
  · rw [ofAttributes_eq, List.forall₂_map_right_iff, List.forall₂_same]
    exact fun name hname => joins_ofName hname

/-- Attributes of a page in the order of their declaration. -/
def pageAttributes : List Attribute :=
  [{ id := "title", type := "DOMString", isGetter := false, isSetter := true },
   { id := "location", type := "Location" },
   { id := "opener", type := "Window", isGetter := false, isSetter := true, replaceable := true },
   { id := "title", type := "DOMString" },
   { id := "location", type := "Location", isSetter := true, replaceable := true },
   { id := "cookie", type := "DOMString", isSetter := true }]

/-- The same attributes name by name. -/
def pageAttributesByName : List Attribute :=
  ["cookie", "location", "opener", "title"].flatMap fun name =>
    pageAttributes.filter (·.id = name)

theorem ofAttributes_faithful_page :
    ofAttributes pageAttributes = ofAttributes pageAttributesByName ∧
      (ofAttributes pageAttributes).map
          (fun p => (p.attribute?.map (·.id), p.getter.isSome, p.setter.isSome)) =
        [(some "cookie", true, true), (some "location", true, false),
          (some "title", true, true)] := by
  refine ⟨(ofAttributes_faithful pageAttributes).2.2 pageAttributesByName fun name => ?_,
    by decide +kernel⟩
  have hpresent : ∀ name ∈ pageAttributes.map (·.id),
      pageAttributes.filter (·.id = name) = pageAttributesByName.filter (·.id = name) := by
    decide +kernel
  have hsame : ∀ name ∈ pageAttributesByName.map (·.id), name ∈ pageAttributes.map (·.id) := by
    decide +kernel
  by_cases hname : name ∈ pageAttributes.map (·.id)
  · exact hpresent name hname
  · rw [not_not.mp (mt mem_map_id_iff.mpr hname),
      not_not.mp (mt mem_map_id_iff.mpr (mt (hsame name) hname))]

end Bindery.AccessorPair
