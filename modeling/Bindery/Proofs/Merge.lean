import Bindery.Idl.Interface
import Bindery.Proofs.Distinct

/-! # Merged attributes

Merging takes attributes over one after another, and a name is taken as soon as it has one
attribute.  So of the attributes of a new name only the first comes over
(`Interface.attributesNamed_merge`): a getter and a setter that are declared apart lose the one that
is declared later. -/

namespace Bindery.Interface

def attributesNamed (i : Interface) (name : String) : List Attribute :=
  i.attributes.filter (·.id = name)

theorem attributesNamed_eq_nil_iff {i : Interface} {name : String} :
    i.attributesNamed name = [] ↔ i.hasAttribute name = false := by
  simp [attributesNamed, hasAttribute]

theorem foldl_addAttribute (first second : List Attribute) :
    second.foldl addAttribute first =
      first ++ distinctFrom Attribute.id (first.map Attribute.id) second := by
  induction second generalizing first with
  | nil => simp [distinctFrom]
  | cons a rest ih =>
      have htaken : first.any (·.id = a.id) = true ↔ a.id ∈ first.map Attribute.id := by
        rw [List.any_eq_true, List.mem_map]
        simp
      rw [List.foldl_cons, ih, distinctFrom, addAttribute]
      by_cases h : a.id ∈ first.map Attribute.id
      · rw [if_pos (htaken.mpr h), if_pos h]
      · -- from now on the name of `a` is taken as well
        have hseen : ∀ name, name ∈ (first ++ [a]).map Attribute.id ↔
            name ∈ a.id :: first.map Attribute.id := by
          intro name
          simp [or_comm]
        rw [if_neg fun hany => h (htaken.mp hany), if_neg h, distinctFrom_congr hseen,
          List.append_assoc]
        rfl

theorem attributes_merge (i other : Interface) :
    (i.merge other).attributes =
      i.attributes ++ distinctFrom Attribute.id (i.attributes.map Attribute.id) other.attributes :=
  foldl_addAttribute i.attributes other.attributes

/-- A name that is taken keeps its attributes, and a new one gets the first attribute of that
name. -/
theorem attributesNamed_merge (i other : Interface) (name : String) :
    (i.merge other).attributesNamed name =
      if i.hasAttribute name then i.attributesNamed name
      else (other.attributesNamed name).head?.toList := by
  have htaken : name ∈ i.attributes.map Attribute.id ↔ i.hasAttribute name = true := by
    simp [hasAttribute]
  have hfirst : other.attributes.find? (·.id = name) = (other.attributesNamed name).head? :=
    List.head?_filter.symm
  unfold attributesNamed at hfirst ⊢
  rw [attributes_merge, List.filter_append, filter_distinctFrom, hfirst]
  cases h : i.hasAttribute name with
  | true => rw [if_pos (htaken.mpr h), if_pos rfl, List.append_nil]
  | false =>
      have hnone : i.attributesNamed name = [] := attributesNamed_eq_nil_iff.mpr h
      unfold attributesNamed at hnone
      rw [if_neg (by simp [htaken, h]), hnone, List.nil_append]
      simp

/-- Merging leaves the attributes of names that are taken as they are, and adds none to them.  Of
each other name it takes the first attribute over, so it takes all of them over exactly if there is
no second one. -/
theorem merge_keeps_attributes_iff (i other : Interface) :
    i.attributes <+: (i.merge other).attributes ∧
      (∀ name, i.hasAttribute name = true →
        (i.merge other).attributesNamed name = i.attributesNamed name) ∧
      ∀ name, i.hasAttribute name = false →
        (i.merge other).attributesNamed name = (other.attributesNamed name).head?.toList ∧
          ((i.merge other).attributesNamed name = other.attributesNamed name ↔
            (other.attributesNamed name).length ≤ 1) := by
  refine ⟨⟨_, (attributes_merge i other).symm⟩, fun name htaken => ?_, fun name hnew => ?_⟩
  · rw [attributesNamed_merge, if_pos htaken]
  · have hmerge : (i.merge other).attributesNamed name =
        (other.attributesNamed name).head?.toList := by
      rw [attributesNamed_merge, if_neg (by simp [hnew])]
    refine ⟨hmerge, ?_⟩
    rw [hmerge]
    cases other.attributesNamed name with
    | nil => simp
    | cons first rest => simp [eq_comm]

/-- An input with a name and no value. -/
def namedInput : Interface :=
  { id := "Input", attributes := [{ id := "name", type := "DOMString" }] }

/-- A field whose value has a getter and a setter that are declared apart. -/
def splitField : Interface :=
  { id := "Field", attributes := [{ id := "value", type := "DOMString" },
    { id := "value", type := "DOMString", isGetter := false, isSetter := true },
    { id := "name", type := "String" }] }

theorem merge_keeps_attributes_iff_field :
    namedInput.hasAttribute "name" = true ∧ namedInput.hasAttribute "value" = false ∧
      (namedInput.merge splitField).attributesNamed "name" = namedInput.attributesNamed "name" ∧
      (namedInput.merge splitField).attributesNamed "value" =
        [{ id := "value", type := "DOMString" }] := by
  obtain ⟨_, htaken, hnew⟩ := merge_keeps_attributes_iff namedInput splitField
  exact ⟨by decide, by decide, htaken "name" (by decide), (hnew "value" (by decide)).1⟩

/-- The setter of a value is lost, although the name of the value is new. -/
theorem merge_loses_setter :
    namedInput.hasAttribute "value" = false ∧
      (splitField.attributesNamed "value").any (·.hasSetter) = true ∧
      (namedInput.merge splitField).attributesNamed "value" ≠
        splitField.attributesNamed "value" ∧
      ((namedInput.merge splitField).attributesNamed "value").any (·.hasSetter) = false := by
  decide

end Bindery.Interface
