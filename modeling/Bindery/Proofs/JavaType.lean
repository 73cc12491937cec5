import Bindery.Java.Types
import Bindery.Proofs.Filter

/-! # The Java types of types that resolve

A filter leaves members whose types resolve, and what generates code from them looks up the Java
types of those types.  The two go by tables of their own (`Java.mem_primitives_iff`) and ask for
primitive types, containers and interfaces in different orders.

`Java.TypeMap.Denotes` says which Java type is meant by a type.  The lookup finds it
(`Java.TypeMap.Denotes.map_eq`), and the types that resolve without a meaning are known by their
form: they are `Graph.Untyped`, and an `Object` stands for them (`Java.TypeMap.map_resolves`). -/

namespace Bindery

/-- A type that is a bare container or the application of something that is no container, and whose
unqualified name no interface of the graph has. -/
@[mk_iff]
structure Graph.Untyped (g : Graph) (t : TypeName) : Prop where
  unknown : TypeName.unqualified t ∉ g.ids
  form : t ∈ TypeName.containers ∨ ∃ outer inner, TypeName.split? t = some (outer, inner) ∧
    TypeName.unqualified outer ∉ TypeName.containers

instance (g : Graph) : DecidablePred g.Untyped := fun t =>
  decidable_of_iff (TypeName.unqualified t ∉ g.ids ∧ (t ∈ TypeName.containers ∨
      ∃ parts ∈ TypeName.split? t, TypeName.unqualified parts.1 ∉ TypeName.containers)) <| by
    rw [Graph.untyped_iff]
    simp

namespace Java

/-- The types that need no interface are dates and those with a Java type of the language itself. -/
theorem mem_primitives_iff {t : TypeName} :
    t ∈ TypeName.primitives ↔ t = "Date" ∨ ∃ name, primitive? t = some name := by
  constructor
  · have hcovered : ∀ t ∈ TypeName.primitives, t = "Date" ∨ (primitive? t).isSome = true := by
      decide
    intro h
    simpa only [Option.isSome_iff_exists] using hcovered t h
  · rintro (rfl | ⟨name, hname⟩)
    · decide
    · have hlisted : ∀ entry ∈ primitiveTypes, entry.1 ∈ TypeName.primitives := by decide
      obtain ⟨before, after, htable, _⟩ := List.lookup_eq_some_iff.mp hname
      exact hlisted (t, name) (by simp [htable])

namespace TypeMap

/-- The Java type that is meant by a type in a place.  Types of the language itself and dates come
first, then containers of something, then interfaces. -/
inductive Denotes (m : TypeMap) (flavor : Flavor) : TypeName → JavaType → Prop
  | primitive {t : TypeName} {name : String} : primitive? t = some name →
      Denotes m flavor t (.builtin name)
  | date : Denotes m flavor "Date" (.inPackage "Date" "java.util")
  | container {t outer element : TypeName} : TypeName.split? t = some (outer, element) →
      TypeName.unqualified outer ∈ TypeName.containers →
      Denotes m flavor t (m.indexable element flavor)
  | interface {t : TypeName} {i : Interface} : t ∉ TypeName.primitives →
      TypeName.element? t = none → m.graph.find? (TypeName.unqualified t) = some i →
      Denotes m flavor t (m.interfaceType (TypeName.unqualified t) i flavor)

variable {m : TypeMap} {flavor : Flavor} {t : TypeName} {j : JavaType}

theorem map_of_notMem (h : t ∉ TypeName.primitives) :
    m.map t flavor =
      match TypeName.element? t with
      | some element => m.indexable element flavor
      | none =>
        match m.graph.find? (TypeName.unqualified t) with
        | some i => m.interfaceType (TypeName.unqualified t) i flavor
        | none => .builtin "Object" := by
  rw [mem_primitives_iff, not_or, not_exists] at h
  obtain ⟨hdate, hprimitive⟩ := h
  rw [map, Option.eq_none_iff_forall_ne_some.mpr hprimitive]
  exact if_neg hdate

theorem Denotes.map_eq (h : m.Denotes flavor t j) : m.map t flavor = j := by
  cases h with
  | primitive hname => rw [map, hname]
  | date => rfl
  | container hsplit hcontainer =>
      rw [map_of_notMem (TypeName.notMem_primitives_of_split? hsplit),
        TypeName.element?_eq_some_iff.mpr ⟨_, hsplit, hcontainer⟩]
  | interface hmem helement hfind => rw [map_of_notMem hmem, helement, hfind]

/-- A type to which no rule of `Denotes` applies. -/
structure Meaningless (m : TypeMap) (t : TypeName) : Prop where
  notMem : t ∉ TypeName.primitives
  element?_eq : TypeName.element? t = none
  unknown : TypeName.unqualified t ∉ m.graph.ids

namespace Meaningless

theorem map_eq (h : m.Meaningless t) : m.map t flavor = .builtin "Object" := by
  have hfind : m.graph.find? (TypeName.unqualified t) = none := by
    rw [Option.eq_none_iff_forall_ne_some]
    exact fun i hi => h.unknown (Graph.mem_ids_iff_exists.mpr ⟨i, hi⟩)
  rw [map_of_notMem h.notMem, h.element?_eq, hfind]

theorem not_denotes (h : m.Meaningless t) : ¬ m.Denotes flavor t j := by
  intro hj
  cases hj with
  | primitive hname => exact h.notMem (mem_primitives_iff.mpr (.inr ⟨_, hname⟩))
  | date => exact h.notMem (mem_primitives_iff.mpr (.inl rfl))
  | container hsplit hcontainer =>
      exact TypeName.element?_eq_none_iff.mp h.element?_eq _ _ hsplit hcontainer
  | interface _ _ hfind =>
      exact h.unknown (Graph.mem_ids_iff_exists.mpr ⟨_, hfind⟩)

end Meaningless

theorem exists_denotes (h : ¬ m.Meaningless t) : ∃ j, m.Denotes flavor t j := by
  by_cases hmem : t ∈ TypeName.primitives
  · rcases mem_primitives_iff.mp hmem with rfl | ⟨name, hname⟩
    · exact ⟨_, .date⟩
    · exact ⟨_, .primitive hname⟩
  · cases helement : TypeName.element? t with
    | some element =>
        obtain ⟨outer, hsplit, hcontainer⟩ := TypeName.element?_eq_some_iff.mp helement
        exact ⟨_, .container hsplit hcontainer⟩
    | none =>
        have hknown : TypeName.unqualified t ∈ m.graph.ids :=
          not_not.mp fun hunknown => h ⟨hmem, helement, hunknown⟩
        obtain ⟨i, hfind⟩ := Graph.mem_ids_iff_exists.mp hknown
        exact ⟨_, .interface hmem helement hfind⟩

/-- Among the types that resolve, those that mean nothing are known by their form. -/
theorem meaningless_iff (h : m.graph.Resolves t) : m.Meaningless t ↔ m.graph.Untyped t := by
  constructor
  · intro hnothing
    refine ⟨hnothing.unknown, ?_⟩
    rcases TypeName.isResolvable_iff.mp (Graph.resolves_iff.mp h) with
      (hprimitive | hcontainer) | hknown | ⟨outer, inner, hsplit, _⟩
    · exact absurd hprimitive hnothing.notMem
    · exact .inl hcontainer
    · exact absurd (Graph.mem_ids_iff.mpr hknown) hnothing.unknown
    · have houter := TypeName.element?_eq_none_iff.mp hnothing.element?_eq outer inner hsplit
      exact .inr ⟨outer, inner, hsplit, houter⟩
  · rintro ⟨hunknown, hcontainer | ⟨outer, inner, hsplit, houter⟩⟩
    · have hdisjoint : ∀ name ∈ TypeName.containers, name ∉ TypeName.primitives := by decide
      have hbare := TypeName.element?_of_split?_eq_none (TypeName.atom_of_mem (.inr hcontainer)).2
      exact ⟨hdisjoint t hcontainer, hbare, hunknown⟩
    · have happlied : TypeName.element? t = none := by
        rw [TypeName.element?_eq_none_iff, hsplit]
        rintro _ _ ⟨⟩
        exact houter
      exact ⟨TypeName.notMem_primitives_of_split? hsplit, happlied, hunknown⟩

/-- A type that resolves means the Java type that the lookup finds, unless the graph leaves it
untyped: then it means nothing, and the lookup falls back on `Object`. -/
theorem map_resolves (m : TypeMap) (flavor : Flavor) {t : TypeName} (h : m.graph.Resolves t) :
    (∀ j, m.Denotes flavor t j ↔ ¬ m.graph.Untyped t ∧ m.map t flavor = j) ∧
      (m.graph.Untyped t → m.map t flavor = .builtin "Object") := by
  rw [← meaningless_iff h]
  refine ⟨fun j => ⟨fun hj => ⟨fun hnothing => hnothing.not_denotes hj, hj.map_eq⟩, ?_⟩,
    Meaningless.map_eq⟩
  rintro ⟨hmeaning, rfl⟩
  obtain ⟨j, hj⟩ := exists_denotes hmeaning
  rw [hj.map_eq]
  exact hj

/-- An interface that is named like a qualified application of another one. -/
def qualifiedMap : TypeMap where
  graph := [{ id := "Map" }, { id := "Node" }, { id := "dom::Map<Node>" }].foldl Graph.add
    Graph.empty
  basePackage := "elemental"
  defaultModule := "dom"

theorem map_resolves_qualified :
    qualifiedMap.graph.Resolves "sequence<dom::Map<Node>>" ∧
      qualifiedMap.Denotes .overlayReturn "sequence<dom::Map<Node>>"
        (.inPackage "JsIndexable" "elemental.js.util") ∧
      qualifiedMap.graph.Resolves "x::Node" ∧
      qualifiedMap.Denotes .overlayParameter "x::Node" (.inPackage "Node" "elemental.dom") ∧
      qualifiedMap.graph.Resolves "Node<sequence>" ∧
      qualifiedMap.map "Node<sequence>" .contract = .builtin "Object" := by
  have hsequence : qualifiedMap.graph.Resolves "sequence<dom::Map<Node>>" := by decide +kernel
  have hnode : qualifiedMap.graph.Resolves "x::Node" := by decide +kernel
  have happlied : qualifiedMap.graph.Resolves "Node<sequence>" := by decide +kernel
  have htyped : ¬ qualifiedMap.graph.Untyped "sequence<dom::Map<Node>>" ∧
      ¬ qualifiedMap.graph.Untyped "x::Node" ∧ qualifiedMap.graph.Untyped "Node<sequence>" := by
    decide +kernel
  refine ⟨hsequence, ?_, hnode, ?_, happlied, ?_⟩
  · exact ((map_resolves qualifiedMap .overlayReturn hsequence).1 _).mpr
      ⟨htyped.1, by decide +kernel⟩
  · exact ((map_resolves qualifiedMap .overlayParameter hnode).1 _).mpr
      ⟨htyped.2.1, by decide +kernel⟩
  · exact (map_resolves qualifiedMap .contract happlied).2 htyped.2.2

/-- The name of an interface is looked up without its modules, so one that is itself written as a
qualified application is not found by its own name. -/
theorem map_qualified_application :
    "dom::Map<Node>" ∈ qualifiedMap.graph.ids ∧ qualifiedMap.graph.Resolves "dom::Map<Node>" ∧
      "dom::Map<Node>" ∉ TypeName.containers ∧
      ∀ flavor, qualifiedMap.map "dom::Map<Node>" flavor = .builtin "Object" ∧
        ∀ j, ¬ qualifiedMap.Denotes flavor "dom::Map<Node>" j := by
  have hnothing : qualifiedMap.Meaningless "dom::Map<Node>" := by
    refine ⟨by decide, by decide +kernel, by decide +kernel⟩
  exact ⟨by decide +kernel, by decide +kernel, by decide, fun flavor =>
    ⟨hnothing.map_eq, fun j => hnothing.not_denotes⟩⟩

end TypeMap

end Java

end Bindery
