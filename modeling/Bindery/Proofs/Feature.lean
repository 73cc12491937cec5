import Bindery.Proofs.Distinct
import Bindery.Proofs.Run

/-! # Features

A `Feature` is what a caller can use of an interface: a getter or a setter of a name, or a method of
a name with parameter types.  An interface offers some of the features that it declares
(`Interface.Offers`), each under a mark by which descendants recognize it, and introduces those
whose mark no ancestor carries (`Setting.Introduces`).  `mem_features_ownCalls` says that what an
interface introduces is exactly what its own members bring into a unit. -/

namespace Bindery

/-- One of the two accessors of an attribute. -/
inductive Half where
  | getter
  | setter
  deriving DecidableEq

/-- What a caller can use of an interface. -/
inductive Feature where
  | accessor (half : Half) (name : String)
  | method (name : String) (types : List TypeName) (isStatic : Bool)
  deriving DecidableEq

/-- Whether a feature needs no object. -/
def Feature.isStatic : Feature → Bool
  | .method _ _ isStatic => isStatic
  | _ => false

/-! ### Features of units -/

/-- The features of a member in a unit of a backend.  All methods of a contract need an object. -/
def Member.features (b : Backend) : Member → List Feature
  | .getter a => [.accessor .getter a.emittedName]
  | .setter a => [.accessor .setter a.emittedName]
  | .methods set _ =>
    set.overloads.map fun o => .method set.name o.types (b = .overlay && set.isStatic)
  | _ => []

/-- The features of a unit of a backend. -/
def CompilationUnit.features (b : Backend) (u : CompilationUnit) : List Feature :=
  u.members.flatMap (Member.features b)

/-- The features that a call brings into a unit. -/
def Backend.callFeatures (b : Backend) (s : Setting) (ctx : Context) (call : Call) :
    List Feature :=
  ((b.members? s ctx call).getD []).flatMap (Member.features b)

/-! ### Features of interfaces -/

/-- The parameter types under which an operation may be called. -/
def Operation.callTypes (o : Operation) : List (List TypeName) :=
  (expandOptional o.arguments).map fun params => params.map (·.type)

def Attribute.has (a : Attribute) : Half → Bool
  | .getter => a.isGetter
  | .setter => a.hasSetter

/-- Whether an attribute declares an accessor, even if it is not emitted. -/
def Attribute.mentions (a : Attribute) : Half → Bool
  | .getter => a.isGetter
  | .setter => a.isSetter

/-- The operations of a list that are emitted under a name. -/
def emittedAs (operations : List Operation) (name : String) : List Operation :=
  (operations.filter fun o => !o.isHost).filter fun o => o.emittedName = name

/-- The operation that provides an overload: of those of a name that are the first of their
signatures, the first that may be called with arguments of the given types. -/
def providerIn? (operations : List Operation) (name : String) (types : List TypeName) :
    Option Operation :=
  (distinctBy Operation.signature (emittedAs operations name)).find? fun o => types ∈ o.callTypes

/-- What descendants look for to recognize an inherited feature. -/
inductive Mark where
  | accessor (half : Half) (name : String)
  | signature (text : String)
  deriving DecidableEq

namespace Interface

/-- The interface declares a feature: an accessor of an attribute, where a replaceable setter counts
as absent, or an operation with all its arguments. -/
def Declares (i : Interface) : Feature → Prop
  | .accessor half name => ∃ a ∈ i.attributes, a.has half = true ∧ a.emittedName = name
  | .method name types isStatic => ∃ o ∈ i.operations,
      o.isHost = false ∧ o.emittedName = name ∧ o.argumentTypes = types ∧ o.isStatic = isStatic

/-- The interface declares what a mark stands for.  Replaceable setters count here. -/
def Carries (i : Interface) : Mark → Prop
  | .accessor half name => ∃ a ∈ i.attributes, a.mentions half = true ∧ a.emittedName = name
  | .signature text => ∃ o ∈ i.operations, o.signature = text

instance (i : Interface) (f : Feature) : Decidable (i.Declares f) :=
  match f with
  | .accessor half name => inferInstanceAs (Decidable (∃ a ∈ i.attributes,
      a.has half = true ∧ a.emittedName = name))
  | .method name types isStatic => inferInstanceAs (Decidable (∃ o ∈ i.operations,
      o.isHost = false ∧ o.emittedName = name ∧ o.argumentTypes = types ∧ o.isStatic = isStatic))

instance (i : Interface) (mark : Mark) : Decidable (i.Carries mark) :=
  match mark with
  | .accessor half name => inferInstanceAs (Decidable (∃ a ∈ i.attributes,
      a.mentions half = true ∧ a.emittedName = name))
  | .signature text => inferInstanceAs (Decidable (∃ o ∈ i.operations, o.signature = text))

def namesakes (i : Interface) (name : String) : List Operation :=
  emittedAs i.operations name

def provider? (i : Interface) (name : String) (types : List TypeName) : Option Operation :=
  providerIn? i.operations name types

/-- The attribute is the first of its identifier that has an accessor. -/
def Leads (i : Interface) (half : Half) (a : Attribute) : Prop :=
  i.attributes.find? (fun x => x.id = a.id ∧ x.has half = true) = some a

/-- The interface offers a feature under a mark.  Of the attributes of one identifier the leading
one counts, and the first namesake decides whether methods are static. -/
def Offers (i : Interface) : Feature → Mark → Prop
  | .accessor half name, mark =>
    mark = .accessor half name ∧ ∃ a, i.Leads half a ∧ a.emittedName = name
  | .method name types isStatic, mark => ∃ o, i.provider? name types = some o ∧
      mark = .signature o.signature ∧ (i.namesakes name).head?.any (·.isStatic = isStatic) = true

instance (i : Interface) (half : Half) (a : Attribute) : Decidable (i.Leads half a) :=
  inferInstanceAs (Decidable (_ = some a))

theorem mem_of_leads {i : Interface} {half : Half} {a : Attribute} (h : i.Leads half a) :
    a ∈ i.attributes :=
  List.mem_of_find?_eq_some h

instance (i : Interface) (f : Feature) (mark : Mark) : Decidable (i.Offers f mark) :=
  match f with
  | .accessor half name =>
    decidable_of_iff (mark = .accessor half name ∧
        ∃ a ∈ i.attributes, i.Leads half a ∧ a.emittedName = name)
      (and_congr_right fun _ => exists_congr fun _ =>
        and_iff_right_of_imp fun h => mem_of_leads h.1)
  | .method name types isStatic =>
    decidable_of_iff (∃ o ∈ i.provider? name types, mark = .signature o.signature ∧
        (i.namesakes name).head?.any (·.isStatic = isStatic) = true) Iff.rfl

end Interface

/-- The interface introduces a feature: it offers it, and nothing that it inherits from carries its
mark. -/
def Setting.Introduces (s : Setting) (i : Interface) (f : Feature) : Prop :=
  ∃ mark, i.Offers f mark ∧ ∀ a ∈ s.graph.inheritedFrom s.config.mixinBase i, ¬ a.Carries mark

/-! ### Accessors -/

/-- The text that stands for an accessor among those of the ancestors. -/
def Half.key : Half → String → String
  | .getter, name => "getter_" ++ name
  | .setter, name => "setter_" ++ name

theorem Half.key_inj {h k : Half} {m n : String} : h.key m = k.key n ↔ h = k ∧ m = n := by
  have hne : ∀ m n : String, "getter_" ++ m ≠ "setter_" ++ n := by
    intro m n h
    have hchars := congrArg String.toList h
    simp at hchars
  cases h <;> cases k <;> simp [key, hne, (hne _ _).symm]

theorem Attribute.key_mem_accessorKeys {a : Attribute} {half : Half} {name : String} :
    half.key name ∈ a.accessorKeys ↔ a.mentions half = true ∧ a.emittedName = name := by
  have hkeys : a.accessorKeys =
      (if a.mentions .getter then [Half.getter.key a.emittedName] else []) ++
        (if a.mentions .setter then [Half.setter.key a.emittedName] else []) := rfl
  rw [hkeys, List.mem_append]
  cases half <;> cases a.mentions .getter <;> cases a.mentions .setter <;>
    simp [Half.key_inj, eq_comm]

namespace AccessorPair

def get (p : AccessorPair) : Half → Option Attribute
  | .getter => p.getter
  | .setter => p.setter

theorem get_ofName (attributes : List Attribute) (name : String) (half : Half) :
    (ofName attributes name).get half =
      attributes.find? fun a => a.id = name ∧ a.has half = true := by
  cases half <;> rfl

theorem isSome_attribute? {p : AccessorPair} :
    p.attribute?.isSome = true ↔ ∃ half a, p.get half = some a := by
  unfold attribute?
  rw [Option.isSome_or, Bool.or_eq_true, Option.isSome_iff_exists, Option.isSome_iff_exists]
  constructor
  · rintro (⟨a, h⟩ | ⟨a, h⟩)
    · exact ⟨.getter, a, h⟩
    · exact ⟨.setter, a, h⟩
  · rintro ⟨half, a, h⟩
    cases half with
    | getter => exact .inl ⟨a, h⟩
    | setter => exact .inr ⟨a, h⟩

theorem eq_of_find?_some {attributes : List Attribute} {name : String} {half : Half}
    {a : Attribute} (h : attributes.find? (fun x => x.id = name ∧ x.has half = true) = some a) :
    a.id = name ∧ a.has half = true := by
  simpa using List.find?_some h

/-- The attributes of the pairs are the leading ones. -/
theorem exists_get_iff {attributes : List Attribute} {half : Half} {a : Attribute} :
    (∃ p ∈ ofAttributes attributes, p.get half = some a) ↔
      attributes.find? (fun x => x.id = a.id ∧ x.has half = true) = some a := by
  constructor
  · rintro ⟨p, hp, ha⟩
    obtain ⟨hp, _⟩ := List.mem_filter.mp hp
    obtain ⟨name, _, rfl⟩ := List.mem_map.mp hp
    rw [get_ofName] at ha
    rw [(eq_of_find?_some ha).1]
    exact ha
  · intro ha
    refine ⟨ofName attributes a.id, List.mem_filter.mpr ⟨List.mem_map.mpr ⟨a.id, ?_, rfl⟩, ?_⟩, ?_⟩
    · rw [NameSet.mem_keys_ofNames]
      exact List.mem_map_of_mem (List.mem_of_find?_eq_some ha)
    · rw [isSome_attribute?]
      exact ⟨half, a, by rw [get_ofName, ha]⟩
    · rw [get_ofName, ha]

/-- Whether an ancestor has one of the accessors. -/
def inherited (p : AccessorPair) : Half → Bool
  | .getter => p.inheritedGetter
  | .setter => p.inheritedSetter

theorem get_markInherited (keys : List String) (p : AccessorPair) (half : Half) :
    (p.markInherited keys).get half = p.get half := by
  cases half <;> rfl

theorem inherited_markInherited {keys : List String} {p : AccessorPair} {half : Half}
    {a : Attribute} (h : p.get half = some a) :
    (p.markInherited keys).inherited half = false ↔ half.key a.emittedName ∉ keys := by
  cases half with
  | getter =>
      have hgetter : p.getter = some a := h
      simp [markInherited, inherited, hgetter, Half.key]
  | setter =>
      have hsetter : p.setter = some a := h
      simp [markInherited, inherited, hsetter, Half.key]

end AccessorPair

theorem mem_features_accessorMembers {b : Backend} {getter setter : Option Attribute}
    {f : Feature} :
    f ∈ (Backend.accessorMembers getter setter).flatMap (Member.features b) ↔
      (∃ a, getter = some a ∧ f = .accessor .getter a.emittedName) ∨
        (∃ a, setter = some a ∧ f = .accessor .setter a.emittedName) := by
  unfold Backend.accessorMembers
  rw [List.flatMap_append, List.mem_append]
  refine or_congr ?_ ?_
  · cases getter <;> simp [Member.features]
  · cases setter <;> simp [Member.features]

theorem mem_features_pair {b : Backend} {p : AccessorPair} {f : Feature} :
    f ∈ (Backend.accessorMembers p.getter p.setter).flatMap (Member.features b) ↔
      ∃ half a, p.get half = some a ∧ f = .accessor half a.emittedName := by
  rw [mem_features_accessorMembers]
  constructor
  · rintro (⟨a, h, rfl⟩ | ⟨a, h, rfl⟩)
    · exact ⟨.getter, a, h, rfl⟩
    · exact ⟨.setter, a, h, rfl⟩
  · rintro ⟨half, a, h, rfl⟩
    cases half with
    | getter => exact .inl ⟨a, h, rfl⟩
    | setter => exact .inr ⟨a, h, rfl⟩

theorem mem_features_ownAccessors {b : Backend} {p : AccessorPair} {f : Feature} :
    f ∈ (Backend.ownAccessors p).flatMap (Member.features b) ↔
      ∃ half a, p.get half = some a ∧ p.inherited half = false ∧
        f = .accessor half a.emittedName := by
  unfold Backend.ownAccessors
  rw [mem_features_accessorMembers]
  simp only [Option.filter_eq_some_iff, Bool.not_eq_true']
  constructor
  · rintro (⟨a, ⟨h, hown⟩, rfl⟩ | ⟨a, ⟨h, hown⟩, rfl⟩)
    · exact ⟨.getter, a, h, hown, rfl⟩
    · exact ⟨.setter, a, h, hown, rfl⟩
  · rintro ⟨half, a, h, hown, rfl⟩
    cases half with
    | getter => exact .inl ⟨a, ⟨h, hown⟩, rfl⟩
    | setter => exact .inr ⟨a, ⟨h, hown⟩, rfl⟩

/-! ### Methods -/

theorem types_mem_callTypes {o : Operation} {signatures : List String} {x : Overload}
    (h : x ∈ o.overloads signatures) :
    x.types ∈ o.callTypes ∧ x.inherited = signatures.contains o.signature := by
  unfold Operation.overloads at h
  obtain ⟨params, hparams, rfl⟩ := List.mem_map.mp h
  exact ⟨List.mem_map_of_mem hparams, rfl⟩

theorem exists_overload_of_mem_callTypes {o : Operation} {types : List TypeName}
    (h : types ∈ o.callTypes) (signatures : List String) :
    ∃ x, (o.overloads signatures).find? (fun x => x.types = types) = some x := by
  obtain ⟨params, hparams, rfl⟩ := List.mem_map.mp h
  rw [← Option.isSome_iff_exists, List.find?_isSome]
  exact ⟨⟨params, _⟩, List.mem_map_of_mem hparams, by simp [Overload.types]⟩

theorem find?_overloads (signatures : List String) (types : List TypeName)
    (operations : List Operation) :
    (operations.flatMap (Operation.overloads signatures)).find? (fun x => x.types = types) =
      (operations.find? fun o => types ∈ o.callTypes).bind fun o =>
        (o.overloads signatures).find? fun x => x.types = types := by
  induction operations with
  | nil => rfl
  | cons o rest ih =>
      rw [List.flatMap_cons, List.find?_append, List.find?_cons, ih]
      by_cases h : types ∈ o.callTypes
      · obtain ⟨x, hx⟩ := exists_overload_of_mem_callTypes h signatures
        simp [h, hx]
      · have hnone : (o.overloads signatures).find? (fun x => x.types = types) = none := by
          rw [List.find?_eq_none]
          intro x hx hx'
          have htypes : x.types = types := by simpa using hx'
          rw [← htypes] at h
          exact h (types_mem_callTypes hx).1
        simp [h, hnone]

theorem exists_overloadsOf_iff {signatures : List String} {operations : List Operation}
    {types : List TypeName} (P : Bool → Prop) :
    (∃ x ∈ overloadsOf signatures operations, x.types = types ∧ P x.inherited) ↔
      ∃ o, operations.find? (fun o => types ∈ o.callTypes) = some o ∧
        P (signatures.contains o.signature) := by
  constructor
  · rintro ⟨x, hx, rfl, hP⟩
    have hfirst := mem_distinctBy_iff.mp hx
    rw [find?_overloads] at hfirst
    obtain ⟨o, ho, hx'⟩ := Option.bind_eq_some_iff.mp hfirst
    refine ⟨o, ho, ?_⟩
    rw [← (types_mem_callTypes (List.mem_of_find?_eq_some hx')).2]
    exact hP
  · rintro ⟨o, ho, hP⟩
    have hmem : types ∈ o.callTypes := by simpa using List.find?_some ho
    obtain ⟨x, hx⟩ := exists_overload_of_mem_callTypes hmem signatures
    have htypes : x.types = types := by simpa using List.find?_some hx
    refine ⟨x, ?_, htypes, ?_⟩
    · unfold overloadsOf
      rw [mem_distinctBy_iff, htypes, find?_overloads, ho, Option.bind_some, hx]
    · rw [(types_mem_callTypes (List.mem_of_find?_eq_some hx)).2]
      exact hP

theorem exists_own_overload_iff {signatures : List String} {operations : List Operation}
    {types : List TypeName} :
    (∃ x ∈ overloadsOf signatures operations, x.types = types ∧ x.inherited = false) ↔
      ∃ o, operations.find? (fun o => types ∈ o.callTypes) = some o ∧
        o.signature ∉ signatures := by
  rw [exists_overloadsOf_iff (· = false)]
  simp

theorem exists_overload_iff {signatures : List String} {operations : List Operation}
    {types : List TypeName} :
    (∃ x ∈ overloadsOf signatures operations, x.types = types) ↔
      ∃ o ∈ operations, types ∈ o.callTypes := by
  have hiff : (∃ x ∈ overloadsOf signatures operations, x.types = types ∧ True) ↔ _ :=
    exists_overloadsOf_iff fun _ => True
  simp only [and_true] at hiff
  rw [hiff, ← Option.isSome_iff_exists, List.find?_isSome]
  simp

theorem mem_emittedAs {operations : List Operation} {name : String} {o : Operation} :
    o ∈ emittedAs operations name ↔
      o ∈ operations ∧ o.isHost = false ∧ o.emittedName = name := by
  unfold emittedAs
  rw [List.mem_filter, List.mem_filter]
  simp [and_assoc]

/-- Each emitted name has one overload set, which its first operation describes. -/
theorem mem_ownOverloads_iff {operations : List Operation} {signatures : List String}
    {set : OverloadSet} :
    set ∈ ownOverloads operations signatures ↔
      ∃ name first, (emittedAs operations name).head? = some first ∧
        set = { name
                jsName := first.id
                returnType := first.type
                overloads := overloadsOf signatures
                  (distinctBy Operation.signature (emittedAs operations name))
                isStatic := first.isStatic } := by
  unfold ownOverloads
  rw [List.mem_filterMap]
  constructor
  · rintro ⟨name, _, hset⟩
    have hhead := head?_distinctBy Operation.signature (emittedAs operations name)
    change OverloadSet.ofOperations? signatures
      (distinctBy Operation.signature (emittedAs operations name)) = some set at hset
    generalize hlist : distinctBy Operation.signature (emittedAs operations name) = kept
      at hset hhead
    cases kept with
    | nil => cases hset
    | cons first rest =>
        rw [List.head?_cons] at hhead
        have hname : first.emittedName = name :=
          (mem_emittedAs.mp (List.mem_of_head? hhead.symm)).2.2
        rw [OverloadSet.ofOperations?, hname] at hset
        exact ⟨name, first, hhead.symm, by rw [hlist]; exact (Option.some.inj hset).symm⟩
  · rintro ⟨name, first, hhead, rfl⟩
    obtain ⟨hmem, hhost, hname⟩ := mem_emittedAs.mp (List.mem_of_head? hhead)
    refine ⟨name, ?_, ?_⟩
    · rw [mem_distinct_iff, List.mem_map]
      exact ⟨first, List.mem_filter.mpr ⟨hmem, by simp [hhost]⟩, hname⟩
    · change OverloadSet.ofOperations? signatures
        (distinctBy Operation.signature (emittedAs operations name)) = _
      rw [← head?_distinctBy Operation.signature] at hhead
      generalize distinctBy Operation.signature (emittedAs operations name) = kept at hhead
      cases kept with
      | nil => cases hhead
      | cons o rest =>
          cases hhead
          rw [OverloadSet.ofOperations?, hname]

theorem members?_ownOperationCall (b : Backend) (s : Setting) (ctx : Context) (set : OverloadSet) :
    ∃ receiver, b.members? s ctx (ownOperationCall set) =
      if set.isInherited || (b = .contract && set.isStatic) then none
      else some [.methods (Backend.ownOverloadSet set) receiver] := by
  cases b with
  | contract =>
      refine ⟨.this, ?_⟩
      unfold ownOperationCall
      cases set.isStatic <;> simp [Backend.members?, Backend.contractMembers?]
  | overlay =>
      unfold ownOperationCall
      cases set.isStatic with
      | false => exact ⟨.this, by simp [Backend.members?, Backend.overlayMembers?]⟩
      | true =>
          exact ⟨.global ctx.interface.bindingName,
            by simp [Backend.members?, Backend.overlayMembers?]⟩

theorem mem_callFeatures_ownOperationCall {b : Backend} {s : Setting} {ctx : Context}
    {set : OverloadSet} {f : Feature} :
    f ∈ b.callFeatures s ctx (ownOperationCall set) ↔
      (b = .contract → set.isStatic = false) ∧
        ∃ x ∈ set.overloads, x.inherited = false ∧ f = .method set.name x.types set.isStatic := by
  obtain ⟨receiver, hmembers⟩ := members?_ownOperationCall b s ctx set
  unfold Backend.callFeatures
  rw [hmembers]
  by_cases hstatic : b = .contract ∧ set.isStatic = true
  · simp [hstatic.1, hstatic.2]
  · have hkept : b = .contract → set.isStatic = false := by
      intro hb
      rw [← Bool.not_eq_true]
      exact fun h => hstatic ⟨hb, h⟩
    have hflag : (b = .overlay && set.isStatic) = set.isStatic := by
      cases b with
      | overlay => simp
      | contract => simp [hkept rfl]
    have hcond : (b = .contract && set.isStatic) = false := by
      cases b with
      | overlay => simp
      | contract => simp [hkept rfl]
    rw [hcond, Bool.or_false, and_iff_right hkept]
    cases hall : set.isInherited with
    | true =>
        -- a set that is left out as a whole has no overload of its own
        have hinherited : ∀ x ∈ set.overloads, x.inherited = true := by
          simpa [OverloadSet.isInherited] using hall
        simp only [if_true, Option.getD_none, List.flatMap_nil, List.not_mem_nil, false_iff]
        rintro ⟨x, hx, hown, _⟩
        rw [hinherited x hx] at hown
        cases hown
    | false =>
        have hfeatures : ([Member.methods (Backend.ownOverloadSet set) receiver].flatMap
            (Member.features b)) = (set.overloads.filter fun x => !x.inherited).map
              fun x => Feature.method set.name x.types set.isStatic := by
          simp [Member.features, Backend.ownOverloadSet, hflag]
        simp only [Bool.false_eq_true, if_false, Option.getD_some]
        rw [hfeatures, List.mem_map]
        constructor
        · rintro ⟨x, hx, rfl⟩
          obtain ⟨hx, hown⟩ := List.mem_filter.mp hx
          exact ⟨x, hx, by simpa using hown, rfl⟩
        · rintro ⟨x, hx, hown, rfl⟩
          exact ⟨x, List.mem_filter.mpr ⟨hx, by simp [hown]⟩, rfl⟩

/-! ### Own members -/

theorem key_notMem_iff {ancestors : List Interface} {half : Half} {name : String} :
    half.key name ∉ ancestors.flatMap (fun a => a.attributes.flatMap Attribute.accessorKeys) ↔
      ∀ a ∈ ancestors, ¬ a.Carries (.accessor half name) := by
  simp only [List.mem_flatMap, Attribute.key_mem_accessorKeys, Interface.Carries, not_exists,
    not_and]

theorem signature_notMem_iff {ancestors : List Interface} {text : String} :
    text ∉ ancestors.flatMap (fun a => a.operations.map Operation.signature) ↔
      ∀ a ∈ ancestors, ¬ a.Carries (.signature text) := by
  simp only [List.mem_flatMap, List.mem_map, Interface.Carries, not_exists, not_and]

section
variable {b : Backend} {s : Setting} {ctx : Context} {i : Interface}

theorem mem_callFeatures_accessors {keys : List String} {p : AccessorPair} {f : Feature} :
    f ∈ b.callFeatures s ctx (.accessors (p.markInherited keys)) ↔
      ∃ half a, p.get half = some a ∧ half.key a.emittedName ∉ keys ∧
        f = .accessor half a.emittedName := by
  have hmembers : (b.members? s ctx (.accessors (p.markInherited keys))).getD [] =
      Backend.ownAccessors (p.markInherited keys) := by
    cases b with
    | contract => rfl
    | overlay =>
        show (Backend.nonempty? _).getD [] = _
        cases Backend.ownAccessors (p.markInherited keys) <;> rfl
  unfold Backend.callFeatures
  rw [hmembers, mem_features_ownAccessors]
  simp only [AccessorPair.get_markInherited]
  constructor
  · rintro ⟨half, a, h, hown, rfl⟩
    exact ⟨half, a, h, (AccessorPair.inherited_markInherited h).mp hown, rfl⟩
  · rintro ⟨half, a, h, hown, rfl⟩
    exact ⟨half, a, h, (AccessorPair.inherited_markInherited h).mpr hown, rfl⟩

theorem introduces_accessor_iff {half : Half} {name : String} :
    s.Introduces i (.accessor half name) ↔
      (∃ a, i.Leads half a ∧ a.emittedName = name) ∧
        ∀ a ∈ s.graph.inheritedFrom s.config.mixinBase i, ¬ a.Carries (.accessor half name) := by
  constructor
  · rintro ⟨mark, ⟨rfl, ha⟩, hnone⟩
    exact ⟨ha, hnone⟩
  · rintro ⟨ha, hnone⟩
    exact ⟨_, ⟨rfl, ha⟩, hnone⟩

theorem introduces_method_iff {name : String} {types : List TypeName} {isStatic : Bool} :
    s.Introduces i (.method name types isStatic) ↔
      ∃ o first, i.provider? name types = some o ∧ (i.namesakes name).head? = some first ∧
        first.isStatic = isStatic ∧
        ∀ a ∈ s.graph.inheritedFrom s.config.mixinBase i, ¬ a.Carries (.signature o.signature) := by
  constructor
  · rintro ⟨mark, ⟨o, ho, rfl, hfirst⟩, hnone⟩
    cases hhead : (i.namesakes name).head? with
    | none => rw [hhead] at hfirst; cases hfirst
    | some first => exact ⟨o, first, ho, rfl, by simpa [hhead] using hfirst, hnone⟩
  · rintro ⟨o, first, ho, hhead, rfl, hnone⟩
    exact ⟨_, ⟨o, ho, rfl, by simp [hhead]⟩, hnone⟩

/-- What the own members of an interface bring into its unit is what it introduces. -/
theorem mem_features_ownCalls (b : Backend) (s : Setting) (ctx : Context) (i : Interface)
    (f : Feature) :
    (∃ call ∈ s.ownCalls i, f ∈ b.callFeatures s ctx call) ↔
      s.Introduces i f ∧ (b = .contract → f.isStatic = false) := by
  unfold Setting.ownCalls
  simp only [List.mem_append, List.mem_map]
  constructor
  · rintro ⟨call, ((⟨c, _, rfl⟩ | ⟨p, hp, rfl⟩) | ⟨t, _, rfl⟩) | ⟨set, hset, rfl⟩, hf⟩
    · cases b <;> simp [Backend.callFeatures, Backend.members?, Backend.contractMembers?,
        Backend.overlayMembers?, Member.features] at hf
    · obtain ⟨half, a, ha, hkey, rfl⟩ := mem_callFeatures_accessors.mp hf
      refine ⟨introduces_accessor_iff.mpr ⟨⟨a, ?_, rfl⟩, ?_⟩, fun _ => rfl⟩
      · exact AccessorPair.exists_get_iff.mp ⟨p, hp, ha⟩
      · exact key_notMem_iff.mp hkey
    · cases b <;> simp [Backend.callFeatures, Backend.members?, Backend.contractMembers?,
        Backend.overlayMembers?, Member.features] at hf
    · obtain ⟨hstatic, x, hx, hown, rfl⟩ := mem_callFeatures_ownOperationCall.mp hf
      obtain ⟨name, first, hhead, rfl⟩ := mem_ownOverloads_iff.mp hset
      obtain ⟨o, ho, hnew⟩ := exists_own_overload_iff.mp ⟨x, hx, rfl, hown⟩
      have hnone := signature_notMem_iff.mp hnew
      exact ⟨introduces_method_iff.mpr ⟨o, first, ho, hhead, rfl, hnone⟩, hstatic⟩
  · rintro ⟨hf, hstatic⟩
    cases f with
    | accessor half name =>
        obtain ⟨⟨a, ha, rfl⟩, hnone⟩ := introduces_accessor_iff.mp hf
        obtain ⟨p, hp, hget⟩ := AccessorPair.exists_get_iff.mpr ha
        refine ⟨_, .inl (.inl (.inr ⟨p, hp, rfl⟩)), ?_⟩
        rw [mem_callFeatures_accessors]
        exact ⟨half, a, hget, key_notMem_iff.mpr hnone, rfl⟩
    | method name types isStatic =>
        obtain ⟨o, first, ho, hhead, rfl, hnone⟩ := introduces_method_iff.mp hf
        obtain ⟨x, hx, rfl, hown⟩ :=
          exists_own_overload_iff.mpr ⟨o, ho, signature_notMem_iff.mpr hnone⟩
        refine ⟨_, .inr ⟨_, mem_ownOverloads_iff.mpr ⟨name, first, hhead, rfl⟩, rfl⟩, ?_⟩
        rw [mem_callFeatures_ownOperationCall]
        exact ⟨hstatic, x, hx, hown, rfl⟩

end

/-! ### Whole units -/

section
variable {s : Setting} {ctx : Context} {i : Interface} {f : Feature}

theorem features_of_globalMembers {b : Backend} {members : List Member} {m : Member}
    (h : Backend.globalMembers s = .ok members) (hm : m ∈ members) : m.features b = [] := by
  unfold Backend.globalMembers at h
  cases hfactories : s.graph.typedArrayFactories s.config.globalRoot with
  | error e => rw [hfactories] at h; cases h
  | ok arrays =>
      rw [hfactories] at h
      cases h
      rcases List.mem_append.mp hm with hm | hm <;> obtain ⟨_, _, rfl⟩ := List.mem_map.mp hm <;> rfl

theorem features_of_overlayFactories {b : Backend} {members : List Member} {m : Member}
    (h : Backend.overlayFactories s ctx = .ok members) (hm : m ∈ members) : m.features b = [] := by
  unfold Backend.overlayFactories at h
  dsimp only at h
  split at h
  · cases h
    rcases List.mem_append.mp hm with hm | hm <;> obtain ⟨_, _, rfl⟩ := List.mem_map.mp hm <;> rfl
  · cases h

/-- What the last stages add are helpers of other kinds. -/
theorem features_of_mem_stages {b : Backend} {members : List Member}
    (h : .ok members ∈ b.stages s ctx) : members.flatMap (Member.features b) = [] := by
  rw [List.flatMap_eq_nil_iff]
  intro m hm
  cases b with
  | contract =>
      simp only [Backend.stages, List.mem_append, List.mem_ite_nil_right, List.mem_singleton] at h
      rcases h with ⟨_, h⟩ | ⟨_, h⟩
      · cases h
        obtain ⟨_, _, rfl⟩ := List.mem_map.mp hm
        rfl
      · exact features_of_globalMembers h.symm hm
  | overlay =>
      simp only [Backend.stages, List.mem_append, List.mem_ite_nil_right, List.mem_singleton,
        Option.mem_toList] at h
      rcases h with (⟨_, h⟩ | ⟨_, h⟩) | ⟨_, h⟩
      · obtain ⟨listeners, hlisteners, hok⟩ := Option.map_eq_some_iff.mp h
        cases hok
        obtain ⟨_, _, rfl⟩ := Option.map_eq_some_iff.mp hlisteners
        obtain rfl := List.mem_singleton.mp hm
        rfl
      · exact features_of_overlayFactories h.symm hm
      · exact features_of_globalMembers h.symm hm

theorem features_stageMembers (b : Backend) :
    (b.stageMembers s ctx).flatMap (Member.features b) = [] := by
  unfold Backend.stageMembers
  rw [List.flatMap_assoc, List.flatMap_eq_nil_iff]
  intro stage hstage
  cases stage with
  | error e => rfl
  | ok members => exact features_of_mem_stages hstage

theorem mem_features_built {b : Backend} :
    f ∈ (b.built s ctx).features b ↔
      ∃ call ∈ s.ownCalls ctx.interface ++ s.secondaryCalls ctx.interface,
        f ∈ b.callFeatures s ctx call := by
  have hmembers : (b.built s ctx).members = b.callMembers s ctx
      (s.ownCalls ctx.interface ++ s.secondaryCalls ctx.interface) ++ b.stageMembers s ctx := by
    cases b <;> rfl
  unfold CompilationUnit.features
  rw [hmembers, List.flatMap_append, features_stageMembers, List.append_nil, Backend.callMembers,
    List.flatMap_assoc, List.mem_flatMap]
  rfl

theorem exists_owner_of_mem_contributionCalls {c : Contributed} {owners : List Interface}
    {call : Call} (h : call ∈ contributionCalls i c owners) :
    ∃ owner, (∃ p, call = .secondaryAccessors owner p) ∨
      ∃ set, call = .secondaryOperation owner set := by
  induction owners generalizing c with
  | nil => cases h
  | cons owner rest ih =>
      rw [contributionCalls, List.mem_append] at h
      rcases h with h | h
      · simp only [ownerCalls, List.mem_append, List.mem_map] at h
        rcases h with ⟨p, _, rfl⟩ | ⟨set, _, rfl⟩
        · exact ⟨owner, .inl ⟨p, rfl⟩⟩
        · exact ⟨owner, .inr ⟨set, rfl⟩⟩
      · exact ih h

/-- A contract has what its interface introduces, but for what needs no object. -/
theorem mem_features_contract :
    f ∈ (Backend.contract.built s (s.context i)).features .contract ↔
      s.Introduces i f ∧ f.isStatic = false := by
  have hown := mem_features_ownCalls .contract s (s.context i) i f
  rw [mem_features_built]
  constructor
  · rintro ⟨call, hcall, hf⟩
    rcases List.mem_append.mp hcall with hcall | hcall
    · obtain ⟨hintroduces, hstatic⟩ := hown.mp ⟨call, hcall, hf⟩
      exact ⟨hintroduces, hstatic rfl⟩
    · -- members of secondary ancestors are left to their contracts
      obtain ⟨owner, ⟨p, rfl⟩ | ⟨set, rfl⟩⟩ := exists_owner_of_mem_contributionCalls hcall <;>
        simp [Backend.callFeatures, Backend.members?, Backend.contractMembers?] at hf
  · rintro ⟨hintroduces, hstatic⟩
    obtain ⟨call, hcall, hf⟩ := hown.mpr ⟨hintroduces, fun _ => hstatic⟩
    exact ⟨call, List.mem_append_left _ hcall, hf⟩

end

end Bindery
