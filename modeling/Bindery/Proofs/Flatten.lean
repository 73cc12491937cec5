import Bindery.Proofs.Feature

/-! # What an overlay class takes over

An overlay class takes over the features of its secondary ancestors: an accessor from the first
ancestor that declares an attribute of the identifier, and a method from the first that has one of
its name and parameter types (`Setting.Flattens`).  Only owners that are no mixins count, but
mixins take part in the search.  `mem_features_overlay` says that an overlay class has exactly what
its interface introduces and what it takes over. -/

namespace Bindery

/-! ### Candidates -/

/-- A method that a secondary ancestor has for an interface. -/
structure Contribution where
  owner : Interface
  name : String
  types : List TypeName
  isStatic : Bool
  deriving DecidableEq

namespace Contribution

/-- The text by which methods are told apart. -/
def key (c : Contribution) : String :=
  c.name ++ "(" ++ String.intercalate "," c.types ++ ")"

/-- The methods of an overload set. -/
def ofSet (owner : Interface) (set : OverloadSet) : List Contribution :=
  set.overloads.map fun x => ⟨owner, set.name, x.types, set.isStatic⟩

/-- The methods that operations, grouped by identifier, give. -/
def ofGroups (owner : Interface) (groups : List (List Operation)) : List Contribution :=
  (groups.filterMap (OverloadSet.ofOperations? [])).flatMap (ofSet owner)

theorem owner_of_mem_ofSet {owner : Interface} {set : OverloadSet} {x : Contribution}
    (h : x ∈ ofSet owner set) : x.owner = owner := by
  obtain ⟨_, _, rfl⟩ := List.mem_map.mp h
  rfl

end Contribution

/-- All methods that owners have for an interface, in order, where an operation counts only if no
operation of its signature came before. -/
def contributions (i : Interface) (signatures : List String) : List Interface → List Contribution
  | [] => []
  | owner :: rest =>
    let missing := missingOperations i owner
    Contribution.ofGroups owner
        (operationGroups (distinctFrom Operation.signature signatures missing)) ++
      contributions i (signatures ++ missing.map Operation.signature) rest

/-- The overlay class of an interface takes a feature over from a secondary ancestor. -/
def Setting.Flattens (s : Setting) (i : Interface) : Feature → Prop
  | .accessor half name => ∃ owner a,
      (s.graph.owners i).find? (·.hasAttribute a.id) = some owner ∧
        s.mixins.contains owner.id = false ∧ i.hasAttribute a.id = false ∧ owner.Leads half a ∧
        a.emittedName = name
  | .method name types isStatic => ∃ owner : Interface,
      s.mixins.contains owner.id = false ∧
        (contributions i [] (s.graph.owners i)).find?
            (fun c => c.key = Contribution.key ⟨owner, name, types, isStatic⟩) =
          some ⟨owner, name, types, isStatic⟩

/-! ### Accessors -/

theorem Interface.hasAttribute_iff {i : Interface} {id : String} :
    i.hasAttribute id = true ↔ id ∈ i.attributes.map (·.id) := by
  simp [hasAttribute]

theorem Interface.hasAttribute_of_mem {i : Interface} {a : Attribute} (h : a ∈ i.attributes) :
    i.hasAttribute a.id = true :=
  hasAttribute_iff.mpr (List.mem_map_of_mem h)

/-- Leaving out whole identifiers does not change what is found of the others. -/
theorem find?_missingAttributes {i owner : Interface} {c : Contributed} {id : String}
    (hi : i.hasAttribute id = false) (hc : id ∉ c.attributes) (half : Half) :
    (missingAttributes i owner c).find? (fun a => a.id = id ∧ a.has half = true) =
      owner.attributes.find? (fun a => a.id = id ∧ a.has half = true) := by
  unfold missingAttributes
  rw [List.find?_filter]
  congr 1
  funext a
  by_cases ha : a.id = id
  · simp [ha, hi, hc]
  · simp [ha]

theorem mem_missingAttributes {i owner : Interface} {c : Contributed} {a : Attribute} :
    a ∈ missingAttributes i owner c ↔
      a ∈ owner.attributes ∧ i.hasAttribute a.id = false ∧ a.id ∉ c.attributes := by
  unfold missingAttributes
  simp

theorem leads_missingAttributes_iff {i owner : Interface} {c : Contributed} {half : Half}
    {a : Attribute} :
    (missingAttributes i owner c).find? (fun x => x.id = a.id ∧ x.has half = true) = some a ↔
      i.hasAttribute a.id = false ∧ a.id ∉ c.attributes ∧ owner.Leads half a := by
  constructor
  · intro h
    obtain ⟨_, hi, hc⟩ := mem_missingAttributes.mp (List.mem_of_find?_eq_some h)
    rw [find?_missingAttributes hi hc] at h
    exact ⟨hi, hc, h⟩
  · rintro ⟨hi, hc, hleads⟩
    rw [find?_missingAttributes hi hc]
    exact hleads

/-- What an owner declares is passed over from then on. -/
theorem notMem_attributes_ownerCalls {i owner : Interface} {c : Contributed} {id : String} :
    id ∉ (ownerCalls i owner c).2.attributes ↔
      id ∉ c.attributes ∧ owner.hasAttribute id = false := by
  rw [← Bool.not_eq_true, Interface.hasAttribute_iff]
  show id ∉ c.attributes ++ _ ↔ _
  rw [List.mem_append, not_or]

theorem secondaryAccessors_mem_ownerCalls {i first owner : Interface} {c : Contributed}
    {p : AccessorPair} :
    .secondaryAccessors owner p ∈ (ownerCalls i first c).1 ↔
      first = owner ∧ p ∈ AccessorPair.ofAttributes (missingAttributes i first c) := by
  unfold ownerCalls
  simp only [List.mem_append, List.mem_map]
  constructor
  · rintro (⟨q, hq, h⟩ | ⟨set, _, h⟩)
    · cases h
      exact ⟨rfl, hq⟩
    · cases h
  · rintro ⟨rfl, hp⟩
    exact .inl ⟨p, hp, rfl⟩

/-- An accessor comes from the first owner that declares an attribute of the identifier. -/
theorem exists_secondaryAccessors_iff {i : Interface} {owners : List Interface} {c : Contributed}
    {half : Half} {a : Attribute} {owner : Interface} :
    (∃ p, .secondaryAccessors owner p ∈ contributionCalls i c owners ∧ p.get half = some a) ↔
      owners.find? (·.hasAttribute a.id) = some owner ∧ i.hasAttribute a.id = false ∧
        a.id ∉ c.attributes ∧ owner.Leads half a := by
  induction owners generalizing c with
  | nil => simp [contributionCalls]
  | cons first rest ih =>
      rw [List.find?_cons]
      constructor
      · rintro ⟨p, hp, hget⟩
        rw [contributionCalls, List.mem_append, secondaryAccessors_mem_ownerCalls] at hp
        rcases hp with ⟨rfl, hp⟩ | hp
        · obtain ⟨hi, hc, hleads⟩ :=
            leads_missingAttributes_iff.mp (AccessorPair.exists_get_iff.mp ⟨p, hp, hget⟩)
          simp [Interface.hasAttribute_of_mem (Interface.mem_of_leads hleads), hi, hc, hleads]
        · obtain ⟨hfind, hi, hc, hleads⟩ := ih.mp ⟨p, hp, hget⟩
          obtain ⟨hc, hfirst⟩ := notMem_attributes_ownerCalls.mp hc
          simp [hfirst, hfind, hi, hc, hleads]
      · rintro ⟨hfind, hi, hc, hleads⟩
        cases hfirst : first.hasAttribute a.id with
        | true =>
            rw [hfirst] at hfind
            obtain rfl : first = owner := Option.some.inj hfind
            obtain ⟨p, hp, hget⟩ := AccessorPair.exists_get_iff.mpr
              (leads_missingAttributes_iff.mpr ⟨hi, hc, hleads⟩)
            refine ⟨p, ?_, hget⟩
            rw [contributionCalls, List.mem_append, secondaryAccessors_mem_ownerCalls]
            exact .inl ⟨rfl, hp⟩
        | false =>
            rw [hfirst] at hfind
            have hlater : a.id ∉ (ownerCalls i first c).2.attributes :=
              notMem_attributes_ownerCalls.mpr ⟨hc, hfirst⟩
            obtain ⟨p, hp, hget⟩ := ih.mpr ⟨hfind, hi, hlater, hleads⟩
            refine ⟨p, ?_, hget⟩
            rw [contributionCalls, List.mem_append]
            exact .inr hp

/-! ### Methods -/

/-- The methods that calls ask to take over. -/
def Call.contributions : Call → List Contribution
  | .secondaryOperation owner set => Contribution.ofSet owner set
  | _ => []

/-- An overload set without the overloads that came before. -/
def OverloadSet.fresh (seen : List String) (set : OverloadSet) : OverloadSet :=
  { set with
    overloads := distinctFrom (fun x : Overload => overloadKey set.name x.params) seen
      set.overloads }

theorem Contribution.ofSet_fresh (owner : Interface) (seen : List String) (set : OverloadSet) :
    ofSet owner (set.fresh seen) = distinctFrom key seen (ofSet owner set) :=
  (distinctFrom_map key _ seen set.overloads).symm

theorem Contribution.map_key_ofSet (owner : Interface) (set : OverloadSet) :
    (ofSet owner set).map key = set.overloads.map fun x => overloadKey set.name x.params := by
  unfold ofSet
  rw [List.map_map]
  rfl

theorem newOverloadSets_eq (owner : Interface) (seen : List String)
    (groups : List (List Operation)) :
    (newOverloadSets seen groups).1.flatMap (Contribution.ofSet owner) =
        distinctFrom Contribution.key seen (Contribution.ofGroups owner groups) ∧
      (newOverloadSets seen groups).2 =
        seen ++ (Contribution.ofGroups owner groups).map Contribution.key := by
  induction groups generalizing seen with
  | nil => simp [newOverloadSets, Contribution.ofGroups, distinctFrom]
  | cons group rest ih =>
      rw [newOverloadSets, Contribution.ofGroups, List.filterMap_cons]
      cases hset : OverloadSet.ofOperations? [] group with
      | none => exact ih seen
      | some set =>
          obtain ⟨ihsets, ihkeys⟩ :=
            ih (seen ++ set.overloads.map fun x => overloadKey set.name x.params)
          dsimp only
          rw [List.flatMap_cons, distinctFrom_append, List.map_append, Contribution.map_key_ofSet,
            ← Contribution.ofSet_fresh, ← List.append_assoc]
          split
          · next hempty =>
            -- a set of which nothing is new is left out
            have hnone : Contribution.ofSet owner (set.fresh seen) = [] := by
              unfold Contribution.ofSet OverloadSet.fresh
              rw [List.isEmpty_iff.mp hempty]
              rfl
            rw [hnone]
            exact ⟨ihsets, ihkeys⟩
          · refine ⟨?_, ihkeys⟩
            rw [List.flatMap_cons, ihsets]
            rfl

/-- The methods of all calls are the candidates, each at its first occurrence only. -/
theorem contributions_contributionCalls (i : Interface) (c : Contributed)
    (owners : List Interface) :
    (contributionCalls i c owners).flatMap Call.contributions =
      distinctFrom Contribution.key c.overloads (contributions i c.signatures owners) := by
  induction owners generalizing c with
  | nil => rfl
  | cons owner rest ih =>
      obtain ⟨hsets, hkeys⟩ := newOverloadSets_eq owner c.overloads
        (operationGroups (distinctFrom Operation.signature c.signatures
          (missingOperations i owner)))
      have hcalls : (ownerCalls i owner c).1.flatMap Call.contributions =
          (newOverloadSets c.overloads (operationGroups (distinctFrom Operation.signature
            c.signatures (missingOperations i owner)))).1.flatMap (Contribution.ofSet owner) := by
        unfold ownerCalls
        dsimp only
        rw [List.flatMap_append, List.flatMap_map, List.flatMap_map]
        simp [Call.contributions]
      rw [contributionCalls, List.flatMap_append, ih, hcalls, hsets, contributions,
        distinctFrom_append, ← hkeys]
      rfl

theorem exists_secondaryOperation_iff {i : Interface} {owners : List Interface}
    {x : Contribution} :
    (∃ set, .secondaryOperation x.owner set ∈ contributionCalls i {} owners ∧
        x ∈ Contribution.ofSet x.owner set) ↔
      (contributions i [] owners).find? (fun c => c.key = x.key) = some x := by
  rw [← mem_distinctBy_iff, distinctBy]
  have hcalls := contributions_contributionCalls i {} owners
  rw [← hcalls, List.mem_flatMap]
  constructor
  · rintro ⟨set, hset, hx⟩
    exact ⟨_, hset, hx⟩
  · rintro ⟨call, hcall, hx⟩
    cases call with
    | secondaryOperation owner set =>
        obtain rfl := Contribution.owner_of_mem_ofSet hx
        exact ⟨set, hcall, hx⟩
    | _ => cases hx

/-! ### Overlay classes -/

section
variable {s : Setting} {ctx : Context} {i : Interface}

theorem mem_callFeatures_secondaryAccessors {owner : Interface} {p : AccessorPair} {f : Feature} :
    f ∈ Backend.overlay.callFeatures s ctx (.secondaryAccessors owner p) ↔
      s.mixins.contains owner.id = false ∧
        ∃ half a, p.get half = some a ∧ f = .accessor half a.emittedName := by
  unfold Backend.callFeatures
  cases hmixin : s.mixins.contains owner.id with
  | true => simp [Backend.members?, Backend.overlayMembers?, hmixin]
  | false =>
      have hmembers : (Backend.overlay.members? s ctx (.secondaryAccessors owner p)).getD [] =
          Backend.accessorMembers p.getter p.setter := by
        simp only [Backend.members?, Backend.overlayMembers?, hmixin, Bool.false_eq_true, if_false]
        cases Backend.accessorMembers p.getter p.setter <;> rfl
      rw [hmembers, mem_features_pair]
      exact ⟨fun h => ⟨rfl, h⟩, fun h => h.2⟩

theorem mem_callFeatures_secondaryOperation {owner : Interface} {set : OverloadSet} {f : Feature} :
    f ∈ Backend.overlay.callFeatures s ctx (.secondaryOperation owner set) ↔
      s.mixins.contains owner.id = false ∧
        ∃ x ∈ Contribution.ofSet owner set, f = .method x.name x.types x.isStatic := by
  unfold Backend.callFeatures
  cases hmixin : s.mixins.contains owner.id with
  | true => simp [Backend.members?, Backend.overlayMembers?, hmixin]
  | false =>
      simp [Backend.members?, Backend.overlayMembers?, hmixin, Member.features,
        Contribution.ofSet, eq_comm]

theorem mem_features_secondaryCalls {f : Feature} :
    (∃ call ∈ s.secondaryCalls i, f ∈ Backend.overlay.callFeatures s ctx call) ↔
      s.Flattens i f := by
  unfold Setting.secondaryCalls
  constructor
  · rintro ⟨call, hcall, hf⟩
    obtain ⟨owner, ⟨p, rfl⟩ | ⟨set, rfl⟩⟩ := exists_owner_of_mem_contributionCalls hcall
    · obtain ⟨hmixin, half, a, hget, rfl⟩ := mem_callFeatures_secondaryAccessors.mp hf
      obtain ⟨hfind, hi, _, hleads⟩ := exists_secondaryAccessors_iff.mp ⟨p, hcall, hget⟩
      exact ⟨owner, a, hfind, hmixin, hi, hleads, rfl⟩
    · obtain ⟨hmixin, x, hx, rfl⟩ := mem_callFeatures_secondaryOperation.mp hf
      obtain rfl := Contribution.owner_of_mem_ofSet hx
      exact ⟨x.owner, hmixin, exists_secondaryOperation_iff.mp ⟨set, hcall, hx⟩⟩
  · intro hf
    cases f with
    | accessor half name =>
        obtain ⟨owner, a, hfind, hmixin, hi, hleads, rfl⟩ := hf
        obtain ⟨p, hp, hget⟩ :=
          exists_secondaryAccessors_iff (c := {}) |>.mpr ⟨hfind, hi, List.not_mem_nil, hleads⟩
        exact ⟨_, hp, mem_callFeatures_secondaryAccessors.mpr ⟨hmixin, half, a, hget, rfl⟩⟩
    | method name types isStatic =>
        obtain ⟨owner, hmixin, hfind⟩ := hf
        obtain ⟨set, hset, hx⟩ := exists_secondaryOperation_iff.mpr hfind
        exact ⟨_, hset, mem_callFeatures_secondaryOperation.mpr ⟨hmixin, _, hx, rfl⟩⟩

/-- An overlay class has what its interface introduces and what it takes over. -/
theorem mem_features_overlay {f : Feature} :
    f ∈ (Backend.overlay.built s (s.context i)).features .overlay ↔
      s.Introduces i f ∨ s.Flattens i f := by
  have hown := mem_features_ownCalls .overlay s (s.context i) i f
  simp only [reduceCtorEq, false_implies, and_true] at hown
  rw [mem_features_built, ← hown, ← mem_features_secondaryCalls]
  simp only [List.mem_append, or_and_right, exists_or]
  rfl

end

end Bindery
