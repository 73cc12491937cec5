import Mathlib.Data.List.Basic
import Bindery.Proofs.Key
import Bindery.Proofs.Protocol

/-! # What flattening keeps

An interface is meant to get every accessor and every way to call an operation that its secondary
ancestors have and it does not declare itself (`Setting.KeepsMembers`).  What it gets is less: the
first ancestor that declares an attribute decides on both accessors, the first operation of a
signature on the arguments that may be left out, and the first of an identifier on the name
(`carried_members_iff`).  Nothing is lost if the ancestors agree on all three
(`Setting.Accordant`). -/

namespace Bindery

/-! ### Members that calls carry -/

/-- Whether a call carries an accessor over from a secondary ancestor. -/
def Call.carriesAccessor (half : Half) (id : String) : Call → Bool
  | .secondaryAccessors _ pair => (pair.get half).any (·.id = id)
  | _ => false

/-- Whether a call carries an overload over from a secondary ancestor. -/
def Call.carriesOverload (name : String) (types : List TypeName) : Call → Bool
  | .secondaryOperation _ set => set.name = name && set.overloads.any (·.types = types)
  | _ => false

/-- An interface declares an attribute with an accessor. -/
def Interface.HasAccessor (i : Interface) (half : Half) (id : String) : Prop :=
  ∃ a ∈ i.attributes, a.id = id ∧ a.has half = true

instance (i : Interface) (half : Half) (id : String) : Decidable (i.HasAccessor half id) :=
  inferInstanceAs (Decidable (∃ a ∈ _, _))

namespace Setting

/-- An interface gets an accessor from its secondary ancestors. -/
def CarriesAccessor (s : Setting) (i : Interface) (half : Half) (id : String) : Prop :=
  ∃ call ∈ s.interfaceCalls i, call.carriesAccessor half id = true

/-- An interface gets a way to call an operation from its secondary ancestors. -/
def CarriesOverload (s : Setting) (i : Interface) (name : String) (types : List TypeName) : Prop :=
  ∃ call ∈ s.interfaceCalls i, call.carriesOverload name types = true

instance (s : Setting) (i : Interface) (half : Half) (id : String) :
    Decidable (s.CarriesAccessor i half id) :=
  inferInstanceAs (Decidable (∃ call ∈ _, _))

instance (s : Setting) (i : Interface) (name : String) (types : List TypeName) :
    Decidable (s.CarriesOverload i name types) :=
  inferInstanceAs (Decidable (∃ call ∈ _, _))

/-- An interface gets all that its secondary ancestors have and it does not declare. -/
def KeepsMembers (s : Setting) (i : Interface) : Prop :=
  ∀ owner ∈ s.graph.owners i,
    (∀ half id, owner.HasAccessor half id → i.hasAttribute id = false →
      s.CarriesAccessor i half id) ∧
    ∀ o ∈ owner.operations, o.isHost = false → i.hasOperation o.id = false →
      ∀ types ∈ o.callTypes, s.CarriesOverload i o.emittedName types

/-- Secondary ancestors agree on what they declare in common. -/
structure Accordant (s : Setting) (i : Interface) : Prop where
  /-- Attributes of one identifier have the same accessors. -/
  halves : ∀ half, ∀ owner ∈ s.graph.owners i, ∀ a ∈ owner.attributes,
    i.hasAttribute a.id = false → a.has half = true → ∀ other ∈ s.graph.owners i,
      other.hasAttribute a.id = true → other.HasAccessor half a.id
  /-- Operations of one signature may be called in the same ways. -/
  signatures : ∀ owner ∈ s.graph.owners i, ∀ o ∈ missingOperations i owner,
    ∀ other ∈ s.graph.owners i, ∀ p ∈ missingOperations i other, p.signature = o.signature →
      p.emittedName = o.emittedName ∧ o.callTypes ⊆ p.callTypes
  /-- Operations of one ancestor with one identifier have the same name. -/
  names : ∀ owner ∈ s.graph.owners i, ∀ o ∈ missingOperations i owner,
    ∀ p ∈ missingOperations i owner, p.id = o.id → p.emittedName = o.emittedName
  /-- Names and types are free of the marks that join them to keys. -/
  plain : ∀ owner ∈ s.graph.owners i, ∀ o ∈ missingOperations i owner,
    PlainCall o.emittedName o.argumentTypes

end Setting

theorem mem_missingOperations {i owner : Interface} {o : Operation} :
    o ∈ missingOperations i owner ↔
      o ∈ owner.operations ∧ o.isHost = false ∧ i.hasOperation o.id = false := by
  unfold missingOperations
  simp [and_comm]

/-! ### Operations that secondary ancestors supply -/

/-- The operations that owners have for an interface, the first of each signature that is not
taken. -/
def suppliesFrom (i : Interface) (signatures : List String) (owners : List Interface) :
    List (Interface × Operation) :=
  distinctFrom (fun e => e.2.signature) signatures
    (owners.flatMap fun owner => (missingOperations i owner).map (owner, ·))

/-- The operations that one of the owners supplies. -/
def suppliedBy (i : Interface) (signatures : List String) (owners : List Interface)
    (owner : Interface) : List Operation :=
  ((suppliesFrom i signatures owners).filter (·.1 = owner)).map (·.2)

section
variable {i : Interface} {signatures : List String} {owners : List Interface}

theorem suppliesFrom_cons (i first : Interface) (signatures : List String)
    (rest : List Interface) :
    suppliesFrom i signatures (first :: rest) =
      (distinctFrom Operation.signature signatures (missingOperations i first)).map (first, ·) ++
        suppliesFrom i (signatures ++ (missingOperations i first).map Operation.signature)
          rest := by
  unfold suppliesFrom
  rw [List.flatMap_cons, distinctFrom_append, distinctFrom_map, List.map_map]
  rfl

theorem mem_suppliedBy {owner : Interface} {o : Operation} :
    o ∈ suppliedBy i signatures owners owner ↔ (owner, o) ∈ suppliesFrom i signatures owners := by
  simp [suppliedBy]

theorem of_mem_suppliedBy {owner : Interface} {o : Operation}
    (h : o ∈ suppliedBy i signatures owners owner) :
    owner ∈ owners ∧ o ∈ missingOperations i owner ∧ o.signature ∉ signatures := by
  obtain ⟨hnew, hfind⟩ := mem_distinctFrom_iff.mp (mem_suppliedBy.mp h)
  obtain ⟨other, hother, hmem⟩ := List.mem_flatMap.mp (List.mem_of_find?_eq_some hfind)
  obtain ⟨p, hp, heq⟩ := List.mem_map.mp hmem
  cases heq
  exact ⟨hother, hp, hnew⟩

/-- An owner that comes again has nothing left to supply. -/
theorem suppliedBy_spent (i owner : Interface) (signatures : List String)
    (owners : List Interface) :
    suppliedBy i (signatures ++ (missingOperations i owner).map Operation.signature) owners owner =
      [] := by
  rw [List.eq_nil_iff_forall_not_mem]
  intro o ho
  obtain ⟨_, hmem, hnew⟩ := of_mem_suppliedBy ho
  exact hnew (List.mem_append_right _ (List.mem_map.mpr ⟨o, hmem, rfl⟩))

theorem suppliedBy_cons (first : Interface) (rest : List Interface) (owner : Interface) :
    suppliedBy i signatures (first :: rest) owner =
      if owner = first then
        distinctFrom Operation.signature signatures (missingOperations i first)
      else
        suppliedBy i (signatures ++ (missingOperations i first).map Operation.signature) rest
          owner := by
  have hfirst : ∀ operations : List Operation,
      ((operations.map (first, ·)).filter (·.1 = owner)).map (·.2) =
        if owner = first then operations else [] := by
    intro operations
    rw [List.filter_map, List.map_map]
    by_cases howner : owner = first
    · simp [howner, Function.comp_def]
    · simp [Ne.symm howner, howner, Function.comp_def]
  conv_lhs => rw [suppliedBy, suppliesFrom_cons, List.filter_append, List.map_append, hfirst]
  split
  · next howner =>
    subst howner
    have hspent := suppliedBy_spent i owner signatures rest
    unfold suppliedBy at hspent
    rw [hspent, List.append_nil]
  · rfl

theorem exists_mem_suppliedBy {owner : Interface} {o : Operation} (howner : owner ∈ owners)
    (ho : o ∈ missingOperations i owner) :
    ∃ other, ∃ p ∈ suppliedBy i [] owners other, p.signature = o.signature := by
  have hmem : (owner, o) ∈
      owners.flatMap fun owner => (missingOperations i owner).map (owner, ·) :=
    List.mem_flatMap.mpr ⟨owner, howner, List.mem_map.mpr ⟨o, ho, rfl⟩⟩
  obtain ⟨⟨other, p⟩, he, hsignature⟩ :=
    @exists_mem_distinctBy _ _ _ (fun e : Interface × Operation => e.2.signature) _ _ hmem
  exact ⟨other, p, mem_suppliedBy.mpr he, hsignature⟩

/-! ### Contributions -/

theorem Contribution.mem_ofSet_iff {owner : Interface} {set : OverloadSet} {x : Contribution} :
    x ∈ ofSet owner set ↔
      x.owner = owner ∧ x.name = set.name ∧ x.isStatic = set.isStatic ∧
        ∃ y ∈ set.overloads, y.types = x.types := by
  unfold ofSet
  rw [List.mem_map]
  constructor
  · rintro ⟨y, hy, rfl⟩
    exact ⟨rfl, rfl, rfl, y, hy, rfl⟩
  · rintro ⟨rfl, hname, hstatic, y, hy, htypes⟩
    exact ⟨y, hy, by rw [← hname, ← hstatic, htypes]⟩

theorem OverloadSet.ofOperations?_eq (signatures : List String) (operations : List Operation) :
    ofOperations? signatures operations = operations.head?.map fun first =>
      { name := first.emittedName
        jsName := first.id
        returnType := first.type
        overloads := overloadsOf signatures operations
        isStatic := first.isStatic } := by
  cases operations <;> rfl

/-- A contribution comes from an operation, and the first one of its identifier names it. -/
theorem Contribution.mem_ofGroups_iff {owner : Interface} {operations : List Operation}
    {x : Contribution} :
    x ∈ ofGroups owner (operationGroups operations) ↔
      x.owner = owner ∧ ∃ o ∈ operations, x.types ∈ o.callTypes ∧
        ∃ lead, operations.find? (fun p => p.id = o.id) = some lead ∧
          x.name = lead.emittedName ∧ x.isStatic = lead.isStatic := by
  have hgroup : ∀ o : Operation,
      (∃ p ∈ operations.filter (·.id = o.id), x.types ∈ p.callTypes) ↔
        ∃ p ∈ operations, p.id = o.id ∧ x.types ∈ p.callTypes := by
    intro o
    simp [and_assoc]
  unfold ofGroups operationGroups
  simp only [List.mem_flatMap, List.mem_filterMap, List.mem_map, NameSet.mem_keys_ofNames,
    exists_exists_and_eq_and, OverloadSet.ofOperations?_eq, List.head?_filter,
    Option.map_eq_some_iff, mem_ofSet_iff]
  constructor
  · rintro ⟨set, ⟨o, ho, lead, hlead, rfl⟩, howner, hname, hstatic, htypes⟩
    obtain ⟨p, hp, hid, htypes⟩ := (hgroup o).mp (exists_overload_iff.mp htypes)
    rw [← hid] at hlead
    exact ⟨howner, p, hp, htypes, lead, hlead, hname, hstatic⟩
  · rintro ⟨howner, o, ho, htypes, lead, hlead, hname, hstatic⟩
    refine ⟨_, ⟨o, ho, lead, hlead, rfl⟩, howner, hname, hstatic, ?_⟩
    exact exists_overload_iff.mpr ((hgroup o).mpr ⟨o, ho, rfl, htypes⟩)

theorem mem_contributions_iff {x : Contribution} :
    x ∈ contributions i signatures owners ↔
      x ∈ Contribution.ofGroups x.owner
        (operationGroups (suppliedBy i signatures owners x.owner)) := by
  induction owners generalizing signatures with
  | nil => rfl
  | cons first rest ih =>
      rw [contributions, List.mem_append, ih, suppliedBy_cons]
      by_cases howner : x.owner = first
      · subst howner
        rw [if_pos rfl, suppliedBy_spent]
        exact or_iff_left List.not_mem_nil
      · have hother : x ∉ Contribution.ofGroups first (operationGroups
            (distinctFrom Operation.signature signatures (missingOperations i first))) :=
          fun hx => howner (Contribution.mem_ofGroups_iff.mp hx).1
        rw [if_neg howner, or_iff_right hother]

/-- A method that an owner contributes is a way to call an operation that the interface lacks, under
the name of an operation of the same identifier. -/
theorem exists_lead_of_mem_contributions {x : Contribution}
    (h : x ∈ contributions i signatures owners) :
    x.owner ∈ owners ∧ ∃ lead ∈ missingOperations i x.owner, lead.emittedName = x.name ∧
      ∃ o ∈ missingOperations i x.owner, o.id = lead.id ∧ x.types ∈ o.callTypes := by
  obtain ⟨_, o, ho, htypes, lead, hlead, hname, _⟩ :=
    Contribution.mem_ofGroups_iff.mp (mem_contributions_iff.mp h)
  have hid : lead.id = o.id := by simpa using List.find?_some hlead
  obtain ⟨howner, ho, _⟩ := of_mem_suppliedBy ho
  obtain ⟨_, hlead, _⟩ := of_mem_suppliedBy (List.mem_of_find?_eq_some hlead)
  exact ⟨howner, lead, hlead, hname.symm, o, ho, hid.symm, htypes⟩

end

/-! ### Calls for an interface -/

/-- Whether a call is for members of a secondary ancestor. -/
def Call.isSecondary : Call → Bool
  | .secondaryAccessors _ _ => true
  | .secondaryOperation _ _ => true
  | _ => false

section
variable {s : Setting} {i : Interface}

theorem isSecondary_of_mem_ownCalls {call : Call} (h : call ∈ s.ownCalls i) :
    call.isSecondary = false := by
  simp only [Setting.ownCalls, List.mem_append, List.mem_map] at h
  rcases h with ((⟨_, _, rfl⟩ | ⟨_, _, rfl⟩) | ⟨_, _, rfl⟩) | ⟨set, _, rfl⟩
  · rfl
  · rfl
  · rfl
  · unfold ownOperationCall
    split <;> rfl

theorem mem_interfaceCalls_iff {call : Call} (h : call.isSecondary = true) :
    call ∈ s.interfaceCalls i ↔ call ∈ contributionCalls i {} (s.graph.owners i) := by
  have hown : call ∉ s.ownCalls i := fun hmem => by
    rw [isSecondary_of_mem_ownCalls hmem] at h
    cases h
  have hstart : call ≠ .start := fun heq => by
    rw [heq] at h
    cases h
  have hfinish : call ≠ .finish := fun heq => by
    rw [heq] at h
    cases h
  unfold Setting.interfaceCalls Setting.secondaryCalls
  simp [hown, hstart, hfinish]

theorem exists_leads_iff {owner : Interface} {half : Half} {id : String} :
    (∃ a, owner.Leads half a ∧ a.id = id) ↔ owner.HasAccessor half id := by
  constructor
  · rintro ⟨a, hleads, rfl⟩
    exact ⟨a, List.mem_of_find?_eq_some hleads, AccessorPair.eq_of_find?_some hleads⟩
  · rintro ⟨a, ha, rfl, hhalf⟩
    obtain ⟨lead, _, hlead, _⟩ := exists_find?_eq_some
      (p := fun b => b.id = a.id ∧ b.has half = true) ha (by simp [hhalf])
    have hid := (AccessorPair.eq_of_find?_some hlead).1
    refine ⟨lead, ?_, hid⟩
    unfold Interface.Leads
    rw [hid]
    exact hlead

/-- An accessor is carried over if the first owner that declares the attribute has it. -/
theorem carriesAccessor_iff {half : Half} {id : String} :
    s.CarriesAccessor i half id ↔
      i.hasAttribute id = false ∧
        ∃ owner, (s.graph.owners i).find? (·.hasAttribute id) = some owner ∧
          owner.HasAccessor half id := by
  constructor
  · rintro ⟨call, hcall, hcarries⟩
    cases call with
    | secondaryAccessors owner pair =>
        rw [mem_interfaceCalls_iff rfl] at hcall
        rw [Call.carriesAccessor] at hcarries
        cases hget : pair.get half with
        | none => simp [hget] at hcarries
        | some a =>
            obtain rfl : a.id = id := by simpa [hget] using hcarries
            obtain ⟨hfind, hi, _, hleads⟩ := exists_secondaryAccessors_iff.mp ⟨pair, hcall, hget⟩
            exact ⟨hi, owner, hfind, exists_leads_iff.mp ⟨a, hleads, rfl⟩⟩
    | _ => cases hcarries
  · rintro ⟨hi, owner, hfind, hhalf⟩
    obtain ⟨a, hleads, rfl⟩ := exists_leads_iff.mpr hhalf
    obtain ⟨pair, hcall, hget⟩ :=
      exists_secondaryAccessors_iff (c := {}) |>.mpr ⟨hfind, hi, List.not_mem_nil, hleads⟩
    refine ⟨_, (mem_interfaceCalls_iff rfl).mpr hcall, ?_⟩
    simp [Call.carriesAccessor, hget]

/-- An overload is carried over if it is the first contribution of its key. -/
theorem carriesOverload_iff {name : String} {types : List TypeName} :
    s.CarriesOverload i name types ↔
      ∃ x : Contribution,
        (contributions i [] (s.graph.owners i)).find? (fun c => c.key = x.key) = some x ∧
          x.name = name ∧ x.types = types := by
  constructor
  · rintro ⟨call, hcall, hcarries⟩
    cases call with
    | secondaryOperation owner set =>
        rw [mem_interfaceCalls_iff rfl] at hcall
        simp only [Call.carriesOverload, Bool.and_eq_true, decide_eq_true_eq,
          List.any_eq_true] at hcarries
        obtain ⟨hname, y, hy, htypes⟩ := hcarries
        have hx : ⟨owner, set.name, y.types, set.isStatic⟩ ∈ Contribution.ofSet owner set :=
          List.mem_map.mpr ⟨y, hy, rfl⟩
        exact ⟨_, exists_secondaryOperation_iff.mp ⟨set, hcall, hx⟩, hname, htypes⟩
    | _ => cases hcarries
  · rintro ⟨x, hfind, rfl, rfl⟩
    obtain ⟨set, hcall, hx⟩ := exists_secondaryOperation_iff.mpr hfind
    obtain ⟨_, hname, _, htypes⟩ := Contribution.mem_ofSet_iff.mp hx
    refine ⟨_, (mem_interfaceCalls_iff rfl).mpr hcall, ?_⟩
    simpa [Call.carriesOverload, hname] using htypes

/-! ### Ancestors that agree -/

theorem mem_argumentTypes_of_mem_callTypes {o : Operation} {types : List TypeName}
    (h : types ∈ o.callTypes) {type : TypeName} (htype : type ∈ types) :
    type ∈ o.argumentTypes := by
  simp only [Operation.callTypes, expandOptional, List.map_map, List.mem_map] at h
  obtain ⟨n, _, rfl⟩ := h
  simp only [Function.comp_apply, paramsOf, List.map_map, List.mem_map] at htype
  obtain ⟨a, ha, rfl⟩ := htype
  exact List.mem_map.mpr ⟨a, List.mem_of_mem_take ha, rfl⟩

namespace Setting.Accordant

theorem plain_of_mem_contributions (h : s.Accordant i) {x : Contribution}
    (hx : x ∈ contributions i [] (s.graph.owners i)) : PlainCall x.name x.types := by
  obtain ⟨howner, lead, hlead, hname, o, ho, _, htypes⟩ := exists_lead_of_mem_contributions hx
  refine ⟨hname ▸ (h.plain _ howner lead hlead).1, fun type htype => ?_⟩
  exact (h.plain _ howner o ho).2 type (mem_argumentTypes_of_mem_callTypes htypes htype)

theorem carriesAccessor (h : s.Accordant i) {owner : Interface} (howner : owner ∈ s.graph.owners i)
    {half : Half} {id : String} (hhas : owner.HasAccessor half id)
    (hi : i.hasAttribute id = false) : s.CarriesAccessor i half id := by
  obtain ⟨a, ha, rfl, hhalf⟩ := hhas
  have hdeclares := Interface.hasAttribute_of_mem ha
  obtain ⟨first, hmem, hfirst, hdeclares⟩ :=
    exists_find?_eq_some (p := (·.hasAttribute a.id)) howner hdeclares
  exact carriesAccessor_iff.mpr
    ⟨hi, first, hfirst, h.halves half owner howner a ha hi hhalf first hmem hdeclares⟩

/-- The operation that stands for a signature has all the ways to call it, under its name. -/
theorem exists_contribution (h : s.Accordant i) {owner : Interface}
    (howner : owner ∈ s.graph.owners i) {o : Operation} (ho : o ∈ missingOperations i owner)
    {types : List TypeName} (htypes : types ∈ o.callTypes) :
    ∃ x ∈ contributions i [] (s.graph.owners i), x.name = o.emittedName ∧ x.types = types := by
  obtain ⟨other, p, hp, hsignature⟩ := exists_mem_suppliedBy howner ho
  obtain ⟨hother, hmissing, _⟩ := of_mem_suppliedBy hp
  obtain ⟨hname, hcalls⟩ := h.signatures owner howner o ho other hother p hmissing hsignature
  obtain ⟨lead, hlead, hfind, hid⟩ := exists_find?_eq_some (p := fun l => l.id = p.id) hp (by simp)
  have hleadName : lead.emittedName = p.emittedName :=
    h.names other hother p hmissing lead (of_mem_suppliedBy hlead).2.1 (of_decide_eq_true hid)
  refine ⟨⟨other, lead.emittedName, types, lead.isStatic⟩, ?_, hleadName.trans hname, rfl⟩
  rw [mem_contributions_iff, Contribution.mem_ofGroups_iff]
  exact ⟨rfl, p, hp, hcalls htypes, lead, hfind, rfl, rfl⟩

theorem carriesOverload (h : s.Accordant i) {owner : Interface}
    (howner : owner ∈ s.graph.owners i) {o : Operation} (ho : o ∈ missingOperations i owner)
    {types : List TypeName} (htypes : types ∈ o.callTypes) :
    s.CarriesOverload i o.emittedName types := by
  obtain ⟨x, hx, hname, rfl⟩ := h.exists_contribution howner ho htypes
  -- the first contribution of the key is the same method, perhaps of another owner
  obtain ⟨first, hfirst, hkey⟩ : ∃ y ∈ distinctBy Contribution.key _, y.key = x.key :=
    exists_mem_distinctBy hx
  obtain ⟨hfirstName, hfirstTypes⟩ :=
    (h.plain_of_mem_contributions (mem_of_mem_distinctBy hfirst)).eq_of_key_eq
      (h.plain_of_mem_contributions hx) hkey
  exact carriesOverload_iff.mpr
    ⟨first, mem_distinctBy_iff.mp hfirst, hfirstName.trans hname, hfirstTypes⟩

/-- Nothing is lost where the ancestors agree. -/
theorem keepsMembers (h : s.Accordant i) : s.KeepsMembers i := by
  intro owner howner
  constructor
  · intro half id hhas hi
    exact h.carriesAccessor howner hhas hi
  · intro o ho hhost hi types htypes
    exact h.carriesOverload howner (mem_missingOperations.mpr ⟨ho, hhost, hi⟩) htypes

end Setting.Accordant

end

/-- What an interface gets from its secondary ancestors.  An accessor comes over if the first owner
that declares the attribute has it.  An overload comes over if it is the first one of its key, where
an operation counts only if it is the first of its signature, and goes by the name of the first
operation of its identifier.  So nothing is lost if the owners agree. -/
theorem carried_members_iff (s : Setting) (i : Interface) :
    (∀ half id, s.CarriesAccessor i half id ↔
      i.hasAttribute id = false ∧
        ∃ owner, (s.graph.owners i).find? (·.hasAttribute id) = some owner ∧
          owner.HasAccessor half id) ∧
    (∀ name types, s.CarriesOverload i name types ↔
      ∃ x : Contribution,
        (contributions i [] (s.graph.owners i)).find? (fun c => c.key = x.key) = some x ∧
          x.name = name ∧ x.types = types) ∧
    (∀ x : Contribution, x ∈ contributions i [] (s.graph.owners i) ↔
      ∃ o ∈ suppliedBy i [] (s.graph.owners i) x.owner, x.types ∈ o.callTypes ∧
        ∃ lead, (suppliedBy i [] (s.graph.owners i) x.owner).find? (fun p => p.id = o.id) =
            some lead ∧
          x.name = lead.emittedName ∧ x.isStatic = lead.isStatic) ∧
    (s.Accordant i → s.KeepsMembers i) := by
  refine ⟨fun _ _ => carriesAccessor_iff, fun _ _ => carriesOverload_iff, fun x => ?_,
    fun h => h.keepsMembers⟩
  rw [mem_contributions_iff, Contribution.mem_ofGroups_iff, and_iff_right rfl]

/-- An interface with a text and a search in it. -/
def readableText : Interface :=
  { id := "Readable"
    attributes := [{ id := "value", type := "DOMString" }]
    operations := [{ id := "find", type := "long",
                     arguments := [{ id := "text", type := "DOMString" }] }] }

/-- An interface that shares the text and the search and can insert something. -/
def insertableText : Interface :=
  { id := "Insertable"
    attributes := [{ id := "value", type := "DOMString" },
      { id := "limit", type := "long", isSetter := true }]
    operations := [{ id := "find", type := "long",
                     arguments := [{ id := "text", type := "DOMString" }] },
      { id := "insert", type := "void",
        arguments := [{ id := "text", type := "DOMString" },
          { id := "offset", type := "long", optional := true }] }] }

/-- An interface that gets its members from both. -/
def textArea : Interface :=
  { id := "Area"
    parents := [{ type := "Node" }, { type := "Readable" }, { type := "Insertable" }] }

def textAreaRun : Generation :=
  defaultRun .overlay [{ id := "Node" }, readableText, insertableText, textArea]

theorem carried_members_iff_textArea :
    textAreaRun.setting.graph.owners textArea = [readableText, insertableText] ∧
      textAreaRun.setting.Accordant textArea ∧ textAreaRun.setting.KeepsMembers textArea ∧
      textAreaRun.setting.CarriesAccessor textArea .setter "limit" ∧
      textAreaRun.setting.CarriesOverload textArea "insert" ["DOMString"] := by
  have howners : textAreaRun.setting.graph.owners textArea = [readableText, insertableText] := by
    decide +kernel
  have haccord : textAreaRun.setting.Accordant textArea := by
    constructor <;> rw [howners]
    · intro half
      cases half <;> decide +kernel
    all_goals decide +kernel
  have hkeeps := (carried_members_iff textAreaRun.setting textArea).2.2.2 haccord
  exact ⟨howners, haccord, hkeeps, by decide +kernel, by decide +kernel⟩

/-! ### Ancestors that disagree -/

/-- An interface with a setter for the text and a search that needs no text. -/
def editableText : Interface :=
  { id := "Editable"
    attributes := [{ id := "value", type := "DOMString", isGetter := false, isSetter := true }]
    operations := [{ id := "find", type := "long",
                     arguments := [{ id := "text", type := "DOMString", optional := true }] }] }

/-- An interface whose text can be read by one ancestor and written by another. -/
def textField : Interface :=
  { id := "Field"
    parents := [{ type := "Node" }, { type := "Readable" }, { type := "Editable" }] }

def textFieldRun : Generation :=
  defaultRun .overlay [{ id := "Node" }, readableText, editableText, textField]

theorem textFieldRun_outcome :
    textFieldRun.outcome =
        .ok (plainReport ["ElementalMixinBase", "Editable", "Node", "Readable", "Field"]) ∧
      textFieldRun.performed.filter (Signal.isAbout "Field") =
        (textFieldRun.setting.interfaceCalls textField).map
          (.visit (textFieldRun.setting.context textField)) ∧
      textFieldRun.setting.graph.owners textField = [readableText, editableText] ∧
      ¬ textFieldRun.setting.CarriesAccessor textField .setter "value" ∧
      ¬ textFieldRun.setting.CarriesOverload textField "find" [] := by
  decide +kernel

/-- The setter is lost, and so is the search without a text. -/
theorem textField_loses_members :
    textFieldRun.outcome =
        .ok (plainReport ["ElementalMixinBase", "Editable", "Node", "Readable", "Field"]) ∧
      textFieldRun.performed.filter (Signal.isAbout "Field") =
        (textFieldRun.setting.interfaceCalls textField).map
          (.visit (textFieldRun.setting.context textField)) ∧
      textFieldRun.setting.graph.owners textField = [readableText, editableText] ∧
      editableText.HasAccessor .setter "value" ∧
      ¬ textFieldRun.setting.CarriesAccessor textField .setter "value" ∧
      (∃ o ∈ missingOperations textField editableText,
        o.emittedName = "find" ∧ [] ∈ o.callTypes) ∧
      ¬ textFieldRun.setting.CarriesOverload textField "find" [] ∧
      ¬ textFieldRun.setting.KeepsMembers textField := by
  obtain ⟨houtcome, hcalls, howners, hsetter, hsearch⟩ := textFieldRun_outcome
  have hlost : ¬ textFieldRun.setting.KeepsMembers textField := by
    intro hkeeps
    obtain ⟨haccessors, _⟩ := hkeeps editableText (howners ▸ by simp)
    exact hsetter (haccessors .setter "value" (by decide) (by decide))
  exact ⟨houtcome, hcalls, howners, by decide, hsetter, by decide +kernel, hsearch, hlost⟩

end Bindery
