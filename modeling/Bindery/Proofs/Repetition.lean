import Bindery.Proofs.Capability
import Bindery.Proofs.Overload

/-! # What flattening repeats

Of what the secondary ancestors of an interface declare, nothing is carried over twice: attributes
are told apart by their identifiers, methods by their names and parameter types, and what the
interface declares itself is left to it (`carried_members_distinct`).  Whether it declares an
operation is decided by the identifier, though, and a method goes by the name under which it is
emitted.  So a method that is carried over may be one that the interface has already, from an
operation of another identifier (`overload_collides_iff`). -/

namespace Bindery

/-! ### Members that calls are about -/

/-- The methods of an overload set, each by its name and parameter types. -/
def OverloadSet.methods (set : OverloadSet) : List (String × List TypeName) :=
  set.overloads.map fun x => (set.name, x.types)

namespace Call

/-- The identifiers of attributes whose accessors a call carries over from a secondary ancestor. -/
def carriedAttributes : Call → List String
  | .secondaryAccessors _ pair => pair.attribute?.toList.map (·.id)
  | _ => []

/-- The methods that a call carries over from a secondary ancestor. -/
def carriedMethods : Call → List (String × List TypeName)
  | .secondaryOperation _ set => set.methods
  | _ => []

/-- The methods that a call adds for operations of the interface itself. -/
def ownMethods : Call → List (String × List TypeName)
  | .operation set _ => set.methods
  | .staticOperation set _ => set.methods
  | _ => []

theorem carriedAttributes_of_own {call : Call} (h : call.isSecondary = false) :
    call.carriedAttributes = [] := by
  cases call with
  | secondaryAccessors owner pair => cases h
  | _ => rfl

theorem carriedMethods_of_own {call : Call} (h : call.isSecondary = false) :
    call.carriedMethods = [] := by
  cases call with
  | secondaryOperation owner set => cases h
  | _ => rfl

theorem carriedMethods_eq (call : Call) :
    call.carriedMethods = call.contributions.map fun x => (x.name, x.types) := by
  cases call with
  | secondaryOperation owner set =>
      simp [carriedMethods, OverloadSet.methods, contributions, Contribution.ofSet]
  | _ => rfl

end Call

theorem flatMap_interfaceCalls {α : Type} {members : Call → List α}
    (h : ∀ call, call.isSecondary = false → members call = []) (s : Setting) (i : Interface) :
    (s.interfaceCalls i).flatMap members =
      (contributionCalls i {} (s.graph.owners i)).flatMap members := by
  have hown : (s.ownCalls i).flatMap members = [] :=
    List.flatMap_eq_nil_iff.mpr fun call hcall => h call (isSecondary_of_mem_ownCalls hcall)
  unfold Setting.interfaceCalls Setting.secondaryCalls
  simp [List.flatMap_append, hown, h .start rfl, h .finish rfl]

/-! ### Attributes -/

section
variable {i owner : Interface} {owners : List Interface} {c : Contributed}

theorem AccessorPair.toList_attribute?_ofName {attributes : List Attribute} {name : String}
    (h : name ∈ names attributes) :
    (ofName attributes name).attribute?.toList.map (·.id) = [name] := by
  obtain ⟨a, ha, hid⟩ := Option.map_eq_some_iff.mp (map_id_attribute?_ofName h)
  rw [ha, Option.toList_some, List.map_singleton, hid]

/-- An owner contributes the accessors of each identifier that is missing in one call. -/
theorem carriedAttributes_ownerCalls (i owner : Interface) (c : Contributed) :
    (ownerCalls i owner c).1.flatMap Call.carriedAttributes =
      AccessorPair.names (missingAttributes i owner c) := by
  have hpairs : (AccessorPair.ofAttributes (missingAttributes i owner c)).flatMap
      (fun p => p.attribute?.toList.map (·.id)) =
        AccessorPair.names (missingAttributes i owner c) := by
    rw [AccessorPair.ofAttributes_eq, List.flatMap_map, List.flatMap_congr
      fun _ hname => AccessorPair.toList_attribute?_ofName hname]
    exact List.flatMap_singleton' _
  have hsets : ∀ sets : List OverloadSet,
      (sets.map (Call.secondaryOperation owner)).flatMap Call.carriedAttributes = [] := by
    intro sets
    rw [List.flatMap_map]
    exact List.flatMap_eq_nil_iff.mpr fun _ _ => rfl
  unfold ownerCalls
  dsimp only
  rw [List.flatMap_append, hsets, List.append_nil, List.flatMap_map]
  exact hpairs

theorem of_mem_secondaryAccessors {p : AccessorPair}
    (h : .secondaryAccessors owner p ∈ contributionCalls i c owners) :
    ∃ id, (Call.secondaryAccessors owner p).carriedAttributes = [id] ∧
      i.hasAttribute id = false ∧ id ∉ c.attributes ∧
      owners.find? (·.hasAttribute id) = some owner ∧
      ∀ half, p.get half = owner.attributes.find? fun a => a.id = id ∧ a.has half = true := by
  induction owners generalizing c with
  | nil => cases h
  | cons first rest ih =>
      rw [contributionCalls, List.mem_append, secondaryAccessors_mem_ownerCalls] at h
      rcases h with ⟨rfl, hp⟩ | hp
      · rw [AccessorPair.ofAttributes_eq] at hp
        obtain ⟨id, hid, rfl⟩ := List.mem_map.mp hp
        obtain ⟨a, ha, rfl, _⟩ := AccessorPair.mem_names_iff.mp hid
        obtain ⟨hmem, hi, hc⟩ := mem_missingAttributes.mp ha
        have hdeclares := Interface.hasAttribute_of_mem hmem
        refine ⟨a.id, AccessorPair.toList_attribute?_ofName hid, hi, hc, ?_, fun half => ?_⟩
        · rw [List.find?_cons, hdeclares]
        · rw [AccessorPair.get_ofName, find?_missingAttributes hi hc]
      · obtain ⟨id, hcarried, hi, hlater, hfind, hhalves⟩ := ih hp
        obtain ⟨hc, hfirst⟩ := notMem_attributes_ownerCalls.mp hlater
        refine ⟨id, hcarried, hi, hc, ?_, hhalves⟩
        rw [List.find?_cons, hfirst]
        exact hfind

theorem mem_carriedAttributes_iff {id : String} :
    id ∈ (contributionCalls i c owners).flatMap Call.carriedAttributes ↔
      i.hasAttribute id = false ∧ id ∉ c.attributes ∧
        ∃ owner, owners.find? (·.hasAttribute id) = some owner ∧
          ∃ half, owner.HasAccessor half id := by
  rw [List.mem_flatMap]
  constructor
  · rintro ⟨call, hcall, hid⟩
    cases call with
    | secondaryAccessors owner p =>
        obtain ⟨id', hcarried, hi, hc, hfind, hhalves⟩ := of_mem_secondaryAccessors hcall
        obtain rfl : id = id' := List.mem_singleton.mp (hcarried ▸ hid)
        obtain ⟨a, ha, rfl⟩ := List.mem_map.mp hid
        obtain ⟨half, b, hget⟩ := AccessorPair.isSome_attribute?.mp
          (Option.isSome_iff_exists.mpr ⟨a, Option.mem_toList.mp ha⟩)
        rw [hhalves] at hget
        exact ⟨hi, hc, owner, hfind, half, b, List.mem_of_find?_eq_some hget,
          AccessorPair.eq_of_find?_some hget⟩
    | _ => cases hid
  · rintro ⟨hi, hc, owner, hfind, half, hhas⟩
    obtain ⟨a, hleads, rfl⟩ := exists_leads_iff.mpr hhas
    obtain ⟨p, hcall, hget⟩ := exists_secondaryAccessors_iff.mpr ⟨hfind, hi, hc, hleads⟩
    obtain ⟨id, hcarried, _, _, _, hhalves⟩ := of_mem_secondaryAccessors hcall
    rw [hhalves] at hget
    rw [(AccessorPair.eq_of_find?_some hget).1]
    exact ⟨_, hcall, hcarried ▸ List.mem_singleton_self id⟩

/-- No identifier is carried over twice: later owners pass over what an earlier one declares. -/
theorem nodup_carriedAttributes (i : Interface) (c : Contributed) (owners : List Interface) :
    ((contributionCalls i c owners).flatMap Call.carriedAttributes).Nodup := by
  induction owners generalizing c with
  | nil => exact List.nodup_nil
  | cons first rest ih =>
      rw [contributionCalls, List.flatMap_append, carriedAttributes_ownerCalls, List.nodup_append]
      refine ⟨(AccessorPair.names_ascending _).imp (ne_of_lt ·), ih _, ?_⟩
      rintro id hid _ hlater rfl
      obtain ⟨a, ha, rfl, _⟩ := AccessorPair.mem_names_iff.mp hid
      have hdeclares := Interface.hasAttribute_of_mem (mem_missingAttributes.mp ha).1
      have hpassed := notMem_attributes_ownerCalls.mp (mem_carriedAttributes_iff.mp hlater).2.1
      rw [hdeclares] at hpassed
      cases hpassed.2

/-! ### Methods -/

theorem carriedMethods_contributionCalls (i : Interface) (c : Contributed)
    (owners : List Interface) :
    (contributionCalls i c owners).flatMap Call.carriedMethods =
      (distinctFrom Contribution.key c.overloads (contributions i c.signatures owners)).map
        fun x => (x.name, x.types) := by
  rw [← contributions_contributionCalls, List.map_flatMap]
  exact List.flatMap_congr fun call _ => call.carriedMethods_eq

theorem mem_carriedMethods_iff {m : String × List TypeName} :
    m ∈ (contributionCalls i {} owners).flatMap Call.carriedMethods ↔
      ∃ x : Contribution,
        (contributions i [] owners).find? (fun y => y.key = x.key) = some x ∧
          (x.name, x.types) = m := by
  rw [carriedMethods_contributionCalls, List.mem_map]
  exact exists_congr fun x => and_congr_left fun _ => mem_distinctBy_iff

/-- No method is carried over twice: contributions of different keys are different methods. -/
theorem nodup_carriedMethods (i : Interface) (c : Contributed) (owners : List Interface) :
    ((contributionCalls i c owners).flatMap Call.carriedMethods).Nodup := by
  rw [carriedMethods_contributionCalls]
  refine List.Nodup.of_map (fun m => m.1 ++ "(" ++ String.intercalate "," m.2 ++ ")") ?_
  rw [List.map_map]
  exact nodup_map_distinctFrom _ _ _

theorem of_mem_newOverloadSets {seen : List String} {groups : List (List Operation)}
    {set : OverloadSet} (h : set ∈ (newOverloadSets seen groups).1) :
    set.overloads ≠ [] ∧ ∃ group ∈ groups, ∃ whole earlier,
      OverloadSet.ofOperations? [] group = some whole ∧ set = whole.fresh earlier := by
  induction groups generalizing seen with
  | nil => cases h
  | cons group rest ih =>
      have hlater : ∀ seen', set ∈ (newOverloadSets seen' rest).1 →
          set.overloads ≠ [] ∧ ∃ group' ∈ group :: rest, ∃ whole earlier,
            OverloadSet.ofOperations? [] group' = some whole ∧ set = whole.fresh earlier := by
        intro seen' hset
        obtain ⟨hne, group', hgroup', hwhole⟩ := ih hset
        exact ⟨hne, group', List.mem_cons_of_mem group hgroup', hwhole⟩
      rw [newOverloadSets] at h
      cases hwhole : OverloadSet.ofOperations? [] group with
      | none =>
          rw [hwhole] at h
          exact hlater _ h
      | some whole =>
          simp only [hwhole] at h
          split at h
          · exact hlater _ h
          · next hfresh =>
            rcases List.mem_cons.mp h with rfl | h
            · exact ⟨fun hnil => hfresh (List.isEmpty_iff.mpr hnil), group, List.mem_cons_self,
                whole, seen, hwhole, rfl⟩
            · exact hlater _ h

theorem of_mem_fresh {operations : List Operation} {id : String} {whole : OverloadSet}
    (h : OverloadSet.ofOperations? [] (operations.filter (·.id = id)) = some whole)
    {seen : List String} {x : Overload} (hx : x ∈ (whole.fresh seen).overloads) :
    ∃ o ∈ operations, o.id = whole.jsName ∧ x.params ∈ expandOptional o.arguments := by
  rw [OverloadSet.ofOperations?_eq] at h
  obtain ⟨first, hfirst, rfl⟩ := Option.map_eq_some_iff.mp h
  have hwhole := List.mem_of_find?_eq_some (mem_distinctFrom_iff.mp hx).2
  obtain ⟨o, ho, hparams, _⟩ := mem_overloadsOf_iff.mp hwhole
  obtain ⟨ho, hid⟩ := List.mem_filter.mp (List.mem_of_find?_eq_some ho)
  have hfirstId := (List.mem_filter.mp (List.mem_of_head? hfirst)).2
  exact ⟨o, ho, (of_decide_eq_true hid).trans (of_decide_eq_true hfirstId).symm, hparams⟩

theorem of_secondaryOperation_mem_ownerCalls {first : Interface} {set : OverloadSet}
    (h : .secondaryOperation owner set ∈ (ownerCalls i first c).1) :
    first = owner ∧ set.overloads ≠ [] ∧ ∀ x ∈ set.overloads,
      ∃ o ∈ missingOperations i owner,
        o.id = set.jsName ∧ x.params ∈ expandOptional o.arguments := by
  unfold ownerCalls at h
  simp only [List.mem_append, List.mem_map] at h
  rcases h with ⟨_, _, heq⟩ | ⟨_, hset, heq⟩
  · cases heq
  · cases heq
    obtain ⟨hne, group, hgroup, whole, seen, hwhole, rfl⟩ := of_mem_newOverloadSets hset
    obtain ⟨id, _, rfl⟩ := List.mem_map.mp hgroup
    refine ⟨rfl, hne, fun x hx => ?_⟩
    obtain ⟨o, ho, hid, hparams⟩ := of_mem_fresh hwhole hx
    exact ⟨o, List.mem_of_find?_eq_some (mem_distinctFrom_iff.mp ho).2, hid, hparams⟩

/-- What is carried over by a call are ways to call operations that the interface lacks. -/
theorem of_mem_secondaryOperation {set : OverloadSet}
    (h : .secondaryOperation owner set ∈ contributionCalls i c owners) :
    set.overloads ≠ [] ∧ ∀ x ∈ set.overloads,
      ∃ o ∈ missingOperations i owner,
        o.id = set.jsName ∧ x.params ∈ expandOptional o.arguments := by
  induction owners generalizing c with
  | nil => cases h
  | cons first rest ih =>
      rw [contributionCalls, List.mem_append] at h
      rcases h with h | h
      · exact (of_secondaryOperation_mem_ownerCalls h).2
      · exact ih h

theorem not_declared_of_mem_secondaryOperation {set : OverloadSet}
    (h : .secondaryOperation owner set ∈ contributionCalls i c owners) :
    i.hasOperation set.jsName = false ∧ set.jsName ≠ "toString" := by
  obtain ⟨hne, hoverloads⟩ := of_mem_secondaryOperation h
  obtain ⟨x, hx⟩ := List.exists_mem_of_ne_nil _ hne
  obtain ⟨o, ho, hid, _⟩ := hoverloads x hx
  obtain ⟨_, hhost, hi⟩ := mem_missingOperations.mp ho
  rw [← hid]
  exact ⟨hi, by simpa [Operation.isHost, hostOperations] using hhost⟩

end

/-- What an interface gets from its secondary ancestors comes once.  No attribute is carried over in
two calls, and those that are carried over are the ones that the interface does not declare and that
have an accessor on the first ancestor that declares them, from which they come.  No method is
carried over twice, and those that are carried over are the first contributions of their keys.  No
call is without methods, and those of a call are ways to call operations of one identifier, which is
neither that of an operation of the interface nor `toString`. -/
theorem carried_members_distinct (s : Setting) (i : Interface) :
    ((s.interfaceCalls i).flatMap Call.carriedAttributes).Nodup ∧
    (∀ owner pair, .secondaryAccessors owner pair ∈ s.interfaceCalls i →
      ∃ id, (Call.secondaryAccessors owner pair).carriedAttributes = [id] ∧
        i.hasAttribute id = false ∧
        (s.graph.owners i).find? (·.hasAttribute id) = some owner ∧
        ∀ half, pair.get half =
          owner.attributes.find? fun a => a.id = id ∧ a.has half = true) ∧
    (∀ id, id ∈ (s.interfaceCalls i).flatMap Call.carriedAttributes ↔
      i.hasAttribute id = false ∧
        ∃ owner, (s.graph.owners i).find? (·.hasAttribute id) = some owner ∧
          ∃ half, owner.HasAccessor half id) ∧
    ((s.interfaceCalls i).flatMap Call.carriedMethods).Nodup ∧
    (∀ m, m ∈ (s.interfaceCalls i).flatMap Call.carriedMethods ↔
      ∃ x : Contribution,
        (contributions i [] (s.graph.owners i)).find? (fun y => y.key = x.key) = some x ∧
          (x.name, x.types) = m) ∧
    (∀ owner set, .secondaryOperation owner set ∈ s.interfaceCalls i →
      set.overloads ≠ [] ∧ i.hasOperation set.jsName = false ∧ set.jsName ≠ "toString" ∧
        ∀ x ∈ set.overloads, ∃ o ∈ owner.operations,
          o.id = set.jsName ∧ x.params ∈ expandOptional o.arguments) := by
  rw [flatMap_interfaceCalls fun _ => Call.carriedAttributes_of_own,
    flatMap_interfaceCalls fun _ => Call.carriedMethods_of_own]
  refine ⟨nodup_carriedAttributes _ _ _, fun owner pair h => ?_, fun id => ?_,
    nodup_carriedMethods _ _ _, fun _ => mem_carriedMethods_iff, fun owner set h => ?_⟩
  · obtain ⟨id, hcarried, hi, _, hfind, hhalves⟩ :=
      of_mem_secondaryAccessors ((mem_interfaceCalls_iff rfl).mp h)
    exact ⟨id, hcarried, hi, hfind, hhalves⟩
  · rw [mem_carriedAttributes_iff, and_iff_right (a := id ∉ _) List.not_mem_nil]
  · have hcall := (mem_interfaceCalls_iff rfl).mp h
    obtain ⟨hne, hoverloads⟩ := of_mem_secondaryOperation hcall
    obtain ⟨hi, hhost⟩ := not_declared_of_mem_secondaryOperation hcall
    refine ⟨hne, hi, hhost, fun x hx => ?_⟩
    obtain ⟨o, ho, horigin⟩ := hoverloads x hx
    exact ⟨o, (mem_missingOperations.mp ho).1, horigin⟩

/-- An interface that scrolls by lines. -/
def scrollable : Interface :=
  { id := "Scrollable"
    attributes := [{ id := "width", type := "long" }]
    operations := [{ id := "scroll", type := "void",
                     arguments := [{ id := "lines", type := "long" }] }] }

/-- An interface that scrolls by lines, perhaps smoothly, and to a mark. -/
def pageable : Interface :=
  { id := "Pageable"
    attributes := [{ id := "width", type := "long" }, { id := "page", type := "long" }]
    operations := [{ id := "scroll", type := "void",
                     arguments := [{ id := "mark", type := "DOMString" }] },
      { id := "scroll", type := "void",
        arguments := [{ id := "lines", type := "long" },
          { id := "smooth", type := "boolean", optional := true }] },
      { id := "reset", type := "void" }] }

/-- An interface that gets its members from both and resets itself. -/
def pager : Interface :=
  { id := "Pager"
    parents := [{ type := "Node" }, { type := "Scrollable" }, { type := "Pageable" }]
    operations := [{ id := "reset", type := "void" }] }

def pagerRun : Generation :=
  defaultRun .overlay [{ id := "Node" }, scrollable, pageable, pager]

theorem carried_members_distinct_pager :
    pagerRun.setting.graph.owners pager = [scrollable, pageable] ∧
      (pagerRun.setting.interfaceCalls pager).flatMap Call.carriedAttributes =
        ["width", "page"] ∧
      (pagerRun.setting.interfaceCalls pager).flatMap Call.carriedMethods =
        [("scroll", ["long"]), ("scroll", ["DOMString"]), ("scroll", ["long", "boolean"])] ∧
      ((pagerRun.setting.interfaceCalls pager).flatMap Call.carriedAttributes).Nodup ∧
      ((pagerRun.setting.interfaceCalls pager).flatMap Call.carriedMethods).Nodup := by
  obtain ⟨hattributes, _, _, hmethods, _⟩ := carried_members_distinct pagerRun.setting pager
  exact ⟨by decide +kernel, by decide +kernel, by decide +kernel, hattributes, hmethods⟩

/-! ### Own methods -/

namespace Setting

/-- An interface has a method by an operation that it declares itself. -/
def DeclaresOverload (s : Setting) (i : Interface) (name : String) (types : List TypeName) :
    Prop :=
  ∃ call ∈ s.interfaceCalls i, (name, types) ∈ call.ownMethods

/-- A method that an interface has itself is carried over from a secondary ancestor as well. -/
def Collides (s : Setting) (i : Interface) (name : String) (types : List TypeName) : Prop :=
  s.DeclaresOverload i name types ∧ s.CarriesOverload i name types

instance (s : Setting) (i : Interface) (name : String) (types : List TypeName) :
    Decidable (s.DeclaresOverload i name types) :=
  inferInstanceAs (Decidable (∃ call ∈ _, _))

instance (s : Setting) (i : Interface) (name : String) (types : List TypeName) :
    Decidable (s.Collides i name types) :=
  inferInstanceAs (Decidable (_ ∧ _))

end Setting

theorem OverloadSet.mem_methods_iff {set : OverloadSet} {name : String} {types : List TypeName} :
    (name, types) ∈ set.methods ↔ set.name = name ∧ ∃ x ∈ set.overloads, x.types = types := by
  simp [methods, and_left_comm]

theorem Call.ownMethods_ownOperationCall (set : OverloadSet) :
    (ownOperationCall set).ownMethods = set.methods := by
  unfold ownOperationCall
  cases set.isStatic <;> rfl

section
variable {s : Setting} {i : Interface}

theorem exists_ownMethods_iff (s : Setting) (i : Interface) :
    ∃ signatures, ∀ m, (∃ call ∈ s.interfaceCalls i, m ∈ call.ownMethods) ↔
      ∃ set ∈ ownOverloads i.operations signatures, m ∈ set.methods := by
  refine ⟨(s.graph.inheritedFrom s.config.mixinBase i).flatMap fun a =>
    a.operations.map Operation.signature, fun m => ⟨?_, ?_⟩⟩
  · rintro ⟨call, hcall, hm⟩
    unfold Setting.interfaceCalls Setting.secondaryCalls at hcall
    simp only [List.mem_cons, List.mem_append, List.not_mem_nil, or_false] at hcall
    rcases hcall with rfl | (hown | hsecondary) | rfl
    · cases hm
    · simp only [Setting.ownCalls, List.mem_append, List.mem_map] at hown
      rcases hown with ((⟨_, _, rfl⟩ | ⟨_, _, rfl⟩) | ⟨_, _, rfl⟩) | ⟨set, hset, rfl⟩
      · cases hm
      · cases hm
      · cases hm
      · rw [Call.ownMethods_ownOperationCall] at hm
        exact ⟨set, hset, hm⟩
    · obtain ⟨owner, ⟨p, rfl⟩ | ⟨set, rfl⟩⟩ := exists_owner_of_mem_contributionCalls hsecondary
      · cases hm
      · cases hm
    · cases hm
  · rintro ⟨set, hset, hm⟩
    refine ⟨ownOperationCall set, ?_, by rwa [Call.ownMethods_ownOperationCall]⟩
    unfold Setting.interfaceCalls Setting.ownCalls
    simp only [List.mem_cons, List.mem_append]
    exact .inr (.inl (.inl (.inr (List.mem_map_of_mem hset))))

theorem declaresOverload_iff {name : String} {types : List TypeName} :
    s.DeclaresOverload i name types ↔
      ∃ o ∈ i.operations,
        StandsIn i.operations o ∧ o.emittedName = name ∧ types ∈ o.callTypes := by
  obtain ⟨signatures, hmethods⟩ := exists_ownMethods_iff s i
  unfold Setting.DeclaresOverload
  rw [hmethods]
  constructor
  · rintro ⟨set, hset, hm⟩
    obtain ⟨rfl, htypes⟩ := OverloadSet.mem_methods_iff.mp hm
    exact (exists_types_iff hset types).mp htypes
  · rintro ⟨o, ho, hstands, rfl, htypes⟩
    obtain ⟨set, ⟨hset, hname⟩, _⟩ :=
      @existsUnique_ownOverloads _ signatures _ ho hstands.isHost
    refine ⟨set, hset, OverloadSet.mem_methods_iff.mpr ⟨hname, ?_⟩⟩
    exact (exists_types_iff hset types).mpr ⟨o, ho, hstands, hname.symm, htypes⟩

/-- Methods collide only if operations of different identifiers are emitted under one name. -/
theorem Setting.Collides.exists_namesakes {name : String} {types : List TypeName}
    (h : s.Collides i name types) :
    ∃ o ∈ i.operations, o.emittedName = name ∧ types ∈ o.callTypes ∧
      ∃ owner ∈ s.graph.owners i, ∃ p ∈ missingOperations i owner,
        p.emittedName = name ∧ p.id ≠ o.id ∧
          ∃ q ∈ missingOperations i owner, q.id = p.id ∧ types ∈ q.callTypes := by
  obtain ⟨hown, hcarried⟩ := h
  obtain ⟨o, ho, _, hname, htypes⟩ := declaresOverload_iff.mp hown
  obtain ⟨x, hfind, rfl, rfl⟩ := carriesOverload_iff.mp hcarried
  obtain ⟨howner, lead, hlead, hleadName, horigin⟩ :=
    exists_lead_of_mem_contributions (List.mem_of_find?_eq_some hfind)
  -- an identifier that the interface declares is not carried over
  have hne : lead.id ≠ o.id := by
    intro hid
    have hlacks := (mem_missingOperations.mp hlead).2.2
    rw [hid, ← Bool.not_eq_true] at hlacks
    exact hlacks (List.any_eq_true.mpr ⟨o, ho, decide_eq_true rfl⟩)
  exact ⟨o, ho, hname, htypes, x.owner, howner, lead, hlead, hleadName, hne, horigin⟩

end

/-- When a method that is carried over is one that the interface has itself.  Each side is decided
without a look at the other: the interface has the ways to call the operations that stand for their
signatures, and the first contribution of each key is carried over.  In every collision an operation
of the interface and one of an ancestor are emitted under one name and have different identifiers, so
there is none as long as operations go by their identifiers. -/
theorem overload_collides_iff (s : Setting) (i : Interface) :
    (∀ name types, s.Collides i name types ↔
      (∃ o ∈ i.operations,
        StandsIn i.operations o ∧ o.emittedName = name ∧ types ∈ o.callTypes) ∧
      ∃ x : Contribution,
        (contributions i [] (s.graph.owners i)).find? (fun c => c.key = x.key) = some x ∧
          x.name = name ∧ x.types = types) ∧
    (∀ name types, s.Collides i name types →
      ∃ o ∈ i.operations, o.emittedName = name ∧ types ∈ o.callTypes ∧
        ∃ owner ∈ s.graph.owners i, ∃ p ∈ missingOperations i owner,
          p.emittedName = name ∧ p.id ≠ o.id ∧
            ∃ q ∈ missingOperations i owner, q.id = p.id ∧ types ∈ q.callTypes) ∧
    ((∀ o ∈ i.operations, o.emittedName = o.id) →
      (∀ owner ∈ s.graph.owners i, ∀ p ∈ missingOperations i owner, p.emittedName = p.id) →
        ∀ name types, ¬ s.Collides i name types) := by
  refine ⟨fun name types => and_congr declaresOverload_iff carriesOverload_iff,
    fun name types h => h.exists_namesakes, fun hown hmissing name types h => ?_⟩
  obtain ⟨o, ho, hname, _, owner, howner, p, hp, hpName, hne, _⟩ := h.exists_namesakes
  apply hne
  calc p.id = p.emittedName := (hmissing owner howner p hp).symm
    _ = o.emittedName := hpName.trans hname.symm
    _ = o.id := hown o ho

theorem overload_collides_iff_pager :
    pagerRun.setting.DeclaresOverload pager "reset" [] ∧
      pagerRun.setting.CarriesOverload pager "scroll" ["long", "boolean"] ∧
      ∀ name types, ¬ pagerRun.setting.Collides pager name types := by
  have howners : pagerRun.setting.graph.owners pager = [scrollable, pageable] := by
    decide +kernel
  have hnone := (overload_collides_iff pagerRun.setting pager).2.2 (by decide +kernel)
    (by rw [howners]; decide +kernel)
  exact ⟨by decide +kernel, by decide +kernel, hnone⟩

/-- An interface whose elements can be tested. -/
def selectable : Interface :=
  { id := "Selectable"
    operations := [{ id := "matches", type := "boolean",
                     arguments := [{ id := "selectors", type := "DOMString" }] }] }

/-- An interface with a test of its own, emitted under the same name. -/
def selectableElement : Interface :=
  { id := "Element"
    parents := [{ type := "Node" }, { type := "Selectable" }]
    operations := [{ id := "webkitMatchesSelector", type := "boolean",
                     arguments := [{ id := "selectors", type := "DOMString" }]
                     extensions := .ofList [("DartName", some "matches")] }] }

def selectableRun : Generation :=
  defaultRun .overlay [{ id := "Node" }, selectable, selectableElement]

/-- The overlay class of the element has the test twice. -/
theorem selectableElement_repeats_matches :
    selectableRun.outcome =
        .ok (plainReport ["ElementalMixinBase", "Node", "Selectable", "Element"]) ∧
      selectableRun.performed.filter (Signal.isAbout "Element") =
        (selectableRun.setting.interfaceCalls selectableElement).map
          (.visit (selectableRun.setting.context selectableElement)) ∧
      selectableRun.setting.Collides selectableElement "matches" ["DOMString"] ∧
      (Backend.overlay.built selectableRun.setting
          (selectableRun.setting.context selectableElement)).features .overlay =
        [.method "matches" ["DOMString"] false, .method "matches" ["DOMString"] false] := by
  decide +kernel

end Bindery
