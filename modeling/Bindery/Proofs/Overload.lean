import Bindery.Proofs.Feature

/-! # What own overload sets hold

The operations that an interface declares form one overload set for each name under which they are
emitted.  Of the operations of a name only the first of each signature stands (`StandsIn`), and a
signature does not tell which arguments may be left out; so a way to call an operation is kept if
some operation that stands has it (`own_overloads_keep_iff`).  The first operation of a name decides
which member is called and whether it needs an object; so an overload calls the member that it is
declared on if an operation that agrees with the first one has its parameters
(`own_overloads_call_iff`). -/

namespace Bindery

/-! ### Ways to call an operation -/

/-- The number of arguments in front of the first one that may be left out. -/
def requiredCount (arguments : List Argument) : Nat :=
  (arguments.takeWhile fun a => !a.optional).length

theorem requiredCount_le (arguments : List Argument) :
    requiredCount arguments ≤ arguments.length :=
  (List.takeWhile_prefix _).length_le

theorem length_take_requiredCount {α : Type} (f : Argument → α) (arguments : List Argument) :
    ((arguments.map f).take (requiredCount arguments)).length = requiredCount arguments := by
  rw [List.length_take, List.length_map]
  exact Nat.min_eq_left (requiredCount_le arguments)

/-- Arguments may be given up to any place behind the required ones. -/
theorem mem_expandOptional_iff {arguments : List Argument} {params : List Param} :
    params ∈ expandOptional arguments ↔
      params <+: paramsOf arguments ∧ requiredCount arguments ≤ params.length := by
  have hle := requiredCount_le arguments
  have hlength : (paramsOf arguments).length = arguments.length := List.length_map _
  have htake : ∀ n, paramsOf (arguments.take n) = (paramsOf arguments).take n :=
    fun _ => List.map_take
  have hmem : params ∈ expandOptional arguments ↔
      ∃ n, n < arguments.length + 1 - requiredCount arguments ∧
        paramsOf (arguments.take (requiredCount arguments + n)) = params := by
    simp [expandOptional, requiredCount]
  rw [hmem]
  constructor
  · rintro ⟨n, hn, rfl⟩
    rw [htake]
    refine ⟨List.take_prefix _ _, ?_⟩
    rw [List.length_take]
    omega
  · rintro ⟨hinitial, hrequired⟩
    have hbound := hinitial.length_le
    refine ⟨params.length - requiredCount arguments, by omega, ?_⟩
    rw [htake, Nat.add_sub_cancel' hrequired]
    exact (List.prefix_iff_eq_take.mp hinitial).symm

/-- Parameters of one operation are told apart by their types. -/
theorem eq_of_mem_expandOptional {arguments : List Argument} {params params' : List Param}
    (h : params ∈ expandOptional arguments) (h' : params' ∈ expandOptional arguments)
    (htypes : params.map (·.type) = params'.map (·.type)) : params = params' := by
  have hlength : params.length = params'.length := by
    simpa using congrArg List.length htypes
  rw [List.prefix_iff_eq_take.mp (mem_expandOptional_iff.mp h).1, hlength]
  exact (List.prefix_iff_eq_take.mp (mem_expandOptional_iff.mp h').1).symm

theorem Operation.mem_callTypes_iff {o : Operation} {types : List TypeName} :
    types ∈ o.callTypes ↔
      types <+: o.argumentTypes ∧ requiredCount o.arguments ≤ types.length := by
  have htypes : o.argumentTypes = (paramsOf o.arguments).map (·.type) := by
    simp [argumentTypes, paramsOf]
  unfold callTypes
  rw [List.mem_map, htypes, List.prefix_map_iff]
  constructor
  · rintro ⟨params, hparams, rfl⟩
    obtain ⟨hinitial, hrequired⟩ := mem_expandOptional_iff.mp hparams
    exact ⟨⟨params, hinitial, rfl⟩, by simpa using hrequired⟩
  · rintro ⟨⟨params, hinitial, rfl⟩, hrequired⟩
    exact ⟨params, mem_expandOptional_iff.mpr ⟨hinitial, by simpa using hrequired⟩, rfl⟩

/-- Of operations with the same argument types, the one that requires fewer arguments may be called
in all the ways of the other. -/
theorem Operation.callTypes_subset_iff {o p : Operation} (h : p.argumentTypes = o.argumentTypes) :
    o.callTypes ⊆ p.callTypes ↔ requiredCount p.arguments ≤ requiredCount o.arguments := by
  constructor
  · intro hsubset
    -- the shortest way to call `o` is a way to call `p`
    have hlength : (o.argumentTypes.take (requiredCount o.arguments)).length =
        requiredCount o.arguments := length_take_requiredCount (·.type) o.arguments
    have hshortest : o.argumentTypes.take (requiredCount o.arguments) ∈ o.callTypes :=
      mem_callTypes_iff.mpr ⟨List.take_prefix _ _, hlength.ge⟩
    have hrequired := (mem_callTypes_iff.mp (hsubset hshortest)).2
    rwa [hlength] at hrequired
  · intro hle types htypes
    obtain ⟨hinitial, hrequired⟩ := mem_callTypes_iff.mp htypes
    exact mem_callTypes_iff.mpr ⟨h ▸ hinitial, hle.trans hrequired⟩

theorem Operation.mem_overloads_iff {o : Operation} {signatures : List String} {x : Overload} :
    x ∈ o.overloads signatures ↔
      x.params ∈ expandOptional o.arguments ∧ x.inherited = signatures.contains o.signature := by
  unfold overloads
  rw [List.mem_map]
  constructor
  · rintro ⟨params, hparams, rfl⟩
    exact ⟨hparams, rfl⟩
  · rintro ⟨hparams, hinherited⟩
    exact ⟨x.params, hparams, by rw [← hinherited]⟩

/-- An overload comes from the first operation that may be called with its types. -/
theorem mem_overloadsOf_iff {signatures : List String} {operations : List Operation}
    {x : Overload} :
    x ∈ overloadsOf signatures operations ↔
      ∃ o, operations.find? (fun o => x.types ∈ o.callTypes) = some o ∧
        x.params ∈ expandOptional o.arguments ∧ x.inherited = signatures.contains o.signature := by
  unfold overloadsOf
  rw [mem_distinctBy_iff, find?_overloads, Option.bind_eq_some_iff]
  refine exists_congr fun o => and_congr_right fun _ => ?_
  rw [← Operation.mem_overloads_iff]
  constructor
  · exact List.mem_of_find?_eq_some
  · intro hx
    -- what is found has the same types, and an operation has no two overloads of the same types
    obtain ⟨⟨params, inherited⟩, hy, hfind, htypes⟩ :=
      exists_find?_eq_some (p := fun y => y.types = x.types) hx (by simp)
    obtain ⟨hparams, hinherited⟩ := Operation.mem_overloads_iff.mp hy
    obtain ⟨hxParams, hxInherited⟩ := Operation.mem_overloads_iff.mp hx
    have hsame := eq_of_mem_expandOptional hparams hxParams (of_decide_eq_true htypes)
    have hmarked := hinherited.trans hxInherited.symm
    dsimp only at hsame hmarked
    rw [hfind, hsame, hmarked]

/-! ### Operations that stand for their signatures -/

/-- An operation stands for its signature: of all that are emitted under its name it is the first
that has it. -/
def StandsIn (operations : List Operation) (o : Operation) : Prop :=
  (emittedAs operations o.emittedName).find? (fun p => p.signature = o.signature) = some o

instance (operations : List Operation) (o : Operation) : Decidable (StandsIn operations o) :=
  inferInstanceAs (Decidable (_ = some o))

section
variable {operations : List Operation} {signatures : List String} {name : String}

theorem StandsIn.mem {o : Operation} (h : StandsIn operations o) : o ∈ operations :=
  (mem_emittedAs.mp (List.mem_of_find?_eq_some h)).1

theorem StandsIn.isHost {o : Operation} (h : StandsIn operations o) : o.isHost = false :=
  (mem_emittedAs.mp (List.mem_of_find?_eq_some h)).2.1

theorem mem_distinctBy_emittedAs {o : Operation} :
    o ∈ distinctBy Operation.signature (emittedAs operations name) ↔
      StandsIn operations o ∧ o.emittedName = name := by
  rw [mem_distinctBy_iff]
  constructor
  · intro h
    have hname := (mem_emittedAs.mp (List.mem_of_find?_eq_some h)).2.2
    exact ⟨by rw [StandsIn, hname]; exact h, hname⟩
  · rintro ⟨h, rfl⟩
    exact h

theorem exists_standsIn {o : Operation} (ho : o ∈ operations) (hhost : o.isHost = false) :
    ∃ p, StandsIn operations p ∧ p.emittedName = o.emittedName ∧ p.signature = o.signature := by
  have hmem : o ∈ emittedAs operations o.emittedName := mem_emittedAs.mpr ⟨ho, hhost, rfl⟩
  obtain ⟨p, hp, hsignature⟩ :
      ∃ p ∈ distinctBy Operation.signature _, p.signature = o.signature :=
    exists_mem_distinctBy hmem
  obtain ⟨hstands, hname⟩ := mem_distinctBy_emittedAs.mp hp
  exact ⟨p, hstands, hname, hsignature⟩

/-! ### Overload sets -/

theorem exists_types_iff {set : OverloadSet} (h : set ∈ ownOverloads operations signatures)
    (types : List TypeName) :
    (∃ x ∈ set.overloads, x.types = types) ↔
      ∃ p ∈ operations,
        StandsIn operations p ∧ p.emittedName = set.name ∧ types ∈ p.callTypes := by
  obtain ⟨name, first, _, rfl⟩ := mem_ownOverloads_iff.mp h
  rw [exists_overload_iff]
  constructor
  · rintro ⟨p, hp, htypes⟩
    obtain ⟨hstands, hname⟩ := mem_distinctBy_emittedAs.mp hp
    exact ⟨p, hstands.mem, hstands, hname, htypes⟩
  · rintro ⟨p, _, hstands, hname, htypes⟩
    exact ⟨p, mem_distinctBy_emittedAs.mpr ⟨hstands, hname⟩, htypes⟩

theorem existsUnique_ownOverloads {o : Operation} (ho : o ∈ operations)
    (hhost : o.isHost = false) :
    ∃! set, set ∈ ownOverloads operations signatures ∧ set.name = o.emittedName := by
  have hmem : o ∈ emittedAs operations o.emittedName := mem_emittedAs.mpr ⟨ho, hhost, rfl⟩
  obtain ⟨first, hfirst⟩ : ∃ first, (emittedAs operations o.emittedName).head? = some first :=
    ⟨_, List.head?_eq_some_head (List.ne_nil_of_mem hmem)⟩
  refine ⟨_, ⟨mem_ownOverloads_iff.mpr ⟨o.emittedName, first, hfirst, rfl⟩, rfl⟩, ?_⟩
  rintro set ⟨hset, hname⟩
  obtain ⟨name, other, hother, rfl⟩ := mem_ownOverloads_iff.mp hset
  obtain rfl : name = o.emittedName := hname
  rw [hfirst] at hother
  rw [Option.some.inj hother]

end

/-! ### Calls that are kept -/

/-- No way to call an operation is lost: the set of its name has an overload with the types. -/
def KeepsCalls (operations : List Operation) (signatures : List String) : Prop :=
  ∀ o ∈ operations, o.isHost = false → ∀ types ∈ o.callTypes,
    ∃ set ∈ ownOverloads operations signatures,
      set.name = o.emittedName ∧ ∃ x ∈ set.overloads, x.types = types

instance (operations : List Operation) (signatures : List String) :
    Decidable (KeepsCalls operations signatures) :=
  inferInstanceAs (Decidable (∀ o ∈ _, _))

theorem keepsCalls_iff {operations : List Operation} {signatures : List String} :
    KeepsCalls operations signatures ↔
      ∀ o ∈ operations, o.isHost = false → ∀ types ∈ o.callTypes,
        ∃ p ∈ operations,
          StandsIn operations p ∧ p.emittedName = o.emittedName ∧ types ∈ p.callTypes := by
  refine forall₃_congr fun o ho hhost => forall₂_congr fun types _ => ?_
  constructor
  · rintro ⟨set, hset, hname, hx⟩
    rw [← hname]
    exact (exists_types_iff hset types).mp hx
  · intro hp
    obtain ⟨set, ⟨hset, hname⟩, _⟩ := @existsUnique_ownOverloads _ signatures _ ho hhost
    refine ⟨set, hset, hname, (exists_types_iff hset types).mpr ?_⟩
    rw [hname]
    exact hp

/-- What own overload sets keep.  Each name has one set, and the set has exactly the ways to call the
operations that stand for their signatures.  So nothing is lost if and only if these have all ways
to call the others, and this is so if none requires more arguments than a later operation of its
signature. -/
theorem own_overloads_keep_iff (operations : List Operation) (signatures : List String) :
    (∀ o ∈ operations, o.isHost = false →
      ∃! set, set ∈ ownOverloads operations signatures ∧ set.name = o.emittedName) ∧
    (∀ set ∈ ownOverloads operations signatures, ∀ types,
      (∃ x ∈ set.overloads, x.types = types) ↔
        ∃ p ∈ operations,
          StandsIn operations p ∧ p.emittedName = set.name ∧ types ∈ p.callTypes) ∧
    (KeepsCalls operations signatures ↔
      ∀ o ∈ operations, o.isHost = false → ∀ types ∈ o.callTypes,
        ∃ p ∈ operations,
          StandsIn operations p ∧ p.emittedName = o.emittedName ∧ types ∈ p.callTypes) ∧
    ((∀ o ∈ operations, ∀ p ∈ operations, StandsIn operations p →
        p.emittedName = o.emittedName → p.signature = o.signature →
          p.argumentTypes = o.argumentTypes ∧
            requiredCount p.arguments ≤ requiredCount o.arguments) →
      KeepsCalls operations signatures) := by
  refine ⟨fun o ho hhost => existsUnique_ownOverloads ho hhost,
    fun set hset types => exists_types_iff hset types, keepsCalls_iff, fun hlenient => ?_⟩
  rw [keepsCalls_iff]
  intro o ho hhost types htypes
  obtain ⟨p, hp, hname, hsignature⟩ := exists_standsIn ho hhost
  obtain ⟨harguments, hrequired⟩ := hlenient o ho p hp.mem hp hname hsignature
  have hcalls := (Operation.callTypes_subset_iff harguments).mpr hrequired
  exact ⟨p, hp.mem, hp, hname, hcalls htypes⟩

/-- Ways to open a document, declared so that no later declaration allows more than the first of its
signature. -/
def lenientFirst : List Operation :=
  [{ id := "open", type := "void",
     arguments := [{ id := "type", type := "DOMString", optional := true }] },
   { id := "open", type := "void", arguments := [{ id := "type", type := "DOMString" }] },
   { id := "open", type := "Window",
     arguments := [{ id := "url", type := "DOMString" },
       { id := "replace", type := "boolean", optional := true }] }]

theorem own_overloads_keep_iff_lenientFirst :
    KeepsCalls lenientFirst [] ∧ lenientFirst.map Operation.callTypes =
      [[[], ["DOMString"]], [["DOMString"]], [["DOMString"], ["DOMString", "boolean"]]] :=
  ⟨(own_overloads_keep_iff lenientFirst []).2.2.2 (by decide +kernel), by decide +kernel⟩

/-- The same with a declaration in front that requires the type. -/
def strictFirst : List Operation :=
  [{ id := "open", type := "void", arguments := [{ id := "type", type := "DOMString" }] },
   { id := "open", type := "void",
     arguments := [{ id := "type", type := "DOMString", optional := true }] }]

/-- Of two declarations of one signature the second may be called without a type, but no overload
may. -/
theorem strictFirst_loses_call :
    strictFirst.map Operation.callTypes = [[["DOMString"]], [[], ["DOMString"]]] ∧
      (ownOverloads strictFirst []).map (fun set => (set.name, set.overloads.map Overload.types)) =
        [("open", [["DOMString"]])] ∧
      ¬ KeepsCalls strictFirst [] := by
  decide +kernel

/-! ### Members that are called -/

/-- Operations of one name that call the same member in the same way. -/
def Operation.AgreesWith (o p : Operation) : Prop :=
  o.id = p.id ∧ o.emittedName = p.emittedName ∧ o.isStatic = p.isStatic

/-- An overload calls the member that it is declared on: an operation with the names and the kind of
the set has its parameters. -/
def OverloadSet.CallsDeclared (set : OverloadSet) (operations : List Operation) (x : Overload) :
    Prop :=
  ∃ o ∈ operations, o.id = set.jsName ∧ o.emittedName = set.name ∧ o.isStatic = set.isStatic ∧
    x.params ∈ expandOptional o.arguments

instance (o p : Operation) : Decidable (o.AgreesWith p) :=
  inferInstanceAs (Decidable (_ ∧ _))

instance (set : OverloadSet) (operations : List Operation) (x : Overload) :
    Decidable (set.CallsDeclared operations x) :=
  inferInstanceAs (Decidable (∃ o ∈ _, _))

section
variable {operations : List Operation} {signatures : List String} {set : OverloadSet}

theorem mem_overloads_iff (h : set ∈ ownOverloads operations signatures) {x : Overload} :
    x ∈ set.overloads ↔
      ∃ o, providerIn? operations set.name x.types = some o ∧
        x.params ∈ expandOptional o.arguments ∧ x.inherited = signatures.contains o.signature := by
  obtain ⟨name, first, _, rfl⟩ := mem_ownOverloads_iff.mp h
  exact mem_overloadsOf_iff

theorem mem_emittedAs_of_providerIn? {name : String} {types : List TypeName} {o : Operation}
    (h : providerIn? operations name types = some o) : o ∈ emittedAs operations name :=
  mem_of_mem_distinctBy (List.mem_of_find?_eq_some h)

/-- The first operation of a name decides on what its set calls. -/
theorem exists_first (h : set ∈ ownOverloads operations signatures) :
    ∃ first, (emittedAs operations set.name).head? = some first ∧
      set.jsName = first.id ∧ set.name = first.emittedName ∧ set.isStatic = first.isStatic := by
  obtain ⟨name, first, hfirst, rfl⟩ := mem_ownOverloads_iff.mp h
  have hname : first.emittedName = name := (mem_emittedAs.mp (List.mem_of_head? hfirst)).2.2
  exact ⟨first, hfirst, rfl, hname.symm, rfl⟩

/-- Which members own overloads call.  The first operation of a name decides for the whole set,
whereas each overload comes from the first operation that stands for its signature and may be called
with its types.  So all overloads call what they are declared on if and only if the parameters of
each such operation are also those of one that agrees with the first, and this is so if all
operations of the name agree. -/
theorem own_overloads_call_iff (h : set ∈ ownOverloads operations signatures) :
    ∃ first, (emittedAs operations set.name).head? = some first ∧
      set.jsName = first.id ∧ set.name = first.emittedName ∧ set.isStatic = first.isStatic ∧
      (∀ x, x ∈ set.overloads ↔
        ∃ o, providerIn? operations set.name x.types = some o ∧
          x.params ∈ expandOptional o.arguments ∧
          x.inherited = signatures.contains o.signature) ∧
      ((∀ x ∈ set.overloads, set.CallsDeclared operations x) ↔
        ∀ o ∈ emittedAs operations set.name, ∀ params ∈ expandOptional o.arguments,
          providerIn? operations set.name (params.map (·.type)) = some o →
            ∃ p ∈ operations, p.AgreesWith first ∧ params ∈ expandOptional p.arguments) ∧
      ((∀ o ∈ emittedAs operations set.name, o.AgreesWith first) →
        ∀ x ∈ set.overloads, set.CallsDeclared operations x) := by
  obtain ⟨first, hfirst, hid, hname, hstatic⟩ := exists_first h
  have hdeclared : ∀ x : Overload, set.CallsDeclared operations x ↔
      ∃ p ∈ operations, p.AgreesWith first ∧ x.params ∈ expandOptional p.arguments := by
    intro x
    simp only [OverloadSet.CallsDeclared, Operation.AgreesWith, hid, hname, hstatic, and_assoc]
  refine ⟨first, hfirst, hid, hname, hstatic, fun _ => mem_overloads_iff h, ⟨?_, ?_⟩, ?_⟩
  · intro hall o _ params hparams hprovider
    have hx : ⟨params, signatures.contains o.signature⟩ ∈ set.overloads :=
      (mem_overloads_iff h).mpr ⟨o, hprovider, hparams, rfl⟩
    exact (hdeclared _).mp (hall _ hx)
  · intro hall x hx
    obtain ⟨o, hprovider, hparams, _⟩ := (mem_overloads_iff h).mp hx
    have ho := mem_emittedAs_of_providerIn? hprovider
    exact (hdeclared x).mpr (hall o ho x.params hparams hprovider)
  · intro hagree x hx
    obtain ⟨o, hprovider, hparams, _⟩ := (mem_overloads_iff h).mp hx
    have ho := mem_emittedAs_of_providerIn? hprovider
    exact (hdeclared x).mpr ⟨o, (mem_emittedAs.mp ho).1, hagree o ho, hparams⟩

end

/-- The set of the ways to open a document. -/
def openSet : OverloadSet :=
  { name := "open"
    jsName := "open"
    returnType := "void"
    overloads := [⟨[], false⟩, ⟨[⟨"type", "DOMString"⟩], false⟩,
      ⟨[⟨"url", "DOMString"⟩, ⟨"replace", "boolean"⟩], false⟩]
    isStatic := false }

theorem own_overloads_call_iff_openSet :
    openSet ∈ ownOverloads lenientFirst [] ∧
      ∀ x ∈ openSet.overloads, openSet.CallsDeclared lenientFirst x := by
  have hset : openSet ∈ ownOverloads lenientFirst [] := by decide +kernel
  obtain ⟨first, hfirst, _, _, _, _, _, hagree⟩ := own_overloads_call_iff hset
  have hhead : (emittedAs lenientFirst openSet.name).head? = lenientFirst.head? := by
    decide +kernel
  obtain rfl : first = lenientFirst.head (by decide) := by
    rw [hhead] at hfirst
    exact (Option.some.inj hfirst).symm
  exact ⟨hset, hagree (by decide +kernel)⟩

/-- Operations that share names: two members are emitted as `open`, and `create` is declared with
and without an object. -/
def sharedNames : List Operation :=
  [{ id := "load", type := "void", extensions := .ofList [("DartName", some "open")] },
   { id := "fetch", type := "void", arguments := [{ id := "url", type := "DOMString" }],
     extensions := .ofList [("DartName", some "open")] },
   { id := "create", type := "Document" },
   { id := "create", type := "Document", isStatic := true,
     arguments := [{ id := "url", type := "DOMString" }] }]

/-- Opening an address calls the member that takes none, and creating from an address needs an
object. -/
theorem sharedNames_call_other_members :
    (ownOverloads sharedNames []).map (fun set =>
        (set.name, set.jsName, set.isStatic, set.overloads.map Overload.types)) =
      [("open", "load", false, [[], ["DOMString"]]),
        ("create", "create", false, [[], ["DOMString"]])] ∧
    ∀ set ∈ ownOverloads sharedNames [],
      ∃ x ∈ set.overloads, x.types = ["DOMString"] ∧ ¬ set.CallsDeclared sharedNames x := by
  decide +kernel

end Bindery
