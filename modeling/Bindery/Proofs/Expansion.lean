import Mathlib.Data.List.Basic
import Bindery.Proofs.Overload

/-! # Overload sets as expansions

The arguments of an operation expand to the parameter lists with which they may be given.  These
are meant to leave out optional arguments only (`Suffices`), but they are counted from the first
optional argument on and not from behind the last required one.  So they are right if and only if
the optional arguments are the last ones (`expandOptional_suffices_iff`).

An overload set goes through its operations in order and through the ways to call each of them, and
takes what has types it has not met.  `OverloadSet.ofOperations_expands` says what this comes to:
the types of the overloads are those of all ways to call the operations without later repetitions,
each overload is that of the first operation with its types (`Overload.Leads`), and operations that
were there before add nothing. -/

namespace Bindery

/-! ### Arguments that are left out -/

/-- Parameters that leave out no required argument: they are those of the first arguments, and all
arguments behind these are optional. -/
def Suffices (arguments : List Argument) (params : List Param) : Prop :=
  params <+: paramsOf arguments ∧ ∀ a ∈ arguments.drop params.length, a.optional = true

instance (arguments : List Argument) (params : List Param) :
    Decidable (Suffices arguments params) :=
  inferInstanceAs (Decidable (_ ∧ _))

section
variable {arguments : List Argument}

theorem requiredCount_cons (a : Argument) (rest : List Argument) :
    requiredCount (a :: rest) = if a.optional then 0 else requiredCount rest + 1 := by
  cases h : a.optional <;> simp [requiredCount, h]

theorem requiredCount_le_of_forall_drop {n : Nat}
    (h : ∀ a ∈ arguments.drop n, a.optional = true) : requiredCount arguments ≤ n := by
  induction arguments generalizing n with
  | nil => exact Nat.zero_le n
  | cons a rest ih =>
      rw [requiredCount_cons]
      split
      · exact Nat.zero_le n
      · next hrequired =>
        cases n with
        | zero => exact absurd (h a List.mem_cons_self) hrequired
        | succ n => exact Nat.succ_le_succ (ih h)

/-- All arguments behind the first required ones are optional if and only if no required argument
stands behind an optional one. -/
theorem forall_drop_requiredCount_iff :
    (∀ a ∈ arguments.drop (requiredCount arguments), a.optional = true) ↔
      arguments.Pairwise fun a b => a.optional = true → b.optional = true := by
  induction arguments with
  | nil => simp
  | cons a rest ih =>
      rw [requiredCount_cons, List.pairwise_cons]
      split
      · next hoptional =>
        rw [List.drop_zero, List.forall_mem_cons]
        constructor
        · rintro ⟨_, hrest⟩
          refine ⟨fun b hb _ => hrest b hb, ?_⟩
          exact List.pairwise_of_forall_mem_list fun _ _ b hb _ => hrest b hb
        · rintro ⟨hfirst, _⟩
          exact ⟨hoptional, fun b hb => hfirst b hb hoptional⟩
      · next hrequired =>
        rw [List.drop_succ_cons, ih]
        exact ⟨fun hrest => ⟨fun _ _ ha => absurd ha hrequired, hrest⟩, fun h => h.2⟩

theorem pairwise_length_expandOptional (arguments : List Argument) :
    (expandOptional arguments).Pairwise fun shorter longer => shorter.length < longer.length := by
  have hle := requiredCount_le arguments
  unfold expandOptional
  rw [List.pairwise_map]
  refine List.pairwise_lt_range.imp_of_mem fun {m n} hm hn hlt => ?_
  rw [List.mem_range] at hm hn
  simp only [paramsOf, List.length_map, List.length_take]
  unfold requiredCount at hle
  omega

theorem Suffices.mem_expandOptional {params : List Param} (h : Suffices arguments params) :
    params ∈ expandOptional arguments :=
  mem_expandOptional_iff.mpr ⟨h.1, requiredCount_le_of_forall_drop h.2⟩

theorem forall_suffices_iff :
    (∀ params ∈ expandOptional arguments, Suffices arguments params) ↔
      arguments.Pairwise fun a b => a.optional = true → b.optional = true := by
  rw [← forall_drop_requiredCount_iff]
  constructor
  · intro hall
    -- the shortest list leaves out the most
    have hlength : ((paramsOf arguments).take (requiredCount arguments)).length =
        requiredCount arguments := length_take_requiredCount _ arguments
    have hshortest := hall _ (mem_expandOptional_iff.mpr ⟨List.take_prefix _ _, hlength.ge⟩)
    rw [Suffices, hlength] at hshortest
    exact hshortest.2
  · intro hrest params hparams
    obtain ⟨hinitial, hrequired⟩ := mem_expandOptional_iff.mp hparams
    refine ⟨hinitial, fun a ha => hrest a ?_⟩
    exact (List.drop_sublist_drop_left arguments hrequired).subset ha

end

/-- With which parameters arguments may be given.  The lists grow, so that none occurs twice, and
they are the prefixes that go at least up to the first optional argument.  Every prefix that
suffices is one of them, and they all suffice if and only if no required argument stands behind an
optional one. -/
theorem expandOptional_suffices_iff (arguments : List Argument) :
    (expandOptional arguments).Pairwise (fun shorter longer => shorter.length < longer.length) ∧
    (∀ params, params ∈ expandOptional arguments ↔
      params <+: paramsOf arguments ∧ requiredCount arguments ≤ params.length) ∧
    (∀ params, Suffices arguments params → params ∈ expandOptional arguments) ∧
    ((∀ params, params ∈ expandOptional arguments ↔ Suffices arguments params) ↔
      arguments.Pairwise fun a b => a.optional = true → b.optional = true) := by
  refine ⟨pairwise_length_expandOptional arguments, fun _ => mem_expandOptional_iff,
    fun _ h => h.mem_expandOptional, ?_⟩
  rw [← forall_suffices_iff]
  constructor
  · intro hexact params hparams
    exact (hexact params).mp hparams
  · intro hall params
    exact ⟨hall params, Suffices.mem_expandOptional⟩

/-- What a request is opened with: two required arguments and two that may be left out. -/
def requestArguments : List Argument :=
  [{ id := "method", type := "DOMString" }, { id := "url", type := "DOMString" },
   { id := "async", type := "boolean", optional := true },
   { id := "user", type := "DOMString", optional := true }]

theorem expandOptional_suffices_iff_request :
    (expandOptional requestArguments).map List.length = [2, 3, 4] ∧
      (∀ params, params ∈ expandOptional requestArguments ↔ Suffices requestArguments params) ∧
      Suffices requestArguments [⟨"method", "DOMString"⟩, ⟨"url", "DOMString"⟩] ∧
      [⟨"method", "DOMString"⟩, ⟨"url", "DOMString"⟩] ∈ expandOptional requestArguments := by
  obtain ⟨_, _, hmem, hiff⟩ := expandOptional_suffices_iff requestArguments
  have hshortest : Suffices requestArguments [⟨"method", "DOMString"⟩, ⟨"url", "DOMString"⟩] := by
    decide
  exact ⟨by decide, hiff.mpr (by decide), hshortest, hmem _ hshortest⟩

/-- What a worker is made from: a required address behind a name that may be left out. -/
def workerArguments : List Argument :=
  [{ id := "name", type := "DOMString", optional := true }, { id := "url", type := "DOMString" }]

/-- The constructor of a worker may be called without its address. -/
theorem workerArguments_omit_url :
    Interface.constructorSet? { id := "Worker", constructorArguments := some workerArguments } =
        some { interface := "Worker"
               jsName := "Worker"
               overloads := [[], [⟨"name", "DOMString"⟩],
                 [⟨"name", "DOMString"⟩, ⟨"url", "DOMString"⟩]] } ∧
      ¬ Suffices workerArguments [] ∧ ¬ Suffices workerArguments [⟨"name", "DOMString"⟩] ∧
      Suffices workerArguments [⟨"name", "DOMString"⟩, ⟨"url", "DOMString"⟩] ∧
      ¬ ∀ params, params ∈ expandOptional workerArguments ↔ Suffices workerArguments params := by
  refine ⟨by decide, by decide, by decide, by decide, fun hexact => ?_⟩
  exact absurd ((hexact []).mp (by decide)) (by decide)

/-! ### First occurrences of types -/

/-- An overload as an operation provides it: a way to call the operation, with the names of its
arguments, and inherited if an ancestor has the signature of the operation. -/
def Overload.ProvidedBy (signatures : List String) (o : Operation) (x : Overload) : Prop :=
  x.types ∈ o.callTypes ∧ x.params = paramsOf (o.arguments.take x.types.length) ∧
    x.inherited = signatures.contains o.signature

/-- An overload as the first operation of a list provides it that may be called with its types. -/
def Overload.Leads (signatures : List String) (operations : List Operation) (x : Overload) : Prop :=
  ∃ before o after, operations = before ++ o :: after ∧ (∀ p ∈ before, x.types ∉ p.callTypes) ∧
    x.ProvidedBy signatures o

variable {signatures : List String} {operations : List Operation} {x : Overload}

theorem Overload.providedBy_iff {o : Operation} :
    x.ProvidedBy signatures o ↔
      x.params ∈ expandOptional o.arguments ∧ x.inherited = signatures.contains o.signature := by
  have hlength : x.types.length = x.params.length := List.length_map _
  have htake : paramsOf (o.arguments.take x.params.length) =
      (paramsOf o.arguments).take x.params.length := List.map_take
  unfold ProvidedBy
  rw [← and_assoc, hlength, htake, ← List.prefix_iff_eq_take]
  refine and_congr_left fun _ => ?_
  rw [mem_expandOptional_iff]
  constructor
  · rintro ⟨htypes, hinitial⟩
    exact ⟨hinitial, hlength ▸ (Operation.mem_callTypes_iff.mp htypes).2⟩
  · intro hparams
    exact ⟨List.mem_map_of_mem (mem_expandOptional_iff.mpr hparams), hparams.1⟩

theorem mem_overloadsOf_iff_leads :
    x ∈ overloadsOf signatures operations ↔ x.Leads signatures operations := by
  rw [mem_overloadsOf_iff]
  simp only [← Overload.providedBy_iff, List.find?_eq_some_iff_append]
  constructor
  · rintro ⟨o, ⟨_, before, after, hsplit, hbefore⟩, hprovided⟩
    exact ⟨before, o, after, hsplit, fun p hp => by simpa using hbefore p hp, hprovided⟩
  · rintro ⟨before, o, after, hsplit, hbefore, hprovided⟩
    refine ⟨o, ⟨by simpa using hprovided.1, before, after, hsplit, fun p hp => ?_⟩, hprovided⟩
    simpa using hbefore p hp

theorem map_types_overloadsOf (signatures : List String) (operations : List Operation) :
    (overloadsOf signatures operations).map Overload.types =
      (operations.flatMap Operation.callTypes).eraseDups := by
  have hone : ∀ o : Operation, (o.overloads signatures).map Overload.types = o.callTypes := by
    intro o
    unfold Operation.overloads Operation.callTypes
    rw [List.map_map]
    rfl
  unfold overloadsOf
  rw [map_distinctBy, List.map_flatMap]
  simp only [hone]

theorem overloadsOf_append {extra : List Operation} (h : ∀ o ∈ extra, o ∈ operations) :
    overloadsOf signatures (operations ++ extra) = overloadsOf signatures operations := by
  unfold overloadsOf
  rw [List.flatMap_append]
  refine distinctBy_append_of_forall fun x hx => ?_
  obtain ⟨o, ho, hx⟩ := List.mem_flatMap.mp hx
  exact ⟨x, List.mem_flatMap.mpr ⟨o, h o ho, hx⟩, rfl⟩

namespace OverloadSet

theorem ofOperations?_eq_none_iff :
    ofOperations? signatures operations = none ↔ operations = [] := by
  cases operations <;> simp [ofOperations?]

theorem overloads_of_ofOperations? {set : OverloadSet}
    (h : ofOperations? signatures operations = some set) :
    set.overloads = overloadsOf signatures operations := by
  cases operations with
  | nil => cases h
  | cons first rest =>
      cases h
      rfl

/-- The first operation of a list stays the first one, so the names of its set stay. -/
theorem ofOperations?_append {extra : List Operation} (h : ∀ o ∈ extra, o ∈ operations) :
    ofOperations? signatures (operations ++ extra) = ofOperations? signatures operations := by
  cases operations with
  | nil =>
      have hnone : extra = [] := List.eq_nil_iff_forall_not_mem.mpr fun o ho => nomatch h o ho
      rw [hnone]
      rfl
  | cons first rest =>
      show some _ = some _
      rw [overloadsOf_append h]

/-- The set of some operations is there if and only if there are operations.  The types of its
overloads are those of all ways to call the operations, in order and each at its first occurrence,
and every overload is provided by the first operation that may be called with its types.  Operations
of the list that follow once more change nothing. -/
theorem ofOperations_expands (signatures : List String)
    (operations : List Operation) :
    (ofOperations? signatures operations = none ↔ operations = []) ∧
    (∀ set, ofOperations? signatures operations = some set →
      set.overloads.map Overload.types = (operations.flatMap Operation.callTypes).eraseDups ∧
      (set.overloads.map Overload.types).Nodup ∧
      (∀ types, types ∈ set.overloads.map Overload.types ↔
        ∃ o ∈ operations, types ∈ o.callTypes) ∧
      ∀ x ∈ set.overloads, x.Leads signatures operations) ∧
    (∀ extra, (∀ o ∈ extra, o ∈ operations) →
      ofOperations? signatures (operations ++ extra) = ofOperations? signatures operations) := by
  refine ⟨ofOperations?_eq_none_iff, fun set h => ?_, fun extra h => ofOperations?_append h⟩
  rw [overloads_of_ofOperations? h]
  refine ⟨map_types_overloadsOf _ _, nodup_map_distinctFrom _ _ _, fun types => ?_,
    fun x hx => mem_overloadsOf_iff_leads.mp hx⟩
  rw [List.mem_map]
  exact exists_overload_iff

/-- Two ways to open a document, of which the second may be called with one text like the first. -/
def openings : List Operation :=
  [{ id := "open", type := "void",
     arguments := [{ id := "type", type := "DOMString", optional := true },
       { id := "replace", type := "DOMString", optional := true }] },
   { id := "open", type := "Window",
     arguments := [{ id := "url", type := "DOMString" },
       { id := "width", type := "long", optional := true }] }]

/-- What they come to if an ancestor declares the second one. -/
def openingSet : OverloadSet where
  name := "open"
  jsName := "open"
  returnType := "void"
  overloads := [⟨[], false⟩, ⟨[⟨"type", "DOMString"⟩], false⟩,
    ⟨[⟨"type", "DOMString"⟩, ⟨"replace", "DOMString"⟩], false⟩,
    ⟨[⟨"url", "DOMString"⟩, ⟨"width", "long"⟩], true⟩]
  isStatic := false

theorem ofOperations_expands_openings :
    let signatures := ["Window open(DOMString, long)"]
    ofOperations? signatures openings = some openingSet ∧
      openingSet.overloads.map Overload.types =
        (openings.flatMap Operation.callTypes).eraseDups ∧
      (∀ x ∈ openingSet.overloads, x.Leads signatures openings) ∧
      ofOperations? signatures (openings ++ (openings.reverse ++ openings)) = some openingSet := by
  intro signatures
  have hset : ofOperations? signatures openings = some openingSet := by decide +kernel
  obtain ⟨_, hexpands, hrepeated⟩ := ofOperations_expands signatures openings
  obtain ⟨htypes, _, _, hleads⟩ := hexpands openingSet hset
  refine ⟨hset, htypes, hleads, (hrepeated _ fun o ho => ?_).trans hset⟩
  simpa using ho

end OverloadSet

end Bindery
