import Mathlib.Data.List.Basic
import Bindery.Proofs.Flatten

/-! # Keys of operations and overloads

Operations are told apart by their signatures and overloads by their keys, both texts that are
joined from names and types.  The parts can be read off if none holds the mark at which it ends: a
name ends at the first `(`, a return type at the last space in front of the name, and the type of an
argument at a comma.  So comparing the texts comes to comparing the parts, and nothing is passed
over but what came before (`keys_faithful`). -/

namespace Bindery

/-! ### Joined texts -/

/-- What stands in front of the first mark can be read off. -/
theorem eq_of_append_mark_eq {mark : Char} {a b rest rest' : List Char} (ha : mark ∉ a)
    (hb : mark ∉ b) (h : a ++ mark :: rest = b ++ mark :: rest') : a = b ∧ rest = rest' := by
  induction a generalizing b with
  | nil =>
      cases b with
      | nil => exact ⟨rfl, (List.cons.inj h).2⟩
      | cons c b =>
          obtain ⟨rfl, _⟩ := List.cons.inj h
          exact absurd List.mem_cons_self hb
  | cons c a ih =>
      cases b with
      | nil =>
          obtain ⟨rfl, _⟩ := List.cons.inj h
          exact absurd List.mem_cons_self ha
      | cons d b =>
          obtain ⟨rfl, htail⟩ := List.cons.inj h
          obtain ⟨rfl, hrest⟩ :=
            ih (fun hc => ha (.tail _ hc)) (fun hc => hb (.tail _ hc)) htail
          exact ⟨rfl, hrest⟩

/-- What stands behind the last mark can be read off. -/
theorem eq_of_mark_append_eq {mark : Char} {a b front front' : List Char} (ha : mark ∉ a)
    (hb : mark ∉ b) (h : front ++ mark :: a = front' ++ mark :: b) : front = front' ∧ a = b := by
  have hreverse : a.reverse ++ mark :: front.reverse = b.reverse ++ mark :: front'.reverse := by
    simpa using congrArg List.reverse h
  obtain ⟨hab, hfront⟩ := eq_of_append_mark_eq (by simpa using ha) (by simpa using hb) hreverse
  exact ⟨List.reverse_injective hfront, List.reverse_injective hab⟩

/-- Joined texts that are not empty and free of commas can be told apart. -/
theorem eq_of_intercalate_eq {a b : List String} (ha : ∀ t ∈ a, t ≠ "" ∧ ',' ∉ t.toList)
    (hb : ∀ t ∈ b, t ≠ "" ∧ ',' ∉ t.toList)
    (h : String.intercalate "," a = String.intercalate "," b) : a = b := by
  have hparts := String.toList_split_intercalate fun t ht => (ha t ht).2
  have hparts' := String.toList_split_intercalate fun t ht => (hb t ht).2
  have hcomma : String.singleton ',' = "," := rfl
  rw [hcomma] at hparts hparts'
  rw [h, hparts'] at hparts
  split at hparts
  · next hempty =>
    split at hparts
    · next hempty' => rw [hempty, hempty']
    · exact absurd rfl (ha "" (hparts ▸ List.mem_singleton_self "")).1
  · split at hparts
    · exact absurd rfl (hb "" (hparts ▸ List.mem_singleton_self "")).1
    · exact hparts.symm

/-- Texts with a space in front of each but the first. -/
def spaced : List String → List String
  | [] => []
  | first :: rest => first :: rest.map (" " ++ ·)

/-- A space behind every comma may be taken for a part of the text that follows. -/
theorem intercalate_eq_spaced (texts : List String) :
    String.intercalate ", " texts = String.intercalate "," (spaced texts) := by
  cases texts with
  | nil => rfl
  | cons first rest =>
      induction rest generalizing first with
      | nil => simp [spaced]
      | cons second rest ih =>
          have hcomma : ", " = "," ++ " " := rfl
          rw [String.intercalate_cons_cons, ih second, spaced, spaced, List.map_cons,
            String.intercalate_cons_cons, String.intercalate_cons_append, hcomma]
          simp only [String.append_assoc]

theorem spaced_injective : Function.Injective spaced := by
  intro a b h
  cases a with
  | nil =>
      cases b with
      | nil => rfl
      | cons first rest => cases h
  | cons first rest =>
      cases b with
      | nil => cases h
      | cons first' rest' =>
          obtain ⟨rfl, hrest⟩ := List.cons.inj h
          have hspace : Function.Injective ((" " : String) ++ ·) :=
            fun _ _ => (String.append_right_inj " ").mp
          rw [List.map_injective_iff.mpr hspace hrest]

theorem plain_of_mem_spaced {texts : List String} (h : ∀ t ∈ texts, t ≠ "" ∧ ',' ∉ t.toList)
    {t : String} (ht : t ∈ spaced texts) : t ≠ "" ∧ ',' ∉ t.toList := by
  cases texts with
  | nil => cases ht
  | cons first rest =>
      rcases List.mem_cons.mp ht with rfl | ht
      · exact h _ List.mem_cons_self
      · obtain ⟨u, hu, rfl⟩ := List.mem_map.mp ht
        simpa using (h u (.tail _ hu)).2

/-! ### Names and types -/

/-- A name and types of arguments that do not hold the marks at which they end; an empty type could
not be told from none. -/
def PlainCall (name : String) (types : List TypeName) : Prop :=
  '(' ∉ name.toList ∧ ∀ type ∈ types, type ≠ "" ∧ ',' ∉ type.toList

instance (name : String) (types : List TypeName) : Decidable (PlainCall name types) :=
  inferInstanceAs (Decidable (_ ∧ _))

theorem PlainCall.eq_of_key_eq {name name' : String} {types types' : List TypeName}
    (h : PlainCall name types) (h' : PlainCall name' types')
    (heq : name ++ "(" ++ String.intercalate "," types ++ ")" =
      name' ++ "(" ++ String.intercalate "," types' ++ ")") : name = name' ∧ types = types' := by
  have hchars : name.toList ++ '(' :: ((String.intercalate "," types).toList ++ [')']) =
      name'.toList ++ '(' :: ((String.intercalate "," types').toList ++ [')']) := by
    simpa [← String.toList_inj] using heq
  obtain ⟨hname, hrest⟩ := eq_of_append_mark_eq h.1 h'.1 hchars
  have hjoined := String.toList_inj.mp (List.append_cancel_right hrest)
  exact ⟨String.toList_inj.mp hname, eq_of_intercalate_eq h.2 h'.2 hjoined⟩

theorem overloadKey_eq_iff {name name' : String} {params params' : List Param}
    (h : PlainCall name (params.map (·.type))) (h' : PlainCall name' (params'.map (·.type))) :
    overloadKey name params = overloadKey name' params' ↔
      name = name' ∧ params.map (·.type) = params'.map (·.type) := by
  constructor
  · exact h.eq_of_key_eq h'
  · rintro ⟨rfl, htypes⟩
    unfold overloadKey
    rw [htypes]

namespace Operation

/-- What a signature is joined from. -/
def parts (o : Operation) : TypeName × String × List TypeName :=
  (o.type, o.emittedName, o.argumentTypes)

/-- An operation whose name and types do not hold the marks between them. -/
def Plain (o : Operation) : Prop :=
  ' ' ∉ o.emittedName.toList ∧ '(' ∉ o.type.toList ∧ PlainCall o.emittedName o.argumentTypes

instance (o : Operation) : Decidable o.Plain :=
  inferInstanceAs (Decidable (_ ∧ _))

variable {o p : Operation}

theorem parts_eq_iff :
    o.parts = p.parts ↔
      o.type = p.type ∧ o.emittedName = p.emittedName ∧ o.argumentTypes = p.argumentTypes := by
  simp [parts]

theorem Plain.parts_eq (ho : o.Plain) (hp : p.Plain) (h : o.signature = p.signature) :
    o.parts = p.parts := by
  obtain ⟨hspace, htype, hname, htypes⟩ := ho
  obtain ⟨hspace', htype', hname', htypes'⟩ := hp
  have hchars : (o.type.toList ++ ' ' :: o.emittedName.toList) ++
        '(' :: ((String.intercalate ", " o.argumentTypes).toList ++ [')']) =
      (p.type.toList ++ ' ' :: p.emittedName.toList) ++
        '(' :: ((String.intercalate ", " p.argumentTypes).toList ++ [')']) := by
    simpa [signature, ← String.toList_inj] using h
  obtain ⟨hfront, hrest⟩ :=
    eq_of_append_mark_eq (by simp [htype, hname]) (by simp [htype', hname']) hchars
  -- a return type may hold spaces, but the name does not
  obtain ⟨heqType, heqName⟩ := eq_of_mark_append_eq hspace hspace' hfront
  have hjoined := String.toList_inj.mp (List.append_cancel_right hrest)
  rw [intercalate_eq_spaced, intercalate_eq_spaced] at hjoined
  have hspaced := eq_of_intercalate_eq (fun _ => plain_of_mem_spaced htypes)
    (fun _ => plain_of_mem_spaced htypes') hjoined
  exact parts_eq_iff.mpr
    ⟨String.toList_inj.mp heqType, String.toList_inj.mp heqName, spaced_injective hspaced⟩

theorem Plain.signature_eq_iff (ho : o.Plain) (hp : p.Plain) :
    o.signature = p.signature ↔ o.parts = p.parts := by
  constructor
  · exact ho.parts_eq hp
  · intro h
    obtain ⟨htype, hname, htypes⟩ := parts_eq_iff.mp h
    unfold signature
    rw [htype, hname, htypes]

end Operation

/-! ### Comparing keys -/

theorem Operation.distinctFrom_signature {seen operations : List Operation}
    (h : ∀ o ∈ seen ++ operations, o.Plain) :
    distinctFrom signature (seen.map signature) operations =
      distinctFrom parts (seen.map parts) operations :=
  distinctFrom_congr_key fun o ho p hp =>
    (h o (List.mem_append_right _ ho)).signature_eq_iff (h p hp)

/-- What the calls for secondary ancestors carry is told apart by names and types. -/
theorem carried_eq_distinctBy {i : Interface} {owners : List Interface}
    (h : ∀ x ∈ contributions i [] owners, PlainCall x.name x.types) :
    (contributionCalls i {} owners).flatMap Call.contributions =
      distinctBy (fun x => (x.name, x.types)) (contributions i [] owners) := by
  rw [contributions_contributionCalls]
  refine @distinctFrom_congr_key _ _ _ _ _ Contribution.key _ [] _ fun x hx y hy => ?_
  rw [Prod.mk.injEq]
  constructor
  · exact (h x hx).eq_of_key_eq (h y hy)
  · rintro ⟨hname, htypes⟩
    unfold Contribution.key
    rw [hname, htypes]

/-- Signatures and keys are faithful.  Plain operations have the same signature if and only if their
return types, names and argument types are the same, and plain overloads have the same key if and
only if their names and types are.  So an operation is passed over only if one with the same parts
came before, and of what secondary ancestors contribute each name with its types is carried once. -/
theorem keys_faithful :
    (∀ o p : Operation, o.Plain → p.Plain →
      (o.signature = p.signature ↔
        o.type = p.type ∧ o.emittedName = p.emittedName ∧ o.argumentTypes = p.argumentTypes)) ∧
    (∀ name name' params params', PlainCall name (params.map (·.type)) →
      PlainCall name' (params'.map (·.type)) →
        (overloadKey name params = overloadKey name' params' ↔
          name = name' ∧ params.map (·.type) = params'.map (·.type))) ∧
    (∀ seen operations : List Operation, (∀ o ∈ seen ++ operations, o.Plain) →
      distinctFrom Operation.signature (seen.map Operation.signature) operations =
        distinctFrom Operation.parts (seen.map Operation.parts) operations) ∧
    ∀ (i : Interface) (owners : List Interface),
      (∀ x ∈ contributions i [] owners, PlainCall x.name x.types) →
        (contributionCalls i {} owners).flatMap Call.contributions =
          distinctBy (fun x => (x.name, x.types)) (contributions i [] owners) := by
  refine ⟨fun o p ho hp => ?_, fun _ _ _ _ h h' => overloadKey_eq_iff h h',
    fun _ _ h => Operation.distinctFrom_signature h, fun _ _ h => carried_eq_distinctBy h⟩
  rw [ho.signature_eq_iff hp, Operation.parts_eq_iff]

-- a name with a space in it can be taken for a part of the return type
example : Operation.signature { id := "long size", type := "unsigned" } =
    Operation.signature { id := "size", type := "unsigned long" } := by
  decide +kernel

/-- Ways to read a matrix, whose types hold spaces and brackets.  The last one has the signature of
the first. -/
def matrix : Interface :=
  { id := "Matrix"
    operations := [
      { id := "row", type := "sequence<unsigned long>",
        arguments := [{ id := "index", type := "unsigned long" }] },
      { id := "row", type := "sequence<unsigned long>",
        arguments := [{ id := "index", type := "unsigned long", optional := true },
          { id := "length", type := "unsigned long", optional := true }] },
      { id := "size", type := "unsigned long" },
      { id := "line", type := "sequence<unsigned long>",
        arguments := [{ id := "number", type := "unsigned long" }],
        extensions := .ofList [("DartName", some "row")] }] }

theorem keys_faithful_matrix :
    (∀ o ∈ matrix.operations, o.Plain) ∧
      matrix.operations.map Operation.signature =
        ["sequence<unsigned long> row(unsigned long)",
          "sequence<unsigned long> row(unsigned long, unsigned long)", "unsigned long size()",
          "sequence<unsigned long> row(unsigned long)"] ∧
      (∀ o ∈ matrix.operations, ∀ p ∈ matrix.operations, o.signature = p.signature →
        o.type = p.type ∧ o.emittedName = p.emittedName ∧ o.argumentTypes = p.argumentTypes) ∧
      overloadKey "row" [⟨"index", "unsigned long"⟩] ≠ overloadKey "row" [] ∧
      distinctFrom Operation.parts [] matrix.operations = matrix.operations.take 3 ∧
      (distinctBy (fun x => (x.name, x.types)) (contributions { id := "View" } [] [matrix])).map
          (fun x => (x.name, x.types)) =
        [("row", ["unsigned long"]), ("row", []), ("row", ["unsigned long", "unsigned long"]),
          ("size", [])] := by
  obtain ⟨hsignatures, hkeys, hoperations, hcarried⟩ := keys_faithful
  have hplain : ∀ o ∈ matrix.operations, o.Plain := by decide +kernel
  refine ⟨hplain, by decide +kernel, fun o ho p hp => ?_, ?_, ?_, ?_⟩
  · exact (hsignatures o p (hplain o ho) (hplain p hp)).mp
  · intro h
    exact absurd ((hkeys _ _ _ _ (by decide +kernel) (by decide +kernel)).mp h).2 (by decide)
  · exact (hoperations [] matrix.operations hplain).symm.trans (by decide +kernel)
  · rw [← hcarried _ _ (by decide +kernel)]
    decide +kernel

end Bindery
