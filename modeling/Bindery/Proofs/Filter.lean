import Mathlib.Data.List.Forall2
import Bindery.Proofs.Closure

/-! # What a filter keeps, and what it reports

A filter goes over a graph twice: first by annotations, then by types, which resolve against what
the first round has left.  Both rounds look at the same `Item`s of an interface, so that the two of
them drop what a single look at each item would (`AnnotationFilter.apply_exact`).  What is left
passes both rounds again (`AnnotationFilter.apply_idempotent`), and a looser filter leaves more of
everything (`AnnotationFilter.apply_monotone`). -/

namespace Bindery

/-! ### Types that resolve -/

namespace TypeName

/-- A type resolves if it needs no interface, if its unqualified name is known, or if it is the
application of a type that resolves to another one. -/
inductive Resolves (known : String → Prop) : TypeName → Prop
  | primitive {t : TypeName} : t ∈ primitives → Resolves known t
  | container {t : TypeName} : t ∈ containers → Resolves known t
  | known {t : TypeName} : known (unqualified t) → Resolves known t
  | application {outer inner : TypeName} : IsHead outer → IsArgument inner →
      Resolves known outer → Resolves known inner → Resolves known (outer ++ "<" ++ inner ++ ">")

theorem resolves_iff {known : String → Bool} {t : TypeName} :
    Resolves (known · = true) t ↔ isResolvable known t = true := by
  constructor
  · intro h
    induction h with
    | primitive h => exact isResolvable_iff.mpr (.inl (.inl h))
    | container h => exact isResolvable_iff.mpr (.inl (.inr h))
    | known h => exact isResolvable_iff.mpr (.inr (.inl h))
    | application houter hinner _ _ ihouter ihinner =>
        have hsplit := split?_eq_some_iff.mpr ⟨rfl, houter, hinner⟩
        exact isResolvable_iff.mpr (.inr (.inr ⟨_, _, hsplit, ihouter, ihinner⟩))
  · intro h
    -- the parts of an application are shorter
    induction hlen : t.length using Nat.strong_induction_on generalizing t with
    | _ n ih =>
        rcases isResolvable_iff.mp h with (hp | hc) | hk | ⟨outer, inner, hsplit, houter, hinner⟩
        · exact .primitive hp
        · exact .container hc
        · exact .known hk
        · have hshorter := length_of_split? hsplit
          obtain ⟨rfl, hhead, hargument⟩ := split?_eq_some_iff.mp hsplit
          have resolvesOuter := ih outer.length (by omega) houter rfl
          have resolvesInner := ih inner.length (by omega) hinner rfl
          exact .application hhead hargument resolvesOuter resolvesInner

theorem Resolves.mono {known known' : String → Prop}
    (hknown : ∀ name, known name → known' name) {t : TypeName} (ht : Resolves known t) :
    Resolves known' t := by
  induction ht with
  | primitive h => exact .primitive h
  | container h => exact .container h
  | known h => exact .known (hknown _ h)
  | application houter hinner _ _ ihouter ihinner =>
      exact .application houter hinner ihouter ihinner

end TypeName

namespace Graph

/-- A type resolves against the identifiers of a graph. -/
def Resolves (g : Graph) (t : TypeName) : Prop :=
  TypeName.Resolves (· ∈ g.ids) t

theorem resolves_iff {g : Graph} {t : TypeName} :
    g.Resolves t ↔ TypeName.isResolvable g.contains t = true := by
  have hknown : (· ∈ g.ids) = fun id => g.contains id = true :=
    funext fun id => propext mem_ids_iff
  rw [Resolves, hknown]
  exact TypeName.resolves_iff

instance (g : Graph) : DecidablePred g.Resolves :=
  fun _ => decidable_of_iff _ resolves_iff.symm

end Graph

/-! ### Annotations -/

namespace AnnotationFilter

/-- What a filter keeps: no excluding annotation marks it as displaced or suppressed, and it carries
one of the sufficient annotations, or all of the necessary ones if there are any. -/
structure Keeps (f : AnnotationFilter) (annotations : Annotations) : Prop where
  not_displaced : ∀ name ∈ f.excludeDisplaced, ∀ a, annotations.find? name = some a →
    a.isDisplaced = false
  not_suppressed : ∀ name ∈ f.excludeSuppressed, ∀ a, annotations.find? name = some a →
    a.isSuppressed = false
  required : (∃ name ∈ f.requireAny, annotations.contains name = true) ∨
    f.requireAll ≠ [] ∧ ∀ name ∈ f.requireAll, annotations.contains name = true

theorem any_marked_iff {names : List String} {annotations : Annotations}
    {mark : Annotation → Bool} :
    (names.any fun name => (annotations.find? name).any mark) = false ↔
      ∀ name ∈ names, ∀ a, annotations.find? name = some a → mark a = false := by
  simp only [List.any_eq_false, Bool.not_eq_true, Option.any_eq_false]

theorem keeps_iff {f : AnnotationFilter} {annotations : Annotations} :
    f.keeps annotations = true ↔ f.Keeps annotations := by
  unfold keeps
  constructor
  · intro h
    split at h
    · cases h
    · next hdisplaced =>
      split at h
      · cases h
      · next hsuppressed =>
        rw [Bool.not_eq_true, any_marked_iff] at hdisplaced hsuppressed
        refine ⟨hdisplaced, hsuppressed, ?_⟩
        split at h
        · next hany => exact .inl (List.any_eq_true.mp hany)
        · split at h
          · cases h
          · next hall =>
            exact .inr ⟨by simpa using hall, List.all_eq_true.mp h⟩
  · rintro ⟨hdisplaced, hsuppressed, hrequired⟩
    rw [any_marked_iff.mpr hdisplaced, any_marked_iff.mpr hsuppressed]
    rcases hrequired with hany | ⟨hne, hall⟩
    · simp [List.any_eq_true.mpr hany]
    · simp [hne, List.all_eq_true.mpr hall]

instance (f : AnnotationFilter) : DecidablePred f.Keeps :=
  fun _ => decidable_of_iff _ keeps_iff

@[simp] theorem decide_keeps (f : AnnotationFilter) (annotations : Annotations) :
    decide (f.Keeps annotations) = f.keeps annotations := by
  rw [Bool.eq_iff_iff, decide_eq_true_eq, keeps_iff]

end AnnotationFilter

/-! ### Items of interfaces -/

/-- A member, a parent or the constructor of an interface, which a filter may drop. -/
structure Item where
  /-- What a report calls it. -/
  label : String
  /-- The annotations by which a filter decides.  A constructor has none, and a filter keeps it. -/
  annotations : Option Annotations
  /-- The types that it mentions, in order. -/
  types : List TypeName

namespace Item

/-- A filter keeps the item. -/
def Kept (f : AnnotationFilter) (p : Item) : Prop :=
  ∀ annotations ∈ p.annotations, f.Keeps annotations

instance (f : AnnotationFilter) : DecidablePred (Kept f) :=
  fun p => inferInstanceAs (Decidable (∀ annotations ∈ p.annotations, _))

theorem decide_kept {f : AnnotationFilter} {p : Item} {annotations : Annotations}
    (h : p.annotations = some annotations) : decide (p.Kept f) = f.keeps annotations := by
  rw [Bool.eq_iff_iff, decide_eq_true_eq, Kept, h, AnnotationFilter.keeps_iff]
  simp

/-- Some type that the item mentions does not resolve against a graph. -/
def Dangles (g : Graph) (p : Item) : Prop :=
  ∃ t ∈ p.types, ¬ g.Resolves t

instance (g : Graph) : DecidablePred (Dangles g) :=
  fun p => inferInstanceAs (Decidable (∃ t ∈ p.types, _))

/-- A filter keeps the item, and all its types resolve against a graph. -/
def Stays (f : AnnotationFilter) (g : Graph) (p : Item) : Prop :=
  p.Kept f ∧ ¬ p.Dangles g

instance (f : AnnotationFilter) (g : Graph) : DecidablePred (Stays f g) :=
  fun _ => inferInstanceAs (Decidable (_ ∧ _))

end Item

def Constant.item (c : Constant) : Item :=
  ⟨c.id, some c.annotations, [c.type]⟩

def Attribute.item (a : Attribute) : Item :=
  ⟨a.id, some a.annotations, a.types⟩

def Operation.item (o : Operation) : Item :=
  ⟨o.id, some o.annotations, o.types⟩

def Parent.item (p : Parent) : Item :=
  ⟨"parent", some p.annotations, [p.type]⟩

def constructorItem (arguments : List Argument) : Item :=
  ⟨"constructor", none, arguments.map (·.type)⟩

namespace Interface

/-- The members and parents of an interface. -/
def memberItems (i : Interface) : List Item :=
  i.constants.map Constant.item ++ i.attributes.map Attribute.item ++
    i.operations.map Operation.item ++ i.parents.map Parent.item

/-- All items of an interface, in the order in which they are looked at. -/
def items (i : Interface) : List Item :=
  i.memberItems ++ i.constructorArguments.toList.map constructorItem

end Interface

/-! ### One round by annotations -/

namespace AnnotationFilter

variable (f : AnnotationFilter)

theorem map_filter_kept {α : Type} (item : α → Item) {keep : α → Bool}
    (hkeep : ∀ m, decide ((item m).Kept f) = keep m) (members : List α) :
    (members.filter keep).map item = (members.map item).filter (Item.Kept f) := by
  rw [List.filter_map]
  exact congrArg (List.map item) (List.filter_congr fun m _ => (hkeep m).symm)

theorem memberItems_keepMembers (i : Interface) :
    (f.keepMembers i).memberItems = i.memberItems.filter (Item.Kept f) := by
  unfold Interface.memberItems
  simp only [List.filter_append]
  rw [← f.map_filter_kept Constant.item fun _ => Item.decide_kept rfl,
    ← f.map_filter_kept Attribute.item fun _ => Item.decide_kept rfl,
    ← f.map_filter_kept Operation.item fun _ => Item.decide_kept rfl,
    ← f.map_filter_kept Parent.item fun _ => Item.decide_kept rfl]
  rfl

theorem items_keepMembers (i : Interface) :
    (f.keepMembers i).items = i.items.filter (Item.Kept f) := by
  unfold Interface.items
  rw [memberItems_keepMembers, List.filter_append, List.filter_map (l := Option.toList _)]
  congr 1
  simp [keepMembers, Item.Kept, constructorItem, Function.comp_def]

theorem length_memberItems (i : Interface) : i.memberItems.length = memberCount i := by
  simp [Interface.memberItems, memberCount, Nat.add_assoc]

/-- What goes from an interface that stays is what the filter does not keep. -/
theorem memberCount_sub (i : Interface) :
    memberCount i - memberCount (f.keepMembers i) =
      i.memberItems.countP fun p => ¬ p.Kept f := by
  have hkept : memberCount (f.keepMembers i) = i.memberItems.countP (Item.Kept f) := by
    rw [← length_memberItems, memberItems_keepMembers, List.countP_eq_length_filter]
  have hall := List.length_eq_countP_add_countP (Item.Kept f) (l := i.memberItems)
  rw [length_memberItems] at hall
  simp only [decide_eq_true_eq] at hall
  omega

/-- A filter keeps the interface of an identifier. -/
def KeepsAt (f : AnnotationFilter) (g : Graph) (id : String) : Prop :=
  ∃ i, g.find? id = some i ∧ f.Keeps i.annotations

theorem any_keeps_iff {f : AnnotationFilter} {g : Graph} {id : String} :
    ((g.find? id).any fun i => f.keeps i.annotations) = true ↔ f.KeepsAt g id := by
  simp [KeepsAt, ← keeps_iff, Option.any_eq_true]

instance (f : AnnotationFilter) (g : Graph) : DecidablePred (f.KeepsAt g) :=
  fun _ => decidable_of_iff _ any_keeps_iff

variable (g : Graph)

theorem interfaces_keepInterfaces :
    (f.keepInterfaces g).interfaces =
      (g.interfaces.filter fun i => f.keeps i.annotations).map f.keepMembers := by
  unfold keepInterfaces
  rw [Graph.interfaces_mapInterfaces]
  unfold Graph.interfaces SortedMap.values SortedMap.filter
  rw [List.filter_map]
  rfl

theorem find?_keepInterfaces (id : String) :
    (f.keepInterfaces g).find? id =
      ((g.find? id).filter fun i => f.keeps i.annotations).map f.keepMembers := by
  unfold keepInterfaces
  rw [Graph.find?_mapInterfaces]
  congr 1
  refine Option.ext fun i => ?_
  rw [Option.filter_eq_some_iff]
  exact SortedMap.find?_filter_eq_some

theorem ids_keepInterfaces : (f.keepInterfaces g).ids = g.ids.filter (f.KeepsAt g) := by
  unfold keepInterfaces Graph.mapInterfaces Graph.ids
  rw [SortedMap.keys_mapValues, SortedMap.keys_filter]
  refine List.filter_congr fun id _ => ?_
  rw [Bool.eq_iff_iff, decide_eq_true_eq]
  exact any_keeps_iff

end AnnotationFilter

/-! ### One round by types -/

theorem isNone_unresolved?_iff {g : Graph} {types : List TypeName} :
    (unresolved? g.contains types).isNone = true ↔ ∀ t ∈ types, g.Resolves t := by
  rw [Option.isNone_iff_eq_none, unresolved?_eq_none_iff]
  simp only [Graph.resolves_iff]

theorem Item.not_dangles_iff {g : Graph} {p : Item} :
    ¬ p.Dangles g ↔ ∀ t ∈ p.types, g.Resolves t := by
  simp [Dangles]

/-- An entry of a report is about an item of the interface of an identifier, and gives the first of
its types that does not resolve. -/
structure Unidentified.Names (g : Graph) (owned : String × Item) (e : Unidentified) : Prop where
  interface_eq : e.interface = owned.1
  member_eq : e.member = owned.2.label
  first_unresolved : ∃ before after, owned.2.types = before ++ e.typeName :: after ∧
    (∀ t ∈ before, g.Resolves t) ∧ ¬ g.Resolves e.typeName

section
variable {α : Type} (item : α → Item)

theorem resolving_filter (f : AnnotationFilter) (g : Graph) {keep : α → Bool}
    (hkeep : ∀ m, decide ((item m).Kept f) = keep m) (members : List α) :
    resolving g.contains (fun m => (item m).types) (members.filter keep) =
      members.filter fun m => (item m).Stays f g := by
  unfold resolving
  rw [List.filter_filter]
  refine List.filter_congr fun m _ => ?_
  rw [← hkeep, Bool.eq_iff_iff, Bool.and_eq_true, isNone_unresolved?_iff, decide_eq_true_eq,
    decide_eq_true_eq, Item.Stays, Item.not_dangles_iff, and_comm]

theorem forall₂_unidentified (g : Graph) (id : String) (members : List α) :
    List.Forall₂ (Unidentified.Names g)
      (((members.map item).filter (Item.Dangles g)).map (id, ·))
      (unidentified g.contains id (fun m => (item m).label) (fun m => (item m).types) members) := by
  induction members with
  | nil => exact .nil
  | cons m rest ih =>
      unfold unidentified at ih ⊢
      rw [List.map_cons, List.filterMap_cons]
      cases hfirst : unresolved? g.contains (item m).types with
      | none =>
          have hresolves : ¬ (item m).Dangles g :=
            Item.not_dangles_iff.mpr (isNone_unresolved?_iff.mp (by simp [hfirst]))
          rw [List.filter_cons_of_neg (by simpa using hresolves)]
          exact ih
      | some t =>
          obtain ⟨ht, before, after, htypes, hbefore⟩ := List.find?_eq_some_iff_append.mp hfirst
          have hunresolved : ¬ g.Resolves t := by
            rw [Graph.resolves_iff]
            simpa using ht
          have hdangles : (item m).Dangles g := ⟨t, by simp [htypes], hunresolved⟩
          rw [List.filter_cons_of_pos (by simpa using hdangles)]
          refine .cons ⟨rfl, rfl, before, after, htypes, fun x hx => ?_, hunresolved⟩ ih
          rw [Graph.resolves_iff]
          simpa using hbefore x hx

end

namespace Interface

/-- What is reported of an interface is what dangles, in order. -/
theorem forall₂_pruned (g : Graph) (i : Interface) :
    List.Forall₂ (Unidentified.Names g) ((i.items.filter (Item.Dangles g)).map (i.id, ·))
      (i.pruned g.contains) := by
  have hconstructor : List.Forall₂ (Unidentified.Names g)
      (((i.constructorArguments.toList.map constructorItem).filter (Item.Dangles g)).map (i.id, ·))
      (unidentified g.contains i.id (fun _ => "constructor") (fun _ => i.constructorTypes)
        [()]) := by
    unfold constructorTypes
    cases i.constructorArguments with
    | none => exact .nil
    | some args => exact forall₂_unidentified (fun _ => constructorItem args) g i.id [()]
  unfold items memberItems pruned
  simp only [List.filter_append, List.map_append]
  refine List.rel_append (List.rel_append (List.rel_append (List.rel_append ?_ ?_) ?_) ?_)
    hconstructor
  · exact forall₂_unidentified Constant.item g i.id i.constants
  · exact forall₂_unidentified Attribute.item g i.id i.attributes
  · exact forall₂_unidentified Operation.item g i.id i.operations
  · exact forall₂_unidentified Parent.item g i.id i.parents

theorem pruned_eq_nil {g : Graph} {i : Interface} (h : ∀ p ∈ i.items, ¬ p.Dangles g) :
    i.pruned g.contains = [] := by
  have hnone : i.items.filter (Item.Dangles g) = [] := by
    rw [List.filter_eq_nil_iff]
    intro p hp
    simpa using h p hp
  have hpruned := i.forall₂_pruned g
  rw [hnone] at hpruned
  exact List.forall₂_nil_left_iff.mp hpruned

theorem items_prune (g : Graph) (i : Interface) :
    (i.prune g.contains).items = i.items.filter fun p => ¬ p.Dangles g := by
  have hlist : ∀ {α : Type} (item : α → Item) (members : List α),
      (resolving g.contains (fun m => (item m).types) members).map item =
        (members.map item).filter fun p => ¬ p.Dangles g := by
    intro α item members
    unfold resolving
    rw [List.filter_map]
    refine congrArg (List.map item) (List.filter_congr fun m _ => ?_)
    rw [Bool.eq_iff_iff, isNone_unresolved?_iff, Function.comp_apply, decide_eq_true_eq,
      Item.not_dangles_iff]
  have hconstructor : (if (unresolved? g.contains i.constructorTypes).isNone then
        i.constructorArguments else none).toList.map constructorItem =
      (i.constructorArguments.toList.map constructorItem).filter fun p => ¬ p.Dangles g := by
    unfold constructorTypes
    cases i.constructorArguments with
    | none => split <;> rfl
    | some args =>
        have hone := hlist (fun _ => constructorItem args) [()]
        unfold resolving at hone
        simp only [List.filter_cons, List.filter_nil] at hone
        show (if (unresolved? g.contains (constructorItem args).types).isNone = true then
          some args else none).toList.map constructorItem = _
        refine Eq.trans ?_ hone
        split <;> rfl
  unfold items memberItems
  simp only [List.filter_append]
  rw [← hconstructor, ← hlist Constant.item, ← hlist Attribute.item, ← hlist Operation.item,
    ← hlist Parent.item]
  rfl

end Interface

/-! ### Both rounds -/

namespace AnnotationFilter

/-- What a filter leaves of an interface, if types resolve against a graph. -/
structure Trims (f : AnnotationFilter) (g : Graph) (i left : Interface) : Prop where
  constants_eq : left.constants = i.constants.filter fun c => c.item.Stays f g
  attributes_eq : left.attributes = i.attributes.filter fun a => a.item.Stays f g
  operations_eq : left.operations = i.operations.filter fun o => o.item.Stays f g
  parents_eq : left.parents = i.parents.filter fun p => p.item.Stays f g
  constructor_eq : left.constructorArguments =
    i.constructorArguments.filter fun args => ∀ a ∈ args, g.Resolves a.type
  others_eq : left = { i with
    constants := left.constants
    attributes := left.attributes
    operations := left.operations
    parents := left.parents
    constructorArguments := left.constructorArguments }

/-- The items that a filter keeps but that mention a type which does not resolve against a graph,
each with the identifier of its interface. -/
def dangling (f : AnnotationFilter) (g left : Graph) : List (String × Item) :=
  (g.interfaces.filter fun i => f.Keeps i.annotations).flatMap fun i =>
    (i.items.filter fun p => p.Kept f ∧ p.Dangles left).map (i.id, ·)

/-- What a filter leaves of a graph, and what is reported of it. -/
structure Exact (f : AnnotationFilter) (g left : Graph) (report : FilterReport) : Prop where
  ids_eq : left.ids = g.ids.filter (f.KeepsAt g)
  trims : ∀ {id i j}, g.find? id = some i → left.find? id = some j → f.Trims left i j
  removedInterfaces_eq : report.removedInterfaces = g.ids.filter fun id => ¬ f.KeepsAt g id
  removedInterfaces_ascending : report.removedInterfaces.Pairwise (· < ·)
  removedMembers_eq : report.removedMembers =
    ((g.interfaces.filter fun i => f.Keeps i.annotations).flatMap Interface.memberItems).countP
      fun p => ¬ p.Kept f
  unidentified : List.Forall₂ (Unidentified.Names left) (f.dangling g left) report.unidentified

variable (f : AnnotationFilter) (g : Graph)

theorem trims_prune (i : Interface) : f.Trims g i ((f.keepMembers i).prune g.contains) where
  constants_eq := resolving_filter Constant.item f g (fun _ => Item.decide_kept rfl) i.constants
  attributes_eq := resolving_filter Attribute.item f g (fun _ => Item.decide_kept rfl) i.attributes
  operations_eq := resolving_filter Operation.item f g (fun _ => Item.decide_kept rfl) i.operations
  parents_eq := resolving_filter Parent.item f g (fun _ => Item.decide_kept rfl) i.parents
  constructor_eq := by
    show (if (unresolved? g.contains i.constructorTypes).isNone = true then
      i.constructorArguments else none) = _
    unfold Interface.constructorTypes
    cases i.constructorArguments with
    | none => split <;> rfl
    | some args =>
        simp only [isNone_unresolved?_iff]
        simp [Option.filter]
  others_eq := rfl

theorem contains_apply : (f.apply g).contains = (f.keepInterfaces g).contains :=
  funext fun id => Graph.contains_mapInterfaces _ _ id

theorem ids_apply : (f.apply g).ids = (f.keepInterfaces g).ids :=
  SortedMap.keys_mapValues _ _

theorem find?_apply (id : String) :
    (f.apply g).find? id = ((g.find? id).filter fun i => f.keeps i.annotations).map fun i =>
      (f.keepMembers i).prune (f.apply g).contains := by
  unfold apply Graph.prune
  rw [Graph.find?_mapInterfaces, find?_keepInterfaces, Option.map_map, ← Graph.prune, ← apply,
    contains_apply]
  rfl

theorem report_eq :
    f.report g =
      { removedInterfaces := g.ids.filter fun id => ¬ f.KeepsAt g id
        removedMembers := ((g.interfaces.filter fun i => f.Keeps i.annotations).flatMap
          Interface.memberItems).countP fun p => ¬ p.Kept f
        unidentified := (g.interfaces.filter fun i => f.Keeps i.annotations).flatMap fun i =>
          (f.keepMembers i).pruned (f.apply g).contains } := by
  have hids : (g.table.filter fun _ i => !f.keeps i.annotations).keys =
      g.ids.filter fun id => ¬ f.KeepsAt g id := by
    rw [SortedMap.keys_filter]
    refine List.filter_congr fun id hid => ?_
    obtain ⟨i, hi⟩ := Graph.mem_ids_iff_exists.mp hid
    have hi' : g.table.find? id = some i := hi
    simp [KeepsAt, hi, hi', ← keeps_iff]
  have hcount : ∀ (n : Nat) (kept : List Interface),
      kept.foldl (fun n i => n + (memberCount i - memberCount (f.keepMembers i))) n =
        n + (kept.flatMap Interface.memberItems).countP fun p => ¬ p.Kept f := by
    intro n kept
    induction kept generalizing n with
    | nil => rfl
    | cons i rest ih =>
        rw [List.foldl_cons, ih, memberCount_sub, List.flatMap_cons, List.countP_append]
        omega
  have hunidentified : (f.keepInterfaces g).pruned =
      (g.interfaces.filter fun i => f.keeps i.annotations).flatMap fun i =>
        (f.keepMembers i).pruned (f.apply g).contains := by
    unfold Graph.pruned
    rw [interfaces_keepInterfaces, List.flatMap_map, contains_apply]
  unfold report
  simp only [hids, hcount, hunidentified, Nat.zero_add, decide_keeps]

/-- A filter leaves exactly the interfaces that it keeps, and of each of them the items that it
keeps and whose types resolve against what is left.  It reports the other interfaces, the number of
members that it does not keep, and the items that it keeps but that do not resolve, with the first
type that does not. -/
theorem apply_exact : f.Exact g (f.apply g) (f.report g) where
  ids_eq := (f.ids_apply g).trans (f.ids_keepInterfaces g)
  trims := by
    intro id i j hi hj
    rw [find?_apply, hi] at hj
    obtain ⟨i', hi', rfl⟩ := Option.map_eq_some_iff.mp hj
    obtain ⟨hsame, _⟩ := Option.filter_eq_some_iff.mp hi'
    obtain rfl := Option.some.inj hsame
    exact f.trims_prune _ i
  removedInterfaces_eq := by rw [report_eq]
  removedInterfaces_ascending := by
    rw [report_eq]
    exact g.ids_ascending.filter _
  removedMembers_eq := by rw [report_eq]
  unidentified := by
    rw [report_eq]
    refine List.rel_flatMap (R := Eq) (List.forall₂_refl _) ?_
    rintro i _ rfl
    have hpruned := Interface.forall₂_pruned (f.apply g) (f.keepMembers i)
    rw [items_keepMembers, List.filter_filter] at hpruned
    have hboth : (i.items.filter fun p => p.Kept f ∧ p.Dangles (f.apply g)) =
        i.items.filter fun p => decide (p.Dangles (f.apply g)) && decide (p.Kept f) := by
      refine List.filter_congr fun p _ => ?_
      simp [Bool.and_comm]
    rw [← hboth] at hpruned
    exact hpruned

/-! ### The second time -/

theorem stays_of_mem_items {i : Interface} (hi : i ∈ (f.apply g).interfaces) :
    f.Keeps i.annotations ∧ ∀ p ∈ i.items, p.Stays f (f.apply g) := by
  obtain ⟨id, hid⟩ := Graph.mem_interfaces_iff.mp hi
  rw [find?_apply] at hid
  obtain ⟨j, hj, rfl⟩ := Option.map_eq_some_iff.mp hid
  refine ⟨keeps_iff.mp (Option.filter_eq_some_iff.mp hj).2, fun p hp => ?_⟩
  rw [Interface.items_prune, List.mem_filter, items_keepMembers, List.mem_filter] at hp
  exact ⟨of_decide_eq_true hp.1.2, of_decide_eq_true hp.2⟩

theorem keepsAt_apply {id : String} (hid : id ∈ (f.apply g).ids) : f.KeepsAt (f.apply g) id := by
  obtain ⟨i, hi⟩ := Graph.mem_ids_iff_exists.mp hid
  exact ⟨i, hi, (f.stays_of_mem_items g (Graph.mem_interfaces_iff.mpr ⟨id, hi⟩)).1⟩

theorem contains_apply_apply : (f.apply (f.apply g)).contains = (f.apply g).contains := by
  have hids : (f.apply (f.apply g)).ids = (f.apply g).ids := by
    rw [ids_apply f (f.apply g), ids_keepInterfaces]
    exact List.filter_eq_self.mpr fun id hid => decide_eq_true (f.keepsAt_apply g hid)
  funext id
  rw [Bool.eq_iff_iff, ← Graph.mem_ids_iff, hids, Graph.mem_ids_iff]

theorem Trims.eq_self {f : AnnotationFilter} {g : Graph} {i left : Interface}
    (h : f.Trims g i left) (hstays : ∀ p ∈ i.items, p.Stays f g) : left = i := by
  unfold Interface.items Interface.memberItems at hstays
  simp only [List.forall_mem_append, List.forall_mem_map, Option.mem_toList] at hstays
  obtain ⟨⟨⟨⟨hconstants, hattributes⟩, hoperations⟩, hparents⟩, hconstructor⟩ := hstays
  have constants_eq : left.constants = i.constants :=
    h.constants_eq.trans (List.filter_eq_self.mpr fun c hc => decide_eq_true (hconstants c hc))
  have attributes_eq : left.attributes = i.attributes :=
    h.attributes_eq.trans (List.filter_eq_self.mpr fun a ha => decide_eq_true (hattributes a ha))
  have operations_eq : left.operations = i.operations :=
    h.operations_eq.trans (List.filter_eq_self.mpr fun o ho => decide_eq_true (hoperations o ho))
  have parents_eq : left.parents = i.parents :=
    h.parents_eq.trans (List.filter_eq_self.mpr fun p hp => decide_eq_true (hparents p hp))
  have constructor_eq : left.constructorArguments = i.constructorArguments := by
    rw [h.constructor_eq]
    cases hargs : i.constructorArguments with
    | none => rfl
    | some args =>
        have hresolves := Item.not_dangles_iff.mp (hconstructor args hargs).2
        simpa [constructorItem] using hresolves
  calc left = _ := h.others_eq
    _ = i := by rw [constants_eq, attributes_eq, operations_eq, parents_eq, constructor_eq]

/-- What a filter leaves passes the filter as it is. -/
theorem apply_idempotent :
    f.apply (f.apply g) = f.apply g ∧ f.report (f.apply g) = {} := by
  have hstays : ∀ i ∈ (f.apply g).interfaces, _ := fun i hi => f.stays_of_mem_items g hi
  constructor
  · refine Graph.ext_find? fun id => ?_
    rw [find?_apply, contains_apply_apply]
    cases hi : (f.apply g).find? id with
    | none => rfl
    | some i =>
        obtain ⟨hkept, hitems⟩ := hstays i (Graph.mem_interfaces_iff.mpr ⟨id, hi⟩)
        rw [Option.filter_some, if_pos (keeps_iff.mpr hkept), Option.map_some,
          (f.trims_prune (f.apply g) i).eq_self hitems]
  · have hpruned : ∀ i ∈ (f.apply g).interfaces,
        (f.keepMembers i).pruned (f.apply g).contains = [] := by
      intro i hi
      refine Interface.pruned_eq_nil fun p hp => ?_
      rw [items_keepMembers, List.mem_filter] at hp
      exact ((hstays i hi).2 p hp.1).2
    rw [report_eq f (f.apply g), contains_apply_apply]
    congr 1
    · rw [List.filter_eq_nil_iff]
      intro id hid
      simpa using f.keepsAt_apply g hid
    · rw [List.countP_eq_zero]
      intro p hp
      obtain ⟨i, hi, hp⟩ := List.mem_flatMap.mp hp
      have hstay := (hstays i (List.mem_filter.mp hi).1).2 p (List.mem_append_left _ hp)
      simp [hstay.1]
    · rw [List.flatMap_eq_nil_iff]
      intro i hi
      exact hpruned i (List.mem_filter.mp hi).1

end AnnotationFilter

/-! ### Looser filters -/

/-- An interface is what is left of another one after some of its members, parents and perhaps the
constructor were dropped. -/
structure Interface.Within (i j : Interface) : Prop where
  constants_sublist : i.constants.Sublist j.constants
  attributes_sublist : i.attributes.Sublist j.attributes
  operations_sublist : i.operations.Sublist j.operations
  parents_sublist : i.parents.Sublist j.parents
  constructor_eq {args : List Argument} :
    i.constructorArguments = some args → j.constructorArguments = some args
  others_eq : i = { j with
    constants := i.constants
    attributes := i.attributes
    operations := i.operations
    parents := i.parents
    constructorArguments := i.constructorArguments }

namespace AnnotationFilter

/-- A filter is at least as strict as another one: the same annotations are necessary, no others are
sufficient, and all that exclude there exclude here. -/
structure Tightens (strict loose : AnnotationFilter) : Prop where
  requireAll_eq : strict.requireAll = loose.requireAll
  requireAny_subset : strict.requireAny ⊆ loose.requireAny
  excludeDisplaced_subset : loose.excludeDisplaced ⊆ strict.excludeDisplaced
  excludeSuppressed_subset : loose.excludeSuppressed ⊆ strict.excludeSuppressed

namespace Tightens

variable {strict loose : AnnotationFilter} (h : strict.Tightens loose)

include h

theorem keeps {annotations : Annotations} (hkept : strict.Keeps annotations) :
    loose.Keeps annotations where
  not_displaced name hname := hkept.not_displaced name (h.excludeDisplaced_subset hname)
  not_suppressed name hname := hkept.not_suppressed name (h.excludeSuppressed_subset hname)
  required := by
    rcases hkept.required with ⟨name, hname, hcarried⟩ | hall
    · exact .inl ⟨name, h.requireAny_subset hname, hcarried⟩
    · rw [← h.requireAll_eq]
      exact .inr hall

theorem mem_ids_apply {g : Graph} {id : String} (hid : id ∈ (strict.apply g).ids) :
    id ∈ (loose.apply g).ids := by
  rw [ids_apply, ids_keepInterfaces, List.mem_filter, decide_eq_true_eq] at hid ⊢
  obtain ⟨hid, i, hi, hkept⟩ := hid
  exact ⟨hid, i, hi, h.keeps hkept⟩

/-- What stays by the stricter filter stays by the looser one: it is kept, and its types resolve
against more interfaces. -/
theorem stays {g : Graph} {p : Item} (hstays : p.Stays strict (strict.apply g)) :
    p.Stays loose (loose.apply g) := by
  obtain ⟨hkept, hdangles⟩ := hstays
  refine ⟨fun annotations ha => h.keeps (hkept annotations ha), ?_⟩
  rw [Item.not_dangles_iff] at hdangles ⊢
  intro t ht
  exact (hdangles t ht).mono fun name => h.mem_ids_apply

theorem filter_sublist {α : Type} (item : α → Item) (g : Graph) (members : List α) :
    (members.filter fun m => (item m).Stays strict (strict.apply g)).Sublist
      (members.filter fun m => (item m).Stays loose (loose.apply g)) := by
  refine List.monotone_filter_right members fun m hm => ?_
  exact decide_eq_true (h.stays (of_decide_eq_true hm))

theorem within {g : Graph} {i less more : Interface} (hless : strict.Trims (strict.apply g) i less)
    (hmore : loose.Trims (loose.apply g) i more) : less.Within more where
  constants_sublist := by
    rw [hless.constants_eq, hmore.constants_eq]
    exact h.filter_sublist Constant.item g i.constants
  attributes_sublist := by
    rw [hless.attributes_eq, hmore.attributes_eq]
    exact h.filter_sublist Attribute.item g i.attributes
  operations_sublist := by
    rw [hless.operations_eq, hmore.operations_eq]
    exact h.filter_sublist Operation.item g i.operations
  parents_sublist := by
    rw [hless.parents_eq, hmore.parents_eq]
    exact h.filter_sublist Parent.item g i.parents
  constructor_eq := by
    intro args hargs
    rw [hless.constructor_eq, Option.filter_eq_some_iff, decide_eq_true_eq] at hargs
    rw [hmore.constructor_eq, Option.filter_eq_some_iff, decide_eq_true_eq]
    refine ⟨hargs.1, fun a ha => ?_⟩
    exact (hargs.2 a ha).mono fun name => h.mem_ids_apply
  others_eq := by
    rw [hless.others_eq, hmore.others_eq]

end Tightens

/-- A looser filter leaves every interface that a stricter one leaves, with all its members and
parents in order, and with its constructor. -/
theorem apply_monotone (g : Graph) {strict loose : AnnotationFilter} (h : strict.Tightens loose)
    {id : String} {i : Interface} (hi : (strict.apply g).find? id = some i) :
    ∃ j, (loose.apply g).find? id = some j ∧ i.Within j := by
  rw [find?_apply] at hi
  obtain ⟨source, hsource, rfl⟩ := Option.map_eq_some_iff.mp hi
  obtain ⟨hfind, hkept⟩ := Option.filter_eq_some_iff.mp hsource
  have hlooser : loose.keeps source.annotations = true :=
    keeps_iff.mpr (h.keeps (keeps_iff.mp hkept))
  refine ⟨(loose.keepMembers source).prune (loose.apply g).contains, ?_, ?_⟩
  · rw [find?_apply, hfind, Option.filter_some, if_pos hlooser, Option.map_some]
  · exact h.within (strict.trims_prune _ source) (loose.trims_prune _ source)

/-- What carries the annotation of one platform only. -/
def webKitOnly : AnnotationFilter :=
  { requireAll := ["WebKit"], excludeDisplaced := ["WebKit"] }

/-- What carries the annotation of one of two platforms. -/
def webKitOrChrome : AnnotationFilter :=
  { requireAll := ["WebKit"], requireAny := ["Chrome"] }

/-- The annotation of a platform, without properties. -/
def platform (name : String) : Annotations :=
  SortedMap.ofList [(name, SortedMap.empty)]

/-- A node that mentions events inside of an application. -/
def pathNode : Interface :=
  { id := "Node"
    annotations := platform "WebKit"
    attributes := [{ id := "name", type := "DOMString", annotations := platform "WebKit" }]
    operations := [
      { id := "path", type := "sequence<dom::Event>", annotations := platform "WebKit" }]
    constructorArguments := some [{ id := "name", type := "DOMString" }] }

/-- The node, and the events that only one of the platforms has. -/
def pathGraph : Graph :=
  (Graph.empty.add pathNode).add { id := "Event", annotations := platform "Chrome" }

theorem apply_monotone_path :
    webKitOnly.Tightens webKitOrChrome ∧
      (webKitOnly.apply pathGraph).find? "Node" = some { pathNode with operations := [] } ∧
      (webKitOrChrome.apply pathGraph).find? "Node" = some pathNode ∧
      Interface.Within { pathNode with operations := [] } pathNode := by
  have htightens : webKitOnly.Tightens webKitOrChrome :=
    ⟨rfl, by decide, by decide, by decide⟩
  have hstrict : (webKitOnly.apply pathGraph).find? "Node" =
      some { pathNode with operations := [] } := by decide +kernel
  have hloose : (webKitOrChrome.apply pathGraph).find? "Node" = some pathNode := by
    decide +kernel
  obtain ⟨j, hj, hwithin⟩ := apply_monotone pathGraph htightens hstrict
  obtain rfl := Option.some.inj (hloose.symm.trans hj)
  exact ⟨htightens, hstrict, hloose, hwithin⟩

end AnnotationFilter

end Bindery
