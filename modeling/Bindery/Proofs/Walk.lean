import Mathlib.Logic.Relation
import Bindery.Proofs.Chain
import Bindery.Proofs.Graph

/-! # Ancestors first

`Graph.ancestorFirst` walks along parents, depth first, and lists an interface when it leaves it.
`Graph.Walks` is the walk without a bound on its depth, and `Graph.walks_foldl_visit` says that the
size of the graph is bound enough.

`Graph.Paused` is the invariant: it tells the interfaces that are listed from those that are entered
and not left yet.  Entering and leaving keep it (`Paused.enter`, `Paused.leave`), and so a whole
walk does (`Walks.paused`).  An interface can only be left before one of its parents if that one is
still entered, and then the two lie on a cycle: `Graph.ancestorFirst_exact`. -/

namespace Bindery

namespace Graph

open Relation

variable {g : Graph} {ids : List String} {id u v : String}

/-! ### Edges -/

/-- An interface has another one of the graph among its parents, and not as a container. -/
def Inherits (g : Graph) (u v : String) : Prop :=
  ∃ i, g.find? u = some i ∧ (∃ p ∈ i.parents, p.type = v) ∧
    TypeName.isContainer v = false ∧ g.contains v = true

theorem mem_edges_iff {i : Interface} :
    v ∈ g.edges i ↔
      (∃ p ∈ i.parents, p.type = v) ∧ TypeName.isContainer v = false ∧ g.contains v = true := by
  simp [edges]

theorem inherits_of_mem_edges {i : Interface} (hi : g.find? u = some i) (hv : v ∈ g.edges i) :
    g.Inherits u v :=
  ⟨i, hi, mem_edges_iff.mp hv⟩

theorem Inherits.mem_edges {i : Interface} (h : g.Inherits u v) (hi : g.find? u = some i) :
    v ∈ g.edges i := by
  obtain ⟨j, hj, hparent⟩ := h
  rw [hi] at hj
  cases hj
  exact mem_edges_iff.mpr hparent

instance (g : Graph) (u v : String) : Decidable (g.Inherits u v) :=
  decidable_of_iff (∃ i ∈ g.find? u, v ∈ g.edges i)
    ⟨fun ⟨_, hi, hv⟩ => inherits_of_mem_edges hi hv, fun ⟨i, hi, hv⟩ =>
      ⟨i, hi, mem_edges_iff.mpr hv⟩⟩

/-! ### The walk without a bound -/

/-- The walk through some identifiers, one after another.  What was seen is passed over, and what is
not in the graph is only noted; anything else is entered, which takes the walk through its parents,
and listed when they are done. -/
inductive Walks (g : Graph) : Visited → List String → Visited → Prop
  | done (v : Visited) : Walks g v [] v
  | pass {v w : Visited} {id : String} {rest : List String} :
      id ∈ v.seen → Walks g v rest w → Walks g v (id :: rest) w
  | miss {v w : Visited} {id : String} {rest : List String} :
      id ∉ v.seen → g.find? id = none → Walks g { v with seen := id :: v.seen } rest w →
      Walks g v (id :: rest) w
  | enter {v inner w : Visited} {id : String} {i : Interface} {rest : List String} :
      id ∉ v.seen → g.find? id = some i →
      Walks g { v with seen := id :: v.seen } (g.edges i) inner →
      Walks g { inner with order := inner.order ++ [id] } rest w →
      Walks g v (id :: rest) w

theorem Walks.seen_subset {v w : Visited} (h : g.Walks v ids w) : v.seen ⊆ w.seen := by
  induction h with
  | done => exact List.Subset.refl _
  | pass _ _ ih => exact ih
  | miss _ _ _ ih => exact fun x hx => ih (List.mem_cons_of_mem _ hx)
  | enter _ _ _ _ ihinner ih => exact fun x hx => ih (ihinner (List.mem_cons_of_mem _ hx))

theorem Walks.unique {v w w' : Visited} (h : g.Walks v ids w) (h' : g.Walks v ids w') : w = w' := by
  induction h generalizing w' with
  | done =>
      cases h'
      rfl
  | pass hseen _ ih =>
      cases h' with
      | pass _ hrest => exact ih hrest
      | miss hnot => exact absurd hseen hnot
      | enter hnot => exact absurd hseen hnot
  | miss hnot hnone _ ih =>
      cases h' with
      | pass hseen => exact absurd hseen hnot
      | miss _ _ hrest => exact ih hrest
      | enter _ hi =>
          rw [hnone] at hi
          cases hi
  | enter hnot hi _ _ ihinner ih =>
      cases h' with
      | pass hseen => exact absurd hseen hnot
      | miss _ hnone =>
          rw [hnone] at hi
          cases hi
      | enter _ hi' hinner hrest =>
          rw [hi] at hi'
          cases hi'
          rw [← ihinner hinner] at hrest
          exact ih hrest

theorem length_unseen_le {seen seen' : List String} (h : seen ⊆ seen') :
    (g.ids.filter (· ∉ seen')).length ≤ (g.ids.filter (· ∉ seen)).length := by
  refine (List.monotone_filter_right g.ids ?_).length_le
  intro x hx
  simp only [decide_eq_true_eq] at hx ⊢
  exact fun hseen => hx (h hseen)

/-- With as much fuel as there are interfaces that were not seen, nothing is cut off. -/
theorem walks_foldl_visit {fuel : Nat} {v : Visited}
    (hfuel : (g.ids.filter (· ∉ v.seen)).length ≤ fuel)
    (hids : ∀ id ∈ ids, g.contains id = true) :
    g.Walks v ids (ids.foldl (fun v id => g.visit fuel v id) v) := by
  induction fuel generalizing v ids with
  | zero =>
      -- everything was seen
      have hseen : ∀ id ∈ ids, id ∈ v.seen := by
        intro id hid
        by_contra hnot
        have hmem : id ∈ g.ids.filter (· ∉ v.seen) :=
          List.mem_filter.mpr ⟨mem_ids_iff.mpr (hids id hid), by simpa using hnot⟩
        have hpos := List.length_pos_of_mem hmem
        omega
      induction ids with
      | nil => exact .done v
      | cons id rest ih =>
          refine .pass (hseen id List.mem_cons_self) (ih ?_ ?_)
          · exact fun x hx => hids x (List.mem_cons_of_mem _ hx)
          · exact fun x hx => hseen x (List.mem_cons_of_mem _ hx)
  | succ fuel ihfuel =>
      induction ids generalizing v with
      | nil => exact .done v
      | cons id rest ih =>
          have hrest : ∀ x ∈ rest, g.contains x = true :=
            fun x hx => hids x (List.mem_cons_of_mem _ hx)
          rw [List.foldl_cons, visit]
          by_cases hseen : id ∈ v.seen
          · rw [if_pos (by simpa using hseen)]
            exact .pass hseen (ih hfuel hrest)
          · rw [if_neg (by simpa using hseen)]
            obtain ⟨i, hi⟩ := contains_iff.mp (hids id List.mem_cons_self)
            simp only [hi]
            have hmem : id ∈ g.ids := mem_ids_iff.mpr (hids id List.mem_cons_self)
            have hshort := length_filter_notMem_cons_lt hmem hseen
            have hinner : g.Walks { v with seen := id :: v.seen } (g.edges i) _ :=
              ihfuel (show (g.ids.filter (· ∉ id :: v.seen)).length ≤ fuel by omega)
                fun x hx => (mem_edges_iff.mp hx).2.2
            refine .enter hseen hi hinner (ih ?_ hrest)
            have hgrown : v.seen ⊆ _ :=
              fun x hx => hinner.seen_subset (List.mem_cons_of_mem _ hx)
            exact Nat.le_trans (length_unseen_le hgrown) hfuel

theorem walks_ancestorFirst (g : Graph) (ids : List String) :
    ∃ v, g.Walks {} (ids.filter g.contains) v ∧ v.order = g.ancestorFirst ids := by
  refine ⟨_, walks_foldl_visit ?_ fun id hid => (List.mem_filter.mp hid).2, rfl⟩
  exact g.length_ids ▸ List.length_filter_le _ _

/-! ### One step -/

/-- What holds of a walk that has entered the identifiers of a stack and not left them.  They and
the listed ones are what was seen.  A parent of a listed interface was seen, and it stands before
that interface, unless it leads back to it. -/
structure Paused (g : Graph) (stack : List String) (v : Visited) : Prop where
  mem_seen_iff (id : String) : id ∈ v.seen ↔ id ∈ stack ∨ id ∈ v.order
  nodup : v.order.Nodup
  apart : ∀ id ∈ stack, id ∉ v.order
  closed : ∀ u ∈ v.order, ∀ p, g.Inherits u p → p ∈ v.seen
  before : ∀ u ∈ v.order, ∀ p, g.Inherits u p →
    ReflTransGen g.Inherits p u ∨ v.order.idxOf p < v.order.idxOf u

theorem paused_nil (g : Graph) : g.Paused [] {} where
  mem_seen_iff := by simp
  nodup := List.nodup_nil
  apart := by simp
  closed := by simp
  before := by simp

variable {stack : List String} {w : Visited}

theorem Paused.enter (h : g.Paused stack w) (hid : id ∉ w.seen) :
    g.Paused (id :: stack) { w with seen := id :: w.seen } where
  mem_seen_iff x := by
    rw [List.mem_cons, List.mem_cons, h.mem_seen_iff, or_assoc]
  nodup := h.nodup
  apart x hx := by
    rcases List.mem_cons.mp hx with rfl | hx
    · exact fun horder => hid ((h.mem_seen_iff x).mpr (.inr horder))
    · exact h.apart x hx
  closed u hu p hp := List.mem_cons_of_mem _ (h.closed u hu p hp)
  before := h.before

theorem idxOf_lt_append {items more : List String} (hu : u ∈ items)
    (h : items.idxOf v < items.idxOf u) :
    (items ++ more).idxOf v < (items ++ more).idxOf u := by
  have hv : v ∈ items := by
    rw [← List.idxOf_lt_length_iff]
    exact Nat.lt_trans h (List.idxOf_lt_length_iff.mpr hu)
  rw [List.idxOf_append_of_mem hv, List.idxOf_append_of_mem hu]
  exact h

theorem idxOf_lt_concat {items : List String} (hu : u ∉ items) (hv : v ∈ items) :
    (items ++ [u]).idxOf v < (items ++ [u]).idxOf u := by
  have hlt : items.idxOf v < items.length := List.idxOf_lt_length_iff.mpr hv
  rw [List.idxOf_append_of_mem hv, List.idxOf_append_of_notMem hu]
  omega

/-- An interface may be left once its parents were seen.  Those that are not listed by then are
entered, and from what is entered the walk has come to this interface. -/
theorem Paused.leave (h : g.Paused (id :: stack) w) (hid : id ∉ stack)
    (hparents : ∀ p, g.Inherits id p → p ∈ w.seen)
    (hstack : ∀ x ∈ stack, ReflTransGen g.Inherits x id) :
    g.Paused stack { w with order := w.order ++ [id] } := by
  have hnew : id ∉ w.order := h.apart id List.mem_cons_self
  refine ⟨?_, ?_, ?_, ?_, ?_⟩
  · intro x
    rw [h.mem_seen_iff, List.mem_cons, List.mem_append, List.mem_singleton]
    tauto
  · rw [List.nodup_append]
    refine ⟨h.nodup, List.nodup_singleton id, ?_⟩
    rintro a ha b hb rfl
    rw [List.mem_singleton.mp hb] at ha
    exact hnew ha
  · intro x hx hmem
    rcases List.mem_append.mp hmem with horder | hsame
    · exact h.apart x (List.mem_cons_of_mem _ hx) horder
    · rw [List.mem_singleton.mp hsame] at hx
      exact hid hx
  · intro u hu p hp
    rcases List.mem_append.mp hu with horder | hsame
    · exact h.closed u horder p hp
    · rw [List.mem_singleton.mp hsame] at hp
      exact hparents p hp
  · intro u hu p hp
    rcases List.mem_append.mp hu with horder | hsame
    · exact (h.before u horder p hp).imp_right (idxOf_lt_append horder)
    · rw [List.mem_singleton.mp hsame] at hp ⊢
      rcases (h.mem_seen_iff p).mp (hparents p hp) with hentered | hlisted
      · rcases List.mem_cons.mp hentered with rfl | hentered
        · exact .inl .refl
        · exact .inl (hstack p hentered)
      · exact .inr (idxOf_lt_concat hnew hlisted)

/-! ### A whole walk -/

/-- A walk keeps the invariant if everything entered leads to where it goes.  It sees all that it is
sent to, loses nothing that is listed, and lists nothing but what is reached. -/
theorem Walks.paused {w w' : Visited} (h : g.Walks w ids w') (hw : g.Paused stack w)
    (hids : ∀ id ∈ ids, g.contains id = true)
    (hstack : ∀ x ∈ stack, ∀ id ∈ ids, ReflTransGen g.Inherits x id) :
    g.Paused stack w' ∧ ids ⊆ w'.seen ∧ w.order ⊆ w'.order ∧
      ∀ u ∈ w'.order, u ∈ w.order ∨ ∃ id ∈ ids, ReflTransGen g.Inherits id u := by
  induction h generalizing stack with
  | done w => exact ⟨hw, List.nil_subset _, List.Subset.refl _, fun u hu => .inl hu⟩
  | @pass w w' id rest hseen hrest ih =>
      obtain ⟨hpaused, hall, horder, hreached⟩ := ih hw
        (fun x hx => hids x (List.mem_cons_of_mem _ hx))
        (fun x hx y hy => hstack x hx y (List.mem_cons_of_mem _ hy))
      refine ⟨hpaused, List.cons_subset.mpr ⟨hrest.seen_subset hseen, hall⟩, horder, ?_⟩
      intro u hu
      exact (hreached u hu).imp_right fun ⟨x, hx, hxu⟩ => ⟨x, List.mem_cons_of_mem _ hx, hxu⟩
  | @miss w w' id rest _ hnone =>
      obtain ⟨i, hi⟩ := contains_iff.mp (hids id List.mem_cons_self)
      rw [hnone] at hi
      cases hi
  | @enter w inner w' id i rest hseen hi hinner hrest ihinner ihrest =>
      have hentered : id ∉ stack := fun hx => hseen ((hw.mem_seen_iff id).mpr (.inl hx))
      -- inside, the interface itself is on the stack as well, and leads to its parents
      obtain ⟨hinnerPaused, hparents, horder, hreached⟩ := ihinner (hw.enter hseen)
        (fun p hp => (mem_edges_iff.mp hp).2.2) <| by
          intro x hx p hp
          have hstep : g.Inherits id p := inherits_of_mem_edges hi hp
          rcases List.mem_cons.mp hx with rfl | hx
          · exact .single hstep
          · exact (hstack x hx id List.mem_cons_self).tail hstep
      have hleft := hinnerPaused.leave hentered (fun p hp => hparents (hp.mem_edges hi))
        fun x hx => hstack x hx id List.mem_cons_self
      obtain ⟨hpaused, hall, horder', hreached'⟩ := ihrest hleft
        (fun x hx => hids x (List.mem_cons_of_mem _ hx))
        (fun x hx y hy => hstack x hx y (List.mem_cons_of_mem _ hy))
      refine ⟨hpaused, List.cons_subset.mpr ⟨?_, hall⟩, ?_, ?_⟩
      · rw [hpaused.mem_seen_iff]
        exact .inr (horder' (List.mem_append_right _ List.mem_cons_self))
      · exact fun x hx => horder' (List.mem_append_left _ (horder hx))
      · intro u hu
        rcases hreached' u hu with hu | ⟨x, hx, hxu⟩
        · rcases List.mem_append.mp hu with hu | hu
          · rcases hreached u hu with hu | ⟨p, hp, hpu⟩
            · exact .inl hu
            · exact .inr ⟨id, List.mem_cons_self, .head (inherits_of_mem_edges hi hp) hpu⟩
          · rw [List.mem_singleton.mp hu]
            exact .inr ⟨id, List.mem_cons_self, .refl⟩
        · exact .inr ⟨x, List.mem_cons_of_mem _ hx, hxu⟩

/-- What the listed interfaces are, and in which order they stand, at the end of the walk. -/
theorem paused_ancestorFirst (g : Graph) (ids : List String) :
    ∃ w, g.Paused [] w ∧ w.order = g.ancestorFirst ids ∧
      (∀ id ∈ ids, g.contains id = true → id ∈ w.order) ∧
      ∀ u ∈ w.order, ∃ id ∈ ids, g.contains id = true ∧ ReflTransGen g.Inherits id u := by
  obtain ⟨w, hwalks, horder⟩ := walks_ancestorFirst g ids
  obtain ⟨hpaused, hall, _, hreached⟩ := hwalks.paused (paused_nil g)
    (fun id hid => (List.mem_filter.mp hid).2) (by simp)
  refine ⟨w, hpaused, horder, ?_, ?_⟩
  · intro id hid hcontains
    have hseen := hall (List.mem_filter.mpr ⟨hid, hcontains⟩)
    simpa using (hpaused.mem_seen_iff id).mp hseen
  · intro u hu
    obtain ⟨id, hid, hreach⟩ := (hreached u hu).resolve_left List.not_mem_nil
    exact ⟨id, (List.mem_filter.mp hid).1, (List.mem_filter.mp hid).2, hreach⟩

/-! ### The order -/

theorem nodup_ancestorFirst (g : Graph) (ids : List String) : (g.ancestorFirst ids).Nodup := by
  obtain ⟨w, hpaused, horder, _⟩ := paused_ancestorFirst g ids
  exact horder ▸ hpaused.nodup

theorem mem_ancestorFirst_of_inherits (hu : u ∈ g.ancestorFirst ids) (h : g.Inherits u v) :
    v ∈ g.ancestorFirst ids := by
  obtain ⟨w, hpaused, horder, _⟩ := paused_ancestorFirst g ids
  rw [← horder] at hu ⊢
  simpa using (hpaused.mem_seen_iff v).mp (hpaused.closed u hu v h)

theorem mem_ancestorFirst_of_reflTransGen (hu : u ∈ g.ancestorFirst ids)
    (h : ReflTransGen g.Inherits u v) : v ∈ g.ancestorFirst ids := by
  induction h with
  | refl => exact hu
  | tail _ hstep ih => exact mem_ancestorFirst_of_inherits ih hstep

theorem mem_ancestorFirst_iff :
    id ∈ g.ancestorFirst ids ↔
      ∃ root ∈ ids, g.contains root = true ∧ ReflTransGen g.Inherits root id := by
  obtain ⟨w, _, horder, hall, hreached⟩ := paused_ancestorFirst g ids
  constructor
  · intro hid
    exact hreached id (horder ▸ hid)
  · rintro ⟨root, hroot, hcontains, hreach⟩
    exact mem_ancestorFirst_of_reflTransGen (horder ▸ hall root hroot hcontains) hreach

theorem idxOf_ancestorFirst_lt (hu : u ∈ g.ancestorFirst ids) (h : g.Inherits u v)
    (hback : ¬ ReflTransGen g.Inherits v u) :
    (g.ancestorFirst ids).idxOf v < (g.ancestorFirst ids).idxOf u := by
  obtain ⟨w, hpaused, horder, _⟩ := paused_ancestorFirst g ids
  rw [← horder] at hu ⊢
  exact (hpaused.before u hu v h).resolve_left hback

theorem idxOf_ancestorFirst_lt_of_acyclic (hacyclic : ∀ x, ¬ TransGen g.Inherits x x)
    (hu : u ∈ g.ancestorFirst ids) (h : TransGen g.Inherits u v) :
    (g.ancestorFirst ids).idxOf v < (g.ancestorFirst ids).idxOf u := by
  have hstep : ∀ {x y}, x ∈ g.ancestorFirst ids → g.Inherits x y →
      (g.ancestorFirst ids).idxOf y < (g.ancestorFirst ids).idxOf x := by
    intro x y hx hxy
    exact idxOf_ancestorFirst_lt hx hxy fun hback => hacyclic x (.head' hxy hback)
  induction h with
  | single h => exact hstep hu h
  | tail hreach h ih =>
      have hmem := mem_ancestorFirst_of_reflTransGen hu hreach.to_reflTransGen
      exact Nat.lt_trans (hstep hmem h) ih

/-- Without a bound on its depth, the walk has one outcome, whatever cycles there are.  It lists
exactly what is reached from the identifiers of the graph, once each.  A parent stands before the
interface unless it leads back to it, and in a graph without cycles every ancestor does. -/
theorem ancestorFirst_exact (g : Graph) (ids : List String) :
    (∃ v, v.order = g.ancestorFirst ids ∧ ∀ w, g.Walks {} (ids.filter g.contains) w ↔ w = v) ∧
      (g.ancestorFirst ids).Nodup ∧
      (∀ id, id ∈ g.ancestorFirst ids ↔
        ∃ root ∈ ids, g.contains root = true ∧ ReflTransGen g.Inherits root id) ∧
      (∀ u ∈ g.ancestorFirst ids, ∀ v, g.Inherits u v → ¬ ReflTransGen g.Inherits v u →
        (g.ancestorFirst ids).idxOf v < (g.ancestorFirst ids).idxOf u) ∧
      ((∀ id, ¬ TransGen g.Inherits id id) →
        ∀ u ∈ g.ancestorFirst ids, ∀ v, TransGen g.Inherits u v →
          (g.ancestorFirst ids).idxOf v < (g.ancestorFirst ids).idxOf u) := by
  refine ⟨?_, nodup_ancestorFirst g ids, fun id => mem_ancestorFirst_iff, ?_, ?_⟩
  · obtain ⟨v, hwalks, horder⟩ := walks_ancestorFirst g ids
    refine ⟨v, horder, fun w => ⟨fun hw => hw.unique hwalks, ?_⟩⟩
    rintro rfl
    exact hwalks
  · intro u hu v h hback
    exact idxOf_ancestorFirst_lt hu h hback
  · intro hacyclic u hu v h
    exact idxOf_ancestorFirst_lt_of_acyclic hacyclic hu h

/-- Two interfaces that are parents of each other, and one that inherits from them. -/
def cycleGraph : Graph :=
  ((Graph.empty.add { id := "Parent", parents := [{ type := "Child" }] }).add
    { id := "Child", parents := [{ type := "Parent" }, { type := "List<Child>" }] }).add
    { id := "Heir", parents := [{ type := "Child" }, { type := "Nobody" }] }

/-- Three generations, the youngest of which comes first in the order of names. -/
def dynastyGraph : Graph :=
  ((Graph.empty.add { id := "Button", parents := [{ type := "Element" }] }).add
    { id := "Element", parents := [{ type := "Node" }] }).add { id := "Node" }

theorem ancestorFirst_exact_cycle :
    cycleGraph.ancestorFirst ["Heir", "Nobody"] = ["Parent", "Child", "Heir"] ∧
      (cycleGraph.ancestorFirst ["Heir", "Nobody"]).idxOf "Child" <
        (cycleGraph.ancestorFirst ["Heir", "Nobody"]).idxOf "Heir" ∧
      (dynastyGraph.ancestorFirst ["Button"]).idxOf "Node" <
        (dynastyGraph.ancestorFirst ["Button"]).idxOf "Button" := by
  refine ⟨by decide +kernel, ?_, ?_⟩
  · -- nobody on the cycle inherits from the heir
    have hcycle : ∀ x ∈ ["Child", "Parent"], ∀ i ∈ cycleGraph.find? x,
        ∀ y ∈ cycleGraph.edges i, y ∈ ["Child", "Parent"] := by decide +kernel
    have hreached : ∀ y, ReflTransGen cycleGraph.Inherits "Child" y → y ∈ ["Child", "Parent"] := by
      intro y hreach
      induction hreach with
      | refl => decide
      | tail _ hstep ih =>
          obtain ⟨i, hi, hparent⟩ := hstep
          exact hcycle _ ih i hi _ (mem_edges_iff.mpr hparent)
    exact (ancestorFirst_exact cycleGraph ["Heir", "Nobody"]).2.2.2.1 "Heir" (by decide +kernel)
      "Child" (by decide +kernel) fun hback => absurd (hreached _ hback) (by decide)
  · have hstep : ∀ x y, dynastyGraph.Inherits x y → x < y := by
      have hedges : ∀ x ∈ dynastyGraph.ids, ∀ i ∈ dynastyGraph.find? x,
          ∀ y ∈ dynastyGraph.edges i, x < y := by decide +kernel
      rintro x y ⟨i, hi, hparent⟩
      exact hedges x (mem_ids_iff.mpr (contains_iff.mpr ⟨i, hi⟩)) i hi y (mem_edges_iff.mpr hparent)
    have hacyclic : ∀ x, ¬ TransGen dynastyGraph.Inherits x x := by
      have hless : ∀ x y, TransGen dynastyGraph.Inherits x y → x < y := by
        intro x y hreach
        induction hreach with
        | single h => exact hstep _ _ h
        | tail _ h ih => exact String.lt_trans ih (hstep _ _ h)
      exact fun x hreach => String.lt_irrefl x (hless x x hreach)
    have hnode : TransGen dynastyGraph.Inherits "Button" "Node" :=
      .tail (b := "Element") (.single (by decide +kernel)) (by decide +kernel)
    exact (ancestorFirst_exact dynastyGraph ["Button"]).2.2.2.2 hacyclic "Button"
      (by decide +kernel) "Node" hnode

end Graph

end Bindery
