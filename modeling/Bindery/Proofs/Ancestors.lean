import Bindery.Proofs.Walk

/-! # Secondary ancestors

`Graph.secondaryAncestors` walks depth first through the secondary parents of an interface and on
through all parents of what it meets.  To this walk a name stands for a container, for an interface
of the graph, or for nothing (`Graph.ancestor?`), and only an interface leads on
(`Ancestor.onward`).

`Graph.Gathers` is the walk without a bound on its depth, and `Graph.gathers_foldl_reach` says that
the bound cuts nothing off.  What one walk meets is new (`Gathers.fresh`), is led to
(`Gathers.exists_leads`), and is closed under going on (`Gathers.mem_noted_of_onward`).  Hence it is
all that is led to: `Graph.mem_secondaryAncestors_iff`. -/

namespace Bindery

namespace Graph

open Relation

variable {g : Graph} {t : TypeName} {a : Ancestor}

/-! ### What a name stands for -/

/-- The ancestor that a name stands for. -/
def ancestor? (g : Graph) (name : TypeName) : Option Ancestor :=
  if TypeName.isContainer name then some (.container name) else (g.find? name).map .interface

/-- The names that an ancestor leads on to. -/
def Ancestor.onward : Ancestor → List TypeName
  | .interface i => i.parents.map (·.type)
  | .container _ => []

theorem ancestor?_of_isContainer (h : TypeName.isContainer t = true) :
    g.ancestor? t = some (.container t) := by
  rw [ancestor?, if_pos h]

theorem ancestor?_of_not_isContainer (h : TypeName.isContainer t = false) :
    g.ancestor? t = (g.find? t).map .interface := by
  rw [ancestor?, h]
  rfl

theorem ancestor?_eq_interface_iff {i : Interface} :
    g.ancestor? t = some (.interface i) ↔ TypeName.isContainer t = false ∧ g.find? t = some i := by
  cases hcontainer : TypeName.isContainer t with
  | true => simp [ancestor?_of_isContainer hcontainer]
  | false => simp [ancestor?_of_not_isContainer hcontainer]

theorem ancestor?_eq_container_iff {name : TypeName} :
    g.ancestor? t = some (.container name) ↔ TypeName.isContainer t = true ∧ t = name := by
  cases hcontainer : TypeName.isContainer t with
  | true => simp [ancestor?_of_isContainer hcontainer]
  | false => simp [ancestor?_of_not_isContainer hcontainer]

theorem exists_ancestor?_iff :
    (∃ a, g.ancestor? t = some a) ↔ TypeName.isContainer t = true ∨ g.contains t = true := by
  cases hcontainer : TypeName.isContainer t with
  | true => simp [ancestor?_of_isContainer hcontainer]
  | false => simp [ancestor?_of_not_isContainer hcontainer, contains_iff]

theorem Keyed.name_of_ancestor? (hg : g.Keyed) (h : g.ancestor? t = some a) : a.name = t := by
  cases a with
  | interface i => exact hg t i (ancestor?_eq_interface_iff.mp h).2
  | container name => exact (ancestor?_eq_container_iff.mp h).2.symm

theorem reach_succ (g : Graph) (fuel : Nat) (r : Reached) (t : TypeName) :
    g.reach (fuel + 1) r t =
      match g.ancestor? t with
      | none => r
      | some a =>
        if r.seen.contains a.name then r
        else a.onward.foldl (fun r t => g.reach fuel r t)
          ⟨a.name :: r.seen, r.ancestors ++ [a]⟩ := by
  rw [reach]
  cases hcontainer : TypeName.isContainer t with
  | true =>
      rw [ancestor?_of_isContainer hcontainer]
      rfl
  | false =>
      rw [ancestor?_of_not_isContainer hcontainer]
      cases g.find? t with
      | none => rfl
      | some i => rfl

/-! ### The walk without a bound -/

/-- The names that were seen once some ancestors were met. -/
def noted (seen : List String) (met : List Ancestor) : List String :=
  (met.map Ancestor.name).reverse ++ seen

theorem noted_append (seen : List String) (met more : List Ancestor) :
    noted seen (met ++ more) = noted (noted seen met) more := by
  simp [noted]

theorem mem_noted_iff {seen : List String} {met : List Ancestor} {x : String} :
    x ∈ noted seen met ↔ x ∈ seen ∨ x ∈ met.map Ancestor.name := by
  rw [noted, List.mem_append, List.mem_reverse, or_comm]

/-- What a walk through some names meets if some names were seen before.  A name that stands for
nothing or for what was seen is passed over; anything else is met, and the walk goes on from there
before it comes to the next name. -/
inductive Gathers (g : Graph) : List String → List TypeName → List Ancestor → Prop
  | done (seen : List String) : Gathers g seen [] []
  | miss {seen : List String} {t : TypeName} {rest : List TypeName} {met : List Ancestor} :
      g.ancestor? t = none → Gathers g seen rest met → Gathers g seen (t :: rest) met
  | pass {seen : List String} {t : TypeName} {a : Ancestor} {rest : List TypeName}
      {met : List Ancestor} :
      g.ancestor? t = some a → a.name ∈ seen → Gathers g seen rest met →
      Gathers g seen (t :: rest) met
  | meet {seen : List String} {t : TypeName} {a : Ancestor} {rest : List TypeName}
      {inner outer : List Ancestor} :
      g.ancestor? t = some a → a.name ∉ seen →
      Gathers g (noted seen [a]) a.onward inner →
      Gathers g (noted seen (a :: inner)) rest outer →
      Gathers g seen (t :: rest) (a :: inner ++ outer)

variable {seen : List String} {names : List TypeName} {met : List Ancestor} {start : String}

theorem Gathers.unique {met' : List Ancestor} (h : g.Gathers seen names met)
    (h' : g.Gathers seen names met') : met = met' := by
  induction h generalizing met' with
  | done =>
      cases h'
      rfl
  | miss hnone _ ih =>
      cases h' with
      | miss _ hrest => exact ih hrest
      | pass hsome => simp [hnone] at hsome
      | meet hsome => simp [hnone] at hsome
  | pass hsome hseen _ ih =>
      cases h' with
      | miss hnone => simp [hnone] at hsome
      | pass _ _ hrest => exact ih hrest
      | meet hsome' hnot =>
          cases hsome.symm.trans hsome'
          exact absurd hseen hnot
  | meet hsome hnot _ _ ihinner ihouter =>
      cases h' with
      | miss hnone => simp [hnone] at hsome
      | pass hsome' hseen =>
          cases hsome.symm.trans hsome'
          exact absurd hseen hnot
      | meet hsome' _ hinner houter =>
          cases hsome.symm.trans hsome'
          rw [← ihinner hinner] at houter ⊢
          rw [ihouter houter]

/-- Of the interfaces that were not seen, the one that is met is one. -/
theorem length_unseen_lt (hg : g.Keyed) {i : Interface} (h : g.ancestor? t = some (.interface i))
    (hnot : i.id ∉ seen) :
    (g.ids.filter (· ∉ i.id :: seen)).length < (g.ids.filter (· ∉ seen)).length := by
  obtain ⟨_, hi⟩ := ancestor?_eq_interface_iff.mp h
  have hid : i.id ∈ g.ids := by
    rw [hg t i hi, mem_ids_iff]
    exact contains_iff.mpr ⟨i, hi⟩
  exact length_filter_notMem_cons_lt hid hnot

/-- With more fuel than there are interfaces that were not seen, nothing is cut off. -/
theorem gathers_foldl_reach (hg : g.Keyed) {fuel : Nat} {r : Reached}
    (hfuel : (g.ids.filter (· ∉ r.seen)).length < fuel) (names : List TypeName) :
    ∃ met, g.Gathers r.seen names met ∧
      names.foldl (fun r t => g.reach fuel r t) r = ⟨noted r.seen met, r.ancestors ++ met⟩ := by
  induction fuel generalizing r names with
  | zero => omega
  | succ fuel ihfuel =>
      induction names generalizing r with
      | nil => exact ⟨[], .done _, by simp [noted]⟩
      | cons t rest ih =>
          rw [List.foldl_cons, reach_succ]
          cases hsome : g.ancestor? t with
          | none =>
              obtain ⟨met, hmet, hfold⟩ := ih hfuel
              exact ⟨met, .miss hsome hmet, hfold⟩
          | some a =>
              dsimp only
              by_cases hseen : a.name ∈ r.seen
              · rw [if_pos (by simpa using hseen)]
                obtain ⟨met, hmet, hfold⟩ := ih hfuel
                exact ⟨met, .pass hsome hseen hmet, hfold⟩
              · rw [if_neg (by simpa using hseen)]
                -- a container does not lead on, and an interface leaves fewer that were not seen
                have hinner : ∃ inner, g.Gathers (noted r.seen [a]) a.onward inner ∧
                    a.onward.foldl (fun r t => g.reach fuel r t)
                        ⟨a.name :: r.seen, r.ancestors ++ [a]⟩ =
                      ⟨noted r.seen (a :: inner), r.ancestors ++ a :: inner⟩ := by
                  cases a with
                  | container name => exact ⟨[], .done _, rfl⟩
                  | interface i =>
                      have hshort := length_unseen_lt hg hsome hseen
                      obtain ⟨inner, hinner, hfold⟩ := ihfuel
                        (r := ⟨i.id :: r.seen, r.ancestors ++ [.interface i]⟩)
                        (show (g.ids.filter (· ∉ i.id :: r.seen)).length < fuel by omega)
                        (Ancestor.interface i).onward
                      refine ⟨inner, hinner, hfold.trans ?_⟩
                      simp [noted, Ancestor.name]
                obtain ⟨inner, hinner, hfold⟩ := hinner
                have hgrown : r.seen ⊆ noted r.seen (a :: inner) :=
                  fun x hx => mem_noted_iff.mpr (.inl hx)
                obtain ⟨outer, houter, hfold'⟩ := ih
                  (r := ⟨noted r.seen (a :: inner), r.ancestors ++ a :: inner⟩)
                  (Nat.lt_of_le_of_lt (length_unseen_le hgrown) hfuel)
                refine ⟨a :: inner ++ outer, .meet hsome hseen hinner houter, ?_⟩
                rw [hfold, hfold', noted_append, List.append_assoc]

theorem gathers_secondaryAncestors (hg : g.Keyed) {i : Interface} (hi : g.find? i.id = some i) :
    g.Gathers [i.id] (i.secondaryParents.map (·.type)) (g.secondaryAncestors i.id) := by
  have hfuel : (g.ids.filter (· ∉ [i.id])).length < g.size + 1 :=
    Nat.lt_succ_of_le (g.length_ids ▸ List.length_filter_le _ _)
  obtain ⟨met, hmet, hfold⟩ := gathers_foldl_reach hg (r := ⟨[i.id], []⟩) hfuel
    (i.secondaryParents.map (·.type))
  have hmet' : g.secondaryAncestors i.id = met := by
    simp only [secondaryAncestors, hi, hfold, List.nil_append]
  rw [hmet']
  exact hmet

/-! ### What a walk meets -/

theorem Gathers.fresh (h : g.Gathers seen names met) :
    (met.map Ancestor.name).Nodup ∧ ∀ a ∈ met, a.name ∉ seen := by
  induction h with
  | done => simp
  | miss _ _ ih => exact ih
  | pass _ _ _ ih => exact ih
  | @meet seen t a rest inner outer _ hnot _ _ ihinner ihouter =>
      obtain ⟨hinner, hinner'⟩ := ihinner
      obtain ⟨houter, houter'⟩ := ihouter
      have hfirst : ∀ b ∈ inner, b.name ≠ a.name ∧ b.name ∉ seen := by
        intro b hb
        simpa [noted] using hinner' b hb
      have hlast : ∀ b ∈ outer, b.name ∉ (a :: inner).map Ancestor.name ∧ b.name ∉ seen := by
        intro b hb
        have hnoted := houter' b hb
        rw [mem_noted_iff, not_or] at hnoted
        exact hnoted.symm
      constructor
      · rw [List.map_append, List.nodup_append, List.map_cons, List.nodup_cons]
        refine ⟨⟨?_, hinner⟩, houter, ?_⟩
        · rintro hmem
          obtain ⟨b, hb, hname⟩ := List.mem_map.mp hmem
          exact (hfirst b hb).1 hname
        · rintro x hx y hy rfl
          obtain ⟨b, hb, rfl⟩ := List.mem_map.mp hy
          exact (hlast b hb).1 hx
      · intro b hb
        rcases List.mem_append.mp hb with hb | hb
        · rcases List.mem_cons.mp hb with rfl | hb
          · exact hnot
          · exact (hfirst b hb).2
        · exact (hlast b hb).2

theorem Gathers.ancestor?_name (hg : g.Keyed) (h : g.Gathers seen names met) :
    ∀ a ∈ met, g.ancestor? a.name = some a := by
  induction h with
  | done => simp
  | miss _ _ ih => exact ih
  | pass _ _ _ ih => exact ih
  | meet hsome _ _ _ ihinner ihouter =>
      intro b hb
      rcases List.mem_append.mp hb with hb | hb
      · rcases List.mem_cons.mp hb with rfl | hb
        · rw [hg.name_of_ancestor? hsome]
          exact hsome
        · exact ihinner b hb
      · exact ihouter b hb

/-- A step of a walk that does not pass its start: from another interface of the graph, which is no
container, to one of its parents. -/
def Leads (g : Graph) (start u v : String) : Prop :=
  u ≠ start ∧ TypeName.isContainer u = false ∧
    ∃ i, g.find? u = some i ∧ ∃ p ∈ i.parents, p.type = v

theorem leads_of_mem_onward {u v : String} (hne : u ≠ start) (h : g.ancestor? u = some a)
    (hv : v ∈ a.onward) : g.Leads start u v := by
  cases a with
  | container name => cases hv
  | interface i =>
      obtain ⟨hcontainer, hi⟩ := ancestor?_eq_interface_iff.mp h
      exact ⟨hne, hcontainer, i, hi, List.mem_map.mp hv⟩

theorem Leads.exists_onward {u v : String} (h : g.Leads start u v) :
    ∃ a, g.ancestor? u = some a ∧ v ∈ a.onward := by
  obtain ⟨_, hcontainer, i, hi, hv⟩ := h
  exact ⟨.interface i, ancestor?_eq_interface_iff.mpr ⟨hcontainer, hi⟩, List.mem_map.mpr hv⟩

/-- Some name of the walk leads to whatever is met. -/
theorem Gathers.exists_leads (hg : g.Keyed) (h : g.Gathers seen names met) (hstart : start ∈ seen) :
    ∀ a ∈ met, ∃ t ∈ names, ReflTransGen (g.Leads start) t a.name := by
  induction h with
  | done => simp
  | miss _ _ ih | pass _ _ _ ih =>
      intro b hb
      obtain ⟨t, ht, hleads⟩ := ih hstart b hb
      exact ⟨t, List.mem_cons_of_mem _ ht, hleads⟩
  | @meet seen t a rest inner outer hsome hnot _ _ ihinner ihouter =>
      have hname : a.name = t := hg.name_of_ancestor? hsome
      have hne : t ≠ start := fun hsame => hnot (hname ▸ hsame ▸ hstart)
      intro b hb
      rcases List.mem_append.mp hb with hb | hb
      · refine ⟨t, List.mem_cons_self, ?_⟩
        rcases List.mem_cons.mp hb with rfl | hb
        · rw [hname]
        · obtain ⟨u, hu, hleads⟩ := ihinner (mem_noted_iff.mpr (.inl hstart)) b hb
          exact .head (leads_of_mem_onward hne hsome hu) hleads
      · obtain ⟨u, hu, hleads⟩ := ihouter (mem_noted_iff.mpr (.inl hstart)) b hb
        exact ⟨u, List.mem_cons_of_mem _ hu, hleads⟩

/-- A walk misses nothing of what its names stand for. -/
theorem Gathers.mem_noted (h : g.Gathers seen names met) :
    ∀ t ∈ names, ∀ a, g.ancestor? t = some a → a.name ∈ noted seen met := by
  induction h with
  | done => simp
  | @miss seen t rest met hnone _ ih =>
      intro u hu b hb
      rcases List.mem_cons.mp hu with rfl | hu
      · simp [hnone] at hb
      · exact ih u hu b hb
  | @pass seen t a rest met hsome hseen _ ih =>
      intro u hu b hb
      rcases List.mem_cons.mp hu with rfl | hu
      · cases hsome.symm.trans hb
        exact mem_noted_iff.mpr (.inl hseen)
      · exact ih u hu b hb
  | @meet seen t a rest inner outer hsome _ _ _ _ ihouter =>
      intro u hu b hb
      rcases List.mem_cons.mp hu with rfl | hu
      · cases hsome.symm.trans hb
        simp [mem_noted_iff]
      · rw [noted_append]
        exact ihouter u hu b hb

/-- Nor does it miss anything of what it is led on to. -/
theorem Gathers.mem_noted_of_onward (h : g.Gathers seen names met) :
    ∀ b ∈ met, ∀ t ∈ b.onward, ∀ a, g.ancestor? t = some a → a.name ∈ noted seen met := by
  induction h with
  | done => simp
  | miss _ _ ih => exact ih
  | pass _ _ _ ih => exact ih
  | @meet seen t a rest inner outer _ _ hinner _ ihinner ihouter =>
      -- what the inner walk has noted is noted in the end
      have hgrown : ∀ x ∈ noted (noted seen [a]) inner, x ∈ noted seen (a :: inner ++ outer) := by
        intro x hx
        rw [noted_append, mem_noted_iff]
        exact .inl (by rwa [← noted_append] at hx)
      intro b hb u hu c hc
      rcases List.mem_append.mp hb with hb | hb
      · rcases List.mem_cons.mp hb with rfl | hb
        · exact hgrown _ (hinner.mem_noted u hu c hc)
        · exact hgrown _ (ihinner b hb u hu c hc)
      · rw [noted_append]
        exact ihouter b hb u hu c hc

/-- Hence a walk that has seen nothing but its start meets everything that it is led to. -/
theorem Gathers.mem_of_leads (hg : g.Keyed) (h : g.Gathers [start] names met)
    (ht : t ∈ names) {v : String} (hleads : ReflTransGen (g.Leads start) t v) (hne : v ≠ start)
    (hv : g.ancestor? v = some a) : a ∈ met := by
  have hmet : ∀ u b, u ≠ start → g.ancestor? u = some b → b.name ∈ noted [start] met → b ∈ met := by
    intro u b hu hb hnoted
    have hname := hg.name_of_ancestor? hb
    rw [mem_noted_iff, List.mem_singleton, hname] at hnoted
    obtain ⟨c, hc, hsame⟩ := List.mem_map.mp (hnoted.resolve_left hu)
    have hstands := h.ancestor?_name hg c hc
    rw [hsame, hb] at hstands
    exact Option.some.inj hstands ▸ hc
  induction hleads generalizing a with
  | refl => exact hmet t a hne hv (h.mem_noted t ht a hv)
  | @tail u v _ hstep ih =>
      obtain ⟨b, hb, honward⟩ := hstep.exists_onward
      have hbmet : b ∈ met := ih hstep.1 hb
      exact hmet v a hne hv (h.mem_noted_of_onward b hbmet v honward a hv)

/-! ### Exactly what is led to -/

/-- The secondary ancestors are what the secondary parents stand for or lead to, the interface itself
left out. -/
theorem mem_secondaryAncestors_iff (hg : g.Keyed) {i : Interface} (hi : g.find? i.id = some i) :
    a ∈ g.secondaryAncestors i.id ↔
      a.name ≠ i.id ∧ g.ancestor? a.name = some a ∧
        ∃ p ∈ i.secondaryParents, ReflTransGen (g.Leads i.id) p.type a.name := by
  have hwalk := gathers_secondaryAncestors hg hi
  constructor
  · intro ha
    obtain ⟨t, ht, hleads⟩ := hwalk.exists_leads hg List.mem_cons_self a ha
    obtain ⟨p, hp, rfl⟩ := List.mem_map.mp ht
    have hnew : a.name ≠ i.id := by simpa using hwalk.fresh.2 a ha
    exact ⟨hnew, hwalk.ancestor?_name hg a ha, p, hp, hleads⟩
  · rintro ⟨hne, hstands, p, hp, hleads⟩
    exact hwalk.mem_of_leads hg (List.mem_map_of_mem hp) hleads hne hstands

/-- What leads to an interface of the graph that is no container, inherits from it. -/
theorem reflTransGen_inherits_of_leads {v : String} (h : ReflTransGen (g.Leads start) t v)
    (hcontainer : TypeName.isContainer v = false) (hv : g.contains v = true) :
    TypeName.isContainer t = false ∧ g.contains t = true ∧ ReflTransGen g.Inherits t v := by
  induction h using ReflTransGen.head_induction_on with
  | refl => exact ⟨hcontainer, hv, .refl⟩
  | @head t u hstep _ ih =>
      obtain ⟨hu, hu', hreach⟩ := ih
      obtain ⟨_, ht, i, hi, hparent⟩ := hstep
      exact ⟨ht, contains_iff.mpr ⟨i, hi⟩, .head ⟨i, hi, hparent, hu, hu'⟩ hreach⟩

/-- The walk through the secondary parents of an interface has one outcome, whatever cycles there
are.  It meets no name twice and not that of the interface, and it meets exactly the containers and
the interfaces of the graph to which a secondary parent leads without passing the interface.  What
is met under the name of a container is a container, and otherwise the interface of that name.  From
a name outside the graph nothing is met. -/
theorem secondaryAncestors_exact (hg : g.Keyed) :
    (∀ id, g.contains id = false → g.secondaryAncestors id = []) ∧
      ∀ i ∈ g.interfaces,
        (∀ met, g.Gathers [i.id] (i.secondaryParents.map (·.type)) met ↔
          met = g.secondaryAncestors i.id) ∧
        ((g.secondaryAncestors i.id).map Ancestor.name).Nodup ∧
        i.id ∉ (g.secondaryAncestors i.id).map Ancestor.name ∧
        (∀ v, v ≠ i.id → (v ∈ (g.secondaryAncestors i.id).map Ancestor.name ↔
          (TypeName.isContainer v = true ∨ g.contains v = true) ∧
            ∃ p ∈ i.secondaryParents, ReflTransGen (g.Leads i.id) p.type v)) ∧
        ∀ a ∈ g.secondaryAncestors i.id,
          (a = .container a.name ↔ TypeName.isContainer a.name = true) ∧
            ∀ owner, a = .interface owner → g.find? a.name = some owner := by
  constructor
  · intro id hid
    rw [secondaryAncestors, find?_eq_none_iff.mpr hid]
  · intro i hmem
    have hi : g.find? i.id = some i := hg.mem_interfaces_iff.mp hmem
    have hwalk := gathers_secondaryAncestors hg hi
    refine ⟨?_, hwalk.fresh.1, ?_, ?_, ?_⟩
    · intro met
      constructor
      · exact fun hmet => hmet.unique hwalk
      · rintro rfl
        exact hwalk
    · intro hself
      obtain ⟨a, ha, hname⟩ := List.mem_map.mp hself
      exact ((mem_secondaryAncestors_iff hg hi).mp ha).1 hname
    · intro v hne
      rw [← exists_ancestor?_iff]
      constructor
      · intro hv
        obtain ⟨a, ha, rfl⟩ := List.mem_map.mp hv
        obtain ⟨_, hstands, hleads⟩ := (mem_secondaryAncestors_iff hg hi).mp ha
        exact ⟨⟨a, hstands⟩, hleads⟩
      · rintro ⟨⟨a, hstands⟩, hleads⟩
        have hname := hg.name_of_ancestor? hstands
        refine List.mem_map.mpr ⟨a, (mem_secondaryAncestors_iff hg hi).mpr ?_, hname⟩
        rw [hname]
        exact ⟨hne, hstands, hleads⟩
    · intro a ha
      obtain ⟨_, hstands, _⟩ := (mem_secondaryAncestors_iff hg hi).mp ha
      constructor
      · constructor
        · intro hsame
          rw [hsame] at hstands
          exact (ancestor?_eq_container_iff.mp hstands).1
        · intro hcontainer
          rw [ancestor?_of_isContainer hcontainer] at hstands
          exact (Option.some.inj hstands).symm
      · rintro owner rfl
        exact (ancestor?_eq_interface_iff.mp hstands).2

/-- An interface with two secondary parents.  One of them has a parent that leads back to it and to
the interface itself, and a parent that nobody knows. -/
def ringSlider : Interface :=
  { id := "Slider", parents := [{ type := "Node" }, { type := "Ring" }, { type := "List<Knob>" }] }

def ringGraph : Graph :=
  (((Graph.empty.add { id := "Node" }).add ringSlider).add
    { id := "Ring", parents := [{ type := "Nobody" }, { type := "Knob" }] }).add
    { id := "Knob"
      parents := [{ type := "Ring" }, { type := "Slider" }, { type := "sequence<Ring>" }] }

theorem secondaryAncestors_exact_ring :
    (ringGraph.secondaryAncestors "Slider").map Ancestor.name =
        ["Ring", "Knob", "sequence<Ring>", "List<Knob>"] ∧
      (∃ p ∈ ringSlider.secondaryParents,
        ReflTransGen (ringGraph.Leads "Slider") p.type "sequence<Ring>") ∧
      (¬ ∃ p ∈ ringSlider.secondaryParents, ReflTransGen (ringGraph.Leads "Slider") p.type "Node") ∧
      ringGraph.secondaryAncestors "Nobody" = [] := by
  have hnames : (ringGraph.secondaryAncestors "Slider").map Ancestor.name =
      ["Ring", "Knob", "sequence<Ring>", "List<Knob>"] := by decide +kernel
  obtain ⟨hnobody, hall⟩ :=
    secondaryAncestors_exact (keyed_of_entries (g := ringGraph) (by decide +kernel))
  obtain ⟨_, _, _, hmem, _⟩ := hall ringSlider (by decide +kernel)
  have hnode : ringGraph.contains "Node" = true := by decide +kernel
  refine ⟨hnames, ?_, ?_, hnobody "Nobody" (by decide +kernel)⟩
  · have hring : "sequence<Ring>" ∈ (ringGraph.secondaryAncestors "Slider").map Ancestor.name := by
      rw [hnames]
      decide
    exact ((hmem "sequence<Ring>" (by decide)).mp hring).2
  · intro hleads
    have hmet := (hmem "Node" (by decide)).mpr ⟨.inr hnode, hleads⟩
    change "Node" ∈ (ringGraph.secondaryAncestors "Slider").map Ancestor.name at hmet
    rw [hnames] at hmet
    exact absurd hmet (by decide)

end Graph

end Bindery
