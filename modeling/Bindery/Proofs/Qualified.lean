import Bindery.Proofs.Ancestors
import Bindery.Proofs.Closure
import Bindery.Proofs.Line

/-! # Parents under qualified names

A parent stands for an interface of the graph if its type, without the modules, is the identifier of
that interface (`Graph.Names`); pruning keeps such a parent.  The walks over parents do not drop the
modules: they go on to what has the type as it is written for its identifier.  So they follow a
parent under a qualified name to the interface it names only if the identifier of that interface is
qualified in the same way.  Otherwise they follow it to another interface, or pass it over if there
is none but the one that they come from: `Graph.parents_walked_as_written`. -/

namespace Bindery

namespace Graph

open Relation

variable {g : Graph} {i a : Interface} {p : Parent} {u v : String}

/-- Without its modules, the type of a parent is the identifier of an interface of the graph. -/
structure Names (g : Graph) (p : Parent) (a : Interface) : Prop where
  isContainer_eq : TypeName.isContainer p.type = false
  find?_eq : g.find? (TypeName.unqualified p.type) = some a

theorem Names.find?_id (hg : g.Keyed) (h : g.Names p a) : g.find? a.id = some a := by
  rw [hg _ a h.find?_eq]
  exact h.find?_eq

theorem Names.mem_prune (h : g.Names p a) (hp : p ∈ i.parents) :
    p ∈ (i.prune g.contains).parents := by
  have hresolves : TypeName.isResolvable g.contains p.type = true :=
    TypeName.isResolvable_iff.mpr (.inr (.inl (contains_iff.mpr ⟨a, h.find?_eq⟩)))
  have hnone : unresolved? g.contains [p.type] = none := by
    rw [unresolved?_eq_none_iff]
    simpa using hresolves
  exact List.mem_filter.mpr ⟨hp, by rw [hnone]; rfl⟩

theorem Names.find?_type_iff (hg : g.Keyed) (h : g.Names p a) :
    g.find? p.type = some a ↔ p.type = a.id := by
  constructor
  · intro hfind
    exact (hg p.type a hfind).symm
  · intro htype
    rw [htype]
    exact h.find?_id hg

/-! ### One step of a walk -/

theorem inherits_type (hi : g.find? i.id = some i) (hp : p ∈ i.parents)
    (hcontainer : TypeName.isContainer p.type = false) (hin : g.contains p.type = true) :
    g.Inherits i.id p.type :=
  ⟨i, hi, ⟨p, hp, rfl⟩, hcontainer, hin⟩

/-- A way to something else leaves its start for good. -/
theorem exists_step_of_reflTransGen {r : String → String → Prop} (h : ReflTransGen r u v)
    (hne : v ≠ u) : ∃ w, w ≠ u ∧ r u w ∧ ReflTransGen r w v := by
  induction h using ReflTransGen.head_induction_on with
  | refl => exact absurd rfl hne
  | @head u w hstep hrest ih =>
      by_cases hw : w = u
      · subst hw
        exact ih hne
      · exact ⟨w, hw, hstep, hrest⟩

theorem exists_parent_of_reflTransGen (hi : g.find? i.id = some i)
    (h : ReflTransGen g.Inherits i.id v) (hne : v ≠ i.id) :
    ∃ q ∈ i.parents, q.type ≠ i.id ∧ g.Inherits i.id q.type ∧
      ReflTransGen g.Inherits q.type v := by
  obtain ⟨w, hw, hstep, hrest⟩ := exists_step_of_reflTransGen h hne
  obtain ⟨⟨q, hq, rfl⟩, _⟩ := mem_edges_iff.mp (hstep.mem_edges hi)
  exact ⟨q, hq, hw, hstep, hrest⟩

theorem forall_mem_ancestorFirst_iff (hu : g.contains u = true) :
    (∀ ids, u ∈ ids → v ∈ g.ancestorFirst ids) ↔ ReflTransGen g.Inherits u v := by
  constructor
  · intro h
    obtain ⟨root, hroot, _, hreach⟩ := mem_ancestorFirst_iff.mp (h [u] List.mem_cons_self)
    rw [List.mem_singleton] at hroot
    exact hroot ▸ hreach
  · intro h ids hids
    exact mem_ancestorFirst_iff.mpr ⟨u, hids, hu, h⟩

/-- A name outside the graph leads nowhere, and neither does the start. -/
theorem eq_of_leads {start : String} (hout : g.find? u = none ∨ u = start)
    (h : ReflTransGen (g.Leads start) u v) : u = v := by
  rcases h.cases_head with hsame | ⟨w, ⟨hne, _, j, hj, _⟩, _⟩
  · exact hsame
  · rcases hout with hnone | hstart
    · cases hnone.symm.trans hj
    · exact absurd hstart hne

theorem primaryAncestors_eq_nil (hg : g.Keyed) (hi : g.find? i.id = some i)
    (hp : i.primaryParent? = some p) (hout : g.find? p.type = none ∨ p.type = i.id) :
    g.primaryAncestors i = [] := by
  rw [← List.head?_eq_none_iff, Option.eq_none_iff_forall_ne_some]
  intro b hb
  obtain ⟨⟨q, hq, hfind⟩, hne⟩ := (head?_primaryAncestors_eq_some_iff hg hi).mp hb
  cases hp.symm.trans hq
  rcases hout with hnone | hown
  · cases hnone.symm.trans hfind
  · exact hne ((hg p.type b hfind).trans hown)

theorem interface_mem_secondaryAncestors_iff (hg : g.Keyed) (hi : g.find? i.id = some i)
    (ha : g.find? a.id = some a) (hne : a.id ≠ i.id) :
    .interface a ∈ g.secondaryAncestors i.id ↔ TypeName.isContainer a.id = false ∧
      ∃ q ∈ i.secondaryParents, ReflTransGen (g.Leads i.id) q.type a.id := by
  rw [mem_secondaryAncestors_iff hg hi, Ancestor.name, ancestor?_eq_interface_iff]
  simp [ha, hne]

/-! ### Walks by the written name -/

/-- Pruning keeps a parent whose type names an interface once its modules are dropped, but the walks
go by the type as it is written.  If it is an identifier other than that of the interface itself,
they follow the parent to what has it, which is the named interface exactly if it is named as it is
written.  If it is no identifier or the interface's own, the primary walk ends before it began, and
the others reach the named interface exactly if a parent that is written otherwise leads there. -/
theorem parents_walked_as_written (hg : g.Keyed) :
    ∀ i ∈ g.interfaces, ∀ p ∈ i.parents, ∀ a, g.Names p a → a.id ≠ i.id →
      p ∈ (i.prune g.contains).parents ∧
      (g.find? p.type = some a ↔ p.type = a.id) ∧
      (∀ b, g.find? p.type = some b → b.id ≠ i.id →
        (∀ ids, i.id ∈ ids → b.id ∈ g.ancestorFirst ids) ∧
        (i.primaryParent? = some p → (g.primaryAncestors i).head? = some b) ∧
        (p ∈ i.secondaryParents → .interface b ∈ g.secondaryAncestors i.id)) ∧
      (g.find? p.type = none ∨ p.type = i.id →
        ((∀ ids, i.id ∈ ids → a.id ∈ g.ancestorFirst ids) ↔
          ∃ q ∈ i.parents, q.type ≠ p.type ∧ g.Inherits i.id q.type ∧
            ReflTransGen g.Inherits q.type a.id) ∧
        (i.primaryParent? = some p → g.primaryAncestors i = []) ∧
        (.interface a ∈ g.secondaryAncestors i.id ↔ TypeName.isContainer a.id = false ∧
          ∃ q ∈ i.secondaryParents, q.type ≠ p.type ∧
            ReflTransGen (g.Leads i.id) q.type a.id)) := by
  intro i hmem p hp a hnames hne
  have hi : g.find? i.id = some i := hg.mem_interfaces_iff.mp hmem
  have ha : g.find? a.id = some a := hnames.find?_id hg
  have hstart : g.contains i.id = true := contains_iff.mpr ⟨i, hi⟩
  refine ⟨hnames.mem_prune hp, hnames.find?_type_iff hg, ?_, ?_⟩
  · intro b hb hbi
    have hid : b.id = p.type := hg p.type b hb
    have hcontainer : TypeName.isContainer b.id = false := hid ▸ hnames.isContainer_eq
    refine ⟨?_, ?_, ?_⟩
    · rw [forall_mem_ancestorFirst_iff hstart, hid]
      exact .single (inherits_type hi hp hnames.isContainer_eq (contains_iff.mpr ⟨b, hb⟩))
    · intro hprimary
      exact (head?_primaryAncestors_eq_some_iff hg hi).mpr ⟨⟨p, hprimary, hb⟩, hbi⟩
    · intro hsecondary
      rw [interface_mem_secondaryAncestors_iff hg hi (hid ▸ hb) hbi]
      exact ⟨hcontainer, p, hsecondary, hid ▸ .refl⟩
  · intro hout
    refine ⟨?_, fun hprimary => primaryAncestors_eq_nil hg hi hprimary hout, ?_⟩
    · rw [forall_mem_ancestorFirst_iff hstart]
      constructor
      · intro hway
        obtain ⟨q, hq, hother, hstep, hrest⟩ := exists_parent_of_reflTransGen hi hway hne
        refine ⟨q, hq, fun htype => ?_, hstep, hrest⟩
        rcases hout with hnone | hown
        · obtain ⟨_, _, _, _, hin⟩ := hstep
          rw [htype, find?_eq_none_iff.mp hnone] at hin
          cases hin
        · exact hother (htype.trans hown)
      · rintro ⟨q, _, _, hstep, hrest⟩
        exact .head hstep hrest
    · rw [interface_mem_secondaryAncestors_iff hg hi ha hne]
      refine and_congr_right fun _ => exists_congr fun q => and_congr_right fun _ => ?_
      refine ⟨fun hleads => ⟨fun htype => ?_, hleads⟩, And.right⟩
      rw [htype] at hleads
      rcases hout with hnone | hown
      · rw [eq_of_leads (.inl hnone) hleads, ha] at hnone
        cases hnone
      · exact hne ((eq_of_leads (.inr hown) hleads).symm.trans hown)

/-- An interface with two parents under qualified names.  One of them is also the parent of the
third parent, which is not qualified. -/
def contour : Interface :=
  { id := "Contour"
    parents := [{ type := "dom::Node" }, { type := "svg::Shape" }, { type := "Ellipse" }] }

def ellipse : Interface :=
  { id := "Ellipse", parents := [{ type := "Shape" }] }

/-- An interface under a qualified name whose parent is written like itself. -/
def cssShape : Interface :=
  { id := "css::Shape", parents := [{ type := "css::Shape" }] }

def contourGraph : Graph :=
  [{ id := "Node" }, { id := "Shape" }, ellipse, contour, cssShape].foldl Graph.add Graph.empty

theorem parents_walked_as_written_contour :
    { type := "svg::Shape" } ∈ (contour.prune contourGraph.contains).parents ∧
      (∃ q ∈ contour.parents, q.type ≠ "svg::Shape" ∧ contourGraph.Inherits "Contour" q.type ∧
        ReflTransGen contourGraph.Inherits q.type "Shape") ∧
      { type := "dom::Node" } ∈ (contour.prune contourGraph.contains).parents ∧
      contourGraph.primaryAncestors contour = [] ∧
      (¬ ∃ q ∈ contour.secondaryParents, q.type ≠ "dom::Node" ∧
        ReflTransGen (contourGraph.Leads "Contour") q.type "Node") ∧
      (∀ ids, "Contour" ∈ ids → "Ellipse" ∈ contourGraph.ancestorFirst ids) ∧
      contourGraph.primaryAncestors cssShape = [] ∧
      ¬ ∀ ids, "css::Shape" ∈ ids → "Shape" ∈ contourGraph.ancestorFirst ids := by
  have hall := parents_walked_as_written (keyed_of_entries (g := contourGraph) (by decide +kernel))
  obtain ⟨hshape, _, _, hshapeWalks⟩ := hall contour (by decide +kernel)
    { type := "svg::Shape" } (by decide +kernel)
    { id := "Shape" } ⟨by decide +kernel, by decide +kernel⟩ (by decide)
  obtain ⟨hnode, _, _, hnodeWalks⟩ := hall contour (by decide +kernel)
    { type := "dom::Node" } (by decide +kernel)
    { id := "Node" } ⟨by decide +kernel, by decide +kernel⟩ (by decide)
  obtain ⟨_, _, hellipse, _⟩ := hall contour (by decide +kernel)
    { type := "Ellipse" } (by decide +kernel)
    ellipse ⟨by decide +kernel, by decide +kernel⟩ (by decide)
  obtain ⟨_, _, _, hownWalks⟩ := hall cssShape (by decide +kernel)
    { type := "css::Shape" } (by decide +kernel)
    { id := "Shape" } ⟨by decide +kernel, by decide +kernel⟩ (by decide)
  obtain ⟨hreached, _, _⟩ := hshapeWalks (.inl (by decide +kernel))
  obtain ⟨_, hprimary, hsecondary⟩ := hnodeWalks (.inl (by decide +kernel))
  obtain ⟨hunreached, hend, _⟩ := hownWalks (.inr rfl)
  refine ⟨hshape, hreached.mp fun ids hids => ?_, hnode, hprimary rfl, fun hleads => ?_,
    (hellipse ellipse (by decide +kernel) (by decide)).1, hend rfl, fun hmet => ?_⟩
  · have hway : ReflTransGen contourGraph.Inherits "Contour" "Shape" :=
      .tail (.single (by decide +kernel : contourGraph.Inherits "Contour" "Ellipse"))
        (by decide +kernel)
    exact mem_ancestorFirst_iff.mpr ⟨"Contour", hids, by decide +kernel, hway⟩
  · have hmet := hsecondary.mpr ⟨by decide +kernel, hleads⟩
    exact absurd hmet (by decide +kernel)
  · obtain ⟨q, hq, hother, _⟩ := hunreached.mp hmet
    rw [List.mem_singleton.mp hq] at hother
    exact hother rfl

/-- All parents of an interface are under qualified names. -/
def glyph : Interface :=
  { id := "Element", parents := [{ type := "dom::Node" }, { type := "svg::Shape" }] }

def glyphGraph : Graph :=
  ((Graph.empty.add { id := "Node" }).add { id := "Shape" }).add glyph

/-- Both parents name interfaces of the graph and are kept, but no walk follows them. -/
theorem qualified_parents_not_walked :
    glyphGraph.Names { type := "dom::Node" } { id := "Node" } ∧
      glyphGraph.Names { type := "svg::Shape" } { id := "Shape" } ∧
      glyph.prune glyphGraph.contains = glyph ∧
      glyphGraph.ancestorFirst ["Element"] = ["Element"] ∧
      glyphGraph.primaryAncestors glyph = [] ∧ glyphGraph.secondaryAncestors "Element" = [] := by
  refine ⟨⟨by decide +kernel, by decide +kernel⟩, ⟨by decide +kernel, by decide +kernel⟩, ?_⟩
  decide +kernel

end Graph

end Bindery
