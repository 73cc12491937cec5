import Bindery.Proofs.Rename
import Bindery.Proofs.Run

/-! # Graphs under passes

Filters, renames, merges and generations change a graph in place.  A `Pass` is one such change, and
`Pass.keyed_apply` says of each that it keeps every interface under its own identifier, whatever
moves, merges or is replaced.  So a run of passes does (`Pass.keyed_applyAll`), and
`Pass.wellFormed_applyAll` starts it from a list of interfaces. -/

namespace Bindery

/-! ### Passes -/

/-- A change of a graph. -/
inductive Pass where
  | add (i : Interface)
  | remove (id : String)
  | filter (f : AnnotationFilter)
  /-- Drops the members of unidentified type. -/
  | prune
  | rename (table : RenameTable) (bindingNames : Bool)
  /-- Merges a copy of one interface into another. -/
  | merge (source into : String)
  | addEventTargets (target : String)
  | ensureBase (base : String)
  | populateBase (base : String) (mixins : NameSet)
  /-- Generates from the graph, which stays prepared, also if the generation fails. -/
  | generate (c : Config) (auxiliary : NameSet) (stations : List Station)

namespace Pass

/-- The graph after a pass.  Without the interfaces that a pass needs, nothing changes. -/
def apply (g : Graph) : Pass → Graph
  | .add i => g.add i
  | .remove id => g.remove id
  | .filter f => f.apply g
  | .prune => g.prune
  | .rename table bindingNames => (g.rename table bindingNames).1
  | .merge source into =>
    match g.find? source with
    | some copy => g.modify into fun i => i.merge copy
    | none => g
  | .addEventTargets target => g.addEventTargets target
  | .ensureBase base => g.ensureBase base
  | .populateBase base mixins =>
    match g.populateBase base mixins with
    | .ok populated => populated
    | .error _ => g
  | .generate c auxiliary stations => (Bindery.generate c auxiliary stations g).setting.graph

def applyAll (g : Graph) (passes : List Pass) : Graph :=
  passes.foldl apply g

end Pass

/-! ### What each pass keeps -/

namespace Graph

variable {g : Graph}

theorem Keyed.remove (hg : g.Keyed) (key : String) : (g.remove key).Keyed := by
  intro id i hi
  rw [find?_remove] at hi
  split at hi
  · cases hi
  · exact hg id i hi

theorem Keyed.prune (hg : g.Keyed) : g.prune.Keyed :=
  hg.mapInterfaces fun _ => rfl

theorem Keyed.filter (hg : g.Keyed) (f : AnnotationFilter) : (f.apply g).Keyed := by
  have hkept : Graph.Keyed ⟨g.table.filter fun _ i => f.keeps i.annotations⟩ := by
    intro id i hi
    exact hg id i (SortedMap.find?_filter_eq_some.mp hi).1
  have hmembers : (f.keepInterfaces g).Keyed := hkept.mapInterfaces fun _ => rfl
  exact hmembers.prune

theorem Keyed.attach (hg : g.Keyed) (m : Move) (bindingNames : Bool) :
    (m.attach bindingNames g).Keyed := by
  intro id i hi
  rw [find?_attach] at hi
  split at hi
  · next hid =>
    cases hi
    cases hfind : g.find? id with
    | none => exact hid.symm
    | some present => exact hg id present hfind
  · exact hg id i hi

theorem Keyed.attachAll (hg : g.Keyed) (bindingNames : Bool) (moves : List Move) :
    (attachAll bindingNames g moves).1.Keyed := by
  induction moves generalizing g with
  | nil => exact hg
  | cons m rest ih => exact ih (hg.attach m bindingNames)

theorem Keyed.detach (hg : g.Keyed) (moves : List Move) : (g.detach moves).Keyed := by
  intro id i hi
  rw [find?_detach] at hi
  split at hi
  · cases hi
  · exact hg id i hi

theorem Keyed.rename (hg : g.Keyed) (table : RenameTable) (bindingNames : Bool) :
    (g.rename table bindingNames).1.Keyed :=
  ((hg.detach _).attachAll bindingNames _).mapInterfaces fun _ => rfl

theorem Keyed.generate (hg : g.Keyed) (c : Config) (auxiliary : NameSet)
    (stations : List Station) : (generate c auxiliary stations g).setting.graph.Keyed := by
  unfold Bindery.generate
  cases hplan : Plan.make c auxiliary g with
  | error e => exact hg
  | ok plan => exact (Plan.made_of_make hplan).keyed hg

end Graph

namespace Pass

variable {g : Graph}

theorem keyed_apply (hg : g.Keyed) (pass : Pass) : (pass.apply g).Keyed := by
  cases pass with
  | add i => exact hg.add i
  | remove id => exact hg.remove id
  | filter f => exact hg.filter f
  | prune => exact hg.prune
  | rename table bindingNames => exact hg.rename table bindingNames
  | merge source into =>
      rw [apply]
      split
      · next copy _ => exact hg.modify into (f := fun i => i.merge copy) fun _ => rfl
      · exact hg
  | addEventTargets target => exact hg.addEventTargets target
  | ensureBase base => exact hg.ensureBase base
  | populateBase base mixins =>
      rw [apply]
      split
      · next hpopulated => exact hg.populateBase hpopulated
      · exact hg
  | generate c auxiliary stations => exact hg.generate c auxiliary stations

theorem keyed_applyAll (hg : g.Keyed) (passes : List Pass) : (applyAll g passes).Keyed := by
  induction passes generalizing g with
  | nil => exact hg
  | cons pass rest ih => exact ih (keyed_apply hg pass)

/-- Whatever passes a graph has gone through since it was built from a list of interfaces, each
interface is stored under its own identifier, so no two have the same, and they are listed in
strictly ascending order of identifiers. -/
theorem wellFormed_applyAll {interfaces : List Interface}
    (h : Graph.ofInterfaces interfaces = .ok g) (passes : List Pass) :
    (∀ key i, (applyAll g passes).find? key = some i → i.id = key) ∧
      (∀ i ∈ (applyAll g passes).interfaces, ∀ j ∈ (applyAll g passes).interfaces,
        i.id = j.id → i = j) ∧
      (applyAll g passes).interfaces.map (·.id) = (applyAll g passes).ids ∧
      ((applyAll g passes).interfaces.map (·.id)).Pairwise (· < ·) := by
  have hkeyed := keyed_applyAll (Graph.keyed_of_ofInterfaces h) passes
  refine ⟨hkeyed, ?_, hkeyed.map_id_interfaces, ?_⟩
  · intro i hi j hj hid
    rw [hkeyed.mem_interfaces_iff] at hi hj
    rw [hid, hj] at hi
    exact (Option.some.inj hi).symm
  · rw [hkeyed.map_id_interfaces]
    exact Graph.ids_ascending _

/-- Two interfaces, the second of which comes first in the order of identifiers. -/
def swapGraph : Graph :=
  (Graph.empty.add { id := "Node" }).add { id := "Button", parents := [{ type := "Node" }] }

/-- The two change places, a third one is merged into one of them and that one into the other, and
both backends run on what comes of it. -/
def swapPasses : List Pass :=
  [.rename (SortedMap.ofList [("Button", "Node"), ("Node", "Button")]) false,
    .add { id := "Text", attributes := [{ id := "data", type := "DOMString" }] },
    .rename (SortedMap.ofList [("Text", "Node"), ("Node", "Node")]) true,
    .merge "Node" "Button",
    .generate { mixinBase := "Base" } SortedMap.empty
      [⟨.contract, .builtin, none⟩, ⟨.overlay, .builtin, none⟩]]

theorem wellFormed_applyAll_swap :
    Graph.ofInterfaces [{ id := "Node" }, { id := "Button", parents := [{ type := "Node" }] }] =
        .ok swapGraph ∧
      (applyAll swapGraph swapPasses).ids = ["Base", "Button", "Node"] ∧
      (applyAll swapGraph swapPasses).interfaces.map (·.id) = ["Base", "Button", "Node"] := by
  have hgraph : Graph.ofInterfaces
      [{ id := "Node" }, { id := "Button", parents := [{ type := "Node" }] }] = .ok swapGraph := rfl
  have hids : (applyAll swapGraph swapPasses).ids = ["Base", "Button", "Node"] := by decide +kernel
  exact ⟨hgraph, hids, (wellFormed_applyAll hgraph swapPasses).2.2.1.trans hids⟩

end Pass

end Bindery
