import Bindery.Idl.Database
import Bindery.Proofs.Graph

/-! # Databases are read as they were written

`Reader.Inverts` says of a reader that it gives back whatever a writer wrote.  It carries over to
lists, maps and optional values, and a structure is read back field by field because the writer
leaves none out (`Fields.read_record`).  Reading the properties of annotations is inverted because
they are in canonical form already (`Value.ofDocument?_document`).  Interfaces are read back one by
one, and a graph is built again from its interfaces: `Database.read_write`. -/

namespace Bindery

/-! ### Canonical form -/

namespace Value

theorem exists_ofItems? {items : List Document}
    (h : ∀ d ∈ items, ∃ v : Value, ofDocument? d = some v ∧ v.document = d) :
    ∃ vs, ofItems? items = some vs ∧ vs.map document = items := by
  induction items with
  | nil => exact ⟨[], rfl, rfl⟩
  | cons d rest ih =>
      obtain ⟨v, hv, hd⟩ := h d List.mem_cons_self
      obtain ⟨vs, hvs, hrest⟩ := ih fun x hx => h x (List.mem_cons_of_mem _ hx)
      exact ⟨v :: vs, by simp [ofItems?, hv, hvs], by simp [hd, hrest]⟩

theorem exists_ofFields? {fields : List (String × Document)}
    (h : ∀ f ∈ fields, ∃ v : Value, ofDocument? f.2 = some v ∧ v.document = f.2) :
    ∃ vs, ofFields? fields = some vs ∧ vs.map (fun e => (e.1, e.2.document)) = fields := by
  induction fields with
  | nil => exact ⟨[], rfl, rfl⟩
  | cons f rest ih =>
      obtain ⟨name, d⟩ := f
      obtain ⟨v, hv, hd⟩ := h (name, d) List.mem_cons_self
      obtain ⟨vs, hvs, hrest⟩ := ih fun x hx => h x (List.mem_cons_of_mem _ hx)
      exact ⟨(name, v) :: vs, by simp [ofFields?, hv, hvs], by simp [hd, hrest]⟩

/-- A record in ascending order keeps its fields as they are. -/
theorem document_record_ofList {vs : List (String × Value)} {fields : List (String × Document)}
    (hfields : vs.map (fun e => (e.1, e.2.document)) = fields)
    (hascending : Entries.Ascending fields) :
    (record (SortedMap.ofList vs)).document = .record fields := by
  subst hfields
  have hvs : Entries.Ascending vs := (List.pairwise_map.mp hascending).imp fun h => h
  have hsame : SortedMap.ofList vs = ⟨vs, hvs⟩ := SortedMap.ofList_entries ⟨vs, hvs⟩
  rw [hsame]
  rfl

theorem exists_of_canonical {d : Document} (h : d.Canonical) :
    ∃ v : Value, ofDocument? d = some v ∧ v.document = d := by
  induction h with
  | null => exact ⟨_, rfl, rfl⟩
  | bool b => exact ⟨_, rfl, rfl⟩
  | number n finite =>
      exact ⟨⟨.number n, .number n finite⟩, by simp [ofDocument?, number?, finite], rfl⟩
  | text s => exact ⟨_, rfl, rfl⟩
  | list items _ ih =>
      obtain ⟨vs, hvs, hitems⟩ := exists_ofItems? ih
      exact ⟨list vs, by simp [ofDocument?, hvs], by rw [← hitems]; rfl⟩
  | record fields hascending _ ih =>
      obtain ⟨vs, hvs, hfields⟩ := exists_ofFields? ih
      exact ⟨record (SortedMap.ofList vs), by simp [ofDocument?, hvs],
        document_record_ofList hfields hascending⟩

theorem ofDocument?_document (v : Value) : ofDocument? v.document = some v := by
  obtain ⟨w, hw, hsame⟩ := exists_of_canonical v.2
  rw [← Subtype.ext hsame]
  exact hsame ▸ hw

end Value

/-! ### Readers and writers -/

namespace Reader

variable {α : Type}

/-- A reader gives back what a writer wrote. -/
def Inverts (read : Reader α) (write : α → Document) : Prop :=
  ∀ a, read (write a) = .ok a

variable {read : Reader α} {write : α → Document}

theorem inverts_text : text.Inverts .text :=
  fun _ => rfl

theorem inverts_bool : bool.Inverts .bool :=
  fun _ => rfl

theorem inverts_value : value.Inverts Value.document := by
  intro v
  simp [value, Value.ofDocument?_document]

@[simp]
theorem nullable_null : nullable read .null = .ok none :=
  rfl

theorem inverts_nullable_text : (nullable text).Inverts Document.ofText? := by
  intro s
  cases s <;> rfl

theorem Inverts.mapM (h : read.Inverts write) (items : List α) :
    (items.map write).mapM read = .ok items := by
  induction items with
  | nil => rfl
  | cons a rest ih =>
      rw [List.map_cons, List.mapM_cons, h a, ih]
      rfl

theorem Inverts.list (h : read.Inverts write) :
    (list read).Inverts fun items => .list (items.map write) :=
  h.mapM

theorem Inverts.nullable_list (h : read.Inverts write) (items : List α) :
    nullable (Reader.list read) (.list (items.map write)) = .ok (some items) := by
  show (Reader.list read (.list (items.map write))).map some = _
  rw [h.list items]
  rfl

theorem Inverts.entries (h : read.Inverts write) (es : List (String × α)) :
    entries read (es.map fun e => (e.1, write e.2)) = .ok es := by
  unfold Reader.entries
  induction es with
  | nil => rfl
  | cons e rest ih =>
      rw [List.map_cons, List.mapM_cons, ih]
      simp only [h e.2]
      rfl

theorem Inverts.map (h : read.Inverts write) :
    (map read).Inverts fun m => .record (m.entries.map fun e => (e.1, write e.2)) := by
  intro m
  show (Reader.entries read _).map SortedMap.ofList = _
  rw [h.entries]
  exact congrArg Except.ok m.ofList_entries

end Reader

namespace Fields

variable {α : Type} {fields : List (String × Document)} {name field : String} {d : Document}
  {read : Reader α} {absent : α}

/-- A record that gives every field of a structure once is read as it is. -/
@[simp]
theorem read_record (format : Format) {names : List String} (hnames : fields.map (·.1) = names)
    (hnodup : names.Nodup) : Fields.read format names (.record fields) = .ok ⟨fields⟩ := by
  have hknown : fields.filter (fun f => names.contains f.1) = fields := by
    refine List.filter_eq_self.mpr fun f hf => ?_
    rw [← hnames]
    simpa using ⟨f.2, hf⟩
  have honce : names.find? (fun name => 1 < (fields.filter fun f => f.1 = name).length) = none := by
    refine List.find?_eq_none.mpr fun name _ => ?_
    have hcount : (fields.filter fun f => f.1 = name).length = names.count name := by
      rw [← hnames, List.count_eq_countP, List.countP_map, List.countP_eq_length_filter]
      rfl
    have hle := List.nodup_iff_count_le_one.mp hnodup name
    simp only [decide_eq_true_eq]
    omega
  show ofRecord names fields = _
  unfold ofRecord
  simp only [hknown, honce]

@[simp]
theorem required_cons :
    (⟨(field, d) :: fields⟩ : Fields).required name read =
      if name = field then read d else (⟨fields⟩ : Fields).required name read := by
  unfold required
  by_cases h : name = field
  · simp [h]
  · simp [List.lookup_cons, beq_false_of_ne h, h]

@[simp]
theorem optional_cons :
    (⟨(field, d) :: fields⟩ : Fields).optional name read absent =
      if name = field then read d else (⟨fields⟩ : Fields).optional name read absent := by
  unfold optional
  by_cases h : name = field
  · simp [h]
  · simp [List.lookup_cons, beq_false_of_ne h, h]

end Fields

/-! ### The parts of a database -/

namespace Database

variable (format : Format)

theorem inverts_annotations : readAnnotations.Inverts ofAnnotations :=
  (Reader.inverts_value.map).map

theorem inverts_extensions : readExtensions.Inverts ofExtensions :=
  Reader.inverts_nullable_text.map

theorem inverts_parent : (readParent format).Inverts ofParent := by
  intro p
  simp [readParent, ofParent, bind, Except.bind, pure, Except.pure, Reader.inverts_text _,
    inverts_annotations _]

theorem inverts_argument : (readArgument format).Inverts ofArgument := by
  intro a
  simp [readArgument, ofArgument, bind, Except.bind, pure, Except.pure, Reader.inverts_text _,
    Reader.inverts_bool _]

theorem inverts_attribute : (readAttribute format).Inverts ofAttribute := by
  intro a
  simp [readAttribute, ofAttribute, bind, Except.bind, pure, Except.pure, Reader.inverts_text _,
    Reader.inverts_bool _, Reader.inverts_nullable_text _, inverts_annotations _,
    inverts_extensions _]

theorem inverts_operation : (readOperation format).Inverts ofOperation := by
  intro o
  simp [readOperation, ofOperation, bind, Except.bind, pure, Except.pure, Reader.inverts_text _,
    Reader.inverts_bool _, Reader.inverts_nullable_text _, inverts_annotations _,
    inverts_extensions _, (inverts_argument format).list _]

theorem inverts_constant : (readConstant format).Inverts ofConstant := by
  intro c
  simp [readConstant, ofConstant, bind, Except.bind, pure, Except.pure, Reader.inverts_text _,
    inverts_annotations _]

theorem inverts_interface : (readInterface format).Inverts ofInterface := by
  intro i
  obtain ⟨id, parents, attributes, operations, constants, annotations, extensions, module, jsName,
    constructorArguments⟩ := i
  cases constructorArguments <;>
    simp [readInterface, ofInterface, bind, Except.bind, pure, Except.pure, Reader.inverts_text _,
      Reader.inverts_nullable_text _, inverts_annotations _, inverts_extensions _,
      (inverts_parent format).list _, (inverts_attribute format).list _,
      (inverts_operation format).list _, (inverts_constant format).list _,
      (inverts_argument format).nullable_list _]

/-! ### Graphs -/

theorem readInterfaces_write (g : Graph) : readInterfaces format (write g) = .ok g.interfaces :=
  (inverts_interface format).list g.interfaces

theorem read_write {g : Graph} (hg : g.Keyed) : read format (write g) = .ok g := by
  simp only [read, readInterfaces_write, Graph.ofInterfaces_interfaces hg]

theorem read_eq_ok_iff {d : Document} {g : Graph} :
    read format d = .ok g ↔
      ∃ interfaces, readInterfaces format d = .ok interfaces ∧
        Graph.ofInterfaces interfaces = .ok g := by
  unfold read
  cases readInterfaces format d with
  | error e => simp
  | ok interfaces => cases h : Graph.ofInterfaces interfaces <;> simp [h]

theorem ofJson?_toJson {g : Graph} (hg : g.Keyed)
    (hjson : Json.parse? (toJson g) = some (write g)) : ofJson? (toJson g) = some g := by
  simp [ofJson?, hjson, read_write .json hg, Except.toOption]

/-- A graph is read back from the JSON text that is written of it, if that text denotes the document
it was made of.  And whatever graph a document is read as, it is written as the interfaces that were
read, in ascending order of their identifiers, and what was written is read as the same graph. -/
theorem round_trip :
    (∀ g : Graph, g.Keyed → Json.parse? (toJson g) = some (write g) →
      ofJson? (toJson g) = some g) ∧
    ∀ (format : Format) (d : Document) (g : Graph), read format d = .ok g →
      read .json (write g) = .ok g ∧
        (Json.parse? (toJson g) = some (write g) → ofJson? (toJson g) = some g) ∧
        ∃ given written, readInterfaces format d = .ok given ∧
          readInterfaces .json (write g) = .ok written ∧ written.Perm given ∧
          (written.map (·.id)).Pairwise (· < ·) := by
  refine ⟨fun g hg => ofJson?_toJson hg, fun format d g hread => ?_⟩
  obtain ⟨given, hgiven, hg⟩ := (read_eq_ok_iff format).mp hread
  have hkeyed := Graph.keyed_of_ofInterfaces hg
  refine ⟨read_write .json hkeyed, ofJson?_toJson hkeyed, given, g.interfaces, hgiven,
    readInterfaces_write .json g, Graph.interfaces_perm_of_ofInterfaces hg, ?_⟩
  rw [hkeyed.map_id_interfaces]
  exact g.ids_ascending

/-- An interface with something in every field. -/
def elementInterface : Interface where
  id := "Element"
  parents := [{ type := "Node" }]
  attributes := [{ id := "title", type := "DOMString", isGetter := false, isSetter := true,
                   getRaises := some "DOMException" }]
  operations := [{ id := "matches", type := "boolean", isStatic := true,
                   arguments := [{ id := "selector", type := "DOMString", optional := true }] }]
  constants := [{ id := "NODE", type := "unsigned short", value := "1" }]
  annotations := SortedMap.ofList [("WebKit", SortedMap.ofList [("since",
    .list [⟨.bool true, .bool _⟩, ⟨.null, .null⟩, ⟨.number (.int 3), .number _ rfl⟩])])]
  extensions := SortedMap.ofList [("Callback", none), ("Named", some "element")]
  module := some "dom"
  jsName := some "Element"
  constructorArguments := some [{ id := "tag", type := "DOMString" }]

/-- The interface above and a bare one that sorts before it. -/
def elementInterfaces : List Interface :=
  [elementInterface, { id := "Attr" }]

def elementGraph : Graph :=
  elementInterfaces.foldl Graph.add Graph.empty

theorem round_trip_elementGraph :
    elementGraph.Keyed ∧ Json.parse? (toJson elementGraph) = some (write elementGraph) ∧
      ofJson? (toJson elementGraph) = some elementGraph ∧
      read .json (write elementGraph) = .ok elementGraph ∧
      elementGraph.interfaces.map (·.id) = ["Attr", "Element"] := by
  have hkeyed : elementGraph.Keyed := Graph.keyed_empty.foldl_add
  have hjson : Json.parse? (toJson elementGraph) = some (write elementGraph) := by
    -- the characters of the text need not be gathered to be read again
    rw [toJson, Json.pretty, Json.parse?, String.toList_ofList]
    decide +kernel
  have hread : read .toml (.list (elementInterfaces.map ofInterface)) = .ok elementGraph :=
    (read_eq_ok_iff .toml).mpr ⟨elementInterfaces, (inverts_interface .toml).list _, rfl⟩
  exact ⟨hkeyed, hjson, round_trip.1 _ hkeyed hjson, (round_trip.2 _ _ _ hread).1, by decide⟩

end Database

end Bindery
