import Mathlib.Data.String.Basic
import Bindery.Idl.Mixin
import Bindery.Proofs.Graph

/-! # Which interfaces are mixins

The search for mixins is one pass over the listed interfaces in ascending order.  It keeps the first
interface that declares each secondary parent and a memo of lineages, and reports a parent when a
later interface declares it that inherits neither the parent nor from the first one.

`Survey.Records` says what the state of the pass is after some declarations, one declaration keeps
it (`Survey.Records.declare`), and so the whole pass comes down to a statement without order or
state: `Graph.mixins_exact`.  Since the test looks at the lineage of the later interface only, a
mixin need not be shared by interfaces of different lines; `Graph.mixin_contested_or_overtaken` says
what else it can come from. -/

namespace Bindery

/-! ### Declarations and conflicts -/

namespace Graph

/-- A listed interface of the graph that has a type among its secondary parents. -/
def Declares (g : Graph) (ids : List String) (parent : TypeName) (id : String) : Prop :=
  id ∈ ids ∧ ∃ i, g.find? id = some i ∧ parent ∈ i.secondaryParents.map (·.type)

/-- The least of the listed interfaces that declare a type. -/
def DeclaresFirst (g : Graph) (ids : List String) (parent : TypeName) (first : String) : Prop :=
  g.Declares ids parent first ∧ ∀ id, g.Declares ids parent id → first ≤ id

/-- Another interface than the first one declares a type, and has neither of the two in its
lineage. -/
def Conflict (g : Graph) (ids : List String) (parent : TypeName) (first other : String) : Prop :=
  g.DeclaresFirst ids parent first ∧ g.Declares ids parent other ∧ other ≠ first ∧
    first ∉ g.lineage other ∧ parent ∉ g.lineage other

/-- A type takes with it the interfaces of its lineage. -/
def Hoists (g : Graph) (parent : TypeName) (name : String) : Prop :=
  name = parent ∨ name ∈ g.lineage parent ∧ g.contains name = true

/-- The declarations of an identifier: its name with the type of each secondary parent. -/
def declarations (g : Graph) (id : String) : List (String × TypeName) :=
  match g.find? id with
  | none => []
  | some i => i.secondaryParents.map fun p => (id, p.type)

theorem mem_declarations_iff {g : Graph} {id : String} {d : String × TypeName} :
    d ∈ g.declarations id ↔
      d.1 = id ∧ ∃ i, g.find? id = some i ∧ d.2 ∈ i.secondaryParents.map (·.type) := by
  obtain ⟨name, parent⟩ := d
  unfold declarations
  cases g.find? id with
  | none => simp
  | some i =>
      simp only [List.mem_map, Prod.mk.injEq, Option.some.injEq]
      constructor
      · rintro ⟨p, hp, rfl, rfl⟩
        exact ⟨rfl, i, rfl, p, hp, rfl⟩
      · rintro ⟨rfl, _, rfl, p, hp, rfl⟩
        exact ⟨p, hp, rfl, rfl⟩

end Graph

/-! ### One pass -/

/-- The memo has nothing but lineages of the graph. -/
def LineageMemo.Sound (g : Graph) (memo : LineageMemo) : Prop :=
  ∀ id names, memo.find? id = some names → names = g.lineage id

theorem LineageMemo.Sound.query {g : Graph} {memo : LineageMemo} (h : memo.Sound g) (id : String) :
    (memo.query g id).1 = g.lineage id ∧ (memo.query g id).2.Sound g := by
  unfold LineageMemo.query
  cases hfind : memo.find? id with
  | some names => exact ⟨h id names hfind, h⟩
  | none =>
      refine ⟨rfl, ?_⟩
      intro other names hother
      rw [SortedMap.find?_insert] at hother
      split at hother
      · next hid =>
        cases hother
        rw [hid]
      · exact h other names hother

theorem LineageMemo.Sound.queryAll {g : Graph} {memo : LineageMemo} (h : memo.Sound g)
    (ids : List String) : LineageMemo.queryAll g memo ids = ids.map g.lineage := by
  induction ids generalizing memo with
  | nil => rfl
  | cons id rest ih =>
      obtain ⟨hnames, hmemo⟩ := h.query id
      rw [LineageMemo.queryAll, List.map_cons]
      dsimp only
      rw [hnames, ih hmemo]

namespace Survey

variable {g : Graph} {done : List (String × TypeName)} {s : Survey}

/-- A declaration makes a mixin of a name, if these are the first interfaces that declare each
type. -/
def Reports (g : Graph) (first : SortedMap String String) (name : String)
    (d : String × TypeName) : Prop :=
  ∃ id, first.find? d.2 = some id ∧
    ¬ (id = d.1 ∨ id ∈ g.lineage d.1 ∨ d.2 ∈ g.lineage d.1) ∧ g.Hoists d.2 name

theorem reports_iff {first : SortedMap String String} {name id : String} {d : String × TypeName}
    (hfirst : first.find? d.2 = some id) :
    Reports g first name d ↔
      ¬ (id = d.1 ∨ id ∈ g.lineage d.1 ∨ d.2 ∈ g.lineage d.1) ∧ g.Hoists d.2 name := by
  simp [Reports, hfirst]

/-- The state of the pass after some declarations: the memo is sound, each type stands with the first
interface that declared it, and the findings are what the declarations report. -/
structure Records (g : Graph) (done : List (String × TypeName)) (s : Survey) : Prop where
  memo : s.memo.Sound g
  first (parent : TypeName) : s.first.find? parent = (done.find? (·.2 = parent)).map (·.1)
  findings (name : String) :
    name ∈ s.findings.map Finding.mixin ↔ ∃ d ∈ done, Reports g s.first name d

theorem records_nil (g : Graph) : Records g [] {} where
  memo _ _ h := by cases h
  first _ := rfl
  findings := by simp

/-- A type that has a first interface already keeps it. -/
theorem Records.first_append (h : Records g done s) {id first : String} {parent : TypeName}
    (hfirst : s.first.find? parent = some first) (other : TypeName) :
    s.first.find? other = ((done ++ [(id, parent)]).find? (·.2 = other)).map (·.1) := by
  rw [h.first other, List.find?_append]
  cases hdone : done.find? (·.2 = other) with
  | some d => rfl
  | none =>
      have hne : parent ≠ other := by
        rintro rfl
        rw [h.first, hdone] at hfirst
        cases hfirst
      simp [hne]

theorem mem_mixins_of_shared (g : Graph) (parent : TypeName) (first other name : String) :
    name ∈ (Finding.shared parent first other :: ((g.lineage parent).filter g.contains).map
      fun a => Finding.ancestor a parent).map Finding.mixin ↔ g.Hoists parent name := by
  simp [Graph.Hoists, Finding.mixin]

theorem Records.declare (h : Records g done s) (id : String) (parent : TypeName) :
    Records g (done ++ [(id, parent)]) (s.declare g id (g.lineage id) parent) := by
  have hlast : ∀ P : String × TypeName → Prop,
      (∃ d ∈ done ++ [(id, parent)], P d) ↔ (∃ d ∈ done, P d) ∨ P (id, parent) := by
    intro P
    simp [or_and_right, exists_or]
  unfold Survey.declare
  cases hfirst : s.first.find? parent with
  | none =>
      -- the first declaration of this type: no earlier one is about it, and it reports nothing
      have hnone : done.find? (·.2 = parent) = none := by
        simpa [hfirst] using (h.first parent).symm
      have hnew : ∀ d ∈ done, d.2 ≠ parent := by simpa using hnone
      have hinsert : ∀ other, (s.first.insert parent id).find? other =
          if other = parent then some id else s.first.find? other :=
        fun other => SortedMap.find?_insert _ _ _ _
      refine ⟨h.memo, ?_, ?_⟩
      · intro other
        show (s.first.insert parent id).find? other = _
        rw [hinsert, h.first, List.find?_append]
        by_cases hother : other = parent
        · subst hother
          simp [hnone]
        · simp [hother, Ne.symm hother]
      · intro name
        show name ∈ s.findings.map Finding.mixin ↔ _
        have hself : ¬ Reports g (s.first.insert parent id) name (id, parent) := by
          rw [reports_iff ((hinsert parent).trans (if_pos rfl))]
          simp
        have hsame : ∀ d ∈ done,
            (Reports g (s.first.insert parent id) name d ↔ Reports g s.first name d) := by
          intro d hd
          unfold Reports
          rw [hinsert, if_neg (hnew d hd)]
        rw [h.findings, hlast, or_iff_left hself]
        exact exists_congr fun d => and_congr_right fun hd => (hsame d hd).symm
  | some first =>
      dsimp only
      split
      · next hkept =>
        refine ⟨h.memo, h.first_append hfirst, ?_⟩
        intro name
        have hself : ¬ Reports g s.first name (id, parent) := by
          rw [reports_iff hfirst]
          exact fun hreport => hreport.1 hkept
        rw [h.findings, hlast, or_iff_left hself]
      · next hclash =>
        obtain ⟨hnames, hmemo⟩ := h.memo.query parent
        refine ⟨hmemo, h.first_append hfirst, ?_⟩
        intro name
        have hself : Reports g s.first name (id, parent) ↔ g.Hoists parent name := by
          rw [reports_iff hfirst]
          exact and_iff_right hclash
        dsimp only
        rw [hlast, hself, hnames, List.map_append, List.mem_append, h.findings,
          mem_mixins_of_shared]

theorem Records.visit (h : Records g done s) (id : String) :
    Records g (done ++ g.declarations id) (s.visit g id) := by
  unfold Survey.visit Graph.declarations
  cases g.find? id with
  | none => simpa using h
  | some i =>
      obtain ⟨hlineage, hmemo⟩ := h.memo.query id
      dsimp only
      rw [hlineage]
      have hstart : Records g done { s with memo := (s.memo.query g id).2 } :=
        ⟨hmemo, h.first, h.findings⟩
      generalize ({ s with memo := (s.memo.query g id).2 } : Survey) = start at hstart
      clear h hlineage hmemo
      induction i.secondaryParents generalizing done start with
      | nil => simpa using hstart
      | cons p rest ih =>
          have hrest := ih _ (hstart.declare id p.type)
          rw [List.append_assoc, List.singleton_append] at hrest
          exact hrest

theorem Records.foldl_visit (h : Records g done s) (ids : List String) :
    Records g (done ++ ids.flatMap g.declarations) (ids.foldl (Survey.visit g) s) := by
  induction ids generalizing done s with
  | nil => simpa using h
  | cons id rest ih =>
      have hrest := ih (h.visit id)
      rw [List.append_assoc] at hrest
      exact hrest

end Survey

/-! ### The pass without order and state -/

namespace Graph

variable {g : Graph} {ids : List String} {parent : TypeName} {id first : String}

/-- The declarations of the listed interfaces, in the order of the pass. -/
def allDeclarations (g : Graph) (ids : List String) : List (String × TypeName) :=
  (NameSet.ofNames ids).keys.flatMap g.declarations

theorem mem_allDeclarations_iff :
    (id, parent) ∈ g.allDeclarations ids ↔ g.Declares ids parent id := by
  unfold allDeclarations Declares
  simp only [List.mem_flatMap, NameSet.mem_keys_ofNames, mem_declarations_iff]
  constructor
  · rintro ⟨_, hid, rfl, hdeclares⟩
    exact ⟨hid, hdeclares⟩
  · rintro ⟨hid, hdeclares⟩
    exact ⟨id, hid, rfl, hdeclares⟩

theorem allDeclarations_ascending (g : Graph) (ids : List String) :
    (g.allDeclarations ids).Pairwise fun d e => d.1 ≤ e.1 := by
  unfold allDeclarations
  rw [List.pairwise_flatMap]
  constructor
  · intro id _
    refine List.pairwise_of_forall_mem_list ?_
    intro d hd e he
    rw [(mem_declarations_iff.mp hd).1, (mem_declarations_iff.mp he).1]
  · refine (NameSet.ofNames ids).keys_ascending.imp ?_
    intro a b hlt d hd e he
    rw [(mem_declarations_iff.mp hd).1, (mem_declarations_iff.mp he).1]
    exact (compare_lt_iff_lt.mp hlt).le

/-- The first declaration of a type in the pass is that of the least interface. -/
theorem find?_allDeclarations_iff :
    ((g.allDeclarations ids).find? (·.2 = parent)).map (·.1) = some first ↔
      g.DeclaresFirst ids parent first := by
  have hleast : ∀ d, (g.allDeclarations ids).find? (·.2 = parent) = some d →
      g.DeclaresFirst ids parent d.1 := by
    intro d hd
    have hparent : d.2 = parent := by simpa using List.find?_some hd
    refine ⟨mem_allDeclarations_iff.mp (hparent ▸ List.mem_of_find?_eq_some hd), ?_⟩
    intro id hid
    obtain ⟨_, before, behind, hsplit, hbefore⟩ := List.find?_eq_some_iff_append.mp hd
    have hmem := mem_allDeclarations_iff.mpr hid
    have hascending := g.allDeclarations_ascending ids
    rw [hsplit] at hmem hascending
    rcases List.mem_append.mp hmem with hmem | hmem
    · exact absurd (hbefore _ hmem) (by simp)
    · rcases List.mem_cons.mp hmem with rfl | hmem
      · exact le_rfl
      · exact List.rel_of_pairwise_cons (List.pairwise_append.mp hascending).2.1 hmem
  constructor
  · intro h
    obtain ⟨d, hd, rfl⟩ := Option.map_eq_some_iff.mp h
    exact hleast d hd
  · rintro ⟨hdeclares, hfirst⟩
    have hsome : ((g.allDeclarations ids).find? (·.2 = parent)).isSome := by
      rw [List.find?_isSome]
      exact ⟨_, mem_allDeclarations_iff.mpr hdeclares, by simp⟩
    obtain ⟨d, hd⟩ := Option.isSome_iff_exists.mp hsome
    obtain ⟨hd', hd''⟩ := hleast d hd
    rw [hd, Option.map_some, le_antisymm (hd'' first hdeclares) (hfirst d.1 hd')]

theorem mem_findings_iff {name : String} :
    name ∈ (g.findings ids).map Finding.mixin ↔
      ∃ parent first other, g.Conflict ids parent first other ∧ g.Hoists parent name := by
  have hrecords := (Survey.records_nil g).foldl_visit (NameSet.ofNames ids).keys
  rw [List.nil_append] at hrecords
  unfold findings
  rw [hrecords.findings]
  simp only [Survey.Reports, hrecords.first]
  constructor
  · rintro ⟨⟨other, parent⟩, hmem, first, hfirst, hclash, hname⟩
    rw [not_or, not_or] at hclash
    exact ⟨parent, first, other, ⟨find?_allDeclarations_iff.mp hfirst,
      mem_allDeclarations_iff.mp hmem, Ne.symm hclash.1, hclash.2⟩, hname⟩
  · rintro ⟨parent, first, other, ⟨hfirst, hother, hne, hclash⟩, hname⟩
    refine ⟨(other, parent), mem_allDeclarations_iff.mpr hother, first,
      find?_allDeclarations_iff.mpr hfirst, ?_, hname⟩
    rw [not_or, not_or]
    exact ⟨Ne.symm hne, hclash⟩

theorem contains_mixins {manual : List String} {name : String} :
    (g.mixins ids manual).contains name = true ↔
      name ∈ manual ∨
        ∃ parent first other, g.Conflict ids parent first other ∧ g.Hoists parent name := by
  unfold mixins
  rw [NameSet.contains_ofNames, List.mem_append, mem_findings_iff, or_comm]

/-- The mixins are those named by hand and, for every type on which there is a conflict, the type
and the interfaces of its lineage.  Hence neither the order of the list nor repetitions in it
matter. -/
theorem mixins_exact (g : Graph) (ids manual : List String) :
    (∀ name, (g.mixins ids manual).contains name = true ↔
      name ∈ manual ∨
        ∃ parent first other, g.Conflict ids parent first other ∧ g.Hoists parent name) ∧
      ∀ ids', (∀ id, id ∈ ids' ↔ id ∈ ids) → g.mixins ids' manual = g.mixins ids manual := by
  refine ⟨fun name => contains_mixins, ?_⟩
  intro ids' hids
  have hsame : NameSet.ofNames ids' = NameSet.ofNames ids := by
    apply NameSet.ext_contains
    intro name
    rw [NameSet.contains_ofNames, NameSet.contains_ofNames, hids]
  unfold mixins findings
  rw [hsame]

/-- Two interfaces of different lines share a parent, which has a parent of its own. -/
def capabilityGraph : Graph :=
  ((((Graph.empty.add { id := "Root" }).add
    { id := "Capability", parents := [{ type := "Root" }] }).add
    { id := "Left" }).add
    { id := "SliderLeft", parents := [{ type := "Left" }, { type := "Capability" }] }).add
    { id := "SliderRight", parents := [{ type := "Right" }, { type := "Capability" }] }

theorem mixins_exact_capability :
    (∃ parent first other, capabilityGraph.Conflict capabilityGraph.ids parent first other ∧
      capabilityGraph.Hoists parent "Root") ∧
    capabilityGraph.mixins ("SliderRight" :: capabilityGraph.ids.reverse) [] =
      capabilityGraph.mixins capabilityGraph.ids [] := by
  obtain ⟨hmixins, horder⟩ := mixins_exact capabilityGraph capabilityGraph.ids []
  constructor
  · exact ((hmixins "Root").mp (by decide +kernel)).resolve_left List.not_mem_nil
  · apply horder
    intro id
    have hlisted : "SliderRight" ∈ capabilityGraph.ids := by decide +kernel
    rw [List.mem_cons, List.mem_reverse]
    constructor
    · rintro (rfl | hid)
      · exact hlisted
      · exact hid
    · exact .inr

/-! ### Mixins that one line declares -/

/-- Two listed interfaces declare a type, and neither is in the lineage of the other. -/
def Contested (g : Graph) (ids : List String) (parent : TypeName) : Prop :=
  ∃ a b, g.Declares ids parent a ∧ g.Declares ids parent b ∧ a ≠ b ∧
    a ∉ g.lineage b ∧ b ∉ g.lineage a

/-- The first interface that declares a type has another one in its lineage, which inherits neither
the type nor from the first. -/
def Overtaken (g : Graph) (ids : List String) (parent : TypeName) (first other : String) : Prop :=
  g.DeclaresFirst ids parent first ∧ g.Declares ids parent other ∧ other ∈ g.lineage first ∧
    first ∉ g.lineage other ∧ parent ∉ g.lineage other

theorem Overtaken.conflict {other : String} (h : g.Overtaken ids parent first other) :
    g.Conflict ids parent first other := by
  obtain ⟨hfirst, hother, hmem, hclash⟩ := h
  refine ⟨hfirst, hother, ?_, hclash⟩
  rintro rfl
  exact hclash.1 hmem

theorem Conflict.contested_or_overtaken {other : String}
    (h : g.Conflict ids parent first other) :
    g.Contested ids parent ∨ g.Overtaken ids parent first other := by
  obtain ⟨hfirst, hother, hne, hclash⟩ := h
  by_cases hmem : other ∈ g.lineage first
  · exact .inr ⟨hfirst, hother, hmem, hclash⟩
  · exact .inl ⟨first, other, hfirst.1, hother, hne.symm, hclash.1, hmem⟩

/-- A mixin that is found is shared by two lines, itself or as part of the lineage of another type,
or else by an interface and one of its primary ancestors that comes later in the order of names;
and what is so shared is always a mixin.  If ancestors come before their descendants, then every
mixin is shared by two lines. -/
theorem mixin_contested_or_overtaken (g : Graph) (ids : List String) :
    (∀ name, (g.mixins ids []).contains name = true →
      (∃ parent, (name = parent ∨ name ∈ g.lineage parent) ∧ g.Contested ids parent) ∨
        ∃ parent first other, g.Overtaken ids parent first other ∧ g.Hoists parent name) ∧
      (∀ parent first other name, g.Overtaken ids parent first other → g.Hoists parent name →
        (g.mixins ids []).contains name = true) ∧
      ((∀ parent a b, g.Declares ids parent a → g.Declares ids parent b → b ∈ g.lineage a →
          b < a) →
        ∀ name, (g.mixins ids []).contains name = true →
          ∃ parent, (name = parent ∨ name ∈ g.lineage parent) ∧ g.Contested ids parent) := by
  have hreason : ∀ name, (g.mixins ids []).contains name = true →
      (∃ parent, (name = parent ∨ name ∈ g.lineage parent) ∧ g.Contested ids parent) ∨
        ∃ parent first other, g.Overtaken ids parent first other ∧ g.Hoists parent name := by
    intro name hmixin
    obtain ⟨parent, first, other, hconflict, hname⟩ :=
      (contains_mixins.mp hmixin).resolve_left List.not_mem_nil
    rcases hconflict.contested_or_overtaken with hcontested | hovertaken
    · exact .inl ⟨parent, hname.imp_right And.left, hcontested⟩
    · exact .inr ⟨parent, first, other, hovertaken, hname⟩
  refine ⟨hreason, ?_, ?_⟩
  · intro parent first other name hovertaken hname
    exact contains_mixins.mpr (.inr ⟨parent, first, other, hovertaken.conflict, hname⟩)
  · intro hsorted name hmixin
    refine (hreason name hmixin).resolve_right ?_
    rintro ⟨parent, first, other, ⟨hfirst, hother, hmem, _⟩, _⟩
    have hlt : other < first := hsorted parent first other hfirst.1 hother hmem
    exact absurd (hfirst.2 other hother) (not_le.mpr hlt)

theorem mixin_contested_or_overtaken_capability :
    ∃ parent, ("Root" = parent ∨ "Root" ∈ capabilityGraph.lineage parent) ∧
      capabilityGraph.Contested capabilityGraph.ids parent := by
  have hsorted : ∀ a ∈ capabilityGraph.ids, ∀ i ∈ capabilityGraph.find? a,
      i.secondaryParents ≠ [] → ∀ b ∈ capabilityGraph.lineage a, b < a := by
    decide +kernel
  refine (mixin_contested_or_overtaken capabilityGraph capabilityGraph.ids).2.2 ?_ "Root"
    (by decide +kernel)
  rintro parent a b ⟨ha, i, hi, hparent⟩ _ hmem
  exact hsorted a ha i hi (fun h => by simp [h] at hparent) b hmem

/-- An interface repeats a parent of its primary ancestor, whose name is greater. -/
def buttonGraph : Graph :=
  (((Graph.empty.add { id := "Node" }).add { id := "Traversal" }).add
    { id := "Element", parents := [{ type := "Node" }, { type := "Traversal" }] }).add
    { id := "Button", parents := [{ type := "Element" }, { type := "Traversal" }] }

/-- The parent is a mixin, although the two interfaces that declare it are of one line. -/
theorem uncontested_traversal_is_mixin :
    (buttonGraph.mixins buttonGraph.ids []).contains "Traversal" = true ∧
      ¬ ∃ parent, ("Traversal" = parent ∨ "Traversal" ∈ buttonGraph.lineage parent) ∧
        buttonGraph.Contested buttonGraph.ids parent := by
  refine ⟨by decide +kernel, ?_⟩
  have hrelated : ∀ a ∈ buttonGraph.ids, ∀ b ∈ buttonGraph.ids, a ≠ b →
      a ∉ buttonGraph.lineage b → b ∉ buttonGraph.lineage a →
      ∀ i ∈ buttonGraph.find? a, ∀ j ∈ buttonGraph.find? b,
        ∀ p ∈ i.secondaryParents.map (·.type), p ∉ j.secondaryParents.map (·.type) := by
    decide +kernel
  rintro ⟨parent, _, a, b, ⟨ha, i, hi, hpi⟩, ⟨hb, j, hj, hpj⟩, hne, hab, hba⟩
  exact hrelated a ha b hb hne hab hba i hi j hj parent hpi hpj

end Graph

end Bindery
