import Bindery.Proofs.Emission

/-! # Overlay classes along a line

The overlay class of an interface inherits from those of its primary ancestors and of the mixin base
(`Setting.line`).  Two statements say what this line offers as a whole.  A feature is on it exactly
if some class of the line introduces it or takes it over (`overlay_line_keeps_iff`); nothing is lost
where the line ends and all that carries a mark offers the feature.  A feature is on a class and
again on one that it inherits from exactly if one of the two takes it over, or if both introduce it
as a method, by operations of different signatures (`overlay_line_repeats_iff`). -/

namespace Bindery

/-- The interfaces whose overlay classes the one of an interface inherits from, with its own. -/
def Setting.line (s : Setting) (i : Interface) : List Interface :=
  i :: s.graph.primaryAncestors i ++ (s.graph.find? s.config.mixinBase).toList

/-- Both interfaces introduce a method, by operations of different signatures. -/
def Setting.BothIntroduce (s : Setting) (i a : Interface) (f : Feature) : Prop :=
  s.Introduces i f ∧ s.Introduces a f ∧ ∃ name types isStatic o p,
    f = .method name types isStatic ∧ i.provider? name types = some o ∧
      a.provider? name types = some p ∧ o.signature ≠ p.signature

/-- How a feature comes to be on the overlay class of an interface and again on one that it inherits
from: one of them takes it over from a secondary ancestor, or both introduce it. -/
def Setting.Repeats (s : Setting) (i a : Interface) (f : Feature) : Prop :=
  (s.Flattens i f ∧ (s.Introduces a f ∨ s.Flattens a f)) ∨
    (s.Introduces i f ∧ s.Flattens a f) ∨ s.BothIntroduce i a f

namespace Setting

variable {s : Setting} {i a : Interface} {f : Feature}

theorem find?_of_mem_line (hs : s.graph.Keyed) (hi : s.graph.find? i.id = some i)
    (ha : a ∈ s.line i) : s.graph.find? a.id = some a := by
  unfold line at ha
  rcases List.mem_append.mp ha with ha | ha
  · rcases List.mem_cons.mp ha with rfl | ha
    · exact hi
    · exact Graph.find?_of_mem_primaryAncestors hs ha
  · have hbase := Option.mem_toList.mp ha
    rw [hs _ a hbase]
    exact hbase

/-- Accessors that both introduce would carry the same mark. -/
theorem bothIntroduce_of_introduces (ha : a ∈ s.graph.inheritedFrom s.config.mixinBase i)
    (h : s.Introduces i f) (h' : s.Introduces a f) : s.BothIntroduce i a f := by
  obtain ⟨mark, hoffers, hnone⟩ := h
  obtain ⟨mark', hoffers', hnone'⟩ := h'
  have hne : mark ≠ mark' := by
    rintro rfl
    exact hnone a ha (Interface.carries_of_offers hoffers')
  refine ⟨⟨mark, hoffers, hnone⟩, ⟨mark', hoffers', hnone'⟩, ?_⟩
  cases f with
  | accessor half name =>
      obtain ⟨rfl, _⟩ := hoffers
      obtain ⟨rfl, _⟩ := hoffers'
      exact absurd rfl hne
  | method name types isStatic =>
      obtain ⟨o, ho, rfl, _⟩ := hoffers
      obtain ⟨p, hp, rfl, _⟩ := hoffers'
      exact ⟨name, types, isStatic, o, p, rfl, ho, hp, fun hsame => hne (by rw [hsame])⟩

theorem introduces_of_base (hs : s.graph.Keyed) (hb : s.graph.find? s.config.mixinBase = some a)
    (hparents : s.graph.primaryAncestors a = []) {mark : Mark} (hoffers : a.Offers f mark) :
    s.Introduces a f := by
  refine ⟨mark, hoffers, ?_⟩
  intro x hx
  rcases Graph.mem_inheritedFrom_iff.mp hx with hx | ⟨_, _, hne, _⟩
  · rw [hparents] at hx
    cases hx
  · exact absurd (hs _ a hb) hne

end Setting

variable {c : Config} {auxiliary : NameSet} {stations : List Station} {g : Graph} {report : Report}
  {gen : Generation}

/-! ### Features that are repeated -/

/-- A feature is emitted on the overlay class of an interface and on one that it inherits from
exactly if one of the two takes it over from a secondary ancestor, or both introduce it as a method
by operations of different signatures. -/
theorem overlay_line_repeats_iff (hg : g.Keyed) (hgen : generate c auxiliary stations g = gen)
    (h : gen.outcome = .ok report) (hb : ∃ st ∈ stations, st.backend = .overlay) {i a : Interface}
    (hi : gen.setting.graph.find? i.id = some i)
    (hgenerated : i.id ∈ report.interfaces) (hne : i.id ≠ c.mixinBase)
    (ha : a ∈ gen.setting.graph.primaryAncestors i ∨
      gen.setting.graph.find? c.mixinBase = some a) (f : Feature) :
    gen.Emits .overlay i.id f ∧ gen.Emits .overlay a.id f ↔
      a.id ∈ report.interfaces ∧ gen.setting.Repeats i a f := by
  obtain ⟨hkeyed, hconfig⟩ := Generation.keyed_setting hg hgen h
  have hfind : gen.setting.graph.find? a.id = some a := by
    rcases ha with ha | ha
    · exact Graph.find?_of_mem_primaryAncestors hkeyed ha
    · rw [hkeyed _ a ha]
      exact ha
  have hinherited : a ∈ gen.setting.graph.inheritedFrom
      gen.setting.config.mixinBase i := by
    rw [Graph.mem_inheritedFrom_iff, hconfig]
    rcases ha with ha | ha
    · exact .inl ha
    · exact .inr ⟨a, ha, hne, List.mem_cons_self⟩
  rw [Generation.emits_overlay_iff hg hgen h hb hi, Generation.emits_overlay_iff hg hgen h hb hfind,
    and_iff_right hgenerated]
  constructor
  · rintro ⟨hintroduces | hflattens, hgenerated', hintroduces' | hflattens'⟩
    · exact ⟨hgenerated', .inr (.inr
        (Setting.bothIntroduce_of_introduces hinherited hintroduces hintroduces'))⟩
    · exact ⟨hgenerated', .inr (.inl ⟨hintroduces, hflattens'⟩)⟩
    · exact ⟨hgenerated', .inl ⟨hflattens, .inl hintroduces'⟩⟩
    · exact ⟨hgenerated', .inl ⟨hflattens, .inr hflattens'⟩⟩
  · rintro ⟨hgenerated', ⟨hflattens, hother⟩ | ⟨hintroduces, hflattens⟩ | hboth⟩
    · exact ⟨.inr hflattens, hgenerated', hother⟩
    · exact ⟨.inl hintroduces, hgenerated', .inr hflattens⟩
    · exact ⟨.inl hboth.1, hgenerated', .inl hboth.2.1⟩

/-- A class with a secondary parent. -/
def traversalElement : Interface :=
  { id := "Element", parents := [{ type := "Node" }, { type := "Traversal" }] }

/-- A subclass with the same secondary parent. -/
def traversalHtmlElement : Interface :=
  { id := "HtmlElement", parents := [{ type := "Element" }, { type := "Traversal" }] }

def traversalRun : Generation :=
  defaultRun .overlay [{ id := "Node" },
    { id := "Traversal", attributes := [{ id := "child", type := "Node" }] },
    traversalElement, traversalHtmlElement]

theorem traversalRun_outcome :
    traversalRun.outcome =
        .ok (plainReport ["ElementalMixinBase", "Node", "Traversal", "Element", "HtmlElement"]) ∧
      traversalRun.setting.graph.find? traversalHtmlElement.id = some traversalHtmlElement ∧
      traversalElement ∈ traversalRun.setting.graph.primaryAncestors traversalHtmlElement ∧
      traversalRun.Emits .overlay "HtmlElement" (.accessor .getter "child") ∧
      traversalRun.Emits .overlay "Element" (.accessor .getter "child") := by
  decide +kernel

theorem overlay_line_repeats_iff_traversal :
    "Element" ∈ (plainReport
        ["ElementalMixinBase", "Node", "Traversal", "Element", "HtmlElement"]).interfaces ∧
      traversalRun.setting.Repeats traversalHtmlElement traversalElement
        (.accessor .getter "child") := by
  obtain ⟨houtcome, hfind, hancestor, hrepeated⟩ := traversalRun_outcome
  exact (overlay_line_repeats_iff (Graph.keyed_of_entries (by decide +kernel)) rfl houtcome
    ⟨_, List.mem_cons_self, rfl⟩ hfind (by decide) (by decide) (.inl hancestor)
    (.accessor .getter "child")).mp hrepeated

/-- The getter of a secondary parent that a class and its subclass declare is on both overlay
classes, though the methods of overlay classes are final. -/
theorem overlay_repeats_traversal_child :
    traversalRun.outcome =
        .ok (plainReport ["ElementalMixinBase", "Node", "Traversal", "Element", "HtmlElement"]) ∧
      traversalElement ∈ traversalRun.setting.graph.primaryAncestors traversalHtmlElement ∧
      traversalRun.Emits .overlay traversalHtmlElement.id (.accessor .getter "child") ∧
      traversalRun.Emits .overlay traversalElement.id (.accessor .getter "child") :=
  ⟨traversalRun_outcome.1, traversalRun_outcome.2.2⟩

/-! ### Features that are lost -/

/-- A feature is emitted on the line of an interface exactly if some interface of the line is
generated and introduces the feature or takes it over.  It is there in any case if the line ends,
the mixin base has no ancestors, and every interface of the line that carries the mark under which
the feature is offered is generated and offers it too. -/
theorem overlay_line_keeps_iff (hg : g.Keyed) (hgen : generate c auxiliary stations g = gen)
    (h : gen.outcome = .ok report) (hb : ∃ st ∈ stations, st.backend = .overlay) {i : Interface}
    (hi : gen.setting.graph.find? i.id = some i) (f : Feature) :
    ((∃ a ∈ gen.setting.line i, gen.Emits .overlay a.id f) ↔
        ∃ a ∈ gen.setting.line i, a.id ∈ report.interfaces ∧
          (gen.setting.Introduces a f ∨ gen.setting.Flattens a f)) ∧
      ∀ mark, i.Offers f mark → gen.setting.graph.Grounded i →
        (∀ b, gen.setting.graph.find? c.mixinBase = some b →
          gen.setting.graph.primaryAncestors b = []) →
        (∀ a ∈ gen.setting.line i, a.Carries mark →
          a.Offers f mark ∧ a.id ∈ report.interfaces) →
        ∃ a ∈ gen.setting.line i, gen.Emits .overlay a.id f := by
  obtain ⟨hkeyed, hconfig⟩ := Generation.keyed_setting hg hgen h
  have hiff : (∃ a ∈ gen.setting.line i, gen.Emits .overlay a.id f) ↔
      ∃ a ∈ gen.setting.line i, a.id ∈ report.interfaces ∧
        (gen.setting.Introduces a f ∨ gen.setting.Flattens a f) := by
    refine exists_congr fun a => and_congr_right fun ha => ?_
    exact Generation.emits_overlay_iff hg hgen h hb (Setting.find?_of_mem_line hkeyed hi ha)
  refine ⟨hiff, fun mark hoffers hgrounded hparents hagree => hiff.mpr ?_⟩
  rw [← hconfig] at hparents
  by_cases hbase : ∃ b, gen.setting.graph.find? gen.setting.config.mixinBase = some b ∧
      b.Carries mark
  · obtain ⟨b, hb, hcarries⟩ := hbase
    have hline : b ∈ gen.setting.line i := List.mem_append_right _ (Option.mem_toList.mpr hb)
    obtain ⟨hboffers, hgenerated⟩ := hagree b hline hcarries
    exact ⟨b, hline, hgenerated,
      .inl (Setting.introduces_of_base hkeyed hb (hparents b hb) hboffers)⟩
  · have hline : ∀ a ∈ i :: gen.setting.graph.primaryAncestors i, a ∈ gen.setting.line i :=
      fun a ha => List.mem_append_left _ ha
    obtain ⟨a, ha, hcarries, hintroduces⟩ := Setting.exists_introduces hgrounded hoffers
      (fun a ha hcarries => (hagree a (hline a (List.mem_cons_of_mem _ ha)) hcarries).1)
      (fun b hb a ha hcarries => by
        rw [hparents b hb, List.mem_singleton] at ha
        exact hbase ⟨b, hb, ha ▸ hcarries⟩)
    exact ⟨a, hline a ha, (hagree a (hline a ha) hcarries).2, .inl hintroduces⟩

/-- A class whose status scripts may replace. -/
def statusWidget : Interface :=
  { id := "Widget"
    attributes := [{ id := "status", type := "DOMString", isSetter := true, replaceable := true }] }

/-- A subclass whose status can be set. -/
def statusButton : Interface :=
  { id := "Button", parents := [{ type := "Widget" }]
    attributes := [{ id := "status", type := "DOMString", isSetter := true }] }

def statusRun : Generation :=
  defaultRun .overlay [statusWidget, statusButton]

theorem statusRun_outcome :
    statusRun.outcome = .ok (plainReport ["ElementalMixinBase", "Widget", "Button"]) ∧
      statusRun.setting.graph.find? statusButton.id = some statusButton ∧
      statusRun.setting.graph.Grounded statusButton ∧
      (∀ b ∈ statusRun.setting.graph.find? "ElementalMixinBase",
        statusRun.setting.graph.primaryAncestors b = []) ∧
      (∀ a ∈ statusRun.setting.line statusButton, a.Carries (.accessor .getter "status") →
        a.Offers (.accessor .getter "status") (.accessor .getter "status") ∧
          a.id ∈ (plainReport ["ElementalMixinBase", "Widget", "Button"]).interfaces) ∧
      ¬ ∃ a ∈ statusRun.setting.line statusButton,
        statusRun.Emits .overlay a.id (.accessor .setter "status") := by
  decide +kernel

theorem overlay_line_keeps_iff_status :
    ∃ a ∈ statusRun.setting.line statusButton,
      statusRun.Emits .overlay a.id (.accessor .getter "status") := by
  obtain ⟨houtcome, hfind, hgrounded, hparents, hagree, _⟩ := statusRun_outcome
  exact (overlay_line_keeps_iff (Graph.keyed_of_entries (by decide +kernel)) rfl houtcome
    ⟨_, List.mem_cons_self, rfl⟩ hfind (.accessor .getter "status")).2
    (.accessor .getter "status") (by decide) hgrounded hparents hagree

/-- A setter is on no class of its line if an ancestor declares a replaceable setter of the name:
the ancestor carries its mark and does not offer it. -/
theorem overlay_loses_status_setter :
    statusRun.outcome = .ok (plainReport ["ElementalMixinBase", "Widget", "Button"]) ∧
      statusButton.Declares (.accessor .setter "status") ∧
      ¬ ∃ a ∈ statusRun.setting.line statusButton,
        statusRun.Emits .overlay a.id (.accessor .setter "status") :=
  ⟨statusRun_outcome.1, by decide, statusRun_outcome.2.2.2.2.2⟩

end Bindery
