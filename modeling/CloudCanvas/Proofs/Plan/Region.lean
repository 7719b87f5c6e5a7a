import CloudCanvas.Proofs.Plan.Build
import CloudCanvas.Proofs.Text.Blank
import CloudCanvas.Proofs.Validation.Accepted

/-!
The region of a plan. A node has a region of its own when it is configured and a text that is not
blank stands in the field for it, or else among its details. The region of a plan is that of the
first node that has one, and only when there is no such node the default of the provider. Hence it
never has blanks around it, and never is empty.
-/

namespace CloudCanvas

namespace Canvas.Node

/-- The region of the node's own: what stands in its field, before what stands in its details. -/
inductive LiesIn (n : Node) : String → Prop
  | configured {config : ServiceConfig} (hconfig : n.config = some config)
      (hregion : Text.isBlankText config.region = false) : LiesIn n (Text.strip config.region)
  | detailed {config : ServiceConfig} {s : String} (hconfig : n.config = some config)
      (hblank : Text.isBlankText config.region = true) (hs : n.Enters "region" s) :
      LiesIn n (Text.strip s)

end Canvas.Node

theorem Provider.isTrim_defaultRegion (p : Provider) : Text.IsTrim p.defaultRegion := by
  cases p with
  | aws => exact ⟨by decide, by decide⟩
  | gcp => exact ⟨by decide, by decide⟩

namespace Plan

open Canvas (Graph)

theorem isTrim_of_liesIn {n : Canvas.Node} {s : String} (h : n.LiesIn s) : Text.IsTrim s := by
  cases h with
  | configured _ hregion => exact Text.isTrim_strip hregion
  | detailed _ _ hs => exact Text.isTrim_strip hs.2

section OwnRegion

variable {n : Canvas.Node} {config : Canvas.ServiceConfig} (hconfig : n.config = some config)
include hconfig

theorem ownRegion_of_configured (hregion : Text.isBlankText config.region = false) :
    ownRegion n = Text.strip config.region := by
  simp only [ownRegion, hconfig]
  exact if_pos (Text.strip_ne_empty_iff.2 hregion)

theorem ownRegion_of_blank (hblank : Text.isBlankText config.region = true) :
    ownRegion n = (n.detail "region").strippedText := by
  simp only [ownRegion, hconfig, (Text.isBlankText_iff_strip_eq _).1 hblank]
  exact if_neg (not_not.2 rfl)

end OwnRegion

theorem liesIn_iff (n : Canvas.Node) (s : String) : n.LiesIn s ↔ ownRegion n = s ∧ s ≠ "" := by
  constructor
  · intro h
    refine ⟨?_, (isTrim_of_liesIn h).ne_empty⟩
    cases h with
    | configured hconfig hregion => exact ownRegion_of_configured hconfig hregion
    | detailed hconfig hblank hs =>
      rw [ownRegion_of_blank hconfig hblank, hs.1]
      rfl
  · rintro ⟨rfl, hne⟩
    cases hconfig : n.config with
    | none => simp [ownRegion, hconfig] at hne
    | some config =>
      cases hregion : Text.isBlankText config.region with
      | false =>
        rw [ownRegion_of_configured hconfig hregion]
        exact .configured hconfig hregion
      | true =>
        have hown := ownRegion_of_blank hconfig hregion
        obtain ⟨s, hs⟩ := (n.strippedText_detail_ne_empty_iff "region").1 (hown ▸ hne)
        have hstripped : ownRegion n = Text.strip s := by
          rw [hown, hs.1]
          rfl
        rw [hstripped]
        exact .detailed hconfig hregion hs

theorem liesIn_ownRegion_iff (n : Canvas.Node) :
    (∃ s, n.LiesIn s) ↔ ownRegion n ≠ "" := by
  simp [liesIn_iff]

/-- Validation asks of a configured node just that it has a region of its own. -/
theorem hasRegion_iff {n : Canvas.Node} (h : n.config ≠ none) :
    Validation.hasRegion n = true ↔ ∃ s, n.LiesIn s := by
  obtain ⟨config, hconfig⟩ := Option.ne_none_iff_exists'.1 h
  rw [liesIn_ownRegion_iff, Validation.hasRegion, ownRegion, hconfig]
  by_cases hregion : Text.strip config.region = "" <;> simp [hregion]

theorem exists_liesIn_of_nodeErrors {n : Canvas.Node} (h : Validation.nodeErrors n = []) :
    ∃ s, n.LiesIn s := by
  obtain ⟨hconfig, hregion, -⟩ := (Validation.nodeErrors_eq_nil_iff n).1 h
  exact (hasRegion_iff hconfig).1 hregion

theorem firstRegion?_eq_none_iff (nodes : List Canvas.Node) :
    firstRegion? nodes = none ↔ ∀ n ∈ nodes, ¬ ∃ s, n.LiesIn s := by
  simp [firstRegion?, liesIn_iff]

/-- A region comes from the first node that has one; the nodes before it have none. -/
theorem firstRegion?_eq_some_iff (nodes : List Canvas.Node) (region : String) :
    firstRegion? nodes = some region ↔ ∃ before n after, nodes = before ++ n :: after ∧
      (∀ m ∈ before, ¬ ∃ s, m.LiesIn s) ∧ n.LiesIn region := by
  simp only [firstRegion?, Option.map_eq_some_iff, List.find?_eq_some_iff_append, liesIn_iff]
  constructor
  · rintro ⟨n, ⟨hn, before, after, rfl, hbefore⟩, rfl⟩
    refine ⟨before, n, after, rfl, ?_, rfl, by simpa using hn⟩
    rintro m hm ⟨s, rfl, hs⟩
    simpa [hs] using hbefore m hm
  · rintro ⟨before, n, after, rfl, hbefore, rfl, hn⟩
    refine ⟨n, ⟨by simpa using hn, before, after, rfl, fun m hm => ?_⟩, rfl⟩
    by_contra hregion
    exact hbefore m hm ⟨_, rfl, by simpa using hregion⟩

theorem isTrim_of_firstRegion? {nodes : List Canvas.Node} {region : String}
    (h : firstRegion? nodes = some region) : Text.IsTrim region := by
  obtain ⟨-, n, -, -, -, hregion⟩ := (firstRegion?_eq_some_iff nodes region).1 h
  exact isTrim_of_liesIn hregion

theorem region_buildFor (g : Graph) (p : Provider) :
    (buildFor g p).region = (firstRegion? g.nodes).getD p.defaultRegion := rfl

theorem isTrim_region_buildFor (g : Graph) (p : Provider) : Text.IsTrim (buildFor g p).region := by
  rw [region_buildFor]
  cases hregion : firstRegion? g.nodes with
  | none => exact p.isTrim_defaultRegion
  | some region => exact isTrim_of_firstRegion? hregion

theorem region_buildFor_of_first {g : Graph} {before after : List Canvas.Node} {n : Canvas.Node}
    {region : String} (hg : g.nodes = before ++ n :: after)
    (hbefore : ∀ m ∈ before, ¬ ∃ s, m.LiesIn s) (hn : n.LiesIn region) (p : Provider) :
    (buildFor g p).region = region := by
  have hfirst : firstRegion? g.nodes = some region :=
    (firstRegion?_eq_some_iff g.nodes region).2 ⟨before, n, after, hg, hbefore, hn⟩
  rw [region_buildFor, hfirst, Option.getD_some]

theorem region_buildFor_of_none {g : Graph} (h : ∀ n ∈ g.nodes, ¬ ∃ s, n.LiesIn s)
    (p : Provider) : (buildFor g p).region = p.defaultRegion := by
  rw [region_buildFor, (firstRegion?_eq_none_iff g.nodes).2 h, Option.getD_none]

/-- The plan is made in that region whatever is given as the provider, even an unknown one: no
default is ever looked up. -/
def SettlesRegion (g : Graph) (region : String) : Prop :=
  ∀ provider, ∃ plan, build g provider = .ok plan ∧ plan.region = region

theorem settlesRegion_of_firstRegion? {g : Graph} {region : String}
    (h : firstRegion? g.nodes = some region) : SettlesRegion g region := by
  intro provider
  refine ⟨(buildIn region g 0).1, ?_, rfl⟩
  rw [build, buildFrom, resolveRegion, h]
  rfl

/-- Under an unknown provider only a region of the graph's own gives a plan. -/
theorem settlesRegion_iff (g : Graph) (region : String) :
    SettlesRegion g region ↔ firstRegion? g.nodes = some region := by
  constructor
  · intro h
    have hunknown : Provider.choose (.str "unknown") = .error (.unknownProvider "unknown") := rfl
    obtain ⟨plan, hplan, rfl⟩ := h (.str "unknown")
    rw [build, buildFrom, resolveRegion] at hplan
    cases hfirst : firstRegion? g.nodes with
    | none =>
      rw [hfirst, hunknown] at hplan
      cases hplan
    | some region =>
      rw [hfirst] at hplan
      cases hplan
      rfl
  · exact settlesRegion_of_firstRegion?

/-- The region of a plan is the graph's own just when some node has one. -/
theorem settlesRegion_buildFor_iff (g : Graph) (p : Provider) :
    SettlesRegion g (buildFor g p).region ↔ ∃ n ∈ g.nodes, ∃ s, n.LiesIn s := by
  have hnone : firstRegion? g.nodes ≠ none ↔ ∃ n ∈ g.nodes, ∃ s, n.LiesIn s := by
    rw [ne_eq, firstRegion?_eq_none_iff]
    push Not
    rfl
  rw [settlesRegion_iff, ← hnone, region_buildFor]
  cases firstRegion? g.nodes <;> simp

end Plan

end CloudCanvas
