import CloudCanvas.Proofs.Compilation.Region

/-!
The region that each node of a plan carries, which an `other` node takes to the wire. Validation is
content with a configured node whose region stands in its field or among its details. The details
are laid over the label and the region of the plan node as they are; so a region among them is
carried whatever it is, and one in the field is carried only if there is none among the details.
A node that was never configured is not asked for a region and carries the empty text.
-/

namespace CloudCanvas

open Canvas (Graph)

namespace Validation

open Canvas (Node)

/-- Validation does not ask for a region of that node. -/
def AcceptsRegion (n : Node) : Prop :=
  ∀ i ∈ validateNode n, i.problem.code ≠ "REGION_REQUIRED"

instance : DecidablePred AcceptsRegion :=
  fun n =>
    inferInstanceAs (Decidable (∀ i ∈ validateNode n, i.problem.code ≠ "REGION_REQUIRED"))

theorem Problem.code_eq_regionRequired_iff (problem : Problem) :
    problem.code = "REGION_REQUIRED" ↔ problem = .noRegion := by
  cases problem <;> simp [code]

/-- No kind asks for a region of its own. -/
theorem noRegion_notMem_kindProblems (n : Node) (kind : ResourceKind) :
    .noRegion ∉ kindProblems n kind := by
  intro h
  cases isOfKind_of_mem_kindProblems h

theorem noRegion_mem_nodeProblems_iff (n : Node) :
    .noRegion ∈ nodeProblems n ↔ n.config ≠ none ∧ hasRegion n = false := by
  have hkind := noRegion_notMem_kindProblems n
  rw [mem_nodeProblems_iff]
  simp [hkind]

/-- A node that was never configured is told so, and is not asked for anything else. -/
theorem acceptsRegion_iff (n : Node) :
    AcceptsRegion n ↔ n.config = none ∨ ∃ s, n.LiesIn s := by
  have hproblems : AcceptsRegion n ↔ .noRegion ∉ nodeProblems n := by
    simp only [AcceptsRegion, validateNode, List.forall_mem_map, ne_eq,
      Problem.code_eq_regionRequired_iff]
    exact ⟨fun h hmem => h _ hmem rfl, fun h problem hmem heq => h (heq ▸ hmem)⟩
  rw [hproblems, noRegion_mem_nodeProblems_iff]
  by_cases hconfig : n.config = none
  · simp [hconfig]
  · rw [← Plan.hasRegion_iff hconfig]
    simp [hconfig]

end Validation

namespace Plan

open Validation (AcceptsRegion)

theorem get?_nodeProps_region {n : Canvas.Node} (h : n.HasDistinctDetails) :
    (nodeProps n).get? "region" = (n.details.get? "region").or (some (regionProp n)) := by
  rw [nodeProps, Table.get?_merge _ _ h]
  rfl

theorem details_of_unconfigured {n : Canvas.Node} (h : n.config = none) : n.details = [] := by
  rw [Canvas.Node.details, h]

/-- Without a region among the details the one in the field is carried, blanks and all. -/
theorem regionProp_of_get?_eq_none {n : Canvas.Node} (h : n.details.get? "region" = none) :
    regionProp n = .str ((n.config.map (·.region)).getD "") := by
  have hdetail : n.detail "region" = .null := by
    rw [Canvas.Node.detail, Document.getField, h, Option.getD_none]
  unfold regionProp
  rw [hdetail]
  dsimp only
  split_ifs with hregion hnull
  · rfl
  · cases hnull
  · rw [not_not.1 hregion]

/-- What the plan node carries as the region of a canvas node. Only among the details can the user
have entered something that is no region at all. -/
structure Node.CarriesRegion (planned : Node) (n : Canvas.Node) : Prop where
  unconfigured : n.config = none → planned.props.get? "region" = some (.str "")
  detailed : ∀ v, n.details.get? "region" = some v → planned.props.get? "region" = some v
  configured : ∀ config, n.config = some config → n.details.get? "region" = none →
    planned.props.get? "region" = some (.str config.region)
  full_iff : (∃ s, planned.props.get? "region" = some (.str s) ∧ Text.isBlankText s = false) ↔
    n.config ≠ none ∧ (n.details.get? "region" = none ∨ ∃ s, n.Enters "region" s)

section Shows

variable {planned : Node} {n : Canvas.Node} (hn : n.HasDistinctDetails) (hshows : planned.Shows n)
include hn hshows

theorem get?_region_of_detailed {v : Json} (hv : n.details.get? "region" = some v) :
    planned.props.get? "region" = some v := by
  rw [hshows.props, get?_nodeProps_region hn, hv, Option.some_or]

theorem get?_region_of_notDetailed (hnone : n.details.get? "region" = none) :
    planned.props.get? "region" = some (.str ((n.config.map (·.region)).getD "")) := by
  rw [hshows.props, get?_nodeProps_region hn, hnone, Option.none_or,
    regionProp_of_get?_eq_none hnone]

theorem get?_region_of_unconfigured (hconfig : n.config = none) :
    planned.props.get? "region" = some (.str "") := by
  have hnone : n.details.get? "region" = none := by
    rw [details_of_unconfigured hconfig]
    rfl
  rw [get?_region_of_notDetailed hn hshows hnone, hconfig]
  rfl

/-- What is carried is a text that is not blank unless the node was never configured, or has
something else in its place among its details. -/
theorem full_region_iff (haccepts : AcceptsRegion n) :
    (∃ s, planned.props.get? "region" = some (.str s) ∧ Text.isBlankText s = false) ↔
      n.config ≠ none ∧ (n.details.get? "region" = none ∨ ∃ s, n.Enters "region" s) := by
  constructor
  · rintro ⟨s, hs, hfull⟩
    constructor
    · intro hconfig
      cases hs.symm.trans (get?_region_of_unconfigured hn hshows hconfig)
      cases hfull
    · cases hdetail : n.details.get? "region" with
      | none => exact .inl rfl
      | some v =>
        have hv := get?_region_of_detailed hn hshows hdetail
        obtain rfl := Option.some.inj (hv.symm.trans hs)
        refine .inr ⟨s, ?_, hfull⟩
        rw [Canvas.Node.detail, Document.getField, hdetail, Option.getD_some]
  · rintro ⟨hconfig, hnone | ⟨s, hs⟩⟩
    · -- with nothing among the details, it is the field that validation was content with
      obtain ⟨region, hregion⟩ :=
        ((Validation.acceptsRegion_iff n).1 haccepts).resolve_left hconfig
      cases hregion with
      | configured hconfig hfull =>
        refine ⟨_, get?_region_of_notDetailed hn hshows hnone, ?_⟩
        rw [hconfig]
        exact hfull
      | detailed _ _ hs =>
        rw [hs.get?_details] at hnone
        cases hnone
    · exact ⟨s, get?_region_of_detailed hn hshows hs.get?_details, hs.2⟩

theorem carriesRegion_of_shows (haccepts : AcceptsRegion n) : planned.CarriesRegion n where
  unconfigured := get?_region_of_unconfigured hn hshows
  detailed _ := get?_region_of_detailed hn hshows
  configured config hconfig hnone := by
    rw [get?_region_of_notDetailed hn hshows hnone, hconfig]
    rfl
  full_iff := full_region_iff hn hshows haccepts

end Shows

end Plan

namespace Compilation

open Validation (AcceptsRegion nodeErrors)

/-- A region that validation is content with is a text that is not blank in the plan too, unless
the node was never configured or has something else in its place among its details. Under whatever
provider the plan is built, and also where it is not compiled any further, its nodes are the same;
and the `other` nodes of the payload carry the regions of the plan. -/
theorem carriesRegion_of_build (config : Configuration) (g : Graph) (provider : Json) (p : Provider)
    (project env : Option String) (hg : g.HasDistinctDetails)
    (hp : Provider.choose provider = .ok p) :
    ∃ plan payload, Plan.build g provider = .ok plan ∧
      Payload.build config plan provider project env = .ok payload ∧
      (∀ source made, Plan.build g source = .ok made → made.nodes = plan.nodes) ∧
      List.Forall₂ (fun n planned => AcceptsRegion n → planned.CarriesRegion n)
        g.nodes plan.nodes ∧
      List.Forall₂ (fun (planned : Plan.Node) (w : Payload.Node) =>
          w.kind = (ResourceKind.otherOf p).name →
            w.props.get? "region" = planned.props.get? "region")
        plan.nodes payload.nodes := by
  refine ⟨Plan.buildFor g p, Payload.buildFor config (Plan.buildFor g p) p project env,
    Plan.build_of_choose hp g, Payload.build_of_choose hp config _ project env, ?_, ?_, ?_⟩
  · intro source made hmade
    obtain ⟨region, rfl⟩ := Plan.exists_region_of_build hmade
    rfl
  · have hshows := (List.forall₂_and_left _ _).2 ⟨hg, Plan.shows_buildFor g p⟩
    exact hshows.imp fun n planned h haccepts => Plan.carriesRegion_of_shows h.1 h.2 haccepts
  · rw [Payload.buildFor, List.forall₂_map_right_iff, List.forall₂_same]
    intro planned _ hkind
    rw [(Payload.deploys_ofPlanNode _ p planned).passed hkind]

/-- A service that no provider models, with one region in its field and one among its details. -/
def overlaid (entered : Json) : Graph where
  nodes := [settled "a" "rds" [("region", entered)]]
  edges := []

theorem carriesRegion_of_build_overlaid :
    (overlaid (.str " eu-west-3")).HasDistinctDetails ∧ Provider.choose .null = .ok .aws ∧
      ∃ plan payload, Plan.build (overlaid (.str " eu-west-3")) .null = .ok plan ∧
        Payload.build .standard plan .null none none = .ok payload ∧
        ∃ planned w, plan.nodes = [planned] ∧ payload.nodes = [w] ∧
          planned.props.get? "region" = some (.str " eu-west-3") ∧
          w.props.get? "region" = some (.str " eu-west-3") := by
  have hg : (overlaid (.str " eu-west-3")).HasDistinctDetails := by decide
  have hp : Provider.choose .null = .ok .aws := rfl
  obtain ⟨plan, payload, hplan, hpayload, -, hregions, hcarried⟩ :=
    carriesRegion_of_build .standard _ .null .aws none none hg hp
  refine ⟨hg, hp, plan, payload, hplan, hpayload, ?_⟩
  obtain ⟨planned, rest, hregion, hrest, hnodes⟩ := List.forall₂_cons_left_iff.1 hregions
  rw [List.forall₂_nil_left_iff.1 hrest] at hnodes
  rw [hnodes] at hcarried
  obtain ⟨w, last, hw, hlast, hwire⟩ := List.forall₂_cons_left_iff.1 hcarried
  rw [List.forall₂_nil_left_iff.1 hlast] at hwire
  have hkind : w.kind = "aws.other" := by
    have hmade : payload = Payload.buildFor .standard
        (Plan.buildFor (overlaid (.str " eu-west-3")) .aws) .aws none none := by
      cases hplan
      exact Except.ok.inj hpayload.symm
    have hkinds : payload.nodes.map (·.kind) = ["aws.other"] := by
      rw [hmade]
      decide
    rw [hwire] at hkinds
    exact List.head_eq_of_cons_eq hkinds
  have hentered : planned.props.get? "region" = some (.str " eu-west-3") :=
    (hregion (by decide)).detailed _ rfl
  exact ⟨planned, w, hnodes, hwire, hentered, (hw hkind).trans hentered⟩

/-- A null among the details takes the place of the region in the field, and a node that was never
configured has none at all; validation asks for a region of neither. -/
theorem region_lost :
    (∃ plan planned, Plan.build (overlaid .null) .null = .ok plan ∧ plan.nodes = [planned] ∧
      (∀ n ∈ (overlaid .null).nodes, nodeErrors n = [] ∧ AcceptsRegion n) ∧
      planned.props.get? "region" = some .null) ∧
    ∃ n plan planned, wandering.nodes.head? = some n ∧ AcceptsRegion n ∧
      Plan.build wandering .null = .ok plan ∧ plan.nodes.head? = some planned ∧
      planned.props.get? "region" = some (.str "") :=
  ⟨⟨_, _, Plan.build_of_choose (p := .aws) rfl _, rfl, by decide, by decide⟩,
    _, _, _, rfl, by decide, Plan.build_of_choose (p := .aws) rfl _, rfl, by decide⟩

end Compilation

end CloudCanvas
