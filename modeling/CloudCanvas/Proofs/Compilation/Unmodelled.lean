import CloudCanvas.Proofs.Compilation.Gate

/-!
Nodes that no provider models. Validation looks at the provider that owns a visual type and
compilation at the one it compiles for, yet they agree: a configured node is warned about exactly
when every provider deploys it as its own `other` kind, and these are the nodes that every provider
deploys with the properties of the plan. A warned node has no errors but that of its region, and
warnings, however many, decide nothing.
-/

namespace CloudCanvas

open Canvas (Graph)

theorem ResourceKind.name_otherOf (p : Provider) : (otherOf p).name = p.name ++ ".other" := by
  cases p <;> decide

namespace PlanType

/-- A native kind has settings of its own, and an `other` kind has none. -/
theorem native?_ne_otherOf (t : PlanType) (p : Provider) : t.native? ≠ some (.otherOf p) := by
  intro h
  obtain ⟨schema, hschema⟩ := Settings.exists_schema h
  cases p <;> cases hschema

/-- Every native kind is offered by some provider, so a plan type that is foreign to all of them
has none. -/
theorem kindFor_eq_otherOf_iff (t : PlanType) :
    (∀ p, t.kindFor p = .otherOf p) ↔ t.native? = none := by
  constructor
  · intro h
    refine Option.eq_none_iff_forall_ne_some.2 fun k hk => ?_
    have hother : k = .otherOf k.provider := (kindFor_of_native? hk).symm.trans (h k.provider)
    rw [hother] at hk
    exact t.native?_ne_otherOf _ hk
  · intro h p
    refine kindFor_of_foreign fun k hk => ?_
    rw [h] at hk
    cases hk

end PlanType

namespace Payload

/-- The label that a plan puts beside the details is never among the settings of a native kind. -/
theorem label_notMem_settingsOf {t : PlanType} {kind : ResourceKind} (h : t.native? = some kind)
    (details : Table Json) (leaves : Bool) :
    "label" ∉ (settingsOf kind details leaves).keys := by
  have hsettings : "label" ∉ (Settings.normalize (.kind kind) (.obj details)).keys := by
    intro hmem
    obtain ⟨schema, hschema⟩ := Settings.exists_schema h
    obtain ⟨entry, hentry, hlabel⟩ := List.mem_map.1 hmem
    rw [Settings.normalize_eq_apply rfl hschema] at hentry
    obtain ⟨field, hfield, hname, -⟩ := Settings.mem_apply_iff.1 hentry
    have hsource : "label" ∈ field.sources := hlabel ▸ hname ▸ List.mem_cons_self
    exact (Settings.notMem_sources hschema field hfield).1 hsource
  unfold settingsOf
  dsimp only
  split
  · simpa [Table.keys] using hsettings
  · exact hsettings

theorem others_iff (plan : Provider → Plan) (n : Plan.Node) :
    (∀ p, (ofPlanNode (plan p) p n).kind = p.name ++ ".other") ↔ n.type.native? = none := by
  rw [← PlanType.kindFor_eq_otherOf_iff]
  refine forall_congr' fun p => ?_
  rw [← ResourceKind.name_otherOf]
  exact ⟨fun h => ResourceKind.name_injective h, fun h => congrArg ResourceKind.name h⟩

/-- Only where no provider has a kind for a node do all of them pass its properties on. -/
theorem passed_iff (plan : Provider → Plan) {n : Plan.Node} (hn : "label" ∈ n.props.keys) :
    (∀ p, (ofPlanNode (plan p) p n).props = n.props) ↔ n.type.native? = none := by
  constructor
  · intro h
    refine Option.eq_none_iff_forall_ne_some.2 fun k hk => ?_
    rw [← h k.provider, props_ofPlanNode, PlanType.kindFor_of_native? hk] at hn
    exact label_notMem_settingsOf hk _ _ hn
  · intro h p
    refine (deploys_ofPlanNode (plan p) p n).passed ?_
    exact congrArg ResourceKind.name ((n.type.kindFor_eq_otherOf_iff).2 h p)

theorem label_mem_keys_nodeProps (n : Canvas.Node) : "label" ∈ (Plan.nodeProps n).keys := by
  rw [Plan.nodeProps, Table.mem_keys_merge]
  exact .inl List.mem_cons_self

end Payload

namespace Validation

open Canvas (Node)

/-- Validation warns that no provider models the node. -/
def Warns (n : Node) : Prop :=
  ∃ i ∈ validateNode n, i.severity = .warning ∧ i.problem.code = "UNMODELLED_KIND"

instance : DecidablePred Warns :=
  fun n => inferInstanceAs (Decidable (∃ i ∈ validateNode n, _))

theorem warns_iff_problem (n : Node) :
    Warns n ↔ ∃ visualType, .unmodelled visualType ∈ nodeProblems n := by
  constructor
  · rintro ⟨i, hi, hwarning, -⟩
    obtain ⟨problem, hproblem, rfl⟩ := List.mem_map.1 hi
    cases problem with
    | unmodelled visualType => exact ⟨visualType, hproblem⟩
    | _ => cases hwarning
  · rintro ⟨visualType, hproblem⟩
    exact ⟨_, List.mem_map_of_mem hproblem, rfl, rfl⟩

/-- A kind never warns, so a warning tells that there is none. -/
theorem warns_iff (n : Node) :
    Warns n ↔ n.config ≠ none ∧ VisualType.native? n.visualType = none := by
  rw [warns_iff_problem]
  constructor
  · rintro ⟨visualType, hproblem⟩
    rcases mem_nodeProblems_iff.1 hproblem with
      ⟨-, hunconfigured⟩ | ⟨hconfig, ⟨-, hregion⟩ | ⟨hnative, -⟩ | ⟨kind, -, hproblem⟩⟩
    · cases hunconfigured
    · cases hregion
    · exact ⟨hconfig, hnative⟩
    · cases (isOfKind_of_mem_kindProblems hproblem).severity_eq
  · rintro ⟨hconfig, hnative⟩
    exact ⟨n.visualType, mem_nodeProblems_iff.2 (.inr ⟨hconfig, .inr (.inl ⟨hnative, rfl⟩)⟩)⟩

/-- What is in the way of a node that is warned about has nothing to do with its kind. -/
theorem eq_noRegion_of_warns {n : Node} (h : Warns n) {i : Issue} (hi : i ∈ validateNode n)
    (herror : i.severity = .error) : i.problem = .noRegion := by
  obtain ⟨hconfig, hnative⟩ := (warns_iff n).1 h
  obtain ⟨problem, hproblem, rfl⟩ := List.mem_map.1 hi
  rcases mem_nodeProblems_iff.1 hproblem with
    ⟨hnone, -⟩ | ⟨-, ⟨-, hregion⟩ | ⟨-, rfl⟩ | ⟨kind, hkind, -⟩⟩
  · exact absurd hnone hconfig
  · exact hregion
  · cases herror
  · rw [hnative] at hkind
    cases hkind

theorem isValid_iff (r : Report) : r.isValid = true ↔ ∀ i ∈ r.issues, i.severity ≠ .error := by
  simp [Report.isValid, Report.errors, Issue.isError]

/-- Compilation looks at errors only, and warnings are none. -/
theorem nodeErrors_validate_iff (nodes : List Node) :
    (∀ n ∈ nodes, nodeErrors n = []) ↔ ∀ i ∈ (validate nodes).issues, i.severity ≠ .error := by
  rw [← isValid_validate_iff, isValid_iff]

end Validation

namespace Compilation

open Validation (Report Warns validate validateNode)

/-- A configured node is warned about exactly when all providers deploy it as their `other` kind,
or what is the same, when all of them deploy it with the properties it has in the plan. It then has
no error but that of its region. A report is valid, and a graph is compiled, just when there is no
error among the issues, however many warnings there are. -/
theorem warns_iff_passed (config : Configuration) (g : Graph) (project env : Option String)
    {place : Nat} {n : Canvas.Node} (hn : g.nodes[place]? = some n) (hconfig : n.config ≠ none) :
    (∃ (planned : Plan.Node) (w : Provider → Payload.Node), planned.Shows n ∧
      (Warns n ↔ ∀ p, (w p).kind = p.name ++ ".other") ∧
      (Warns n ↔ ∀ p, (w p).props = planned.props) ∧
      ∀ provider p, Provider.choose provider = .ok p →
        ∃ c, compile config g provider project env false = .ok c ∧
          c.plan.nodes[place]? = some planned ∧ c.payload.nodes[place]? = some (w p) ∧
          (compile config g provider project env true = .ok c ↔
            ∀ i ∈ (validate g.nodes).issues, i.severity ≠ .error)) ∧
    (Warns n → ∀ i ∈ validateNode n, i.severity = .error → i.problem = .noRegion) ∧
    ∀ r : Report, r.isValid = true ↔ ∀ i ∈ r.issues, i.severity ≠ .error := by
  obtain ⟨planned, hplanned, hshows⟩ := Plan.exists_planned hn
  have hlabel : "label" ∈ planned.props.keys := by
    rw [hshows.props]
    exact Payload.label_mem_keys_nodeProps n
  have hwarns : Warns n ↔ planned.type.native? = none := by
    rw [hshows.type, Validation.warns_iff, and_iff_right hconfig]
    rfl
  refine ⟨⟨planned, fun p => Payload.ofPlanNode (Plan.buildFor g p) p planned, hshows,
    hwarns.trans (Payload.others_iff _ planned).symm,
    hwarns.trans (Payload.passed_iff _ hlabel).symm, ?_⟩,
    fun hwarns i => Validation.eq_noRegion_of_warns hwarns, Validation.isValid_iff⟩
  intro provider p hp
  refine ⟨ofGraph config g p project env, compile_reporting hp config g project env,
    hplanned p, ?_, ?_⟩
  · exact List.getElem?_map.trans (congrArg (Option.map _) (hplanned p))
  · rw [compile_eq_ok_ofGraph_iff hp, Validation.nodeErrors_validate_iff]

theorem warns_iff_passed_halfDrawn :
    halfDrawn.nodes[1]? = some (settled "b" "rds" []) ∧ (settled "b" "rds" []).config ≠ none ∧
      Warns (settled "b" "rds" []) ∧
      ∃ c w, compile .standard halfDrawn (.str "GCP") none none false = .ok c ∧
        c.payload.nodes[1]? = some w ∧ w.kind = "gcp.other" ∧
        w.props = [("label", .str ""), ("region", .str "europe-west1")] := by
  have hn : halfDrawn.nodes[1]? = some (settled "b" "rds" []) := rfl
  have hconfig : (settled "b" "rds" []).config ≠ none := by decide
  have hwarns : Warns (settled "b" "rds" []) := by decide
  obtain ⟨⟨planned, w, hshows, hkinds, hprops, hplaced⟩, -, -⟩ :=
    warns_iff_passed .standard halfDrawn none none hn hconfig
  obtain ⟨c, hc, -, hw, -⟩ := hplaced (.str "GCP") .gcp rfl
  refine ⟨hn, hconfig, hwarns, c, w .gcp, hc, hw, hkinds.1 hwarns .gcp, ?_⟩
  rw [hprops.1 hwarns .gcp, hshows.props]
  decide

end Compilation

end CloudCanvas
