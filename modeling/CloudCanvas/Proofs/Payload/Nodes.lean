import CloudCanvas.Proofs.Compilation.Edges
import CloudCanvas.Proofs.Plan.Nodes
import CloudCanvas.Proofs.Settings.Projection

/-!
The nodes of a payload. A provider deploys each plan node in its place, under the native kind of
its plan type if it owns that kind and as its own `other` kind if not; an `other` node has the
properties of the plan node as they are. The settings of a modelled node come from its details
alone: no schema reads the label and the region that a plan puts beside them. Only a bucket adds
something, namely whether an edge leaves it, and only where its details do not say so.
-/

namespace CloudCanvas

open Canvas (Graph)
open Settings (Field Schema schema? normalize)

theorem ResourceKind.name_injective {k l : ResourceKind} (h : k.name = l.name) : k = l := by
  have hl := ResourceKind.ofName?_eq_some_iff.2 h.symm
  rw [ResourceKind.ofName?_eq_some_iff.2 rfl] at hl
  exact Option.some.inj hl

/-- The name of a kind stands for the kind. -/
theorem KindRef.resolve?_name (k : ResourceKind) :
    (KindRef.value (.str k.name)).resolve? = some k := by
  have hname : ResourceKind.ofName? k.name = some k := ResourceKind.ofName?_eq_some_iff.2 rfl
  simp [resolve?, resolveBy?, Document.isNull, namedBy?, Document.display, hname]

namespace PlanType

theorem kindFor_of_native? {t : PlanType} {k : ResourceKind} (h : t.native? = some k) :
    t.kindFor k.provider = k := by
  simp [kindFor, kindBy, h]

theorem kindFor_of_foreign {t : PlanType} {p : Provider}
    (h : ∀ k, t.native? = some k → k.provider ≠ p) : t.kindFor p = .otherOf p := by
  unfold kindFor kindBy
  cases hnative : t.native? with
  | none => rfl
  | some k => exact if_neg (h k hnative)

end PlanType

namespace Settings

theorem exists_schema {t : PlanType} {k : ResourceKind} (h : t.native? = some k) :
    ∃ schema, schema? k = some schema := by
  cases t <;> cases h <;> exact ⟨_, rfl⟩

/-- A plan's own entries among the details are none of a schema's concern. -/
theorem notMem_sources {k : ResourceKind} {schema : Schema} (h : schema? k = some schema) :
    ∀ field ∈ schema, "label" ∉ field.sources ∧ "region" ∉ field.sources := by
  cases k <;> cases h <;> decide

/-- The settings of a bucket on AWS are flags. -/
theorem normalize_awsS3 (details : Json) :
    ∃ (versioning : Bool) (eventBridge : Option Bool), normalize (.kind .awsS3) details =
      ("versioning", .bool versioning) ::
        eventBridge.toList.map fun b => ("eventBridge", .bool b) := by
  have happly : normalize (.kind .awsS3) details =
      apply [.flag "versioning" (some true) [], .flag "eventBridge" none []] details :=
    normalize_eq_apply rfl rfl details
  rw [happly, apply]
  generalize prepare _ details = prepared
  have hsome : (settle prepared (.flag "versioning" (some true) [])).isSome = true :=
    isSome_settle rfl
  obtain ⟨v, hv⟩ := Option.isSome_iff_exists.1 hsome
  obtain ⟨versioning, rfl⟩ := admits_of_settle (Field.isSound_flag "versioning" (some true) []) hv
  cases he : settle prepared (.flag "eventBridge" none []) with
  | none =>
    refine ⟨versioning, none, ?_⟩
    simp only [List.filterMap_cons, List.filterMap_nil, hv, he, Option.map_some, Option.map_none]
    rfl
  | some w =>
    obtain ⟨eventBridge, rfl⟩ := admits_of_settle (Field.isSound_flag "eventBridge" none []) he
    refine ⟨versioning, some eventBridge, ?_⟩
    simp only [List.filterMap_cons, List.filterMap_nil, hv, he, Option.map_some]
    rfl

end Settings

namespace Payload

/-- The settings of a node of a kind, by its details. A bucket whose details do not say whether it
sends its events on does so when an edge leaves it. -/
def settingsOf (kind : ResourceKind) (details : Table Json) (leaves : Bool) : Table Json :=
  let settings := normalize (.kind kind) (.obj details)
  if kind = .awsS3 ∧ settings.get? "eventBridge" = none then
    settings ++ [("eventBridge", .bool leaves)]
  else
    settings

theorem inferEvents_normalize (kind : ResourceKind) (leaves : Bool) (details : Table Json) :
    inferEvents kind leaves (normalize (.kind kind) (.obj details)) =
      settingsOf kind details leaves := by
  unfold inferEvents infersEvents settingsOf
  by_cases hkind : kind = .awsS3
  · subst hkind
    obtain ⟨versioning, eventBridge, hsettings⟩ := Settings.normalize_awsS3 (.obj details)
    rw [hsettings]
    cases eventBridge <;> rfl
  · simp [hkind]

theorem normalize_settingsOf (kind : ResourceKind) (details : Table Json) (leaves : Bool) :
    normalize (.kind kind) (.obj (settingsOf kind details leaves)) =
      settingsOf kind details leaves := by
  by_cases hkind : kind = .awsS3
  · subst hkind
    obtain ⟨versioning, eventBridge, hsettings⟩ := Settings.normalize_awsS3 (.obj details)
    rw [settingsOf, hsettings]
    cases versioning <;> cases eventBridge <;> cases leaves <;> rfl
  · have hsettings : settingsOf kind details leaves = normalize (.kind kind) (.obj details) :=
      if_neg fun h => hkind h.1
    rw [hsettings, Settings.normalize_idem]

theorem props_ofPlanNode (plan : Plan) (p : Provider) (n : Plan.Node) :
    (ofPlanNode plan p n).props =
      settingsOf (n.type.kindFor p) n.props (hasOutgoing plan n.id) :=
  inferEvents_normalize ..

/-- Normalization is a projection; so the settings of a wire node, read again under the kind the
node names, are what they were. -/
theorem normalize_normalize (ref : KindRef) (details : Json) :
    normalize ref (.obj (normalize ref details)) = normalize ref details ∧
      ∀ (config : Configuration) (plan : Plan) (p : Provider) (project env : Option String),
        ∀ w ∈ (buildFor config plan p project env).nodes,
          normalize (.value (.str w.kind)) (.obj w.props) = w.props := by
  refine ⟨Settings.normalize_idem ref details, ?_⟩
  intro config plan p project env w hw
  obtain ⟨n, -, rfl⟩ := List.mem_map.1 hw
  have hkind : normalize (.value (.str (ofPlanNode plan p n).kind))
      (.obj (ofPlanNode plan p n).props) =
        normalize (.kind (n.type.kindFor p)) (.obj (ofPlanNode plan p n).props) :=
    Settings.normalize_congr (KindRef.resolve?_name _) _
  rw [hkind, props_ofPlanNode, normalize_settingsOf]

/-- A bucket that feeds a topic of another provider. Its details hold a region and a label too. -/
def feeding : Graph where
  nodes :=
    [⟨"b", "AWS S3", "Logs", .origin, some ⟨"", "", .staging, "eu-west-1",
        [("region", .null), ("versioning", .num (.int 0)), ("label", .str "x")]⟩⟩,
      ⟨"t", "pubsub", "", .origin, none⟩]
  edges := [⟨"b", "t", []⟩]

theorem normalize_normalize_feeding :
    normalize (.value (.str "dynamodb")) (.obj [("partitionKey", .str "pk"),
          ("billing", .str "PAY_PER_REQUEST"), ("stream", .bool true)]) =
        [("partitionKey", .str "pk"), ("billing", .str "PAY_PER_REQUEST"),
          ("stream", .bool true)] ∧
      ∃ w ∈ (buildFor .standard (Plan.buildFor feeding .aws) .aws none none).nodes,
        w.props = [("versioning", .bool false), ("eventBridge", .bool true)] ∧
          normalize (.value (.str w.kind)) (.obj w.props) = w.props := by
  obtain ⟨hagain, hnodes⟩ := normalize_normalize (.value (.str "dynamodb"))
    (.obj [("sortKey", .obj []), ("stream", .str "no")])
  have hfirst : normalize (.value (.str "dynamodb"))
      (.obj [("sortKey", .obj []), ("stream", .str "no")]) =
        [("partitionKey", .str "pk"), ("billing", .str "PAY_PER_REQUEST"),
          ("stream", .bool true)] := by decide
  rw [hfirst] at hagain
  refine ⟨hagain, _, List.mem_map_of_mem List.mem_cons_self, by decide, ?_⟩
  exact hnodes .standard _ .aws none none _ (List.mem_map_of_mem List.mem_cons_self)

/-- The wire node is what the provider makes of the plan node. -/
structure Node.Deploys (w : Node) (p : Provider) (n : Plan.Node) : Prop where
  id : w.id = n.id
  name : w.name = n.name
  offered : ∃ kind : ResourceKind, w.kind = kind.name ∧ kind.provider = p
  native : ∀ kind, n.type.native? = some kind → (w.kind = kind.name ↔ kind.provider = p)
  foreign : (∀ kind, n.type.native? = some kind → kind.provider ≠ p) →
    w.kind = (ResourceKind.otherOf p).name
  passed : w.kind = (ResourceKind.otherOf p).name → w.props = n.props

theorem deploys_ofPlanNode (plan : Plan) (p : Provider) (n : Plan.Node) :
    (ofPlanNode plan p n).Deploys p n where
  id := rfl
  name := rfl
  offered := ⟨n.type.kindFor p, rfl, PlanType.provider_kindBy ..⟩
  native kind hkind := by
    constructor
    · intro h
      rw [← ResourceKind.name_injective h]
      exact PlanType.provider_kindBy ..
    · rintro rfl
      exact congrArg ResourceKind.name (PlanType.kindFor_of_native? hkind)
  foreign h := congrArg ResourceKind.name (PlanType.kindFor_of_foreign h)
  passed h := by
    rw [props_ofPlanNode, ResourceKind.name_injective h]
    cases p <;> rfl

/-- The label and the region that a plan node carries are not among its settings. -/
theorem settingsOf_nodeProps {n : Canvas.Node} (hn : n.HasDistinctDetails) {t : PlanType}
    {kind : ResourceKind} (hkind : t.native? = some kind) (leaves : Bool) :
    settingsOf kind (Plan.nodeProps n) leaves = settingsOf kind n.details leaves := by
  obtain ⟨schema, hschema⟩ := Settings.exists_schema hkind
  have hprops : (Plan.nodeProps n).keys.Nodup := Table.nodup_keys_merge _ _ (by simp [Table.keys])
  have hagree : normalize (.kind kind) (.obj (Plan.nodeProps n)) =
      normalize (.kind kind) (.obj n.details) := by
    refine Settings.normalize_eq_of_agree rfl hschema hprops hn fun field hfield key hkey => ?_
    obtain ⟨hlabel, hregion⟩ := Settings.notMem_sources hschema field hfield
    refine Plan.get?_nodeProps hn ?_ ?_
    · rintro rfl
      exact hlabel hkey
    · rintro rfl
      exact hregion hkey
  rw [settingsOf, settingsOf, hagree]

/-- An edge leaves a node of the plan exactly when an attached edge of the canvas leaves it. -/
theorem hasOutgoing_buildFor (g : Graph) (p : Provider) (id : String) :
    hasOutgoing (Plan.buildFor g p) id = g.attachedEdges.any (·.source == id) := by
  have hends := congrArg (fun ends => ends.any (·.1 == id)) (Plan.ends_buildFor g p)
  simp only [List.any_map] at hends
  exact hends

/-- A node that the provider owns has the settings of its details. -/
theorem settings_buildFor (config : Configuration) {g : Graph} (hg : g.HasDistinctDetails)
    (p : Provider) (project env : Option String) :
    List.Forall₂ (fun n w => ∀ kind, VisualType.native? n.visualType = some kind →
        kind.provider = p → w.kind = kind.name ∧
          w.props = settingsOf kind n.details (g.attachedEdges.any (·.source == n.id)))
      g.nodes (buildFor config (Plan.buildFor g p) p project env).nodes := by
  rw [buildFor, List.forall₂_map_right_iff]
  have hshows := (List.forall₂_and_left _ _).2 ⟨hg, Plan.shows_buildFor g p⟩
  refine hshows.imp fun n planned h kind hkind howned => ?_
  obtain ⟨hn, hplanned⟩ := h
  have hnative : planned.type.native? = some kind := hplanned.type ▸ hkind
  have hfor : planned.type.kindFor p = kind := howned ▸ PlanType.kindFor_of_native? hnative
  refine ⟨congrArg ResourceKind.name hfor, ?_⟩
  rw [props_ofPlanNode, hfor, hplanned.props, settingsOf_nodeProps hn hnative,
    hasOutgoing_buildFor, hplanned.id]

/-- The provider for which a plan was built does not matter to the nodes of its payload. -/
theorem nodes_of_build {g : Graph} {source : Json} {plan : Plan}
    (h : Plan.build g source = .ok plan) (config : Configuration) (p : Provider)
    (project env : Option String) :
    (buildFor config plan p project env).nodes =
      (buildFor config (Plan.buildFor g p) p project env).nodes := by
  obtain ⟨region, rfl⟩ := Plan.exists_region_of_build h
  rfl

/-- What a provider deploys belongs to it. The settings of a node it owns depend on the kind of the
node, on its details and on whether an edge leaves it, and on nothing else of the node. -/
theorem nodes_deployed (config : Configuration) (plan : Plan) (provider : Json) (p : Provider)
    (project env : Option String) (hp : Provider.choose provider = .ok p) :
    ∃ payload, build config plan provider project env = .ok payload ∧
      List.Forall₂ (fun n w => w.Deploys p n) plan.nodes payload.nodes ∧
      ∀ (g : Graph) (source : Json), g.HasDistinctDetails → Plan.build g source = .ok plan →
        List.Forall₂ (fun n w => ∀ kind, VisualType.native? n.visualType = some kind →
            kind.provider = p → w.kind = kind.name ∧
              w.props = settingsOf kind n.details (g.attachedEdges.any (·.source == n.id)))
          g.nodes payload.nodes := by
  refine ⟨buildFor config plan p project env, build_of_choose hp config plan project env, ?_, ?_⟩
  · rw [buildFor, List.forall₂_map_right_iff, List.forall₂_same]
    exact fun n _ => deploys_ofPlanNode plan p n
  · intro g source hg hplan
    rw [nodes_of_build hplan]
    exact settings_buildFor config hg p project env

theorem nodes_deployed_feeding :
    Provider.choose .null = .ok .aws ∧ feeding.HasDistinctDetails ∧
      ∃ plan payload, Plan.build feeding .null = .ok plan ∧
        build .standard plan .null none none = .ok payload ∧
        ∃ bucket rest, payload.nodes = bucket :: rest ∧ bucket.kind = "aws.s3" ∧
          bucket.props = [("versioning", .bool false), ("eventBridge", .bool true)] := by
  have hp : Provider.choose .null = .ok .aws := rfl
  have hg : feeding.HasDistinctDetails := by decide
  have hplan : Plan.build feeding .null = .ok (Plan.buildFor feeding .aws) :=
    Plan.build_of_choose hp feeding
  obtain ⟨payload, hpayload, -, hsettings⟩ :=
    nodes_deployed .standard (Plan.buildFor feeding .aws) .null .aws none none hp
  obtain ⟨bucket, rest, hbucket, -, hnodes⟩ :=
    List.forall₂_cons_left_iff.1 (hsettings feeding .null hg hplan)
  obtain ⟨hkind, hprops⟩ := hbucket .awsS3 (by decide) rfl
  refine ⟨hp, hg, _, payload, hplan, hpayload, bucket, rest, hnodes, hkind, ?_⟩
  rw [hprops]
  decide

end Payload

end CloudCanvas
