import CloudCanvas.Proofs.Compilation.Validated

/-!
The names under which queues, topics, tables and streams are deployed on AWS. Their panel asks for
a name under a word of its own, and validation looks there. Details may hold the name on the wire
as well; it then comes first, even with a value that is no name. So a validated resource has a name
unless such a value hides the one that was entered.
-/

namespace CloudCanvas

open Canvas (Graph)
open Settings (Field Shape)

/-- Neither a switch nor a container; what is absent leaves the name to another field. -/
def Document.canName : Json → Bool
  | .bool _ | .arr _ | .obj _ => false
  | _ => true

theorem Document.canName_of_isBlank {v : Json} (h : v.isBlank = true) : v.canName = true := by
  cases v with
  | null => rfl
  | str s => rfl
  | _ => cases h

namespace Settings

/-- The field of the panel that stands for the name on the wire. -/
def panelName? : ResourceKind → Option String
  | .awsSqs => some "queueName"
  | .awsSns => some "topicName"
  | .awsDynamodb => some "tableName"
  | .awsKinesis => some "streamName"
  | _ => none

def nameField (panel : String) : Field :=
  .text "physicalName" none [panel]

theorem exists_schema_of_panelName? {kind : ResourceKind} {panel : String}
    (h : panelName? kind = some panel) :
    ∃ schema, schema? kind = some schema ∧ nameField panel ∈ schema := by
  cases kind with
  | awsSqs | awsSns | awsDynamodb | awsKinesis =>
    cases h
    exact ⟨_, rfl, by simp [nameField]⟩
  | _ => cases h

theorem mem_requiredFields_of_panelName? {kind : ResourceKind} {panel : String}
    (h : panelName? kind = some panel) : panel ∈ Validation.requiredFields kind := by
  cases kind with
  | awsSqs | awsSns | awsDynamodb | awsKinesis =>
    cases h
    exact List.mem_singleton.2 rfl
  | _ => cases h

/-- The name on the wire counts unless it is blank; only then is the panel's looked at. -/
theorem entered?_nameField {n : Canvas.Node} {panel s : String} (hs : n.Enters panel s) :
    (nameField panel).entered? n.details =
      if (n.detail "physicalName").isBlank then some (.str s)
      else some (n.detail "physicalName") := by
  have hpanel : (n.details.get? panel).filter (!·.isBlank) = some (.str s) := by
    simp [hs.get?_details, Option.filter_some, Document.isBlank, hs.2]
  unfold Field.entered? Canvas.Node.detail Document.getField
  rw [nameField, Field.sources, Field.text, List.findSome?_cons, List.findSome?_cons, hpanel]
  cases hown : n.details.get? "physicalName" with
  | none => rfl
  | some v => by_cases hblank : v.isBlank = true <;> simp [Option.filter_some, hblank]

theorem read_nameField {n : Canvas.Node} {panel s : String} (hs : n.Enters panel s) :
    (nameField panel).read n.details =
      if (n.detail "physicalName").isBlank then some (.str s)
      else Shape.text.coerce? (n.detail "physicalName") := by
  have hreduce : ∀ v, (nameField panel).reduce? v = some v := by
    intro v
    cases v <;> rfl
  have hfallback : (nameField panel).fallback = none := rfl
  rw [Field.read, entered?_nameField hs, hfallback, Option.or_none]
  split_ifs
  · rfl
  · change ((some (n.detail "physicalName")).bind _).bind _ = _
    rw [Option.bind_some, hreduce, Option.bind_some]
    rfl

theorem coerce?_text_of_canName {v : Json} (h : v.canName = true) (hblank : v.isBlank = false) :
    Shape.text.coerce? v = some (.str v.display) ∧ Text.isBlankText v.display = false := by
  have hcoerce : Shape.text.coerce? v = some (.str v.display) := by
    cases v with
    | str s => rfl
    | num m => rfl
    | null => cases hblank
    | _ => cases h
  obtain ⟨s, hs, hfull⟩ := Shape.admits_of_coerce? hcoerce hblank
  rw [← Document.str.inj hs] at hfull
  exact ⟨hcoerce, hfull⟩

theorem coerce?_text_of_not_canName {v : Json} (h : v.canName = false) :
    Shape.text.coerce? v = none := by
  cases v with
  | bool b => rfl
  | arr items => rfl
  | obj fields => rfl
  | _ => cases h

/-- What can be a name is deployed as a text that is not blank. -/
theorem read_nameField_of_canName {n : Canvas.Node} {panel entered : String}
    (hs : n.Enters panel entered) (hown : (n.detail "physicalName").canName = true) :
    ∃ s, (nameField panel).read n.details = some (.str s) ∧ Text.isBlankText s = false ∧
      ((n.detail "physicalName").isBlank = true → n.detail panel = .str s) ∧
      ((n.detail "physicalName").isBlank = false → (n.detail "physicalName").display = s) := by
  rw [read_nameField hs]
  cases hblank : (n.detail "physicalName").isBlank with
  | true =>
    rw [if_pos rfl]
    exact ⟨entered, rfl, hs.2, fun _ => hs.1, fun h => by cases h⟩
  | false =>
    rw [if_neg Bool.false_ne_true]
    obtain ⟨hcoerce, hfull⟩ := coerce?_text_of_canName hown hblank
    exact ⟨_, hcoerce, hfull, fun h => absurd h Bool.false_ne_true, fun _ => rfl⟩

theorem read_nameField_of_not_canName {n : Canvas.Node} {panel entered : String}
    (hs : n.Enters panel entered) (hown : (n.detail "physicalName").canName = false) :
    (nameField panel).read n.details = none := by
  have hblank : ¬ (n.detail "physicalName").isBlank = true := by
    intro hblank
    rw [Document.canName_of_isBlank hblank] at hown
    cases hown
  rw [read_nameField hs, if_neg hblank, coerce?_text_of_not_canName hown]

end Settings

namespace Payload

/-- A kind of its own is only given to nodes that are native of it. -/
theorem native_of_kind {plan : Plan} {p : Provider} {n : Plan.Node} {kind : ResourceKind}
    (h : (ofPlanNode plan p n).kind = kind.name) (hkind : kind ≠ .otherOf p) :
    n.type.native? = some kind ∧ kind.provider = p := by
  have hfor : n.type.kindFor p = kind := ResourceKind.name_injective h
  by_cases howned : ∃ k, n.type.native? = some k ∧ k.provider = p
  · obtain ⟨k, hk, rfl⟩ := howned
    rw [PlanType.kindFor_of_native? hk] at hfor
    exact hfor ▸ ⟨hk, rfl⟩
  · have hforeign : ∀ k, n.type.native? = some k → k.provider ≠ p :=
      fun k hk hp => howned ⟨k, hk, hp⟩
    rw [PlanType.kindFor_of_foreign hforeign] at hfor
    exact absurd hfor.symm hkind

/-- Wherever a wire node has a kind of its own, so has the node it stands for. -/
theorem ownSettings_buildFor (config : Configuration) {g : Graph} (hg : g.HasDistinctDetails)
    (p : Provider) (project env : Option String) :
    List.Forall₂ (fun n w => ∀ kind : ResourceKind, w.kind = kind.name → kind ≠ .otherOf p →
        VisualType.native? n.visualType = some kind ∧
          w.props = settingsOf kind n.details (g.attachedEdges.any (·.source == n.id)))
      g.nodes (buildFor config (Plan.buildFor g p) p project env).nodes := by
  have hnatives : List.Forall₂ (fun n w => ∀ kind : ResourceKind, w.kind = kind.name →
      kind ≠ .otherOf p → VisualType.native? n.visualType = some kind ∧ kind.provider = p)
        g.nodes (buildFor config (Plan.buildFor g p) p project env).nodes := by
    rw [buildFor, List.forall₂_map_right_iff]
    refine (Plan.shows_buildFor g p).imp fun n planned hshows kind h hkind => ?_
    obtain ⟨hnative, howned⟩ := native_of_kind h hkind
    rw [hshows.type] at hnative
    exact ⟨hnative, howned⟩
  refine hnatives.mp (fun n w hnative hsettings kind h hkind => ?_)
    (settings_buildFor config hg p project env)
  obtain ⟨hkind, howned⟩ := hnative kind h hkind
  exact ⟨hkind, (hsettings kind hkind howned).2⟩

theorem settingsOf_eq_normalize {kind : ResourceKind} (h : kind ≠ .awsS3) (details : Table Json)
    (leaves : Bool) : settingsOf kind details leaves =
      Settings.normalize (.kind kind) (.obj details) :=
  if_neg fun hkind => h hkind.1

end Payload

namespace Compilation

open Settings (panelName?)

theorem get?_settingsOf_physicalName {kind : ResourceKind} {panel : String}
    (hpanel : panelName? kind = some panel) {n : Canvas.Node} (hn : n.HasDistinctDetails)
    (leaves : Bool) : (Payload.settingsOf kind n.details leaves).get? "physicalName" =
      (Settings.nameField panel).read n.details := by
  obtain ⟨schema, hschema, hfield⟩ := Settings.exists_schema_of_panelName? hpanel
  have hbucket : kind ≠ .awsS3 := by
    rintro rfl
    cases hpanel
  rw [Payload.settingsOf_eq_normalize hbucket]
  exact Settings.get?_normalize rfl hschema hn hfield

/-- Every validated queue, topic, table and stream on AWS is deployed under a name: the one among
its details if that is not blank, else the one entered in its panel. Only a switch or a container
in place of the first leaves it without a name. -/
theorem physicalName_of_compile (config : Configuration) (g : Graph) (provider : Json)
    (project env : Option String) (c : Compilation) (hg : g.HasDistinctDetails)
    (hp : Provider.choose provider = .ok .aws)
    (hc : compile config g provider project env true = .ok c) :
    List.Forall₂ (fun n w => ∀ kind panel, panelName? kind = some panel → w.kind = kind.name →
        ((n.detail "physicalName").canName = true →
          ∃ s, w.props.get? "physicalName" = some (.str s) ∧ Text.isBlankText s = false ∧
            ((n.detail "physicalName").isBlank = true → n.detail panel = .str s) ∧
            ((n.detail "physicalName").isBlank = false →
              (n.detail "physicalName").display = s)) ∧
        ((n.detail "physicalName").canName = false → w.props.get? "physicalName" = none))
      g.nodes c.payload.nodes := by
  obtain ⟨hvalid, rfl⟩ := ofGraph_of_compile hp hc
  have hnodes := (List.forall₂_and_left _ _).2
    ⟨fun n hn => And.intro (hg n hn) (hvalid n hn),
      Payload.ownSettings_buildFor config hg .aws project env⟩
  refine hnodes.imp fun n w h kind panel hpanel hkind => ?_
  obtain ⟨⟨hn, herrors⟩, hsettings⟩ := h
  -- the `other` kind has no panel, so the node is native of its kind and was checked for it
  have hother : kind ≠ .otherOf .aws := by
    rintro rfl
    cases hpanel
  obtain ⟨hnative, hprops⟩ := hsettings kind hkind hother
  obtain ⟨entered, hs⟩ := Validation.enters_of_kindProblems
    (Validation.kindProblems_of_nodeErrors herrors hnative)
    (Settings.mem_requiredFields_of_panelName? hpanel)
  have hread : w.props.get? "physicalName" = (Settings.nameField panel).read n.details := by
    rw [hprops, get?_settingsOf_physicalName hpanel hn]
  rw [hread]
  constructor
  · exact Settings.read_nameField_of_canName hs
  · exact Settings.read_nameField_of_not_canName hs

/-- A queue and a topic with names on the wire beside those of their panels. -/
def named (first second : Json) : Graph where
  nodes := [settled "q" "SQS" [("queueName", .str "orders"), ("physicalName", first)],
    settled "t" "SNS" [("topicName", .str "news"), ("physicalName", second)]]
  edges := []

theorem physicalName_of_compile_named :
    (named (.str " ") (.num (.int 7))).HasDistinctDetails ∧ Provider.choose .null = .ok .aws ∧
      ∃ c, compile .standard (named (.str " ") (.num (.int 7))) .null none none true = .ok c ∧
        ∃ v w, c.payload.nodes = [v, w] ∧ v.props.get? "physicalName" = some (.str "orders") ∧
          w.props.get? "physicalName" = some (.str "7") := by
  have hg : (named (.str " ") (.num (.int 7))).HasDistinctDetails := by decide
  have hp : Provider.choose .null = .ok .aws := rfl
  have hc : compile .standard (named (.str " ") (.num (.int 7))) .null none none true =
      .ok (ofGraph .standard (named (.str " ") (.num (.int 7))) .aws none none) :=
    compile_eq_ok_iff.2 ⟨.aws, hp, by decide, rfl⟩
  refine ⟨hg, hp, _, hc, ?_⟩
  obtain ⟨v, rest, hv, hrest, hnodes⟩ := List.forall₂_cons_left_iff.1
    (physicalName_of_compile .standard _ .null none none _ hg hp hc)
  obtain ⟨w, last, hw, hlast, hnodes'⟩ := List.forall₂_cons_left_iff.1 hrest
  rw [List.forall₂_nil_left_iff.1 hlast] at hnodes'
  rw [hnodes'] at hnodes
  have hkinds : (ofGraph .standard (named (.str " ") (.num (.int 7))) .aws none
      none).payload.nodes.map (·.kind) = ["aws.sqs", "aws.sns"] := by decide
  rw [hnodes] at hkinds
  obtain ⟨hqueue, htopic⟩ := List.cons_eq_cons.1 hkinds
  obtain ⟨hv, -⟩ := hv .awsSqs _ rfl hqueue
  obtain ⟨hw, -⟩ := hw .awsSns _ rfl (List.head_eq_of_cons_eq htopic)
  obtain ⟨s, hs, -, hpanel, -⟩ := hv (by decide)
  obtain ⟨t, ht, -, -, hown⟩ := hw (by decide)
  cases Document.str.inj ((hpanel (by decide)).symm.trans rfl)
  rw [← hown (by decide)] at ht
  exact ⟨v, w, hnodes, hs, ht⟩

/-- A switch hides the name that was entered. -/
theorem physicalName_hidden :
    ∃ c, compile .standard (named (.bool true) .null) (.str "aws") none none true = .ok c ∧
      ∃ w ∈ c.payload.nodes, w.kind = "aws.sqs" ∧ w.props.get? "physicalName" = none := by
  have hc : compile .standard (named (.bool true) .null) (.str "aws") none none true =
      .ok (ofGraph .standard (named (.bool true) .null) .aws none none) :=
    compile_eq_ok_iff.2 ⟨.aws, rfl, by decide, rfl⟩
  exact ⟨_, hc, _, List.mem_map_of_mem List.mem_cons_self, by decide, by decide⟩

end Compilation

end CloudCanvas
