import CloudCanvas.Proofs.Payload.Nodes
import CloudCanvas.Proofs.Validation.Accepted

/-!
Compilations of validated graphs. A graph is compiled when its provider is known and none of its
nodes has errors. So all that a kind requires was entered, and where the kind is deployed with it,
it is deployed as it was entered, blanks around it and all; no default takes its place.
-/

namespace CloudCanvas

open Canvas (Graph)
open Validation (nodeErrors kindProblems requiredFields)

namespace Payload

theorem get?_settingsOf {kind : ResourceKind} {details : Table Json} {key : String} {v : Json}
    (h : (Settings.normalize (.kind kind) (.obj details)).get? key = some v) (leaves : Bool) :
    (settingsOf kind details leaves).get? key = some v := by
  unfold settingsOf
  dsimp only
  split
  · rw [Table.get?_append, h, Option.some_or]
  · exact h

end Payload

namespace Compilation

theorem compile_eq_ok_iff {config : Configuration} {g : Graph} {provider : Json}
    {project env : Option String} {c : Compilation} :
    compile config g provider project env true = .ok c ↔
      ∃ p, Provider.choose provider = .ok p ∧ (∀ n ∈ g.nodes, nodeErrors n = []) ∧
        c = ofGraph config g p project env := by
  rw [← Validation.errorsByNode_eq_nil_iff, compile, gate]
  cases Provider.choose provider with
  | error cause => simp [Except.map]
  | ok p =>
    by_cases h : (Validation.validate g.nodes).errorsByNode = []
    · simp [h, Except.map, eq_comm]
    · simp [h, Except.map]

/-- The required fields that a kind is deployed with under the names they are entered under. -/
def deployedFields : ResourceKind → List String
  | .awsLambda => ["runtime", "handler"]
  | .gcpStorage => ["bucketName"]
  | .gcpPubsub => ["topicName"]
  | .gcpRun => ["image"]
  | .gcpFirestore => ["locationId"]
  | _ => []

theorem deployedFields_subset (kind : ResourceKind) :
    deployedFields kind ⊆ requiredFields kind := by
  cases kind <;> decide

theorem exists_textField {kind : ResourceKind} {name : String} (h : name ∈ deployedFields kind) :
    ∃ schema, Settings.schema? kind = some schema ∧
      ∃ field ∈ schema, field.shape = .text ∧ field.name = name := by
  cases kind with
  | awsLambda =>
    rcases List.mem_pair.1 h with rfl | rfl <;> exact ⟨_, rfl, by decide⟩
  | gcpStorage | gcpPubsub | gcpRun | gcpFirestore =>
    rw [List.mem_singleton.1 h]
    exact ⟨_, rfl, by decide⟩
  | _ => cases h

/-- A text that the user had to enter is deployed as it is. -/
theorem get?_settingsOf_of_enters {kind : ResourceKind} {n : Canvas.Node}
    (hn : n.HasDistinctDetails) {field s : String} (hfield : field ∈ deployedFields kind)
    (hs : n.Enters field s) (leaves : Bool) :
    (Payload.settingsOf kind n.details leaves).get? field = some (.str s) := by
  obtain ⟨schema, hschema, entry, hentry, hshape, rfl⟩ := exists_textField hfield
  refine Payload.get?_settingsOf ?_ leaves
  exact Settings.get?_normalize_of_entered hschema hentry hshape hn hs.2 hs.get?_details

section Validated

variable {config : Configuration} {g : Graph} {provider : Json} {p : Provider}
  {project env : Option String} {c : Compilation}

theorem ofGraph_of_compile (hp : Provider.choose provider = .ok p)
    (hc : compile config g provider project env true = .ok c) :
    (∀ n ∈ g.nodes, nodeErrors n = []) ∧ c = ofGraph config g p project env := by
  obtain ⟨q, hq, hvalid, heq⟩ := compile_eq_ok_iff.1 hc
  obtain rfl : q = p := Except.ok.inj (hq.symm.trans hp)
  exact ⟨hvalid, heq⟩

/-- Every node that the provider owns has passed the checks of its kind, and has what was entered
for it in its place of the payload. -/
theorem nodes_of_compile (hg : g.HasDistinctDetails) (hp : Provider.choose provider = .ok p)
    (hc : compile config g provider project env true = .ok c) :
    List.Forall₂ (fun n w => ∀ kind, VisualType.native? n.visualType = some kind →
        kind.provider = p → kindProblems n kind = [] ∧ w.kind = kind.name ∧
          ∀ field ∈ deployedFields kind, ∀ s, n.Enters field s →
            w.props.get? field = some (.str s))
      g.nodes c.payload.nodes := by
  obtain ⟨hvalid, rfl⟩ := ofGraph_of_compile hp hc
  have hnodes := (List.forall₂_and_left _ _).2
    ⟨fun n hn => And.intro (hg n hn) (hvalid n hn),
      Payload.settings_buildFor config hg p project env⟩
  refine hnodes.imp fun n w h kind hkind howned => ?_
  obtain ⟨⟨hn, herrors⟩, hsettings⟩ := h
  obtain ⟨hname, hprops⟩ := hsettings kind hkind howned
  refine ⟨Validation.kindProblems_of_nodeErrors herrors hkind, hname, fun field hfield s hs => ?_⟩
  rw [hprops, get?_settingsOf_of_enters hn hfield hs]

end Validated

/-- Validated fields reach the payload as the user entered them, each node in its place. -/
theorem deployed_as_entered (config : Configuration) (g : Graph) (provider : Json) (p : Provider)
    (project env : Option String) (c : Compilation) (hg : g.HasDistinctDetails)
    (hp : Provider.choose provider = .ok p)
    (hc : compile config g provider project env true = .ok c) :
    List.Forall₂ (fun n w => ∀ kind, VisualType.native? n.visualType = some kind →
        kind.provider = p → w.kind = kind.name ∧
          ∀ field ∈ deployedFields kind, ∃ s, n.detail field = .str s ∧
            Text.isBlankText s = false ∧ w.props.get? field = some (.str s))
      g.nodes c.payload.nodes := by
  refine (nodes_of_compile hg hp hc).imp fun n w h kind hkind howned => ?_
  obtain ⟨hproblems, hname, hdeployed⟩ := h kind hkind howned
  refine ⟨hname, fun field hfield => ?_⟩
  obtain ⟨s, hs⟩ :=
    Validation.enters_of_kindProblems hproblems (deployedFields_subset kind hfield)
  exact ⟨s, hs.1, hs.2, hdeployed field hfield s hs⟩

/-- A node that is configured in a region. -/
def settled (id visualType : String) (details : Table Json) : Canvas.Node :=
  ⟨id, visualType, "", .origin, some ⟨"", "", .staging, "europe-west1", details⟩⟩

/-- A function whose settings were entered with blanks around them. -/
def padded : Graph where
  nodes := [settled "f" "Lambda" [("runtime", .str " go1.x "), ("handler", .str "main\n")]]
  edges := []

theorem deployed_as_entered_padded :
    padded.HasDistinctDetails ∧ Provider.choose .null = .ok .aws ∧
      ∃ c, compile .standard padded .null none none true = .ok c ∧
        ∃ w, c.payload.nodes = [w] ∧ w.props.get? "runtime" = some (.str " go1.x ") ∧
          w.props.get? "handler" = some (.str "main\n") := by
  have hg : padded.HasDistinctDetails := by decide
  have hp : Provider.choose .null = .ok .aws := rfl
  have hc : compile .standard padded .null none none true =
      .ok (ofGraph .standard padded .aws none none) :=
    compile_eq_ok_iff.2 ⟨.aws, hp, by decide, rfl⟩
  refine ⟨hg, hp, _, hc, ?_⟩
  obtain ⟨w, rest, hw, hrest, hnodes⟩ := List.forall₂_cons_left_iff.1
    (deployed_as_entered .standard padded .null .aws none none _ hg hp hc)
  rw [List.forall₂_nil_left_iff.1 hrest] at hnodes
  obtain ⟨-, hfields⟩ := hw .awsLambda (by decide) rfl
  obtain ⟨runtime, hentered, -, hruntime⟩ := hfields "runtime" (by decide)
  obtain ⟨handler, hentered', -, hhandler⟩ := hfields "handler" (by decide)
  cases Document.str.inj (hentered.symm.trans rfl)
  cases Document.str.inj (hentered'.symm.trans rfl)
  exact ⟨w, hnodes, hruntime, hhandler⟩

end Compilation

end CloudCanvas
