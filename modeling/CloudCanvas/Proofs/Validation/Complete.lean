import CloudCanvas.Proofs.Text.Blank
import CloudCanvas.Proofs.Validation.Accepted
import CloudCanvas.Proofs.Validation.BucketName

/-!
Nodes that are complete. Such a node is configured, has a region in its field or among its details,
and has entered what its kind asks for. Validation accepts the complete nodes and no others. Nothing
else of a node is looked at, and of a text only what is left after stripping; so nodes that resemble
each other in these fields, up to the blanks around a text, are accepted together or not at all.
-/

namespace CloudCanvas

/-- The same value, or a text with other blanks around it. -/
inductive Document.Repadded : Json → Json → Prop
  | same (v : Json) : Repadded v v
  | text {s t : String} (h : Text.Repadded s t) : Repadded (.str s) (.str t)

theorem Document.Repadded.strippedText_eq {v w : Json} (h : Document.Repadded v w) :
    v.strippedText = w.strippedText := by
  cases h with
  | same => rfl
  | text h => exact (Text.repadded_iff _ _).1 h

namespace Validation

open Canvas (Node)

/-- What a kind asks of the details of a node. -/
def Meets (n : Node) : ResourceKind → Prop
  | .awsLambda => (∃ s, n.Enters "runtime" s) ∧ ∃ s, n.Enters "handler" s
  | .awsS3 => ∃ s, n.detail "bucketName" = .str s ∧ BucketName.IsName (Text.strip s).toList
  | .gcpStorage =>
    ∃ s, n.detail "bucketName" = .str s ∧ 3 ≤ (Text.strip s).length ∧ (Text.strip s).length ≤ 63
  | .awsSqs => ∃ s, n.Enters "queueName" s
  | .awsSns | .gcpPubsub => ∃ s, n.Enters "topicName" s
  | .awsDynamodb => ∃ s, n.Enters "tableName" s
  | .awsKinesis => ∃ s, n.Enters "streamName" s
  | .gcpRun => ∃ s, n.Enters "image" s
  | .gcpFirestore => ∃ s, n.Enters "locationId" s
  | .awsApigw | .awsEventsRule | .awsSfn | .awsOther | .gcpSecretManager | .gcpOther => True

/-- Nothing is missing of the node. One that no provider models needs no more than a region. -/
structure IsComplete (n : Node) : Prop where
  configured : n.config ≠ none
  region : (∃ config, n.config = some config ∧ Text.isBlankText config.region = false) ∨
    ∃ s, n.Enters "region" s
  requirement : ∀ kind, VisualType.native? n.visualType = some kind → Meets n kind

/-- The nodes are of one kind, and both are configured or neither is. They agree in their region and
in what their kind asks for, up to the blanks around texts; everything else may differ. -/
structure Resembles (m n : Node) : Prop where
  kind : VisualType.native? m.visualType = VisualType.native? n.visualType
  configured : m.config = none ↔ n.config = none
  region : ∀ config ∈ m.config, ∀ config' ∈ n.config,
    Text.Repadded config.region config'.region
  regionDetail : Document.Repadded (m.detail "region") (n.detail "region")
  details : ∀ kind, VisualType.native? m.visualType = some kind →
    ∀ field ∈ requiredFields kind, Document.Repadded (m.detail field) (n.detail field)

theorem hasRegion_iff_exists (n : Node) : hasRegion n = true ↔
    (∃ config, n.config = some config ∧ Text.isBlankText config.region = false) ∨
      ∃ s, n.Enters "region" s := by
  simp only [hasRegion, Bool.or_eq_true, decide_eq_true_eq, n.strippedText_detail_ne_empty_iff]
  refine or_congr_left ?_
  cases n.config with
  | none => simp
  | some config => simp [Text.strip_ne_empty_iff]

/-- A text that is valid once it is stripped is not blank, unless the empty text is valid. -/
theorem exists_valid_iff {n : Node} {field : String} (valid : String → Prop)
    (hvalid : ¬ valid "") :
    (∃ s, n.Enters field s ∧ valid (Text.strip s)) ↔
      ∃ s, n.detail field = .str s ∧ valid (Text.strip s) := by
  constructor
  · rintro ⟨s, hs, h⟩
    exact ⟨s, hs.1, h⟩
  · rintro ⟨s, hs, h⟩
    have hne : Text.strip s ≠ "" := fun hempty => hvalid (hempty ▸ h)
    exact ⟨s, ⟨hs, Text.strip_ne_empty_iff.1 hne⟩, h⟩

theorem kindProblems_eq_nil_iff (n : Node) (kind : ResourceKind) :
    kindProblems n kind = [] ↔ Meets n kind := by
  cases kind with
  | awsLambda =>
    exact List.append_eq_nil_iff.trans
      (and_congr (required_eq_nil_iff n _ _) (required_eq_nil_iff n _ _))
  | awsS3 =>
    have hname : ∀ s, BucketName.accepts (Text.strip s) = true ↔
        BucketName.IsName (Text.strip s).toList := by
      intro s
      rw [BucketName.accepts_strip_iff, Text.strip, String.toList_ofList]
    have hempty : ¬ BucketName.IsName "".toList := fun h => absurd h.least (by decide)
    refine (bucketProblems_eq_nil_iff n _ _).trans ?_
    simp only [hname]
    exact exists_valid_iff (fun s => BucketName.IsName s.toList) hempty
  | gcpStorage =>
    refine (bucketProblems_eq_nil_iff n _ _).trans ?_
    simp only [hasBucketLength, Bool.and_eq_true, decide_eq_true_eq]
    exact exists_valid_iff (fun s => 3 ≤ s.length ∧ s.length ≤ 63) (by decide)
  | awsSqs | awsSns | awsDynamodb | awsKinesis | gcpPubsub | gcpRun | gcpFirestore =>
    exact required_eq_nil_iff n _ _
  | _ => exact iff_of_true rfl trivial

theorem nodeErrors_eq_nil_iff_isComplete (n : Node) : nodeErrors n = [] ↔ IsComplete n := by
  rw [nodeErrors_eq_nil_iff, hasRegion_iff_exists]
  simp only [kindProblems_eq_nil_iff]
  exact ⟨fun ⟨hconfig, hregion, hkind⟩ => ⟨hconfig, hregion, hkind⟩,
    fun h => ⟨h.configured, h.region, h.requirement⟩⟩

section Repadded

variable {m n : Node}

theorem Resembles.hasRegion_eq (h : Resembles m n) : hasRegion m = hasRegion n := by
  have hfield : (m.config.map fun config => Text.strip config.region) =
      n.config.map fun config => Text.strip config.region := by
    have hconfigured := h.configured
    have hregion := h.region
    cases hm : m.config with
    | none =>
      rw [hconfigured.1 hm]
    | some config =>
      cases hn : n.config with
      | none => rw [hconfigured.2 hn] at hm; cases hm
      | some config' =>
        have hpadded := (Text.repadded_iff _ _).1 (hregion config hm config' hn)
        rw [Option.map_some, Option.map_some, hpadded]
  rw [hasRegion, hasRegion, hfield, h.regionDetail.strippedText_eq]

theorem Resembles.nodeErrors_eq_nil_iff (h : Resembles m n) :
    nodeErrors m = [] ↔ nodeErrors n = [] := by
  rw [Validation.nodeErrors_eq_nil_iff, Validation.nodeErrors_eq_nil_iff, h.hasRegion_eq, ne_eq,
    h.configured, ← h.kind]
  refine and_congr_right fun _ => and_congr_right fun _ => ?_
  refine forall_congr' fun kind => forall_congr' fun hkind => ?_
  have hsame : kindProblems m kind = kindProblems n kind :=
    kindProblems_congr fun field hfield => (h.details kind hkind field hfield).strippedText_eq
  rw [hsame]

end Repadded

/-- Validation accepts the complete nodes and no others. Its verdict does not change with the blanks
around the texts it looks at, nor with anything else of a node. -/
theorem accepted_iff_isComplete (n : Node) :
    (nodeErrors n = [] ↔ IsComplete n) ∧
      ∀ m, Resembles m n → (nodeErrors m = [] ↔ nodeErrors n = []) :=
  ⟨nodeErrors_eq_nil_iff_isComplete n, fun _ h => h.nodeErrors_eq_nil_iff⟩

/-- A bucket with its region among the details. -/
def neatBucket : Node :=
  ⟨"a", "s3", "", .origin, some ⟨"", "", .development, "",
    [("region", .str "eu-west-1"), ("bucketName", .str "my-logs")]⟩⟩

/-- The same bucket with blanks around its texts, under another label and with more details. -/
def looseBucket : Node :=
  ⟨"b", "AWS S3", "Logs", ⟨.int 4, .int 2⟩, some ⟨"logs", "", .production, " \t",
    [("bucketName", .str " my-logs\n"), ("versioning", .bool false),
      ("region", .str "\teu-west-1 ")]⟩⟩

theorem accepted_iff_isComplete_loose :
    IsComplete neatBucket ∧ Resembles looseBucket neatBucket ∧ nodeErrors looseBucket = [] := by
  obtain ⟨haccepted, hverdict⟩ := accepted_iff_isComplete neatBucket
  have hneat : nodeErrors neatBucket = [] := by decide +kernel
  have hrepadded {s t : String} (h : Text.strip s = Text.strip t) :
      Document.Repadded (.str s) (.str t) := .text ((Text.repadded_iff s t).2 h)
  have hresembles : Resembles looseBucket neatBucket := by
    refine ⟨by decide +kernel, by decide, ?_, hrepadded (by decide +kernel), ?_⟩
    · rintro config ⟨⟩ config' ⟨⟩
      exact (Text.repadded_iff _ _).2 (by decide +kernel)
    · intro kind hkind field hfield
      have hs3 : VisualType.native? looseBucket.visualType = some .awsS3 := by decide +kernel
      cases Option.some.inj (hkind.symm.trans hs3)
      rw [List.mem_singleton.1 hfield]
      exact hrepadded (by decide +kernel)
  exact ⟨haccepted.1 hneat, hresembles, (hverdict _ hresembles).2 hneat⟩

end Validation

end CloudCanvas
