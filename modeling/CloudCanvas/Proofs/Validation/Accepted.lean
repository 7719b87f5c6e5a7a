import CloudCanvas.Validation.Validate
import Mathlib.Data.List.Basic

/-!
What validation lets through. A node has no errors exactly when it is configured, has a region and
has all that its kind requires; whatever a kind requires is then a text that is not blank, and the
blanks around it do not count. A list of nodes has no errors when none of its nodes has any.
-/

namespace CloudCanvas

namespace Canvas.Node

/-- The user has entered the text in that field, and more than blanks. -/
def Enters (n : Node) (field : String) (s : String) : Prop :=
  n.detail field = .str s ∧ Text.isBlankText s = false

theorem Enters.get?_details {n : Node} {field s : String} (h : n.Enters field s) :
    n.details.get? field = some (.str s) := by
  have hdetail : (n.details.get? field).getD .null = .str s := h.1
  cases hentry : n.details.get? field with
  | none => simp [hentry] at hdetail
  | some v => rw [← hdetail, hentry, Option.getD_some]

theorem strippedText_detail_ne_empty_iff (n : Node) (field : String) :
    (n.detail field).strippedText ≠ "" ↔ ∃ s, n.Enters field s := by
  unfold Enters
  cases n.detail field with
  | str s =>
    rw [Document.strippedText, ne_eq, ← Text.isBlankText_iff_strip_eq]
    simp
  | _ => simp [Document.strippedText]

end Canvas.Node

namespace Validation

open Canvas (Node)

/-- The fields that have to be entered for a kind. -/
def requiredFields : ResourceKind → List String
  | .awsLambda => ["runtime", "handler"]
  | .awsS3 | .gcpStorage => ["bucketName"]
  | .awsSqs => ["queueName"]
  | .awsSns | .gcpPubsub => ["topicName"]
  | .awsDynamodb => ["tableName"]
  | .awsKinesis => ["streamName"]
  | .gcpRun => ["image"]
  | .gcpFirestore => ["locationId"]
  | _ => []

theorem required_eq_nil_iff (n : Node) (field title : String) :
    required n field title = [] ↔ ∃ s, n.Enters field s := by
  rw [← n.strippedText_detail_ne_empty_iff, required]
  split
  · simp_all
  · simp_all

theorem bucketProblems_eq_nil_iff (n : Node) (valid : String → Bool) (invalid : Problem) :
    bucketProblems n valid invalid = [] ↔
      ∃ s, n.Enters "bucketName" s ∧ valid (Text.strip s) = true := by
  unfold bucketProblems
  dsimp only
  split
  · next hempty =>
    have hnone := (n.strippedText_detail_ne_empty_iff "bucketName").not.1 (not_not.2 hempty)
    simp only [reduceCtorEq, false_iff]
    rintro ⟨s, hs, -⟩
    exact hnone ⟨s, hs⟩
  · next hsome =>
    obtain ⟨s, hs⟩ := (n.strippedText_detail_ne_empty_iff "bucketName").1 hsome
    have hstripped : (n.detail "bucketName").strippedText = Text.strip s := by rw [hs.1]; rfl
    have hunique : ∀ t, n.Enters "bucketName" t → t = s := fun t ht =>
      Document.str.inj (ht.1.symm.trans hs.1)
    rw [hstripped]
    constructor
    · intro h
      refine ⟨s, hs, ?_⟩
      by_contra hinvalid
      simp [hinvalid] at h
    · rintro ⟨t, ht, hvalid⟩
      rw [hunique t ht] at hvalid
      rw [if_pos hvalid]

/-- What a kind requires is there when the kind has nothing to complain of. -/
theorem enters_of_kindProblems {n : Node} {kind : ResourceKind} (h : kindProblems n kind = [])
    {field : String} (hfield : field ∈ requiredFields kind) : ∃ s, n.Enters field s := by
  cases kind with
  | awsLambda =>
    obtain ⟨hruntime, hhandler⟩ := List.append_eq_nil_iff.1 h
    rcases List.mem_pair.1 hfield with rfl | rfl
    · exact (required_eq_nil_iff n _ _).1 hruntime
    · exact (required_eq_nil_iff n _ _).1 hhandler
  | awsS3 | gcpStorage =>
    rw [List.mem_singleton.1 hfield]
    obtain ⟨s, hs, -⟩ := (bucketProblems_eq_nil_iff n _ _).1 h
    exact ⟨s, hs⟩
  | awsSqs | awsSns | awsDynamodb | awsKinesis | gcpPubsub | gcpRun | gcpFirestore =>
    rw [List.mem_singleton.1 hfield]
    exact (required_eq_nil_iff n _ _).1 h
  | _ => cases hfield

/-- Of the texts that a kind requires only what is left after stripping is looked at. -/
theorem kindProblems_congr {m n : Node} {kind : ResourceKind}
    (h : ∀ field ∈ requiredFields kind,
      (m.detail field).strippedText = (n.detail field).strippedText) :
    kindProblems m kind = kindProblems n kind := by
  have hrequired : ∀ field ∈ requiredFields kind, ∀ title,
      required m field title = required n field title := by
    intro field hfield title
    rw [required, required, h field hfield]
  cases kind with
  | awsLambda =>
    exact congrArg₂ (· ++ ·) (hrequired _ (by decide) _) (hrequired _ (by decide) _)
  | awsS3 | gcpStorage =>
    rw [kindProblems, kindProblems, bucketProblems, bucketProblems, h "bucketName" (by decide)]
  | awsSqs | awsSns | awsDynamodb | awsKinesis | gcpPubsub | gcpRun | gcpFirestore =>
    exact hrequired _ (by decide) _
  | _ => rfl

/-- What a kind may complain of: a field without a text, or a bucket name that is none. -/
inductive Problem.IsOfKind : Problem → Prop
  | noField (field title : String) : IsOfKind (.noField field title)
  | invalidBucketName : IsOfKind .invalidBucketName
  | invalidBucketLength : IsOfKind .invalidBucketLength

/-- A kind never warns. -/
theorem Problem.IsOfKind.severity_eq {problem : Problem} (h : problem.IsOfKind) :
    problem.severity = .error := by
  cases h <;> rfl

theorem isOfKind_of_mem_required {n : Node} {field title : String} {problem : Problem}
    (h : problem ∈ required n field title) : problem.IsOfKind := by
  unfold required at h
  split at h
  · cases h
  · rw [List.mem_singleton.1 h]
    exact .noField field title

theorem isOfKind_of_mem_bucketProblems {n : Node} {valid : String → Bool}
    {invalid problem : Problem} (hinvalid : invalid.IsOfKind)
    (h : problem ∈ bucketProblems n valid invalid) : problem.IsOfKind := by
  unfold bucketProblems at h
  dsimp only at h
  split at h
  · rw [List.mem_singleton.1 h]
    exact .noField ..
  · split at h
    · cases h
    · rwa [List.mem_singleton.1 h]

theorem isOfKind_of_mem_kindProblems {n : Node} {kind : ResourceKind} {problem : Problem}
    (h : problem ∈ kindProblems n kind) : problem.IsOfKind := by
  cases kind with
  | awsLambda =>
    rcases List.mem_append.1 h with h | h
    · exact isOfKind_of_mem_required h
    · exact isOfKind_of_mem_required h
  | awsS3 => exact isOfKind_of_mem_bucketProblems .invalidBucketName h
  | gcpStorage => exact isOfKind_of_mem_bucketProblems .invalidBucketLength h
  | awsSqs | awsSns | awsDynamodb | awsKinesis | gcpPubsub | gcpRun | gcpFirestore =>
    exact isOfKind_of_mem_required h
  | _ => cases h

/-- All that validation may say about a node. -/
theorem mem_nodeProblems_iff {n : Node} {problem : Problem} :
    problem ∈ nodeProblems n ↔ (n.config = none ∧ problem = .notConfigured) ∨
      n.config ≠ none ∧ ((hasRegion n = false ∧ problem = .noRegion) ∨
        (VisualType.native? n.visualType = none ∧ problem = .unmodelled n.visualType) ∨
        ∃ kind, VisualType.native? n.visualType = some kind ∧ problem ∈ kindProblems n kind) := by
  unfold nodeProblems
  cases n.config with
  | none => simp
  | some config =>
    rw [List.mem_append]
    cases hasRegion n <;> cases VisualType.native? n.visualType <;> simp

theorem nodeErrors_eq_nil_iff_severity (n : Node) :
    nodeErrors n = [] ↔ ∀ problem ∈ nodeProblems n, problem.severity ≠ .error := by
  simp [nodeErrors, validateNode, Issue.isError, Issue.severity]

theorem nodeErrors_eq_nil_iff (n : Node) :
    nodeErrors n = [] ↔ n.config ≠ none ∧ hasRegion n = true ∧
      ∀ kind, VisualType.native? n.visualType = some kind → kindProblems n kind = [] := by
  rw [nodeErrors_eq_nil_iff_severity]
  constructor
  · intro h
    have hconfig : n.config ≠ none := fun hnone =>
      h _ (mem_nodeProblems_iff.2 (.inl ⟨hnone, rfl⟩)) rfl
    refine ⟨hconfig, ?_, fun kind hkind => ?_⟩
    · by_contra hregion
      have hmem : .noRegion ∈ nodeProblems n :=
        mem_nodeProblems_iff.2 (.inr ⟨hconfig, .inl ⟨by simpa using hregion, rfl⟩⟩)
      exact h _ hmem rfl
    · refine List.eq_nil_iff_forall_not_mem.2 fun problem hproblem => ?_
      have hmem : problem ∈ nodeProblems n :=
        mem_nodeProblems_iff.2 (.inr ⟨hconfig, .inr (.inr ⟨kind, hkind, hproblem⟩)⟩)
      exact h _ hmem (isOfKind_of_mem_kindProblems hproblem).severity_eq
  · rintro ⟨hconfig, hregion, hkinds⟩ problem hmem
    rcases mem_nodeProblems_iff.1 hmem with
      ⟨hnone, -⟩ | ⟨-, ⟨hnone, -⟩ | ⟨-, rfl⟩ | ⟨kind, hkind, hproblem⟩⟩
    · exact absurd hnone hconfig
    · rw [hregion] at hnone
      cases hnone
    · simp [Problem.severity]
    · rw [hkinds kind hkind] at hproblem
      cases hproblem

theorem kindProblems_of_nodeErrors {n : Node} (h : nodeErrors n = []) {kind : ResourceKind}
    (hkind : VisualType.native? n.visualType = some kind) : kindProblems n kind = [] := by
  obtain ⟨-, -, hproblems⟩ := (nodeErrors_eq_nil_iff n).1 h
  exact hproblems kind hkind

theorem addMessage_ne_nil (table : Table (List String)) (i : Issue) :
    Report.addMessage table i ≠ [] := by
  unfold Report.addMessage
  cases table with
  | nil => simp [Table.set]
  | cons entry rest =>
    rw [Table.set]
    split <;> simp

/-- An issue never leaves the table, so the table is empty when there is none. -/
theorem foldl_addMessage_eq_nil_iff (issues : List Issue) (table : Table (List String)) :
    issues.foldl Report.addMessage table = [] ↔ table = [] ∧ issues = [] := by
  induction issues generalizing table with
  | nil => simp
  | cons i rest ih => simp [ih, addMessage_ne_nil]

theorem errorsByNode_eq_nil_iff (nodes : List Node) :
    (validate nodes).errorsByNode = [] ↔ ∀ n ∈ nodes, nodeErrors n = [] := by
  rw [Report.errorsByNode, foldl_addMessage_eq_nil_iff]
  simp only [Report.errors, validate, nodeErrors, List.filter_flatMap, List.flatMap_eq_nil_iff,
    List.map_eq_nil_iff, true_and]

end Validation

end CloudCanvas
