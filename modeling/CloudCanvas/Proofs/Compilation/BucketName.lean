import CloudCanvas.Proofs.Compilation.Validated
import CloudCanvas.Proofs.Plan.Variables
import CloudCanvas.Proofs.Validation.BucketName

/-!
The names of buckets in a validated compilation. Validation judges a name without the blanks
around it, whereas the variable of a bucket and its settings have the name as it was entered. So
the entered name itself need not be one: it is in the language of names just when no blank is
around it but for a line break behind it, and it may be longer than a name is.
-/

namespace CloudCanvas

open Canvas (Graph)
open Validation (kindProblems)

namespace Plan

theorem physicalName_of_enters {planned : Node} {n : Canvas.Node} (hshows : planned.Shows n)
    (hn : n.HasDistinctDetails) {field s : String} (hlabel : field ≠ "label")
    (hregion : field ≠ "region") (hs : n.Enters field s) : physicalName planned field = s := by
  have hentry : planned.props.get? field = some (.str s) := by
    rw [hshows.props, get?_nodeProps hn hlabel hregion, hs.get?_details]
  simp [physicalName, hentry, Text.ne_empty_of_not_blank hs.2]

/-- The variable of a bucket has the name that the user entered for it. -/
theorem get?_bucketVariable {g : Graph} (hids : g.ids.Nodup) (hg : g.HasDistinctDetails)
    (p : Provider) {n : Canvas.Node} (hn : n ∈ g.nodes) {kind : ResourceKind}
    (hkind : VisualType.native? n.visualType = some kind) (hfamily : kind.family = .storage)
    {s : String} (hs : n.Enters "bucketName" s) :
    (buildFor g p).variableTable.get? ("bucket_" ++ n.id ++ "_name") = some s := by
  obtain ⟨planned, hplanned, hshows⟩ := exists_shows_of_mem hn p
  have hstorage : planned.type.family = .storage := by
    rw [hshows.type, PlanType.family, ← VisualType.native?, hkind]
    exact hfamily
  have hvariable : (variablesOf (buildFor g p).nodes).get?
      ("bucket" ++ "_" ++ planned.id ++ "_name") = some (physicalName planned "bucketName") :=
    get?_variablesOf (by rwa [ids_buildFor]) hplanned (by rw [hstorage]; rfl)
  rw [physicalName_of_enters hshows (hg n hn) (by decide) (by decide) hs, hshows.id] at hvariable
  exact hvariable

end Plan

namespace Compilation

theorem accepts_strip_of_kindProblems {n : Canvas.Node} (h : kindProblems n .awsS3 = []) :
    ∃ s, n.Enters "bucketName" s ∧ BucketName.accepts (Text.strip s) = true :=
  (Validation.bucketProblems_eq_nil_iff n _ _).1 h

theorem length_strip_of_kindProblems {n : Canvas.Node} (h : kindProblems n .gcpStorage = []) :
    ∃ s, n.Enters "bucketName" s ∧ 3 ≤ (Text.strip s).length ∧ (Text.strip s).length ≤ 63 := by
  obtain ⟨s, hs, hlength⟩ := (Validation.bucketProblems_eq_nil_iff n _ _).1 h
  rw [Validation.hasBucketLength, Bool.and_eq_true, decide_eq_true_iff, decide_eq_true_iff]
    at hlength
  exact ⟨s, hs, hlength⟩

/-- A bucket is deployed under the name that the user entered. What passes as a name is that name
without the blanks around it. -/
theorem bucketNames_of_compile (config : Configuration) (g : Graph) (provider : Json)
    (p : Provider) (project env : Option String) (c : Compilation) (hids : g.ids.Nodup)
    (hg : g.HasDistinctDetails) (hp : Provider.choose provider = .ok p)
    (hc : compile config g provider project env true = .ok c) :
    (∀ n ∈ g.nodes, VisualType.native? n.visualType = some .awsS3 →
      ∃ s, n.detail "bucketName" = .str s ∧
        c.plan.variableTable.get? ("bucket_" ++ n.id ++ "_name") = some s ∧
        BucketName.accepts (Text.strip s) = true ∧
        (BucketName.accepts s = true ↔ s = Text.strip s ∨ s = Text.strip s ++ "\n")) ∧
    (p = .gcp → List.Forall₂ (fun n w => VisualType.native? n.visualType = some .gcpStorage →
        ∃ s, n.detail "bucketName" = .str s ∧ w.kind = "gcp.storage" ∧
          w.props.get? "bucketName" = some (.str s) ∧ 3 ≤ s.length ∧
          3 ≤ (Text.strip s).length ∧ (Text.strip s).length ≤ 63)
      g.nodes c.payload.nodes) := by
  constructor
  · intro n hn hkind
    obtain ⟨hvalid, rfl⟩ := ofGraph_of_compile hp hc
    obtain ⟨s, hs, haccepts⟩ :=
      accepts_strip_of_kindProblems
        (Validation.kindProblems_of_nodeErrors (hvalid n hn) hkind)
    exact ⟨s, hs.1, Plan.get?_bucketVariable hids hg p hn hkind rfl hs, haccepts,
      BucketName.accepts_iff_of_accepts_strip haccepts⟩
  · rintro rfl
    refine (nodes_of_compile hg hp hc).imp fun n w h hkind => ?_
    obtain ⟨hproblems, hname, hdeployed⟩ := h .gcpStorage hkind rfl
    obtain ⟨s, hs, hleast, hmost⟩ := length_strip_of_kindProblems hproblems
    exact ⟨s, hs.1, hname, hdeployed "bucketName" (by decide) s hs,
      hleast.trans (Text.length_strip_le s), hleast, hmost⟩

/-- Two buckets, one of either provider. -/
def buckets (first second : String) : Graph where
  nodes := [settled "a" "S3" [("bucketName", .str first)],
    settled "b" "gcs" [("bucketName", .str second)]]
  edges := []

theorem bucketNames_of_compile_plain :
    (buckets "my-logs" "uploads").ids.Nodup ∧ (buckets "my-logs" "uploads").HasDistinctDetails ∧
      Provider.choose (.str "gcp") = .ok .gcp ∧
      ∃ c, compile .standard (buckets "my-logs" "uploads") (.str "gcp") none none true = .ok c ∧
        c.plan.variableTable.get? "bucket_a_name" = some "my-logs" ∧
        BucketName.accepts "my-logs" = true ∧
        ∃ v w, c.payload.nodes = [v, w] ∧
          w.props.get? "bucketName" = some (.str "uploads") := by
  have hids : (buckets "my-logs" "uploads").ids.Nodup := by decide
  have hg : (buckets "my-logs" "uploads").HasDistinctDetails := by decide
  have hp : Provider.choose (.str "gcp") = .ok .gcp := rfl
  have hc : compile .standard (buckets "my-logs" "uploads") (.str "gcp") none none true =
      .ok (ofGraph .standard (buckets "my-logs" "uploads") .gcp none none) :=
    compile_eq_ok_iff.2 ⟨.gcp, hp, by decide +kernel, rfl⟩
  obtain ⟨hvariables, hnodes⟩ :=
    bucketNames_of_compile .standard _ _ .gcp none none _ hids hg hp hc
  obtain ⟨s, hs, hvariable, haccepts, -⟩ := hvariables _ List.mem_cons_self (by decide)
  cases Document.str.inj (hs.symm.trans rfl)
  obtain ⟨v, rest, -, hrest, hcons⟩ := List.forall₂_cons_left_iff.1 (hnodes rfl)
  obtain ⟨w, last, hw, hlast, hcons'⟩ := List.forall₂_cons_left_iff.1 hrest
  rw [List.forall₂_nil_left_iff.1 hlast] at hcons'
  obtain ⟨t, ht, -, hname, -⟩ := hw (by decide)
  cases Document.str.inj (ht.symm.trans rfl)
  exact ⟨hids, hg, hp, _, hc, hvariable, haccepts, v, w, hcons'.symm ▸ hcons, hname⟩

/-- Names with a blank in front; the second is as long as a name may be. -/
def paddedBuckets : Graph :=
  buckets " my-logs" (" " ++ String.ofList (List.replicate 63 'x'))

/-- Either passes, but the first is deployed as a text that is no name, and the second as one that
is too long. -/
theorem bucketNames_padded :
    paddedBuckets.ids.Nodup ∧
      ∃ c, compile .standard paddedBuckets (.str "gcp") none none true = .ok c ∧
      c.plan.variableTable.get? "bucket_a_name" = some " my-logs" ∧
      BucketName.accepts " my-logs" = false ∧
      ∃ w ∈ c.payload.nodes, w.kind = "gcp.storage" ∧
        ∃ s, w.props.get? "bucketName" = some (.str s) ∧ s.length = 64 := by
  have hc : compile .standard paddedBuckets (.str "gcp") none none true =
      .ok (ofGraph .standard paddedBuckets .gcp none none) :=
    compile_eq_ok_iff.2 ⟨.gcp, rfl, by decide +kernel, rfl⟩
  refine ⟨by decide +kernel, _, hc, by decide +kernel, by decide +kernel, ?_⟩
  refine ⟨_, List.mem_map_of_mem (List.mem_cons_of_mem _ List.mem_cons_self), by decide +kernel, ?_⟩
  exact ⟨" " ++ String.ofList (List.replicate 63 'x'), by decide +kernel, by decide +kernel⟩

end Compilation

end CloudCanvas
