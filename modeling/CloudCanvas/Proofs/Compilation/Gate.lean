import CloudCanvas.Proofs.Compilation.Edges
import CloudCanvas.Proofs.Compilation.Validated
import CloudCanvas.Proofs.Validation.Report

/-!
The gate before compilation. A provider that is not known is refused whatever the graph. Under a
known one a graph is refused just when some node has errors, and the refusal tells all of them by
their nodes; otherwise the graph is compiled as it would be without validation.
-/

namespace CloudCanvas

open Canvas (Graph)
open Validation (nodeErrors validate failingIds messagesFor errorTable)

/-- Only an unknown name keeps a provider from being chosen. -/
theorem Provider.exists_name_of_choose {provider : Json} {cause : CatalogError}
    (h : choose provider = .error cause) : ∃ name, cause = .unknownProvider name := by
  unfold choose at h
  dsimp only at h
  split at h
  · cases h
  · exact ⟨_, (Except.error.inj h).symm⟩

namespace Compilation

theorem compile_of_unknown {provider : Json} {cause : CatalogError}
    (h : Provider.choose provider = .error cause) (config : Configuration) (g : Graph)
    (project env : Option String) (blocking : Bool) :
    compile config g provider project env blocking = .error (.catalog cause) := by
  rw [compile, gate, h]
  rfl

section Known

variable {provider : Json} {p : Provider} (hp : Provider.choose provider = .ok p)
include hp

theorem compile_of_clean (config : Configuration) {g : Graph} (project env : Option String)
    (h : ∀ n ∈ g.nodes, nodeErrors n = []) :
    compile config g provider project env true = .ok (ofGraph config g p project env) := by
  have hclean : (validate g.nodes).errorsByNode = [] := (Validation.errorsByNode_eq_nil_iff _).2 h
  simp only [compile, gate, hp, hclean, List.isEmpty_nil, Bool.not_true, Bool.and_false]
  rfl

theorem compile_of_failing (config : Configuration) {g : Graph} (project env : Option String)
    (h : ¬ ∀ n ∈ g.nodes, nodeErrors n = []) :
    compile config g provider project env true = .error (.invalid (errorTable g.nodes)) := by
  have hfailing : (errorTable g.nodes).isEmpty = false := by
    rwa [List.isEmpty_eq_false_iff, ne_eq, Validation.errorTable_eq_nil_iff]
  simp only [compile, gate, hp, Validation.errorsByNode_validate, hfailing, Bool.not_false,
    Bool.and_self]
  rfl

theorem compile_eq_ok_ofGraph_iff (config : Configuration) (g : Graph)
    (project env : Option String) :
    compile config g provider project env true = .ok (ofGraph config g p project env) ↔
      ∀ n ∈ g.nodes, nodeErrors n = [] := by
  constructor
  · intro hc
    by_contra hfailing
    rw [compile_of_failing hp config project env hfailing] at hc
    cases hc
  · intro hclean
    exact compile_of_clean hp config project env hclean

theorem compile_eq_error_iff (config : Configuration) (g : Graph) (project env : Option String) :
    compile config g provider project env true = .error (.invalid (errorTable g.nodes)) ↔
      ∃ n ∈ g.nodes, nodeErrors n ≠ [] := by
  have hfailing : (∃ n ∈ g.nodes, nodeErrors n ≠ []) ↔ ¬ ∀ n ∈ g.nodes, nodeErrors n = [] := by
    simp
  rw [hfailing]
  constructor
  · intro hc hclean
    rw [compile_of_clean hp config project env hclean] at hc
    cases hc
  · intro hfailing
    exact compile_of_failing hp config project env hfailing

end Known

/-- The message of a refusal counts the ids that fail and the errors of the whole graph. -/
theorem message_invalid (nodes : List Canvas.Node) :
    (CompilationError.invalid (errorTable nodes)).message =
      toString (failingIds nodes).length ++ " service(s) not fully configured (" ++
        toString (validate nodes).errors.length ++ " issue(s))" := by
  have hids : (errorTable nodes).length = (failingIds nodes).length := List.length_map _
  rw [CompilationError.message, invalidMessage, hids, Validation.length_messages_errorTable]
  rfl

/-- A graph whose provider is known is compiled unless some node has errors. It is then compiled as
it would be if errors were only reported, and has none to report; otherwise the refusal has the ids
of the failing nodes in the order in which they first fail, each with the messages about all nodes
of that id. An unknown provider is refused before anything is validated. -/
theorem compile_gated (config : Configuration) (g : Graph) (provider : Json)
    (project env : Option String) :
    (∀ cause, Provider.choose provider = .error cause →
      (∃ name, cause = .unknownProvider name) ∧
        ∀ blocking, compile config g provider project env blocking = .error (.catalog cause)) ∧
    ∀ p, Provider.choose provider = .ok p →
      ∃ c errors, compile config g provider project env false = .ok c ∧ c.errors = errors ∧
        (compile config g provider project env true = .ok c ↔ ∀ n ∈ g.nodes, nodeErrors n = []) ∧
        (compile config g provider project env true = .error (.invalid errors) ↔
          ∃ n ∈ g.nodes, nodeErrors n ≠ []) ∧
        errors = (failingIds g.nodes).map (fun id => (id, messagesFor g.nodes id)) ∧
        (failingIds g.nodes).Nodup ∧
        (∀ id, id ∈ failingIds g.nodes ↔ ∃ n ∈ g.nodes, n.id = id ∧ nodeErrors n ≠ []) ∧
        (CompilationError.invalid errors).message =
          toString (failingIds g.nodes).length ++ " service(s) not fully configured (" ++
            toString (validate g.nodes).errors.length ++ " issue(s))" ∧
        (validate g.nodes).errors.length = (errors.flatMap Prod.snd).length ∧
        (validate g.nodes).errors.length = (g.nodes.flatMap nodeErrors).length ∧
        ((validate g.nodes).isValid = true ↔ errors = []) ∧
        (errors = [] ↔ ∀ n ∈ g.nodes, nodeErrors n = []) := by
  constructor
  · intro cause hcause
    refine ⟨Provider.exists_name_of_choose hcause, fun blocking => ?_⟩
    exact compile_of_unknown hcause config g project env blocking
  · intro p hp
    refine ⟨ofGraph config g p project env, errorTable g.nodes,
      compile_reporting hp config g project env, Validation.errorsByNode_validate g.nodes,
      compile_eq_ok_ofGraph_iff hp config g project env,
      compile_eq_error_iff hp config g project env, rfl, Validation.nodup_failingIds g.nodes,
      fun id => Validation.mem_failingIds_iff, message_invalid g.nodes,
      (Validation.length_messages_errorTable g.nodes).symm,
      Validation.length_errors_validate g.nodes, ?_, Validation.errorTable_eq_nil_iff g.nodes⟩
    rw [Validation.isValid_validate_iff, Validation.errorTable_eq_nil_iff]

/-- Four nodes, of which the first and the last have one id. Those between them are a service that
is only warned about, and a node that has neither a region nor a name. -/
def halfDrawn : Graph where
  nodes :=
    [⟨"a", "S3", "Logs", .origin, none⟩, settled "b" "rds" [],
      ⟨"c", "sqs", "", .origin, some ⟨"", "", .staging, " ", []⟩⟩,
      settled "a" "sqs" [("queueName", .num (.int 5))]]
  edges := []

theorem compile_gated_halfDrawn :
    Provider.choose (.str "azure") = .error (.unknownProvider "azure") ∧
      compile .standard halfDrawn (.str "azure") none none true =
        .error (.catalog (.unknownProvider "azure")) ∧
      Provider.choose (.str "GCP") = .ok .gcp ∧
      ∃ errors, compile .standard halfDrawn (.str "GCP") none none true =
          .error (.invalid errors) ∧
        errors =
          [("a", ["Logs has not been configured. Please click on the service to configure it.",
              "a: Queue name is required"]),
            ("c", ["c: Region is required", "c: Queue name is required"])] ∧
        (CompilationError.invalid errors).message =
          "2 service(s) not fully configured (4 issue(s))" := by
  have hunknown : Provider.choose (.str "azure") = .error (.unknownProvider "azure") := rfl
  have hp : Provider.choose (.str "GCP") = .ok .gcp := rfl
  obtain ⟨hrefused, -⟩ := compile_gated .standard halfDrawn (.str "azure") none none
  obtain ⟨-, hgated⟩ := compile_gated .standard halfDrawn (.str "GCP") none none
  obtain ⟨c, errors, -, -, -, hfails, htable, -, -, hmessage, -⟩ := hgated .gcp hp
  refine ⟨hunknown, (hrefused _ hunknown).2 true, hp, errors, hfails.2 ?_, ?_, ?_⟩
  · exact ⟨_, List.mem_cons_self, by decide⟩
  · rw [htable]
    decide
  · rw [hmessage]
    decide

end Compilation

end CloudCanvas
