import CloudCanvas.Compilation
import CloudCanvas.Proofs.Payload.Alike
import CloudCanvas.Proofs.Validation.Accepted

/-!
Compilation does not see the order of fields. Documents of a graph that agree up to the order of
fields are validated with the same messages and deployed with the same text, or are refused alike.
Only the values within the properties of an edge have to agree in their order too, because they may
be shown as they are.
-/

namespace CloudCanvas

open Canvas (Graph AlikeGraph readGraph)

namespace Validation

section Node

variable {n m : Canvas.Node} (h : n.Alike m)
include h

theorem hasRegion_eq : hasRegion n = hasRegion m := by
  have hconfig : n.config.map (fun config => Text.strip config.region) =
      m.config.map fun config => Text.strip config.region :=
    h.map_config fun _ _ hcd => congrArg Text.strip hcd.region
  rw [hasRegion, hasRegion, hconfig, (h.detail "region").strippedText]

theorem nodeProblems_eq : nodeProblems n = nodeProblems m := by
  have hconfig := h.config
  have hkind (kind : ResourceKind) : kindProblems n kind = kindProblems m kind :=
    kindProblems_congr fun field _ => (h.detail field).strippedText
  unfold nodeProblems
  rw [hasRegion_eq h, h.visualType]
  simp only [hkind]
  generalize n.config = c, m.config = d at hconfig ⊢
  cases hconfig <;> rfl

theorem validateNode_eq : validateNode n = validateNode m := by
  rw [validateNode, validateNode, nodeProblems_eq h, label, label, h.displayLabel, h.id]

end Node

theorem validate_eq {nodes others : List Canvas.Node}
    (h : List.Forall₂ Canvas.Node.Alike nodes others) : validate nodes = validate others := by
  unfold validate
  induction h with
  | nil => rfl
  | cons hnm _ ih =>
    rw [List.flatMap_cons, List.flatMap_cons, validateNode_eq hnm, Report.mk.inj ih]

end Validation

namespace Compilation

/-- What becomes of a graph: the messages about its nodes, and the text that is deployed. -/
def outcome (c : Compilation) : Table (List String) × Except Payload.WireError String :=
  (c.errors, c.payload.canonicalText)

section Alike

variable {g g' : Graph} (h : g.Alike g')
include h

theorem outcome_ofGraph (config : Configuration) (p : Provider) (project env : Option String) :
    outcome (ofGraph config g p project env) = outcome (ofGraph config g' p project env) := by
  have hpayload := Payload.alike_buildFor (Plan.alike_buildFor h p) p config project env
  have herrors := congrArg Validation.Report.errorsByNode (Validation.validate_eq h.nodes)
  exact Prod.ext herrors hpayload.canonicalText_eq

theorem gate_eq (provider : Json) (blocking : Bool) :
    gate g provider blocking = gate g' provider blocking := by
  rw [gate, gate, Validation.validate_eq h.nodes]

theorem outcome_compile (config : Configuration) (provider : Json) (project env : Option String)
    (blocking : Bool) :
    (compile config g provider project env blocking).map outcome =
      (compile config g' provider project env blocking).map outcome := by
  rw [compile, compile, gate_eq h]
  cases gate g' provider blocking with
  | error cause => rfl
  | ok p => exact congrArg Except.ok (outcome_ofGraph h config p project env)

end Alike

/-- The order of fields in the document of a graph reaches neither the messages nor the text that is
deployed, whatever the provider and the labels; and it decides nothing about what is accepted. -/
theorem outcome_of_rearranged (config : Configuration) (v w : Json) (g : Graph)
    (hvw : AlikeGraph v w) (hv : readGraph v = .ok g) :
    ∃ g', readGraph w = .ok g' ∧ ∀ provider project env blocking,
      (compile config g provider project env blocking).map outcome =
        (compile config g' provider project env blocking).map outcome := by
  obtain ⟨g', hw, halike⟩ := Canvas.carries_readGraph v w hvw g hv
  exact ⟨g', hw, fun provider project env blocking =>
    outcome_compile halike config provider project env blocking⟩

/-- A queue with an edge to itself. -/
def looping (details props : Table Json) : Table Json :=
  [("nodes", .arr [.obj [("id", .str "q"), ("type", .str "SQS"),
      ("config", .obj [("region", .str "eu-west-1"), ("details", .obj details)])]]),
    ("edges", .arr [.obj [("source", .str "q"), ("target", .str "q"), ("props", .obj props)]])]

/-- The two tables of the queue and of the edge are turned around, and so is the document. -/
theorem alikeGraph_looping {a b c d : Table Json} (hab : Document.Alike (.obj a) (.obj b))
    (hcd : Table.Matches (fun _ => Eq) c d) :
    AlikeGraph (.obj (looping a c)) (.obj (looping b d).reverse) := by
  have hconfig : Document.Alike (.obj [("region", .str "eu-west-1"), ("details", .obj a)])
      (.obj [("region", .str "eu-west-1"), ("details", .obj b)]) :=
    .obj_of_forall₂ (show ["region", "details"].Nodup by decide)
      (.cons ⟨rfl, .scalar rfl⟩ (.cons ⟨rfl, hab⟩ .nil))
  have hnodes : List.Forall₂ Document.Alike
      [.obj [("id", .str "q"), ("type", .str "SQS"),
        ("config", .obj [("region", .str "eu-west-1"), ("details", .obj a)])]]
      [.obj [("id", .str "q"), ("type", .str "SQS"),
        ("config", .obj [("region", .str "eu-west-1"), ("details", .obj b)])]] :=
    .cons (.obj_of_forall₂ (show ["id", "type", "config"].Nodup by decide)
      (.cons ⟨rfl, .scalar rfl⟩ (.cons ⟨rfl, .scalar rfl⟩ (.cons ⟨rfl, hconfig⟩ .nil)))) .nil
  have hedges : List.Forall₂ Canvas.AlikeEdge
      [.obj [("source", .str "q"), ("target", .str "q"), ("props", .obj c)]]
      [.obj [("source", .str "q"), ("target", .str "q"), ("props", .obj d)]] :=
    .cons (.obj (.of_forall₂ (show ["source", "target", "props"].Nodup by decide)
      (.cons ⟨rfl, .scalar rfl⟩ (.cons ⟨rfl, .scalar rfl⟩ (.cons ⟨rfl, .obj hcd⟩ .nil))))) .nil
  have hfields : Table.Matches (fun key => if key = "edges" then Document.Itemwise Canvas.AlikeEdge
      else Document.Alike) (looping a c) (looping b d) :=
    .of_forall₂ (show ["nodes", "edges"].Nodup by decide)
      (.cons ⟨rfl, .arr_of_forall₂ hnodes⟩ (.cons ⟨rfl, .arr hedges⟩ .nil))
  exact .obj (hfields.perm_right (List.reverse_perm _).symm)

theorem outcome_of_rearranged_looping :
    ∃ v w g g', AlikeGraph v w ∧ v ≠ w ∧ readGraph v = .ok g ∧ readGraph w = .ok g' ∧
      (compile .standard g .null none none true).map outcome =
        (compile .standard g' .null none none true).map outcome := by
  have hdetails : Document.Alike
      (.obj [("queueName", .str "jobs"), ("tags", .obj [("x", .null), ("y", .null)])])
      (.obj [("queueName", .str "jobs"), ("tags", .obj [("y", .null), ("x", .null)])]) :=
    .obj_of_forall₂ (by decide) (.cons ⟨rfl, .scalar rfl⟩ (.cons ⟨rfl, .obj_of_perm (.swap _ _ _)
      (by simp [Document.WellFormed, Document.WellFormedFields])⟩ .nil))
  have hprops : Table.Matches (fun _ => Eq)
      ([("path", .obj []), ("batchSize", .num (.int 5))] : Table Json)
      ([("batchSize", .num (.int 5)), ("path", .obj [])] : Table Json) :=
    (Table.Matches.of_forall₂ (by decide)
      (.cons ⟨rfl, rfl⟩ (.cons ⟨rfl, rfl⟩ .nil))).perm_right (.swap _ _ _)
  have hvw := alikeGraph_looping hdetails hprops
  obtain ⟨g', hw, houtcome⟩ := outcome_of_rearranged .standard _ _ _ hvw rfl
  exact ⟨_, _, _, g', hvw, by decide, rfl, hw, houtcome .null none none true⟩

end Compilation

end CloudCanvas
