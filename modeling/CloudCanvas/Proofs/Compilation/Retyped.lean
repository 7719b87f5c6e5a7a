import CloudCanvas.Proofs.Compilation.Edges
import CloudCanvas.Proofs.Compilation.Validated
import CloudCanvas.Proofs.Plan.Nodes
import CloudCanvas.Proofs.Text.Retyped

/-!
Visual types that are typed anew. A visual type is matched without its blanks and in lowercase, so
a graph is planned, deployed and refused as before when blanks come and go in the visual types of
its nodes and ASCII letters change their case. Only the warning about a node that no provider
models repeats the visual type as it was typed.
-/

namespace CloudCanvas

open Canvas (Graph)

theorem VisualType.planType_of_retyped {s t : String} (h : Text.Retyped s.toList t.toList) :
    planType s = planType t := by
  rw [planType, planType, lookupKey, lookupKey, h.lower_removeBlanks_eq]

namespace Canvas

def Node.withVisualType (n : Node) (visualType : String) : Node :=
  { n with visualType }

inductive Node.Retyped (n : Node) : Node → Prop
  | intro {t : String} (h : Text.Retyped n.visualType.toList t.toList) :
    Retyped n (n.withVisualType t)

/-- Some nodes have their visual types typed anew. -/
structure Graph.Retyped (g g' : Graph) : Prop where
  nodes : List.Forall₂ Node.Retyped g.nodes g'.nodes
  edges : g.edges = g'.edges

end Canvas

namespace Plan

theorem nodeIn_retyped {n m : Canvas.Node} (h : n.Retyped m) (place : Nat) :
    nodeIn place n = nodeIn place m := by
  cases h with
  | intro h =>
    rw [nodeIn, nodeIn, VisualType.planType_of_retyped h]
    rfl

theorem ownRegion_retyped {n m : Canvas.Node} (h : n.Retyped m) : ownRegion n = ownRegion m := by
  cases h
  rfl

section Graph

variable {g g' : Graph} (h : g.Retyped g')
include h

theorem buildIn_retyped (region : String) (counter : Int) :
    buildIn region g counter = buildIn region g' counter := by
  have hnodes := mapIdx_eq_mapIdx_of_forall₂ h.nodes fun place _ _ hnm =>
    nodeIn_retyped hnm (0 + place)
  simp only [buildIn, ofNodesFrom_eq, hnodes, h.edges]

theorem firstRegion?_retyped : firstRegion? g.nodes = firstRegion? g'.nodes :=
  firstRegion?_congr (map_eq_map_of_forall₂ h.nodes fun _ _ => ownRegion_retyped)

theorem buildFrom_retyped (counter : Int) (provider : Json) :
    buildFrom counter g provider = buildFrom counter g' provider := by
  simp only [buildFrom, resolveRegion, firstRegion?_retyped h, buildIn_retyped h]

theorem buildFor_retyped (p : Provider) : buildFor g p = buildFor g' p := by
  rw [buildFor, buildFor, firstRegion?_retyped h, buildIn_retyped h]

end Graph

end Plan

namespace Validation

/-- The same problem, but for the visual type that is not modelled. -/
inductive Problem.Agrees : Problem → Problem → Prop
  | same (problem : Problem) : Agrees problem problem
  | unmodelled (s t : String) : Agrees (.unmodelled s) (.unmodelled t)

structure Issue.Agrees (i j : Issue) : Prop where
  nodeId : i.nodeId = j.nodeId
  label : i.label = j.label
  problem : i.problem.Agrees j.problem

theorem Problem.agrees_refl (problems : List Problem) :
    List.Forall₂ Agrees problems problems :=
  List.forall₂_same.2 fun problem _ => .same problem

/-- Only warnings depend on the visual type. -/
theorem Issue.Agrees.eq_or_isError {i j : Issue} (h : i.Agrees j) :
    i = j ∨ i.isError = false ∧ j.isError = false := by
  obtain ⟨id, label, problem⟩ := i
  obtain ⟨id', label', problem'⟩ := j
  obtain ⟨hid, hlabel, hproblem⟩ := h
  cases hproblem with
  | same => exact .inl (by rw [Issue.mk.injEq]; exact ⟨hid, hlabel, rfl⟩)
  | unmodelled => exact .inr ⟨rfl, rfl⟩

theorem eq_errors_of_agrees {issues others : List Issue}
    (h : List.Forall₂ Issue.Agrees issues others) :
    issues.filter Issue.isError = others.filter Issue.isError := by
  induction h with
  | nil => rfl
  | cons hij _ ih =>
    rcases hij.eq_or_isError with rfl | ⟨hi, hj⟩
    · rw [List.filter_cons, List.filter_cons, ih]
    · rw [List.filter_cons_of_neg (by simp [hi]), List.filter_cons_of_neg (by simp [hj]), ih]

theorem kindProblems_withVisualType (n : Canvas.Node) (t : String) (kind : ResourceKind) :
    kindProblems (n.withVisualType t) kind = kindProblems n kind := by
  cases kind <;> rfl

theorem agrees_nodeProblems {n m : Canvas.Node} (h : n.Retyped m) :
    List.Forall₂ Problem.Agrees (nodeProblems n) (nodeProblems m) := by
  cases h with
  | @intro t h =>
    have hnative : VisualType.native? (n.withVisualType t).visualType =
        VisualType.native? n.visualType :=
      congrArg PlanType.native? (VisualType.planType_of_retyped h).symm
    have hconfig : (n.withVisualType t).config = n.config := rfl
    have hregion : hasRegion (n.withVisualType t) = hasRegion n := rfl
    simp only [nodeProblems, hnative, hconfig, hregion, kindProblems_withVisualType]
    cases n.config with
    | none => exact Problem.agrees_refl _
    | some config =>
      refine List.rel_append (Problem.agrees_refl _) ?_
      cases VisualType.native? n.visualType with
      | none => exact .cons (.unmodelled _ _) .nil
      | some kind => exact Problem.agrees_refl _

theorem agrees_validateNode {n m : Canvas.Node} (h : n.Retyped m) :
    List.Forall₂ Issue.Agrees (validateNode n) (validateNode m) := by
  have hproblems := agrees_nodeProblems h
  cases h with
  | intro =>
    rw [validateNode, validateNode, List.forall₂_map_left_iff, List.forall₂_map_right_iff]
    exact hproblems.imp fun _ _ hproblem => ⟨rfl, rfl, hproblem⟩

theorem agrees_validate {nodes others : List Canvas.Node}
    (h : List.Forall₂ Canvas.Node.Retyped nodes others) :
    List.Forall₂ Issue.Agrees (validate nodes).issues (validate others).issues :=
  List.rel_flatMap h fun _ _ => agrees_validateNode

end Validation

namespace Compilation

open Validation (Issue validate)

theorem errors_retyped {g g' : Graph} (h : g.Retyped g') :
    (validate g.nodes).errors = (validate g'.nodes).errors :=
  Validation.eq_errors_of_agrees (Validation.agrees_validate h.nodes)

/-- Texts that differ in blanks and in the case of ASCII letters are of one plan type. A graph in
which visual types are so replaced has the plan it had, whatever the counter and the provider; it is
compiled to the same payload and with the same errors, or refused alike; and it has the same issues
but for the visual type that the warning about an unmodelled node repeats. -/
theorem outcome_of_retyped :
    (∀ s t : String, Text.Retyped s.toList t.toList →
      VisualType.planType s = VisualType.planType t) ∧
    ∀ g g' : Graph, g.Retyped g' →
      (∀ counter provider,
        Plan.buildFrom counter g provider = Plan.buildFrom counter g' provider) ∧
      (∀ config provider project env blocking,
        compile config g provider project env blocking =
          compile config g' provider project env blocking) ∧
      (validate g.nodes).errors = (validate g'.nodes).errors ∧
      List.Forall₂ Issue.Agrees (validate g.nodes).issues (validate g'.nodes).issues :=
  ⟨fun _ _ => VisualType.planType_of_retyped, fun _ _ h =>
    ⟨Plan.buildFrom_retyped h, compile_congr (Plan.buildFor_retyped h) (errors_retyped h),
      errors_retyped h, Validation.agrees_validate h.nodes⟩⟩

/-- A service and a stream, and between them a node that no provider models. -/
def drawnAs (service other stream : String) : Graph where
  nodes := [settled "a" service [("image", .str "web")], settled "b" other [],
    settled "c" stream []]
  edges := [⟨"a", "b", []⟩, ⟨"b", "c", []⟩]

/-- A Kelvin sign is no ASCII letter, but its lowercase form is one. -/
theorem outcome_of_retyped_drawnAs :
    Text.Retyped "Cloud Run".toList "\tclOUD\u2003rUN".toList ∧
      VisualType.planType "\tclOUD\u2003rUN" = .cloudRun ∧
      ∃ g g' : Graph, g.Retyped g' ∧
        Plan.buildFrom 5 g (.str "gcp") = Plan.buildFrom 5 g' (.str "gcp") ∧
        compile .standard g (.str "gcp") none none true =
          compile .standard g' (.str "gcp") none none true ∧
        (validate g.nodes).errors = (validate g'.nodes).errors ∧
        (validate g.nodes).errors = [⟨"c", "c", .noField "streamName" "Stream name"⟩] ∧
        List.Forall₂ Issue.Agrees (validate g.nodes).issues (validate g'.nodes).issues ∧
        (validate g.nodes).issues ≠ (validate g'.nodes).issues := by
  obtain ⟨htype, hgraph⟩ := outcome_of_retyped
  have hservice : Text.Retyped "Cloud Run".toList "\tclOUD\u2003rUN".toList := by decide
  have hother : Text.Retyped "ΑΣ b".toList "ΑΣB".toList := by decide
  have hstream : Text.Retyped "\u212Ainesis".toList "\u212A INESIS".toList := by decide
  have hdrawn : (drawnAs "Cloud Run" "ΑΣ b" "\u212Ainesis").Retyped
      (drawnAs "\tclOUD\u2003rUN" "ΑΣB" "\u212A INESIS") :=
    ⟨.cons (.intro hservice) (.cons (.intro hother) (.cons (.intro hstream) .nil)), rfl⟩
  obtain ⟨hplan, hcompile, herrors, hissues⟩ := hgraph _ _ hdrawn
  exact ⟨hservice, (htype _ _ hservice).symm.trans (by decide), _, _, hdrawn, hplan 5 (.str "gcp"),
    hcompile .standard (.str "gcp") none none true, herrors, by decide +kernel, hissues,
    by decide +kernel⟩

end Compilation

end CloudCanvas
