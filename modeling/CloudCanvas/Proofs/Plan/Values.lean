import CloudCanvas.Proofs.Document.Basic
import CloudCanvas.Proofs.Plan.EdgeProps

/-!
The values in a plan. Beside the texts that the plan puts there itself, the properties of its nodes
and edges are values that the user entered. So what holds of texts and of all that was entered holds
throughout the plan: where nothing but finite numbers was entered, there is no other number in it.
-/

namespace CloudCanvas

namespace Canvas

/-- The property holds of all details of nodes and all properties of edges. -/
structure Graph.Holds (g : Graph) (Q : Json → Prop) : Prop where
  nodes : ∀ n ∈ g.nodes, ∀ entry ∈ n.details, Q entry.2
  edges : ∀ e ∈ g.edges, ∀ entry ∈ e.props, Q entry.2

end Canvas

namespace Plan

open Canvas (Graph)

/-- The property holds of all properties of nodes and edges. -/
structure Holds (plan : Plan) (Q : Json → Prop) : Prop where
  nodes : ∀ n ∈ plan.nodes, ∀ entry ∈ n.props, Q entry.2
  edges : ∀ e ∈ plan.edges, ∀ entry ∈ e.props, Q entry.2

/-- An edge of the plan joins two nodes of it, and has the properties of an edge of the graph. -/
theorem exists_of_mem_edges {g : Graph} {p : Provider} {made : Edge}
    (h : made ∈ (buildFor g p).edges) :
    ∃ e ∈ g.edges, ∃ source ∈ (buildFor g p).nodes, ∃ target ∈ (buildFor g p).nodes,
      made.props = edgeProps source target e.props := by
  obtain ⟨e, he, hof⟩ := List.mem_filterMap.1 h
  unfold ofEdge? at hof
  split at hof
  · next source target hsource htarget =>
    cases hof
    exact ⟨e, he, source, (mem_of_endpoint? hsource).1, target, (mem_of_endpoint? htarget).1, rfl⟩
  · cases hof

section Values

variable {Q : Json → Prop} (htext : ∀ s, Q (.str s))
include htext

theorem of_mem_nodeProps {n : Canvas.Node} (h : ∀ entry ∈ n.details, Q entry.2) :
    ∀ entry ∈ nodeProps n, Q entry.2 := by
  have hregion : Q (regionProp n) := by
    have hdetail : (n.detail "region").truthy = true → Q (n.detail "region") := by
      intro htruthy
      cases hget : n.details.get? "region" with
      | none => simp [Canvas.Node.detail, Document.getField, hget, Document.truthy] at htruthy
      | some v =>
        rw [Canvas.Node.detail, Document.getField, hget]
        exact h _ (Table.mem_of_get? hget)
    unfold regionProp
    dsimp only
    split_ifs with hconfigured htruthy
    · exact htext _
    · exact hdetail htruthy
    · exact htext _
  intro entry hentry
  rcases Table.mem_of_mem_merge hentry with hown | hdetail
  · simp only [List.mem_cons, List.not_mem_nil, or_false] at hown
    rcases hown with rfl | rfl
    · exact htext _
    · exact hregion
  · exact h entry hdetail

theorem of_mem_withStorage {n : Node} (hn : ∀ entry ∈ n.props, Q entry.2) {props : Table Json}
    (h : ∀ entry ∈ props, Q entry.2) : ∀ entry ∈ withStorage n props, Q entry.2 := by
  have hdefault (key : String) : Q (storageDefault n key) := by
    unfold storageDefault
    split
    · exact htext _
    · exact htext _
    · next hget => exact hn _ (Table.mem_of_get? hget)
  intro entry hentry
  rcases mem_of_mem_withStorage hentry with hprops | ⟨-, hvalue⟩
  · exact h entry hprops
  · rw [hvalue]
    exact hdefault entry.1

theorem of_mem_edgeProps {source target : Node} (hsource : ∀ entry ∈ source.props, Q entry.2)
    (htarget : ∀ entry ∈ target.props, Q entry.2) {props : Table Json}
    (h : ∀ entry ∈ props, Q entry.2) : ∀ entry ∈ edgeProps source target props, Q entry.2 := by
  unfold edgeProps
  split_ifs
  · exact of_mem_withStorage htext hsource h
  · exact of_mem_withStorage htext htarget h
  · exact h

theorem holds_buildFor {g : Graph} (h : g.Holds Q) (p : Provider) : (buildFor g p).Holds Q := by
  have hnodes : ∀ n ∈ (buildFor g p).nodes, ∀ entry ∈ n.props, Q entry.2 := by
    intro planned hplanned
    obtain ⟨n, hn, hshows⟩ := exists_shown_of_mem hplanned
    rw [hshows.props]
    exact of_mem_nodeProps htext (h.nodes n hn)
  refine ⟨hnodes, fun made hmade => ?_⟩
  obtain ⟨e, he, source, hsource, target, htarget, hprops⟩ := exists_of_mem_edges hmade
  rw [hprops]
  exact of_mem_edgeProps htext (hnodes source hsource) (hnodes target htarget) (h.edges e he)

end Values

theorem allFinite_toJson {plan : Plan} (h : plan.Holds fun v => v.allFinite = true) :
    plan.toJson.allFinite = true := by
  have htable : Document.allFiniteFields
      (plan.variableTable.map fun entry => (entry.1, (.str entry.2 : Json))) = true := by
    refine Document.allFiniteFields_iff.2 fun entry hentry => ?_
    obtain ⟨_, -, rfl⟩ := List.mem_map.1 hentry
    rfl
  have hnodes : Document.allFiniteItems (plan.nodes.map Node.toJson) = true := by
    refine Document.allFiniteItems_iff.2 fun v hv => ?_
    obtain ⟨n, hn, rfl⟩ := List.mem_map.1 hv
    simp [Node.toJson, Document.allFinite, Document.allFiniteFields,
      Document.allFiniteFields_iff.2 (h.nodes n hn)]
  have hedges : Document.allFiniteItems (plan.edges.map Edge.toJson) = true := by
    refine Document.allFiniteItems_iff.2 fun v hv => ?_
    obtain ⟨e, he, rfl⟩ := List.mem_map.1 hv
    simp [Edge.toJson, Document.allFinite, Document.allFiniteFields,
      Document.allFiniteFields_iff.2 (h.edges e he)]
  simp [toJson, Document.allFinite, Document.allFiniteFields, htable, hnodes, hedges]

end Plan

end CloudCanvas
