import CloudCanvas.Plan.Build

/-!
What a built plan has of its graph. Its nodes have the ids of the canvas nodes in the same order,
and an edge is planned exactly when both of its ends are ids of nodes; it then keeps these ends.
So the plan joins the same pairs of ids as the attached edges of the graph, in the same order and
as often, and the edges that are not attached leave no trace in it.
-/

namespace CloudCanvas

namespace Canvas

def Edge.ends (e : Edge) : String × String :=
  (e.source, e.target)

def Graph.ids (g : Graph) : List String :=
  g.nodes.map (·.id)

/-- Both ends of the edge are ids of nodes; which of the nodes of an id is meant does not matter. -/
def Graph.Attaches (g : Graph) (e : Edge) : Prop :=
  e.source ∈ g.ids ∧ e.target ∈ g.ids

instance (g : Graph) : DecidablePred g.Attaches :=
  fun _ => inferInstanceAs (Decidable (_ ∧ _))

def Graph.attachedEdges (g : Graph) : List Edge :=
  g.edges.filter (g.Attaches ·)

/-- The graph without the edges that lack an end. -/
def Graph.prune (g : Graph) : Graph :=
  ⟨g.nodes, g.attachedEdges⟩

end Canvas

namespace Plan

open Canvas (Graph)

def Edge.ends (e : Edge) : String × String :=
  (e.source, e.target)

/-- A known provider settles the region, whether or not it is looked at. -/
theorem resolveRegion_of_choose {provider : Json} {p : Provider}
    (hp : Provider.choose provider = .ok p) (nodes : List Canvas.Node) :
    resolveRegion nodes provider = .ok ((firstRegion? nodes).getD p.defaultRegion) := by
  unfold resolveRegion
  cases firstRegion? nodes with
  | none => rw [hp]; rfl
  | some region => rfl

theorem build_of_choose {provider : Json} {p : Provider}
    (hp : Provider.choose provider = .ok p) (g : Graph) :
    build g provider = .ok (buildFor g p) := by
  rw [build, buildFrom, resolveRegion_of_choose hp]
  rfl

theorem exists_resolved_of_build {g : Graph} {provider : Json} {plan : Plan}
    (h : build g provider = .ok plan) :
    ∃ region, resolveRegion g.nodes provider = .ok region ∧ plan = (buildIn region g 0).1 := by
  unfold build buildFrom at h
  cases hregion : resolveRegion g.nodes provider with
  | error cause => rw [hregion] at h; cases h
  | ok region =>
    rw [hregion] at h
    cases h
    exact ⟨region, rfl, rfl⟩

theorem exists_region_of_build {g : Graph} {provider : Json} {plan : Plan}
    (h : build g provider = .ok plan) : ∃ region, plan = (buildIn region g 0).1 := by
  obtain ⟨region, -, hplan⟩ := exists_resolved_of_build h
  exact ⟨region, hplan⟩

theorem nodes_buildFor (g : Graph) (p : Provider) :
    (buildFor g p).nodes = (ofNodesFrom 0 0 g.nodes).1 := rfl

theorem edges_buildFor (g : Graph) (p : Provider) :
    (buildFor g p).edges = g.edges.filterMap (ofEdge? (buildFor g p).nodes) := rfl

theorem ids_ofNodesFrom (index : Nat) (counter : Int) (nodes : List Canvas.Node) :
    (ofNodesFrom index counter nodes).1.map (·.id) = nodes.map (·.id) := by
  induction nodes generalizing index counter with
  | nil => rfl
  | cons n rest ih =>
    simp only [ofNodesFrom, List.map_cons, ih]
    rfl

theorem ids_buildFor (g : Graph) (p : Provider) :
    (buildFor g p).nodes.map (·.id) = g.ids := by
  rw [nodes_buildFor, ids_ofNodesFrom]
  rfl

/-- The node found for an id is a node of that id. -/
theorem mem_of_endpoint? {nodes : List Node} {id : String} {n : Node}
    (h : endpoint? nodes id = some n) : n ∈ nodes ∧ n.id = id := by
  refine ⟨?_, by simpa using List.find?_some h⟩
  simpa using List.mem_of_find?_eq_some h

theorem isSome_endpoint?_iff (nodes : List Node) (id : String) :
    (endpoint? nodes id).isSome = true ↔ id ∈ nodes.map (·.id) := by
  simp [endpoint?, List.find?_isSome]

theorem ends_of_ofEdge? {nodes : List Node} {e : Canvas.Edge} {made : Edge}
    (h : ofEdge? nodes e = some made) : made.ends = e.ends := by
  unfold ofEdge? at h
  split at h
  · next source target hsource htarget =>
    have hs : source.id = e.source := (mem_of_endpoint? hsource).2
    have ht : target.id = e.target := (mem_of_endpoint? htarget).2
    cases h
    simp only [Edge.ends, Canvas.Edge.ends, hs, ht]
  · cases h

theorem isSome_ofEdge?_iff (nodes : List Node) (e : Canvas.Edge) :
    (ofEdge? nodes e).isSome = true ↔
      e.source ∈ nodes.map (·.id) ∧ e.target ∈ nodes.map (·.id) := by
  rw [← isSome_endpoint?_iff, ← isSome_endpoint?_iff]
  unfold ofEdge?
  cases endpoint? nodes e.source <;> cases endpoint? nodes e.target <;> simp

theorem isSome_ofEdge?_buildFor_iff (g : Graph) (p : Provider) (e : Canvas.Edge) :
    (ofEdge? (buildFor g p).nodes e).isSome = true ↔ g.Attaches e := by
  rw [isSome_ofEdge?_iff, ids_buildFor]
  rfl

/-- By induction on the edges: each is either planned with its ends or not attached at all. -/
theorem ends_filterMap_ofEdge? (g : Graph) (p : Provider) (edges : List Canvas.Edge) :
    (edges.filterMap (ofEdge? (buildFor g p).nodes)).map Edge.ends =
      (edges.filter (g.Attaches ·)).map Canvas.Edge.ends := by
  induction edges with
  | nil => rfl
  | cons e rest ih =>
    have hiff := isSome_ofEdge?_buildFor_iff g p e
    cases h : ofEdge? (buildFor g p).nodes e with
    | none =>
      have hnot : ¬ g.Attaches e := by simpa [h] using hiff
      rw [List.filterMap_cons_none h, List.filter_cons_of_neg (by simpa using hnot), ih]
    | some made =>
      have hattached : g.Attaches e := by simpa [h] using hiff
      rw [List.filterMap_cons_some h, List.filter_cons_of_pos (by simpa using hattached),
        List.map_cons, List.map_cons, ih, ends_of_ofEdge? h]

theorem ends_buildFor (g : Graph) (p : Provider) :
    (buildFor g p).edges.map Edge.ends = g.attachedEdges.map Canvas.Edge.ends := by
  rw [edges_buildFor]
  exact ends_filterMap_ofEdge? g p g.edges

/-- An edge that is not attached would have been dropped in any case. -/
theorem filterMap_ofEdge?_attachedEdges (g : Graph) (p : Provider) :
    g.attachedEdges.filterMap (ofEdge? (buildFor g p).nodes) =
      g.edges.filterMap (ofEdge? (buildFor g p).nodes) := by
  rw [Graph.attachedEdges, List.filterMap_filter]
  congr 1
  funext e
  split
  · rfl
  · next hnot =>
    have hnone : ¬ (ofEdge? (buildFor g p).nodes e).isSome = true := by
      rw [isSome_ofEdge?_buildFor_iff]
      simpa using hnot
    exact (Option.not_isSome_iff_eq_none.mp hnone).symm

theorem buildFor_prune (g : Graph) (p : Provider) : buildFor g.prune p = buildFor g p := by
  have hedges : (buildFor g.prune p).edges = (buildFor g p).edges :=
    filterMap_ofEdge?_attachedEdges g p
  calc
    buildFor g.prune p =
        { buildFor g p with edges := (buildFor g.prune p).edges } := rfl
    _ = buildFor g p := by rw [hedges]

end Plan

end CloudCanvas
