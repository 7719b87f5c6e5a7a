import CloudCanvas.Proofs.Canvas.Snapshot
import CloudCanvas.Proofs.Canvas.Spelling
import CloudCanvas.Proofs.Compilation.Edges
import CloudCanvas.Proofs.Plan.Nodes

/-!
Graphs from snapshots and from other spellings. Where a node is drawn has no part in a compilation,
so a graph that went through its snapshot is compiled as the graph it was. A document may change
the names of its fields, or gain names that come after those that decide, and still is the document
of the same graph.
-/

namespace CloudCanvas

open Canvas (Graph readGraph)

namespace Canvas

def Node.atOrigin (n : Node) : Node :=
  { n with position := .origin }

def Graph.atOrigin (g : Graph) : Graph :=
  { g with nodes := g.nodes.map Node.atOrigin }

theorem Node.Copies.atOrigin_eq {m n : Node} (h : m.Copies n) : m.atOrigin = n.atOrigin := by
  rw [Node.atOrigin, Node.atOrigin, h.id, h.visualType, h.displayLabel, h.config]

theorem Graph.Copies.atOrigin_eq {h g : Graph} (hcopies : h.Copies g) :
    h.atOrigin = g.atOrigin := by
  have hnodes : h.nodes.map Node.atOrigin = g.nodes.map Node.atOrigin :=
    map_eq_map_of_forall₂ hcopies.nodes fun _ _ => Node.Copies.atOrigin_eq
  rw [Graph.atOrigin, Graph.atOrigin, hnodes, hcopies.edges]

end Canvas

namespace Plan

theorem firstRegion?_atOrigin (nodes : List Canvas.Node) :
    firstRegion? (nodes.map Canvas.Node.atOrigin) = firstRegion? nodes := by
  rw [firstRegion?, List.find?_map, Option.map_map]
  rfl

theorem nodeIn_atOrigin (place : Nat) (n : Canvas.Node) :
    nodeIn place n.atOrigin = nodeIn place n := by
  have hname : displayName n.atOrigin = displayName n := rfl
  have hprops : nodeProps n.atOrigin = nodeProps n := rfl
  rw [nodeIn, nodeIn, nameIn, nameIn, hname, hprops]
  rfl

theorem mapIdx_nodeIn_atOrigin (nodes : List Canvas.Node) :
    (nodes.map Canvas.Node.atOrigin).mapIdx nodeIn = nodes.mapIdx nodeIn := by
  refine List.ext_getElem (by simp) fun place hplace hplace' => ?_
  rw [List.getElem_mapIdx, List.getElem_mapIdx, List.getElem_map, nodeIn_atOrigin]

theorem buildFor_atOrigin (g : Graph) (p : Provider) : buildFor g.atOrigin p = buildFor g p := by
  simp only [buildFor, buildIn, Graph.atOrigin, firstRegion?_atOrigin, ofNodesFrom_eq,
    Nat.zero_add, mapIdx_nodeIn_atOrigin]

end Plan

namespace Validation

theorem kindProblems_atOrigin (n : Canvas.Node) (kind : ResourceKind) :
    kindProblems n.atOrigin kind = kindProblems n kind := by
  cases kind <;> rfl

theorem nodeProblems_atOrigin (n : Canvas.Node) : nodeProblems n.atOrigin = nodeProblems n := by
  have hregion : hasRegion n.atOrigin = hasRegion n := rfl
  have hconfig : n.atOrigin.config = n.config := rfl
  have htype : n.atOrigin.visualType = n.visualType := rfl
  simp only [nodeProblems, hconfig, hregion, htype, kindProblems_atOrigin]

theorem validate_atOrigin (nodes : List Canvas.Node) :
    validate (nodes.map Canvas.Node.atOrigin) = validate nodes := by
  have hnode (n : Canvas.Node) : validateNode n.atOrigin = validateNode n := by
    rw [validateNode, validateNode, nodeProblems_atOrigin]
    rfl
  simp only [validate, List.flatMap_map, hnode]

end Validation

namespace Compilation

/-- Where the nodes are drawn does not matter. -/
theorem compile_atOrigin (config : Configuration) (g : Graph) (provider : Json)
    (project env : Option String) (blocking : Bool) :
    compile config g.atOrigin provider project env blocking =
      compile config g provider project env blocking :=
  compile_congr (Plan.buildFor_atOrigin g)
    (congrArg Validation.Report.errors (Validation.validate_atOrigin g.nodes))
    config provider project env blocking

theorem compile_of_copies {h g : Graph} (hcopies : h.Copies g) (config : Configuration)
    (provider : Json) (project env : Option String) (blocking : Bool) :
    compile config h provider project env blocking =
      compile config g provider project env blocking := by
  rw [← compile_atOrigin config h, hcopies.atOrigin_eq, compile_atOrigin config g]

end Compilation

namespace Canvas

open Document (SameFields Respelled)

/-- The snapshot of a graph that was read is accepted and gives the graph again, up to the form of
coordinates, and so the same compilation. Documents that agree on what stands under the first name
present of each field are documents of one graph, if of any; and so are two spellings of a document
in which no field has two names. What stands there is what the node or the edge has: if it is no
text, the document is not accepted, and if it is no object, the edge has no properties. -/
theorem graph_of_snapshot (config : Configuration) (v : Json) :
    (∀ g, readGraph v = .ok g → ∃ h, readGraph g.toJson = .ok h ∧ h.Copies g ∧
      ∀ provider project env blocking,
        Compilation.compile config h provider project env blocking =
          Compilation.compile config g provider project env blocking) ∧
    (∀ w, Partwise SameFields v w → ∀ g, readGraph v = .ok g ↔ readGraph w = .ok g) ∧
    (∀ w, Partwise Respelled v w → ∀ g, readGraph v = .ok g ↔ readGraph w = .ok g) ∧
    (∀ fields n, readNode (.obj fields) = .ok n → n.DecidedBy fields) ∧
    ∀ fields e, readEdge (.obj fields) = .ok e → e.DecidedBy fields := by
  refine ⟨fun g hg => ?_, fun w hvw g => (agree_readGraph_of_sameFields hvw).ok_iff g,
    fun w hvw g => (agree_readGraph_of_respelled hvw).ok_iff g,
    fun fields n => decidedBy_of_readNode, fun fields e => decidedBy_of_readEdge⟩
  have hplaced := isPlaced_of_readGraph hg
  have hcopies := Graph.copies_reread hplaced
  exact ⟨g.reread, readGraph_toJson hplaced, hcopies, fun provider project env blocking =>
    Compilation.compile_of_copies hcopies config provider project env blocking⟩

/-- A node and an edge, each with these fields. -/
def sketch (node edge : Table Json) : Json :=
  .obj [("nodes", .arr [.obj node]), ("edges", .arr [.obj edge])]

/-- A bucket of which only one coordinate is known. -/
def sketchedNode (visualTypeKey labelKey : String) : Table Json :=
  [("id", .str "a"), (visualTypeKey, .str "s3"), (labelKey, .str "Logs"),
    ("position", .obj [("x", .num (.int 3))])]

/-- A loop at the bucket, with null for its properties. -/
def sketchedEdge (sourceKey targetKey propsKey : String) : Table Json :=
  [(sourceKey, .str "a"), (targetKey, .str "a"), (propsKey, .null)]

def drawn : Json :=
  sketch (sketchedNode "visual_type" "label") (sketchedEdge "source" "target" "extra_props")

/-- The same with more names, which come too late: a visual type that is null, and properties. -/
def overdrawn : Json :=
  sketch (sketchedNode "visual_type" "label" ++ [("type", .null)])
    (sketchedEdge "source" "target" "extra_props" ++ [("props", .obj [("path", .str "/a")])])

def redrawn : Json :=
  sketch (sketchedNode "type" "displayLabel")
    (sketchedEdge "sourceNodeId" "target_node_id" "props")

theorem sameFields_overdrawn : Partwise SameFields drawn overdrawn :=
  .obj (.some (.arr (.cons (.obj (by decide)) .nil)))
    (.some (.arr (.cons (.obj (by decide)) .nil)))

theorem respelled_redrawn : Partwise Respelled drawn redrawn :=
  .obj (.some (.arr (.cons (.obj (by decide) (by decide)) .nil)))
    (.some (.arr (.cons (.obj (by decide) (by decide)) .nil)))

theorem graph_of_snapshot_drawn :
    ∃ g h, readGraph drawn = .ok g ∧ readGraph g.toJson = .ok h ∧ h.Copies g ∧
      g.nodes.map (·.position) ≠ h.nodes.map (·.position) ∧
      Compilation.compile .standard h .null none none true =
        Compilation.compile .standard g .null none none true ∧
      Partwise SameFields drawn overdrawn ∧ readGraph overdrawn = .ok g ∧
      Partwise Respelled drawn redrawn ∧ readGraph redrawn = .ok g ∧
      (∀ n ∈ g.nodes, n.DecidedBy (sketchedNode "visual_type" "label")) ∧
      ∀ e ∈ g.edges, e.DecidedBy (sketchedEdge "source" "target" "extra_props") := by
  obtain ⟨hreread, hsame, hrespelled, hnode, hedge⟩ := graph_of_snapshot .standard drawn
  obtain ⟨g, hg⟩ : ∃ g, readGraph drawn = .ok g := ⟨_, rfl⟩
  obtain ⟨h, hh, hcopies, hcompile⟩ := hreread g hg
  refine ⟨g, h, hg, hh, hcopies, ?_, hcompile .null none none true, sameFields_overdrawn,
    (hsame _ sameFields_overdrawn g).1 hg, respelled_redrawn,
    (hrespelled _ respelled_redrawn g).1 hg, ?_, ?_⟩
  · cases hg
    cases hh
    decide
  · cases hg
    exact List.forall_mem_singleton.2 (hnode _ _ rfl)
  · cases hg
    exact List.forall_mem_singleton.2 (hedge _ _ rfl)

end Canvas

end CloudCanvas
