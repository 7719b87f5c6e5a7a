import CloudCanvas.Proofs.Naming
import CloudCanvas.Proofs.Plan.Build

/-!
The names of plan nodes. A node is named by the first text that it shows, or else by its place in
the graph; either name is settled, and neither takes anything from the counter. So the plan node of
a canvas node is made of that node and its place alone.
-/

namespace CloudCanvas.Plan

open Canvas (Graph)

/-- What is taken for a name has been stripped already. -/
theorem strip_firstText (texts : List String) : Text.strip (firstText texts) = firstText texts := by
  induction texts with
  | nil => decide
  | cons s rest ih =>
    rw [firstText]
    split
    · exact Text.strip_strip s
    · exact ih

/-- The name of a node in that place of the graph. -/
def nameIn (place : Nat) (n : Canvas.Node) : String :=
  if displayName n = "" then Naming.numberedName place else Naming.identifier (displayName n)

theorem strip_displayName_ne_empty {n : Canvas.Node} (h : displayName n ≠ "") :
    Text.strip (displayName n) ≠ "" := by
  rwa [displayName, strip_firstText]

theorem nodeName_eq_nameIn (place : Nat) (n : Canvas.Node) (counter : Int) :
    nodeName place n counter = (nameIn place n, counter) := by
  unfold nodeName nameIn
  split
  · rfl
  · next hshown =>
    have hne : Naming.identifier (displayName n) ≠ "" :=
      Naming.identifier_ne_empty (strip_displayName_ne_empty hshown)
    rw [Naming.sanitize_of_ne_empty hne]

theorem isSettled_nameIn (place : Nat) (n : Canvas.Node) : Naming.IsSettled (nameIn place n) := by
  unfold nameIn
  split
  · exact Naming.isSettled_numberedName place
  · next hshown => exact Naming.isSettled_identifier (strip_displayName_ne_empty hshown)

/-- The plan node of a node in that place of the graph. -/
def nodeIn (place : Nat) (n : Canvas.Node) : Node :=
  ⟨n.id, VisualType.planType n.visualType, nameIn place n, nodeProps n⟩

theorem name_nodeIn (place : Nat) (n : Canvas.Node) : (nodeIn place n).name = nameIn place n := by
  rw [nodeIn]

theorem map_name_mapIdx_nodeIn (nodes : List Canvas.Node) :
    (nodes.mapIdx nodeIn).map (·.name) = nodes.mapIdx nameIn := by
  refine List.ext_getElem (by simp) fun place hplace hplace' => ?_
  rw [List.getElem_map, List.getElem_mapIdx, List.getElem_mapIdx, name_nodeIn]

theorem ofNode_eq (place : Nat) (n : Canvas.Node) (counter : Int) :
    ofNode place n counter = (nodeIn place n, counter) := by
  rw [ofNode, nodeName_eq_nameIn]
  rfl

/-- By induction on the nodes: each hands the counter on to the next one as it was. -/
theorem ofNodesFrom_eq (index : Nat) (counter : Int) (nodes : List Canvas.Node) :
    ofNodesFrom index counter nodes = (nodes.mapIdx fun i n => nodeIn (index + i) n, counter) := by
  induction nodes generalizing index with
  | nil => rfl
  | cons n rest ih =>
    have hplaces :
        (fun i m => nodeIn (index + 1 + i) m) = fun i m => nodeIn (index + (i + 1)) m := by
      funext i m
      rw [Nat.add_assoc, Nat.add_comm 1]
    simp only [ofNodesFrom, ofNode_eq, ih, List.mapIdx_cons, Nat.add_zero, hplaces]

theorem buildIn_eq (region : String) (g : Graph) (counter : Int) :
    buildIn region g counter = ((buildIn region g 0).1, counter) := by
  simp only [buildIn, ofNodesFrom_eq]

theorem nodes_buildIn (region : String) (g : Graph) (counter : Int) :
    (buildIn region g counter).1.nodes = g.nodes.mapIdx nodeIn := by
  simp only [buildIn, ofNodesFrom_eq, Nat.zero_add]

theorem nodes_buildFor_eq (g : Graph) (p : Provider) :
    (buildFor g p).nodes = g.nodes.mapIdx nodeIn :=
  nodes_buildIn _ g 0

end CloudCanvas.Plan
