import CloudCanvas.Canvas.Snapshot
import CloudCanvas.Proofs.Canvas.Reader

/-!
Snapshots read back. The snapshot of a graph that was read from a document is accepted again and
gives the graph once more. Only a coordinate that the document left out changes its form, from a
whole zero to a fractional one, which is the same number.
-/

namespace CloudCanvas

namespace Number

/-- The number in double precision, where it has that form. -/
def asFloat (n : Number) : Number :=
  (n.toBinary64?.map .float).getD n

/-- The same number: the very same, or another form of the same size. -/
def Equals (a b : Number) : Prop :=
  a = b ∨ a.same b = true

/-- Every coordinate that was read has double precision, and one that was left out is zero. -/
def IsCoordinate (n : Number) : Prop :=
  n = .int 0 ∨ ∃ x, n = .float x

theorem same_zero : same (.int 0) (.float (Binary64.zero false)) = true := by
  decide +kernel

theorem equals_asFloat {n : Number} (h : n.IsCoordinate) : n.Equals n.asFloat := by
  rcases h with rfl | ⟨x, rfl⟩
  · exact .inr same_zero
  · exact .inl rfl

end Number

namespace Canvas

open Reading

/-- The two nodes say the same, up to the form of their coordinates. -/
structure Node.Copies (m n : Node) : Prop where
  id : m.id = n.id
  visualType : m.visualType = n.visualType
  displayLabel : m.displayLabel = n.displayLabel
  x : n.position.x.Equals m.position.x
  y : n.position.y.Equals m.position.y
  config : m.config = n.config

structure Graph.Copies (h g : Graph) : Prop where
  nodes : List.Forall₂ Node.Copies h.nodes g.nodes
  edges : h.edges = g.edges

/-- What the snapshot of a position is read as. -/
def Position.reread (p : Position) : Position :=
  ⟨p.x.asFloat, p.y.asFloat⟩

def Node.reread (n : Node) : Node :=
  { n with position := n.position.reread }

def Graph.reread (g : Graph) : Graph :=
  { g with nodes := g.nodes.map Node.reread }

def Node.IsPlaced (n : Node) : Prop :=
  n.position.x.IsCoordinate ∧ n.position.y.IsCoordinate

theorem Node.copies_reread {n : Node} (h : n.IsPlaced) : n.reread.Copies n :=
  ⟨rfl, rfl, rfl, Number.equals_asFloat h.1, Number.equals_asFloat h.2, rfl⟩

theorem Graph.copies_reread {g : Graph} (h : ∀ n ∈ g.nodes, n.IsPlaced) : g.reread.Copies g := by
  refine ⟨?_, rfl⟩
  rw [reread, List.forall₂_map_left_iff]
  exact List.forall₂_same.2 fun n hn => Node.copies_reread (h n hn)

section Placed

/-- A property without any demand on documents is handed down. -/
theorem hereditary_true : Document.Hereditary fun _ : Json => True :=
  ⟨fun _ _ _ => trivial, fun _ _ _ => trivial⟩

theorem ensures_readCoordinate : Ensures (fun _ => True) readCoordinate Number.IsCoordinate := by
  intro v _ n h
  unfold readCoordinate at h
  split at h
  · cases h
    exact .inr ⟨_, rfl⟩
  · split at h
    · cases h
      exact .inr ⟨_, rfl⟩
    · cases h
  · split at h
    · cases h
      exact .inr ⟨_, rfl⟩
    · cases h
  · cases h

theorem ensures_readPosition :
    Ensures (fun _ => True) readPosition fun p => p.x.IsCoordinate ∧ p.y.IsCoordinate := by
  refine Ensures.record fun fields _ p h => ?_
  simp only [andThen_eq_ok_iff, map_eq_ok_iff] at h
  obtain ⟨_, y, ⟨x, hx, rfl⟩, hy, rfl⟩ := h
  exact ⟨ensures_readCoordinate.fieldOr hereditary_true trivial (.inl rfl) hx,
    ensures_readCoordinate.fieldOr hereditary_true trivial (.inl rfl) hy⟩

theorem ensures_readNode_placed : Ensures (fun _ => True) readNode Node.IsPlaced := by
  refine Ensures.record fun fields _ n h => ?_
  simp only [andThen_eq_ok_iff, map_eq_ok_iff] at h
  obtain ⟨_, _, ⟨_, position, ⟨_, _, ⟨_, _, ⟨_, -, rfl⟩, -, rfl⟩, -, rfl⟩, hposition, rfl⟩, -,
    rfl⟩ := h
  exact ensures_readPosition.fieldOr hereditary_true trivial ⟨.inl rfl, .inl rfl⟩ hposition

theorem isPlaced_of_readGraph {v : Json} {g : Graph} (h : readGraph v = .ok g) :
    ∀ n ∈ g.nodes, n.IsPlaced := by
  have hensures : Ensures (fun _ => True) readGraph fun g => ∀ n ∈ g.nodes, n.IsPlaced := by
    refine Ensures.record fun fields _ g h => ?_
    simp only [andThen_eq_ok_iff, map_eq_ok_iff] at h
    obtain ⟨_, _, ⟨nodes, hnodes, rfl⟩, -, rfl⟩ := h
    exact (ensures_readNode_placed.list hereditary_true).fieldOr hereditary_true trivial
      (List.forall_mem_nil _) hnodes
  exact hensures v trivial g h

end Placed

section Written

theorem readCoordinate_num {n : Number} (h : n.IsCoordinate) :
    readCoordinate (.num n) = .ok n.asFloat := by
  rcases h with rfl | ⟨x, rfl⟩
  · rfl
  · rfl

theorem readPosition_toJson {p : Position} (hx : p.x.IsCoordinate) (hy : p.y.IsCoordinate) :
    readPosition p.toJson = .ok p.reread := by
  simp [readPosition, Position.toJson, record, fieldOr, firstPresent?, Table.get?, map, andThen,
    both, under, readCoordinate_num hx, readCoordinate_num hy, Position.reread]

theorem readEnvironment_name (e : Environment) : readEnvironment (.str e.name) = .ok e := by
  simp [readEnvironment, Environment.ofName?_eq_some_iff.2 rfl]

theorem readConfig_toJson (c : ServiceConfig) : readConfig c.toJson = .ok c := by
  simp [readConfig, ServiceConfig.toJson, record, fieldOr, firstPresent?, Table.get?, map, andThen,
    both, under, readTextOrNull, text, readEnvironment_name, readLooseMapping,
    Document.fieldsOrEmpty, Document.fields?]

theorem readNode_toJson {n : Node} (h : n.IsPlaced) : readNode n.toJson = .ok n.reread := by
  have hposition : readPosition n.position.toJson = .ok n.position.reread :=
    readPosition_toJson h.1 h.2
  have hnone : Reading.optional readConfig .null = .ok none := rfl
  have hsome (c : ServiceConfig) : Reading.optional readConfig c.toJson = .ok (some c) :=
    congrArg (Reading.map some) (readConfig_toJson c)
  obtain ⟨id, visualType, displayLabel, position, config⟩ := n
  cases config <;>
    simp [readNode, Node.toJson, record, field, fieldOr, firstPresent?, Table.get?, map, andThen,
      both, under, text, visualTypeKeys, displayLabelKeys, hposition, hnone, hsome, Node.reread]

theorem readEdge_toJson (e : Edge) : readEdge e.toJson = .ok e := by
  simp [readEdge, Edge.toJson, record, field, fieldOr, firstPresent?, Table.get?, map, andThen,
    both, under, text, sourceKeys, targetKeys, edgePropsKeys, readLooseMapping,
    Document.fieldsOrEmpty, Document.fields?]

theorem readGraph_toJson {g : Graph} (h : ∀ n ∈ g.nodes, n.IsPlaced) :
    readGraph g.toJson = .ok g.reread := by
  have hnodes : list readNode (.arr (g.nodes.map Node.toJson)) = .ok (g.nodes.map Node.reread) :=
    itemsFrom_map 0 g.nodes fun n hn => readNode_toJson (h n hn)
  have hedges : list readEdge (.arr (g.edges.map Edge.toJson)) = .ok g.edges := by
    have hmap : itemsFrom readEdge 0 (g.edges.map Edge.toJson) = .ok (g.edges.map id) :=
      itemsFrom_map 0 g.edges fun e _ => readEdge_toJson e
    rwa [List.map_id] at hmap
  simp [readGraph, Graph.toJson, record, fieldOr, firstPresent?, Table.get?, map, andThen, both,
    under, hnodes, hedges, Graph.reread]

end Written

end Canvas

end CloudCanvas
