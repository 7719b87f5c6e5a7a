import CloudCanvas.Payload.Reader
import CloudCanvas.Proofs.Compilation.Edges
import CloudCanvas.Proofs.Payload.Alike

/-!
Payloads read back from the wire. Whatever a payload is sent as is accepted and gives the payload
again, but for numbers that no document can hold, which have become null on the way out. Sent
again, it is the same document.
-/

namespace CloudCanvas

namespace Document

variable {τ : Type}

mutual

/-- Where every number is finite, nothing has to become null. -/
theorem finiteOrNull_of_allFinite : (v : Document τ) → v.allFinite = true → v.finiteOrNull = v
  | .num _, h => if_pos h
  | .arr items, h => congrArg arr (finiteOrNullItems_of_allFinite items h)
  | .obj fields, h => congrArg obj (finiteOrNullFields_of_allFinite fields h)
  | .null, _ | .bool _, _ | .str _, _ => rfl

theorem finiteOrNullItems_of_allFinite : (items : List (Document τ)) →
    allFiniteItems items = true → finiteOrNullItems items = items
  | [], _ => rfl
  | v :: rest, h => by
    obtain ⟨hv, hrest⟩ := Bool.and_eq_true_iff.1 h
    rw [finiteOrNullItems, finiteOrNull_of_allFinite v hv,
      finiteOrNullItems_of_allFinite rest hrest]

theorem finiteOrNullFields_of_allFinite : (fields : List (τ × Document τ)) →
    allFiniteFields fields = true → finiteOrNullFields fields = fields
  | [], _ => rfl
  | (_, v) :: rest, h => by
    obtain ⟨hv, hrest⟩ := Bool.and_eq_true_iff.1 h
    rw [finiteOrNullFields, finiteOrNull_of_allFinite v hv,
      finiteOrNullFields_of_allFinite rest hrest]

end

mutual

theorem height_finiteOrNull : (v : Document τ) → v.finiteOrNull.height = v.height
  | .num n => by
    unfold finiteOrNull
    split <;> rfl
  | .arr items => congrArg Nat.succ (itemsHeight_finiteOrNull items)
  | .obj fields => congrArg Nat.succ (fieldsHeight_finiteOrNull fields)
  | .null | .bool _ | .str _ => rfl

theorem itemsHeight_finiteOrNull : (items : List (Document τ)) →
    itemsHeight (finiteOrNullItems items) = itemsHeight items
  | [] => rfl
  | v :: rest => by
    rw [finiteOrNullItems, itemsHeight, itemsHeight, height_finiteOrNull v,
      itemsHeight_finiteOrNull rest]

theorem fieldsHeight_finiteOrNull : (fields : List (τ × Document τ)) →
    fieldsHeight (finiteOrNullFields fields) = fieldsHeight fields
  | [] => rfl
  | (_, v) :: rest => by
    rw [finiteOrNullFields, fieldsHeight, fieldsHeight, height_finiteOrNull v,
      fieldsHeight_finiteOrNull rest]

end

end Document

namespace Payload

/-- The node with null for every number among its settings that is not finite. -/
def Node.sent (n : Node) : Node :=
  { n with props := Document.finiteOrNullFields n.props }

theorem readNode_toWire (n : Node) : readNode n.toWire = .ok n.sent := by
  simp [readNode, Node.toWire, Reading.record, Reading.field, Reading.fieldOr,
    Reading.firstPresent?, Table.get?, Reading.text, Reading.mapping, Reading.map, Reading.andThen,
    Reading.both, Reading.under, Document.finiteOrNull, Node.sent]

theorem readIntent_name (i : Intent) : readIntent (.str i.name) = .ok i := by
  simp [readIntent, Intent.ofName?_eq_some_iff.2 rfl]

theorem readEdge_toWire (e : Edge) : readEdge e.toWire = .ok e := by
  obtain ⟨source, target, intent, path, method, batchSize⟩ := e
  cases path <;> cases method <;> cases batchSize <;>
    simp [readEdge, Edge.toWire, unlessUnset, Reading.record, Reading.field, Reading.fieldOr,
      Reading.firstPresent?, Table.get?, Reading.text, Reading.map, Reading.andThen, Reading.both,
      Reading.under, Reading.optional, readIntent_name, readBatchSize]

def sent (p : Payload) : Payload :=
  { p with nodes := p.nodes.map Node.sent }

theorem read_toWire (p : Payload) : read p.toWire = .ok p.sent := by
  have hnodes : Reading.list readNode (.arr (p.nodes.map Node.toWire)) =
      .ok (p.nodes.map Node.sent) :=
    Reading.itemsFrom_map 0 p.nodes fun n _ => readNode_toWire n
  have hedges : Reading.list readEdge (.arr (p.edges.map Edge.toWire)) = .ok p.edges := by
    have hmap : Reading.itemsFrom readEdge 0 (p.edges.map Edge.toWire) = .ok (p.edges.map id) :=
      Reading.itemsFrom_map 0 p.edges fun e _ => readEdge_toWire e
    rwa [List.map_id] at hmap
  obtain ⟨project, env, region, location, nodes, edges⟩ := p
  cases location <;>
    simp [read, toWire, unlessUnset, Reading.record, Reading.field, Reading.fieldOr,
      Reading.firstPresent?, Table.get?, Reading.text, Reading.map, Reading.andThen, Reading.both,
      Reading.under, Reading.optional, hnodes, hedges, sent]

theorem toWire_sent_node (n : Node) : n.sent.toWire = n.toWire := by
  have hagain : (Document.obj n.props).finiteOrNull.finiteOrNull =
      (Document.obj n.props).finiteOrNull :=
    Document.finiteOrNull_of_allFinite _ (Document.allFinite_finiteOrNull _)
  rw [Node.toWire, Node.toWire, ← hagain]
  rfl

theorem toWire_sent (p : Payload) : p.sent.toWire = p.toWire := by
  have hnodes : p.sent.nodes.map Node.toWire = p.nodes.map Node.toWire := by
    rw [sent, List.map_map]
    exact List.map_congr_left fun n _ => toWire_sent_node n
  rw [toWire, toWire, hnodes]
  rfl

theorem isWritable_sent_node (n : Node) : n.sent.isWritable = n.isWritable := by
  have hheight : (Document.obj n.sent.props).height = (Document.obj n.props).height :=
    Document.height_finiteOrNull (.obj n.props)
  rw [Bool.eq_iff_iff, Node.isWritable_iff, Node.isWritable_iff, hheight]

theorem write_sent (p : Payload) : p.sent.write = p.write := by
  have hwritable : p.sent.isWritable = p.isWritable := by
    rw [isWritable, isWritable, sent, List.all_map]
    exact congrArg p.nodes.all (funext isWritable_sent_node)
  rw [write, write, hwritable, toWire_sent]

/-- The document is an object none of whose own fields is null. -/
def HasNoNull (v : Json) : Prop :=
  ∃ fields, v = .obj fields ∧ ∀ entry ∈ fields, entry.2 ≠ .null

theorem hasNoNull_toWire (p : Payload) : HasNoNull p.toWire := by
  refine ⟨_, rfl, ?_⟩
  cases p.location <;> simp [unlessUnset]

theorem hasNoNull_toWire_edge (e : Edge) : HasNoNull e.toWire := by
  obtain ⟨source, target, intent, path, method, batchSize⟩ := e
  refine ⟨_, rfl, ?_⟩
  cases path <;> cases method <;> cases batchSize <;> simp [unlessUnset]

/-- What is sent for a plan is read back as the payload, and written again it is the same
document. The nulls among the settings of a node survive, and elsewhere there are none: a part that
is unset is left out. -/
theorem read_toWire_of_build (config : Configuration) (plan : Plan) (provider : Json) (p : Provider)
    (project env : Option String) (hp : Provider.choose provider = .ok p) :
    ∃ payload q, build config plan provider project env = .ok payload ∧
      read payload.toWire = .ok q ∧ q.toWire = payload.toWire ∧ q.write = payload.write ∧
      q.canonicalText = payload.canonicalText ∧ q.location = payload.location ∧
      q.edges = payload.edges ∧
      q.nodes = payload.nodes.map
        (fun n => { n with props := Document.finiteOrNullFields n.props }) ∧
      HasNoNull payload.toWire ∧ ∀ e ∈ payload.edges, HasNoNull e.toWire := by
  refine ⟨buildFor config plan p project env, (buildFor config plan p project env).sent,
    build_of_choose hp config plan project env, read_toWire _, toWire_sent _, write_sent _, ?_, rfl,
    rfl, rfl, hasNoNull_toWire _, fun e _ => hasNoNull_toWire_edge e⟩
  rw [canonicalText, canonicalText, write_sent]

/-- A queue that feeds a function in batches. Its plan was written by hand, with a property that is
null and another that no document can hold. -/
def batched : Plan where
  region := "eu-west-1"
  variableTable := []
  nodes := [⟨"q", .other, "q", [("a", .null), ("b", .num (.float .nan))]⟩,
    ⟨"s", .sqs, "s", []⟩, ⟨"f", .lambda, "f", []⟩]
  edges := [⟨"", "s", "f", [("batchSize", .str "10")]⟩]

theorem read_toWire_of_build_batched :
    Provider.choose .null = .ok .aws ∧
      ∃ payload q, build .standard batched .null none none = .ok payload ∧
        read payload.toWire = .ok q ∧ q.toWire = payload.toWire ∧
        (q.nodes.map (·.props)).head? = some [("a", .null), ("b", .null)] ∧
        q.edges.map (·.batchSize) = [some (.int 10)] := by
  have hp : Provider.choose .null = .ok .aws := rfl
  obtain ⟨payload, q, hbuild, hread, hwire, -, -, -, hedges, hnodes, -⟩ :=
    read_toWire_of_build .standard batched .null .aws none none hp
  have hpayload : payload = buildFor .standard batched .aws none none :=
    Except.ok.inj (hbuild.symm.trans (build_of_choose hp .standard batched none none))
  refine ⟨hp, payload, q, hbuild, hread, hwire, ?_, ?_⟩
  · rw [hnodes, hpayload]
    decide +kernel
  · rw [hedges, hpayload]
    decide +kernel

end Payload

end CloudCanvas
