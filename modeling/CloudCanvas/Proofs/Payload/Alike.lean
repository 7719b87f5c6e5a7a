import CloudCanvas.Proofs.Plan.Alike
import CloudCanvas.Proofs.Settings.Alike
import CloudCanvas.Payload.Build

/-!
Plans that are alike give payloads that are alike. The order of fields reaches a payload through
the settings of its nodes only: an edge takes whole values from the top of its properties, and
shows them.
-/

namespace CloudCanvas

open Document (Alike AlikeFields)

namespace Payload

structure Node.Alike (n m : Node) : Prop where
  id : n.id = m.id
  kind : n.kind = m.kind
  name : n.name = m.name
  props : AlikeFields n.props m.props

structure Alike (p q : Payload) : Prop where
  project : p.project = q.project
  env : p.env = q.env
  region : p.region = q.region
  location : p.location = q.location
  nodes : List.Forall₂ Node.Alike p.nodes q.nodes
  edges : p.edges = q.edges

section Build

variable {a b : Plan} (h : a.Alike b) (p : Provider)
include h

theorem endKind?_eq (id : String) : endKind? a p id = endKind? b p id := by
  have hrel := Plan.rel_endpoint? h.nodes id
  unfold endKind?
  generalize Plan.endpoint? a.nodes id = n, Plan.endpoint? b.nodes id = m at hrel ⊢
  cases hrel with
  | some hnm => rw [Option.map_some, Option.map_some, hnm.type]
  | none => rfl

theorem hasOutgoing_eq (id : String) : hasOutgoing a id = hasOutgoing b id := by
  have hedges := h.edges
  unfold hasOutgoing
  generalize a.edges = edges, b.edges = others at hedges ⊢
  induction hedges with
  | nil => rfl
  | cons hef _ ih => rw [List.any_cons, List.any_cons, hef.source, ih]

theorem ofPlanEdge_eq {e f : Plan.Edge} (hef : e.Alike f) :
    ofPlanEdge a p e = ofPlanEdge b p f := by
  have hget {key : String} (hkey : key ∉ Plan.storageKeys) :
      Document.getField e.props key = Document.getField f.props key := by
    rw [Document.getField, Document.getField, hef.props key hkey]
  have hpath := hget (show "path" ∉ Plan.storageKeys by decide)
  have hmethod := hget (show "method" ∉ Plan.storageKeys by decide)
  have hbatch := hget (show "batchSize" ∉ Plan.storageKeys by decide)
  simp only [ofPlanEdge, endKind?_eq h, hef.source, hef.target, hpath, hmethod, hbatch]

theorem alike_ofPlanNode {n m : Plan.Node} (hnm : n.Alike m) :
    (ofPlanNode a p n).Alike (ofPlanNode b p m) := by
  have hsettings : AlikeFields
      (Settings.normalize (.kind (m.type.kindFor p)) (.obj n.props))
      (Settings.normalize (.kind (m.type.kindFor p)) (.obj m.props)) :=
    Settings.alike_normalize _ (Document.alike_obj_iff.2 hnm.props)
  refine ⟨hnm.id, ?_, hnm.name, ?_⟩
  · simp only [ofPlanNode, hnm.type]
  · simp only [ofPlanNode, hnm.type, hnm.id, hasOutgoing_eq h]
    -- whether the setting is inferred depends on its being null, not on where it stands
    have hnull := (hsettings.getField "eventBridge").isNull
    unfold inferEvents infersEvents
    rw [hnull]
    split_ifs
    · exact hsettings.set (.scalar rfl)
    · exact hsettings

theorem alike_buildFor (config : Configuration) (project env : Option String) :
    (buildFor config a p project env).Alike (buildFor config b p project env) := by
  have hregion := h.region
  refine ⟨rfl, rfl, ?_, ?_, ?_, ?_⟩
  · simp only [buildFor, hregion]
  · simp only [buildFor, hregion]
  · rw [buildFor, buildFor, List.forall₂_map_left_iff, List.forall₂_map_right_iff]
    exact h.nodes.imp fun n m hnm => alike_ofPlanNode h p hnm
  · exact map_eq_map_of_forall₂ h.edges fun e f hef => ofPlanEdge_eq h p hef

end Build

theorem Node.Alike.toWire {n m : Node} (h : n.Alike m) : Document.Alike n.toWire m.toWire := by
  have hprops := (Document.alike_obj_iff.2 h.props).finiteOrNull
  have hentries : List.Forall₂ (fun x y => x.1 = y.1 ∧ Document.Alike x.2 y.2)
      [("id", .str n.id), ("kind", .str n.kind), ("name", .str n.name),
        ("props", (Document.obj n.props).finiteOrNull)]
      [("id", .str m.id), ("kind", .str m.kind), ("name", .str m.name),
        ("props", (Document.obj m.props).finiteOrNull)] := by
    rw [h.id, h.kind, h.name]
    exact .cons ⟨rfl, .scalar rfl⟩ (.cons ⟨rfl, .scalar rfl⟩ (.cons ⟨rfl, .scalar rfl⟩
      (.cons ⟨rfl, hprops⟩ .nil)))
  exact .obj_of_forall₂ (show ["id", "kind", "name", "props"].Nodup by decide) hentries

theorem wellFormed_toWire_edge (e : Edge) : e.toWire.WellFormed := by
  obtain ⟨source, target, intent, path, method, batchSize⟩ := e
  cases path <;> cases method <;> cases batchSize <;>
    simp [Edge.toWire, unlessUnset, Document.WellFormed, Document.WellFormedFields]

theorem Alike.toWire {p q : Payload} (h : p.Alike q) : Document.Alike p.toWire q.toWire := by
  have hnodes : Document.Alike (.arr (p.nodes.map Node.toWire))
      (.arr (q.nodes.map Node.toWire)) := by
    apply Document.Alike.arr_of_forall₂
    rw [List.forall₂_map_left_iff, List.forall₂_map_right_iff]
    exact h.nodes.imp fun _ _ hnm => hnm.toWire
  have hedges : Document.Alike (.arr (q.edges.map Edge.toWire))
      (.arr (q.edges.map Edge.toWire)) := by
    apply Document.Alike.arr_of_forall₂
    rw [List.forall₂_map_left_iff, List.forall₂_map_right_iff, List.forall₂_same]
    exact fun e _ => .refl (wellFormed_toWire_edge e)
  unfold Payload.toWire
  rw [h.project, h.env, h.region, h.location, h.edges]
  refine .obj_of_forall₂ ?_ ?_
  · cases q.location <;> simp [Table.keys, unlessUnset]
  · cases q.location with
    | none =>
      exact .cons ⟨rfl, .scalar rfl⟩ (.cons ⟨rfl, .scalar rfl⟩ (.cons ⟨rfl, .scalar rfl⟩
        (.cons ⟨rfl, hnodes⟩ (.cons ⟨rfl, hedges⟩ .nil))))
    | some location =>
      exact .cons ⟨rfl, .scalar rfl⟩ (.cons ⟨rfl, .scalar rfl⟩ (.cons ⟨rfl, .scalar rfl⟩
        (.cons ⟨rfl, .scalar rfl⟩ (.cons ⟨rfl, hnodes⟩ (.cons ⟨rfl, hedges⟩ .nil)))))

theorem Node.isWritable_iff (n : Node) :
    n.isWritable = true ↔ (Document.obj n.props).height ≤ heightLimit + 1 := by
  rw [Document.height, Nat.succ_le_succ_iff, Document.fieldsHeight_le_iff]
  simp [isWritable]

theorem Alike.isWritable {p q : Payload} (h : p.Alike q) : p.isWritable = q.isWritable := by
  have hnodes := h.nodes
  unfold Payload.isWritable
  generalize p.nodes = ns, q.nodes = ms at hnodes ⊢
  induction hnodes with
  | nil => rfl
  | @cons n m _ _ hnm _ ih =>
    have hnode : n.isWritable = m.isWritable := by
      rw [Bool.eq_iff_iff, Node.isWritable_iff, Node.isWritable_iff,
        (Document.alike_obj_iff.2 hnm.props).height_eq]
    rw [List.all_cons, List.all_cons, hnode, ih]

/-- Payloads that are alike are written as one text, or neither is written. -/
theorem Alike.canonicalText_eq {p q : Payload} (h : p.Alike q) :
    p.canonicalText = q.canonicalText := by
  have hcanonical : p.toWire.canonical = q.toWire.canonical := by
    rw [Document.canonical, Document.canonical, h.toWire.sorted_eq]
  unfold canonicalText write
  rw [h.isWritable]
  split_ifs
  · exact congrArg Except.ok hcanonical
  · rfl

end Payload

end CloudCanvas
