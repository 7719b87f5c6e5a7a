import CloudCanvas.Proofs.Compilation.Edges
import CloudCanvas.Proofs.Document.Grammar
import CloudCanvas.Proofs.Document.RoundTrip
import CloudCanvas.Proofs.Payload.Alike
import CloudCanvas.Proofs.Payload.Writable

/-!
The canonical text of a payload. A payload with settings that are nested too deep has none, as it
has no wire object. Any other text is a document of the standard grammar, whatever numbers the
settings hold, and it stands for the payload up to the order of fields. So two payloads have the
same text just when the backend is sent the same, and a change of either is noticed by the other.
-/

namespace CloudCanvas

open Document (Alike AlikeFields)

/-- No properties of a node have a name twice in one object, at any depth. -/
def Plan.HasWellFormedProps (plan : Plan) : Prop :=
  ∀ n ∈ plan.nodes, (Document.obj n.props).WellFormed

theorem Plan.HasWellFormedProps.alike {plan : Plan} (h : plan.HasWellFormedProps) :
    plan.Alike plan where
  region := rfl
  nodes := List.forall₂_same.2 fun n hn =>
    ⟨rfl, rfl, rfl, Document.alike_obj_iff.1 (.refl (h n hn))⟩
  edges := List.forall₂_same.2 fun _ _ => ⟨rfl, rfl, fun _ _ => rfl⟩

namespace Payload

/-- The payload has been built from a plan. -/
def IsBuilt (p : Payload) : Prop :=
  ∃ config plan provider project env, plan.HasWellFormedProps ∧
    build config plan provider project env = .ok p

theorem exists_buildFor_of_build {config : Configuration} {plan : Plan} {provider : Json}
    {project env : Option String} {payload : Payload}
    (h : build config plan provider project env = .ok payload) :
    ∃ p, payload = buildFor config plan p project env := by
  unfold build at h
  cases hp : Provider.choose provider with
  | error cause =>
    rw [hp] at h
    cases h
  | ok p =>
    rw [hp] at h
    exact ⟨p, (Except.ok.inj h).symm⟩

theorem IsBuilt.wellFormed_toWire {p : Payload} (h : p.IsBuilt) : p.toWire.WellFormed := by
  obtain ⟨config, plan, provider, project, env, hplan, hbuild⟩ := h
  obtain ⟨owner, rfl⟩ := exists_buildFor_of_build hbuild
  exact (alike_buildFor hplan.alike owner config project env).toWire.wellFormed

theorem isFinite_of_number? {v : Json} {n : Number} (h : Settings.number? v = some n) :
    n.isFinite = true := by
  have hplain := Settings.isPlain_of_number? h
  cases n with
  | int n => rfl
  | float x => exact hplain.1

/-- An edge has no number but the size of its batches. -/
theorem allFinite_toWire_edge {e : Edge} (h : ∀ n ∈ e.batchSize, n.isFinite = true) :
    e.toWire.allFinite = true := by
  obtain ⟨source, target, intent, path, method, batchSize⟩ := e
  cases path <;> cases method <;> cases batchSize <;>
    simp_all [Edge.toWire, unlessUnset, Document.allFinite, Document.allFiniteFields]

theorem isFinite_of_mem_batchSize {plan : Plan} {p : Provider} {e : Plan.Edge} :
    ∀ n ∈ (ofPlanEdge plan p e).batchSize, n.isFinite = true := by
  intro n hn
  unfold ofPlanEdge at hn
  dsimp only at hn
  split_ifs at hn
  · exact isFinite_of_number? hn
  · cases hn

theorem allFinite_toWire_of_edges {p : Payload}
    (h : ∀ e ∈ p.edges, ∀ n ∈ e.batchSize, n.isFinite = true) : p.toWire.allFinite = true := by
  have hnodes : Document.allFiniteItems (p.nodes.map Node.toWire) = true := by
    refine Document.allFiniteItems_iff.2 fun v hv => ?_
    obtain ⟨n, -, rfl⟩ := List.mem_map.1 hv
    simp [Node.toWire, Document.allFinite, Document.allFiniteFields,
      Document.allFinite_finiteOrNull]
  have hedges : Document.allFiniteItems (p.edges.map Edge.toWire) = true := by
    refine Document.allFiniteItems_iff.2 fun v hv => ?_
    obtain ⟨e, he, rfl⟩ := List.mem_map.1 hv
    exact allFinite_toWire_edge (h e he)
  unfold Payload.toWire
  cases p.location <;>
    simp [unlessUnset, Document.allFinite, Document.allFiniteFields, hnodes, hedges]

theorem IsBuilt.allFinite_toWire {p : Payload} (h : p.IsBuilt) : p.toWire.allFinite = true := by
  obtain ⟨config, plan, provider, project, env, hplan, hbuild⟩ := h
  obtain ⟨owner, rfl⟩ := exists_buildFor_of_build hbuild
  refine allFinite_toWire_of_edges fun e he => ?_
  obtain ⟨made, -, rfl⟩ := List.mem_map.1 he
  exact isFinite_of_mem_batchSize

/-- The wire object and the text of a payload are missing together, for settings that are nested too
deep and for nothing else. Two payloads that are written have one text exactly when they are the
same on the wire, but for the order of fields; and every text is in the standard grammar and in
ASCII. -/
theorem canonicalText_eq_iff (p q : Payload) (hp : p.IsBuilt) (hq : q.IsBuilt) :
    (p.canonicalText = .error .tooDeep ↔ p.write = .error .tooDeep) ∧
      (p.write = .error .tooDeep ↔
        ∃ n ∈ p.nodes, ∃ entry ∈ n.props, heightLimit < entry.2.height) ∧
      (∀ v w, p.write = .ok v → q.write = .ok w →
        ∃ s t, p.canonicalText = .ok s ∧ q.canonicalText = .ok t ∧ (s = t ↔ v.Alike w)) ∧
      ∀ s, p.canonicalText = .ok s →
        Document.Grammar.Value s.toList ∧ Document.IsAscii s.toList := by
  refine ⟨canonicalText_eq_error_iff, write_eq_error_iff.trans isWritable_eq_false_iff, ?_, ?_⟩
  · intro v w hv hw
    obtain ⟨hpw, rfl⟩ := write_eq_ok_iff.1 hv
    obtain ⟨hqw, rfl⟩ := write_eq_ok_iff.1 hw
    exact ⟨_, _, canonicalText_eq_ok_iff.2 ⟨hpw, rfl⟩, canonicalText_eq_ok_iff.2 ⟨hqw, rfl⟩,
      Document.canonical_eq_iff hp.wellFormed_toWire hq.wellFormed_toWire⟩
  · intro s hs
    obtain ⟨-, rfl⟩ := canonicalText_eq_ok_iff.1 hs
    rw [Document.canonical, Document.render, String.toList_ofList]
    have hfinite : p.toWire.sorted.allFinite = true :=
      (Document.alike_sorted hp.wellFormed_toWire).symm.allFinite hp.allFinite_toWire
    exact ⟨Document.value_write Document.isGap_compact 0 hfinite,
      Document.isAscii_write Document.isGap_compact 0 _⟩

/-- A node of no kind, which keeps its properties as they are. -/
def passing (props : Table Json) : Plan where
  region := "eu-west-1"
  variableTable := []
  nodes := [⟨"n", .other, "n", props⟩]
  edges := []

theorem isBuilt_passing {props : Table Json} (h : (Document.obj props).WellFormed) :
    (buildFor .standard (passing props) .aws none none).IsBuilt :=
  ⟨.standard, passing props, .null, none, none, by simpa [passing, Plan.HasWellFormedProps], rfl⟩

theorem alike_passing {a b : Table Json} (h : Document.Alike (.obj a) (.obj b)) :
    (passing a).Alike (passing b) :=
  ⟨rfl, .cons ⟨rfl, rfl, rfl, Document.alike_obj_iff.1 h⟩ .nil, .nil⟩

/-- Settings with a number that no document can hold. -/
def turned (inner : Table Json) : Table Json :=
  [("é", .num (.float .nan)), ("b", .obj inner)]

theorem canonicalText_eq_iff_turned :
    ∃ p q : Payload, p.IsBuilt ∧ q.IsBuilt ∧ p ≠ q ∧ ∃ s, p.canonicalText = .ok s ∧
      q.canonicalText = .ok s ∧ Document.Grammar.Value s.toList ∧ Document.IsAscii s.toList := by
  have hinner : Document.Alike (.obj [("x", .num (.int 1)), ("y", .null)])
      (.obj [("y", .null), ("x", .num (.int 1))]) :=
    .obj_of_perm (.swap _ _ _) (by simp [Document.WellFormed, Document.WellFormedFields])
  have houter : Document.Alike (.obj (turned [("x", .num (.int 1)), ("y", .null)]))
      (.obj (turned [("y", .null), ("x", .num (.int 1))])) :=
    .obj_of_forall₂ (by decide) (.cons ⟨rfl, .scalar rfl⟩ (.cons ⟨rfl, hinner⟩ .nil))
  have hprops : Document.Alike (.obj (turned [("x", .num (.int 1)), ("y", .null)]))
      (.obj (turned [("y", .null), ("x", .num (.int 1))]).reverse) :=
    houter.trans (.obj_of_perm (List.reverse_perm _).symm houter.symm.wellFormed)
  have hp := isBuilt_passing hprops.wellFormed
  have hq := isBuilt_passing hprops.symm.wellFormed
  have hwire := (alike_buildFor (alike_passing hprops) .aws .standard none none).toWire
  obtain ⟨-, -, htexts, hgrammar⟩ := canonicalText_eq_iff _ _ hp hq
  obtain ⟨s, t, hs, ht, hsame⟩ := htexts _ _ (write_eq_ok_iff.2 ⟨by decide, rfl⟩)
    (write_eq_ok_iff.2 ⟨by decide, rfl⟩)
  obtain rfl := hsame.2 hwire
  obtain ⟨hvalue, hascii⟩ := hgrammar s hs
  exact ⟨_, _, hp, hq, by decide, s, hs, ht, hvalue, hascii⟩

/-- A payload that has been built, and whose only setting is one list too deep to be written. -/
def sunken : Payload :=
  buildFor .standard (passing [("x", Document.buried 255)]) .aws none none

theorem not_exists_canonicalText_sunken :
    sunken.IsBuilt ∧ sunken.canonicalText = .error .tooDeep ∧
      ¬ ∃ s, sunken.canonicalText = .ok s ∧ Document.Grammar.Value s.toList ∧
        Document.IsAscii s.toList := by
  have hbuilt : sunken.IsBuilt :=
    isBuilt_passing ⟨List.nodup_singleton "x", Document.wellFormed_buried 255, trivial⟩
  have hdeep : sunken.isWritable = false :=
    isWritable_eq_false_iff.2 ⟨_, List.mem_singleton_self _, _, List.mem_singleton_self _,
      heightLimit_lt_height_buried⟩
  have htext : sunken.canonicalText = .error .tooDeep :=
    canonicalText_eq_error_iff.2 (write_eq_error_iff.2 hdeep)
  refine ⟨hbuilt, htext, ?_⟩
  rintro ⟨s, hs, -⟩
  rw [htext] at hs
  cases hs

end Payload

end CloudCanvas
