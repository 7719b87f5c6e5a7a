import CloudCanvas.Proofs.Payload.Nodes
import CloudCanvas.Proofs.Plan.Alike

/-!
The edges of a payload. An edge has the intent of the table for the kinds at its ends. Only a route
from an API into a function has a path and a method, and only an edge that feeds a function in
batches has a size for them; all three come from what the user entered for that very edge. The kind
at an end is that of the last node of its id.
-/

namespace CloudCanvas

open Document (getField)

/-- The pairs of kinds that have an intent of their own. -/
def Intent.tabled? : ResourceKind → ResourceKind → Option Intent
  | .awsS3, .awsSqs | .awsS3, .awsLambda | .awsS3, .awsSns | .awsS3, .awsEventsRule => some .notify
  | .awsSns, .awsLambda | .awsSns, .awsSqs => some .deliver
  | .awsSqs, .awsLambda => some .consume
  | .awsEventsRule, .awsLambda => some .notify
  | .awsApigw, .awsLambda => some .invoke
  | .awsDynamodb, .awsLambda => some .consume
  | .awsLambda, .awsDynamodb => some .write
  | .awsLambda, .awsSfn => some .invoke
  | .awsKinesis, .awsLambda => some .consume
  | .gcpStorage, .gcpPubsub => some .notify
  | .gcpPubsub, .gcpRun => some .notify
  | .gcpRun, .gcpSecretManager => some .access
  | _, _ => none

theorem Intent.ofKinds_eq (source target : ResourceKind) :
    ofKinds source target = (tabled? source target).getD .notify := by
  have hall : ∀ s ∈ ResourceKind.all, ∀ t ∈ ResourceKind.all,
      ofKinds s t = (tabled? s t).getD .notify := by decide
  exact hall source (ResourceKind.mem_all source) target (ResourceKind.mem_all target)

namespace Payload

theorem isRoute_iff (source target : ResourceKind) :
    isRoute (some source) (some target) = true ↔ source = .awsApigw ∧ target = .awsLambda := by
  have hapi : source.family = .apiGateway ↔ source = .awsApigw := by cases source <;> decide
  have hfunction : target.family = .function ↔ target = .awsLambda := by cases target <;> decide
  simp [isRoute, Family.ofKind?, hapi, hfunction]

/-- The kinds whose messages a function takes in batches. -/
def batchSources : List ResourceKind :=
  [.awsSqs, .awsDynamodb, .awsKinesis]

theorem isBatch_iff (source target : ResourceKind) :
    isBatch (some source) (some target) = true ↔ source ∈ batchSources ∧ target = .awsLambda := by
  have hsource : source.family ∈ [Family.queue, .table, .stream] ↔ source ∈ batchSources := by
    cases source <;> decide
  have hfunction : target.family = .function ↔ target = .awsLambda := by cases target <;> decide
  rw [← hsource, ← hfunction]
  simp [isBatch, Family.ofKind?]

/-- A kind that is not modelled stands in no row of the table, nor at an end of a route or of an
edge in batches. -/
theorem plain_of_isOther {source target : ResourceKind}
    (h : source.isOther = true ∨ target.isOther = true) :
    Intent.tabled? source target = none ∧ ¬ (source = .awsApigw ∧ target = .awsLambda) ∧
      ¬ (source ∈ batchSources ∧ target = .awsLambda) := by
  have hall : ∀ s ∈ ResourceKind.all, ∀ t ∈ ResourceKind.all, s.isOther = true ∨ t.isOther = true →
      Intent.tabled? s t = none ∧ ¬ (s = .awsApigw ∧ t = .awsLambda) ∧
        ¬ (s ∈ batchSources ∧ t = .awsLambda) := by decide
  exact hall source (ResourceKind.mem_all source) target (ResourceKind.mem_all target) h

/-- The last node of that id, to which its edges belong, is deployed as that kind. -/
def LastKind (nodes : List Node) (id : String) (kind : ResourceKind) : Prop :=
  ∃ before n after, nodes = before ++ n :: after ∧ n.id = id ∧ (∀ m ∈ after, m.id ≠ id) ∧
    n.kind = kind.name

/-- The fields on the wire of an edge of the canvas, given the kinds at its ends. -/
structure IsWireEdge (fields : Table Json) (e : Canvas.Edge) (source target : ResourceKind) :
    Prop where
  named : ∀ key ∈ fields.keys, key ∈ ["from", "to", "intent", "path", "method", "batchSize"]
  leaves : fields.get? "from" = some (.str e.source)
  enters : fields.get? "to" = some (.str e.target)
  intent : fields.get? "intent" = some (.str ((Intent.tabled? source target).getD .notify).name)
  path : fields.get? "path" =
    if source = .awsApigw ∧ target = .awsLambda then
      some (.str (if (getField e.props "path").truthy then (getField e.props "path").display
        else "/"))
    else none
  method : fields.get? "method" =
    if source = .awsApigw ∧ target = .awsLambda then
      some (.str (if (getField e.props "method").truthy then (getField e.props "method").display
        else "ANY"))
    else none
  batchSize : fields.get? "batchSize" =
    if source ∈ batchSources ∧ target = .awsLambda then
      (Settings.number? (getField e.props "batchSize")).map .num
    else none

theorem exists_toWire (e : Edge) :
    ∃ fields : Table Json, e.toWire = .obj fields ∧
      (∀ key ∈ fields.keys, key ∈ ["from", "to", "intent", "path", "method", "batchSize"]) ∧
      fields.get? "from" = some (.str e.source) ∧ fields.get? "to" = some (.str e.target) ∧
      fields.get? "intent" = some (.str e.intent.name) ∧
      fields.get? "path" = e.path.map .str ∧ fields.get? "method" = e.method.map .str ∧
      fields.get? "batchSize" = e.batchSize.map .num := by
  obtain ⟨source, target, intent, path, method, batchSize⟩ := e
  refine ⟨_, rfl, ?_, rfl, rfl, rfl, ?_, ?_, ?_⟩ <;>
    cases path <;> cases method <;> cases batchSize <;>
      simp [unlessUnset, Table.get?, Table.keys]

/-- The wire edge of a plan edge says what the canvas edge says, if the plan edge joins the same
ids and still has the path, the method and the batch size that were entered. -/
theorem exists_isWireEdge {plan : Plan} {p : Provider} {made : Plan.Edge} {e : Canvas.Edge}
    {source target : ResourceKind} (hends : made.ends = e.ends)
    (hprops : ∀ key, key ∉ Plan.storageKeys → made.props.get? key = e.props.get? key)
    (hsource : endKind? plan p made.source = some source)
    (htarget : endKind? plan p made.target = some target) :
    ∃ fields, (ofPlanEdge plan p made).toWire = .obj fields ∧
      IsWireEdge fields e source target := by
  obtain ⟨hleaves, henters⟩ := Prod.mk.inj hends
  have hfield : ∀ key, key ∉ Plan.storageKeys → getField made.props key = getField e.props key := by
    intro key hkey
    rw [getField, getField, hprops key hkey]
  obtain ⟨fields, hwire, hnamed, hfrom, hto, hintent, hpath, hmethod, hbatch⟩ :=
    exists_toWire (ofPlanEdge plan p made)
  refine ⟨fields, hwire, hnamed, ?_, ?_, ?_, ?_, ?_, ?_⟩
  · rw [hfrom, ← hleaves]
    rfl
  · rw [hto, ← henters]
    rfl
  · simp only [hintent, ofPlanEdge, hsource, htarget, Intent.ofEnds, Intent.ofKinds_eq]
  · simp only [hpath, ofPlanEdge, hsource, htarget, isRoute_iff, textOr,
      hfield "path" (by decide)]
    split <;> rfl
  · simp only [hmethod, ofPlanEdge, hsource, htarget, isRoute_iff, textOr,
      hfield "method" (by decide)]
    split <;> rfl
  · simp only [hbatch, ofPlanEdge, hsource, htarget, isBatch_iff, hfield "batchSize" (by decide)]
    split <;> rfl

section Wire

variable {fields : Table Json} {e : Canvas.Edge} {source target : ResourceKind}
  (h : IsWireEdge fields e source target)
include h

/-- No API sends in batches, so an edge never has both a route and a size. -/
theorem IsWireEdge.route_or_batch :
    fields.get? "path" = none ∧ fields.get? "method" = none ∨ fields.get? "batchSize" = none := by
  by_cases hroute : source = .awsApigw ∧ target = .awsLambda
  · right
    have hnot : ¬ (source ∈ batchSources ∧ target = .awsLambda) := by
      rw [hroute.1]
      exact fun hbatch => absurd hbatch.1 (by decide)
    rw [h.batchSize, if_neg hnot]
  · left
    rw [h.path, h.method, if_neg hroute, if_neg hroute]
    exact ⟨rfl, rfl⟩

/-- Of an edge at a resource that is not modelled nothing is said but that it notifies. -/
theorem IsWireEdge.bare_of_isOther (hother : source.isOther = true ∨ target.isOther = true) :
    fields.get? "intent" = some (.str Intent.notify.name) ∧ fields.get? "path" = none ∧
      fields.get? "method" = none ∧ fields.get? "batchSize" = none := by
  obtain ⟨huntabled, hroute, hbatch⟩ := plain_of_isOther hother
  rw [h.intent, h.path, h.method, h.batchSize, huntabled, if_neg hroute, if_neg hroute,
    if_neg hbatch]
  exact ⟨rfl, rfl, rfl, rfl⟩

end Wire

/-- The kind of an id is found among the kinds of the nodes from the back. -/
theorem lastKind_iff (nodes : List Node) (id : String) (kind : ResourceKind) :
    LastKind nodes id kind ↔
      ((nodes.map fun n => (n.id, n.kind)).reverse.find? fun entry => entry.1 = id) =
        some (id, kind.name) := by
  rw [← List.map_reverse, List.find?_map, Option.map_eq_some_iff]
  simp only [List.find?_eq_some_iff_append, Function.comp]
  constructor
  · rintro ⟨before, n, after, hnodes, hn, hafter, hkind⟩
    refine ⟨n, ⟨by simpa using hn, after.reverse, before.reverse, ?_, fun m hm => ?_⟩, ?_⟩
    · rw [hnodes, List.reverse_append, List.reverse_cons, List.append_assoc,
        List.singleton_append]
    · simpa using hafter m (List.mem_reverse.1 hm)
    · rw [hn, hkind]
  · rintro ⟨n, ⟨-, after, before, hnodes, hafter⟩, hentry⟩
    obtain ⟨hid, hkind⟩ := Prod.mk.inj hentry
    have hsplit : nodes = before.reverse ++ n :: after.reverse := by
      rw [← List.reverse_reverse nodes, hnodes, List.reverse_append, List.reverse_cons,
        List.append_assoc, List.singleton_append]
    refine ⟨before.reverse, n, after.reverse, hsplit, hid, fun m hm => ?_, hkind⟩
    simpa using hafter m (List.mem_reverse.1 hm)

/-- There is one last node of an id, so there is one kind at an end. -/
theorem LastKind.unique {nodes : List Node} {id : String} {k l : ResourceKind}
    (hk : LastKind nodes id k) (hl : LastKind nodes id l) : k = l := by
  have hfound := ((lastKind_iff nodes id k).1 hk).symm.trans ((lastKind_iff nodes id l).1 hl)
  exact ResourceKind.name_injective (Prod.mk.inj (Option.some.inj hfound)).2

/-- Plan and payload mean the same node by an id. -/
theorem lastKind_buildFor {plan : Plan} {id : String} {n : Plan.Node}
    (h : Plan.endpoint? plan.nodes id = some n) (config : Configuration) (p : Provider)
    (project env : Option String) :
    LastKind (buildFor config plan p project env).nodes id (n.type.kindFor p) := by
  have hkinds : (buildFor config plan p project env).nodes.map (fun n => (n.id, n.kind)) =
      plan.nodes.map fun n => (n.id, (n.type.kindFor p).name) := by
    simp only [buildFor, List.map_map]
    rfl
  have hn : n.id = id := (Plan.mem_of_endpoint? h).2
  have hlast : plan.nodes.reverse.find? (fun n => n.id = id) = some n := h
  rw [lastKind_iff, hkinds, ← List.map_reverse, List.find?_map]
  simp only [Function.comp_def, hlast, Option.map_some, hn]

end Payload

end CloudCanvas
