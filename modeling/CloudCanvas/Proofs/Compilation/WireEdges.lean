import CloudCanvas.Proofs.Payload.Edges

/-!
What the edges of a compilation mean on the wire. Every attached edge of the canvas has a wire edge
in its place, whose intent, route and batch size come from the kinds under which the last nodes of
its two ids are deployed and from its own extra properties. Neither the edges beside it nor the
settings it takes over from a bucket have any influence on them.
-/

namespace CloudCanvas

open Canvas (Graph)
open Document (getField)

namespace Payload

/-- The kinds of the nodes of a payload, those of other providers downgraded already. -/
theorem kinds_buildFor (config : Configuration) (g : Graph) (p : Provider)
    (project env : Option String) :
    (buildFor config (Plan.buildFor g p) p project env).nodes.map (fun n => (n.id, n.kind)) =
      g.nodes.map fun n => (n.id, (VisualType.kindFor n.visualType p).name) := by
  rw [buildFor, List.map_map]
  refine map_eq_map_of_forall₂ (Plan.shows_buildFor g p).flip fun planned n h => ?_
  rw [VisualType.kindFor, ← h.type, ← h.id]
  rfl

theorem exists_edges_toWire (payload : Payload) :
    ∃ wire : Table Json, payload.toWire = .obj wire ∧
      wire.get? "edges" = some (.arr (payload.edges.map Edge.toWire)) := by
  refine ⟨_, rfl, ?_⟩
  cases payload.location <;> rfl

end Payload

namespace Compilation

open Payload (LastKind IsWireEdge)

/-- Both ends of an attached edge have a kind, and its wire edge says what they and the edge's own
extra properties amount to. -/
theorem exists_wireEdge {g : Graph} {e : Canvas.Edge} (he : g.Attaches e) (config : Configuration)
    (p : Provider) (project env : Option String) :
    ∃ made, Plan.ofEdge? (Plan.buildFor g p).nodes e = some made ∧
      ∃ source target, ∃ fields : Table Json,
        LastKind (ofGraph config g p project env).payload.nodes e.source source ∧
        LastKind (ofGraph config g p project env).payload.nodes e.target target ∧
        (Payload.ofPlanEdge (Plan.buildFor g p) p made).toWire = .obj fields ∧
        IsWireEdge fields e source target := by
  obtain ⟨s, hs⟩ := Plan.exists_endpoint he.1 p
  obtain ⟨t, ht⟩ := Plan.exists_endpoint he.2 p
  have hsid : s.id = e.source := (Plan.mem_of_endpoint? hs).2
  have htid : t.id = e.target := (Plan.mem_of_endpoint? ht).2
  have hmade : Plan.ofEdge? (Plan.buildFor g p).nodes e =
      some ⟨s.type.name ++ "_to_" ++ t.type.name, s.id, t.id, Plan.edgeProps s t e.props⟩ := by
    simp only [Plan.ofEdge?, hs, ht]
  have hsource : Payload.endKind? (Plan.buildFor g p) p s.id = some (s.type.kindFor p) := by
    rw [Payload.endKind?, hsid, hs, Option.map_some]
  have htarget : Payload.endKind? (Plan.buildFor g p) p t.id = some (t.type.kindFor p) := by
    rw [Payload.endKind?, htid, ht, Option.map_some]
  obtain ⟨fields, hwire, hedge⟩ :=
    Payload.exists_isWireEdge (Plan.ends_of_ofEdge? hmade)
      (fun key hkey => Plan.get?_edgeProps s t e.props hkey) hsource htarget
  exact ⟨_, hmade, _, _, fields, Payload.lastKind_buildFor hs config p project env,
    Payload.lastKind_buildFor ht config p project env, hwire, hedge⟩

/-- The attached edges are on the wire in their order. Each has the intent of the table for the
kinds of the last nodes of its ids; a route into a function has the path and the method of that
edge, an edge that feeds a function in batches the size of that edge, and none has both. An edge
at a resource that is not modelled is a bare notification. -/
theorem edges_on_wire (config : Configuration) (g : Graph) (provider : Json) (p : Provider)
    (project env : Option String) (hp : Provider.choose provider = .ok p) :
    ∃ c wire edges, compile config g provider project env false = .ok c ∧
      Plan.build g provider = .ok c.plan ∧
      Payload.build config c.plan provider project env = .ok c.payload ∧
      c.payload.toWire = .obj wire ∧ (∀ v, c.payload.write = .ok v → v = .obj wire) ∧
      Table.get? wire "edges" = some (.arr edges) ∧
      c.payload.nodes.map (fun n => (n.id, n.kind)) =
        g.nodes.map (fun n => (n.id, (VisualType.kindFor n.visualType p).name)) ∧
      List.Forall₂ (fun e w => ∃ source target, ∃ fields : Table Json,
          LastKind c.payload.nodes e.source source ∧ LastKind c.payload.nodes e.target target ∧
          w = .obj fields ∧ IsWireEdge fields e source target ∧
          (fields.get? "path" = none ∧ fields.get? "method" = none ∨
            fields.get? "batchSize" = none) ∧
          (source.isOther = true ∨ target.isOther = true →
            fields.get? "intent" = some (.str Intent.notify.name) ∧ fields.get? "path" = none ∧
              fields.get? "method" = none ∧ fields.get? "batchSize" = none))
        g.attachedEdges edges := by
  obtain ⟨wire, hwire, hedges⟩ :=
    Payload.exists_edges_toWire (ofGraph config g p project env).payload
  refine ⟨ofGraph config g p project env, wire, _, compile_reporting hp config g project env,
    Plan.build_of_choose hp g, Payload.build_of_choose hp config _ project env, hwire, ?_, hedges,
    Payload.kinds_buildFor config g p project env, ?_⟩
  · intro v hv
    rw [← hwire, (Payload.write_eq_ok_iff.1 hv).2]
  have hplanned : (ofGraph config g p project env).payload.edges =
      (g.attachedEdges.filterMap (Plan.ofEdge? (Plan.buildFor g p).nodes)).map
        (Payload.ofPlanEdge (Plan.buildFor g p) p) := by
    rw [Plan.filterMap_ofEdge?_attachedEdges]
    rfl
  rw [hplanned, List.map_map, List.forall₂_map_right_iff]
  apply forall₂_filterMap
  intro e he
  have hattached : g.Attaches e := by simpa using (List.mem_filter.1 he).2
  obtain ⟨made, hmade, source, target, fields, hsource, htarget, hfields, hedge⟩ :=
    exists_wireEdge hattached config p project env
  exact ⟨made, hmade, source, target, fields, hsource, htarget, hfields, hedge,
    hedge.route_or_batch, hedge.bare_of_isOther⟩

/-- Two routes from one API into one function, whose id a bucket has too, and a queue that feeds
the function. The last edge lacks an end. -/
def routed : Graph where
  nodes := [("a", "API Gw"), ("f", "s3"), ("f", "Lambda"), ("q", "sqs")].map fun node =>
    ⟨node.1, node.2, "", .origin, none⟩
  edges :=
    [⟨"a", "f", [("path", .str "/orders"), ("batchSize", .num (.int 3))]⟩,
      ⟨"a", "f", [("path", .null), ("method", .num (.int 5))]⟩,
      ⟨"q", "f", [("path", .str "/x"), ("batchSize", .str " 10\n")]⟩, ⟨"q", "z", []⟩]

theorem edges_on_wire_routed :
    Provider.choose (.str "aws") = .ok .aws ∧
      ∃ c, compile .standard routed (.str "aws") none none false = .ok c ∧
        ∃ wire first second third, c.payload.toWire = .obj wire ∧
          Table.get? wire "edges" = some (.arr [.obj first, .obj second, .obj third]) ∧
          Table.get? first "path" = some (.str "/orders") ∧
          Table.get? first "batchSize" = none ∧
          Table.get? second "path" = some (.str "/") ∧
          Table.get? second "method" = some (.str "5") ∧
          Table.get? third "intent" = some (.str "consume") ∧
          Table.get? third "batchSize" = some (.num (.int 10)) := by
  have hp : Provider.choose (.str "aws") = .ok .aws := rfl
  obtain ⟨c, wire, edges, hc, -, -, hwire, -, hedges, hkinds, hall⟩ :=
    edges_on_wire .standard routed (.str "aws") .aws none none hp
  have ha : LastKind c.payload.nodes "a" .awsApigw := by
    rw [Payload.lastKind_iff, hkinds]
    decide
  have hf : LastKind c.payload.nodes "f" .awsLambda := by
    rw [Payload.lastKind_iff, hkinds]
    decide
  have hq : LastKind c.payload.nodes "q" .awsSqs := by
    rw [Payload.lastKind_iff, hkinds]
    decide
  have hattached : routed.attachedEdges = routed.edges.take 3 := by decide
  rw [hattached] at hall
  obtain ⟨_, others, ⟨_, _, first, hs₁, ht₁, rfl, h₁, -⟩, hothers, rfl⟩ :=
    List.forall₂_cons_left_iff.1 hall
  obtain ⟨_, rest, ⟨_, _, second, hs₂, ht₂, rfl, h₂, -⟩, hrest, rfl⟩ :=
    List.forall₂_cons_left_iff.1 hothers
  obtain ⟨_, none, ⟨_, _, third, hs₃, ht₃, rfl, h₃, -⟩, hnone, rfl⟩ :=
    List.forall₂_cons_left_iff.1 hrest
  obtain rfl := List.forall₂_nil_left_iff.1 hnone
  rw [hs₁.unique ha, ht₁.unique hf] at h₁
  rw [hs₂.unique ha, ht₂.unique hf] at h₂
  rw [hs₃.unique hq, ht₃.unique hf] at h₃
  exact ⟨hp, c, hc, wire, first, second, third, hwire, hedges, h₁.path, h₁.batchSize, h₂.path,
    h₂.method.trans (by decide), h₃.intent, h₃.batchSize.trans (by decide)⟩

end Compilation

end CloudCanvas
