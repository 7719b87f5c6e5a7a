import CloudCanvas.Compilation
import CloudCanvas.Proofs.Plan.Build

/-!
The edges of a compilation. The plan and the payload join exactly the pairs of ids that the
attached edges of the canvas join, in the same order and as often. An edge that is not attached
has no influence on the compilation at all; in particular it does not count among the edges that
leave a bucket.
-/

namespace CloudCanvas

open Canvas (Graph)

namespace Payload

def Edge.ends (e : Edge) : String × String :=
  (e.source, e.target)

theorem ids_buildFor (config : Configuration) (plan : Plan) (p : Provider)
    (project env : Option String) :
    (buildFor config plan p project env).nodes.map (·.id) = plan.nodes.map (·.id) := by
  simp only [buildFor, List.map_map]
  rfl

theorem ends_buildFor (config : Configuration) (plan : Plan) (p : Provider)
    (project env : Option String) :
    (buildFor config plan p project env).edges.map Edge.ends = plan.edges.map Plan.Edge.ends := by
  simp only [buildFor, List.map_map]
  rfl

theorem build_of_choose {provider : Json} {p : Provider}
    (hp : Provider.choose provider = .ok p) (config : Configuration) (plan : Plan)
    (project env : Option String) :
    build config plan provider project env = .ok (buildFor config plan p project env) := by
  rw [build, hp]
  rfl

end Payload

namespace Compilation

/-- Errors do not keep a graph from being compiled when they are only reported. -/
theorem compile_reporting {provider : Json} {p : Provider}
    (hp : Provider.choose provider = .ok p) (config : Configuration) (g : Graph)
    (project env : Option String) :
    compile config g provider project env false = .ok (ofGraph config g p project env) := by
  simp only [compile, gate, hp, Bool.false_and]
  rfl

/-- A graph reaches its compilation only by its plans and its errors. -/
theorem compile_congr {g g' : Graph} (hplan : ∀ p, Plan.buildFor g p = Plan.buildFor g' p)
    (herrors : (Validation.validate g.nodes).errors = (Validation.validate g'.nodes).errors)
    (config : Configuration) (provider : Json) (project env : Option String) (blocking : Bool) :
    compile config g provider project env blocking =
      compile config g' provider project env blocking := by
  have htable : (Validation.validate g.nodes).errorsByNode =
      (Validation.validate g'.nodes).errorsByNode := by
    rw [Validation.Report.errorsByNode, herrors, ← Validation.Report.errorsByNode]
  simp only [compile, gate, ofGraph, hplan, htable]

theorem ofGraph_prune (config : Configuration) (g : Graph) (p : Provider)
    (project env : Option String) :
    ofGraph config g.prune p project env = ofGraph config g p project env := by
  simp only [ofGraph, Plan.buildFor_prune]
  rfl

/-- A compilation has the attached edges of its graph, and no other edge matters to it. -/
theorem edges_eq_attached (config : Configuration) (g : Graph) (provider : Json) (p : Provider)
    (project env : Option String) (hp : Provider.choose provider = .ok p) :
    ∃ c, compile config g provider project env false = .ok c ∧
      Plan.build g provider = .ok c.plan ∧
      Payload.build config c.plan provider project env = .ok c.payload ∧
      c.plan.edges.map Plan.Edge.ends = g.attachedEdges.map Canvas.Edge.ends ∧
      c.payload.edges.map Payload.Edge.ends = g.attachedEdges.map Canvas.Edge.ends ∧
      (∀ e ∈ c.payload.edges,
        e.source ∈ c.payload.nodes.map (·.id) ∧ e.target ∈ c.payload.nodes.map (·.id)) ∧
      compile config g.prune provider project env false = .ok c := by
  have hplan : (Plan.buildFor g p).edges.map Plan.Edge.ends =
      g.attachedEdges.map Canvas.Edge.ends := Plan.ends_buildFor g p
  have hpayload : (ofGraph config g p project env).payload.edges.map Payload.Edge.ends =
      g.attachedEdges.map Canvas.Edge.ends :=
    (Payload.ends_buildFor config _ p project env).trans hplan
  have hids : (ofGraph config g p project env).payload.nodes.map (·.id) = g.ids :=
    (Payload.ids_buildFor config _ p project env).trans (Plan.ids_buildFor g p)
  refine ⟨ofGraph config g p project env, compile_reporting hp config g project env,
    Plan.build_of_choose hp g, Payload.build_of_choose hp config _ project env,
    hplan, hpayload, ?_, ?_⟩
  · intro e he
    have hends : e.ends ∈ g.attachedEdges.map Canvas.Edge.ends := by
      rw [← hpayload]
      exact List.mem_map_of_mem he
    obtain ⟨drawn, hdrawn, heq⟩ := List.mem_map.mp hends
    have hattached : g.Attaches drawn := by simpa using (List.mem_filter.mp hdrawn).2
    obtain ⟨hsource, htarget⟩ := Prod.mk.inj heq
    rw [hids, ← hsource, ← htarget]
    exact hattached
  · rw [compile_reporting hp, ofGraph_prune]

/-- Two buckets of one id, a self loop, parallel edges and two edges without an end. -/
def tangled : Graph where
  nodes := ["a", "b", "a"].map fun id => ⟨id, "s3", "", .origin, none⟩
  edges := [("a", "a"), ("a", "c"), ("b", "a"), ("c", "b"), ("b", "a")].map fun ends =>
    ⟨ends.1, ends.2, []⟩

theorem edges_eq_attached_tangled :
    Provider.choose (.str "AWS") = .ok .aws ∧
      ∃ c, compile .standard tangled (.str "AWS") none none false = .ok c ∧
        c.payload.edges.map Payload.Edge.ends = [("a", "a"), ("b", "a"), ("b", "a")] := by
  have hp : Provider.choose (.str "AWS") = .ok .aws := rfl
  obtain ⟨c, hc, -, -, -, hpayload, -, -⟩ :=
    edges_eq_attached .standard tangled (.str "AWS") .aws none none hp
  refine ⟨hp, c, hc, ?_⟩
  rw [hpayload]
  decide

end Compilation

end CloudCanvas
