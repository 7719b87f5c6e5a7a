import CloudCanvas.Proofs.Compilation.Edges
import CloudCanvas.Proofs.Plan.Names

/-!
The names in a compilation. A node is named by a text that is not blank, or by its place in the
graph, so planning never takes a name from the counter: it hands the counter on as it was, and the
plan is the same for every value of it. All names are settled, in the plan and on the wire.
-/

namespace CloudCanvas

open Canvas (Graph)

namespace Plan

theorem buildFrom_of_choose {provider : Json} {p : Provider}
    (hp : Provider.choose provider = .ok p) (g : Graph) (counter : Int) :
    buildFrom counter g provider = .ok (buildFor g p, counter) := by
  rw [buildFrom, resolveRegion_of_choose hp, buildFor, Except.map, buildIn_eq]

theorem isSettled_of_mem_buildFor {g : Graph} {p : Provider} {n : Node}
    (hn : n ∈ (buildFor g p).nodes) : Naming.IsSettled n.name := by
  rw [nodes_buildFor_eq] at hn
  obtain ⟨place, hplace, heq⟩ := List.mem_mapIdx.1 hn
  rw [← heq, name_nodeIn]
  exact isSettled_nameIn place g.nodes[place]

end Plan

namespace Payload

theorem names_buildFor (config : Configuration) (plan : Plan) (p : Provider)
    (project env : Option String) :
    (buildFor config plan p project env).nodes.map (·.name) = plan.nodes.map (·.name) := by
  simp only [buildFor, List.map_map]
  rfl

end Payload

namespace Compilation

/-- The plan of a graph does not depend on the counter for fallback names and leaves it alone.
Every name in it, and on the wire, would be made into itself by naming it again. -/
theorem names_settled (g : Graph) (provider : Json) (p : Provider)
    (hp : Provider.choose provider = .ok p) :
    ∃ plan, (∀ counter, Plan.buildFrom counter g provider = .ok (plan, counter)) ∧
      plan.nodes.map (·.id) = g.ids ∧
      (∀ n ∈ plan.nodes, Naming.IsSettled n.name) ∧
      ∀ config project env, ∃ payload,
        Payload.build config plan provider project env = .ok payload ∧
        payload.nodes.map (·.name) = plan.nodes.map (·.name) ∧
        ∀ w ∈ payload.nodes, Naming.IsSettled w.name := by
  refine ⟨Plan.buildFor g p, Plan.buildFrom_of_choose hp g, Plan.ids_buildFor g p,
    fun n hn => Plan.isSettled_of_mem_buildFor hn, fun config project env => ?_⟩
  have hnames := Payload.names_buildFor config (Plan.buildFor g p) p project env
  refine ⟨_, Payload.build_of_choose hp config _ project env, hnames, fun w hw => ?_⟩
  have hname : w.name ∈ (Plan.buildFor g p).nodes.map (·.name) := by
    rw [← hnames]
    exact List.mem_map_of_mem hw
  obtain ⟨n, hn, heq⟩ := List.mem_map.1 hname
  rw [← heq]
  exact Plan.isSettled_of_mem_buildFor hn

/-- A node that shows nothing but blanks, and one whose label has two sigmas at ends of words, one
of them alone, and a capital I with a dot. -/
def nameless : Graph where
  nodes := [⟨" ", "s3", "\t", .origin, none⟩, ⟨"b", "sqs", " ΟΔΟΣ \u2003Σ İ\n", .origin, none⟩]
  edges := []

theorem names_settled_nameless :
    Provider.choose .null = .ok .aws ∧
      ∃ plan, (∀ counter, Plan.buildFrom counter nameless .null = .ok (plan, counter)) ∧
        plan.nodes.map (·.name) = ["res-0", "οδος-σ-i\u0307"] ∧
        Naming.sanitize "οδος-σ-i\u0307" 5 = ("οδος-σ-i\u0307", 5) := by
  have hp : Provider.choose .null = .ok .aws := rfl
  obtain ⟨plan, hplan, -, hsettled, -⟩ := names_settled nameless .null .aws hp
  have hsame : plan = Plan.buildFor nameless .aws :=
    (Prod.mk.inj (Except.ok.inj ((hplan 0).symm.trans (Plan.buildFrom_of_choose hp _ 0)))).1
  have hnames : plan.nodes.map (·.name) = ["res-0", "οδος-σ-i\u0307"] := by
    rw [hsame]
    decide +kernel
  have hmem : "οδος-σ-i\u0307" ∈ plan.nodes.map (·.name) := by
    rw [hnames]
    exact List.mem_cons_of_mem _ List.mem_cons_self
  obtain ⟨n, hn, heq⟩ := List.mem_map.1 hmem
  refine ⟨hp, plan, hplan, hnames, ?_⟩
  rw [← heq]
  exact (hsettled n hn).sanitize_eq 5

end Compilation

end CloudCanvas
