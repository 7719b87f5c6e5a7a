import CloudCanvas.Proofs.Compilation.Names
import CloudCanvas.Proofs.Compilation.Region
import CloudCanvas.Proofs.Plan.Lookup
import CloudCanvas.Proofs.Plan.Variables
import CloudCanvas.Proofs.Validation.Report

/-!
Compilation and the order of nodes. A node that shows a name is planned and deployed by itself: its
place in the graph does not matter, nor what stands before it. Where no id repeats, an edge, a
variable and a message find their node wherever it stands. So when the nodes change their places,
the nodes of the plan and of the payload change theirs with them, and the region alone can become
another one, because it is that of the first node that has one.
-/

namespace CloudCanvas

open Canvas (Graph)

/-- Something that is shown of the node can name it. -/
def Canvas.Node.IsNamed (n : Canvas.Node) : Prop :=
  (∃ config, n.config = some config ∧ Text.isBlankText config.name = false) ∨
    Text.isBlankText n.displayLabel = false ∨ Text.isBlankText n.id = false

namespace Plan

theorem firstText_ne_empty_iff (texts : List String) :
    firstText texts ≠ "" ↔ ∃ s ∈ texts, Text.isBlankText s = false := by
  induction texts with
  | nil => simp [firstText]
  | cons s rest ih =>
    rw [firstText, List.exists_mem_cons_iff, ← ih, ← Text.strip_ne_empty_iff]
    split
    · next hs => exact iff_of_true hs (.inl hs)
    · next hs => exact (or_iff_right hs).symm

theorem isNamed_iff (n : Canvas.Node) : n.IsNamed ↔ displayName n ≠ "" := by
  have hblank : Text.isBlankText "" = true := by decide
  rw [displayName, firstText_ne_empty_iff, Canvas.Node.IsNamed]
  cases n.config <;> simp [hblank]

/-- The plan node of a canvas node that can be named. -/
def nodeOf (n : Canvas.Node) : Node :=
  ⟨n.id, VisualType.planType n.visualType, Naming.identifier (displayName n), nodeProps n⟩

theorem nodeIn_of_isNamed {n : Canvas.Node} (h : n.IsNamed) (place : Nat) :
    nodeIn place n = nodeOf n := by
  rw [nodeIn, nameIn, if_neg ((isNamed_iff n).1 h)]
  rfl

/-- Where all nodes are named, no place is looked at. -/
theorem nodes_buildFor_of_isNamed {g : Graph} (h : ∀ n ∈ g.nodes, n.IsNamed) (p : Provider) :
    (buildFor g p).nodes = g.nodes.map nodeOf := by
  rw [nodes_buildFor_eq]
  refine List.ext_getElem (by simp) fun place hplace hplace' => ?_
  rw [List.getElem_mapIdx, List.getElem_map]
  exact nodeIn_of_isNamed (h _ (List.getElem_mem _)) place

section Perm

variable {nodes others : List Node} (h : nodes.Perm others) (hids : (nodes.map (·.id)).Nodup)
include h hids

theorem endpoint?_of_perm (id : String) : endpoint? nodes id = endpoint? others id := by
  have hreverse : nodes.reverse.Perm others.reverse :=
    (List.reverse_perm nodes).trans (h.trans (List.reverse_perm others).symm)
  refine find?_key_of_perm hreverse ?_ id
  rwa [List.map_reverse, List.nodup_reverse]

theorem ofEdge?_of_perm : ofEdge? nodes = ofEdge? others := by
  funext e
  simp only [ofEdge?, endpoint?_of_perm h hids]

theorem matches_variablesOf :
    Table.Matches (fun _ => Eq) (variablesOf nodes) (variablesOf others) := by
  have hkeys : (Table.keys (nodes.filterMap variableOf)).Nodup :=
    nodup_keys_filterMap_variableOf hids
  have hkeys' : (Table.keys (others.filterMap variableOf)).Nodup :=
    nodup_keys_filterMap_variableOf ((h.map (·.id)).nodup_iff.1 hids)
  rw [variablesOf, variablesOf, Table.ofList_of_nodup hkeys, Table.ofList_of_nodup hkeys']
  exact .of_perm (h.filterMap variableOf) hkeys

end Perm

section Moved

variable {g : Graph} {nodes : List Canvas.Node} (hperm : g.nodes.Perm nodes)
  (hnamed : ∀ n ∈ g.nodes, n.IsNamed) (hids : g.ids.Nodup) (p : Provider)
include hperm hnamed

theorem nodes_buildFor_of_perm : (buildFor ⟨nodes, g.edges⟩ p).nodes = nodes.map nodeOf :=
  nodes_buildFor_of_isNamed (fun n hn => hnamed n (hperm.mem_iff.2 hn)) p

theorem perm_nodes_buildFor :
    (buildFor g p).nodes.Perm (buildFor ⟨nodes, g.edges⟩ p).nodes := by
  rw [nodes_buildFor_of_isNamed hnamed, nodes_buildFor_of_perm hperm hnamed]
  exact hperm.map nodeOf

include hids

theorem edges_buildFor_of_perm :
    (buildFor ⟨nodes, g.edges⟩ p).edges = (buildFor g p).edges := by
  have hplanned : ((buildFor g p).nodes.map (·.id)).Nodup := by
    rwa [ids_buildFor]
  rw [edges_buildFor, edges_buildFor, ofEdge?_of_perm (perm_nodes_buildFor hperm hnamed p) hplanned]

theorem buildFor_of_perm :
    buildFor ⟨nodes, g.edges⟩ p = { buildFor g p with
      nodes := nodes.map nodeOf
      variableTable := (buildFor ⟨nodes, g.edges⟩ p).variableTable
      region := (buildFor ⟨nodes, g.edges⟩ p).region } := by
  rw [← nodes_buildFor_of_perm hperm hnamed p]
  simp only [← edges_buildFor_of_perm hperm hnamed hids p]

end Moved

end Plan

namespace Payload

/-- A wire node is made of its plan node and of the edges. -/
theorem ofPlanNode_congr {plan plan' : Plan} (h : plan'.edges = plan.edges) (p : Provider) :
    ofPlanNode plan' p = ofPlanNode plan p := by
  funext n
  rw [ofPlanNode, ofPlanNode, hasOutgoing, hasOutgoing, h]

theorem ofPlanEdge_of_perm {plan plan' : Plan} (h : plan.nodes.Perm plan'.nodes)
    (hids : (plan.nodes.map (·.id)).Nodup) (p : Provider) :
    ofPlanEdge plan' p = ofPlanEdge plan p := by
  have hend : endKind? plan' p = endKind? plan p := by
    funext id
    rw [endKind?, endKind?, Plan.endpoint?_of_perm h hids]
  funext e
  rw [ofPlanEdge, ofPlanEdge, hend]

theorem buildFor_of_perm {plan plan' : Plan} (h : plan.nodes.Perm plan'.nodes)
    (hids : (plan.nodes.map (·.id)).Nodup) (hedges : plan'.edges = plan.edges)
    (config : Configuration) (p : Provider) (project env : Option String) :
    buildFor config plan' p project env = { buildFor config plan p project env with
      nodes := plan'.nodes.map (ofPlanNode plan p)
      region := (buildFor config plan' p project env).region
      location := (buildFor config plan' p project env).location } := by
  simp only [buildFor, ofPlanNode_congr hedges, ofPlanEdge_of_perm h hids, hedges]

end Payload

namespace Validation

section Perm

variable {nodes others : List Canvas.Node} (h : nodes.Perm others)
include h

theorem failingIds_of_perm : (failingIds nodes).Perm (failingIds others) := by
  refine (List.perm_ext_iff_of_nodup (nodup_failingIds nodes) (nodup_failingIds others)).2 ?_
  intro id
  simp only [mem_failingIds_iff, h.mem_iff]

theorem messagesFor_of_perm (hids : (nodes.map (·.id)).Nodup) :
    messagesFor nodes = messagesFor others := by
  funext id
  rw [messagesFor, messagesFor, filter_key_of_perm h hids]

theorem matches_errorsByNode (hids : (nodes.map (·.id)).Nodup) :
    Table.Matches (fun _ => Eq) (validate nodes).errorsByNode (validate others).errorsByNode := by
  refine .of_perm ?_ (nodup_keys_errorsByNode _)
  rw [errorsByNode_validate, errorsByNode_validate, errorTable, errorTable,
    messagesFor_of_perm h hids]
  exact (failingIds_of_perm h).map _

end Perm

end Validation

namespace Compilation

/-- The region of a compilation is that of the first of the nodes that has one, and the provider's
if none has; under Google Cloud it is the location too. -/
structure HasRegionOf (c : Compilation) (nodes : List Canvas.Node) (p : Provider) : Prop where
  payload : c.payload.region = c.plan.region
  location : c.payload.location = if p = .gcp then some c.plan.region else none
  first : ∀ before n after s, nodes = before ++ n :: after → (∀ m ∈ before, ¬ ∃ s, m.LiesIn s) →
    n.LiesIn s → c.plan.region = s
  none : (∀ n ∈ nodes, ¬ ∃ s, n.LiesIn s) → c.plan.region = p.defaultRegion

theorem hasRegionOf_ofGraph (config : Configuration) (g : Graph) (p : Provider)
    (project env : Option String) :
    (ofGraph config g p project env).HasRegionOf g.nodes p := by
  obtain ⟨hregion, hlocation⟩ :=
    Payload.region_buildFor config (Plan.isTrim_region_buildFor g p).ne_empty p project env
  exact {
    payload := hregion
    location := hlocation
    first := fun _ _ _ _ hg hbefore hn => Plan.region_buildFor_of_first hg hbefore hn p
    none := fun h => Plan.region_buildFor_of_none h p }

/-- When the nodes of a graph change their places, its compilation changes in two ways only. The
nodes of the plan and of the payload change their places in the same way, since one function each
makes them of the nodes of the graph; and the region is that of the node that now comes first. The
variables and the messages are the same up to their order. -/
theorem compile_of_perm (config : Configuration) (g : Graph) (nodes : List Canvas.Node)
    (provider : Json) (p : Provider) (project env : Option String)
    (hp : Provider.choose provider = .ok p) (hids : g.ids.Nodup)
    (hnamed : ∀ n ∈ g.nodes, n.IsNamed) (hperm : g.nodes.Perm nodes) :
    ∃ c c', compile config g provider project env false = .ok c ∧
      compile config ⟨nodes, g.edges⟩ provider project env false = .ok c' ∧
      (∃ planned : Canvas.Node → Plan.Node, c.plan.nodes = g.nodes.map planned ∧
        c'.plan = { c.plan with
          nodes := nodes.map planned
          variableTable := c'.plan.variableTable
          region := c'.plan.region }) ∧
      (∃ deployed : Canvas.Node → Payload.Node, c.payload.nodes = g.nodes.map deployed ∧
        c'.payload = { c.payload with
          nodes := nodes.map deployed
          region := c'.payload.region
          location := c'.payload.location }) ∧
      Table.Matches (fun _ => Eq) c.plan.variableTable c'.plan.variableTable ∧
      Table.Matches (fun _ => Eq) c.errors c'.errors ∧
      c.HasRegionOf g.nodes p ∧ c'.HasRegionOf nodes p := by
  have hplaces := Plan.perm_nodes_buildFor hperm hnamed p
  have hplanIds : ((Plan.buildFor g p).nodes.map (·.id)).Nodup := by
    rwa [Plan.ids_buildFor]
  have hpayload := Payload.buildFor_of_perm hplaces hplanIds
    (Plan.edges_buildFor_of_perm hperm hnamed hids p) config p project env
  rw [Plan.nodes_buildFor_of_perm hperm hnamed, List.map_map] at hpayload
  have hdeployed : (ofGraph config g p project env).payload.nodes =
      g.nodes.map (Payload.ofPlanNode (Plan.buildFor g p) p ∘ Plan.nodeOf) := by
    rw [← List.map_map, ← Plan.nodes_buildFor_of_isNamed hnamed p]
    rfl
  exact ⟨ofGraph config g p project env, ofGraph config ⟨nodes, g.edges⟩ p project env,
    compile_reporting hp config g project env, compile_reporting hp config _ project env,
    ⟨Plan.nodeOf, Plan.nodes_buildFor_of_isNamed hnamed p,
      Plan.buildFor_of_perm hperm hnamed hids p⟩,
    ⟨_, hdeployed, hpayload⟩,
    Plan.matches_variablesOf hplaces hplanIds, Validation.matches_errorsByNode hperm hids,
    hasRegionOf_ofGraph config g p project env, hasRegionOf_ofGraph config _ p project env⟩

def queueInEurope : Canvas.Node :=
  ⟨"q", "sqs", "Jobs", .origin, some ⟨" ", "", .staging, "europe-west1", []⟩⟩

def bucketInAsia : Canvas.Node :=
  ⟨"b", "gcs", "", .origin, some ⟨"Uploads", "", .staging, " asia-east1\n", []⟩⟩

/-- It was never configured, so it is in no region. -/
def topicOnCanvas : Canvas.Node :=
  ⟨"\t", "sns", "News", .origin, none⟩

def scattered : Graph where
  nodes := [queueInEurope, bucketInAsia, topicOnCanvas]
  edges := [⟨"b", "q", []⟩, ⟨"q", "nowhere", []⟩]

theorem compile_of_perm_scattered :
    Provider.choose (.str "gcp") = .ok .gcp ∧ scattered.ids.Nodup ∧
      (∀ n ∈ scattered.nodes, n.IsNamed) ∧ scattered.nodes.Perm scattered.nodes.reverse ∧
      ∃ c c', compile .standard scattered (.str "gcp") none none false = .ok c ∧
        compile .standard ⟨scattered.nodes.reverse, scattered.edges⟩ (.str "gcp") none none false =
          .ok c' ∧
        c'.plan.nodes = c.plan.nodes.reverse ∧ c'.payload.edges = c.payload.edges ∧
        c.payload.location = some "europe-west1" ∧ c'.payload.location = some "asia-east1" := by
  have hp : Provider.choose (.str "gcp") = .ok .gcp := rfl
  have hids : scattered.ids.Nodup := by decide
  have hnamed : ∀ n ∈ scattered.nodes, n.IsNamed := by
    simp only [Plan.isNamed_iff]
    decide
  have hperm : scattered.nodes.Perm scattered.nodes.reverse := (List.reverse_perm _).symm
  obtain ⟨c, c', hc, hc', ⟨planned, hplan, hplan'⟩, ⟨deployed, -, hpayload'⟩, -, -, hregion,
    hregion'⟩ := compile_of_perm .standard scattered scattered.nodes.reverse (.str "gcp") .gcp
      none none hp hids hnamed hperm
  refine ⟨hp, hids, hnamed, hperm, c, c', hc, hc', ?_,
    (congrArg Payload.edges hpayload').trans rfl, ?_, ?_⟩
  · rw [hplan, ← List.map_reverse]
    exact (congrArg Plan.nodes hplan').trans rfl
  · have hqueue : queueInEurope.LiesIn "europe-west1" := (Plan.liesIn_iff _ _).2 (by decide)
    rw [hregion.location, hregion.first [] queueInEurope _ _ rfl (List.forall_mem_nil _) hqueue]
    rfl
  · have hbucket : bucketInAsia.LiesIn "asia-east1" := (Plan.liesIn_iff _ _).2 (by decide)
    have htopic : ∀ m ∈ [topicOnCanvas], ¬ ∃ s, m.LiesIn s := by
      simp only [Plan.liesIn_ownRegion_iff]
      decide
    rw [hregion'.location, hregion'.first [topicOnCanvas] bucketInAsia _ _ rfl htopic hbucket]
    rfl

end Compilation

end CloudCanvas
