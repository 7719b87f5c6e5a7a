import CloudCanvas.Configuration
import CloudCanvas.Payload.Basic
import CloudCanvas.Plan.Basic
import CloudCanvas.Settings.Normalize

/-!
Building a payload from a plan for one provider. Every plan node becomes a wire node with the
settings of its kind; a bucket that does not say whether it sends its events on does so when an
edge leaves it. Every plan edge gets its intent. A route into a function has a path and a method,
and an edge that feeds a function in batches has their size if one was entered.
-/

namespace CloudCanvas.Payload

open Document (getField)

def hasOutgoing (plan : Plan) (id : String) : Bool :=
  plan.edges.any (·.source == id)

/-- Only buckets on AWS infer a setting from the edges, when they do not have it already. -/
def infersEvents (kind : ResourceKind) (props : Table Json) : Bool :=
  kind = .awsS3 ∧ (getField props "eventBridge").isNull

def inferEvents (kind : ResourceKind) (outgoing : Bool) (props : Table Json) : Table Json :=
  if infersEvents kind props then props.set "eventBridge" (.bool outgoing) else props

def ofPlanNode (plan : Plan) (p : Provider) (n : Plan.Node) : Node :=
  let kind := n.type.kindFor p
  ⟨n.id, kind.name, n.name,
    inferEvents kind (hasOutgoing plan n.id) (Settings.normalize (.kind kind) (.obj n.props))⟩

/-- The kind at an end of an edge. -/
def endKind? (plan : Plan) (p : Provider) (id : String) : Option ResourceKind :=
  (Plan.endpoint? plan.nodes id).map (·.type.kindFor p)

def isRoute (source target : Option ResourceKind) : Bool :=
  Family.ofKind? source == .apiGateway && Family.ofKind? target == .function

def isBatch (source target : Option ResourceKind) : Bool :=
  [Family.queue, .table, .stream].contains (.ofKind? source) && Family.ofKind? target == .function

def textOr (default : String) (v : Json) : String :=
  if v.truthy then v.display else default

def ofPlanEdge (plan : Plan) (p : Provider) (e : Plan.Edge) : Edge :=
  let source := endKind? plan p e.source
  let target := endKind? plan p e.target
  { source := e.source
    target := e.target
    intent := Intent.ofEnds source target
    path := if isRoute source target then some (textOr "/" (getField e.props "path")) else none
    method :=
      if isRoute source target then some (textOr "ANY" (getField e.props "method")) else none
    batchSize :=
      if isBatch source target then Settings.number? (getField e.props "batchSize") else none }

/-- An empty text counts as absent. -/
def orDefault (default : String) (text : Option String) : String :=
  match text with
  | some s => if s ≠ "" then s else default
  | none => default

def buildFor (config : Configuration) (plan : Plan) (p : Provider) (project env : Option String) :
    Payload :=
  let region := orDefault p.defaultRegion (some plan.region)
  { project := orDefault config.defaultProject project
    env := orDefault config.defaultEnv env
    region
    location := if p = .gcp then some region else none
    nodes := plan.nodes.map (ofPlanNode plan p)
    edges := plan.edges.map (ofPlanEdge plan p) }

def build (config : Configuration) (plan : Plan) (provider : Json) (project env : Option String) :
    Except CatalogError Payload :=
  (Provider.choose provider).map fun p => buildFor config plan p project env

end CloudCanvas.Payload
