import CloudCanvas.Catalog.PlanType

/-!
Plans: a canvas graph in provider-neutral terms. A node has its plan type, the name under which it
is deployed and the details the user entered; the variables name buckets, queues and functions.
-/

namespace CloudCanvas

structure Plan.Node where
  id : String
  type : PlanType
  name : String
  props : Table Json
deriving DecidableEq

structure Plan.Edge where
  type : String
  source : String
  target : String
  props : Table Json
deriving DecidableEq

structure Plan where
  region : String
  variableTable : Table String
  nodes : List Plan.Node
  edges : List Plan.Edge
deriving DecidableEq

namespace Plan

def Node.toJson (n : Node) : Json :=
  .obj [("id", .str n.id), ("type", .str n.type.name), ("name", .str n.name),
    ("props", .obj n.props)]

def Edge.toJson (e : Edge) : Json :=
  .obj [("type", .str e.type), ("from", .str e.source), ("to", .str e.target),
    ("props", .obj e.props)]

def toJson (p : Plan) : Json :=
  .obj [("region", .str p.region),
    ("variables", .obj (p.variableTable.map fun entry => (entry.1, .str entry.2))),
    ("nodes", .arr (p.nodes.map Node.toJson)), ("edges", .arr (p.edges.map Edge.toJson))]

/-- The first node of that id. -/
def node? (p : Plan) (id : String) : Option Node :=
  p.nodes.find? (·.id = id)

/-- Where ids repeat, edges belong to the last node of that id. -/
def endpoint? (nodes : List Node) (id : String) : Option Node :=
  nodes.reverse.find? (·.id = id)

end Plan

end CloudCanvas
