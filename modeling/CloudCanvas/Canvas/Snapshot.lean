import CloudCanvas.Canvas.Graph

/-!
Snapshots: the document of a canvas, in the spelling that the editor itself uses.
-/

namespace CloudCanvas.Canvas

def Position.toJson (p : Position) : Json :=
  .obj [("x", .num p.x), ("y", .num p.y)]

def ServiceConfig.toJson (c : ServiceConfig) : Json :=
  .obj [("name", .str c.name), ("description", .str c.description),
    ("environment", .str c.environment.name), ("region", .str c.region),
    ("details", .obj c.details)]

def Node.toJson (n : Node) : Json :=
  .obj [("id", .str n.id), ("visualType", .str n.visualType),
    ("displayLabel", .str n.displayLabel), ("position", n.position.toJson),
    ("config", match n.config with
      | some config => config.toJson
      | none => .null)]

def Edge.toJson (e : Edge) : Json :=
  .obj [("sourceNodeId", .str e.source), ("targetNodeId", .str e.target),
    ("extraProps", .obj e.props)]

def Graph.toJson (g : Graph) : Json :=
  .obj [("nodes", .arr (g.nodes.map Node.toJson)), ("edges", .arr (g.edges.map Edge.toJson))]

end CloudCanvas.Canvas
