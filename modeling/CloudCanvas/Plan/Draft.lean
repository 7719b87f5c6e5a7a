import CloudCanvas.Plan.Basic
import CloudCanvas.Reading.Basic

/-!
Drafts: plans written by hand. A draft may leave parts out, which are filled in, and it may give
any value where a plan has a text. A record of a draft becomes one of a plan when the texts that
are deployed are texts.
-/

namespace CloudCanvas.Plan

structure Draft.Node where
  id : Json
  type : PlanType
  name : Json
  props : Table Json
deriving DecidableEq

structure Draft.Edge where
  type : Json
  source : Json
  target : Json
  props : Table Json
deriving DecidableEq

structure Draft where
  region : Json
  variableTable : Table Json
  nodes : List Draft.Node
  edges : List Draft.Edge
deriving DecidableEq

namespace Draft

open Document (getField)

def textField (fields : Table Json) (key : String) : Json :=
  (fields.get? key).getD (.str "")

def Node.ofJson (v : Json) : Node :=
  let fields := v.fieldsOrEmpty
  { id := getField fields "id"
    type := PlanType.ofJson (getField fields "type")
    name := textField fields "name"
    props := (getField fields "props").fieldsOrEmpty }

def Edge.ofJson (v : Json) : Edge :=
  let fields := v.fieldsOrEmpty
  { type := textField fields "type"
    source := getField fields "from"
    target := getField fields "to"
    props := (getField fields "props").fieldsOrEmpty }

def ofJson (v : Json) : Draft :=
  let fields := v.fieldsOrEmpty
  { region := textField fields "region"
    variableTable := (getField fields "variables").fieldsOrEmpty
    nodes := (getField fields "nodes").itemsOrEmpty.map Node.ofJson
    edges := (getField fields "edges").itemsOrEmpty.map Edge.ofJson }

def Node.toJson (n : Node) : Json :=
  .obj [("id", n.id), ("type", .str n.type.name), ("name", n.name), ("props", .obj n.props)]

def Edge.toJson (e : Edge) : Json :=
  .obj [("type", e.type), ("from", e.source), ("to", e.target), ("props", .obj e.props)]

def toJson (d : Draft) : Json :=
  .obj [("region", d.region), ("variables", .obj d.variableTable),
    ("nodes", .arr (d.nodes.map Node.toJson)), ("edges", .arr (d.edges.map Edge.toJson))]

def Node.read (n : Node) : Reading Plan.Node :=
  .both (fun id name => ⟨id, n.type, name, n.props⟩)
    ((Reading.text n.id).under (.key "id")) ((Reading.text n.name).under (.key "name"))

/-- The type of an edge is not deployed. -/
def Edge.read (e : Edge) : Reading Plan.Edge :=
  .both (fun source target => ⟨e.type.display, source, target, e.props⟩)
    ((Reading.text e.source).under (.key "from_id")) ((Reading.text e.target).under (.key "to"))

end Draft

end CloudCanvas.Plan
