import CloudCanvas.Catalog.Intent
import CloudCanvas.Document.Printer

/-!
Payloads: what is sent to the deployment backend. On the wire a payload is an object without its
unset parts; numbers among the settings that no document can hold are null there. A payload whose
settings are nested too deep is not written. The canonical text of a payload is that of the wire
object, and where none is written there is no text either.
-/

namespace CloudCanvas

structure Payload.Node where
  id : String
  kind : String
  name : String
  props : Table Json
deriving DecidableEq

structure Payload.Edge where
  source : String
  target : String
  intent : Intent
  path : Option String
  method : Option String
  batchSize : Option Number
deriving DecidableEq

structure Payload where
  project : String
  env : String
  region : String
  location : Option String
  nodes : List Payload.Node
  edges : List Payload.Edge
deriving DecidableEq

namespace Payload

/-- A field that is left out when it is unset. -/
def unlessUnset (key : String) (value : Option Json) : Table Json :=
  value.toList.map (key, ·)

def Node.toWire (n : Node) : Json :=
  .obj [("id", .str n.id), ("kind", .str n.kind), ("name", .str n.name),
    ("props", (Document.obj n.props).finiteOrNull)]

def Edge.toWire (e : Edge) : Json :=
  .obj ([("from", .str e.source), ("to", .str e.target), ("intent", .str e.intent.name)] ++
    unlessUnset "path" (e.path.map .str) ++ unlessUnset "method" (e.method.map .str) ++
    unlessUnset "batchSize" (e.batchSize.map .num))

def toWire (p : Payload) : Json :=
  .obj ([("project", .str p.project), ("env", .str p.env), ("region", .str p.region)] ++
    unlessUnset "location" (p.location.map .str) ++
    [("nodes", .arr (p.nodes.map Node.toWire)), ("edges", .arr (p.edges.map Edge.toWire))])

inductive WireError
  | tooDeep
deriving DecidableEq

def WireError.message : WireError → String
  | .tooDeep => "Maximum serialization depth exceeded"

/-- The greatest height of a setting that is written. -/
def heightLimit : Nat := 255

def Node.isWritable (n : Node) : Bool :=
  n.props.all fun entry => entry.2.height ≤ heightLimit

def isWritable (p : Payload) : Bool :=
  p.nodes.all Node.isWritable

/-- The wire object of a payload that can be written. -/
def write (p : Payload) : Except WireError Json :=
  if p.isWritable then .ok p.toWire else .error .tooDeep

theorem write_eq_ok_iff {p : Payload} {v : Json} :
    p.write = .ok v ↔ p.isWritable = true ∧ p.toWire = v := by
  unfold write
  split <;> simp_all

theorem write_eq_error_iff {p : Payload} {cause : WireError} :
    p.write = .error cause ↔ p.isWritable = false := by
  cases cause
  unfold write
  split <;> simp_all

/-- The canonical text of a payload that can be written. -/
def canonicalText (p : Payload) : Except WireError String :=
  p.write.map Document.canonical

theorem canonicalText_eq_ok_iff {p : Payload} {s : String} :
    p.canonicalText = .ok s ↔ p.isWritable = true ∧ p.toWire.canonical = s := by
  unfold canonicalText write
  split <;> simp_all [Except.map]

theorem canonicalText_eq_error_iff {p : Payload} {cause : WireError} :
    p.canonicalText = .error cause ↔ p.write = .error cause := by
  unfold canonicalText
  cases p.write <;> simp [Except.map]

end Payload

end CloudCanvas
