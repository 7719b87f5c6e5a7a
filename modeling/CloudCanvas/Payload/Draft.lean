import CloudCanvas.Document.Display
import CloudCanvas.Payload.Build
import CloudCanvas.Payload.Label
import CloudCanvas.Plan.Draft

/-!
Payloads of drafts. Ids are looked up at both ends of an edge and at a bucket that infers whether
it sends its events on; a list or an object cannot be looked up. Where the edges begin is looked up
first of all. The nodes are read next and then the edges, each up to the first one at fault, and
the labels last and all of them, the region among them.
-/

namespace CloudCanvas.Payload

open Plan (Draft)

inductive DraftError
  | catalog (cause : CatalogError)
  | noKey (value : Json)
  | faulty (issues : List Reading.Issue)

def noKeyMessage (value : Json) : String :=
  "unhashable type: '" ++ value.typeName ++ "'"

def requireKey (id : Json) : Except DraftError Unit :=
  if id.isScalar then .ok () else .error (.noKey id)

def requireValue {α : Type} (reading : Reading α) : Except DraftError α :=
  reading.toExcept.mapError .faulty

/-- A bucket looks up its id only when its settings do not say whether it sends its events on. -/
def requireNode (p : Provider) (n : Draft.Node) : Except DraftError Plan.Node := do
  let kind := n.type.kindFor p
  if infersEvents kind (Settings.normalize (.kind kind) (.obj n.props)) then requireKey n.id
  requireValue n.read

def requireEdge (e : Draft.Edge) : Except DraftError Plan.Edge := do
  requireKey e.target
  requireValue e.read

def ofDraftFor (config : Configuration) (d : Draft) (p : Provider) (project env : Json) :
    Except DraftError Payload := do
  d.edges.forM fun e => requireKey e.source
  let nodes ← d.nodes.mapM (requireNode p)
  let edges ← d.edges.mapM requireEdge
  let (labels, region) ← requireValue
    (.both Prod.mk (readLabels project env) (readLabel "region" d.region))
  .ok (buildFor config ⟨region.getD "", [], nodes, edges⟩ p labels.project labels.env)

/-- The provider is chosen before the draft is read. -/
def ofDraft (config : Configuration) (d : Draft) (provider project env : Json) :
    Except DraftError Payload := do
  let p ← (Provider.choose provider).mapError .catalog
  ofDraftFor config d p project env

end CloudCanvas.Payload
