import CloudCanvas.Canvas.Graph
import CloudCanvas.Catalog.VisualType
import CloudCanvas.Naming
import CloudCanvas.Plan.Basic

/-!
Building a plan. The region is that of the first configured node that has one, else the default of
the provider, which is only then looked at. An edge whose source or target is missing is left
out, because the user is still drawing it. A plan node is named by the first of its configured
name, its label and its id that is not blank, or else by its place in the graph.
-/

namespace CloudCanvas.Plan

open Canvas (Graph)

/-- The region of a node: the configured one, before the one among its details. -/
def ownRegion (n : Canvas.Node) : String :=
  match n.config with
  | none => ""
  | some config =>
    let region := Text.strip config.region
    if region ≠ "" then region else (n.detail "region").strippedText

def firstRegion? (nodes : List Canvas.Node) : Option String :=
  (nodes.find? fun n => ownRegion n ≠ "").map ownRegion

def resolveRegion (nodes : List Canvas.Node) (provider : Json) : Except CatalogError String :=
  match firstRegion? nodes with
  | some region => .ok region
  | none => (Provider.choose provider).map Provider.defaultRegion

/-- The first text that is not blank, stripped; the empty text if all are blank. -/
def firstText : List String → String
  | [] => ""
  | s :: rest => if Text.strip s ≠ "" then Text.strip s else firstText rest

def displayName (n : Canvas.Node) : String :=
  firstText [(n.config.map (·.name)).getD "", n.displayLabel, n.id]

def nodeName (index : Nat) (n : Canvas.Node) (counter : Int) : String × Int :=
  if displayName n = "" then (Naming.numberedName index, counter)
  else Naming.sanitize (displayName n) counter

/-- The region a plan node carries is the one entered, blanks and all. -/
def regionProp (n : Canvas.Node) : Json :=
  let configured := (n.config.map (·.region)).getD ""
  if configured ≠ "" then .str configured
  else if (n.detail "region").truthy then n.detail "region"
  else .str ""

/-- The details come last and win over the label and the region. -/
def nodeProps (n : Canvas.Node) : Table Json :=
  Table.merge [("label", .str n.displayLabel), ("region", regionProp n)] n.details

def ofNode (index : Nat) (n : Canvas.Node) (counter : Int) : Node × Int :=
  let (name, counter) := nodeName index n counter
  (⟨n.id, VisualType.planType n.visualType, name, nodeProps n⟩, counter)

def ofNodesFrom (index : Nat) (counter : Int) : List Canvas.Node → List Node × Int
  | [] => ([], counter)
  | n :: rest =>
    let (node, counter) := ofNode index n counter
    let (nodes, counter) := ofNodesFrom (index + 1) counter rest
    (node :: nodes, counter)

def isStorage (n : Node) : Bool :=
  n.type.family == .storage

/-- The settings of a bucket that an edge takes over unless it has its own. -/
def storageKeys : List String :=
  ["prefix", "suffix"]

def storageDefault (n : Node) (key : String) : Json :=
  match n.props.get? key with
  | none | some .null => .str ""
  | some v => v

def withStorage (n : Node) (props : Table Json) : Table Json :=
  storageKeys.foldl (fun props key => props.setDefault key (storageDefault n key)) props

def edgeProps (source target : Node) (props : Table Json) : Table Json :=
  if isStorage source then withStorage source props
  else if isStorage target then withStorage target props
  else props

def ofEdge? (nodes : List Node) (e : Canvas.Edge) : Option Edge :=
  match endpoint? nodes e.source, endpoint? nodes e.target with
  | some source, some target =>
    some ⟨source.type.name ++ "_to_" ++ target.type.name, source.id, target.id,
      edgeProps source target e.props⟩
  | _, _ => none

/-- For the families that get a variable: its first word, and the detail with the physical name. -/
def variableField? : Family → Option (String × String)
  | .storage => some ("bucket", "bucketName")
  | .queue => some ("queue", "queueName")
  | .function => some ("lambda", "functionName")
  | _ => none

def physicalName (n : Node) (field : String) : String :=
  match n.props.get? field with
  | some (.str s) => if s ≠ "" then s else n.name
  | _ => n.name

def variableOf (n : Node) : Option (String × String) :=
  (variableField? n.type.family).map fun (word, field) =>
    (word ++ "_" ++ n.id ++ "_name", physicalName n field)

def variablesOf (nodes : List Node) : Table String :=
  Table.ofList (nodes.filterMap variableOf)

/-- The plan in a given region, with fallback names from `counter` on, and the counter after it. -/
def buildIn (region : String) (g : Graph) (counter : Int) : Plan × Int :=
  let (nodes, counter) := ofNodesFrom 0 counter g.nodes
  (⟨region, variablesOf nodes, nodes, g.edges.filterMap (ofEdge? nodes)⟩, counter)

def buildFrom (counter : Int) (g : Graph) (provider : Json) :
    Except CatalogError (Plan × Int) :=
  (resolveRegion g.nodes provider).map fun region => buildIn region g counter

def build (g : Graph) (provider : Json) : Except CatalogError Plan :=
  (buildFrom 0 g provider).map Prod.fst

/-- The plan for a known provider. -/
def buildFor (g : Graph) (p : Provider) : Plan :=
  (buildIn ((firstRegion? g.nodes).getD p.defaultRegion) g 0).1

end CloudCanvas.Plan
