import CloudCanvas.Canvas.Graph
import CloudCanvas.Reading.Basic
import CloudCanvas.Reading.Number

/-!
Canvas documents. Unknown keys are ignored and the fields that grew several spellings are taken
under the first spelling present. Panels that were never opened leave values unset: null is an
empty text there, and details or edge properties that are no object are empty.
-/

namespace CloudCanvas.Canvas

open Reading (field fieldOr)

def readCoordinate : Json → Reading Number
  | .bool b => .ok (.float (Binary64.ofInt (if b then 1 else 0)))
  | .num n =>
    match n.toBinary64? with
    | some x => .ok (.float x)
    | none => Reading.fail .noNumber (.num n)
  | .str s =>
    match Reading.floatOfText? s with
    | some x => .ok (.float x)
    | none => Reading.fail .unreadableNumber (.str s)
  | v => Reading.fail .noNumber v

def readPosition : Json → Reading Position :=
  Reading.record "Position" fun fields =>
    .andThen (.map Position.mk
      (fieldOr fields ["x"] (.int 0) readCoordinate))
      (fieldOr fields ["y"] (.int 0) readCoordinate)

def readTextOrNull : Json → Reading String
  | .null => .ok ""
  | v => Reading.text v

def readEnvironment (v : Json) : Reading Environment :=
  let found := match v with
    | .str s => Environment.ofName? s
    | _ => none
  match found with
  | some e => .ok e
  | none => Reading.fail .noEnvironment v

/-- Anything but an object is an empty mapping. -/
def readLooseMapping (v : Json) : Reading (Table Json) :=
  .ok v.fieldsOrEmpty

def readConfig : Json → Reading ServiceConfig :=
  Reading.record "ServiceConfig" fun fields =>
    .andThen (.andThen (.andThen (.andThen (.map ServiceConfig.mk
      (fieldOr fields ["name"] "" readTextOrNull))
      (fieldOr fields ["description"] "" readTextOrNull))
      (fieldOr fields ["environment"] .development readEnvironment))
      (fieldOr fields ["region"] "" readTextOrNull))
      (fieldOr fields ["details"] [] readLooseMapping)

def visualTypeKeys : List String :=
  ["visual_type", "visualType", "type"]

def displayLabelKeys : List String :=
  ["display_label", "displayLabel", "label"]

def sourceKeys : List String :=
  ["source_node_id", "sourceNodeId", "source"]

def targetKeys : List String :=
  ["target_node_id", "targetNodeId", "target"]

def edgePropsKeys : List String :=
  ["extra_props", "extraProps", "props"]

def readNode : Json → Reading Node :=
  Reading.record "GraphNode" fun fields =>
    .andThen (.andThen (.andThen (.andThen (.map Node.mk
      (field fields ["id"] Reading.text))
      (field fields visualTypeKeys Reading.text))
      (fieldOr fields displayLabelKeys "" Reading.text))
      (fieldOr fields ["position"] Position.origin readPosition))
      (fieldOr fields ["config"] none (Reading.optional readConfig))

def readEdge : Json → Reading Edge :=
  Reading.record "GraphEdge" fun fields =>
    .andThen (.andThen (.map Edge.mk
      (field fields sourceKeys Reading.text))
      (field fields targetKeys Reading.text))
      (fieldOr fields edgePropsKeys [] readLooseMapping)

def readGraph : Json → Reading Graph :=
  Reading.record "CanvasGraph" fun fields =>
    .andThen (.map Graph.mk
      (fieldOr fields ["nodes"] [] (Reading.list readNode)))
      (fieldOr fields ["edges"] [] (Reading.list readEdge))

end CloudCanvas.Canvas
