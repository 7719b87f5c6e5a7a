import CloudCanvas.Payload.Basic
import CloudCanvas.Reading.Basic
import CloudCanvas.Reading.Number

/-!
Payload documents. The kind of a node is any text, and an edge may spell its source and its batch
size in two ways, the spelling of the wire first.
-/

namespace CloudCanvas.Payload

open Reading (field fieldOr)

def readIntent (v : Json) : Reading Intent :=
  let found := match v with
    | .str s => Intent.ofName? s
    | _ => none
  match found with
  | some i => .ok i
  | none => Reading.fail .noIntent v

/-- A value that is neither a whole number nor any other is reported as both. -/
def noBatchSize (int float : Reading.Fault) (v : Json) : Reading Number :=
  .faulty [⟨[.key "int"], int, v⟩, ⟨[.key "float"], float, v⟩]

/-- A text is a whole number if it can be. -/
def readBatchSize : Json → Reading Number
  | .num n => .ok n
  | .bool b => .ok (.int (if b then 1 else 0))
  | .str s =>
    match Reading.wholeOfText s, Reading.floatOfText? s with
    | .ok n, _ => .ok (.int n)
    | .error _, some x => .ok (.float x)
    | .error fault, none => noBatchSize fault .unreadableNumber (.str s)
  | v => noBatchSize .noInteger .noNumber v

def readNode : Json → Reading Node :=
  Reading.record "DeployNode" fun fields =>
    .andThen (.andThen (.andThen (.map Node.mk
      (field fields ["id"] Reading.text))
      (field fields ["kind"] Reading.text))
      (field fields ["name"] Reading.text))
      (fieldOr fields ["props"] [] Reading.mapping)

def readEdge : Json → Reading Edge :=
  Reading.record "DeployEdge" fun fields =>
    .andThen (.andThen (.andThen (.andThen (.andThen (.map Edge.mk
      (field fields ["from", "from_id"] Reading.text))
      (field fields ["to"] Reading.text))
      (field fields ["intent"] readIntent))
      (fieldOr fields ["path"] none (Reading.optional Reading.text)))
      (fieldOr fields ["method"] none (Reading.optional Reading.text)))
      (fieldOr fields ["batchSize", "batch_size"] none (Reading.optional readBatchSize))

def read : Json → Reading Payload :=
  Reading.record "DeployPayload" fun fields =>
    .andThen (.andThen (.andThen (.andThen (.andThen (.map Payload.mk
      (field fields ["project"] Reading.text))
      (field fields ["env"] Reading.text))
      (field fields ["region"] Reading.text))
      (fieldOr fields ["location"] none (Reading.optional Reading.text)))
      (fieldOr fields ["nodes"] [] (Reading.list readNode)))
      (fieldOr fields ["edges"] [] (Reading.list readEdge))

end CloudCanvas.Payload
