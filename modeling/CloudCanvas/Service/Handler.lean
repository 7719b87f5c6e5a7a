import CloudCanvas.Compilation
import CloudCanvas.Service.Request
import CloudCanvas.Service.Response

/-!
The service. It answers each request from the request alone and keeps a log with one row for each
compilation whose row could be committed. Plans and payloads are published; errors by node are
reported under the ids as they are. The row holds the canonical text of the payload, so a
compilation whose payload cannot be written has neither an answer nor a row.
-/

namespace CloudCanvas.Service

structure LogRow where
  id : Nat
  provider : Provider
  region : String
  nodeCount : Nat
  edgeCount : Nat
  payload : String
  valid : Bool
deriving DecidableEq

abbrev Log := List LogRow

def version : String := "0.4.0"

def healthAnswer : Except Failure Response :=
  publish (.obj [("status", .str "ok"), ("version", .str version)])

def planAnswer (r : GraphRequest) : Except Failure Response :=
  publish (Plan.buildFor r.graph r.provider).toJson

def payloadAnswer (config : Configuration) (r : GraphRequest) : Except Failure Response :=
  let plan := Plan.buildFor r.graph r.provider
  match (Payload.buildFor config plan r.provider r.project r.env).write with
  | .ok wire => publish wire
  | .error cause => .error (.payload cause)

def validateAnswer (g : Canvas.Graph) : Except Failure Response :=
  let report := Validation.validate g.nodes
  respond 200 (.obj [("valid", .bool report.isValid),
    ("errors", Validation.errorTableJson report.errorsByNode),
    ("warnings", .arr (report.warnings.map fun i => .str i.message))])

def compileRequest (config : Configuration) (r : GraphRequest) : Compilation :=
  .ofGraph config r.graph r.provider r.project r.env

def compilationAnswer (c : Compilation) : Except Failure Response :=
  if c.errors.isEmpty then
    publish (.obj [("status", .str "success"), ("plan", c.plan.toJson),
      ("payload", c.payload.toWire), ("prompt", .str c.prompt)])
  else
    respond 422 (.obj [("status", .str "invalid"), ("message", .str (invalidMessage c.errors)),
      ("errors", Validation.errorTableJson c.errors)])

def logRow (id : Nat) (r : GraphRequest) (c : Compilation) (text : String) : LogRow :=
  { id
    provider := r.provider
    region := c.payload.region
    nodeCount := c.payload.nodes.length
    edgeCount := c.payload.edges.length
    payload := text
    valid := c.errors.isEmpty }

/-- The answer to a compilation and the log after it. A row that cannot be committed is lost. -/
def compileStep (config : Configuration) (commits : Bool) (log : Log) (r : GraphRequest) :
    Except Failure Response × Log :=
  let c := compileRequest config r
  match c.payload.canonicalText with
  | .ok text =>
    (compilationAnswer c, if commits then log ++ [logRow (log.length + 1) r c text] else log)
  | .error cause => (.error (.payload cause), log)

def answerWith {α : Type} (reading : Reading α) (answer : α → Except Failure Response) :
    Except Failure Response :=
  match reading with
  | .ok a => answer a
  | .faulty issues => refuse issues

/-- How many containers within each other a body may have to be read. -/
def bodyRoom : Nat := 968

/-- The answer of an endpoint to a body that it can read, and the log after it. -/
def endpointStep (config : Configuration) (commits : Bool) (log : Log) (body : Json) :
    Endpoint → Except Failure Response × Log
  | .health => (healthAnswer, log)
  | .plan => (answerWith (readBody readGraphRequest body) planAnswer, log)
  | .payload => (answerWith (readBody readGraphRequest body) (payloadAnswer config), log)
  | .validate => (answerWith (readBody readValidateRequest body) validateAnswer, log)
  | .compile =>
    match readBody readGraphRequest body with
    | .ok r => compileStep config commits log r
    | .faulty issues => (refuse issues, log)

/-- The answer to a request and the log after it; `commits` tells whether the database commits. -/
def step (config : Configuration) (commits : Bool) (log : Log) (r : Request) :
    Except Failure Response × Log :=
  match Route.ofPath? r.path with
  | none => (detail 404 "Not Found", log)
  | some route =>
    if r.method ∈ route.methods then
      match route with
      | .endpoint e =>
        if e.readsBody ∧ bodyRoom < r.body.nesting then
          (detail 400 "There was an error parsing the body", log)
        else
          endpointStep config commits log r.body e
      | .page => (.error .page, log)
    else
      (detail 405 "Method Not Allowed", log)

/-- The answers to a sequence of requests, each with its database's verdict, and the log after
them. -/
def run (config : Configuration) (log : Log) :
    List (Request × Bool) → List (Except Failure Response) × Log
  | [] => ([], log)
  | (r, commits) :: rest =>
    let (answer, log) := step config commits log r
    let (answers, log) := run config log rest
    (answer :: answers, log)

end CloudCanvas.Service
