import CloudCanvas.Canvas.Reader
import CloudCanvas.Catalog.Provider

/-!
Requests to the service. A request names its endpoint by method and path; a line break or slashes
at the end of a path do not count. The body of a request about a graph holds the graph and, except
for validation, may choose the provider by its exact name.
-/

namespace CloudCanvas.Service

open Reading (field fieldOr)

structure Request where
  method : String
  path : String
  body : Json

inductive Endpoint
  | health
  | plan
  | payload
  | validate
  | compile
deriving DecidableEq

namespace Endpoint

def all : List Endpoint :=
  [.health, .plan, .payload, .validate, .compile]

def path : Endpoint → String
  | .health => "/health"
  | .plan => "/plan"
  | .payload => "/payload"
  | .validate => "/validate"
  | .compile => "/compile"

def method : Endpoint → String
  | .health => "GET"
  | _ => "POST"

def readsBody (e : Endpoint) : Bool :=
  e ≠ .health

end Endpoint

/-- What a path leads to: an endpoint, or a page about the service for people to read. -/
inductive Route
  | endpoint (e : Endpoint)
  | page
deriving DecidableEq

namespace Route

def pagePaths : List String :=
  ["/openapi.json", "/docs", "/docs/oauth2-redirect", "/redoc"]

def table : Table Route :=
  pagePaths.map (·, .page) ++ Endpoint.all.map fun e => (e.path, .endpoint e)

/-- The path may be followed by one line break. -/
def ofPlainPath? (path : String) : Option Route :=
  (table.find? fun entry => path = entry.1 ∨ path = entry.1 ++ "\n").map Prod.snd

/-- A path that leads nowhere is tried again without the slashes at its end. -/
def ofPath? (path : String) : Option Route :=
  (ofPlainPath? path).or (ofPlainPath? (Text.trimSlashes path))

theorem ofPath?_path (e : Endpoint) : ofPath? e.path = some (.endpoint e) := by
  cases e <;> decide

def methods : Route → List String
  | .endpoint e => [e.method]
  | .page => ["GET", "HEAD"]

end Route

structure GraphRequest where
  graph : Canvas.Graph
  provider : Provider
  project : Option String
  env : Option String

def readProvider (v : Json) : Reading Provider :=
  let found := match v with
    | .str s => Provider.ofName? s
    | _ => none
  match found with
  | some p => .ok p
  | none => Reading.fail .noProvider v

def readGraphRequest : Json → Reading GraphRequest :=
  Reading.record "GraphRequest" fun fields =>
    .andThen (.andThen (.andThen (.map GraphRequest.mk
      (field fields ["graph"] Canvas.readGraph))
      (fieldOr fields ["provider"] .aws readProvider))
      (fieldOr fields ["project"] none (Reading.optional Reading.text)))
      (fieldOr fields ["env"] none (Reading.optional Reading.text))

def readValidateRequest : Json → Reading Canvas.Graph :=
  Reading.record "ValidateRequest" fun fields => field fields ["graph"] Canvas.readGraph

/-- Reads the body of a request; a null body counts as missing. -/
def readBody {α : Type} (read : Json → Reading α) (body : Json) : Reading α :=
  Reading.inRequest (Reading.under (.key "body")
    (if body.isNull then Reading.fail .missing body else read body))

end CloudCanvas.Service
