import CloudCanvas.Canvas.Graph
import CloudCanvas.Payload.Build
import CloudCanvas.Payload.Label
import CloudCanvas.Plan.Build
import CloudCanvas.Plan.Prompt
import CloudCanvas.Validation.Validate

/-!
Compilation of a canvas: its nodes are validated, the graph becomes a plan, and the plan becomes a
payload and a prompt. The provider has to be known before anything is validated. Unless validation
only reports, a graph with errors is not compiled.
-/

namespace CloudCanvas

structure Compilation where
  plan : Plan
  payload : Payload
  prompt : String
  errors : Table (List String)

inductive CompilationError
  | catalog (cause : CatalogError)
  | invalid (errors : Table (List String))
deriving DecidableEq

/-- How many nodes are at fault, and in how many ways. -/
def invalidMessage (errors : Table (List String)) : String :=
  String.ofList (Nat.toDigits 10 errors.length) ++ " service(s) not fully configured (" ++
    String.ofList (Nat.toDigits 10 (errors.flatMap Prod.snd).length) ++ " issue(s))"

def CompilationError.message : CompilationError → String
  | .catalog cause => cause.message
  | .invalid errors => invalidMessage errors

namespace Compilation

/-- The compilation for a known provider, whether or not the graph has errors. -/
def ofGraph (config : Configuration) (g : Canvas.Graph) (p : Provider)
    (project env : Option String) : Compilation :=
  let plan := Plan.buildFor g p
  { plan
    payload := Payload.buildFor config plan p project env
    prompt := plan.promptFor p
    errors := (Validation.validate g.nodes).errorsByNode }

/-- The provider under which a graph is compiled, unless its errors keep it from that. -/
def gate (g : Canvas.Graph) (provider : Json) (blocking : Bool) :
    Except CompilationError Provider :=
  match Provider.choose provider with
  | .error cause => .error (.catalog cause)
  | .ok p =>
    let errors := (Validation.validate g.nodes).errorsByNode
    if blocking && !errors.isEmpty then .error (.invalid errors) else .ok p

def compile (config : Configuration) (g : Canvas.Graph) (provider : Json)
    (project env : Option String) (blocking : Bool) : Except CompilationError Compilation :=
  (gate g provider blocking).map fun p => ofGraph config g p project env

/-- Compilation under labels of any kind, which are looked at last. -/
def compileLabelled (config : Configuration) (g : Canvas.Graph) (provider project env : Json)
    (blocking : Bool) : Except CompilationError (Reading Compilation) :=
  (gate g provider blocking).map fun p =>
    (Payload.readLabels project env).map fun labels =>
      ofGraph config g p labels.project labels.env

end Compilation

end CloudCanvas
