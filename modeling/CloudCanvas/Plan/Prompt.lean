import CloudCanvas.Catalog.Provider
import CloudCanvas.Document.Printer
import CloudCanvas.Plan.Basic
import CloudCanvas.Plan.Draft

/-!
Prompts: a plan with instructions to a generator, for people to read and print. The plan stands
between two headings as an indented document in the order of its fields.
-/

namespace CloudCanvas.Plan

def promptHead (p : Provider) : List String :=
  ["You are a Terraform generator. Output ONLY valid Terraform HCL for " ++ p.title ++ ".",
    "",
    "### Architecture Plan (JSON)"]

def promptTail : List String :=
  ["",
    "### (Prompt preserved for printing / debugging only; backend no longer needs it)"]

/-- The prompt that shows a plan document. -/
def promptText (document : Json) (p : Provider) : String :=
  "\n".intercalate (promptHead p ++ document.render Document.indented :: promptTail)

def promptFor (plan : Plan) (p : Provider) : String :=
  promptText plan.toJson p

def prompt (plan : Plan) (provider : Json) : Except CatalogError String :=
  (Provider.choose provider).map plan.promptFor

/-- A draft is shown as it is written, with what it leaves out filled in. -/
def Draft.prompt (d : Draft) (provider : Json) : Except CatalogError String :=
  (Provider.choose provider).map (promptText d.toJson)

end CloudCanvas.Plan
