import CloudCanvas.Document.Display
import CloudCanvas.Text.Case

/-!
Resource names. A display name becomes an identifier: stripped, lowercase, its words joined by
hyphens. A blank name has no identifier and takes a fallback name from a counter, which moves on
with every name taken from it.
-/

namespace CloudCanvas.Naming

def identifier (name : String) : String :=
  Text.hyphenate (Text.lower (Text.strip name))

def numberedName (n : Int) : String :=
  "res-" ++ String.ofList (Number.intText n)

/-- The name of a resource, and the counter after it. -/
def sanitize (name : String) (counter : Int) : String × Int :=
  let base := identifier name
  if base = "" then (numberedName counter, counter + 1) else (base, counter)

/-- A value other than a text cannot be a name. -/
inductive NamingError
  | noText (value : Json)
deriving DecidableEq

def NamingError.message : NamingError → String
  | .noText value => "'" ++ value.typeName ++ "' object has no attribute 'strip'"

/-- Any value that counts as absent is a blank name. -/
def sanitizeJson (value : Json) (counter : Int) : Except NamingError String × Int :=
  if value.truthy then
    match value with
    | .str name => let (name, counter) := sanitize name counter; (.ok name, counter)
    | value => (.error (.noText value), counter)
  else
    let (name, counter) := sanitize "" counter
    (.ok name, counter)

/-- The names of a sequence of values, one after the other. -/
def sanitizeAll (counter : Int) : List Json → List (Except NamingError String)
  | [] => []
  | value :: rest =>
    let (name, counter) := sanitizeJson value counter
    name :: sanitizeAll counter rest

end CloudCanvas.Naming
