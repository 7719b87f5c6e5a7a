import CloudCanvas.Catalog.Error
import CloudCanvas.Text.Case

/-!
Cloud providers. A provider is chosen by its name in any letter case; a value that counts as
absent chooses AWS.
-/

namespace CloudCanvas

inductive Provider
  | aws
  | gcp
deriving DecidableEq

namespace Provider

def all : List Provider :=
  [.aws, .gcp]

def name : Provider → String
  | .aws => "aws"
  | .gcp => "gcp"

def ofName? (s : String) : Option Provider :=
  all.find? (·.name = s)

theorem ofName?_eq_some_iff {s : String} {p : Provider} : ofName? s = some p ↔ p.name = s := by
  constructor
  · intro h
    simpa using List.find?_some h
  · rintro rfl
    cases p <;> decide

def choose (value : Json) : Except CatalogError Provider :=
  let text := Text.lower (if value.truthy then value.display else aws.name)
  match ofName? text with
  | some p => .ok p
  | none => .error (.unknownProvider text)

/-- The name of the provider as a reader of a plan knows it. -/
def title : Provider → String
  | .aws => "AWS"
  | .gcp => "Google Cloud"

def defaultRegion : Provider → String
  | .aws => "ap-southeast-2"
  | .gcp => "us-central1"

end Provider

end CloudCanvas
