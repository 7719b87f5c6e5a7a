import CloudCanvas.Document.Display

/-!
Names that the catalog does not know, and how a message about each reads.
-/

namespace CloudCanvas

inductive CatalogError
  | unknownProvider (name : String)
  | unknownResourceKind (value : Json)
  | unknownPlanType (value : Json)
deriving DecidableEq

namespace CatalogError

def message : CatalogError → String
  | .unknownProvider name => Text.quote name ++ " is not a valid Provider"
  | .unknownResourceKind value => value.quoted ++ " is not a valid ResourceKind"
  | .unknownPlanType value => value.quoted ++ " is not a valid PlanNodeType"

end CatalogError

end CloudCanvas
