/-!
What may keep a node from being deployed. An error blocks compilation; a warning does not, but the
result is probably not what the user meant.
-/

namespace CloudCanvas.Validation

inductive Severity
  | error
  | warning
deriving DecidableEq

def Severity.name : Severity → String
  | .error => "error"
  | .warning => "warning"

inductive Problem
  | notConfigured
  | noRegion
  | noField (field title : String)
  | invalidBucketName
  | invalidBucketLength
  | unmodelled (visualType : String)
deriving DecidableEq

namespace Problem

def severity : Problem → Severity
  | .unmodelled _ => .warning
  | _ => .error

def code : Problem → String
  | .notConfigured => "NOT_CONFIGURED"
  | .noRegion => "REGION_REQUIRED"
  | .noField .. => "FIELD_REQUIRED"
  | .invalidBucketName | .invalidBucketLength => "INVALID_BUCKET_NAME"
  | .unmodelled _ => "UNMODELLED_KIND"

def field? : Problem → Option String
  | .noRegion => some "region"
  | .noField field _ => some field
  | .invalidBucketName | .invalidBucketLength => some "bucketName"
  | .notConfigured | .unmodelled _ => none

/-- The message about a node of the given label. -/
def message (label : String) : Problem → String
  | .notConfigured =>
    label ++ " has not been configured. Please click on the service to configure it."
  | .noRegion => label ++ ": Region is required"
  | .noField _ title => label ++ ": " ++ title ++ " is required"
  | .invalidBucketName =>
    label ++ ": Bucket name must be 3-63 chars, lowercase letters, numbers, dots, hyphens"
  | .invalidBucketLength => label ++ ": Bucket name must be 3-63 characters"
  | .unmodelled visualType =>
    label ++ ": '" ++ visualType ++ "' has no dedicated resource kind and deploys as 'other'"

end Problem

structure Issue where
  nodeId : String
  label : String
  problem : Problem
deriving DecidableEq

namespace Issue

def severity (i : Issue) : Severity :=
  i.problem.severity

def isError (i : Issue) : Bool :=
  i.severity == .error

def message (i : Issue) : String :=
  i.problem.message i.label

end Issue

end CloudCanvas.Validation
