import CloudCanvas.Canvas.Graph
import CloudCanvas.Catalog.VisualType
import CloudCanvas.Validation.BucketName
import CloudCanvas.Validation.Issue

/-!
Validation of canvas nodes. A node has to be configured, to have a region, and to have what its
kind requires. A node whose visual type no provider models is only warned about.
-/

namespace CloudCanvas.Validation

open Canvas (Node)

def label (n : Node) : String :=
  if n.displayLabel ≠ "" then n.displayLabel else n.id

def hasRegion (n : Node) : Bool :=
  (n.config.map fun config => Text.strip config.region).getD "" ≠ "" ||
    (n.detail "region").strippedText ≠ ""

def required (n : Node) (field title : String) : List Problem :=
  if (n.detail field).strippedText ≠ "" then [] else [.noField field title]

/-- A bucket name has to be there before anything else is asked of it. -/
def bucketProblems (n : Node) (valid : String → Bool) (invalid : Problem) : List Problem :=
  let bucket := (n.detail "bucketName").strippedText
  if bucket = "" then [.noField "bucketName" "Bucket name"]
  else if valid bucket then []
  else [invalid]

def hasBucketLength (bucket : String) : Bool :=
  3 ≤ bucket.length && bucket.length ≤ 63

def kindProblems (n : Node) : ResourceKind → List Problem
  | .awsLambda => required n "runtime" "Runtime" ++ required n "handler" "Handler"
  | .awsS3 => bucketProblems n BucketName.accepts .invalidBucketName
  | .awsSqs => required n "queueName" "Queue name"
  | .awsSns => required n "topicName" "Topic name"
  | .awsDynamodb => required n "tableName" "Table name"
  | .awsKinesis => required n "streamName" "Stream name"
  | .gcpStorage => bucketProblems n hasBucketLength .invalidBucketLength
  | .gcpPubsub => required n "topicName" "Topic name"
  | .gcpRun => required n "image" "Container image"
  | .gcpFirestore => required n "locationId" "Location ID"
  | _ => []

def nodeProblems (n : Node) : List Problem :=
  match n.config with
  | none => [.notConfigured]
  | some _ =>
    (if hasRegion n then [] else [.noRegion]) ++
      match VisualType.native? n.visualType with
      | none => [.unmodelled n.visualType]
      | some kind => kindProblems n kind

def validateNode (n : Node) : List Issue :=
  (nodeProblems n).map fun problem => ⟨n.id, label n, problem⟩

/-- The error messages of one node; none when it is fully configured. -/
def nodeErrors (n : Node) : List String :=
  ((validateNode n).filter Issue.isError).map Issue.message

structure Report where
  issues : List Issue

def validate (nodes : List Node) : Report :=
  ⟨nodes.flatMap validateNode⟩

namespace Report

def errors (r : Report) : List Issue :=
  r.issues.filter Issue.isError

def warnings (r : Report) : List Issue :=
  r.issues.filter (!·.isError)

def isValid (r : Report) : Bool :=
  r.errors.isEmpty

def addMessage (table : Table (List String)) (i : Issue) : Table (List String) :=
  table.set i.nodeId ((table.get? i.nodeId).getD [] ++ [i.message])

/-- The error messages by node id, in the order in which the ids first fail. -/
def errorsByNode (r : Report) : Table (List String) :=
  r.errors.foldl addMessage []

def issueJson (i : Issue) : Json :=
  .obj [("severity", .str i.severity.name), ("code", .str i.problem.code),
    ("message", .str i.message), ("node_id", .str i.nodeId),
    ("field", (i.problem.field?.map .str).getD .null)]

end Report

def errorTableJson (table : Table (List String)) : Json :=
  .obj (table.map fun entry => (entry.1, .arr (entry.2.map .str)))

def Report.toJson (r : Report) : Json :=
  .obj [("is_valid", .bool r.isValid), ("error_count", .ofInt r.errors.length),
    ("warning_count", .ofInt r.warnings.length), ("issues", .arr (r.issues.map issueJson)),
    ("errors", errorTableJson r.errorsByNode)]

end CloudCanvas.Validation
