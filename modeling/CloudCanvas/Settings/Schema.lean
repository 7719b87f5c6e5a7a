import CloudCanvas.Catalog.ResourceKind

/-!
Settings schemas: for every modelled resource kind the fields that a deployment carries, in the
order in which they are written. A field has the name it has on the wire, the older names under
which a canvas may still keep its value, a shape, and the value it falls back to.
-/

namespace CloudCanvas.Settings

inductive Shape
  | flag
  | number
  | text
  | mapping
  | any
deriving DecidableEq

/-- A field with `named` set also takes an object, of which it keeps the field `name`. -/
structure Field where
  name : String
  shape : Shape
  fallback : Option Json
  legacy : List String
  named : Bool

abbrev Schema := List Field

namespace Field

def text (name : String) (fallback : Option String) (legacy : List String) : Field :=
  ⟨name, .text, fallback.map .str, legacy, false⟩

def keyName (name : String) (fallback : Option String) : Field :=
  ⟨name, .text, fallback.map .str, [], true⟩

def number (name : String) (fallback : Int) (legacy : List String) : Field :=
  ⟨name, .number, some (.ofInt fallback), legacy, false⟩

def flag (name : String) (fallback : Option Bool) (legacy : List String) : Field :=
  ⟨name, .flag, fallback.map .bool, legacy, false⟩

def mapping (name : String) : Field :=
  ⟨name, .mapping, some (.obj []), [], false⟩

def any (name : String) (legacy : List String) : Field :=
  ⟨name, .any, none, legacy, false⟩

end Field

/-- The schema of a kind; `other` kinds have none. -/
def schema? : ResourceKind → Option Schema
  | .awsLambda => some
    [.text "runtime" (some "python3.12") [],
      .number "memory" 256 ["memory_mb", "memoryMB"],
      .number "timeout" 30 ["timeout_s", "timeoutSec"],
      .text "handler" (some "app.lambda_handler") [],
      .text "codeUri" (some "src/processor") ["package_path"]]
  | .awsS3 => some
    [.flag "versioning" (some true) [],
      .flag "eventBridge" none []]
  | .awsSqs => some
    [.number "visibilityTimeout" 60 ["visibilityTimeoutSec"],
      .any "dlq" ["deadLetterTargetArn"],
      .text "physicalName" none ["queueName"]]
  | .awsSns => some
    [.text "displayName" none [],
      .text "physicalName" none ["topicName"]]
  | .awsEventsRule => some
    [.any "pattern" []]
  | .awsApigw => some
    [.text "apiName" none []]
  | .awsDynamodb => some
    [.keyName "partitionKey" (some "pk"),
      .keyName "sortKey" none,
      .text "billing" (some "PAY_PER_REQUEST") ["billingMode"],
      .flag "stream" (some true) ["streamEnabled"],
      .text "physicalName" none ["tableName"]]
  | .awsSfn => some
    [.text "physicalName" none []]
  | .awsKinesis => some
    [.number "shards" 1 ["shardCount"],
      .text "physicalName" none ["streamName"]]
  | .gcpStorage => some
    [.text "bucketName" none [],
      .flag "uniformAccess" (some true) [],
      .flag "forceDestroy" (some false) [],
      .mapping "labels"]
  | .gcpPubsub => some
    [.text "topicName" none [],
      .mapping "labels"]
  | .gcpRun => some
    [.text "image" (some "gcr.io/cloudrun/hello") [],
      .text "cpu" (some "1000m") [],
      .text "memory" (some "512Mi") [],
      .number "minInstances" 0 [],
      .number "maxInstances" 10 [],
      .number "concurrency" 80 [],
      .flag "allowUnauthenticated" (some true) [],
      .mapping "env"]
  | .gcpSecretManager => some
    [.text "secretId" none [],
      .text "secretValue" none [],
      .mapping "labels"]
  | .gcpFirestore => some
    [.text "locationId" (some "us-central") [],
      .text "databaseId" (some "(default)") []]
  | .awsOther | .gcpOther => none

end CloudCanvas.Settings
