import CloudCanvas.Catalog.ResourceKind

/-!
Visual types: the names under which the palette of the canvas offers its services. A visual type
is matched as a whole, whatever its letter case and the blanks in it. The names of Google Cloud
are looked up first.
-/

namespace CloudCanvas.VisualType

def gcpTypes : Table PlanType :=
  [("gcs", .gcs),
    ("storage", .gcs),
    ("gcpstorage", .gcs),
    ("gcp-storage", .gcs),
    ("cloudstorage", .gcs),
    ("pubsub", .pubsub),
    ("gcppubsub", .pubsub),
    ("run", .cloudRun),
    ("cloudrun", .cloudRun),
    ("cloud-run", .cloudRun),
    ("gcpcloudrun", .cloudRun),
    ("secretmanager", .secretManager),
    ("secret-manager", .secretManager),
    ("gcpsecretmanager", .secretManager),
    ("firestore", .firestore),
    ("gcpfirestore", .firestore)]

/-- The palette also offers services that no plan type models. -/
def awsTypes : Table PlanType :=
  [("s3", .s3),
    ("sqs", .sqs),
    ("lambda", .lambda),
    ("dynamodb", .dynamodb),
    ("apigateway", .apigateway),
    ("apigw", .apigateway),
    ("sns", .sns),
    ("kinesis", .kinesis),
    ("sfn", .sfn),
    ("stepfunctions", .sfn),
    ("events", .eventsRule),
    ("events.rule", .eventsRule),
    ("events_rule", .eventsRule),
    ("eventbridge", .eventsRule),
    ("awss3", .s3),
    ("aws-s3", .s3),
    ("awslambda", .lambda),
    ("aws-lambda", .lambda),
    ("awssqs", .sqs),
    ("aws-sqs", .sqs),
    ("awssns", .sns),
    ("aws-sns", .sns),
    ("awsdynamodb", .dynamodb),
    ("aws-dynamodb", .dynamodb),
    ("rds", .other),
    ("ec2", .other),
    ("cloudfront", .other)]

def lookupKey (visualType : String) : String :=
  Text.lower (Text.removeBlanks visualType)

def planTypeOfKey (key : String) : PlanType :=
  match gcpTypes.get? key with
  | some t => t
  | none => (awsTypes.get? key).getD .other

def planType (visualType : String) : PlanType :=
  planTypeOfKey (lookupKey visualType)

/-- A value that counts as absent is the empty visual type. -/
def ofJson (value : Json) : String :=
  if value.truthy then value.display else ""

def kindFor (visualType : String) (p : Provider) : ResourceKind :=
  (planType visualType).kindFor p

/-- The kind in the provider that owns the visual type, if one models it. -/
def native? (visualType : String) : Option ResourceKind :=
  (planType visualType).native?

end CloudCanvas.VisualType
