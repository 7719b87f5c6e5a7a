import CloudCanvas.Catalog.PlanType
import CloudCanvas.Catalog.Provider

/-!
Resource kinds: what a node is deployed as by one provider. Every plan type but `other` has a
native kind, which belongs to the provider that offers the service; any other provider deploys it
as its own `other` kind. The family of a kind is its role in a graph whatever its provider.
-/

namespace CloudCanvas

inductive ResourceKind
  | awsS3
  | awsLambda
  | awsSqs
  | awsSns
  | awsDynamodb
  | awsApigw
  | awsEventsRule
  | awsSfn
  | awsKinesis
  | awsOther
  | gcpStorage
  | gcpPubsub
  | gcpRun
  | gcpSecretManager
  | gcpFirestore
  | gcpOther
deriving DecidableEq

inductive Family
  | storage
  | queue
  | function
  | topic
  | table
  | apiGateway
  | eventRule
  | workflow
  | stream
  | service
  | secret
  | documentDb
  | other
deriving DecidableEq

def Family.name : Family → String
  | .storage => "storage"
  | .queue => "queue"
  | .function => "function"
  | .topic => "topic"
  | .table => "table"
  | .apiGateway => "api_gateway"
  | .eventRule => "event_rule"
  | .workflow => "workflow"
  | .stream => "stream"
  | .service => "service"
  | .secret => "secret"
  | .documentDb => "document_db"
  | .other => "other"

def PlanType.native? : PlanType → Option ResourceKind
  | .s3 => some .awsS3
  | .sqs => some .awsSqs
  | .lambda => some .awsLambda
  | .dynamodb => some .awsDynamodb
  | .apigateway => some .awsApigw
  | .sns => some .awsSns
  | .eventsRule => some .awsEventsRule
  | .sfn => some .awsSfn
  | .kinesis => some .awsKinesis
  | .gcs => some .gcpStorage
  | .pubsub => some .gcpPubsub
  | .cloudRun => some .gcpRun
  | .secretManager => some .gcpSecretManager
  | .firestore => some .gcpFirestore
  | .other => none

namespace ResourceKind

def all : List ResourceKind :=
  [.awsS3, .awsLambda, .awsSqs, .awsSns, .awsDynamodb, .awsApigw, .awsEventsRule, .awsSfn,
    .awsKinesis, .awsOther, .gcpStorage, .gcpPubsub, .gcpRun, .gcpSecretManager, .gcpFirestore,
    .gcpOther]

def name : ResourceKind → String
  | .awsS3 => "aws.s3"
  | .awsLambda => "aws.lambda"
  | .awsSqs => "aws.sqs"
  | .awsSns => "aws.sns"
  | .awsDynamodb => "aws.dynamodb"
  | .awsApigw => "aws.apigw"
  | .awsEventsRule => "aws.events.rule"
  | .awsSfn => "aws.sfn"
  | .awsKinesis => "aws.kinesis"
  | .awsOther => "aws.other"
  | .gcpStorage => "gcp.storage"
  | .gcpPubsub => "gcp.pubsub"
  | .gcpRun => "gcp.run"
  | .gcpSecretManager => "gcp.secretmanager"
  | .gcpFirestore => "gcp.firestore"
  | .gcpOther => "gcp.other"

def ofName? (s : String) : Option ResourceKind :=
  all.find? (·.name = s)

theorem ofName?_eq_some_iff {s : String} {k : ResourceKind} :
    ofName? s = some k ↔ k.name = s := by
  constructor
  · intro h
    simpa using List.find?_some h
  · rintro rfl
    cases k <;> decide

def require (value : Json) : Except CatalogError ResourceKind :=
  let found := match value with
    | .str s => ofName? s
    | _ => none
  match found with
  | some k => .ok k
  | none => .error (.unknownResourceKind value)

def provider : ResourceKind → Provider
  | .awsS3 | .awsLambda | .awsSqs | .awsSns | .awsDynamodb | .awsApigw | .awsEventsRule | .awsSfn
  | .awsKinesis | .awsOther => .aws
  | .gcpStorage | .gcpPubsub | .gcpRun | .gcpSecretManager | .gcpFirestore | .gcpOther => .gcp

def family : ResourceKind → Family
  | .awsS3 | .gcpStorage => .storage
  | .awsLambda => .function
  | .awsSqs => .queue
  | .awsSns | .gcpPubsub => .topic
  | .awsDynamodb => .table
  | .awsApigw => .apiGateway
  | .awsEventsRule => .eventRule
  | .awsSfn => .workflow
  | .awsKinesis => .stream
  | .gcpRun => .service
  | .gcpSecretManager => .secret
  | .gcpFirestore => .documentDb
  | .awsOther | .gcpOther => .other

/-- The kind of a resource that the provider does not model. -/
def otherOf : Provider → ResourceKind
  | .aws => .awsOther
  | .gcp => .gcpOther

def isOther (k : ResourceKind) : Bool :=
  Provider.all.any (otherOf · == k)

theorem mem_all (k : ResourceKind) : k ∈ all := by
  cases k <;> decide

end ResourceKind

/-- The family of what may have no kind. -/
def Family.ofKind? (kind : Option ResourceKind) : Family :=
  match kind with
  | some k => k.family
  | none => .other

namespace PlanType

/-- The kind in which a provider deploys a plan type whose native kind `native` gives. -/
def kindBy (t : PlanType) (native : PlanType → Option ResourceKind) (p : Provider) :
    ResourceKind :=
  match native t with
  | some k => if k.provider = p then k else .otherOf p
  | none => .otherOf p

theorem provider_kindBy (t : PlanType) (native : PlanType → Option ResourceKind) (p : Provider) :
    (t.kindBy native p).provider = p := by
  unfold kindBy
  cases native t with
  | none => cases p <;> rfl
  | some k =>
    dsimp only
    split
    · assumption
    · cases p <;> rfl

def kindFor (t : PlanType) (p : Provider) : ResourceKind :=
  t.kindBy native? p

def family (t : PlanType) : Family :=
  .ofKind? t.native?

end PlanType

/-- What may stand for a resource kind: a kind, a plan type, or a value that names one of them. -/
inductive KindRef
  | kind (k : ResourceKind)
  | planType (t : PlanType)
  | value (v : Json)

namespace KindRef

/-- The kind of that name; a plan type's name stands for the kind that `native` gives it. -/
def namedBy? (native : PlanType → Option ResourceKind) (s : String) : Option ResourceKind :=
  match ResourceKind.ofName? s with
  | some k => some k
  | none => PlanType.ofName? s >>= native

def resolveBy? (native : PlanType → Option ResourceKind) : KindRef → Option ResourceKind
  | .kind k => some k
  | .planType t => namedBy? native t.name
  | .value v => if v.isNull then none else namedBy? native v.display

def resolve? (r : KindRef) : Option ResourceKind :=
  r.resolveBy? PlanType.native?

def family (r : KindRef) : Family :=
  .ofKind? r.resolve?

end KindRef

end CloudCanvas
