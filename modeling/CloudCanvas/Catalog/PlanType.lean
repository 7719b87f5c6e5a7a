import CloudCanvas.Catalog.Error

/-!
Plan types: the provider-neutral tag of a node in a plan.
-/

namespace CloudCanvas

inductive PlanType
  | s3
  | sqs
  | lambda
  | dynamodb
  | apigateway
  | sns
  | eventsRule
  | sfn
  | kinesis
  | gcs
  | pubsub
  | cloudRun
  | secretManager
  | firestore
  | other
deriving DecidableEq

namespace PlanType

def all : List PlanType :=
  [.s3, .sqs, .lambda, .dynamodb, .apigateway, .sns, .eventsRule, .sfn, .kinesis, .gcs, .pubsub,
    .cloudRun, .secretManager, .firestore, .other]

def name : PlanType → String
  | .s3 => "s3"
  | .sqs => "sqs"
  | .lambda => "lambda"
  | .dynamodb => "dynamodb"
  | .apigateway => "apigateway"
  | .sns => "sns"
  | .eventsRule => "events_rule"
  | .sfn => "sfn"
  | .kinesis => "kinesis"
  | .gcs => "gcs"
  | .pubsub => "pubsub"
  | .cloudRun => "run"
  | .secretManager => "secretmanager"
  | .firestore => "firestore"
  | .other => "other"

def ofName? (s : String) : Option PlanType :=
  all.find? (·.name = s)

theorem ofName?_eq_some_iff {s : String} {t : PlanType} : ofName? s = some t ↔ t.name = s := by
  constructor
  · intro h
    simpa using List.find?_some h
  · rintro rfl
    cases t <;> decide

def ofJson? : Json → Option PlanType
  | .str s => ofName? s
  | _ => none

/-- A value that names no plan type stands for `other`. -/
def ofJson (value : Json) : PlanType :=
  (ofJson? value).getD .other

def require (value : Json) : Except CatalogError PlanType :=
  match ofJson? value with
  | some t => .ok t
  | none => .error (.unknownPlanType value)

theorem mem_all (t : PlanType) : t ∈ all := by
  cases t <;> decide

end PlanType

end CloudCanvas
