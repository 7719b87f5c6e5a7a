import CloudCanvas.Catalog.ResourceKind

/-!
Intents: what an edge between two resources means. The first rule for its source and its target
decides; a pair without a rule is a bare notification.
-/

namespace CloudCanvas

inductive Intent
  | notify
  | consume
  | invoke
  | read
  | write
  | deliver
  | access
deriving DecidableEq

namespace Intent

def all : List Intent :=
  [.notify, .consume, .invoke, .read, .write, .deliver, .access]

def name : Intent → String
  | .notify => "notify"
  | .consume => "consume"
  | .invoke => "invoke"
  | .read => "read"
  | .write => "write"
  | .deliver => "deliver"
  | .access => "access"

def ofName? (s : String) : Option Intent :=
  all.find? (·.name = s)

theorem ofName?_eq_some_iff {s : String} {i : Intent} : ofName? s = some i ↔ i.name = s := by
  constructor
  · intro h
    simpa using List.find?_some h
  · rintro rfl
    cases i <;> decide

structure Rule where
  source : ResourceKind
  targets : List ResourceKind
  intent : Intent

def Rule.applies (r : Rule) (source target : ResourceKind) : Bool :=
  r.source == source && r.targets.contains target

/-- A function writes to its table; reading is drawn as an edge of its own. -/
def rules : List Rule :=
  [⟨.awsS3, [.awsSqs, .awsLambda, .awsSns, .awsEventsRule], .notify⟩,
    ⟨.awsSns, [.awsLambda, .awsSqs], .deliver⟩,
    ⟨.awsSqs, [.awsLambda], .consume⟩,
    ⟨.awsEventsRule, [.awsLambda], .notify⟩,
    ⟨.awsApigw, [.awsLambda], .invoke⟩,
    ⟨.awsDynamodb, [.awsLambda], .consume⟩,
    ⟨.awsLambda, [.awsDynamodb], .write⟩,
    ⟨.awsLambda, [.awsSfn], .invoke⟩,
    ⟨.awsKinesis, [.awsLambda], .consume⟩,
    ⟨.gcpStorage, [.gcpPubsub], .notify⟩,
    ⟨.gcpPubsub, [.gcpRun], .notify⟩,
    ⟨.gcpRun, [.gcpSecretManager], .access⟩]

def ofKinds (source target : ResourceKind) : Intent :=
  match rules.find? (·.applies source target) with
  | some rule => rule.intent
  | none => .notify

/-- The intent between two ends, either of which may have no kind. -/
def ofEnds (source target : Option ResourceKind) : Intent :=
  match source, target with
  | some s, some t => ofKinds s t
  | _, _ => .notify

def classify (source target : KindRef) : Intent :=
  ofEnds source.resolve? target.resolve?

end Intent

end CloudCanvas
