import CloudCanvas.Configuration
import CloudCanvas.Document.Display
import CloudCanvas.Document.Reader
import CloudCanvas.Payload.Basic

/-!
The deployment client. Each action posts one document to its own path of the backend; the document
depends on the action and the payload alone. Bootstrapping without a region is refused before
anything is sent, and so is a payload that cannot be written. A reply with a status from 400 to
599 is an error, whose message is found in the reply or made up from the action and the status. A
reply is a loose document, since it may spell surrogates without a partner.
-/

namespace CloudCanvas

open Text (LooseText points)

inductive Action
  | awsCompile
  | awsDeploy
  | awsBootstrap
  | awsDestroy
  | gcpUp
  | gcpPreview
  | gcpDestroy
deriving DecidableEq

namespace Action

def path : Action → String
  | .awsCompile => "/aws/compile"
  | .awsDeploy => "/aws/deploy"
  | .awsBootstrap => "/aws/bootstrap"
  | .awsDestroy => "/aws/destroy"
  | .gcpUp => "/gcp/up"
  | .gcpPreview => "/gcp/preview"
  | .gcpDestroy => "/gcp/destroy"

def title : Action → String
  | .awsCompile => "Compile"
  | .awsDeploy | .gcpUp => "Deploy"
  | .awsBootstrap => "Bootstrap"
  | .awsDestroy | .gcpDestroy => "Destroy"
  | .gcpPreview => "Preview"

end Action

namespace Client

structure Request where
  url : String
  body : Json
  timeout : Json
deriving DecidableEq

structure Reply where
  status : Int
  body : String

structure Response where
  status : Int
  message : Option LooseText
deriving DecidableEq

inductive Error
  | noRegion
  | payload (cause : Payload.WireError)
  | nesting (container : Document.Container)
  | backend (message : LooseText) (status : Int)
deriving DecidableEq

def nestingMessage : Document.Container → String
  | .array => "maximum recursion depth exceeded while decoding a JSON array from a unicode string"
  | .object => "maximum recursion depth exceeded while decoding a JSON object from a unicode string"

def Error.message : Error → LooseText
  | .noRegion => points "Region is required to bootstrap"
  | .payload cause => points cause.message
  | .nesting container => points (nestingMessage container)
  | .backend message _ => message

/-- The wire object of a payload; its region stands in for a location that is not set. -/
def located (p : Payload) : Json :=
  .obj (p.toWire.fieldsOrEmpty.setDefault "location" (.str p.region))

def body (p : Payload) : Action → Json
  | .awsCompile | .awsDeploy | .awsBootstrap | .gcpDestroy => p.toWire
  | .awsDestroy => .obj []
  | .gcpUp => .obj [("ir", located p)]
  | .gcpPreview => .obj [("ir", p.toWire)]

/-- Why an action is refused before anything is sent. Destroying on AWS sends no payload. -/
def refusal? (p : Payload) (a : Action) : Option Error :=
  if a = .awsBootstrap ∧ Text.isBlankText p.region then some .noRegion
  else if a ≠ .awsDestroy ∧ !p.isWritable then some (.payload .tooDeep)
  else none

def isFailure (status : Int) : Bool :=
  400 ≤ status && status < 600

/-- How many containers within each other a reply may have: one more if it is no failure. -/
def replyRoom (status : Int) : Nat :=
  if isFailure status then 984 else 985

/-- The fields of a reply, by their loose names. -/
abbrev ReplyFields := Table (Document LooseText) LooseText

/-- The object in the body of a reply; none if it holds anything else. -/
def replyFields (r : Reply) : Except Error ReplyFields :=
  match Document.readWithin (replyRoom r.status) r.body with
  | .ok v => .ok v.fieldsOrEmpty
  | .error .malformed => .ok []
  | .error (.tooDeep container) => .error (.nesting container)

def replyField (fields : ReplyFields) (key : String) : Document LooseText :=
  Document.getField fields (points key)

def firstTruthy? (fields : ReplyFields) (keys : List String) : Option (Document LooseText) :=
  (keys.map (replyField fields)).find? Document.truthy

/-- A string stands for itself, and any other value is shown as in messages. -/
def shown : Document LooseText → LooseText
  | .str s => s
  | v => points v.quoted

/-- The message of a reply without one in its fields. -/
def plainMessage (a : Action) (r : Reply) : String :=
  let text := Text.strip r.body
  if text ≠ "" then text
  else a.title ++ " failed (" ++ String.ofList (Number.intText r.status) ++ ")"

def errorMessage (a : Action) (r : Reply) (fields : ReplyFields) : LooseText :=
  match firstTruthy? fields ["detail", "error"] with
  | some v => shown v
  | none => points (plainMessage a r)

/-- The first value that counts as present, or else the last one. -/
def replyMessage (fields : ReplyFields) : Option LooseText :=
  let value := (firstTruthy? fields ["message", "output"]).getD (replyField fields "detail")
  if value.isNull then none else some (shown value)

def settle (a : Action) (r : Reply) : Except Error Response :=
  match replyFields r with
  | .error e => .error e
  | .ok fields =>
    if isFailure r.status then .error (.backend (errorMessage a r fields) r.status)
    else .ok ⟨r.status, replyMessage fields⟩

end Client

structure Client where
  baseUrl : String
  timeout : Json

namespace Client

/-- A value other than a text is no address. -/
inductive AddressError
  | noText (value : Json)
deriving DecidableEq

def AddressError.message : AddressError → String
  | .noText value => "'" ++ value.typeName ++ "' object has no attribute 'rstrip'"

/-- A client without an address or a timeout of its own takes the configured ones. -/
def configured (config : Configuration) (baseUrl timeout : Option Json) :
    Except AddressError Client :=
  let timeout := timeout.getD (.num (.float config.requestTimeout))
  match baseUrl with
  | none => .ok ⟨config.apiBase, timeout⟩
  | some (.str url) => .ok ⟨url, timeout⟩
  | some value => .error (.noText value)

/-- The slashes at the end of the address of the backend do not count. -/
def request (c : Client) (p : Payload) (a : Action) : Request :=
  ⟨Text.trimSlashes c.baseUrl ++ a.path, body p a, c.timeout⟩

/-- What is sent for an action, and how the backend's reply to it ends. -/
def call (c : Client) (p : Payload) (a : Action) (reply : Reply) :
    List Request × Except Error Response :=
  match refusal? p a with
  | some e => ([], .error e)
  | none => ([c.request p a], settle a reply)

def run (c : Client) (p : Payload) (calls : List (Action × Reply)) :
    List (List Request × Except Error Response) :=
  calls.map fun (a, reply) => c.call p a reply

end Client

end CloudCanvas
