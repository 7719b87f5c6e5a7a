import CloudCanvas.Document.Basic

/-!
What may be wrong with a document that is read as a record, and where. An issue names the path
from the document to the faulty value by the keys that were found there, and keeps the value; for
a missing field that is the record it is missing from.
-/

namespace CloudCanvas.Reading

inductive Step
  | key (name : String)
  | index (n : Nat)
deriving DecidableEq

inductive Fault
  | missing
  | noText
  | noList
  | noMapping
  | noRecord (model : String)
  | noFields
  | noEnvironment
  | noProvider
  | noIntent
  | noNumber
  | unreadableNumber
  | noInteger
  | unreadableInteger
  | oversizedInteger
deriving DecidableEq

structure Issue where
  path : List Step
  fault : Fault
  input : Json
deriving DecidableEq

namespace Fault

def code : Fault → String
  | .missing => "missing"
  | .noText => "string_type"
  | .noList => "list_type"
  | .noMapping => "dict_type"
  | .noRecord _ => "model_type"
  | .noFields => "model_attributes_type"
  | .noEnvironment => "literal_error"
  | .noProvider | .noIntent => "enum"
  | .noNumber => "float_type"
  | .unreadableNumber => "float_parsing"
  | .noInteger => "int_type"
  | .unreadableInteger => "int_parsing"
  | .oversizedInteger => "int_parsing_size"

def message : Fault → String
  | .missing => "Field required"
  | .noText => "Input should be a valid string"
  | .noList => "Input should be a valid list"
  | .noMapping => "Input should be a valid dictionary"
  | .noRecord model => "Input should be a valid dictionary or instance of " ++ model
  | .noFields => "Input should be a valid dictionary or object to extract fields from"
  | .noEnvironment => "Input should be 'development', 'staging' or 'production'"
  | .noProvider => "Input should be 'aws' or 'gcp'"
  | .noIntent =>
    "Input should be 'notify', 'consume', 'invoke', 'read', 'write', 'deliver' or 'access'"
  | .noNumber => "Input should be a valid number"
  | .unreadableNumber => "Input should be a valid number, unable to parse string as a number"
  | .noInteger => "Input should be a valid integer"
  | .unreadableInteger => "Input should be a valid integer, unable to parse string as an integer"
  | .oversizedInteger => "Unable to parse input string as an integer, exceeded maximum size"

/-- Inside a request a value in place of a record is reported without the record's name. -/
def inRequest : Fault → Fault
  | .noRecord _ => .noFields
  | fault => fault

end Fault

def Step.toJson : Step → Json
  | .key name => .str name
  | .index n => .ofInt n

/-- The report leaves out the value, which the sender knows. -/
def Issue.toJson (i : Issue) : Json :=
  .obj [("type", .str i.fault.code), ("loc", .arr (i.path.map Step.toJson)),
    ("msg", .str i.fault.message)]

end CloudCanvas.Reading
