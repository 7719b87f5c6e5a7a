import CloudCanvas.Document.Basic

/-!
The canvas: the graph a user draws. A node shows one service; once the user has configured it, it
also has a name, an environment, a region and the details entered in its panel. An edge joins two
nodes by their ids, which need not exist and need not be unique.
-/

namespace CloudCanvas

namespace Canvas

inductive Environment
  | development
  | staging
  | production
deriving DecidableEq

def Environment.all : List Environment :=
  [.development, .staging, .production]

def Environment.name : Environment → String
  | .development => "development"
  | .staging => "staging"
  | .production => "production"

def Environment.ofName? (s : String) : Option Environment :=
  all.find? (·.name = s)

theorem Environment.ofName?_eq_some_iff {s : String} {e : Environment} :
    ofName? s = some e ↔ e.name = s := by
  constructor
  · intro h
    simpa using List.find?_some h
  · rintro rfl
    cases e <;> decide

structure Position where
  x : Number
  y : Number
deriving DecidableEq

def Position.origin : Position :=
  ⟨.int 0, .int 0⟩

structure ServiceConfig where
  name : String
  description : String
  environment : Environment
  region : String
  details : Table Json
deriving DecidableEq

structure Node where
  id : String
  visualType : String
  displayLabel : String
  position : Position
  config : Option ServiceConfig
deriving DecidableEq

def Node.details (n : Node) : Table Json :=
  match n.config with
  | some config => config.details
  | none => []

def Node.detail (n : Node) (key : String) : Json :=
  Document.getField n.details key

structure Edge where
  source : String
  target : String
  props : Table Json
deriving DecidableEq

structure Graph where
  nodes : List Node
  edges : List Edge
deriving DecidableEq

end Canvas

end CloudCanvas
