import CloudCanvas.Document.Basic
import CloudCanvas.Text.Quoted

/-!
The configuration of the program, read from environment variables. A variable that is not set
leaves its default; a number that cannot be read is an error.
-/

namespace CloudCanvas

structure Configuration where
  apiBase : String
  defaultProject : String
  defaultEnv : String
  requestTimeout : Binary64
  autosaveDebounce : Binary64
  databaseUrl : String
  logLevel : String
  logFormat : String
  corsOrigins : List String

inductive ConfigurationError
  | unreadableNumber (text : String)
deriving DecidableEq

def ConfigurationError.message : ConfigurationError → String
  | .unreadableNumber text => "could not convert string to float: " ++ Text.quote text

namespace Configuration

def standard : Configuration where
  apiBase := "http://localhost:8000"
  defaultProject := "canvas-project"
  defaultEnv := "dev"
  requestTimeout := Binary64.ofInt 300
  autosaveDebounce := Binary64.ofInt 2
  databaseUrl := "sqlite:///./infracanvas.db"
  logLevel := "INFO"
  logFormat := "console"
  corsOrigins := ["http://localhost:3000"]

def readNumber (env : Table String) (name : String) (default : Binary64) :
    Except ConfigurationError Binary64 :=
  match env.get? name with
  | none => .ok default
  | some text =>
    match Numeral.float? text with
    | some x => .ok x
    | none => .error (.unreadableNumber text)

/-- The parts between commas, stripped, without the blank ones. -/
def readOrigins (text : String) : List String :=
  ((text.splitOn ",").map Text.strip).filter (· ≠ "")

def ofEnvironment (env : Table String) : Except ConfigurationError Configuration := do
  let text (name default : String) := (env.get? name).getD default
  let requestTimeout ←
    readNumber env "INFRACANVAS_REQUEST_TIMEOUT" standard.requestTimeout
  let autosaveDebounce ←
    readNumber env "INFRACANVAS_AUTOSAVE_DEBOUNCE" standard.autosaveDebounce
  return {
    apiBase := text "INFRACANVAS_API_BASE" standard.apiBase
    defaultProject := text "INFRACANVAS_PROJECT" standard.defaultProject
    defaultEnv := text "INFRACANVAS_ENV" standard.defaultEnv
    requestTimeout
    autosaveDebounce
    databaseUrl := text "DATABASE_URL" standard.databaseUrl
    logLevel := text "LOG_LEVEL" standard.logLevel
    logFormat := text "LOG_FORMAT" standard.logFormat
    corsOrigins := (env.get? "CORS_ORIGINS").elim standard.corsOrigins readOrigins
  }

end Configuration

end CloudCanvas
