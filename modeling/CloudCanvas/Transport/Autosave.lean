import CloudCanvas.Configuration

/-!
The autosave gate. It opens when the last unsaved change is old enough and the text to be saved
differs from the text saved last. Saving forgets the change. Times are passed in, so that the gate
works with any clock.
-/

namespace CloudCanvas

/-- Times with a difference, which some clocks cannot always form, and an order. -/
class Clock (τ : Type) where
  elapsed? : (now since : τ) → Option τ
  isBefore : τ → τ → Bool

instance : Clock Number where
  elapsed? := Number.sub?
  isBefore := Number.lt

structure Autosave (τ : Type) where
  debounce : τ
  lastChange : Option τ
  lastSaved : Option String

namespace Autosave

variable {τ : Type}

inductive ClockError
  | outOfRange
deriving DecidableEq

def ClockError.message : ClockError → String
  | .outOfRange => "int too large to convert to float"

def start (debounce : τ) : Autosave τ :=
  ⟨debounce, none, none⟩

/-- A gate without a delay of its own takes the configured one. -/
def configured (config : Configuration) (debounce : Option Number) : Autosave Number :=
  .start (debounce.getD (.float config.autosaveDebounce))

def markChanged (gate : Autosave τ) (now : τ) : Autosave τ :=
  { gate with lastChange := some now }

def markSaved (gate : Autosave τ) (text : String) : Autosave τ :=
  { gate with lastSaved := some text, lastChange := none }

/-- Whether `text` is to be saved now. -/
def shouldSave [Clock τ] (gate : Autosave τ) (text : String) (now : τ) :
    Except ClockError Bool :=
  match gate.lastChange with
  | none => .ok false
  | some change =>
    match Clock.elapsed? now change with
    | none => .error .outOfRange
    | some elapsed =>
      if Clock.isBefore elapsed gate.debounce then .ok false
      else .ok (gate.lastSaved ≠ some text)

inductive Event (τ : Type)
  | changed (now : τ)
  | should (text : String) (now : τ)
  | saved (text : String)

def next (gate : Autosave τ) : Event τ → Autosave τ
  | .changed now => gate.markChanged now
  | .should .. => gate
  | .saved text => gate.markSaved text

/-- Only a question has an answer. -/
def answer [Clock τ] (gate : Autosave τ) : Event τ → Except ClockError (Option Bool)
  | .should text now => (gate.shouldSave text now).map some
  | .changed _ | .saved _ => .ok none

/-- The answers to a sequence of events. -/
def run [Clock τ] (gate : Autosave τ) : List (Event τ) → Except ClockError (List (Option Bool))
  | [] => .ok []
  | e :: rest => do
    let answer ← gate.answer e
    let answers ← run (gate.next e) rest
    .ok (answer :: answers)

end Autosave

end CloudCanvas
