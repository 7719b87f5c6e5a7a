/-!
Start of the service. The tables of the database are created in at most five attempts, two seconds
apart; after that the service runs without a log.
-/

namespace CloudCanvas.Startup

inductive Event
  | waiting (attempt retries : Nat)
  | sleep (seconds : Nat)
  | createdTables
  | connected
  | unavailable
deriving DecidableEq

def retries : Nat := 5

def delaySeconds : Nat := 2

/-- The events from attempt `attempt` on, with `left` attempts left, while the next `failures`
attempts fail. -/
def attemptsFrom (attempt failures : Nat) : (left : Nat) → List Event
  | 0 => [.unavailable]
  | left + 1 =>
    match failures with
    | 0 => [.createdTables, .connected]
    | failures + 1 =>
      .waiting attempt retries :: .sleep delaySeconds :: attemptsFrom (attempt + 1) failures left

def run (failures : Nat) : List Event :=
  attemptsFrom 1 failures retries

end CloudCanvas.Startup
