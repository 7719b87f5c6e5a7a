import CloudCanvas.Number.Basic
import CloudCanvas.Table

/-!
Request tokens. The tokens of an action are 1, 2, 3 and so on in the order of its requests. A
reply is accepted when its token was issued and is newer than every token accepted before for that
action, so a late reply never overwrites a newer one. A reply may bring its token as any number,
which counts by its size.
-/

namespace CloudCanvas

structure Sequencer where
  issued : Table Int
  accepted : Table Number

namespace Sequencer

def start : Sequencer :=
  ⟨[], []⟩

def lastIssued (s : Sequencer) (action : String) : Int :=
  (s.issued.get? action).getD 0

def lastAccepted (s : Sequencer) (action : String) : Number :=
  (s.accepted.get? action).getD (.int 0)

inductive Event
  | next (action : String)
  | current (action : String) (token : Number)
  | accept (action : String) (token : Number)

inductive Answer
  | token (n : Int)
  | verdict (b : Bool)
deriving DecidableEq

def next (s : Sequencer) (action : String) : Int × Sequencer :=
  let token := s.lastIssued action + 1
  (token, { s with issued := s.issued.set action token })

theorem lastIssued_next (s : Sequencer) (action other : String) :
    (s.next action).2.lastIssued other =
      if action = other then s.lastIssued action + 1 else s.lastIssued other := by
  simp only [next, lastIssued, Table.get?_set]
  split <;> rfl

theorem lastAccepted_next (s : Sequencer) (action other : String) :
    (s.next action).2.lastAccepted other = s.lastAccepted other :=
  rfl

def isCurrent (s : Sequencer) (action : String) (token : Number) : Bool :=
  token.same (.int (s.lastIssued action))

def accept (s : Sequencer) (action : String) (token : Number) : Bool × Sequencer :=
  if token.le (s.lastAccepted action) ∨ Number.lt (.int (s.lastIssued action)) token then
    (false, s)
  else
    (true, { s with accepted := s.accepted.set action token })

theorem lastIssued_accept (s : Sequencer) (action other : String) (token : Number) :
    (s.accept action token).2.lastIssued other = s.lastIssued other := by
  unfold accept
  split <;> rfl

theorem lastAccepted_accept (s : Sequencer) (action other : String) (token : Number) :
    (s.accept action token).2.lastAccepted other =
      if action = other ∧ (s.accept action token).1 then token else s.lastAccepted other := by
  unfold accept
  split
  · simp
  · simp only [lastAccepted, Table.get?_set]
    split <;> simp_all

def step (s : Sequencer) : Event → Answer × Sequencer
  | .next action => let (token, s) := s.next action; (.token token, s)
  | .current action token => (.verdict (s.isCurrent action token), s)
  | .accept action token => let (b, s) := s.accept action token; (.verdict b, s)

/-- The answers to a sequence of events. -/
def run (s : Sequencer) : List Event → List Answer
  | [] => []
  | e :: rest => let (answer, s) := s.step e; answer :: run s rest

end Sequencer

end CloudCanvas
