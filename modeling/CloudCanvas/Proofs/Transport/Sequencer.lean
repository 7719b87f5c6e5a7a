import CloudCanvas.Transport.Sequencer
import Mathlib.Data.List.Basic
import Mathlib.Tactic.Linarith

/-!
What a run of a sequencer guarantees, said about its transcript: the events with their answers. The
invariant ties the two tables of the sequencer to the transcript so far; each kind of event keeps
it, and so does every run. From it the answers are read off without the tables: the tokens of an
action are 1, 2, 3 and so on, and a reply is accepted exactly when its token was issued for its
action and is newer than all that were accepted for it.
-/

namespace CloudCanvas.Sequencer

abbrev Exchange := Event × Answer

def Event.action : Event → String
  | .next action | .current action _ | .accept action _ => action

def Event.asksFor (action : String) : Event → Bool
  | .next other => other == action
  | _ => false

/-- A reply brings its token as a whole number. -/
def Event.RepliesWhole : Event → Prop
  | .accept _ token => ∃ n, token = .int n
  | _ => True

def transcript (s : Sequencer) (events : List Event) : List Exchange :=
  events.zip (s.run events)

def after (s : Sequencer) : List Event → Sequencer
  | [] => s
  | e :: rest => after (s.step e).2 rest

def issuedTo (action : String) : Exchange → Option Int
  | (.next other, .token n) => if other = action then some n else none
  | _ => none

def acceptedBy (action : String) : Exchange → Option Int
  | (.accept other (.int n), .verdict true) => if other = action then some n else none
  | _ => none

/-- The tokens that a transcript shows as issued for an action, in order. -/
def issuedFor (action : String) (log : List Exchange) : List Int :=
  log.filterMap (issuedTo action)

def acceptedFor (action : String) (log : List Exchange) : List Int :=
  log.filterMap (acceptedBy action)

/-- A question, or a reply that was turned away. -/
def Idle : Exchange → Prop
  | (.current .., _) | (.accept .., .verdict false) => True
  | _ => False

/-- The first tokens of an action. -/
def tokens (count : Nat) : List Int :=
  (List.range count).map fun (i : Nat) => (i : Int) + 1

theorem tokens_succ (count : Nat) : tokens (count + 1) = tokens count ++ [(count : Int) + 1] := by
  simp [tokens, List.range_succ]

theorem mem_tokens {count : Nat} {t : Int} : t ∈ tokens count ↔ 0 < t ∧ t ≤ count := by
  rw [tokens, List.mem_map]
  constructor
  · rintro ⟨i, hi, rfl⟩
    have := List.mem_range.mp hi
    omega
  · rintro ⟨hpos, hle⟩
    exact ⟨(t - 1).toNat, List.mem_range.mpr (by omega), by omega⟩

theorem step_next (s : Sequencer) (action : String) :
    s.step (.next action) = (.token (s.next action).1, (s.next action).2) := rfl

theorem step_accept (s : Sequencer) (action : String) (token : Number) :
    s.step (.accept action token) =
      (.verdict (s.accept action token).1, (s.accept action token).2) := rfl

theorem transcript_cons (s : Sequencer) (e : Event) (rest : List Event) :
    s.transcript (e :: rest) = (e, (s.step e).1) :: (s.step e).2.transcript rest := rfl

theorem transcript_append (s : Sequencer) (first second : List Event) :
    s.transcript (first ++ second) =
      s.transcript first ++ (s.after first).transcript second := by
  induction first generalizing s with
  | nil => rfl
  | cons e rest ih =>
    rw [List.cons_append, transcript_cons, transcript_cons, ih]
    rfl

/-- Every event is answered. -/
theorem map_fst_transcript (s : Sequencer) (events : List Event) :
    (s.transcript events).map Prod.fst = events := by
  induction events generalizing s with
  | nil => rfl
  | cons e rest ih => rw [transcript_cons, List.map_cons, ih]

theorem length_transcript (s : Sequencer) (events : List Event) :
    (s.transcript events).length = events.length := by
  rw [← List.length_map (f := Prod.fst), map_fst_transcript]

/-- Any place in a transcript splits the run there. -/
theorem split_transcript {s : Sequencer} {events : List Event} {before rest : List Exchange}
    {x : Exchange} (h : s.transcript events = before ++ x :: rest) :
    let t := s.after (before.map Prod.fst)
    s.transcript (before.map Prod.fst) = before ∧ (t.step x.1).1 = x.2 ∧
      (t.step x.1).2.transcript (rest.map Prod.fst) = rest := by
  have hevents := congrArg (List.map Prod.fst) h
  rw [map_fst_transcript, List.map_append, List.map_cons] at hevents
  rw [hevents, transcript_append, transcript_cons] at h
  have hlength : (s.transcript (before.map Prod.fst)).length = before.length := by
    rw [length_transcript, List.length_map]
  obtain ⟨hbefore, hrest⟩ := List.append_inj h hlength
  obtain ⟨hx, hrest⟩ := List.cons.inj hrest
  exact ⟨hbefore, congrArg Prod.snd hx, hrest⟩

theorem issuedFor_concat (action : String) (log : List Exchange) (x : Exchange) :
    issuedFor action (log ++ [x]) = issuedFor action log ++ (issuedTo action x).toList := by
  rw [issuedFor, List.filterMap_append]
  cases h : issuedTo action x <;> simp [issuedFor, h]

theorem acceptedFor_concat (action : String) (log : List Exchange) (x : Exchange) :
    acceptedFor action (log ++ [x]) = acceptedFor action log ++ (acceptedBy action x).toList := by
  rw [acceptedFor, List.filterMap_append]
  cases h : acceptedBy action x <;> simp [acceptedFor, h]

theorem length_issuedFor (action : String) (s : Sequencer) (events : List Event) :
    (issuedFor action (s.transcript events)).length = events.countP (·.asksFor action) := by
  induction events generalizing s with
  | nil => rfl
  | cons e rest ih =>
    rw [transcript_cons, List.countP_cons, ← ih (s.step e).2, issuedFor, List.filterMap_cons]
    cases e with
    | next other =>
      by_cases h : other = action <;> simp [step_next, issuedTo, Event.asksFor, h, issuedFor]
    | current other token => simp [step, issuedTo, Event.asksFor, issuedFor]
    | accept other token => simp [step_accept, issuedTo, Event.asksFor, issuedFor]

theorem accept_eq_self {s : Sequencer} {action : String} {token : Number}
    (h : (s.accept action token).1 = false) : (s.accept action token).2 = s := by
  unfold accept at h ⊢
  split at h
  · next hreject => rw [if_pos hreject]
  · cases h

theorem step_of_idle {s : Sequencer} {e : Event} (h : Idle (e, (s.step e).1)) :
    (s.step e).2 = s := by
  cases e with
  | next action => exact h.elim
  | current action token => rfl
  | accept action token =>
    cases hverdict : (s.accept action token).1 with
    | false => exact accept_eq_self hverdict
    | true =>
      rw [step_accept, hverdict] at h
      exact h.elim

/-- Leaving an exchange without effect out of a run leaves the rest of its transcript as it is. -/
theorem transcript_without_idle {s : Sequencer} {events : List Event}
    {before rest : List Exchange} {x : Exchange}
    (h : s.transcript events = before ++ x :: rest) (hidle : Idle x) :
    s.transcript ((before ++ rest).map Prod.fst) = before ++ rest := by
  obtain ⟨hbefore, hx, hrest⟩ := split_transcript h
  have hsame := step_of_idle (s := s.after (before.map Prod.fst)) (e := x.1)
    (by rw [hx]; exact hidle)
  rw [List.map_append, transcript_append, hbefore]
  rw [hsame] at hrest
  rw [hrest]

/-- Two sequencers that cannot be told apart through one action. -/
structure Agree (action : String) (s t : Sequencer) : Prop where
  issued : s.lastIssued action = t.lastIssued action
  accepted : s.lastAccepted action = t.lastAccepted action

namespace Agree

variable {action : String} {s t : Sequencer}

theorem accept_fst (h : Agree action s t) (token : Number) :
    (s.accept action token).1 = (t.accept action token).1 := by
  simp only [Sequencer.accept, h.issued, h.accepted]
  split <;> rfl

theorem step_fst (h : Agree action s t) {e : Event} (he : e.action = action) :
    (s.step e).1 = (t.step e).1 := by
  cases e with
  | next other =>
    obtain rfl : other = action := he
    simp only [step_next, Sequencer.next, h.issued]
  | current other token =>
    obtain rfl : other = action := he
    simp only [step, isCurrent, h.issued]
  | accept other token =>
    obtain rfl : other = action := he
    simp only [step_accept, h.accept_fst token]

theorem step_snd (h : Agree action s t) {e : Event} (he : e.action = action) :
    Agree action (s.step e).2 (t.step e).2 := by
  cases e with
  | next other =>
    obtain rfl : other = action := he
    constructor
    · simp only [step_next, lastIssued_next, h.issued]
    · simp only [step_next, lastAccepted_next, h.accepted]
  | current other token => exact h
  | accept other token =>
    obtain rfl : other = action := he
    constructor
    · simp only [step_accept, lastIssued_accept, h.issued]
    · simp only [step_accept, lastAccepted_accept, h.accept_fst token, h.accepted]

/-- A call on another action is not noticed. -/
theorem step_other (h : Agree action s t) {e : Event} (he : e.action ≠ action) :
    Agree action (s.step e).2 t := by
  cases e with
  | next other =>
    constructor
    · have hne : ¬ other = action := he
      rw [step_next, lastIssued_next, if_neg hne]
      exact h.issued
    · exact h.accepted
  | current other token => exact h
  | accept other token =>
    have hne : ¬ (other = action ∧ (s.accept other token).1) := fun hboth => he hboth.1
    constructor
    · rw [step_accept, lastIssued_accept]
      exact h.issued
    · rw [step_accept, lastAccepted_accept, if_neg hne]
      exact h.accepted

/-- The calls on one action are answered as if there were no others. -/
theorem transcript_filter (h : Agree action s t) (events : List Event) :
    t.transcript (events.filter (·.action = action)) =
      (s.transcript events).filter (·.1.action = action) := by
  induction events generalizing s t with
  | nil => rfl
  | cons e rest ih =>
    by_cases he : e.action = action
    · rw [List.filter_cons_of_pos (by simpa using he), transcript_cons, transcript_cons,
        List.filter_cons_of_pos (by simpa using he), ih (h.step_snd he), h.step_fst he]
    · rw [List.filter_cons_of_neg (by simpa using he), transcript_cons,
        List.filter_cons_of_neg (by simpa using he), ih (h.step_other he)]

end Agree

/-- The newest of some tokens; without any, zero, which is never issued. -/
structure Newest (m : Int) (ts : List Int) : Prop where
  nonneg : 0 ≤ m
  upper : ∀ u ∈ ts, u ≤ m
  attained : m = 0 ∨ m ∈ ts

theorem Newest.lt_iff {m t : Int} {ts : List Int} (h : Newest m ts) (ht : 0 < t) :
    m < t ↔ ∀ u ∈ ts, u < t := by
  constructor
  · intro hlt u hu
    have := h.upper u hu
    omega
  · intro hall
    rcases h.attained with hzero | hmem
    · omega
    · exact hall m hmem

theorem Newest.push {m t : Int} {ts : List Int} (h : Newest m ts) (ht : m < t) :
    Newest t (ts ++ [t]) where
  nonneg := by
    have := h.nonneg
    omega
  upper u hu := by
    rcases List.mem_append.mp hu with hold | hnew
    · have := h.upper u hold
      omega
    · exact (List.mem_singleton.mp hnew).le
  attained := Or.inr (by simp)

/-- The tables of a sequencer and the transcript that led to them. -/
structure Tracks (s : Sequencer) (log : List Exchange) : Prop where
  issued : ∀ action, ∃ count : Nat, s.lastIssued action = count ∧
    issuedFor action log = tokens count
  accepted : ∀ action, ∃ m, s.lastAccepted action = .int m ∧ Newest m (acceptedFor action log)
  increasing : ∀ action, (acceptedFor action log).Pairwise (· < ·)

theorem tracks_start : Tracks start [] where
  issued _ := ⟨0, rfl, rfl⟩
  accepted _ := ⟨0, rfl, le_refl 0, by simp [acceptedFor], Or.inl rfl⟩
  increasing _ := List.Pairwise.nil

namespace Tracks

variable {s : Sequencer} {log : List Exchange}

/-- An exchange that issues and accepts nothing may follow without any change. -/
theorem idle (h : Tracks s log) (x : Exchange) (hissued : ∀ action, issuedTo action x = none)
    (haccepted : ∀ action, acceptedBy action x = none) : Tracks s (log ++ [x]) := by
  constructor
  · intro action
    rw [issuedFor_concat, hissued, Option.toList_none, List.append_nil]
    exact h.issued action
  · intro action
    rw [acceptedFor_concat, haccepted, Option.toList_none, List.append_nil]
    exact h.accepted action
  · intro action
    rw [acceptedFor_concat, haccepted, Option.toList_none, List.append_nil]
    exact h.increasing action

/-- The verdict on a reply, said of the transcript alone. -/
theorem accept_eq (h : Tracks s log) (action : String) (t : Int) :
    (s.accept action (.int t)).1 =
      decide (t ∈ issuedFor action log ∧ ∀ u ∈ acceptedFor action log, u < t) := by
  obtain ⟨count, hcount, hissued⟩ := h.issued action
  obtain ⟨m, hm, hnewest⟩ := h.accepted action
  have hiff : (¬ t ≤ m ∧ ¬ (count : Int) < t) ↔
      t ∈ issuedFor action log ∧ ∀ u ∈ acceptedFor action log, u < t := by
    rw [hissued, mem_tokens]
    constructor
    · rintro ⟨hnew, hold⟩
      have hnonneg := hnewest.nonneg
      exact ⟨by omega, (hnewest.lt_iff (by omega)).mp (by omega)⟩
    · rintro ⟨hrange, hall⟩
      have hlt := (hnewest.lt_iff hrange.1).mpr hall
      omega
  calc
    (s.accept action (.int t)).1 = decide (¬ t ≤ m ∧ ¬ (count : Int) < t) := by
      simp only [Sequencer.accept, hm, hcount, Number.le_int, Number.lt_int, decide_eq_true_eq]
      by_cases hle : t ≤ m <;> by_cases hlt : (count : Int) < t <;> simp [hle, hlt]
    _ = _ := decide_eq_decide.mpr hiff

theorem next (h : Tracks s log) (action : String) :
    Tracks (s.next action).2 (log ++ [(.next action, .token (s.next action).1)]) := by
  have hnone : ∀ other, acceptedBy other (.next action, .token (s.next action).1) = none :=
    fun _ => rfl
  constructor
  · intro other
    obtain ⟨count, hcount, hissued⟩ := h.issued other
    rw [lastIssued_next, issuedFor_concat, hissued]
    by_cases heq : action = other
    · subst heq
      refine ⟨count + 1, by simp [hcount], ?_⟩
      simp [issuedTo, Sequencer.next, hcount, tokens_succ]
    · exact ⟨count, by simp [heq, hcount], by simp [issuedTo, heq]⟩
  · intro other
    rw [acceptedFor_concat, lastAccepted_next, hnone other, Option.toList_none, List.append_nil]
    exact h.accepted other
  · intro other
    rw [acceptedFor_concat, hnone other, Option.toList_none, List.append_nil]
    exact h.increasing other

/-- A reply that is accepted is the newest of its action from then on. -/
theorem accepted_reply (h : Tracks s log) (action : String) (t : Int)
    (hverdict : (s.accept action (.int t)).1 = true) :
    Tracks (s.accept action (.int t)).2 (log ++ [(.accept action (.int t), .verdict true)]) := by
  obtain ⟨hissued, hnew⟩ := of_decide_eq_true ((h.accept_eq action t).symm.trans hverdict)
  have hnone : ∀ other, issuedTo other (.accept action (.int t), .verdict true) = none :=
    fun _ => rfl
  constructor
  · intro other
    rw [lastIssued_accept, issuedFor_concat, hnone other, Option.toList_none, List.append_nil]
    exact h.issued other
  · intro other
    rw [lastAccepted_accept, acceptedFor_concat]
    by_cases heq : action = other
    · subst heq
      obtain ⟨count, hcount, htokens⟩ := h.issued action
      obtain ⟨m, hm, hnewest⟩ := h.accepted action
      rw [htokens, mem_tokens] at hissued
      refine ⟨t, by simp [hverdict], ?_⟩
      simpa [acceptedBy] using hnewest.push ((hnewest.lt_iff hissued.1).mpr hnew)
    · simpa [acceptedBy, heq] using h.accepted other
  · intro other
    rw [acceptedFor_concat]
    by_cases heq : action = other
    · subst heq
      refine List.pairwise_append.mpr ⟨h.increasing action, by simp [acceptedBy], ?_⟩
      intro u hu v hv
      have hvt : v = t := by simpa [acceptedBy] using hv
      exact hvt ▸ hnew u hu
    · simpa [acceptedBy, heq] using h.increasing other

theorem accept (h : Tracks s log) (action : String) (t : Int) :
    Tracks (s.accept action (.int t)).2
      (log ++ [(.accept action (.int t), .verdict (s.accept action (.int t)).1)]) := by
  cases hverdict : (s.accept action (.int t)).1 with
  | false =>
    rw [accept_eq_self hverdict]
    exact h.idle _ (fun _ => rfl) (fun _ => rfl)
  | true => exact h.accepted_reply action t hverdict

/-- One event with its answer keeps the tables and the transcript together. -/
theorem step (h : Tracks s log) (e : Event) (hwhole : e.RepliesWhole) :
    Tracks (s.step e).2 (log ++ [(e, (s.step e).1)]) := by
  cases e with
  | next action => exact h.next action
  | current action token => exact h.idle _ (fun _ => rfl) (fun _ => rfl)
  | accept action token =>
    obtain ⟨t, rfl⟩ := hwhole
    exact h.accept action t

theorem run (h : Tracks s log) (events : List Event) (hwhole : ∀ e ∈ events, e.RepliesWhole) :
    Tracks (s.after events) (log ++ s.transcript events) := by
  induction events generalizing s log with
  | nil => simpa [Sequencer.after, transcript] using h
  | cons e rest ih =>
    have hstep := h.step e (hwhole e (by simp))
    have hrest := ih hstep fun d hd => hwhole d (by simp [hd])
    simpa [Sequencer.after, transcript_cons, List.append_assoc] using hrest

end Tracks

theorem tracks_transcript (events : List Event) (hwhole : ∀ e ∈ events, e.RepliesWhole) :
    Tracks (start.after events) (start.transcript events) := by
  simpa using tracks_start.run events hwhole

/-- Every request takes a token in turn, so the issued tokens are counted by the requests. -/
theorem issuedFor_transcript (events : List Event) (hwhole : ∀ e ∈ events, e.RepliesWhole)
    (action : String) :
    issuedFor action (start.transcript events) = tokens (events.countP (·.asksFor action)) := by
  obtain ⟨count, -, hissued⟩ := (tracks_transcript events hwhole).issued action
  have hlength : (issuedFor action (start.transcript events)).length =
      events.countP (·.asksFor action) := length_issuedFor action start events
  rw [hissued] at hlength ⊢
  rw [tokens, List.length_map, List.length_range] at hlength
  rw [hlength]

/-- What the transcript of a run guarantees to those who make its calls. -/
structure Orderly (events : List Event) : Prop where
  answered : (start.transcript events).map Prod.fst = events
  /-- The tokens of an action are 1, 2, 3 and so on, one for each request. -/
  issued : ∀ action,
    issuedFor action (start.transcript events) = tokens (events.countP (·.asksFor action))
  /-- A reply is accepted exactly when its token was issued before for the same action and is newer
  than every token accepted before for it. -/
  accepted : ∀ action t answer before rest,
    start.transcript events = before ++ (.accept action (.int t), answer) :: rest →
      answer = .verdict
        (decide (t ∈ issuedFor action before ∧ ∀ u ∈ acceptedFor action before, u < t))
  /-- So no token is accepted twice. -/
  increasing : ∀ action, (acceptedFor action (start.transcript events)).Pairwise (· < ·)
  /-- Questions and rejected replies change no later answer. -/
  idle : ∀ x before rest, start.transcript events = before ++ x :: rest → Idle x →
    start.transcript ((before ++ rest).map Prod.fst) = before ++ rest
  /-- Calls on other actions change no answer. -/
  apart : ∀ action, start.transcript (events.filter (·.action = action)) =
    (start.transcript events).filter (·.1.action = action)

/-- Every run whose replies bring whole numbers is orderly, in whatever order they arrive. -/
theorem orderly_of_repliesWhole (events : List Event) (hwhole : ∀ e ∈ events, e.RepliesWhole) :
    Orderly events where
  answered := map_fst_transcript start events
  issued := issuedFor_transcript events hwhole
  accepted action t answer before rest h := by
    obtain ⟨hbefore, hanswer, -⟩ := split_transcript h
    have hsub : ∀ e ∈ before.map Prod.fst, e.RepliesWhole := by
      have hevents : before.map Prod.fst ⊆ events := by
        rw [← map_fst_transcript start events, h, List.map_append]
        exact List.subset_append_left _ _
      exact fun e he => hwhole e (hevents he)
    have htracks := tracks_transcript (before.map Prod.fst) hsub
    rw [hbefore] at htracks
    rw [← htracks.accept_eq action t]
    exact hanswer.symm
  increasing := (tracks_transcript events hwhole).increasing
  idle x before rest h hidle := transcript_without_idle h hidle
  apart action := Agree.transcript_filter ⟨rfl, rfl⟩ events

/-- A reply overtaken by a newer one, among the calls of another action. -/
def overtaken : List Event :=
  [.next "compile", .next "compile", .accept "compile" (.int 2), .next "deploy",
    .current "compile" (.int 1), .accept "compile" (.int 1), .accept "deploy" (.int 2),
    .accept "deploy" (.int 1), .accept "deploy" (.int 1)]

theorem orderly_overtaken : (∀ e ∈ overtaken, e.RepliesWhole) ∧ Orderly overtaken := by
  have hwhole : ∀ e ∈ overtaken, e.RepliesWhole := by
    simp [overtaken, Event.RepliesWhole]
  exact ⟨hwhole, orderly_of_repliesWhole overtaken hwhole⟩

end CloudCanvas.Sequencer
