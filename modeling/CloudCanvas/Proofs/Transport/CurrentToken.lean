import CloudCanvas.Proofs.Transport.Sequencer

/-!
Which token of an action is current. The sequencer keeps one number for each action, which is the
token of the last request for it; before the first request it is zero. So a token is current exactly
when it was issued last, with one exception: zero is never issued, and yet it is current as long as
nothing else was.
-/

namespace CloudCanvas.Sequencer

theorem issuedFor_cons (action : String) (x : Exchange) (log : List Exchange) :
    issuedFor action (x :: log) = (issuedTo action x).toList ++ issuedFor action log := by
  rw [issuedFor, List.filterMap_cons]
  cases issuedTo action x <;> rfl

/-- A request puts its token into the place that the action has; no other event touches it. -/
theorem lastIssued_step (s : Sequencer) (e : Event) (action : String) :
    (issuedTo action (e, (s.step e).1) = some (s.lastIssued action + 1) ∧
        (s.step e).2.lastIssued action = s.lastIssued action + 1) ∨
      (issuedTo action (e, (s.step e).1) = none ∧
        (s.step e).2.lastIssued action = s.lastIssued action) := by
  cases e with
  | next other =>
    rw [step_next, lastIssued_next]
    by_cases h : other = action
    · subst h
      exact .inl ⟨if_pos rfl, if_pos rfl⟩
    · exact .inr ⟨if_neg h, if_neg h⟩
  | current other token => exact .inr ⟨rfl, rfl⟩
  | accept other token => exact .inr ⟨rfl, lastIssued_accept ..⟩

/-- By induction on the events: what was kept before them counts only if they issue nothing. -/
theorem lastIssued_after (s : Sequencer) (events : List Event) (action : String) :
    (s.after events).lastIssued action =
      (issuedFor action (s.transcript events)).getLast?.getD (s.lastIssued action) := by
  induction events generalizing s with
  | nil => rfl
  | cons e rest ih =>
    rw [Sequencer.after, ih, transcript_cons, issuedFor_cons, List.getLast?_append]
    obtain ⟨hissued, hlast⟩ | ⟨hissued, hlast⟩ := s.lastIssued_step e action
    · rw [hissued, hlast]
      cases (issuedFor action ((s.step e).2.transcript rest)).getLast? <;> rfl
    · rw [hissued, hlast]
      cases (issuedFor action ((s.step e).2.transcript rest)).getLast? <;> rfl

/-- The tokens of a run are greater than the one that was kept before it. -/
theorem lastIssued_lt_of_mem (s : Sequencer) (events : List Event) {action : String} {t : Int}
    (h : t ∈ issuedFor action (s.transcript events)) : s.lastIssued action < t := by
  induction events generalizing s with
  | nil => cases h
  | cons e rest ih =>
    rw [transcript_cons, issuedFor_cons] at h
    obtain ⟨hissued, hlast⟩ | ⟨hissued, hlast⟩ := s.lastIssued_step e action
    · rw [hissued, Option.toList_some, List.singleton_append, List.mem_cons] at h
      rcases h with rfl | hlater
      · exact lt_add_one _
      · have := ih _ hlater
        omega
    · rw [hissued, Option.toList_none, List.nil_append] at h
      rw [← hlast]
      exact ih _ h

theorem isCurrent_int (s : Sequencer) (action : String) (t : Int) :
    s.isCurrent action (.int t) = decide (t = s.lastIssued action) :=
  Number.same_int t _

/-- At any place of a run a token other than zero is current exactly when it was the last to be
issued for its action, and zero exactly when none was issued yet. -/
theorem current_in_run (before rest : List Event) (action : String) (t : Int) :
    ∃ verdict, start.transcript (before ++ .current action (.int t) :: rest) =
        start.transcript before ++
          (.current action (.int t), .verdict verdict) :: (start.after before).transcript rest ∧
      (verdict = true ↔
        t ≠ 0 ∧ (issuedFor action (start.transcript before)).getLast? = some t ∨
          t = 0 ∧ issuedFor action (start.transcript before) = []) := by
  have hlast := lastIssued_after start before action
  have hstart : start.lastIssued action = 0 := rfl
  rw [hstart] at hlast
  refine ⟨(start.after before).isCurrent action (.int t), transcript_append start before _, ?_⟩
  rw [isCurrent_int, decide_eq_true_iff, hlast]
  cases hnewest : (issuedFor action (start.transcript before)).getLast? with
  | none =>
    have hnone := List.getLast?_eq_none_iff.1 hnewest
    simp [hnone]
  | some u =>
    have hu := List.mem_of_getLast? hnewest
    have hpos : 0 < u := lastIssued_lt_of_mem start before hu
    have hsome : issuedFor action (start.transcript before) ≠ [] := List.ne_nil_of_mem hu
    simp only [Option.getD_some, Option.some.injEq, hsome, and_false, or_false]
    omega

/-- Before the first request zero passes for a token that was issued. -/
theorem current_unissued :
    ¬ ∀ (before : List Event) (action : String) (t : Int),
      (start.after before).isCurrent action (.int t) = true ↔
        (issuedFor action (start.transcript before)).getLast? = some t := by
  intro hissued
  have hzero := (hissued [] "compile" 0).1 (by decide)
  cases hzero

end CloudCanvas.Sequencer
