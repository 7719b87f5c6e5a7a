import CloudCanvas.Proofs.Transport.Autosave

/-!
The answers of the autosave gate over exact times. A text is to be saved exactly when a change
waits, the delay has passed since that change, and the text is not the one saved last. The change
that waits is the last one of the history, unless something was saved after it. A run over exact
times is answered throughout, and a question changes no later answer.
-/

namespace CloudCanvas

/-- The clock forms the difference of any two of these times, of just the size it should have, and
compares it with the delay by size. -/
def Clock.IsExact {τ : Type} [Clock τ] (size : τ → ℝ) (delay : τ) (times : List τ) : Prop :=
  ∀ now ∈ times, ∀ since ∈ times, ∃ d, Clock.elapsed? now since = some d ∧
    size d = size now - size since ∧ (Clock.isBefore d delay = true ↔ size d < size delay)

theorem Clock.IsExact.mono {τ : Type} [Clock τ] {size : τ → ℝ} {delay : τ} {times others : List τ}
    (h : Clock.IsExact size delay times) (hsub : others ⊆ times) :
    Clock.IsExact size delay others :=
  fun now hnow since hsince => h now (hsub hnow) since (hsub hsince)

/-- Rational times. -/
instance : Clock ℚ where
  elapsed? now since := some (now - since)
  isBefore s t := decide (s < t)

theorem Clock.isExact_rat (delay : ℚ) (times : List ℚ) :
    Clock.IsExact (fun t : ℚ => (t : ℝ)) delay times := by
  intro now _ since _
  refine ⟨now - since, rfl, Rat.cast_sub now since, ?_⟩
  rw [Rat.cast_lt]
  exact decide_eq_true_iff

/-- The size of a finite number. -/
noncomputable def Number.size (a : Number) : ℝ :=
  (a.value?.getD 0).toReal

theorem Number.size_eq {a : Number} {r : ℝ} (h : a.value? = some (r : EReal)) : a.size = r := by
  rw [size, h, Option.getD_some, EReal.toReal_coe]

/-- Whole numbers are exact times, however great they are and for every finite delay. -/
theorem Number.isExact_whole {times : List Number} (htimes : ∀ t ∈ times, ∃ n, t = .int n)
    {delay : Number} {r : ℝ} (hdelay : delay.value? = some (r : EReal)) :
    Clock.IsExact Number.size delay times := by
  intro now hnow since hsince
  obtain ⟨m, rfl⟩ := htimes now hnow
  obtain ⟨n, rfl⟩ := htimes since hsince
  have hd : size (.int (m - n)) = ((m - n : Int) : ℝ) := size_eq (value?_int _)
  refine ⟨.int (m - n), rfl, ?_, ?_⟩
  · rw [hd, size_eq (value?_int m), size_eq (value?_int n), Int.cast_sub]
  · change lt (.int (m - n)) delay = true ↔ _
    rw [lt_iff, size_eq hdelay, hd, ← EReal.coe_lt_coe_iff, hdelay, value?_int]
    simp

namespace Autosave

variable {τ : Type}

/-- The last change, when nothing was saved after it. -/
def Waits (history : List (Event τ)) (change : τ) : Prop :=
  ∃ before after, history = before ++ .changed change :: after ∧
    ∀ e ∈ after, e.changedAt? = none ∧ e.savedText? = none

/-- The delay has passed since the change that waits, and the text is not the one saved last. -/
def IsDue (size : τ → ℝ) (delay : τ) (history : List (Event τ)) (text : String) (now : τ) :
    Prop :=
  (∃ change, Waits history change ∧ size delay ≤ size now - size change) ∧
    savedLast? history ≠ some text

theorem clock_subset_append (before after : List (Event τ)) :
    clock before ⊆ clock (before ++ after) := by
  rw [clock, clock, List.filterMap_append]
  exact List.subset_append_left _ _

theorem mem_clock_of_waits {history : List (Event τ)} {change : τ} (h : Waits history change) :
    change ∈ clock history := by
  obtain ⟨before, after, rfl, -⟩ := h
  exact List.mem_filterMap.2 ⟨.changed change, by simp, rfl⟩

theorem lastChange_of_waits {history : List (Event τ)} {change : τ} (h : Waits history change)
    (gate : Autosave τ) : (gate.final history).lastChange = some change := by
  obtain ⟨before, after, rfl, hafter⟩ := h
  have hsave : hasSave after = false := by
    rw [hasSave, List.any_eq_false]
    intro e he
    rw [(hafter e he).2]
    exact Bool.false_ne_true
  have hkept := lastChange_final ((gate.final before).next (.changed change))
    fun e he => (hafter e he).1
  rw [hsave, if_neg Bool.false_ne_true] at hkept
  rw [final_append]
  exact hkept

/-- By induction on the history from its end: a change replaces the one that waits, a question
leaves it, and a save forgets it. -/
theorem waits_of_lastChange {delay : τ} {history : List (Event τ)} {change : τ}
    (h : ((start delay).final history).lastChange = some change) : Waits history change := by
  induction history using List.reverseRecOn with
  | nil => cases h
  | append_singleton rest e ih =>
    rw [final_append] at h
    cases e with
    | changed now =>
      cases h
      exact ⟨rest, [], rfl, List.forall_mem_nil _⟩
    | should text now =>
      obtain ⟨before, after, rfl, hafter⟩ := ih h
      refine ⟨before, after ++ [.should text now], by simp, ?_⟩
      rw [List.forall_mem_append, List.forall_mem_singleton]
      exact ⟨hafter, rfl, rfl⟩
    | saved text => cases h

/-- There is one last change, so there is one delay to wait for. -/
theorem isDue_iff {size : τ → ℝ} {delay : τ} {history : List (Event τ)} {change : τ}
    (h : Waits history change) (text : String) (now : τ) :
    IsDue size delay history text now ↔
      ¬ size now - size change < size delay ∧ savedLast? history ≠ some text := by
  rw [IsDue, not_lt]
  refine and_congr_left' ⟨?_, fun hle => ⟨change, h, hle⟩⟩
  rintro ⟨other, hother, hle⟩
  have hsame := (lastChange_of_waits hother (start delay)).symm.trans (lastChange_of_waits h _)
  rwa [Option.some.inj hsame] at hle

variable [Clock τ] {size : τ → ℝ} {delay : τ}

/-- The verdict on a text, said of the history alone. -/
theorem exists_shouldSave {history : List (Event τ)} {text : String} {now : τ}
    (hexact : Clock.IsExact size delay (clock (history ++ [.should text now]))) :
    ∃ verdict, ((start delay).final history).shouldSave text now = .ok verdict ∧
      (verdict = true ↔ IsDue size delay history text now) := by
  have hsaved : ((start delay).final history).lastSaved = savedLast? history := by
    rw [lastSaved_final, start, Option.or_none]
  have hdelay : ((start delay).final history).debounce = delay := debounce_final _ _
  cases hchange : ((start delay).final history).lastChange with
  | none =>
    have hnone : ¬ IsDue size delay history text now := by
      rintro ⟨⟨change, hwaits, -⟩, -⟩
      rw [lastChange_of_waits hwaits] at hchange
      cases hchange
    refine ⟨false, by rw [shouldSave, hchange], ?_⟩
    rw [eq_false hnone]
    exact Bool.false_eq_true.to_iff
  | some change =>
    have hwaits := waits_of_lastChange hchange
    have htimes : clock (history ++ [.should text now]) = clock history ++ [now] :=
      List.filterMap_append
    rw [htimes] at hexact
    obtain ⟨d, hd, hsize, hbefore⟩ := hexact now (by simp) change
      (List.mem_append_left _ (mem_clock_of_waits hwaits))
    rw [isDue_iff hwaits, ← hsize, ← hbefore]
    cases hearly : Clock.isBefore d delay with
    | true =>
      refine ⟨false, ?_, by simp⟩
      simp only [shouldSave, hchange, hd, hdelay, hearly, if_true]
    | false =>
      refine ⟨decide (savedLast? history ≠ some text), ?_, by simp⟩
      simp only [shouldSave, hchange, hd, hdelay, hearly, hsaved, Bool.false_eq_true, if_false]

/-- Over exact times every event has an answer. -/
theorem exists_answer {history : List (Event τ)} {e : Event τ}
    (hexact : Clock.IsExact size delay (clock (history ++ [e]))) :
    ∃ answer, ((start delay).final history).answer e = .ok answer := by
  cases e with
  | changed now => exact ⟨none, rfl⟩
  | should text now =>
    obtain ⟨verdict, hverdict, -⟩ := exists_shouldSave hexact
    exact ⟨some verdict, by rw [Autosave.answer, hverdict]; rfl⟩
  | saved text => exact ⟨none, rfl⟩

section Answers

variable {gate : Autosave τ} {answers : List (Option Bool)}

theorem run_cons_eq_ok_iff {e : Event τ} {rest : List (Event τ)} :
    gate.run (e :: rest) = .ok answers ↔ ∃ answer last, gate.answer e = .ok answer ∧
      (gate.next e).run rest = .ok last ∧ answers = answer :: last := by
  rw [run]
  cases gate.answer e with
  | error cause => simp [bind, Except.bind]
  | ok answer =>
    cases (gate.next e).run rest with
    | error cause => simp [bind, Except.bind]
    | ok last => simp [bind, Except.bind, eq_comm]

theorem run_append_eq_ok_iff {before after : List (Event τ)} :
    gate.run (before ++ after) = .ok answers ↔ ∃ first last, gate.run before = .ok first ∧
      (gate.final before).run after = .ok last ∧ answers = first ++ last := by
  rw [run_append]
  cases gate.run before with
  | error cause => simp [bind, Except.bind]
  | ok first =>
    cases (gate.final before).run after with
    | error cause => simp [bind, Except.bind]
    | ok last => simp [bind, Except.bind, eq_comm]

theorem length_of_run {events : List (Event τ)} (h : gate.run events = .ok answers) :
    answers.length = events.length := by
  induction events generalizing gate answers with
  | nil =>
    cases h
    rfl
  | cons e rest ih =>
    obtain ⟨answer, last, -, hlast, rfl⟩ := run_cons_eq_ok_iff.1 h
    rw [List.length_cons, List.length_cons, ih hlast]

/-- The answer to an event of a run stands in the place of the event, and the other answers are
those before it and those after it. -/
theorem exists_answer_of_run {before rest : List (Event τ)} {e : Event τ}
    (h : gate.run (before ++ e :: rest) = .ok answers) :
    ∃ first answer last, gate.run before = .ok first ∧
      (gate.final before).answer e = .ok answer ∧
      ((gate.final before).next e).run rest = .ok last ∧
      answers[before.length]? = some answer ∧
      answers.eraseIdx before.length = first ++ last := by
  obtain ⟨first, others, hfirst, hothers, rfl⟩ := run_append_eq_ok_iff.1 h
  obtain ⟨answer, last, hanswer, hlast, rfl⟩ := run_cons_eq_ok_iff.1 hothers
  refine ⟨first, answer, last, hfirst, hanswer, hlast, ?_, ?_⟩
  · rw [← length_of_run hfirst]
    simp
  · rw [← length_of_run hfirst, List.eraseIdx_append_of_length_le (Nat.le_refl _), Nat.sub_self,
      List.eraseIdx_cons_zero]

end Answers

/-- By induction on the events from their end, where the history so far gives the next answer. -/
theorem exists_run {events : List (Event τ)} (hexact : Clock.IsExact size delay (clock events)) :
    ∃ answers, (start delay).run events = .ok answers := by
  induction events using List.reverseRecOn with
  | nil => exact ⟨[], rfl⟩
  | append_singleton rest e ih =>
    obtain ⟨answers, hanswers⟩ := ih (hexact.mono (clock_subset_append rest [e]))
    obtain ⟨answer, hanswer⟩ := exists_answer hexact
    refine ⟨answers ++ [answer], run_append_eq_ok_iff.2 ⟨answers, [answer], hanswers, ?_, rfl⟩⟩
    exact run_cons_eq_ok_iff.2 ⟨answer, [], hanswer, rfl, rfl⟩

/-- A run over exact times answers every question by its history alone: the text is to be saved
exactly when it is due, and so never when it is the text saved last. Without the question all other
answers are the same. -/
theorem answers_of_exact {events : List (Event τ)}
    (hexact : Clock.IsExact size delay (clock events)) :
    ∃ answers, (start delay).run events = .ok answers ∧ answers.length = events.length ∧
      ∀ before text now rest, events = before ++ .should text now :: rest →
        ∃ verdict, answers[before.length]? = some (some verdict) ∧
          (verdict = true ↔ IsDue size delay before text now) ∧
          (savedLast? before = some text → verdict = false) ∧
          (start delay).run (before ++ rest) = .ok (answers.eraseIdx before.length) := by
  obtain ⟨answers, hrun⟩ := exists_run hexact
  refine ⟨answers, hrun, length_of_run hrun, ?_⟩
  rintro before text now rest rfl
  obtain ⟨first, answer, last, hfirst, hanswer, hlast, hplace, hothers⟩ :=
    exists_answer_of_run hrun
  have hquestion : clock (before ++ [.should text now]) ⊆
      clock (before ++ .should text now :: rest) := by
    rw [List.append_cons before _ rest]
    exact clock_subset_append _ rest
  obtain ⟨verdict, hverdict, hdue⟩ := exists_shouldSave (hexact.mono hquestion)
  rw [Autosave.answer, hverdict] at hanswer
  obtain rfl : some verdict = answer := Except.ok.inj hanswer
  refine ⟨verdict, hplace, hdue, fun hsaved => ?_, ?_⟩
  · rw [← Bool.not_eq_true, hdue]
    exact fun h => h.2 hsaved
  · rw [hothers]
    exact run_append_eq_ok_iff.2 ⟨first, last, hfirst, hlast, rfl⟩

/-- A text that is due when the delay has just passed, and is saved once. -/
def savedOnce : List (Event Number) :=
  [.changed (.int 10), .should "a" (.int 11), .should "a" (.int 12), .saved "a",
    .changed (.int 60), .should "a" (.int 99)]

theorem answers_of_exact_savedOnce :
    Clock.IsExact Number.size (.float (.ofInt 2)) (clock savedOnce) ∧
      (∃ answers, (start (Number.float (.ofInt 2))).run savedOnce = .ok answers ∧
        answers[2]? = some (some true) ∧ answers[5]? = some (some false) ∧
        (start (Number.float (.ofInt 2))).run (savedOnce.eraseIdx 1) =
          .ok (answers.eraseIdx 1)) ∧
      ∃ answers, (start (1 / 3 : ℚ)).run [.changed (1 / 3), .should "a" (2 / 3)] = .ok answers ∧
        answers[1]? = some (some true) := by
  have htwo : (Number.float (.ofInt 2)).value? = some ((2 : ℝ) : EReal) := by
    have hform : Binary64.ofInt 2 = .finite false (2 ^ 52) (-51) (by decide) := by decide
    rw [hform, Number.value?_finite]
    norm_num [Binary64.signed]
  have htimes : clock savedOnce = [10, 11, 12, 60, 99].map Number.int := rfl
  have hwhole : ∀ t ∈ clock savedOnce, ∃ n, t = .int n := by
    rw [htimes]
    intro t ht
    obtain ⟨n, -, rfl⟩ := List.mem_map.1 ht
    exact ⟨n, rfl⟩
  have hexact := Number.isExact_whole hwhole htwo
  refine ⟨hexact, ?_, ?_⟩
  · obtain ⟨answers, hrun, -, hdecided⟩ := answers_of_exact hexact
    refine ⟨answers, hrun, ?_, ?_, ?_⟩
    · obtain ⟨verdict, hplace, hdue, -⟩ :=
        hdecided [.changed (.int 10), .should "a" (.int 11)] _ _ _ rfl
      have hwaits : Waits [.changed (.int 10), .should "a" (.int 11)] (Number.int 10) :=
        ⟨[], _, rfl, by simp [Event.changedAt?, Event.savedText?]⟩
      have htrue : verdict = true := by
        rw [hdue, isDue_iff hwaits, Number.size_eq htwo, Number.size_eq (Number.value?_int _),
          Number.size_eq (Number.value?_int _)]
        refine ⟨by norm_num, by decide⟩
      rw [← htrue]
      exact hplace
    · obtain ⟨verdict, hplace, -, hsaved, -⟩ := hdecided (savedOnce.take 5) "a" _ _ rfl
      rw [← hsaved (by decide)]
      exact hplace
    · obtain ⟨-, -, -, -, hwithout⟩ := hdecided [.changed (.int 10)] _ _ _ rfl
      exact hwithout
  · obtain ⟨answers, hrun, -, hdecided⟩ :=
      answers_of_exact (Clock.isExact_rat (1 / 3) (clock [.changed (1 / 3), .should "a" (2 / 3)]))
    obtain ⟨verdict, hplace, hdue, -⟩ := hdecided [.changed (1 / 3)] _ _ _ rfl
    have hwaits : Waits [Event.changed (1 / 3 : ℚ)] (1 / 3) := ⟨[], [], rfl, by simp⟩
    have htrue : verdict = true := by
      rw [hdue, isDue_iff hwaits]
      refine ⟨by norm_num, by simp [savedLast?, Event.savedText?]⟩
    rw [← htrue]
    exact ⟨answers, hrun, hplace⟩

end Autosave

end CloudCanvas
