import CloudCanvas.Transport.Autosave
import CloudCanvas.Proofs.Number.Rounding

/-!
The autosave gate as its history determines it. What was saved last and whether a change is waiting
are read off the events, over any clock; with numbers for times, the answer once the delay has
passed follows. A change waits until something is saved, whatever was saved: a save whose text was
taken before the change also forgets it.
-/

namespace CloudCanvas.Autosave

variable {τ : Type}

def Event.changedAt? : Event τ → Option τ
  | .changed now => some now
  | .should .. | .saved _ => none

def Event.savedText? : Event τ → Option String
  | .saved text => some text
  | .changed _ | .should .. => none

/-- A save tells no time. -/
def Event.time? : Event τ → Option τ
  | .changed now | .should _ now => some now
  | .saved _ => none

/-- The times that the events tell, in order. -/
def clock (history : List (Event τ)) : List τ :=
  history.filterMap Event.time?

def final (gate : Autosave τ) (history : List (Event τ)) : Autosave τ :=
  history.foldl next gate

/-- The text of the last save. -/
def savedLast? (history : List (Event τ)) : Option String :=
  (history.filterMap Event.savedText?).getLast?

def hasSave (history : List (Event τ)) : Bool :=
  history.any fun e => e.savedText?.isSome

theorem final_append (gate : Autosave τ) (before after : List (Event τ)) :
    gate.final (before ++ after) = (gate.final before).final after :=
  List.foldl_append

theorem debounce_final (gate : Autosave τ) (history : List (Event τ)) :
    (gate.final history).debounce = gate.debounce := by
  induction history generalizing gate with
  | nil => rfl
  | cons e rest ih =>
    refine (ih (gate.next e)).trans ?_
    cases e <;> rfl

theorem lastSaved_final (gate : Autosave τ) (history : List (Event τ)) :
    (gate.final history).lastSaved = (savedLast? history).or gate.lastSaved := by
  induction history using List.reverseRecOn with
  | nil => rfl
  | append_singleton rest e ih =>
    rw [final_append, savedLast?, List.filterMap_append, List.getLast?_append]
    cases e with
    | changed now => exact ih
    | should text now => exact ih
    | saved text => rfl

theorem hasSave_concat (history : List (Event τ)) (e : Event τ) :
    hasSave (history ++ [e]) = (hasSave history || e.savedText?.isSome) := by
  simp [hasSave]

/-- A change waits through other events until the first save. -/
theorem lastChange_final (gate : Autosave τ) {history : List (Event τ)}
    (hnone : ∀ e ∈ history, e.changedAt? = none) :
    (gate.final history).lastChange = if hasSave history then none else gate.lastChange := by
  induction history using List.reverseRecOn with
  | nil => rfl
  | append_singleton rest e ih =>
    have hrest := ih (fun e he => hnone e (List.mem_append_left _ he))
    rw [final_append, hasSave_concat]
    cases e with
    | changed now =>
      have := hnone (.changed now) (List.mem_append_right _ List.mem_cons_self)
      cases this
    | should text now =>
      rw [Event.savedText?, Option.isSome_none, Bool.or_false]
      exact hrest
    | saved text =>
      rw [Event.savedText?, Option.isSome_some, Bool.or_true, if_pos rfl]
      rfl

/-- A run goes on from the gate that the events so far leave. -/
theorem run_append [Clock τ] (gate : Autosave τ) (before after : List (Event τ)) :
    gate.run (before ++ after) = (do
      let answers ← gate.run before
      let others ← (gate.final before).run after
      .ok (answers ++ others)) := by
  induction before generalizing gate with
  | nil =>
    change gate.run after = (gate.run after).bind .ok
    cases gate.run after <;> rfl
  | cons e rest ih =>
    have hfinal : gate.final (e :: rest) = (gate.next e).final rest := rfl
    rw [List.cons_append, run, run, ih, hfinal]
    cases gate.answer e with
    | error => rfl
    | ok answer =>
      cases (gate.next e).run rest with
      | error => rfl
      | ok answers => cases ((gate.next e).final rest).run after <;> rfl

theorem run_should [Clock τ] {gate : Autosave τ} {text : String} {now : τ} {answer : Bool}
    (h : gate.shouldSave text now = .ok answer) :
    gate.run [.should text now] = .ok [some answer] := by
  rw [run, Autosave.answer, h]
  rfl

/-- Once the delay has passed since a change, only forgetting it or an old text keep the gate
closed. -/
theorem shouldSave_of_reaches {gate : Autosave Number} {text : String} {now change : Number}
    (hchange : gate.lastChange = some change) (htext : gate.lastSaved ≠ some text)
    (hquiet : now.Reaches change gate.debounce)
    (hprecise : now.Precise change gate.debounce) :
    gate.shouldSave text now = .ok true := by
  obtain ⟨d, hd, hlt⟩ := Number.exists_sub?_not_lt hquiet hprecise
  have helapsed : Clock.elapsed? now change = some d := hd
  have hbefore : Clock.isBefore d gate.debounce = false := hlt
  simp only [shouldSave, hchange, helapsed, hbefore]
  rw [if_neg Bool.false_ne_true, decide_eq_true htext]

/-- After the last change and the delay, a text other than the one saved last is to be saved unless
something was saved since that change. -/
theorem shouldSave_after_quiet {debounce change now : Number} {before after : List (Event Number)}
    {text : String} (hlast : ∀ e ∈ after, e.changedAt? = none)
    (htext : savedLast? (before ++ .changed change :: after) ≠ some text)
    (hquiet : now.Reaches change debounce)
    (hprecise : now.Precise change debounce) :
    ((start debounce).final (before ++ .changed change :: after)).shouldSave text now =
        .ok (!hasSave after) ∧
      ∀ answers, (start debounce).run (before ++ .changed change :: after) = .ok answers →
        (start debounce).run (before ++ .changed change :: after ++ [.should text now]) =
          .ok (answers ++ [some (!hasSave after)]) := by
  have hanswer : ((start debounce).final (before ++ .changed change :: after)).shouldSave text now =
      .ok (!hasSave after) := by
    have hchange := lastChange_final (((start debounce).final before).next (.changed change)) hlast
    have hsplit : (start debounce).final (before ++ .changed change :: after) =
        (((start debounce).final before).next (.changed change)).final after :=
      final_append _ _ _
    rw [← hsplit] at hchange
    by_cases hsave : hasSave after = true
    · rw [hsave, if_pos rfl] at hchange
      rw [shouldSave, hchange, hsave]
      rfl
    · rw [Bool.not_eq_true] at hsave
      rw [hsave, if_neg Bool.false_ne_true] at hchange
      have hdebounce := debounce_final (start debounce) (before ++ .changed change :: after)
      rw [hsave]
      refine shouldSave_of_reaches hchange ?_ ?_ ?_
      · rw [lastSaved_final]
        rwa [start, Option.or_none]
      · rwa [hdebounce]
      · rwa [hdebounce]
  refine ⟨hanswer, fun answers hrun => ?_⟩
  rw [run_append, hrun, run_should hanswer]
  rfl

/-- The change at 2 comes after the save of an older text, and at 4 it is due. -/
theorem shouldSave_after_quiet_unsaved :
    (Number.float (.ofInt 4)).Reaches (.float (.ofInt 2)) (.float (.ofInt 2)) ∧
      ((start (Number.float (.ofInt 2))).final [.changed (.int 0), .should "a" (.float (.ofInt 2)),
        .saved "a", .changed (.float (.ofInt 2)), .should "b" (.int 3)]).shouldSave "b"
          (.float (.ofInt 4)) = .ok true := by
  have htwo : Binary64.ofInt 2 = .finite false (2 ^ 52) (-51) (by decide) := by decide
  have hfour : Binary64.ofInt 4 = .finite false (2 ^ 52) (-50) (by decide) := by decide
  have hquiet : (Number.float (.ofInt 4)).Reaches (.float (.ofInt 2)) (.float (.ofInt 2)) := by
    rw [htwo, hfour]
    refine ⟨_, _, _, rfl, rfl, rfl, ?_⟩
    rw [← EReal.coe_add, EReal.coe_le_coe_iff]
    norm_num [Binary64.signed]
  have hopen := @shouldSave_after_quiet (.float (.ofInt 2)) (.float (.ofInt 2))
    (.float (.ofInt 4)) [.changed (.int 0), .should "a" (.float (.ofInt 2)), .saved "a"]
    [.should "b" (.int 3)] "b" (by simp [Event.changedAt?]) (by decide) hquiet
    (Or.inr ⟨Number.isDouble_float _, Number.isDouble_float _, Number.isDouble_float _⟩)
  exact ⟨hquiet, hopen.1⟩

/-- A change is lost when the save that finishes after it has an older text: the change at 3 comes
between the decision to save and the save, and the gate stays closed at 10. -/
theorem lost_change :
    ¬ ∀ (debounce change now : Number) (before after : List (Event Number)) (text : String),
      (clock (before ++ .changed change :: after ++ [.should text now])).Pairwise
        (fun s t => s.le t = true) →
      (∀ e ∈ after, e.changedAt? = none) →
      savedLast? (before ++ .changed change :: after) ≠ some text →
      now.Reaches change debounce →
      ((start debounce).final (before ++ .changed change :: after)).shouldSave text now =
        .ok true := by
  intro hkept
  have hopen := hkept (.int 2) (.int 3) (.int 10) [.changed (.int 0), .should "a" (.int 2)]
    [.saved "a"] "b" (by decide) (by simp [Event.changedAt?]) (by decide)
    (Number.reaches_int.2 (by decide))
  cases hopen

end CloudCanvas.Autosave
