import CloudCanvas.Proofs.Number.Text
import CloudCanvas.Proofs.Text.Blank
import CloudCanvas.Proofs.Transport.ReplyMessage

/-!
The message of an error. It is the first value that counts as present of the detail and the error
in the reply, else what the reply says as a plain text, and else it is made up from the action and
the status. All of these say something, except for one: a text of blanks counts as present, so that
it is the message and hides whatever stands behind it. Any other message is the best there is.
-/

namespace CloudCanvas

namespace Text

/-- A surrogate without a partner is no blank. -/
def Point.isBlank : Point → Bool
  | .char c => Text.isBlank c
  | .surrogate _ => false

def isBlankLoose (ps : LooseText) : Bool :=
  ps.all Point.isBlank

theorem isBlankLoose_points (s : String) : isBlankLoose (points s) = isBlankText s := by
  rw [isBlankLoose, points_string, List.all_map]
  rfl

theorem isBlank_quoteMark (ps : List Point) : isBlank (quoteMark ps) = false := by
  unfold quoteMark
  split
  · decide
  · decide

end Text

namespace Document

variable {τ : Type} [Text.Textual τ]

/-- No value is shown by blanks alone once its strings are in quotes. -/
theorem exists_shown_mem_quotedChars (v : Document τ) :
    ∃ c ∈ v.quotedChars, Text.isBlank c = false := by
  cases v with
  | null => exact ⟨'N', by simp [quotedChars], by decide⟩
  | bool b =>
    cases b with
    | true => exact ⟨'T', by simp [quotedChars, boolText], by decide⟩
    | false => exact ⟨'F', by simp [quotedChars, boolText], by decide⟩
  | num n =>
    rw [quotedChars]
    exact Number.exists_shown_mem_text ⟨'i', by simp, by decide⟩ ⟨'n', by simp, by decide⟩ n
  | str s =>
    rw [quotedChars]
    exact ⟨_, List.mem_cons_self, Text.isBlank_quoteMark _⟩
  | arr items =>
    refine ⟨'[', ?_, by decide⟩
    cases items <;> simp [quotedChars]
  | obj fields =>
    refine ⟨'\x7b', ?_, by decide⟩
    cases fields <;> simp [quotedChars]

end Document

namespace Client

open Text (LooseText points isBlankLoose)

/-- The fields that may hold the message of an error. -/
def errorKeys : List String :=
  ["detail", "error"]

/-- Only a string can be shown by blanks alone. -/
theorem isBlankLoose_shown_iff (v : Document LooseText) :
    isBlankLoose (shown v) = true ↔ ∃ s, v = .str s ∧ isBlankLoose s = true := by
  have hquoted : isBlankLoose (points v.quoted) = false := by
    obtain ⟨c, hc, hshown⟩ := v.exists_shown_mem_quotedChars
    rw [Text.isBlankLoose_points]
    exact Text.isBlankText_ofList hc hshown
  cases v with
  | str s => simp [shown]
  | _ => simpa [shown] using hquoted

/-- The value counts as present, and its text has more than blanks. -/
def Says (v : Document LooseText) : Prop :=
  v.truthy = true ∧ isBlankLoose (shown v) = false

/-- The first of the fields whose value says something, and that value. -/
def IsFirstSaying (fields : ReplyFields) (keys : List String) (v : Document LooseText) : Prop :=
  ∃ before key after, keys = before ++ key :: after ∧
    (∀ earlier ∈ before, ¬ Says (replyField fields earlier)) ∧ replyField fields key = v ∧ Says v

/-- What there is to say about a reply without a field that says something. -/
inductive IsPlain (a : Action) (r : Reply) : LooseText → Prop
  | body (h : Text.strip r.body ≠ "") : IsPlain a r (points (Text.strip r.body))
  | made (h : Text.strip r.body = "") : IsPlain a r
      (points (a.title ++ " failed (" ++ String.ofList (Number.intText r.status) ++ ")"))

/-- The best message for a reply with these fields. -/
inductive IsBest (a : Action) (r : Reply) (fields : ReplyFields) : LooseText → Prop
  | field {v : Document LooseText} (h : IsFirstSaying fields errorKeys v) :
      IsBest a r fields (shown v)
  | plain {message : LooseText} (hnone : ∀ key ∈ errorKeys, ¬ Says (replyField fields key))
      (h : IsPlain a r message) : IsBest a r fields message

variable {a : Action} {r : Reply} {fields : ReplyFields}

theorem isPlain_plainMessage (a : Action) (r : Reply) :
    IsPlain a r (points (plainMessage a r)) := by
  unfold plainMessage
  dsimp only
  split
  · next hbody => exact .body hbody
  · next hbody => exact .made (not_not.1 hbody)

/-- A stripped text that is left is not blank, and neither are the words of a made-up message. -/
theorem IsPlain.not_blank {message : LooseText} (h : IsPlain a r message) :
    isBlankLoose message = false := by
  cases h with
  | body h =>
    rw [Text.isBlankLoose_points, ← Text.strip_ne_empty_iff, Text.strip_strip]
    exact h
  | made h =>
    have hword : 'f' ∈ (a.title ++ " failed (" ++ String.ofList (Number.intText r.status)
        ++ ")").toList := by simp
    rw [Text.isBlankLoose_points, Text.isBlankText, List.all_eq_false]
    exact ⟨'f', hword, by decide⟩

theorem IsBest.not_blank {message : LooseText} (h : IsBest a r fields message) :
    isBlankLoose message = false := by
  cases h with
  | field h =>
    obtain ⟨-, -, -, -, -, -, hsays⟩ := h
    exact hsays.2
  | plain hnone h => exact h.not_blank

theorem errorMessage_of_truthy {v : Document LooseText} (h : IsFirstTruthy fields errorKeys v) :
    errorMessage a r fields = shown v := by
  have hfirst : firstTruthy? fields ["detail", "error"] = some v :=
    (firstTruthy?_eq_some_iff fields errorKeys v).2 h
  rw [errorMessage, hfirst]

theorem errorMessage_of_falsy
    (h : ∀ key ∈ errorKeys, (replyField fields key).truthy = false) :
    errorMessage a r fields = points (plainMessage a r) := by
  have hfirst : firstTruthy? fields ["detail", "error"] = none :=
    (firstTruthy?_eq_none_iff fields errorKeys).2 h
  rw [errorMessage, hfirst]

/-- The fields have a first truthy value, or none at all. -/
theorem exists_isFirstTruthy_or (fields : ReplyFields) (keys : List String) :
    (∃ v, IsFirstTruthy fields keys v) ∨
      ∀ key ∈ keys, (replyField fields key).truthy = false := by
  cases hfirst : firstTruthy? fields keys with
  | some v => exact .inl ⟨v, (firstTruthy?_eq_some_iff fields keys v).1 hfirst⟩
  | none => exact .inr ((firstTruthy?_eq_none_iff fields keys).1 hfirst)

/-- What does not count as present does not say anything either. -/
theorem IsFirstTruthy.isFirstSaying {keys : List String} {v : Document LooseText}
    (h : IsFirstTruthy fields keys v) (hshown : isBlankLoose (shown v) = false) :
    IsFirstSaying fields keys v := by
  obtain ⟨before, key, after, hkeys, hbefore, hvalue, htruthy⟩ := h
  refine ⟨before, key, after, hkeys, fun earlier hearlier hsays => ?_, hvalue, htruthy, hshown⟩
  exact Bool.false_ne_true ((hbefore earlier hearlier).symm.trans hsays.1)

theorem IsFirstTruthy.unique {keys : List String} {v w : Document LooseText}
    (hv : IsFirstTruthy fields keys v) (hw : IsFirstTruthy fields keys w) : v = w := by
  rw [← firstTruthy?_eq_some_iff] at hv hw
  exact Option.some.inj (hv.symm.trans hw)

/-- The message is blank just when the first value that counts as present is a text of blanks. -/
theorem isBlankLoose_errorMessage_iff :
    isBlankLoose (errorMessage a r fields) = true ↔
      ∃ s, IsFirstTruthy fields errorKeys (.str s) ∧ isBlankLoose s = true := by
  rcases exists_isFirstTruthy_or fields errorKeys with ⟨v, hv⟩ | hnone
  · rw [errorMessage_of_truthy hv, isBlankLoose_shown_iff]
    constructor
    · rintro ⟨s, rfl, hs⟩
      exact ⟨s, hv, hs⟩
    · rintro ⟨s, hfirst, hs⟩
      exact ⟨s, hv.unique hfirst, hs⟩
  · rw [errorMessage_of_falsy hnone, (isPlain_plainMessage a r).not_blank]
    refine iff_of_false Bool.false_ne_true ?_
    rintro ⟨s, hfirst, -⟩
    have hs := (firstTruthy?_eq_some_iff fields errorKeys _).2 hfirst
    rw [(firstTruthy?_eq_none_iff fields errorKeys).2 hnone] at hs
    cases hs

/-- A message that says something has nothing better before it. -/
theorem isBest_errorMessage_iff :
    IsBest a r fields (errorMessage a r fields) ↔
      isBlankLoose (errorMessage a r fields) = false := by
  refine ⟨IsBest.not_blank, fun hshown => ?_⟩
  rcases exists_isFirstTruthy_or fields errorKeys with ⟨v, hv⟩ | hnone
  · rw [errorMessage_of_truthy hv] at hshown ⊢
    exact .field (hv.isFirstSaying hshown)
  · rw [errorMessage_of_falsy hnone]
    refine .plain (fun key hkey hsays => ?_) (isPlain_plainMessage a r)
    exact Bool.false_ne_true ((hnone key hkey).symm.trans hsays.1)

/-- The message of an error is the first value that counts as present, and where there is none, what
there is to say without one. It is the best one, and not blank, unless that value is a text of
blanks. -/
theorem message_of_failure (c : Client) (p : Payload) (a : Action) (r : Reply)
    (hsent : (c.call p a r).1 ≠ []) (hstatus : 400 ≤ r.status ∧ r.status < 600) :
    (r.IsReadable → ∃ fields message, r.Carries fields ∧
      (c.call p a r).2 = .error (.backend message r.status) ∧
      (∀ v, IsFirstTruthy fields errorKeys v → message = shown v) ∧
      ((∀ key ∈ errorKeys, (replyField fields key).truthy = false) → IsPlain a r message) ∧
      (IsBest a r fields message ↔ isBlankLoose message = false) ∧
      (isBlankLoose message = true ↔
        ∃ s, IsFirstTruthy fields errorKeys (.str s) ∧ isBlankLoose s = true)) ∧
    (¬ r.IsReadable → ∃ container, (c.call p a r).2 = .error (.nesting container)) := by
  rw [call_of_sent hsent]
  refine ⟨fun hread => ?_, settle_of_not_isReadable⟩
  obtain ⟨fields, hfields⟩ := exists_replyFields hread
  have hsettle : settle a r = .error (.backend (errorMessage a r fields) r.status) := by
    simp only [settle, hfields, (isFailure_iff r.status).2 hstatus, if_true]
  refine ⟨fields, errorMessage a r fields, Reply.carries_iff.2 hfields, hsettle,
    fun v hv => errorMessage_of_truthy hv, fun hnone => ?_, isBest_errorMessage_iff,
    isBlankLoose_errorMessage_iff⟩
  rw [errorMessage_of_falsy hnone]
  exact isPlain_plainMessage a r

/-- A reply without a document, with blanks around its words. -/
def badGateway : Reply :=
  ⟨502, " Bad Gateway\n"⟩

theorem message_of_failure_gateway :
    (nearby.call bare .awsDeploy badGateway).1 ≠ [] ∧
      (400 ≤ badGateway.status ∧ badGateway.status < 600) ∧
      (nearby.call bare .awsDeploy badGateway).2 =
        .error (.backend (points "Bad Gateway") 502) := by
  have hsent : (nearby.call bare .awsDeploy badGateway).1 ≠ [] := by decide +kernel
  have hstatus : 400 ≤ badGateway.status ∧ badGateway.status < 600 := by decide
  obtain ⟨hfailure, -⟩ := message_of_failure nearby bare .awsDeploy badGateway hsent hstatus
  obtain ⟨fields, message, hcarries, hcall, -, hplain, -⟩ :=
    hfailure (Reply.isReadable_of_openings (by decide))
  have hfields : fields = [] := by
    have hreply := Reply.carries_iff.1 hcarries
    exact Except.ok.inj (hreply.symm.trans (by decide +kernel))
  have hstrip : Text.strip badGateway.body = "Bad Gateway" := by decide +kernel
  have hmessage : message = points "Bad Gateway" := by
    rw [hfields] at hplain
    cases hplain (by decide +kernel) with
    | body h => rw [hstrip]
    | made h =>
      rw [hstrip] at h
      exact absurd h (by decide)
  exact ⟨hsent, hstatus, hmessage ▸ hcall⟩

/-- A reply whose detail is a blank, although it has an error to tell. -/
def withBlankDetail : Reply :=
  ⟨500, "\x7b\"detail\": \" \", \"error\": \"bad ir\"\x7d"⟩

/-- The blank is the message of the error, and hides a better one. -/
theorem message_hidden :
    (nearby.call bare .awsCompile withBlankDetail).2 = .error (.backend (points " ") 500) ∧
      isBlankLoose (points " ") = true ∧
      ∃ fields, withBlankDetail.Carries fields ∧
        ¬ IsBest .awsCompile withBlankDetail fields (points " ") ∧
        IsBest .awsCompile withBlankDetail fields (points "bad ir") := by
  have hblank : isBlankLoose (points " ") = true := by decide +kernel
  refine ⟨by decide +kernel, hblank,
    [(points "detail", .str (points " ")), (points "error", .str (points "bad ir"))],
    Reply.carries_iff.2 (by decide +kernel), fun hbest => ?_, ?_⟩
  · rw [hbest.not_blank] at hblank
    cases hblank
  · have hfirst : IsFirstSaying [(points "detail", .str (points " ")),
        (points "error", .str (points "bad ir"))] errorKeys (.str (points "bad ir")) := by
      refine ⟨["detail"], "error", [], rfl, ?_, by decide +kernel, by decide +kernel,
        by decide +kernel⟩
      intro earlier hearlier hsays
      rw [List.mem_singleton.1 hearlier] at hsays
      revert hsays
      simp only [Says]
      decide +kernel
    exact .field hfirst

end Client

end CloudCanvas
