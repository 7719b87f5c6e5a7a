import CloudCanvas.Proofs.Document.Room
import CloudCanvas.Proofs.Transport.Client

/-!
How a call ends once it is sent. A reply that can be read is settled by its status alone, whatever
it holds: from 400 to 599 it is an error, and any other status is a success. So the statuses below
200, from 300 to 399 and from 600 on count as successes although they are none. A reply with too
many containers within each other cannot be read and ends the call with an error of its own.
-/

namespace CloudCanvas.Client

open Text (LooseText)

variable {a : Action} {r : Reply}

/-- There is room for the containers of the reply, whether or not it holds a document. -/
def Reply.IsReadable (r : Reply) : Prop :=
  ∀ container, (Document.readWithin (replyRoom r.status) r.body :
    Except Document.ReadError (Document LooseText)) ≠ .error (.tooDeep container)

theorem Reply.isReadable_of_openings (h : Document.openings r.body.toList ≤ 984) :
    r.IsReadable := by
  have hroom : 984 ≤ replyRoom r.status := by
    unfold replyRoom
    split <;> omega
  exact Document.readWithin_ne_tooDeep (h.trans hroom)

theorem exists_replyFields (h : r.IsReadable) : ∃ fields, replyFields r = .ok fields := by
  unfold replyFields
  split
  · exact ⟨_, rfl⟩
  · exact ⟨_, rfl⟩
  · next container hdeep => exact absurd hdeep (h container)

theorem replyFields_of_not_isReadable (h : ¬ r.IsReadable) :
    ∃ container, replyFields r = .error (.nesting container) := by
  obtain ⟨container, hdeep⟩ := not_forall_not.1 h
  rw [replyFields, hdeep]
  exact ⟨container, rfl⟩

theorem isFailure_iff (status : Int) : isFailure status = true ↔ 400 ≤ status ∧ status < 600 := by
  simp [isFailure]

theorem settle_of_failure (h : r.IsReadable) (hstatus : 400 ≤ r.status ∧ r.status < 600) :
    ∃ message, settle a r = .error (.backend message r.status) := by
  obtain ⟨fields, hfields⟩ := exists_replyFields h
  refine ⟨errorMessage a r fields, ?_⟩
  simp only [settle, hfields, (isFailure_iff r.status).2 hstatus, if_true]

theorem settle_of_success {fields : ReplyFields} (hfields : replyFields r = .ok fields)
    (hstatus : ¬ (400 ≤ r.status ∧ r.status < 600)) :
    settle a r = .ok ⟨r.status, replyMessage fields⟩ := by
  rw [settle, hfields]
  exact if_neg ((isFailure_iff r.status).not.2 hstatus)

theorem settle_of_not_isReadable (h : ¬ r.IsReadable) :
    ∃ container, settle a r = .error (.nesting container) := by
  obtain ⟨container, hfields⟩ := replyFields_of_not_isReadable h
  exact ⟨container, by rw [settle, hfields]⟩

/-- What was sent ends as its reply is settled. -/
theorem call_of_sent {c : Client} {p : Payload} (h : (c.call p a r).1 ≠ []) :
    (c.call p a r).2 = settle a r := by
  unfold call at h ⊢
  cases hrefusal : refusal? p a with
  | none => rfl
  | some e =>
    rw [hrefusal] at h
    exact absurd rfl h

/-- The outcome that befits a status: a response to one from 200 to 299, and an error to any other;
either carries the status. -/
def Befits (status : Int) : Except Error Response → Prop
  | .ok response => (200 ≤ status ∧ status < 300) ∧ response.status = status
  | .error (.backend _ code) => ¬ (200 ≤ status ∧ status < 300) ∧ code = status
  | .error _ => False

/-- The status alone decides between success and failure, for all replies that can be read. The
outcome befits it just when the status is no other than a success or a failure. -/
theorem outcome_by_status (c : Client) (p : Payload) (a : Action) (r : Reply)
    (hsent : (c.call p a r).1 ≠ []) :
    (Document.openings r.body.toList ≤ 984 → r.IsReadable) ∧
    (r.IsReadable → 400 ≤ r.status ∧ r.status < 600 →
      ∃ message, (c.call p a r).2 = .error (.backend message r.status)) ∧
    (r.IsReadable → ¬ (400 ≤ r.status ∧ r.status < 600) →
      ∃ message, (c.call p a r).2 = .ok ⟨r.status, message⟩) ∧
    (¬ r.IsReadable → ∃ container, (c.call p a r).2 = .error (.nesting container)) ∧
    (Befits r.status (c.call p a r).2 ↔
      r.IsReadable ∧ (200 ≤ r.status ∧ r.status < 300 ∨ 400 ≤ r.status ∧ r.status < 600)) := by
  rw [call_of_sent hsent]
  refine ⟨Reply.isReadable_of_openings, settle_of_failure, fun hread hstatus => ?_,
    settle_of_not_isReadable, ?_⟩
  · obtain ⟨fields, hfields⟩ := exists_replyFields hread
    exact ⟨_, settle_of_success hfields hstatus⟩
  by_cases hread : r.IsReadable
  · by_cases hstatus : 400 ≤ r.status ∧ r.status < 600
    · obtain ⟨message, hsettle⟩ := settle_of_failure (a := a) hread hstatus
      have hnone : ¬ (200 ≤ r.status ∧ r.status < 300) := by omega
      rw [hsettle]
      exact iff_of_true ⟨hnone, rfl⟩ ⟨hread, .inr hstatus⟩
    · obtain ⟨fields, hfields⟩ := exists_replyFields hread
      rw [settle_of_success hfields hstatus]
      constructor
      · intro h
        exact ⟨hread, .inl h.1⟩
      · rintro ⟨-, h⟩
        exact ⟨h.resolve_right hstatus, rfl⟩
  · obtain ⟨container, hsettle⟩ := settle_of_not_isReadable (a := a) hread
    rw [hsettle]
    exact iff_of_false id fun h => hread h.1

/-- A client of a backend on the same machine. -/
def nearby : Client :=
  ⟨"http://localhost:8000", .num (.int 300)⟩

def bare : Payload :=
  ⟨"shop", "staging", "eu-west-1", none, [], []⟩

theorem outcome_by_status_unmodified :
    (nearby.call bare .awsCompile ⟨304, "[ moved"⟩).1 ≠ [] ∧
      (∃ message, (nearby.call bare .awsCompile ⟨304, "[ moved"⟩).2 = .ok ⟨304, message⟩) ∧
      ¬ Befits 304 (nearby.call bare .awsCompile ⟨304, "[ moved"⟩).2 := by
  have hsent : (nearby.call bare .awsCompile ⟨304, "[ moved"⟩).1 ≠ [] := by decide +kernel
  obtain ⟨hreadable, -, hsuccess, -, hbefits⟩ :=
    outcome_by_status nearby bare .awsCompile ⟨304, "[ moved"⟩ hsent
  have hread : Reply.IsReadable ⟨304, "[ moved"⟩ := hreadable (by decide)
  refine ⟨hsent, hsuccess hread (by decide), ?_⟩
  rw [hbefits]
  exact fun h => absurd h.2 (by decide)

/-- A status from 300 to 399 makes a response of success. -/
theorem redirection_succeeds :
    (nearby.call bare .awsDestroy ⟨304, ""⟩).1 ≠ [] ∧
      (nearby.call bare .awsDestroy ⟨304, ""⟩).2 = .ok ⟨304, none⟩ ∧
      ¬ Befits 304 (nearby.call bare .awsDestroy ⟨304, ""⟩).2 := by
  have hsettle : (nearby.call bare .awsDestroy ⟨304, ""⟩).2 = .ok ⟨304, none⟩ := by
    decide +kernel
  refine ⟨by decide +kernel, hsettle, ?_⟩
  rw [hsettle]
  exact fun h => absurd h.1.2 (by decide)

end CloudCanvas.Client
