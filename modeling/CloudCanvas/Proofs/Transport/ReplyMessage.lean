import CloudCanvas.Proofs.Transport.Reply

/-!
The message of a response. It is the first value that counts as present among the message, the
output and the detail of the reply, shown as a text. When none of them counts as present, the
detail is shown all the same unless it is null; so a detail of zero, of no characters or without
items makes a message, whereas a message or an output of that kind is passed over.
-/

namespace CloudCanvas.Client

open Text (LooseText points)

/-- The reply holds an object with these fields, or something else, which has none. -/
inductive Reply.Carries (r : Reply) : ReplyFields → Prop
  | object {fields : ReplyFields}
      (h : Document.readWithin (replyRoom r.status) r.body = .ok (.obj fields)) : Carries r fields
  | other {v : Document LooseText} (h : Document.readWithin (replyRoom r.status) r.body = .ok v)
      (hv : v.fields? = none) : Carries r []
  | malformed (h : (Document.readWithin (replyRoom r.status) r.body :
      Except Document.ReadError (Document LooseText)) = .error .malformed) : Carries r []

theorem Reply.carries_iff {r : Reply} {fields : ReplyFields} :
    r.Carries fields ↔ replyFields r = .ok fields := by
  constructor
  · rintro (h | ⟨h, hv⟩ | h)
    · rw [replyFields, h]
      rfl
    · rw [replyFields, h]
      exact congrArg Except.ok (congrArg (Option.getD · []) hv)
    · rw [replyFields, h]
  · intro h
    unfold replyFields at h
    split at h
    · next v hv =>
      cases h
      cases v with
      | obj fields => exact .object hv
      | _ => exact .other hv rfl
    · next hmalformed =>
      cases h
      exact .malformed hmalformed
    · cases h

/-- The first of the fields that has a value that counts as present, and that value. -/
def IsFirstTruthy (fields : ReplyFields) (keys : List String) (v : Document LooseText) : Prop :=
  ∃ before key after, keys = before ++ key :: after ∧
    (∀ earlier ∈ before, (replyField fields earlier).truthy = false) ∧
    replyField fields key = v ∧ v.truthy = true

theorem firstTruthy?_eq_some_iff (fields : ReplyFields) (keys : List String)
    (v : Document LooseText) :
    firstTruthy? fields keys = some v ↔ IsFirstTruthy fields keys v := by
  rw [firstTruthy?, List.find?_map, Option.map_eq_some_iff]
  simp only [List.find?_eq_some_iff_append, Function.comp_apply,
    Bool.not_eq_eq_eq_not, Bool.not_true]
  constructor
  · rintro ⟨key, ⟨htruthy, before, after, hkeys, hbefore⟩, rfl⟩
    exact ⟨before, key, after, hkeys, hbefore, rfl, htruthy⟩
  · rintro ⟨before, key, after, hkeys, hbefore, rfl, htruthy⟩
    exact ⟨key, ⟨htruthy, before, after, hkeys, hbefore⟩, rfl⟩

theorem firstTruthy?_eq_none_iff (fields : ReplyFields) (keys : List String) :
    firstTruthy? fields keys = none ↔ ∀ key ∈ keys, (replyField fields key).truthy = false := by
  simp [firstTruthy?]

theorem firstTruthy?_append (fields : ReplyFields) (keys others : List String) :
    firstTruthy? fields (keys ++ others)
      = (firstTruthy? fields keys).or (firstTruthy? fields others) := by
  rw [firstTruthy?, List.map_append, List.find?_append]
  rfl

/-- The value that stands in where none is truthy is also the last one to be tried. -/
theorem getD_firstTruthy? {fields : ReplyFields} {keys : List String} {last : String}
    {v : Document LooseText} (h : firstTruthy? fields (keys ++ [last]) = some v) :
    (firstTruthy? fields keys).getD (replyField fields last) = v := by
  rw [firstTruthy?_append] at h
  cases hkeys : firstTruthy? fields keys with
  | some first =>
    rw [hkeys] at h
    exact Option.some.inj h
  | none =>
    rw [hkeys, Option.none_or, firstTruthy?] at h
    exact List.mem_singleton.1 (List.mem_of_find?_eq_some h) ▸ rfl

/-- The fields that may hold the message of a response. -/
def messageKeys : List String :=
  ["message", "output", "detail"]

theorem isNull_of_truthy {v : Document LooseText} (h : v.truthy = true) : v.isNull = false := by
  cases v with
  | null => cases h
  | _ => rfl

theorem replyMessage_of_truthy {fields : ReplyFields} {v : Document LooseText}
    (h : IsFirstTruthy fields messageKeys v) : replyMessage fields = some (shown v) := by
  have hv : v.truthy = true := by
    obtain ⟨-, -, -, -, -, -, hv⟩ := h
    exact hv
  have hfirst : (firstTruthy? fields ["message", "output"]).getD (replyField fields "detail") = v :=
    getD_firstTruthy? ((firstTruthy?_eq_some_iff fields messageKeys v).2 h)
  rw [replyMessage, hfirst]
  exact if_neg (Bool.eq_false_iff.1 (isNull_of_truthy hv))

theorem replyMessage_of_falsy {fields : ReplyFields}
    (h : ∀ key ∈ messageKeys, (replyField fields key).truthy = false) :
    replyMessage fields = if (replyField fields "detail").isNull then none
      else some (shown (replyField fields "detail")) := by
  have hnone : firstTruthy? fields ["message", "output"] = none :=
    (firstTruthy?_eq_none_iff _ _).2 fun key hkey => h key (List.mem_append_left ["detail"] hkey)
  rw [replyMessage, hnone]
  rfl

theorem replyMessage_nil : replyMessage [] = none :=
  replyMessage_of_falsy fun _ _ => rfl

/-- The message is the first value that counts as present. Where there is none, it is the detail,
whatever it is; so only a detail that is null or missing leaves a response without a message. -/
theorem message_of_success (c : Client) (p : Payload) (a : Action) (r : Reply)
    (hsent : (c.call p a r).1 ≠ []) (hstatus : ¬ (400 ≤ r.status ∧ r.status < 600)) :
    (r.IsReadable → ∃ fields message, r.Carries fields ∧
      (c.call p a r).2 = .ok ⟨r.status, message⟩ ∧
      (fields = [] → message = none) ∧
      (∀ v, IsFirstTruthy fields messageKeys v → message = some (shown v)) ∧
      ((∀ key ∈ messageKeys, (replyField fields key).truthy = false) →
        message = if (replyField fields "detail").isNull then none
          else some (shown (replyField fields "detail")))) ∧
    (¬ r.IsReadable → ∃ container, (c.call p a r).2 = .error (.nesting container)) := by
  rw [call_of_sent hsent]
  refine ⟨fun hread => ?_, settle_of_not_isReadable⟩
  obtain ⟨fields, hfields⟩ := exists_replyFields hread
  refine ⟨fields, replyMessage fields, Reply.carries_iff.2 hfields,
    settle_of_success hfields hstatus, ?_, fun _ => replyMessage_of_truthy, replyMessage_of_falsy⟩
  rintro rfl
  exact replyMessage_nil

/-- A reply whose message has no characters. -/
def withEmptyMessage : Reply :=
  ⟨200, "\x7b\"message\": \"\", \"output\": \"done\"\x7d"⟩

theorem message_of_success_output :
    (nearby.call bare .awsCompile withEmptyMessage).1 ≠ [] ∧
      (nearby.call bare .awsCompile withEmptyMessage).2 = .ok ⟨200, some (points "done")⟩ := by
  have hsent : (nearby.call bare .awsCompile withEmptyMessage).1 ≠ [] := by decide +kernel
  obtain ⟨hsuccess, -⟩ :=
    message_of_success nearby bare .awsCompile withEmptyMessage hsent (by decide)
  obtain ⟨fields, message, hcarries, hcall, -, hfirst, -⟩ :=
    hsuccess (Reply.isReadable_of_openings (by decide))
  have hfields : fields = [(points "message", .str (points "")),
      (points "output", .str (points "done"))] := by
    have hreply := Reply.carries_iff.1 hcarries
    exact Except.ok.inj (hreply.symm.trans (by decide +kernel))
  have hmessage : message = some (points "done") := by
    refine hfirst (.str (points "done")) ⟨["message"], "output", ["detail"], rfl, ?_, ?_, ?_⟩
    · rw [hfields]
      decide +kernel
    · rw [hfields]
      decide +kernel
    · decide +kernel
  exact ⟨hsent, hmessage ▸ hcall⟩

def withZeroDetail : Reply :=
  ⟨200, "\x7b\"detail\": 0\x7d"⟩

/-- A detail of zero makes a message, although none of the three values counts as present. -/
theorem message_zero :
    ∃ fields, Reply.Carries withZeroDetail fields ∧
      (∀ key ∈ messageKeys, (replyField fields key).truthy = false) ∧
      (nearby.call bare .awsCompile withZeroDetail).2 = .ok ⟨200, some (points "0")⟩ := by
  refine ⟨[(points "detail", .num (.int 0))], Reply.carries_iff.2 ?_, ?_, ?_⟩
  · decide +kernel
  · decide +kernel
  · decide +kernel

end CloudCanvas.Client
