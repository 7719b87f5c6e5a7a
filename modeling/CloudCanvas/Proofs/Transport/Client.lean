import CloudCanvas.Proofs.Payload.Writable
import CloudCanvas.Proofs.Text.Blank
import CloudCanvas.Transport.Client
import Mathlib.Data.List.Forall2

/-!
What the client sends. A call is refused, or stops at a payload that cannot be written, or sends
one request; the reply comes after it. So the requests of a run are those of its calls, each fixed
by the address, the payload and the action alone, whatever was sent and answered before. Only
starting on GCP changes the object of the payload, and in nothing but its location.
-/

namespace CloudCanvas.Client

/-- The address without the slashes at its end. -/
def IsTrimmed (base url : String) : Prop :=
  (∃ n, base = url ++ String.ofList (List.replicate n '/')) ∧ url.toList.getLast? ≠ some '/'

theorem trimSlashes_eq_rdropWhile (url : String) :
    Text.trimSlashes url = String.ofList (url.toList.rdropWhile (· == '/')) := rfl

theorem isTrimmed_trimSlashes (base : String) : IsTrimmed base (Text.trimSlashes base) := by
  rw [trimSlashes_eq_rdropWhile]
  constructor
  · have hslashes : ∀ c ∈ base.toList.rtakeWhile (· == '/'), c = '/' := fun c hc =>
      beq_iff_eq.1 (List.mem_rtakeWhile_imp (p := (· == '/')) hc)
    refine ⟨(base.toList.rtakeWhile (· == '/')).length, ?_⟩
    rw [← List.eq_replicate_of_mem hslashes, ← String.ofList_append,
      List.rdropWhile_append_rtakeWhile, String.ofList_toList]
  · intro hlast
    rw [String.toList_ofList] at hlast
    obtain ⟨hne, heq⟩ := List.mem_getLast?_eq_getLast hlast
    exact List.rdropWhile_last_not (· == '/') base.toList hne (beq_iff_eq.2 heq.symm)

/-- The object of the payload with its location, for which the region stands in when it has none:
then it is put at the end, and everything else stays. -/
structure Locates (p : Payload) (fields : Table Json) : Prop where
  location : fields.get? "location" = some (.str (p.location.getD p.region))
  others : ∀ key, key ≠ "location" → fields.get? key = p.toWire.fieldsOrEmpty.get? key
  of_some : p.location ≠ none → .obj fields = p.toWire
  of_none : p.location = none →
    fields = p.toWire.fieldsOrEmpty ++ [("location", .str p.region)]

/-- What an action sends of a payload. -/
def IsBody (p : Payload) : Action → Json → Prop
  | .awsDestroy, v => v = .obj []
  | .gcpUp, v => ∃ fields, v = .obj [("ir", .obj fields)] ∧ Locates p fields
  | .gcpPreview, v => v = .obj [("ir", p.toWire)]
  | .awsCompile, v | .awsDeploy, v | .awsBootstrap, v | .gcpDestroy, v => v = p.toWire

theorem get?_location_toWire (p : Payload) :
    p.toWire.fieldsOrEmpty.get? "location" = p.location.map .str := by
  cases h : p.location <;>
    simp [Payload.toWire, h, Payload.unlessUnset, Document.fieldsOrEmpty, Document.fields?,
      Table.get?]

theorem locates_located (p : Payload) :
    Locates p (p.toWire.fieldsOrEmpty.setDefault "location" (.str p.region)) where
  location := by
    rw [Table.get?_setDefault, get?_location_toWire]
    cases p.location <;> rfl
  others key hkey := by
    rw [Table.get?_setDefault, if_neg hkey.symm, Option.or_none]
  of_some hsome := by
    have hcontains : p.toWire.fieldsOrEmpty.contains "location" = true := by
      rw [Table.contains_eq_isSome, get?_location_toWire, Option.isSome_map]
      exact Option.isSome_iff_ne_none.2 hsome
    rw [Table.setDefault, if_pos hcontains]
    rfl
  of_none hnone := by
    have hcontains : ¬ p.toWire.fieldsOrEmpty.contains "location" = true := by
      rw [Table.contains_eq_isSome, get?_location_toWire, hnone]
      exact Bool.false_ne_true
    rw [Table.setDefault, if_neg hcontains]

theorem isBody_body (p : Payload) (a : Action) : IsBody p a (body p a) := by
  cases a with
  | gcpUp => exact ⟨_, rfl, locates_located p⟩
  | _ => rfl

/-- A reply is never blamed on the one who calls. -/
theorem settle_ne (a : Action) (r : Reply) :
    settle a r ≠ .error .noRegion ∧ ∀ cause, settle a r ≠ .error (.payload cause) := by
  have hfields : ∀ e, replyFields r = .error e → ∃ container, e = .nesting container := by
    intro e he
    unfold replyFields at he
    split at he <;> cases he
    exact ⟨_, rfl⟩
  unfold settle
  split
  · next e he =>
    obtain ⟨container, rfl⟩ := hfields e he
    exact ⟨nofun, nofun⟩
  · split_ifs <;> exact ⟨nofun, nofun⟩

/-- How a call ends. It is refused only when it bootstraps without a region, and sends nothing then;
nothing is sent either of a payload that cannot be written, unless the action does without it. Any
other call sends one request. -/
inductive Handled (p : Payload) (request : Action → Request) :
    Action × Reply → List Request × Except Error Response → Prop
  | refused (reply : Reply) (hregion : Text.strip p.region = "") :
      Handled p request (.awsBootstrap, reply) ([], .error .noRegion)
  | unwritten (a : Action) (reply : Reply)
      (hnamed : ¬ (a = .awsBootstrap ∧ Text.strip p.region = "")) (hsends : a ≠ .awsDestroy)
      (hdeep : p.isWritable = false) : Handled p request (a, reply) ([], .error (.payload .tooDeep))
  | sent (a : Action) (reply : Reply)
      (hnamed : ¬ (a = .awsBootstrap ∧ Text.strip p.region = ""))
      (hwritable : a = .awsDestroy ∨ p.isWritable = true)
      (hregion : settle a reply ≠ .error .noRegion)
      (hwritten : ∀ cause, settle a reply ≠ .error (.payload cause)) :
      Handled p request (a, reply) ([request a], settle a reply)

theorem handled_call (c : Client) (p : Payload) (a : Action) (reply : Reply) :
    Handled p (c.request p) (a, reply) (c.call p a reply) := by
  unfold call refusal?
  simp only [Text.isBlankText_iff_strip_eq, Bool.not_eq_true']
  by_cases hrefused : a = .awsBootstrap ∧ Text.strip p.region = ""
  · rw [if_pos hrefused]
    obtain ⟨rfl, hregion⟩ := hrefused
    exact .refused reply hregion
  · rw [if_neg hrefused]
    by_cases hdeep : a ≠ .awsDestroy ∧ p.isWritable = false
    · rw [if_pos hdeep]
      exact .unwritten a reply hrefused hdeep.1 hdeep.2
    · rw [if_neg hdeep]
      have hwritable : a = .awsDestroy ∨ p.isWritable = true := by
        rwa [not_and_or, not_not, Bool.not_eq_false] at hdeep
      exact .sent a reply hrefused hwritable (settle_ne a reply).1 (settle_ne a reply).2

/-- In every run each call is handled as if it were alone. -/
theorem requests_of_run (p : Payload) :
    ∃ document : Action → Json, (∀ a, IsBody p a (document a)) ∧
      ∀ c : Client, ∃ url, IsTrimmed c.baseUrl url ∧ ∀ calls,
        List.Forall₂ (Handled p fun a => ⟨url ++ a.path, document a, c.timeout⟩) calls
          (c.run p calls) := by
  refine ⟨body p, isBody_body p, fun c => ⟨Text.trimSlashes c.baseUrl, isTrimmed_trimSlashes _, ?_⟩⟩
  intro calls
  rw [run, List.forall₂_map_right_iff]
  exact List.forall₂_same.2 fun call _ => c.handled_call p call.1 call.2

/-- A payload of one node, whose only setting holds 256 lists, each within the one before. -/
def heaped : Payload :=
  ⟨"shop", "staging", "eu-west-1", none,
    [⟨"a", "aws.rds", "a", [("x", Document.buried 255)]⟩], []⟩

/-- The payload has a region, and yet there is a call that sends nothing of it. -/
theorem compile_unsent :
    ¬ ∀ (c : Client) (p : Payload) (a : Action) (reply : Reply),
      (c.call p a reply = ([], .error .noRegion) ∧ a = .awsBootstrap ∧ Text.strip p.region = "") ∨
        ∃ request, (c.call p a reply).1 = [request] := by
  intro hsends
  have hdeep : heaped.isWritable = false :=
    Payload.isWritable_eq_false_iff.2 ⟨_, List.mem_singleton_self _, _, List.mem_singleton_self _,
      Payload.heightLimit_lt_height_buried⟩
  have hrefusal : refusal? heaped .awsCompile = some (.payload .tooDeep) := by
    rw [refusal?, hdeep]
    rfl
  rcases hsends ⟨"http://localhost:8000", .num (.int 300)⟩ heaped .awsCompile ⟨200, ""⟩ with
    ⟨-, haction, -⟩ | ⟨request, hrequest⟩
  · cases haction
  · rw [call, hrefusal] at hrequest
    cases hrequest

end CloudCanvas.Client
