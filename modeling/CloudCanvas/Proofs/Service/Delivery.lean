import CloudCanvas.Proofs.Service.Agreement
import CloudCanvas.Proofs.Service.Published

/-!
What is delivered to whoever sent a body that is accepted. A plan and a payload arrive as they are
if nothing in them is internal, and without what is internal otherwise. A plan with a number that no
document can hold does not arrive, and neither does a payload that cannot be written; a compilation
needs both, but for its errors only the payload. All of it is up to the details of nodes and the
properties of edges: where these are presentable, everything arrives as it is.
-/

namespace CloudCanvas.Service

open Document (buried)

theorem publish_eq_ok_iff (v : Json) (response : Response) :
    publish v = .ok response ↔
      (published v).allFinite = true ∧ response = ⟨200, published v⟩ := by
  rw [publish, respond]
  split_ifs with hfinite
  · rw [Except.ok.injEq, eq_comm, and_iff_right hfinite]
  · exact iff_of_false (by simp) fun h => hfinite h.1

theorem publish_eq_self_iff (v : Json) :
    publish v = .ok ⟨200, v⟩ ↔ isPublic v = true ∧ v.allFinite = true := by
  rw [publish_eq_ok_iff, ← published_eq_self_iff, Response.mk.injEq, and_iff_right rfl, and_comm]
  constructor
  · rintro ⟨hsame, hfinite⟩
    exact ⟨hsame.symm, hsame ▸ hfinite⟩
  · rintro ⟨hsame, hfinite⟩
    exact ⟨hsame.symm, hsame.symm ▸ hfinite⟩

/-- Among what a compilation delivers, only the plan can hold a number that is not finite. -/
theorem allFinite_success {plan payload : Json} (h : payload.allFinite = true) (prompt : String) :
    (published (success plan payload prompt)).allFinite = (published plan).allFinite := by
  rw [published_success]
  simp [success, Document.allFinite, Document.allFiniteFields, allFinite_published payload h]

/-- The endpoints deliver a compilation: when they answer, and what the answers are. -/
structure Delivers (c : Compilation) (answer : Endpoint → Except Failure Response) : Prop where
  plan : ∀ response, answer .plan = .ok response ↔
    (published c.plan.toJson).allFinite = true ∧ response = ⟨200, published c.plan.toJson⟩
  plan_exact : answer .plan = .ok ⟨200, c.plan.toJson⟩ ↔
    isPublic c.plan.toJson = true ∧ c.plan.toJson.allFinite = true
  payload : ∀ response, answer .payload = .ok response ↔
    c.payload.isWritable = true ∧ response = ⟨200, published c.payload.toWire⟩
  payload_exact : answer .payload = .ok ⟨200, c.payload.toWire⟩ ↔
    c.payload.isWritable = true ∧ isPublic c.payload.toWire = true
  compile : ∀ response, answer .compile = .ok response ↔ c.payload.isWritable = true ∧
    (c.errors ≠ [] ∧ response = ⟨422, rejection c.errors⟩ ∨
      c.errors = [] ∧ (published c.plan.toJson).allFinite = true ∧
        response = ⟨200, success (published c.plan.toJson) (published c.payload.toWire) c.prompt⟩)

theorem payloadAnswer_of_writable {config : Configuration} {r : GraphRequest}
    (h : (compileRequest config r).payload.isWritable = true) :
    payloadAnswer config r = publish (compileRequest config r).payload.toWire := by
  rw [payloadAnswer_eq, Payload.write_eq_ok_iff.2 ⟨h, rfl⟩]

theorem payloadAnswer_eq_ok_iff (config : Configuration) (r : GraphRequest) (response : Response) :
    payloadAnswer config r = .ok response ↔
      (compileRequest config r).payload.isWritable = true ∧
        response = ⟨200, published (compileRequest config r).payload.toWire⟩ := by
  cases hwritable : (compileRequest config r).payload.isWritable with
  | true =>
    rw [payloadAnswer_of_writable hwritable, publish_eq_ok_iff,
      allFinite_published _ (allFinite_payload config r)]
  | false =>
    rw [(answers_of_not_writable config r hwritable false []).1]
    exact iff_of_false (by simp) fun h => Bool.false_ne_true h.1

theorem compilationAnswer_eq_ok_iff {c : Compilation} (h : c.payload.toWire.allFinite = true)
    (response : Response) :
    compilationAnswer c = .ok response ↔
      c.errors ≠ [] ∧ response = ⟨422, rejection c.errors⟩ ∨
        c.errors = [] ∧ (published c.plan.toJson).allFinite = true ∧
          response =
            ⟨200, success (published c.plan.toJson) (published c.payload.toWire) c.prompt⟩ := by
  have hrejection : (rejection c.errors).allFinite = true := by
    simp [rejection, Document.allFinite, Document.allFiniteFields, allFinite_errorTableJson]
  by_cases hvalid : c.errors = []
  · have hanswer : compilationAnswer c =
        publish (success c.plan.toJson c.payload.toWire c.prompt) := by
      rw [compilationAnswer, if_pos (List.isEmpty_iff.2 hvalid)]
      rfl
    rw [hanswer, publish_eq_ok_iff, allFinite_success h, published_success]
    simp [hvalid]
  · have hanswer : compilationAnswer c = .ok ⟨422, rejection c.errors⟩ := by
      rw [compilationAnswer, if_neg (mt List.isEmpty_iff.1 hvalid)]
      exact respond_of_allFinite hrejection 422
    rw [hanswer, Except.ok.injEq, eq_comm]
    simp [hvalid]

theorem delivers_compileRequest {body : Json} {r : GraphRequest} (hroom : body.nesting ≤ bodyRoom)
    (hread : readBody readGraphRequest body = .ok r) (config : Configuration) (commits : Bool)
    (log : Log) :
    Delivers (compileRequest config r) fun e => (call config commits log body e).1 where
  plan response := by
    rw [call_plan hroom _ _ _ hread]
    exact publish_eq_ok_iff _ response
  plan_exact := by
    rw [call_plan hroom _ _ _ hread]
    exact publish_eq_self_iff _
  payload response := by
    rw [call_payload hroom _ _ _ hread]
    exact payloadAnswer_eq_ok_iff config r response
  payload_exact := by
    rw [call_payload hroom _ _ _ hread, payloadAnswer_eq_ok_iff, ← published_eq_self_iff,
      Response.mk.injEq, and_iff_right rfl]
    exact and_congr_right fun _ => eq_comm
  compile response := by
    rw [call_compile hroom _ _ _ hread]
    cases hwritable : (compileRequest config r).payload.isWritable with
    | true =>
      rw [(answers_of_writable config r hwritable commits log).2, and_iff_right rfl]
      exact compilationAnswer_eq_ok_iff (allFinite_payload config r) response
    | false =>
      rw [(answers_of_not_writable config r hwritable commits log).2]
      exact iff_of_false (by simp) fun h => Bool.false_ne_true h.1

/-- What was entered can be delivered as it is: nothing in it is internal, its numbers are finite,
and its details are not too high. -/
structure GraphRequest.IsPresentable (r : GraphRequest) : Prop where
  isPublic : r.graph.IsPublic
  finite : r.graph.Holds fun v => v.allFinite = true
  low : ∀ n ∈ r.graph.nodes, ∀ entry ∈ n.details, entry.2.height ≤ Payload.heightLimit

/-- A body that is accepted is answered by what is published of its compilation, and by all of it if
what was entered is presentable. Its texts are of whole characters; a lone surrogate among them
would leave a plan and a compilation without errors unanswered. -/
theorem delivery_of_accepted (config : Configuration) (body : Json) (r : GraphRequest)
    (hroom : body.nesting ≤ bodyRoom) (hread : readBody readGraphRequest body = .ok r) :
    ∃ c, Compilation.compile config r.graph (.str r.provider.name) r.project r.env false = .ok c ∧
      (∀ commits log, Delivers c fun e => (call config commits log body e).1) ∧
      (r.IsPresentable → ∀ commits log,
        (call config commits log body .plan).1 = .ok ⟨200, c.plan.toJson⟩ ∧
        (call config commits log body .payload).1 = .ok ⟨200, c.payload.toWire⟩ ∧
        (call config commits log body .compile).1 =
          .ok (if c.errors = [] then ⟨200, success c.plan.toJson c.payload.toWire c.prompt⟩
            else ⟨422, rejection c.errors⟩)) := by
  refine ⟨compileRequest config r, compile_eq_compileRequest config r,
    delivers_compileRequest hroom hread config, fun hr commits log => ?_⟩
  have hdelivers := delivers_compileRequest hroom hread config commits log
  have hplan : isPublic (compileRequest config r).plan.toJson = true :=
    Plan.isPublic_toJson hr.isPublic r.provider
  have hfinite : (compileRequest config r).plan.toJson.allFinite = true :=
    Plan.allFinite_toJson (Plan.holds_buildFor (fun _ => rfl) hr.finite r.provider)
  have hpayload : isPublic (compileRequest config r).payload.toWire = true :=
    Payload.isPublic_toWire
      (Payload.isPublicFields_props hr.isPublic config r.provider r.project r.env)
  have hwritable : (compileRequest config r).payload.isWritable = true :=
    Payload.isWritable_buildFor config hr.low r.provider r.project r.env
  refine ⟨hdelivers.plan_exact.2 ⟨hplan, hfinite⟩, hdelivers.payload_exact.2 ⟨hwritable, hpayload⟩,
    (hdelivers.compile _).2 ⟨hwritable, ?_⟩⟩
  rw [(published_eq_self_iff _).2 hplan, (published_eq_self_iff _).2 hpayload]
  by_cases hvalid : (compileRequest config r).errors = []
  · exact .inr ⟨hvalid, hfinite, if_pos hvalid⟩
  · exact .inl ⟨hvalid, if_neg hvalid⟩

theorem delivery_of_accepted_ordering :
    ∃ (r : GraphRequest) (c : Compilation), ordering.nesting ≤ bodyRoom ∧
      readBody readGraphRequest ordering = .ok r ∧ r.IsPresentable ∧ ∀ commits log,
        (call .standard commits log ordering .plan).1 = .ok ⟨200, c.plan.toJson⟩ ∧
        (call .standard commits log ordering .payload).1 = .ok ⟨200, c.payload.toWire⟩ ∧
        ∃ response, (call .standard commits log ordering .compile).1 = .ok response := by
  have hroom : ordering.nesting ≤ bodyRoom := by decide
  obtain ⟨r, hread⟩ : ∃ r, readBody readGraphRequest ordering = .ok r := ⟨_, rfl⟩
  have hr : r.IsPresentable := by
    cases hread
    exact ⟨⟨by decide, by decide⟩, ⟨by decide, by decide⟩, by decide⟩
  obtain ⟨c, -, -, hexact⟩ := delivery_of_accepted .standard ordering r hroom hread
  refine ⟨r, c, hroom, hread, hr, fun commits log => ?_⟩
  obtain ⟨hplan, hpayload, hcompile⟩ := hexact hr commits log
  exact ⟨hplan, hpayload, _, hcompile⟩

/-- A body about one node with this detail, of which nothing else is missing. -/
def noting (key : String) (v : Json) : Json :=
  about "rds" [("region", .str "eu-west-1"), ("details", .obj [(key, v)])]

/-- Three bodies that are accepted: of the first an internal detail is missing from the plan, and
the others have details that leave their compilation without an answer. -/
theorem delivery_falls_short :
    ∃ curtailed endless deep : GraphRequest,
      readBody readGraphRequest (noting "_sa_note" (.num (.int 1))) = .ok curtailed ∧
      readBody readGraphRequest (noting "x" (.num (.float (.infinite false)))) = .ok endless ∧
      readBody readGraphRequest (noting "x" (buried 255)) = .ok deep ∧
      (call .standard true [] (noting "_sa_note" (.num (.int 1))) .plan).1 ≠
        .ok ⟨200, (Plan.buildFor curtailed.graph curtailed.provider).toJson⟩ ∧
      (call .standard true [] (noting "x" (.num (.float (.infinite false)))) .compile).1 =
        .error .notFinite ∧
      (call .standard true [] (noting "x" (buried 255)) .compile).1 =
        .error (.payload .tooDeep) := by
  refine ⟨_, _, _, rfl, rfl, rfl, ?_, ?_, ?_⟩ <;> decide +kernel

end CloudCanvas.Service
