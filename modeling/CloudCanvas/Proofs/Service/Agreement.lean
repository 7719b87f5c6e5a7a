import CloudCanvas.Proofs.Canvas.Reader
import CloudCanvas.Proofs.Payload.CanonicalText
import CloudCanvas.Proofs.Payload.Writable
import CloudCanvas.Proofs.Plan.Region
import CloudCanvas.Proofs.Validation.Report
import CloudCanvas.Service.Handler

/-!
The endpoints agree. One body is judged by the endpoint for validation and by that for compilation
alike, and the plan and the payload of a compilation are those of their own endpoints. All that
stands in the way is a payload that cannot be written: it leaves a compilation without an answer,
even where the answer would only be that the graph has errors. The texts of a body consist of whole
characters: half of a surrogate pair is no character, and a text that has one is not considered.
-/

namespace CloudCanvas.Service

open Document (buried)
open Reading (Ensures andThen_eq_ok_iff map_eq_ok_iff)
open Validation (errorTableJson)

/-- A request to an endpoint by its own method and path. -/
def call (config : Configuration) (commits : Bool) (log : Log) (body : Json) (e : Endpoint) :
    Except Failure Response × Log :=
  step config commits log ⟨e.method, e.path, body⟩

theorem call_eq {body : Json} (h : body.nesting ≤ bodyRoom) (config : Configuration)
    (commits : Bool) (log : Log) (e : Endpoint) :
    call config commits log body e = endpointStep config commits log body e := by
  have hdeep : ¬ (e.readsBody = true ∧ bodyRoom < body.nesting) := fun hdeep => by omega
  have hmethod : e.method ∈ (Route.endpoint e).methods := List.mem_singleton_self e.method
  simp only [call, step, Route.ofPath?_path]
  rw [if_pos hmethod, if_neg hdeep]

section Reading

theorem readBody_eq_ok_iff {α : Type} {read : Json → Reading α} {body : Json} {a : α} :
    readBody read body = .ok a ↔ body.isNull = false ∧ read body = .ok a := by
  rw [readBody, Reading.inRequest_eq_ok_iff, Reading.under_eq_ok_iff]
  cases body <;> simp [Document.isNull, Reading.fail]

/-- What is needed to validate a graph is part of what is needed to compile it. -/
theorem readValidateRequest_of_graphRequest {body : Json} {r : GraphRequest}
    (h : readGraphRequest body = .ok r) : readValidateRequest body = .ok r.graph := by
  cases body with
  | obj fields =>
    simp only [readGraphRequest, Reading.record, andThen_eq_ok_iff, map_eq_ok_iff] at h
    obtain ⟨_, _, ⟨_, _, ⟨_, _, ⟨graph, hgraph, rfl⟩, -, rfl⟩, -, rfl⟩, -, rfl⟩ := h
    exact hgraph
  | _ => cases h

theorem holds_allFinite_of_body {body : Json} {r : GraphRequest}
    (h : readGraphRequest body = .ok r) (hfinite : body.allFinite = true) :
    r.graph.Holds fun v => v.allFinite = true := by
  have hvalidate := readValidateRequest_of_graphRequest h
  have hensures : Ensures (fun v => v.allFinite = true) readValidateRequest fun g =>
      g.Holds fun v => v.allFinite = true := by
    refine Ensures.record fun fields hfields g hg => ?_
    obtain ⟨hnodes, hedges⟩ := (Canvas.ensures_readGraph Document.hereditary_allFinite
      (fun _ h => Document.allFiniteFields_iff.1 h) (List.forall_mem_nil _)).field
        Document.hereditary_allFinite hfields hg
    exact ⟨hnodes, hedges⟩
  exact hensures body hfinite r.graph hvalidate

end Reading

section Calls

variable {body : Json} (hroom : body.nesting ≤ bodyRoom) (config : Configuration) (commits : Bool)
  (log : Log)
include hroom

theorem call_validate {g : Canvas.Graph} (h : readBody readValidateRequest body = .ok g) :
    call config commits log body .validate = (validateAnswer g, log) := by
  rw [call_eq hroom, endpointStep, h, answerWith]

variable {r : GraphRequest} (h : readBody readGraphRequest body = .ok r)
include h

theorem call_plan : call config commits log body .plan = (planAnswer r, log) := by
  rw [call_eq hroom, endpointStep, h, answerWith]

theorem call_payload :
    call config commits log body .payload = (payloadAnswer config r, log) := by
  rw [call_eq hroom, endpointStep, h, answerWith]

theorem call_compile :
    call config commits log body .compile = compileStep config commits log r := by
  rw [call_eq hroom, endpointStep, h]

end Calls

section Answers

theorem respond_of_allFinite {body : Json} (h : body.allFinite = true) (status : Nat) :
    respond status body = .ok ⟨status, body⟩ := by
  rw [respond, if_pos h]

theorem allFinite_texts {α : Type} (items : List α) (text : α → String) :
    Document.allFiniteItems (items.map fun a => (.str (text a) : Json)) = true := by
  refine Document.allFiniteItems_iff.2 fun v hv => ?_
  obtain ⟨_, -, rfl⟩ := List.mem_map.1 hv
  rfl

theorem allFinite_errorTableJson (table : Table (List String)) :
    (errorTableJson table).allFinite = true := by
  refine Document.allFiniteFields_iff.2 fun entry hentry => ?_
  obtain ⟨⟨_, messages⟩, -, rfl⟩ := List.mem_map.1 hentry
  exact allFinite_texts messages id

/-- What the endpoint for validation says about a graph. -/
def verdict (valid : Bool) (errors : Table (List String)) (warnings : List String) : Json :=
  .obj [("valid", .bool valid), ("errors", errorTableJson errors),
    ("warnings", .arr (warnings.map .str))]

theorem valid_eq_of_verdict_eq {valid valid' : Bool} {errors errors' : Table (List String)}
    {warnings warnings' : List String}
    (h : verdict valid errors warnings = verdict valid' errors' warnings') : valid = valid' := by
  have hfields := Document.obj.inj h
  exact Document.bool.inj (Prod.mk.inj (List.cons.inj hfields).1).2

theorem validateAnswer_eq (g : Canvas.Graph) :
    validateAnswer g = .ok ⟨200, verdict (Validation.validate g.nodes).isValid
      (Validation.validate g.nodes).errorsByNode
      ((Validation.validate g.nodes).warnings.map Validation.Issue.message)⟩ := by
  rw [verdict, List.map_map]
  refine respond_of_allFinite ?_ 200
  simp [Document.allFinite, Document.allFiniteFields, allFinite_errorTableJson, allFinite_texts]

/-- What the endpoint for compilation says when there is nothing against it. -/
def success (plan payload : Json) (prompt : String) : Json :=
  .obj [("status", .str "success"), ("plan", plan), ("payload", payload), ("prompt", .str prompt)]

/-- What it says when there is. -/
def rejection (errors : Table (List String)) : Json :=
  .obj [("status", .str "invalid"), ("message", .str (invalidMessage errors)),
    ("errors", errorTableJson errors)]

theorem published_success (plan payload : Json) (prompt : String) :
    published (success plan payload prompt) =
      success (published plan) (published payload) prompt := by
  simp +decide [success, published, publishedFields]

theorem planAnswer_eq {r : GraphRequest} (h : r.graph.Holds fun v => v.allFinite = true) :
    planAnswer r = .ok ⟨200, published (Plan.buildFor r.graph r.provider).toJson⟩ :=
  respond_of_allFinite
    (allFinite_published _ (Plan.allFinite_toJson (Plan.holds_buildFor (fun _ => rfl) h _))) 200

section Payload

variable (config : Configuration) (r : GraphRequest)

theorem compile_eq_compileRequest :
    Compilation.compile config r.graph (.str r.provider.name) r.project r.env false =
      .ok (compileRequest config r) := by
  have hprovider : Provider.choose (.str r.provider.name) = .ok r.provider := by
    cases r.provider <;> rfl
  exact Compilation.compile_reporting hprovider config r.graph r.project r.env

/-- The payload is that of the compilation. -/
theorem payloadAnswer_eq :
    payloadAnswer config r = match (compileRequest config r).payload.write with
      | .ok wire => publish wire
      | .error cause => .error (.payload cause) := rfl

theorem allFinite_payload : (compileRequest config r).payload.toWire.allFinite = true := by
  refine Payload.allFinite_toWire_of_edges fun e he => ?_
  obtain ⟨made, -, rfl⟩ := List.mem_map.1 he
  exact Payload.isFinite_of_mem_batchSize

theorem not_isWritable_of_detail {r : GraphRequest} {n : Canvas.Node} (hn : n ∈ r.graph.nodes)
    (hdetails : n.HasDistinctDetails)
    (hkind : Settings.schema? ((VisualType.planType n.visualType).kindFor r.provider) = none)
    {key : String} {v : Json} (hv : n.details.get? key = some v)
    (hhigh : Payload.heightLimit < v.height) :
    (compileRequest config r).payload.isWritable = false :=
  Payload.not_isWritable_buildFor config hn hdetails hkind hv hhigh r.project r.env

theorem compilationAnswer_eq (h : r.graph.Holds fun v => v.allFinite = true) :
    compilationAnswer (compileRequest config r) =
      .ok (if (Validation.validate r.graph.nodes).isValid then
        ⟨200, success (published (compileRequest config r).plan.toJson)
          (published (compileRequest config r).payload.toWire) (compileRequest config r).prompt⟩
      else ⟨422, rejection (Validation.validate r.graph.nodes).errorsByNode⟩) := by
  have hplan : (compileRequest config r).plan.toJson.allFinite = true :=
    Plan.allFinite_toJson (Plan.holds_buildFor (fun _ => rfl) h _)
  have hsuccess : (success (published (compileRequest config r).plan.toJson)
      (published (compileRequest config r).payload.toWire)
      (compileRequest config r).prompt).allFinite = true := by
    simp [success, Document.allFinite, Document.allFiniteFields, allFinite_published _ hplan,
      allFinite_published _ (allFinite_payload config r)]
  have hrejection (errors : Table (List String)) : (rejection errors).allFinite = true := by
    simp [rejection, Document.allFinite, Document.allFiniteFields, allFinite_errorTableJson]
  rw [Validation.isValid_validate]
  unfold compilationAnswer
  split
  · next hvalid =>
    have hempty : (Validation.validate r.graph.nodes).errorsByNode.isEmpty = true := hvalid
    rw [if_pos hempty, ← respond_of_allFinite hsuccess, ← published_success]
    rfl
  · next hinvalid =>
    have hsome : ¬ (Validation.validate r.graph.nodes).errorsByNode.isEmpty = true := hinvalid
    rw [if_neg hsome, ← respond_of_allFinite (hrejection _)]
    rfl

theorem answers_of_writable (h : (compileRequest config r).payload.isWritable = true)
    (commits : Bool) (log : Log) :
    payloadAnswer config r = .ok ⟨200, published (compileRequest config r).payload.toWire⟩ ∧
      (compileStep config commits log r).1 = compilationAnswer (compileRequest config r) := by
  have hwrite : (compileRequest config r).payload.write =
      .ok (compileRequest config r).payload.toWire := Payload.write_eq_ok_iff.2 ⟨h, rfl⟩
  constructor
  · rw [payloadAnswer_eq, hwrite]
    exact respond_of_allFinite (allFinite_published _ (allFinite_payload config r)) 200
  · simp only [compileStep, Payload.canonicalText_eq_ok_iff.2 ⟨h, rfl⟩]

/-- Neither endpoint has an answer, and nothing is recorded. -/
theorem answers_of_not_writable (h : (compileRequest config r).payload.isWritable = false)
    (commits : Bool) (log : Log) :
    payloadAnswer config r = .error (.payload .tooDeep) ∧
      compileStep config commits log r = (.error (.payload .tooDeep), log) := by
  have hwrite : (compileRequest config r).payload.write = .error .tooDeep :=
    Payload.write_eq_error_iff.2 h
  constructor
  · rw [payloadAnswer_eq, hwrite]
  · simp only [compileStep, Payload.canonicalText_eq_error_iff.2 hwrite]

end Payload

end Answers

/-- For a body of finite numbers, the endpoint for validation gives the verdict on its graph, as for
every other body with this graph. If the payload can be written, compilation goes by that verdict:
it answers with the plan and the payload of their own endpoints, or else with the same errors and a
message that counts them. If the payload cannot be written, which takes details nested too deep,
compilation has no answer under either verdict. All texts are of whole characters; with a lone
surrogate among them, a plan and a compilation without errors would have no answer either. -/
theorem endpoints_agree (config : Configuration) (body : Json) (r : GraphRequest)
    (hroom : body.nesting ≤ bodyRoom) (hread : readBody readGraphRequest body = .ok r)
    (hfinite : body.allFinite = true) :
    ∃ valid errors warnings plan, readBody readValidateRequest body = .ok r.graph ∧
      (∀ commits log other, other.nesting ≤ bodyRoom →
        readBody readValidateRequest other = .ok r.graph →
          call config commits log other .validate =
            (.ok ⟨200, verdict valid errors warnings⟩, log)) ∧
      (∀ commits log, call config commits log body .plan = (.ok ⟨200, plan⟩, log)) ∧
      ((compileRequest config r).payload.isWritable = true →
        ∃ payload prompt, ∀ commits log,
          call config commits log body .payload = (.ok ⟨200, payload⟩, log) ∧
          (call config commits log body .compile).1 =
            .ok (if valid then ⟨200, success plan payload prompt⟩ else ⟨422, rejection errors⟩)) ∧
      ((compileRequest config r).payload.isWritable = false →
        ∀ commits log, ∀ e ∈ [Endpoint.payload, .compile],
          call config commits log body e = (.error (.payload .tooDeep), log)) ∧
      ((∀ n ∈ r.graph.nodes, ∀ entry ∈ n.details, entry.2.height ≤ Payload.heightLimit) →
        (compileRequest config r).payload.isWritable = true) := by
  obtain ⟨hsome, hrequest⟩ := readBody_eq_ok_iff.1 hread
  have hnumbers := holds_allFinite_of_body hrequest hfinite
  refine ⟨(Validation.validate r.graph.nodes).isValid,
    (Validation.validate r.graph.nodes).errorsByNode,
    (Validation.validate r.graph.nodes).warnings.map Validation.Issue.message,
    published (Plan.buildFor r.graph r.provider).toJson,
    readBody_eq_ok_iff.2 ⟨hsome, readValidateRequest_of_graphRequest hrequest⟩,
    ?_, ?_, ?_, ?_, fun h => Payload.isWritable_buildFor config h r.provider r.project r.env⟩
  · intro commits log other hother hgraph
    rw [call_validate hother _ _ _ hgraph, validateAnswer_eq]
  · intro commits log
    rw [call_plan hroom _ _ _ hread, planAnswer_eq hnumbers]
  · intro hwritable
    refine ⟨published (compileRequest config r).payload.toWire, (compileRequest config r).prompt,
      fun commits log => ?_⟩
    obtain ⟨hpayload, hcompile⟩ := answers_of_writable config r hwritable commits log
    constructor
    · rw [call_payload hroom _ _ _ hread, hpayload]
    · rw [call_compile hroom _ _ _ hread, hcompile, compilationAnswer_eq config r hnumbers]
      rfl
  · intro hdeep commits log e he
    obtain ⟨hpayload, hcompile⟩ := answers_of_not_writable config r hdeep commits log
    simp only [List.mem_cons, List.not_mem_nil, or_false] at he
    rcases he with rfl | rfl
    · rw [call_payload hroom _ _ _ hread, hpayload]
    · rw [call_compile hroom _ _ _ hread, hcompile]

/-- The body of a request about one node, configured with these fields. -/
def about (visualType : String) (config : Table Json) : Json :=
  .obj [("graph", .obj [("nodes", .arr [.obj [("id", .str "a"), ("type", .str visualType),
    ("config", .obj config)]])])]

/-- A queue that is fully configured, and a body from which the provider is left out. -/
def ordering : Json :=
  about "sqs" [("region", .str "eu-west-1"), ("details", .obj [("queueName", .str "jobs")])]

theorem endpoints_agree_ordering :
    ∃ r plan payload prompt, ordering.nesting ≤ bodyRoom ∧
      readBody readGraphRequest ordering = .ok r ∧ ordering.allFinite = true ∧
      ∀ commits log, call .standard commits log ordering .plan = (.ok ⟨200, plan⟩, log) ∧
        call .standard commits log ordering .payload = (.ok ⟨200, payload⟩, log) ∧
        (call .standard commits log ordering .compile).1 =
          .ok ⟨200, success plan payload prompt⟩ := by
  have hroom : ordering.nesting ≤ bodyRoom := by decide
  have hfinite : ordering.allFinite = true := by decide
  obtain ⟨r, hread⟩ : ∃ r, readBody readGraphRequest ordering = .ok r := ⟨_, rfl⟩
  obtain ⟨valid, errors, warnings, plan, hgraph, hvalidate, hplan, hwritten, -, hlow⟩ :=
    endpoints_agree .standard ordering r hroom hread hfinite
  have hdetails : ∀ n ∈ r.graph.nodes, ∀ entry ∈ n.details,
      entry.2.height ≤ Payload.heightLimit := by
    cases hread
    decide
  have hvalid : valid = true := by
    have hverdict := hvalidate true [] ordering hroom hgraph
    rw [call_validate hroom _ _ _ hgraph, validateAnswer_eq] at hverdict
    have hanswer := Except.ok.inj (Prod.mk.inj hverdict).1
    rw [← valid_eq_of_verdict_eq (Response.mk.inj hanswer).2]
    cases hread
    decide
  obtain ⟨payload, prompt, hanswers⟩ := hwritten (hlow hdetails)
  subst hvalid
  exact ⟨r, plan, payload, prompt, hroom, hread, hfinite, fun commits log =>
    ⟨hplan commits log, (hanswers commits log).1, (hanswers commits log).2⟩⟩

theorem nesting_buried (n : Nat) : (buried n).nesting = n + 1 := by
  induction n with
  | zero => rfl
  | succ n ih => simp [buried, Document.nesting, Document.itemsNesting, ih]

theorem allFinite_buried (n : Nat) : (buried n).allFinite = true := by
  induction n with
  | zero => rfl
  | succ n ih => simp [buried, Document.allFinite, Document.allFiniteItems, ih]

/-- A node without a region, with one detail. -/
def unplaced (v : Json) : Canvas.Node :=
  ⟨"a", "rds", "", .origin, some ⟨"", "", .development, "", [("x", v)]⟩⟩

def placing (v : Json) : Json :=
  about "rds" [("details", .obj [("x", v)])]

def placed (v : Json) : GraphRequest :=
  ⟨⟨[unplaced v], []⟩, .aws, none, none⟩

theorem readBody_placing (v : Json) : readBody readGraphRequest (placing v) = .ok (placed v) := rfl

theorem validate_placing {v : Json} (h : (placing v).nesting ≤ bodyRoom)
    (config : Configuration) (commits : Bool) (log : Log) :
    ∃ errors warnings, (call config commits log (placing v) .validate).1 =
      .ok ⟨200, verdict false errors warnings⟩ := by
  obtain ⟨hsome, hrequest⟩ := readBody_eq_ok_iff.1 (readBody_placing v)
  have hread : readBody readValidateRequest (placing v) = .ok ⟨[unplaced v], []⟩ :=
    readBody_eq_ok_iff.2 ⟨hsome, readValidateRequest_of_graphRequest hrequest⟩
  have hinvalid : (Validation.validate [unplaced v]).isValid = false := by
    refine Bool.eq_false_iff.2 fun hvalid => ?_
    have herrors := (Validation.isValid_validate_iff _).1 hvalid _ (List.mem_singleton_self _)
    have hregion : Plan.ownRegion (unplaced v) = "" := rfl
    exact (Plan.liesIn_ownRegion_iff _).1 (Plan.exists_liesIn_of_nodeErrors herrors) hregion
  rw [call_validate h _ _ _ hread, validateAnswer_eq, hinvalid]
  exact ⟨_, _, rfl⟩

/-- No provider has settings for such a node, so it is deployed as it is. -/
theorem compile_placing {v : Json} (h : (placing v).nesting ≤ bodyRoom)
    (hhigh : Payload.heightLimit < v.height) (config : Configuration) (commits : Bool) (log : Log) :
    (call config commits log (placing v) .compile).1 = .error (.payload .tooDeep) := by
  have htype : VisualType.planType "rds" = .other := by decide +kernel
  have hkind : Settings.schema? ((VisualType.planType (unplaced v).visualType).kindFor .aws) =
      none := by
    rw [unplaced, htype]
    rfl
  have hdetails : (unplaced v).HasDistinctDetails := List.nodup_singleton "x"
  have hdetail : (unplaced v).details.get? "x" = some v := rfl
  have hdeep : (compileRequest config (placed v)).payload.isWritable = false :=
    not_isWritable_of_detail config (List.mem_singleton_self _) hdetails hkind hdetail hhigh
  rw [call_compile h _ _ _ (readBody_placing v), (answers_of_not_writable config _ hdeep _ _).2]

/-- The endpoint for validation finds the region missing, in a body that every endpoint reads; the
endpoint for compilation has no answer at all. -/
theorem compile_unanswered :
    ∃ body r errors warnings, body.nesting ≤ bodyRoom ∧
      readBody readGraphRequest body = .ok r ∧ body.allFinite = true ∧
      (call .standard true [] body .validate).1 = .ok ⟨200, verdict false errors warnings⟩ ∧
      (call .standard true [] body .compile).1 = .error (.payload .tooDeep) := by
  have hroom : (placing (buried 255)).nesting ≤ bodyRoom := by
    simp [placing, about, Document.nesting, Document.fieldsNesting, Document.itemsNesting,
      nesting_buried, bodyRoom]
  have hfinite : (placing (buried 255)).allFinite = true := by
    simp [placing, about, Document.allFinite, Document.allFiniteFields, Document.allFiniteItems,
      allFinite_buried]
  obtain ⟨errors, warnings, hvalidate⟩ := validate_placing hroom .standard true []
  exact ⟨placing (buried 255), placed (buried 255), errors, warnings, hroom,
    readBody_placing (buried 255), hfinite, hvalidate,
    compile_placing hroom Payload.heightLimit_lt_height_buried .standard true []⟩

end CloudCanvas.Service
