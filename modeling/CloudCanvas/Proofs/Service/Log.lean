import CloudCanvas.Proofs.Canvas.Spelling
import CloudCanvas.Proofs.Service.Agreement

/-!
The log of a run. A request leads to a row exactly when it asks for a compilation, its body is
accepted, and the row is committed; the rows stand in the order of the requests. The answers depend
on the requests alone, so nothing of the log or of the database shows in them.
-/

namespace CloudCanvas.Service

/-- The compilation that a request asks for, when its body is accepted. -/
def Request.compiles? (r : Request) : Option GraphRequest :=
  if r.method = "POST" ∧ Route.ofPath? r.path = some (.endpoint .compile) ∧
      r.body.nesting ≤ bodyRoom then
    (readBody readGraphRequest r.body).value?
  else
    none

/-- The compilation of a call whose row is committed. The row holds the text of the payload, so for
a payload that cannot be written there is nothing to commit. -/
def committed? (config : Configuration) (call : Request × Bool) : Option GraphRequest :=
  call.1.compiles?.filter fun q => call.2 && (compileRequest config q).payload.isWritable

/-- A row about the compilation of a graph. -/
structure Records (config : Configuration) (q : GraphRequest) (row : LogRow) : Prop where
  provider : row.provider = q.provider
  compiled : ∃ c, Compilation.compile config q.graph (.str q.provider.name) q.project q.env false =
    .ok c ∧ row.region = c.payload.region ∧ c.payload.canonicalText = .ok row.payload
  nodeCount : row.nodeCount = q.graph.nodes.length
  edgeCount : row.edgeCount = q.graph.attachedEdges.length
  valid : row.valid = (Validation.validate q.graph.nodes).isValid

theorem records_logRow {config : Configuration} {q : GraphRequest} {text : String}
    (h : (compileRequest config q).payload.canonicalText = .ok text) (id : Nat) :
    Records config q (logRow id q (compileRequest config q) text) where
  provider := rfl
  compiled := ⟨_, compile_eq_compileRequest config q, rfl, h⟩
  nodeCount := by
    have hids := (Payload.ids_buildFor config (Plan.buildFor q.graph q.provider) q.provider
      q.project q.env).trans (Plan.ids_buildFor q.graph q.provider)
    have hlength := congrArg List.length hids
    rwa [Canvas.Graph.ids, List.length_map, List.length_map] at hlength
  edgeCount := by
    have hends := (Payload.ends_buildFor config (Plan.buildFor q.graph q.provider) q.provider
      q.project q.env).trans (Plan.ends_buildFor q.graph q.provider)
    have hlength := congrArg List.length hends
    rwa [List.length_map, List.length_map] at hlength
  valid := (Validation.isValid_validate q.graph.nodes).symm

theorem compiles?_eq_some_iff {r : Request} {q : GraphRequest} :
    r.compiles? = some q ↔ r.method = "POST" ∧ Route.ofPath? r.path = some (.endpoint .compile) ∧
      r.body.nesting ≤ bodyRoom ∧ readBody readGraphRequest r.body = .ok q := by
  rw [Request.compiles?, Option.ite_none_right_eq_some, Reading.value?_eq_some_iff]
  simp only [and_assoc]

theorem committed?_of_compiles {r : Request} {q : GraphRequest} (h : r.compiles? = some q)
    (config : Configuration) (commits : Bool) :
    committed? config (r, commits) =
      if commits && (compileRequest config q).payload.isWritable then some q else none := by
  rw [committed?, h, Option.filter_some]

theorem isWritable_of_committed {config : Configuration} {call : Request × Bool} {q : GraphRequest}
    (h : committed? config call = some q) : (compileRequest config q).payload.isWritable = true :=
  (Bool.and_eq_true_iff.1 (Option.filter_eq_some_iff.1 h).2).2

theorem step_of_compiles {r : Request} {q : GraphRequest} (h : r.compiles? = some q)
    (config : Configuration) (commits : Bool) (log : Log) :
    step config commits log r = compileStep config commits log q := by
  obtain ⟨hmethod, hpath, hroom, hread⟩ := compiles?_eq_some_iff.1 h
  have hmem : r.method ∈ (Route.endpoint .compile).methods := List.mem_singleton.2 hmethod
  have hdeep : ¬ (Endpoint.compile.readsBody = true ∧ bodyRoom < r.body.nesting) :=
    fun hdeep => by omega
  simp only [step, hpath, if_pos hmem, if_neg hdeep, endpointStep, hread]

/-- Any other request leaves no row, and nothing but the request counts for its answer. -/
theorem step_of_not_compiles {r : Request} (h : r.compiles? = none) (config : Configuration)
    (commits : Bool) (log : Log) :
    step config commits log r = ((step config false [] r).1, log) := by
  unfold step
  split
  · rfl
  · next route hpath =>
    split_ifs with hmethod
    · split
      · next e =>
        split_ifs with hdeep
        · rfl
        · cases e with
          | compile =>
            have hroom : r.body.nesting ≤ bodyRoom := not_lt.1 fun hlt => hdeep ⟨rfl, hlt⟩
            cases hread : readBody readGraphRequest r.body with
            | ok q =>
              have hsome :=
                compiles?_eq_some_iff.2 ⟨List.mem_singleton.1 hmethod, hpath, hroom, hread⟩
              rw [h] at hsome
              cases hsome
            | faulty issues => simp only [endpointStep, hread]
          | _ => rfl
      · rfl
    · rfl

/-- The answer to a request, which the service would also give if it had recorded nothing before
and could not record anything now. -/
def answer (config : Configuration) (r : Request) : Except Failure Response :=
  (step config false [] r).1

/-- The row about a compilation that is committed, behind a log. -/
def row (config : Configuration) (log : Log) (q : GraphRequest) : LogRow :=
  logRow (log.length + 1) q (compileRequest config q)
    (compileRequest config q).payload.toWire.canonical

theorem records_row {config : Configuration} {q : GraphRequest}
    (h : (compileRequest config q).payload.isWritable = true) (log : Log) :
    Records config q (row config log q) :=
  records_logRow (Payload.canonicalText_eq_ok_iff.2 ⟨h, rfl⟩) _

theorem compileStep_eq (config : Configuration) (commits : Bool) (log : Log) (q : GraphRequest) :
    compileStep config commits log q = ((compileStep config false [] q).1,
      if commits && (compileRequest config q).payload.isWritable then log ++ [row config log q]
      else log) := by
  cases hwritable : (compileRequest config q).payload.isWritable with
  | true =>
    have htext := Payload.canonicalText_eq_ok_iff.2 ⟨hwritable, rfl⟩
    simp only [compileStep, htext, Bool.and_true]
    rfl
  | false =>
    rw [(answers_of_not_writable config q hwritable commits log).2,
      (answers_of_not_writable config q hwritable false []).2, Bool.and_false]
    rfl

theorem step_eq (config : Configuration) (log : Log) (call : Request × Bool) :
    step config call.2 log call.1 = (answer config call.1,
      log ++ ((committed? config call).map (row config log)).toList) := by
  obtain ⟨r, commits⟩ := call
  rw [answer]
  cases hr : r.compiles? with
  | none =>
    rw [step_of_not_compiles hr, committed?, hr]
    exact congrArg _ (List.append_nil log).symm
  | some q =>
    rw [step_of_compiles hr, step_of_compiles hr, compileStep_eq, committed?_of_compiles hr]
    split_ifs
    · rfl
    · exact congrArg _ (List.append_nil log).symm

theorem run_cons (config : Configuration) (log : Log) (call : Request × Bool)
    (rest : List (Request × Bool)) :
    run config log (call :: rest) =
      (answer config call.1 :: (run config
        (log ++ ((committed? config call).map (row config log)).toList) rest).1,
      (run config (log ++ ((committed? config call).map (row config log)).toList) rest).2) := by
  obtain ⟨r, commits⟩ := call
  rw [run, step_eq config log (r, commits)]

theorem answers_run (config : Configuration) (log : Log) (calls : List (Request × Bool)) :
    (run config log calls).1 = calls.map (answer config ·.1) := by
  induction calls generalizing log with
  | nil => rfl
  | cons call rest ih => rw [run_cons, List.map_cons, ih]

/-- By induction on the calls: the log that each of them finds holds the rows of those before. -/
theorem log_run (config : Configuration) (log : Log) (calls : List (Request × Bool)) :
    ∃ rows, (run config log calls).2 = log ++ rows ∧
      List.Forall₂ (Records config) (calls.filterMap (committed? config)) rows ∧
      rows.map (·.id) = List.range' (log.length + 1) rows.length := by
  induction calls generalizing log with
  | nil => exact ⟨[], (List.append_nil log).symm, .nil, rfl⟩
  | cons call rest ih =>
    rw [run_cons, List.filterMap_cons]
    cases hcall : committed? config call with
    | none => simpa only [Option.map_none, Option.toList_none, List.append_nil] using ih log
    | some q =>
      obtain ⟨rows, hlog, hrecords, hids⟩ := ih (log ++ [row config log q])
      have hrow : Records config q (row config log q) :=
        records_row (isWritable_of_committed hcall) log
      refine ⟨row config log q :: rows, ?_, .cons hrow hrecords, ?_⟩
      · rw [Option.map_some, Option.toList_some, hlog, List.append_assoc, List.singleton_append]
      · rw [List.map_cons, hids, List.length_append, List.length_singleton, List.length_cons,
          List.range'_succ]
        rfl

/-- The log grows by one row for each compilation that is committed, in the order of the requests.
The answers are fixed by the requests. A compilation that is accepted and yet never committed, since
its payload cannot be written, has no answer, and takes details nested too deep. -/
theorem log_of_run (config : Configuration) :
    ∃ answer : Request → Except Failure Response,
      (∀ log calls, (run config log calls).1 = calls.map (answer ·.1) ∧
        ∃ rows, (run config log calls).2 = log ++ rows ∧
          List.Forall₂ (Records config) (calls.filterMap (committed? config)) rows ∧
          rows.map (·.id) = List.range' (log.length + 1) rows.length) ∧
      ∀ r, ∀ q ∈ r.compiles?, committed? config (r, true) = some q ∨
        answer r = .error (.payload .tooDeep) ∧
          ∃ n ∈ q.graph.nodes, ∃ entry ∈ n.details, Payload.heightLimit < entry.2.height := by
  refine ⟨answer config, fun log calls => ⟨answers_run config log calls, log_run config log calls⟩,
    fun r q hq => ?_⟩
  have hr : r.compiles? = some q := hq
  cases hwritable : (compileRequest config q).payload.isWritable with
  | true => exact .inl (by rw [committed?_of_compiles hr, hwritable]; rfl)
  | false =>
    refine .inr ⟨?_, ?_⟩
    · rw [answer, step_of_compiles hr, (answers_of_not_writable config q hwritable false []).2]
    · by_contra! hlow
      rw [compileRequest, Compilation.ofGraph,
        Payload.isWritable_buildFor config hlow q.provider q.project q.env] at hwritable
      cases hwritable

end CloudCanvas.Service
