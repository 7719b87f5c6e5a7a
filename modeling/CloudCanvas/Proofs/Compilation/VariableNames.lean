import CloudCanvas.Proofs.Compilation.Validated
import CloudCanvas.Proofs.Plan.VariableTable

/-!
The values of variables in a validated compilation. Validation asks for the names of buckets and
queues, so their variables have texts that are not blank, and so has every variable whose node goes
by the name it is called. The name of a function is not asked for: if nothing but blanks was
entered there, though something, these blanks are the value.
-/

namespace CloudCanvas

open Canvas (Graph)
open Validation (nodeErrors requiredFields)

theorem Naming.IsSettled.not_blankText {name : String} (h : Naming.IsSettled name) :
    Text.isBlankText name = false := by
  rw [← Text.strip_ne_empty_iff, Text.strip_of_not_blank h.not_blank]
  exact h.ne_empty

/-- Validation asks for what names a bucket or a queue. -/
theorem PlanType.exists_kind_of_naming? {t : PlanType} {word field : String}
    (h : t.naming? = some (word, field)) (ht : t ≠ .lambda) :
    ∃ kind, t.native? = some kind ∧ field ∈ requiredFields kind := by
  cases t with
  | lambda => exact absurd rfl ht
  | s3 | gcs | sqs =>
    cases h
    exact ⟨_, rfl, List.mem_cons_self⟩
  | _ => cases h

namespace Canvas.Node

/-- The node is a function, and a text of nothing but blanks was entered as its name. -/
def IsBlanklyNamed (n : Node) : Prop :=
  VisualType.planType n.visualType = .lambda ∧
    ∃ s, n.detail "functionName" = .str s ∧ s ≠ "" ∧ Text.isBlankText s = true

variable {n : Node} {word field key name value : String}

theorem enters_of_nodeErrors (herrors : nodeErrors n = []) (hkey : n.HasVariable word field key)
    (htype : VisualType.planType n.visualType ≠ .lambda) : ∃ s, n.Enters field s := by
  obtain ⟨kind, hkind, hfield⟩ := PlanType.exists_kind_of_naming? hkey.type htype
  exact Validation.enters_of_kindProblems (Validation.kindProblems_of_nodeErrors herrors hkind)
    hfield

/-- What a validated node goes by is blank only if it is a function that is blankly named. -/
theorem GoesBy.isBlankText_iff (h : n.GoesBy field name value) (herrors : nodeErrors n = [])
    (hkey : n.HasVariable word field key) (hname : Naming.IsSettled name) :
    Text.isBlankText value = true ↔ n.IsBlanklyNamed := by
  by_cases htype : VisualType.planType n.visualType = .lambda
  · have hnaming := hkey.type
    rw [htype] at hnaming
    cases hnaming
    cases h with
    | entered hs hne =>
      constructor
      · intro hblank
        exact ⟨htype, _, hs, hne, hblank⟩
      · rintro ⟨-, t, ht, -, hblank⟩
        rwa [Document.str.inj (hs.symm.trans ht)]
    | called hnone =>
      rw [hname.not_blankText]
      refine iff_of_false Bool.false_ne_true ?_
      rintro ⟨-, t, ht, hne, -⟩
      exact hne (hnone t ht)
  · have hnot : ¬ n.IsBlanklyNamed := fun hblank => htype hblank.1
    obtain ⟨s, hs, hblank⟩ := enters_of_nodeErrors herrors hkey htype
    have hvalue : value = s := h.unique (.entered hs (Text.ne_empty_of_not_blank hblank))
    rw [hvalue, hblank]
    exact iff_of_false Bool.false_ne_true hnot

theorem GoesBy.ne_empty (h : n.GoesBy field name value) (hname : Naming.IsSettled name) :
    value ≠ "" := by
  cases h with
  | entered _ hne => exact hne
  | called _ => exact hname.ne_empty

end Canvas.Node

namespace Compilation

/-- Every variable has a value. It is blank just when the last node with that variable is a
function for whose name nothing but blanks was entered. -/
theorem variables_of_compile (config : Configuration) (g : Graph) (provider : Json)
    (project env : Option String) (c : Compilation) (hg : g.HasDistinctDetails)
    (hc : compile config g provider project env true = .ok c) :
    ∀ entry ∈ c.plan.variableTable, entry.2 ≠ "" ∧
      ∃ before n after, g.nodes = before ++ n :: after ∧
        (∃ word field, n.HasVariable word field entry.1) ∧
        (∀ m ∈ after, ∀ word field, ¬ m.HasVariable word field entry.1) ∧
        (Text.isBlankText entry.2 = true ↔ n.IsBlanklyNamed) := by
  obtain ⟨p, -, hvalid, rfl⟩ := compile_eq_ok_iff.1 hc
  rintro ⟨key, value⟩ hentry
  have htable : (ofGraph config g p project env).plan.variableTable =
      Plan.variablesOf (g.nodes.mapIdx Plan.nodeIn) := Plan.variableTable_buildIn _ g 0
  rw [htable] at hentry
  have hget := Table.get?_of_mem (Table.nodup_keys_ofList _) hentry
  obtain ⟨before, n, after, word, field, hnodes, hkey, hvalue, hafter⟩ :=
    (Plan.get?_variablesOf_iff hg key value).1 hget
  have hname := Plan.isSettled_nameIn before.length n
  have hn : n ∈ g.nodes := by simp [hnodes]
  exact ⟨hvalue.ne_empty hname, before, n, after, hnodes, ⟨word, field, hkey⟩, hafter,
    hvalue.isBlankText_iff (hvalid n hn) hkey hname⟩

/-- A function and a queue, each with that text among its details. -/
def entering (functionName queueName : String) : Graph where
  nodes := [settled "f" "Lambda" [("runtime", .str "go1.x"), ("handler", .str "main"),
      ("functionName", .str functionName)],
    settled "q" "SQS" [("queueName", .str queueName)]]
  edges := []

theorem variables_of_compile_entering :
    (entering "\u2003" " jobs").HasDistinctDetails ∧
      ∃ c, compile .standard (entering "\u2003" " jobs") .null none none true = .ok c ∧
        c.plan.variableTable = [("lambda_f_name", "\u2003"), ("queue_q_name", " jobs")] ∧
        ∃ n ∈ (entering "\u2003" " jobs").nodes, n.IsBlanklyNamed := by
  have hg : (entering "\u2003" " jobs").HasDistinctDetails := by decide
  have hc : compile .standard (entering "\u2003" " jobs") .null none none true =
      .ok (ofGraph .standard (entering "\u2003" " jobs") .aws none none) :=
    compile_eq_ok_iff.2 ⟨.aws, rfl, by decide, rfl⟩
  have htable : (ofGraph .standard (entering "\u2003" " jobs") .aws none none).plan.variableTable =
      [("lambda_f_name", "\u2003"), ("queue_q_name", " jobs")] := by decide +kernel
  obtain ⟨-, before, n, after, hnodes, -, -, hblank⟩ :=
    variables_of_compile .standard _ .null none none _ hg hc ("lambda_f_name", "\u2003")
      (by simp [htable])
  exact ⟨hg, _, hc, htable, n, by simp [hnodes], hblank.1 (by decide)⟩

/-- Blanks are the value of a variable. -/
theorem variable_blank :
    ∃ c, compile .standard (entering " " "jobs") (.str "aws") none none true = .ok c ∧
      ("lambda_f_name", " ") ∈ c.plan.variableTable ∧ Text.isBlankText " " = true := by
  have hc : compile .standard (entering " " "jobs") (.str "aws") none none true =
      .ok (ofGraph .standard (entering " " "jobs") .aws none none) :=
    compile_eq_ok_iff.2 ⟨.aws, rfl, by decide, rfl⟩
  exact ⟨_, hc, by decide +kernel, by decide⟩

end Compilation

end CloudCanvas
