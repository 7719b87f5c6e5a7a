import CloudCanvas.Plan.Prompt
import CloudCanvas.Proofs.Document.Lines

/-!
Prompts give their plans away. Between the three lines in front and the two lines at the end stands
the document of the plan and nothing else, and it is read back as it was, with its fields in their
order. None of its lines looks like a heading of the prompt, whatever the user has entered.
-/

namespace CloudCanvas.Plan

open Document (indented ofText? ofTextUpTo? wholeDigits)

/-- The lines of a prompt but for the first three and the last two. -/
def planLines (prompt : String) : List (List Char) :=
  ((Text.split (· == '\n') prompt.toList).drop 3).dropLast.dropLast

/-- These lines joined again. -/
def planText (prompt : String) : String :=
  String.ofList (['\n'].intercalate (planLines prompt))

theorem newline_notMem_promptHead (p : Provider) :
    ∀ line ∈ (promptHead p).map String.toList, '\n' ∉ line := by
  cases p <;> decide

theorem newline_notMem_promptTail : ∀ line ∈ promptTail.map String.toList, '\n' ∉ line := by
  decide

theorem split_promptText (document : Json) (p : Provider) :
    Text.split (· == '\n') (promptText document p).toList = (promptHead p).map String.toList ++
      (Text.split (· == '\n') (document.render indented).toList ++
        promptTail.map String.toList) := by
  rw [promptText, String.toList_intercalate]
  change Text.split (· == '\n') (['\n'].intercalate _) = _
  rw [Text.split_intercalate '\n' (by simp), List.map_append, List.map_cons, List.flatMap_append,
    List.flatMap_cons, Text.flatMap_split_of_notMem (newline_notMem_promptHead p),
    Text.flatMap_split_of_notMem newline_notMem_promptTail]

theorem planLines_promptText (document : Json) (p : Provider) :
    planLines (promptText document p) =
      Text.split (· == '\n') (document.render indented).toList := by
  have hhead : ((promptHead p).map String.toList).length = 3 := rfl
  have htail : promptTail.map String.toList = [] :: [(promptTail.getLast (by decide)).toList] := rfl
  rw [planLines, split_promptText, List.drop_left' hhead, htail, List.append_cons,
    List.dropLast_concat, List.dropLast_concat]

theorem planText_promptText (document : Json) (p : Provider) :
    planText (promptText document p) = document.render indented := by
  rw [planText, planLines_promptText, Text.intercalate_split, String.ofList_toList]

/-- What stands between the headings of a prompt is read back as the document of the plan, by every
reader for which whole numbers may be as long as those of the plan, and none of its lines begins
like a heading. So plans whose documents differ never have one prompt. -/
theorem prompt_gives_plan (plan : Plan) (provider : Json) (p : Provider)
    (hp : Provider.choose provider = .ok p) (hplan : plan.toJson.WellFormed) :
    ∃ prompt, plan.prompt provider = .ok prompt ∧
      (∀ most, plan.toJson.wholeDigits ≤ most →
        ofTextUpTo? most (planText prompt) = some plan.toJson) ∧
      (plan.toJson.wholeDigits ≤ Numeral.maxWholeDigits →
        ofText? (planText prompt) = some plan.toJson) ∧
      (∀ line ∈ planLines prompt, line.head? ≠ some '#') ∧
      ∀ other : Plan, other.toJson.WellFormed →
        (other.prompt provider = .ok prompt ↔ other.toJson = plan.toJson) := by
  have hprompt (plan : Plan) : plan.prompt provider = .ok (promptText plan.toJson p) := by
    rw [prompt, hp]
    rfl
  refine ⟨promptText plan.toJson p, hprompt plan, ?_, ?_, ?_, ?_⟩
  · intro most hmost
    rw [planText_promptText]
    exact Document.ofTextUpTo?_render Document.isGap_indented hplan hmost
  · intro hdigits
    rw [planText_promptText]
    exact Document.ofText?_render Document.isGap_indented hplan hdigits
  · intro line hline
    rw [planLines_promptText] at hline
    exact Document.head?_ne_of_mem_lines hline
  · intro other hother
    rw [hprompt, ← Document.render_eq_iff Document.isGap_indented hother hplan]
    constructor
    · intro hsame
      rw [← planText_promptText other.toJson p, Except.ok.inj hsame, planText_promptText]
    · intro hsame
      rw [promptText, promptText, hsame]

/-- A plan whose texts look like headings and like the end of a document, and whose numbers are
not finite. -/
def barbed : Plan where
  region := "\n### Architecture Plan (JSON)"
  variableTable := [("# a\n", "\"\x7d\n\n### (b)"), ("", "\\")]
  nodes := [⟨"\n#", .gcs, "#", [("\n", .arr []), ("x", .arr [.num (.float .nan), .obj [],
    .num (.float (.infinite true)), .num (.int (-7)), .str "é\u2028😀"])]⟩]
  edges := []

theorem prompt_gives_plan_barbed :
    Provider.choose .null = .ok .aws ∧ barbed.toJson.WellFormed ∧
      ∃ prompt, barbed.prompt .null = .ok prompt ∧
        ofText? (planText prompt) = some barbed.toJson ∧
        ∀ line ∈ planLines prompt, line.head? ≠ some '#' := by
  have hp : Provider.choose .null = .ok .aws := rfl
  have hplan : barbed.toJson.WellFormed := by
    simp [barbed, toJson, Node.toJson, Document.WellFormed, Document.WellFormedFields,
      Document.WellFormedItems]
  obtain ⟨prompt, hprompt, -, hread, hlines, -⟩ := prompt_gives_plan barbed .null .aws hp hplan
  exact ⟨hp, hplan, prompt, hprompt, hread (by decide), hlines⟩

end CloudCanvas.Plan
