import CloudCanvas.Text.Blank
import Mathlib.Data.List.DropRight
import Mathlib.Data.List.Infix

/-!
Texts that stripping and hyphenation leave alone. What is stripped has no blank at either end, so
stripping it again changes nothing. Two texts are stripped to the same one just when they differ in
the blanks around it and in nothing else. A text without any blank is changed by neither. A text
that is not empty never becomes empty by hyphenation, because a run of blanks leaves a hyphen.
-/

namespace CloudCanvas.Text

theorem dropEnds_eq_rdropWhile (drop : Char → Bool) (cs : List Char) :
    dropEnds drop cs = (cs.dropWhile drop).rdropWhile drop := rfl

/-- What is dropped at the back does not bring anything to the front that has to be dropped. -/
theorem dropWhile_rdropWhile {drop : Char → Bool} {cs : List Char} (h : cs.dropWhile drop = cs) :
    (cs.rdropWhile drop).dropWhile drop = cs.rdropWhile drop := by
  rw [List.dropWhile_eq_self_iff] at h ⊢
  intro hlength
  have hinitial : cs.rdropWhile drop <+: cs := List.rdropWhile_prefix drop cs
  rw [hinitial.getElem hlength]
  exact h (Nat.lt_of_lt_of_le hlength hinitial.length_le)

theorem dropEnds_dropEnds (drop : Char → Bool) (cs : List Char) :
    dropEnds drop (dropEnds drop cs) = dropEnds drop cs := by
  have hfront : (dropEnds drop cs).dropWhile drop = dropEnds drop cs := by
    rw [dropEnds_eq_rdropWhile]
    exact dropWhile_rdropWhile (List.dropWhile_idempotent drop cs)
  rw [dropEnds_eq_rdropWhile drop (dropEnds drop cs), hfront, dropEnds_eq_rdropWhile,
    List.rdropWhile_idempotent]

/-- What stands around a text and has to be dropped makes no difference. -/
theorem dropEnds_append_append {drop : Char → Bool} {before after : List Char} (cs : List Char)
    (hbefore : ∀ c ∈ before, drop c) (hafter : ∀ c ∈ after, drop c) :
    dropEnds drop (before ++ cs ++ after) = dropEnds drop cs := by
  have hfront : (before ++ cs ++ after).dropWhile drop = (cs ++ after).dropWhile drop := by
    rw [List.append_assoc, List.dropWhile_append_of_pos hbefore]
  by_cases hcs : ∀ c ∈ cs, drop c
  · have hall : ∀ c ∈ before ++ cs ++ after, drop c := by
      simp only [List.mem_append]
      rintro c ((hc | hc) | hc)
      · exact hbefore c hc
      · exact hcs c hc
      · exact hafter c hc
    rw [(dropEnds_eq_nil_iff drop _).2 hall, (dropEnds_eq_nil_iff drop cs).2 hcs]
  · have hne : ¬ (cs.dropWhile drop).isEmpty = true := by
      rwa [List.isEmpty_iff, List.dropWhile_eq_nil_iff]
    have hback : (cs.dropWhile drop ++ after).reverse.dropWhile drop =
        (cs.dropWhile drop).reverse.dropWhile drop := by
      rw [List.reverse_append, List.dropWhile_append_of_pos (by simpa using hafter)]
    rw [dropEnds, hfront, List.dropWhile_append, if_neg hne, hback, dropEnds]

theorem strip_strip (s : String) : strip (strip s) = strip s := by
  rw [strip, strip, String.toList_ofList, stripChars, stripChars, dropEnds_dropEnds]

/-- The texts are one text with blanks put around it, or taken away from around it. -/
def Repadded (s t : String) : Prop :=
  ∃ core before after before' after', s.toList = before ++ core ++ after ∧
    t.toList = before' ++ core ++ after' ∧ (∀ c ∈ before, isBlank c) ∧ (∀ c ∈ after, isBlank c) ∧
    (∀ c ∈ before', isBlank c) ∧ ∀ c ∈ after', isBlank c

theorem repadded_iff (s t : String) : Repadded s t ↔ strip s = strip t := by
  constructor
  · rintro ⟨core, before, after, before', after', hs, ht, hbefore, hafter, hbefore', hafter'⟩
    rw [strip, strip, stripChars, stripChars, hs, ht, dropEnds_append_append core hbefore hafter,
      dropEnds_append_append core hbefore' hafter']
  · intro h
    have hcore : dropEnds isBlank s.toList = dropEnds isBlank t.toList := by
      simpa [strip, stripChars] using congrArg String.toList h
    obtain ⟨before, after, hs, hbefore, hafter⟩ := exists_append_dropEnds isBlank s.toList
    obtain ⟨before', after', ht, hbefore', hafter'⟩ := exists_append_dropEnds isBlank t.toList
    rw [← hcore] at ht
    exact ⟨_, before, after, before', after', hs, ht, hbefore, hafter, hbefore', hafter'⟩

theorem not_drop_of_getLast?_dropEnds {drop : Char → Bool} {cs : List Char} {c : Char}
    (h : c ∈ (dropEnds drop cs).getLast?) : drop c = false := by
  obtain ⟨hne, rfl⟩ := List.mem_getLast?_eq_getLast h
  exact Bool.eq_false_iff.2 (List.rdropWhile_last_not drop (cs.dropWhile drop) hne)

theorem strip_ne_append_newline (s t : String) : strip s ≠ t ++ "\n" := by
  intro h
  have hlast : '\n' ∈ (dropEnds isBlank s.toList).getLast? := by
    rw [← stripChars, ← String.toList_ofList (l := stripChars s.toList), ← strip, h]
    simp
  exact absurd (not_drop_of_getLast?_dropEnds hlast) (by decide)

/-- A text in which nothing is left to strip, and something is left. -/
structure IsTrim (s : String) : Prop where
  strip_eq : strip s = s
  ne_empty : s ≠ ""

theorem strip_ne_empty_iff {s : String} : strip s ≠ "" ↔ isBlankText s = false := by
  rw [ne_eq, ← isBlankText_iff_strip_eq, Bool.not_eq_true]

theorem isTrim_strip {s : String} (h : isBlankText s = false) : IsTrim (strip s) :=
  ⟨strip_strip s, strip_ne_empty_iff.2 h⟩

theorem dropEnds_of_keep {drop : Char → Bool} {cs : List Char} (h : ∀ c ∈ cs, drop c = false) :
    dropEnds drop cs = cs := by
  have hmiddle := dropEnds_append (List.forall_mem_nil _) h (List.forall_mem_nil _)
  rwa [List.nil_append, List.append_nil] at hmiddle

theorem strip_of_not_blank {s : String} (h : ∀ c ∈ s.toList, isBlank c = false) : strip s = s := by
  rw [strip, stripChars, dropEnds_of_keep h, String.ofList_toList]

theorem hyphenate_of_not_blank {s : String} (h : ∀ c ∈ s.toList, isBlank c = false) :
    hyphenate s = s := by
  rw [hyphenate, hyphenateFrom_of_not_blank h, String.ofList_toList]

theorem not_blank_of_mem_hyphenate {s : String} {c : Char} (h : c ∈ (hyphenate s).toList) :
    isBlank c = false := by
  rw [hyphenate, String.toList_ofList] at h
  exact not_blank_of_mem_hyphenateFrom h

theorem hyphenateFrom_ne_nil {cs : List Char} (h : cs ≠ []) : hyphenateFrom false cs ≠ [] := by
  obtain ⟨c, rest, rfl⟩ := List.exists_cons_of_ne_nil h
  rw [hyphenateFrom]
  by_cases hblank : isBlank c = true
  · rw [if_pos hblank, if_neg Bool.false_ne_true]
    exact List.cons_ne_nil _ _
  · rw [if_neg hblank]
    exact List.cons_ne_nil _ _

theorem mem_hyphenateFrom {inRun : Bool} {cs : List Char} {c : Char}
    (h : c ∈ hyphenateFrom inRun cs) : c ∈ cs ∨ c = '-' := by
  induction cs generalizing inRun with
  | nil => cases h
  | cons d rest ih =>
    have hlater : c ∈ rest ∨ c = '-' → c ∈ d :: rest ∨ c = '-' := by
      intro hc
      exact hc.imp_left (List.mem_cons_of_mem d)
    rw [hyphenateFrom] at h
    split at h
    · split at h
      · exact hlater (ih h)
      · rcases List.mem_cons.1 h with rfl | h
        · exact .inr rfl
        · exact hlater (ih h)
    · rcases List.mem_cons.1 h with rfl | h
      · exact .inl List.mem_cons_self
      · exact hlater (ih h)

end CloudCanvas.Text
