import CloudCanvas.Document.Display
import Mathlib.Tactic.SplitIfs

/-!
The text of a number always shows something: a digit of a whole number, the point or the exponent
mark of a fractional one, or a word.
-/

namespace CloudCanvas

theorem Text.isBlank_of_isDigit {c : Char} (h : c.isDigit = true) : isBlank c = false := by
  rw [Char.isDigit, Bool.and_eq_true, decide_eq_true_eq, decide_eq_true_eq] at h
  have hlow : 48 ≤ c.toNat := h.1
  have hhigh : c.toNat ≤ 57 := h.2
  simp [isBlank]
  omega

theorem Text.isBlankText_ofList {cs : List Char} {c : Char} (hc : c ∈ cs)
    (h : isBlank c = false) : isBlankText (String.ofList cs) = false := by
  rw [isBlankText, String.toList_ofList, List.all_eq_false]
  exact ⟨c, hc, by rw [h]; exact Bool.false_ne_true⟩

theorem Decimal.exists_shown_mem_text (d : Decimal) : ∃ c ∈ d.text, Text.isBlank c = false := by
  unfold text
  simp only
  split_ifs with hplain hsmall hfraction
  · exact ⟨'0', by simp, by decide⟩
  · exact ⟨'.', by simp, by decide⟩
  · exact ⟨'.', by simp, by decide⟩
  · split
    · next hnil => exact absurd hnil Nat.toDigits_ne_nil
    · exact ⟨'e', by simp, by decide⟩
    · exact ⟨'e', by simp, by decide⟩

namespace Number

theorem exists_shown_mem_intText (n : Int) : ∃ c ∈ intText n, Text.isBlank c = false := by
  obtain ⟨c, hc⟩ := List.exists_mem_of_ne_nil _ (Nat.toDigits_ne_nil (n := n.natAbs) (b := 10))
  have hdigit : c.isDigit = true := Nat.isDigit_of_mem_toDigits (by decide) (by decide) hc
  exact ⟨c, List.mem_append_right _ hc, Text.isBlank_of_isDigit hdigit⟩

/-- A number shows something if the words for infinity and for no number do. -/
theorem exists_shown_mem_text {infinity noNumber : List Char}
    (hinfinity : ∃ c ∈ infinity, Text.isBlank c = false)
    (hnoNumber : ∃ c ∈ noNumber, Text.isBlank c = false) (n : Number) :
    ∃ c ∈ n.text infinity noNumber, Text.isBlank c = false := by
  cases n with
  | int n => exact exists_shown_mem_intText n
  | float x =>
    cases x with
    | finite negative m q h =>
      obtain ⟨c, hc, hshown⟩ := Decimal.exists_shown_mem_text (Shortest.decimal m q)
      exact ⟨c, List.mem_append_right _ hc, hshown⟩
    | infinite negative =>
      obtain ⟨c, hc, hshown⟩ := hinfinity
      exact ⟨c, List.mem_append_right _ hc, hshown⟩
    | nan => exact hnoNumber

theorem isBlankText_display (n : Number) :
    Text.isBlankText (Document.num n : Json).display = false := by
  have hshown : ∃ c ∈ Document.numberText n, Text.isBlank c = false :=
    exists_shown_mem_text ⟨'i', by simp, by decide⟩ ⟨'n', by simp, by decide⟩ n
  obtain ⟨c, hc, hc'⟩ := hshown
  exact Text.isBlankText_ofList hc hc'

end Number

end CloudCanvas
