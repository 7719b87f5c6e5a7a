import CloudCanvas.Proofs.Document.Grammar
import CloudCanvas.Proofs.Document.RoundTrip
import CloudCanvas.Proofs.Text.Split

/-!
The lines of an indented document. Texts and numbers are written without newlines, so a line begins
with the document itself, with blanks or with a closing bracket. Hence no line begins with a number
sign, whatever the texts contain.
-/

namespace CloudCanvas.Document

open Text (NeverBegins)

theorem head?_write_scalar (layout : Layout) (depth : Nat) {v : Json} (h : v.isScalar = true) :
    (write layout depth v).head? ≠ some '#' := by
  cases v with
  | null => rw [write]; decide
  | bool b => cases b <;> rw [write] <;> decide
  | num n =>
    obtain ⟨c, cs, htext, hc⟩ := exists_text_cons n
    rw [write, htext, List.head?_cons, ne_eq, Option.some.injEq]
    rintro rfl
    exact absurd hc (by decide)
  | str s => rw [write, stringText, List.head?_cons]; decide
  | arr items => cases h
  | obj fields => cases h

theorem neverBegins_write (depth : Nat) (v : Json) : NeverBegins '#' (write indented depth v) := by
  have hmark : ∀ c ∈ marks, '#' ∉ [c] := by simp [marks]
  have hkeeps : indented.Keeps (NeverBegins '#') := {
    append := NeverBegins.append
    gap := fun depth => .of_mark_notMem fun h => absurd (isGap_indented.gap depth _ h) (by decide)
    afterColon := .of_mark_notMem (by decide)
    mark := fun c hc => .of_mark_notMem (hmark c hc)
    scalar := fun depth v h =>
      .of_notMem (isPrintable_scalar indented depth h).newline_notMem
        (head?_write_scalar indented depth h) }
  exact hkeeps.write depth v

theorem head?_ne_of_mem_lines {v : Json} {line : List Char}
    (h : line ∈ Text.split (· == '\n') (v.render indented).toList) : line.head? ≠ some '#' := by
  rw [render, String.toList_ofList] at h
  exact (neverBegins_write 0 v).head?_ne_of_mem_split h

end CloudCanvas.Document
