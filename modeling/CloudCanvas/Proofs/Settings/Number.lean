import CloudCanvas.Proofs.Number.Numeral
import CloudCanvas.Proofs.Settings.Projection

/-!
The numeric reading of a value is in its plainest form, so reading it again gives it back. A number
is read as one of the same value, and is unreadable only if it is not finite. Of a text the blanks
around it do not count, and the text of a whole number is read as that number exactly, since it is
never taken for a fractional one and rounded.
-/

namespace CloudCanvas

namespace Number

theorem isFinite_of_toInt? {x : Binary64} {n : Int} (h : x.toInt? = some n) :
    x.isFinite = true := by
  cases x with
  | finite => rfl
  | infinite negative => cases h
  | nan => cases h

theorem plain?_eq_none_iff (a : Number) : a.plain? = none ↔ a.isFinite = false := by
  cases a with
  | int n => simp [plain?, isFinite]
  | float x =>
    rw [plain?, isFinite]
    cases hx : x.toInt? with
    | some n => simp [isFinite_of_toInt? hx]
    | none => simp

/-- The plainest form of a number has its value. -/
theorem value?_of_plain? {a n : Number} (h : a.plain? = some n) : n.value? = a.value? := by
  cases a with
  | int k =>
    cases h
    rfl
  | float x =>
    rw [plain?] at h
    cases hx : x.toInt? with
    | some k =>
      rw [hx] at h
      cases h
      exact (Binary64.toInt?_eq_some_iff.1 hx).symm
    | none =>
      rw [hx] at h
      obtain ⟨-, hn⟩ := Option.ite_none_right_eq_some.1 h
      cases hn
      rfl

end Number

namespace Settings

/-- What is read as a number is whole, or finite and of a value that no whole number has, and is
read again as itself. A number keeps its value and is read unless it is not finite; blanks around a
text never matter; and a whole number of at most 4300 digits is read from its text exactly. -/
theorem number?_normal :
    (∀ v n, number? v = some n → n.IsPlain ∧ number? (.num n) = some n) ∧
      (∀ a : Number, (number? (.num a) = none ↔ a.isFinite = false) ∧
        ∀ n, number? (.num a) = some n → n.value? = a.value?) ∧
      (∀ s t, Text.Repadded s t → number? (.str s) = number? (.str t)) ∧
      ∀ n : Int, (Nat.toDigits 10 n.natAbs).length ≤ 4300 →
        number? (.str (Document.ofInt n).display) = some (.int n) := by
  refine ⟨fun v n hn => ?_, fun a => ⟨Number.plain?_eq_none_iff a, fun n hn => ?_⟩,
    fun s t hst => ?_, fun n hn => ?_⟩
  · have hplain := isPlain_of_number? hn
    exact ⟨hplain, Number.plain?_of_isPlain hplain⟩
  · exact Number.value?_of_plain? hn
  · have hstrip : Text.strip s = Text.strip t := (Text.repadded_iff s t).1 hst
    rw [number?, number?, Number.ofText?, Number.ofText?, hstrip]
  · have hdisplay : (Document.ofInt n).display = String.ofList (Number.intText n) := rfl
    rw [number?, hdisplay, Number.ofText?_intText hn]

/-- Two and a half. -/
def fractional : Number :=
  .float (.finite false (5 * Nat.pow 2 50) (-51) (by decide))

/-- The whole number has no double precision form of its own. -/
theorem number?_normal_padded :
    number? (.str "\t+2.50 ") = some fractional ∧ fractional.IsPlain ∧
      number? (.num fractional) = some fractional ∧
      Text.Repadded "\t+2.50 " "+2.50" ∧ number? (.str "+2.50") = some fractional ∧
      (Nat.toDigits 10 (Int.natAbs (-9007199254740993))).length ≤ 4300 ∧
      number? (.str "-9007199254740993") = some (.int (-9007199254740993)) := by
  obtain ⟨hplain, -, hpadding, hwhole⟩ := number?_normal
  have hread : number? (.str "\t+2.50 ") = some fractional := by decide +kernel
  have hpadded : Text.Repadded "\t+2.50 " "+2.50" :=
    (Text.repadded_iff _ _).2 (by decide +kernel)
  have hlength : (Nat.toDigits 10 (Int.natAbs (-9007199254740993))).length ≤ 4300 := by decide
  have htext : (Document.ofInt (-9007199254740993)).display = "-9007199254740993" := by
    decide +kernel
  refine ⟨hread, (hplain _ _ hread).1, (hplain _ _ hread).2, hpadded, ?_, hlength, ?_⟩
  · rw [← hpadding _ _ hpadded, hread]
  · rw [← htext]
    exact hwhole _ hlength

end Settings

end CloudCanvas
