import CloudCanvas.Proofs.Number.Spelling
import CloudCanvas.Proofs.Number.Text
import CloudCanvas.Proofs.Text.Blank

/-!
Whole numbers and their text. The text of a whole number is its digits with a minus sign in front
of them where there is one, so it tells the number, and a text that is read as a numeral gives the
number back: nothing in it is padding, stands for another digit, or separates digits. Only a number
of too many digits is not read from its text.
-/

namespace CloudCanvas

namespace Number

theorem mem_intText {n : Int} {c : Char} (h : c ∈ intText n) : c = '-' ∨ c.isDigit = true := by
  rw [intText] at h
  rcases List.mem_append.1 h with hsign | hdigits
  · split at hsign
    · exact .inl (List.mem_singleton.1 hsign)
    · cases hsign
  · exact .inr (isDigits_toDigits n.natAbs c hdigits)

theorem isBlank_of_mem_intText {n : Int} {c : Char} (h : c ∈ intText n) :
    Text.isBlank c = false := by
  rcases mem_intText h with rfl | hdigit
  · decide
  · exact Text.isBlank_of_isDigit hdigit

end Number

namespace Numeral

open Text (dropEnds isPadding)

theorem splitSign_of_isDigits {ds : List Char} (h : IsDigits ds) : splitSign ds = (false, ds) := by
  unfold splitSign
  split
  · exact absurd (h '-' List.mem_cons_self) (by decide)
  · exact absurd (h '+' List.mem_cons_self) (by decide)
  · rfl

theorem splitSign_intText (n : Int) :
    splitSign (Number.intText n) = (decide (n < 0), Nat.toDigits 10 n.natAbs) := by
  rw [Number.intText]
  by_cases hn : n < 0
  · simp [hn, splitSign]
  · simp [hn, splitSign_of_isDigits (isDigits_toDigits n.natAbs)]

theorem intText_injective : Function.Injective Number.intText := by
  intro m n h
  have hsplit := congrArg splitSign h
  rw [splitSign_intText, splitSign_intText, Prod.mk.injEq] at hsplit
  obtain ⟨hsign, hdigits⟩ := hsplit
  have hsize : m.natAbs = n.natAbs := by
    rw [← digitsValue_toDigits m.natAbs, hdigits, digitsValue_toDigits]
  rw [← Binary64.signed_natAbs m, hsign, hsize, Binary64.signed_natAbs]

theorem plainDigit_of_lt {c : Char} (h : c.toNat < 128) : plainDigit c = c := by
  have hall : ∀ n < 128, plainDigit (Char.ofNat n) = Char.ofNat n := by decide
  simpa using hall c.toNat h

theorem joinGroups_of_notMem {cs : List Char} (h : '_' ∉ cs) (afterDigit : Bool) :
    joinGroups afterDigit cs = some cs := by
  induction cs generalizing afterDigit with
  | nil => rfl
  | cons c rest ih =>
    obtain ⟨hc, hrest⟩ := List.ne_and_not_mem_of_not_mem_cons h
    rw [joinGroups, if_neg (Ne.symm hc), ih hrest, Option.map_some]

theorem plainChars?_intText (n : Int) :
    plainChars? (String.ofList (Number.intText n)) = some (Number.intText n) := by
  have hpadding : ∀ c ∈ Number.intText n, isPadding c = false := by
    intro c hc
    rw [isPadding, Number.isBlank_of_mem_intText hc, Bool.false_and]
  have hplain : ∀ c ∈ Number.intText n, plainDigit c = c := by
    intro c hc
    rcases Number.mem_intText hc with rfl | hdigit
    · decide
    · rw [Char.isDigit, Bool.and_eq_true, decide_eq_true_eq, decide_eq_true_eq] at hdigit
      have hlast : c.toNat ≤ 57 := hdigit.2
      exact plainDigit_of_lt (by omega)
  have hgroups : '_' ∉ Number.intText n := by
    intro hmem
    rcases Number.mem_intText hmem with hsign | hdigit
    · exact absurd hsign (by decide)
    · exact absurd hdigit (by decide)
  rw [plainChars?, String.toList_ofList, Text.dropEnds_of_keep hpadding, List.map_congr_left hplain,
    List.map_id', joinGroups_of_notMem hgroups]

theorem whole?_intText {n : Int} (h : (Nat.toDigits 10 n.natAbs).length ≤ 4300) :
    whole? (String.ofList (Number.intText n)) = some n := by
  have hdigits : Nat.toDigits 10 n.natAbs ≠ [] ∧ (Nat.toDigits 10 n.natAbs).all Char.isDigit ∧
      (Nat.toDigits 10 n.natAbs).length ≤ maxWholeDigits :=
    ⟨Nat.toDigits_ne_nil, List.all_eq_true.2 (isDigits_toDigits n.natAbs), h⟩
  rw [whole?, plainChars?_intText, Option.bind_eq_bind, Option.bind_some, wholeOfChars?,
    splitSign_intText]
  dsimp only
  rw [if_pos hdigits, digitsValue_toDigits, Binary64.signed_natAbs]

end Numeral

namespace Number

/-- A whole number is read from its text exactly, however long it is up to the limit. -/
theorem ofText?_intText {n : Int} (h : (Nat.toDigits 10 n.natAbs).length ≤ 4300) :
    ofText? (String.ofList (intText n)) = some (.int n) := by
  have hblank : ∀ c ∈ (String.ofList (intText n)).toList, Text.isBlank c = false := by
    intro c hc
    rw [String.toList_ofList] at hc
    exact isBlank_of_mem_intText hc
  rw [ofText?, Text.strip_of_not_blank hblank, Numeral.whole?_intText h]

end Number

end CloudCanvas
