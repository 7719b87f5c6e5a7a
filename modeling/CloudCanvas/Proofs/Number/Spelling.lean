import CloudCanvas.Number.Basic
import CloudCanvas.Proofs.Number.Shortest

/-!
How decimals are spelled. The text of a decimal has a whole part with no zeros in front, and a
fraction or an exponent or both, so that it is never taken for a whole number. The spelling stands
for the decimal itself, or for one with zeros moved from the exponent to the digits; either way it
reads back as the same double precision number.
-/

namespace CloudCanvas

open Numeral (digitsValue)

def IsDigits (cs : List Char) : Prop :=
  ∀ c ∈ cs, c.isDigit = true

/-- At least one digit, and no zeros in front. -/
structure IsWhole (cs : List Char) : Prop where
  digits : IsDigits cs
  ne_nil : cs ≠ []
  plain : cs.head? = some '0' → cs.length = 1

/-- A whole part, the digits behind the point and an exponent. -/
structure Spelling where
  whole : List Char
  fraction : List Char
  exponent : Option Int
  isWhole : IsWhole whole
  isDigits : IsDigits fraction
  fractional : fraction = [] → exponent ≠ none

namespace Spelling

def pointText (fraction : List Char) : List Char :=
  if fraction = [] then [] else '.' :: fraction

def markText : Option Int → List Char
  | none => []
  | some e => 'e' :: Decimal.exponentText e

def text (s : Spelling) : List Char :=
  s.whole ++ (pointText s.fraction ++ markText s.exponent)

def value (s : Spelling) : Decimal :=
  ⟨digitsValue (s.whole ++ s.fraction), s.exponent.getD 0 - s.fraction.length⟩

end Spelling

theorem isDigits_toDigits (n : Nat) : IsDigits (Nat.toDigits 10 n) :=
  fun _ hc => Nat.isDigit_of_mem_toDigits (by decide) (by decide) hc

theorem isDigits_zeros (n : Int) : IsDigits (Decimal.zeros n) := by
  intro c hc
  rw [List.eq_of_mem_replicate hc]
  decide

theorem IsDigits.append {cs ds : List Char} (hcs : IsDigits cs) (hds : IsDigits ds) :
    IsDigits (cs ++ ds) :=
  List.forall_mem_append.2 ⟨hcs, hds⟩

theorem digitsValue_toDigits (n : Nat) : digitsValue (Nat.toDigits 10 n) = n :=
  Nat.ofDigitChars_ten_toDigits

theorem digitsValue_zeros_append (n : Int) (cs : List Char) :
    digitsValue (Decimal.zeros n ++ cs) = digitsValue cs := by
  have happend := Nat.ofDigitChars_append (b := 10) (l := Decimal.zeros n) (m := cs) 0
  rw [Decimal.zeros, Nat.ofDigitChars_replicate_zero, Nat.mul_zero] at happend
  exact happend

theorem digitsValue_append_zeros (cs : List Char) (n : Nat) :
    digitsValue (cs ++ List.replicate n '0') = digitsValue cs * 10 ^ n := by
  have happend := Nat.ofDigitChars_append (b := 10) (l := cs) (m := List.replicate n '0') 0
  rw [Nat.ofDigitChars_replicate_zero, Nat.mul_comm] at happend
  exact happend

/-- By strong induction: the first digit of a number is that of a tenth of it, down to the last. -/
theorem head?_toDigits {n : Nat} (hn : n ≠ 0) : (Nat.toDigits 10 n).head? ≠ some '0' := by
  induction n using Nat.strongRecOn with
  | ind n ih =>
    by_cases hlt : n < 10
    · have hdigit : ∀ d < 10, d ≠ 0 → [Nat.digitChar d].head? ≠ some '0' := by decide
      rw [Nat.toDigits_of_lt_base hlt]
      exact hdigit n hlt hn
    · have htenth : n / 10 ≠ 0 := by omega
      rw [Nat.toDigits_of_base_le (by decide) (by omega),
        List.head?_append_of_ne_nil _ Nat.toDigits_ne_nil]
      exact ih (n / 10) (by omega) htenth

theorem isWhole_toDigits (n : Nat) : IsWhole (Nat.toDigits 10 n) where
  digits := isDigits_toDigits n
  ne_nil := Nat.toDigits_ne_nil
  plain h := by
    by_cases hn : n = 0
    · subst hn
      rfl
    · exact absurd h (head?_toDigits hn)

theorem isWhole_singleton {c : Char} (h : c.isDigit = true) : IsWhole [c] where
  digits := by simpa [IsDigits] using h
  ne_nil := List.cons_ne_nil c []
  plain _ := rfl

/-- A number that is not zero has no zeros in front of its digits, so neither has a whole part that
starts as these digits do. -/
theorem isWhole_of_head? {n : Nat} (hn : n ≠ 0) {cs : List Char} (hdigits : IsDigits cs)
    (hhead : cs.head? = (Nat.toDigits 10 n).head?) : IsWhole cs where
  digits := hdigits
  ne_nil := by
    rintro rfl
    exact Nat.toDigits_ne_nil (List.head?_eq_none_iff.1 hhead.symm)
  plain hzero := absurd (hhead.symm.trans hzero) (head?_toDigits hn)

theorem Binary64.signed_natAbs (n : Int) : signed (decide (n < 0)) n.natAbs = n := by
  unfold signed
  by_cases hn : n < 0
  · rw [if_pos (by simpa using hn)]
    omega
  · rw [if_neg (by simpa using hn)]
    omega

namespace Decimal

open Spelling

theorem exists_exponentText (e : Int) :
    ∃ ds, exponentText e = (if e < 0 then '-' else '+') :: ds ∧ IsDigits ds ∧ ds ≠ [] ∧
      digitsValue ds = e.natAbs := by
  refine ⟨_, rfl, (isDigits_zeros _).append (isDigits_toDigits _),
    List.append_ne_nil_of_right_ne_nil _ Nat.toDigits_ne_nil, ?_⟩
  rw [digitsValue_zeros_append, digitsValue_toDigits]

/-- The spelling has the text of the decimal and reads back as the decimal does. -/
def SpelledBy (d : Decimal) (s : Spelling) : Prop :=
  s.text = d.text ∧ ∀ negative, s.value.round negative = d.round negative

theorem spelledBy_of_value_eq {d : Decimal} {s : Spelling} (htext : s.text = d.text)
    (hdigits : digitsValue (s.whole ++ s.fraction) = d.digits)
    (hexponent : s.exponent.getD 0 - s.fraction.length = d.exponent) : d.SpelledBy s := by
  have hvalue : s.value = d := by
    rw [value, hdigits, hexponent]
  exact ⟨htext, fun _ => by rw [hvalue]⟩

section Cases

variable {d : Decimal} {ds : List Char} {e : Int}

/-- Below one all digits stand in the fraction. -/
theorem exists_spelling_small (hds : Nat.toDigits 10 d.digits = ds)
    (he : d.exponent + ds.length - 1 = e) (hneg : e < 0)
    (htext : d.text = '0' :: '.' :: (zeros (-e - 1) ++ ds)) : ∃ s, d.SpelledBy s := by
  have hdigits : IsDigits ds := hds ▸ isDigits_toDigits d.digits
  have hne : ds ≠ [] := hds ▸ Nat.toDigits_ne_nil
  have hfraction : zeros (-e - 1) ++ ds ≠ [] := List.append_ne_nil_of_right_ne_nil _ hne
  refine ⟨⟨['0'], zeros (-e - 1) ++ ds, none, isWhole_singleton rfl,
    (isDigits_zeros _).append hdigits, fun h => absurd h hfraction⟩, spelledBy_of_value_eq ?_ ?_ ?_⟩
  · rw [htext, Spelling.text, pointText, if_neg hfraction, markText, List.append_nil]
    rfl
  · have hzeros : digitsValue (zeros 1 ++ (zeros (-e - 1) ++ ds)) = digitsValue ds := by
      rw [digitsValue_zeros_append, digitsValue_zeros_append]
    rw [← digitsValue_toDigits d.digits, hds]
    exact hzeros
  · simp only [List.length_append, zeros, List.length_replicate, Option.getD_none]
    omega

/-- The point falls between two digits. -/
theorem exists_spelling_point (hds : Nat.toDigits 10 d.digits = ds)
    (he : d.exponent + ds.length - 1 = e) (hpos : 0 ≤ e) (hexponent : d.exponent < 0)
    (hzero : d.digits = 0 → d.exponent = 0)
    (htext : d.text = ds.take (e + 1).toNat ++ '.' :: ds.drop (e + 1).toNat) :
    ∃ s, d.SpelledBy s := by
  have hdigits : IsDigits ds := hds ▸ isDigits_toDigits d.digits
  have hn : d.digits ≠ 0 := fun h => by
    have := hzero h
    omega
  have hfraction : ds.drop (e + 1).toNat ≠ [] := by
    rw [ne_eq, List.drop_eq_nil_iff]
    omega
  have hwhole : IsWhole (ds.take (e + 1).toNat) := by
    refine isWhole_of_head? hn (fun c hc => hdigits c (List.mem_of_mem_take hc)) ?_
    rw [List.head?_take, if_neg (by omega), hds]
  refine ⟨⟨ds.take (e + 1).toNat, ds.drop (e + 1).toNat, none, hwhole,
    fun c hc => hdigits c (List.mem_of_mem_drop hc), fun h => absurd h hfraction⟩,
    spelledBy_of_value_eq ?_ ?_ ?_⟩
  · rw [htext, Spelling.text, pointText, if_neg hfraction, markText, List.append_nil]
  · rw [List.take_append_drop, ← hds, digitsValue_toDigits]
  · simp only [List.length_drop, Option.getD_none]
    omega

/-- A number of ten or more that is whole is spelled with one zero behind the point. -/
theorem exists_spelling_zero (hds : Nat.toDigits 10 d.digits = ds) (hlow : 0 ≤ d.exponent)
    (hhigh : d.exponent ≤ 400) (hzero : d.digits = 0 → d.exponent = 0)
    (htext : d.text = ds ++ zeros d.exponent ++ ['.', '0']) : ∃ s, d.SpelledBy s := by
  have hdigits : IsDigits ds := hds ▸ isDigits_toDigits d.digits
  have hne : ds ≠ [] := hds ▸ Nat.toDigits_ne_nil
  have hwhole : IsWhole (ds ++ zeros d.exponent) := by
    by_cases hn : d.digits = 0
    · have hzeros : zeros d.exponent = [] := by
        rw [hzero hn]
        rfl
      rw [hzeros, List.append_nil, ← hds]
      exact isWhole_toDigits d.digits
    · refine isWhole_of_head? hn (hdigits.append (isDigits_zeros _)) ?_
      rw [List.head?_append_of_ne_nil _ hne, hds]
  refine ⟨⟨ds ++ zeros d.exponent, ['0'], none, hwhole, isDigits_zeros 1, nofun⟩, ?_, ?_⟩
  · rw [htext, Spelling.text, pointText, if_neg (List.cons_ne_nil _ _), markText, List.append_nil]
  · intro negative
    have hvalue : digitsValue (ds ++ zeros d.exponent ++ ['0']) =
        d.digits * 10 ^ (d.exponent.toNat + 1) := by
      have happend := digitsValue_append_zeros ds (d.exponent.toNat + 1)
      rw [← hds, digitsValue_toDigits, List.replicate_succ', hds, ← List.append_assoc] at happend
      exact happend
    have hround := round_shift negative d.digits hlow hhigh
    rw [value]
    dsimp only
    rw [hvalue]
    exact hround

/-- Very great and very small numbers are spelled with one digit before the point. -/
theorem exists_spelling_mark {first : Char} {rest : List Char}
    (hds : Nat.toDigits 10 d.digits = first :: rest) (he : d.exponent + rest.length = e)
    (htext : d.text = first :: (pointText rest ++ 'e' :: exponentText e)) :
    ∃ s, d.SpelledBy s := by
  have hdigits : IsDigits (first :: rest) := hds ▸ isDigits_toDigits d.digits
  obtain ⟨hfirst, hrest⟩ := List.forall_mem_cons.1 hdigits
  refine ⟨⟨[first], rest, some e, isWhole_singleton hfirst, hrest, fun _ => nofun⟩,
    spelledBy_of_value_eq htext.symm ?_ ?_⟩
  · rw [List.singleton_append, ← hds, digitsValue_toDigits]
  · simp only [Option.getD_some]
    omega

end Cases

/-- Every decimal is spelled in a way that reads back, zero in its plainest form. -/
theorem exists_spelling {d : Decimal} (hzero : d.digits = 0 → d.exponent = 0) :
    ∃ s, d.SpelledBy s := by
  have htext : d.text = d.text := rfl
  conv at htext => rhs; unfold text
  dsimp only at htext
  generalize hds : Nat.toDigits 10 d.digits = ds at htext
  generalize he : d.exponent + ds.length - 1 = e at htext
  split_ifs at htext with hplain hsmall hfraction
  · exact exists_spelling_small hds he hsmall htext
  · exact exists_spelling_point hds he (by omega) hfraction hzero htext
  · have hpos : 0 < ds.length := List.length_pos_of_ne_nil (hds ▸ Nat.toDigits_ne_nil)
    exact exists_spelling_zero hds (by omega) (by omega) hzero htext
  · cases ds with
    | nil => exact absurd hds Nat.toDigits_ne_nil
    | cons first rest =>
      have he' : d.exponent + rest.length = e := by
        rw [List.length_cons] at he
        omega
      refine exists_spelling_mark hds he' ?_
      cases rest with
      | nil => exact htext
      | cons second rest => exact htext

end Decimal

/-- Whatever the sign, a double precision number reads back from its spelling. -/
theorem Shortest.exists_spelling {m : Nat} {q : Int} (hm : IsCanonical m q) :
    ∃ s : Spelling, s.text = (decimal m q).text ∧
      ∀ negative, s.value.round negative = .finite negative m q hm := by
  obtain ⟨s, htext, hround⟩ := Decimal.exists_spelling (exponent_decimal_of_zero hm)
  exact ⟨s, htext, fun negative => (hround negative).trans (round_decimal negative hm)⟩

end CloudCanvas
