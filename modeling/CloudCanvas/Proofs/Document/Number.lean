import CloudCanvas.Document.Printer
import CloudCanvas.Document.Reader
import CloudCanvas.Proofs.Number.Spelling

/-!
Numbers written in documents are read back. What follows a number must not go on with it; then the
reader stops where the writer did. A fraction or an exponent tells a fractional number from a whole
one, so neither is ever read as the other.
-/

namespace CloudCanvas.Document

open Numeral (digitsValue splitSign startsWithDigit)
open Spelling (pointText markText)

/-- Nothing follows that would go on with a number. -/
def EndsNumber (rest : List Char) : Prop :=
  ∀ c ∈ rest.head?, c.isDigit = false ∧ c ≠ '.' ∧ c ≠ 'e' ∧ c ≠ 'E'

def EndsDigits (rest : List Char) : Prop :=
  ∀ c ∈ rest.head?, c.isDigit = false

theorem EndsNumber.endsDigits {rest : List Char} (h : EndsNumber rest) : EndsDigits rest :=
  fun c hc => (h c hc).1

section Digits

variable {ds rest : List Char} (hds : IsDigits ds) (hrest : EndsDigits rest)
include hds hrest

theorem takeWhile_digits : (ds ++ rest).takeWhile Char.isDigit = ds := by
  rw [List.takeWhile_append_of_pos hds]
  cases rest with
  | nil => simp
  | cons c rest =>
    have hc : c.isDigit = false := hrest c rfl
    rw [List.takeWhile_cons_of_neg (by simp [hc]), List.append_nil]

theorem dropWhile_digits : (ds ++ rest).dropWhile Char.isDigit = rest := by
  rw [List.dropWhile_append_of_pos hds]
  cases rest with
  | nil => rfl
  | cons c rest =>
    have hc : c.isDigit = false := hrest c rfl
    rw [List.dropWhile_cons_of_neg (by simp [hc])]

end Digits

theorem splitPoint_of_endsNumber {rest : List Char} (h : ∀ c ∈ rest.head?, c ≠ '.') :
    splitPoint rest = ([], rest) := by
  cases rest with
  | nil => rfl
  | cons c rest =>
    have hc : c ≠ '.' := h c rfl
    rw [splitPoint]
    rintro c' rest' heq
    exact hc (List.cons.inj heq).1

/-- The digits of a fraction are split off, whether there are any or not. -/
theorem splitPoint_pointText {fraction rest : List Char} (hfraction : IsDigits fraction)
    (hdigits : EndsDigits rest) (hpoint : ∀ c ∈ rest.head?, c ≠ '.') :
    splitPoint (pointText fraction ++ rest) = (fraction, rest) := by
  cases fraction with
  | nil => exact splitPoint_of_endsNumber hpoint
  | cons c more =>
    obtain ⟨hc, hmore⟩ := List.forall_mem_cons.1 hfraction
    rw [pointText, if_neg (List.cons_ne_nil c more), List.cons_append, List.cons_append,
      splitPoint, if_pos hc, takeWhile_digits hmore hdigits, dropWhile_digits hmore hdigits]

theorem splitExponent_of_endsNumber {rest : List Char} (h : EndsNumber rest) :
    splitExponent rest = none := by
  cases rest with
  | nil => rfl
  | cons c rest =>
    obtain ⟨-, -, he, hE⟩ := h c rfl
    simp [splitExponent, he, hE]

theorem startsWithDigit_append {ds rest : List Char} (hne : ds ≠ []) (hds : IsDigits ds) :
    startsWithDigit (ds ++ rest) = true := by
  cases ds with
  | nil => exact absurd rfl hne
  | cons c more => exact hds c List.mem_cons_self

theorem startsWithDigit_toDigits (n : Nat) : startsWithDigit (Nat.toDigits 10 n) = true := by
  rw [← List.append_nil (Nat.toDigits 10 n)]
  exact startsWithDigit_append Nat.toDigits_ne_nil (isDigits_toDigits n)

theorem splitExponent_exponentText (e : Int) {rest : List Char} (h : EndsDigits rest) :
    splitExponent ('e' :: (Decimal.exponentText e ++ rest)) = some (e, rest) := by
  obtain ⟨ds, htext, hds, hne, hvalue⟩ := Decimal.exists_exponentText e
  have hsign : splitSign (Decimal.exponentText e ++ rest) = (decide (e < 0), ds ++ rest) := by
    rw [htext]
    by_cases he : e < 0
    · simp [he, splitSign]
    · simp [he, splitSign]
  rw [splitExponent, hsign]
  simp only
  rw [if_pos ⟨.inl trivial, startsWithDigit_append hne hds⟩, takeWhile_digits hds h,
    dropWhile_digits hds h, hvalue, Binary64.signed_natAbs]

/-- What a mark and its exponent begin with, or else what follows, ends digits and fractions. -/
theorem head?_markText (exponent : Option Int) {rest : List Char} (h : EndsNumber rest) :
    ∀ c ∈ (markText exponent ++ rest).head?, c.isDigit = false ∧ c ≠ '.' := by
  cases exponent with
  | none => exact fun c hc => ⟨(h c hc).1, (h c hc).2.1⟩
  | some e =>
    intro c hc
    cases hc
    decide

theorem head?_pointText (fraction : List Char) {rest : List Char} (h : EndsDigits rest) :
    EndsDigits (pointText fraction ++ rest) := by
  unfold pointText
  split_ifs
  · exact h
  · intro c hc
    cases hc
    rfl

/-- A spelling is read as the fractional number it stands for. -/
theorem unsigned?_text (most : Nat) (negative : Bool) (s : Spelling) {rest : List Char}
    (h : EndsNumber rest) :
    unsigned? most negative (s.text ++ rest) = some (.float (s.value.round negative), rest) := by
  obtain ⟨whole, fraction, exponent, hwhole, hfraction, hfractional⟩ := s
  have hmark := head?_markText exponent h
  have hafter : EndsDigits (markText exponent ++ rest) := fun c hc => (hmark c hc).1
  have hpoint := head?_pointText fraction hafter
  have hplain : ¬ (whole = [] ∨ whole.head? = some '0' ∧ whole.length ≠ 1) := by
    rintro (hnil | ⟨hzero, hone⟩)
    · exact hwhole.ne_nil hnil
    · exact hone (hwhole.plain hzero)
  simp only [Spelling.text, Spelling.value, unsigned?, List.append_assoc,
    takeWhile_digits hwhole.digits hpoint, dropWhile_digits hwhole.digits hpoint,
    splitPoint_pointText hfraction hafter fun c hc => (hmark c hc).2, if_neg hplain]
  cases exponent with
  | none =>
    have hne : fraction ≠ [] := fun hnil => hfractional hnil rfl
    simp only [markText, List.nil_append, splitExponent_of_endsNumber h, if_pos hne,
      Option.getD_none, zero_sub]
  | some e =>
    simp only [markText, List.cons_append, splitExponent_exponentText e h.endsDigits,
      Option.getD_some]

/-- Digits alone are read as a whole number. -/
theorem unsigned?_digits {most : Nat} (negative : Bool) {ds rest : List Char} (hds : IsWhole ds)
    (hmost : ds.length ≤ most) (h : EndsNumber rest) :
    unsigned? most negative (ds ++ rest) =
      some (.int (Binary64.signed negative (digitsValue ds)), rest) := by
  have hplain : ¬ (ds = [] ∨ ds.head? = some '0' ∧ ds.length ≠ 1) := by
    rintro (hnil | ⟨hzero, hone⟩)
    · exact hds.ne_nil hnil
    · exact hone (hds.plain hzero)
  simp only [unsigned?, takeWhile_digits hds.digits h.endsDigits,
    dropWhile_digits hds.digits h.endsDigits, splitPoint_of_endsNumber fun c hc => (h c hc).2.1,
    if_neg hplain, splitExponent_of_endsNumber h, ne_eq, not_true_eq_false, if_false, if_pos hmost]

/-- The number of digits of a whole number. -/
def numberDigits : Number → Nat
  | .int n => (Nat.toDigits 10 n.natAbs).length
  | .float _ => 0

variable {τ : Type} [Text.Textual τ] {most : Nat}

theorem readScalar?_of_notMem {c : Char} {cs : List Char} (h : c ∉ ['n', 't', 'f', '"']) :
    readScalar? (τ := τ) most (c :: cs) =
      ((readSpecial (c :: cs)).or (readNumber most (c :: cs))).map
        fun (n, rest) => (.num n, rest) := by
  unfold readScalar?
  split <;> simp_all

/-- A word is told from digits by its first letter. -/
theorem readSpecial_of_digit (negative : Bool) {c : Char} (hc : c.isDigit = true)
    (cs : List Char) : readSpecial ((if negative then ['-'] else []) ++ c :: cs) = none := by
  have hne {d : Char} (hd : d.isDigit = false) : c ≠ d := by
    rintro rfl
    exact absurd (hc.symm.trans hd) (by decide)
  have hN : c ≠ 'N' := hne (by decide)
  have hI : c ≠ 'I' := hne (by decide)
  have hminus : c ≠ '-' := hne (by decide)
  cases negative <;> simp [readSpecial, hN, hI, hminus]

theorem readNumber_of_digit (most : Nat) (negative : Bool) {c : Char} (hc : c.isDigit = true)
    (cs : List Char) : readNumber most ((if negative then ['-'] else []) ++ c :: cs) =
      unsigned? most negative (c :: cs) := by
  have hminus : c ≠ '-' := by
    rintro rfl
    exact absurd hc (by decide)
  cases negative <;> simp [readNumber, hminus]

/-- After a sign, and without one, a digit begins a number and nothing else. -/
theorem readScalar?_signed (negative : Bool) {body rest : List Char} {n : Number}
    (hbody : startsWithDigit body = true)
    (h : unsigned? most negative (body ++ rest) = some (n, rest)) :
    readScalar? most ((if negative then ['-'] else []) ++ body ++ rest) =
      some ((.num n : Document τ), rest) := by
  cases body with
  | nil => cases hbody
  | cons c more =>
    have hc : c.isDigit = true := hbody
    have hfirst : c ∉ ['n', 't', 'f', '"'] := by
      intro hmem
      have hletters : ∀ d ∈ ['n', 't', 'f', '"'], d.isDigit = false := by simp
      exact absurd (hc.symm.trans (hletters c hmem)) (by decide)
    have hspecial := readSpecial_of_digit negative hc (more ++ rest)
    have hnumber := readNumber_of_digit most negative hc (more ++ rest)
    rw [List.cons_append] at h
    rw [List.append_assoc, List.cons_append]
    cases negative with
    | true =>
      rw [if_pos rfl, List.singleton_append] at hspecial hnumber ⊢
      rw [readScalar?_of_notMem (by decide), hspecial, hnumber, h]
      rfl
    | false =>
      rw [if_neg Bool.false_ne_true, List.nil_append] at hspecial hnumber ⊢
      rw [readScalar?_of_notMem hfirst, hspecial, hnumber, h]
      rfl

theorem readScalar?_int (n : Int) {rest : List Char} (hmost : numberDigits (.int n) ≤ most)
    (h : EndsNumber rest) :
    readScalar? most (Number.intText n ++ rest) = some ((.num (.int n) : Document τ), rest) := by
  have hread := unsigned?_digits (decide (n < 0)) (isWhole_toDigits n.natAbs) hmost h
  rw [digitsValue_toDigits, Binary64.signed_natAbs] at hread
  have hscalar := readScalar?_signed (τ := τ) (decide (n < 0)) (startsWithDigit_toDigits _) hread
  simpa only [Number.intText, decide_eq_true_eq] using hscalar

theorem readScalar?_finite (negative : Bool) {m : Nat} {q : Int} (hm : IsCanonical m q)
    {rest : List Char} (h : EndsNumber rest) :
    readScalar? most ((if negative then ['-'] else []) ++ (Shortest.decimal m q).text ++ rest) =
      some ((.num (.float (.finite negative m q hm)) : Document τ), rest) := by
  obtain ⟨s, htext, hround⟩ := Shortest.exists_spelling hm
  have hread := unsigned?_text most negative s h
  rw [hround] at hread
  have hstarts : startsWithDigit s.text = true :=
    startsWithDigit_append s.isWhole.ne_nil s.isWhole.digits
  rw [← htext]
  exact readScalar?_signed negative hstarts hread

/-- What stands behind the sign of a finite number. -/
inductive IsUnsigned : List Char → Prop
  | whole {ds : List Char} (h : IsWhole ds) : IsUnsigned ds
  | fractional (s : Spelling) : IsUnsigned s.text

theorem IsUnsigned.startsWithDigit {body : List Char} (h : IsUnsigned body) :
    startsWithDigit body = true := by
  cases h with
  | whole h =>
    rw [← List.append_nil body]
    exact startsWithDigit_append h.ne_nil h.digits
  | fractional s => exact startsWithDigit_append s.isWhole.ne_nil s.isWhole.digits

theorem exists_unsigned {n : Number} (h : n.isFinite = true) (infinity noNumber : List Char) :
    ∃ negative body, IsUnsigned body ∧
      n.text infinity noNumber = (if negative = true then ['-'] else []) ++ body := by
  cases n with
  | int n =>
    refine ⟨decide (n < 0), _, .whole (isWhole_toDigits n.natAbs), ?_⟩
    simp only [decide_eq_true_eq]
    rfl
  | float x =>
    cases x with
    | finite negative m q hm =>
      obtain ⟨s, htext, -⟩ := Shortest.exists_spelling hm
      refine ⟨negative, _, .fractional s, ?_⟩
      rw [Number.text, Binary64.text, htext]
    | infinite negative => cases h
    | nan => cases h

/-- The words for numbers that are not finite. -/
def numberWords : List (List Char) :=
  [['I', 'n', 'f', 'i', 'n', 'i', 't', 'y'], ['-', 'I', 'n', 'f', 'i', 'n', 'i', 't', 'y'],
    ['N', 'a', 'N']]

theorem text_mem_numberWords {n : Number} (h : n.isFinite = false) :
    n.text ['I', 'n', 'f', 'i', 'n', 'i', 't', 'y'] ['N', 'a', 'N'] ∈ numberWords := by
  cases n with
  | int n => cases h
  | float x =>
    cases x with
    | finite => cases h
    | infinite negative => cases negative <;> decide
    | nan => decide

/-- A number starts with a digit, with its sign or with the first letter of a word. -/
theorem exists_text_cons (n : Number) :
    ∃ c cs, n.text ['I', 'n', 'f', 'i', 'n', 'i', 't', 'y'] ['N', 'a', 'N'] = c :: cs ∧
      (c.isDigit = true ∨ c ∈ ['-', 'I', 'N']) := by
  cases hfinite : n.isFinite with
  | false =>
    have hwords : ∀ w ∈ numberWords, ∃ c cs, w = c :: cs ∧ c ∈ ['-', 'I', 'N'] := by
      simp [numberWords]
    obtain ⟨c, cs, htext, hc⟩ := hwords _ (text_mem_numberWords hfinite)
    exact ⟨c, cs, htext, .inr hc⟩
  | true =>
    obtain ⟨negative, body, hbody, htext⟩ := exists_unsigned hfinite _ _
    rw [htext]
    have hstarts := hbody.startsWithDigit
    cases negative with
    | true => exact ⟨'-', body, rfl, .inr (by decide)⟩
    | false =>
      cases body with
      | nil => cases hstarts
      | cons c cs => exact ⟨c, cs, rfl, .inl hstarts⟩

/-- A written number is read back, and so are the words for numbers that are not finite. -/
theorem readScalar?_text (n : Number) {rest : List Char} (hmost : numberDigits n ≤ most)
    (h : EndsNumber rest) :
    readScalar? most (n.text ['I', 'n', 'f', 'i', 'n', 'i', 't', 'y'] ['N', 'a', 'N'] ++ rest) =
      some ((.num n : Document τ), rest) := by
  cases n with
  | int n => exact readScalar?_int n hmost h
  | float x =>
    cases x with
    | finite negative m q hm => exact readScalar?_finite negative hm h
    | infinite negative =>
      cases negative
      · rfl
      · rfl
    | nan => rfl

end CloudCanvas.Document
