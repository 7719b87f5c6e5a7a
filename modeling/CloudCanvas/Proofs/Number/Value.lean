import CloudCanvas.Number.Basic
import Mathlib.Data.EReal.Operations
import Mathlib.Tactic.Linarith
import Mathlib.Tactic.Ring

/-!
The value of a number on the extended real line. A whole number and a fractional one of the same
size have the same value, and no number only when it is undefined. Comparison of numbers is
comparison of their values, and a fractional number is read as a whole one exactly when a whole
number has its value.
-/

namespace CloudCanvas

open Binary64

namespace Binary64

theorem cast_power (base : Nat) {e : Int} (he : 0 ≤ e) :
    (power base e : ℝ) = (base : ℝ) ^ e := by
  obtain ⟨k, rfl⟩ := Int.eq_ofNat_of_zero_le he
  simp [power]

theorem cast_signed (negative : Bool) (m : Nat) :
    (signed negative m : ℝ) = if negative then -(m : ℝ) else m := by
  cases negative <;> simp [signed]

/-- A multiple of a power of two counted in a smaller one. -/
theorem cast_mul_zpow (m : Int) {p low : Int} (h : low ≤ p) :
    (m : ℝ) * 2 ^ p = ((m * power 2 (p - low) : Int) : ℝ) * 2 ^ low := by
  have hp : (2 : ℝ) ^ p = 2 ^ (p - low) * 2 ^ low := by
    rw [← zpow_add₀ (by norm_num)]
    congr 1
    omega
  rw [hp, Int.cast_mul, Int.cast_natCast, cast_power 2 (by omega)]
  push_cast
  ring

end Binary64

noncomputable def Extent.value? : Extent → Option EReal
  | .exact n q => some ((n * 2 ^ q : ℝ) : EReal)
  | .infinite negative => some (if negative then ⊥ else ⊤)
  | .undefined => none

noncomputable def Number.value? (a : Number) : Option EReal :=
  a.extent.value?

theorem Extent.relate_lt (m p n q : Int) :
    relate (fun a b => a < b) m p n q = true ↔ (m : ℝ) * 2 ^ p < n * 2 ^ q := by
  have hpow : (0 : ℝ) < 2 ^ min p q := zpow_pos (by norm_num) _
  rw [cast_mul_zpow m (min_le_left p q), cast_mul_zpow n (min_le_right p q),
    mul_lt_mul_iff_left₀ hpow, Int.cast_lt]
  simp [relate]

theorem Extent.lt_iff {a b : Extent} :
    a.lt b = true ↔ ∃ v w, a.value? = some v ∧ b.value? = some w ∧ v < w := by
  cases a with
  | undefined => simp [Extent.lt, value?]
  | infinite s =>
    cases b with
    | undefined => simp [Extent.lt, value?]
    | infinite t => cases s <;> cases t <;> simp [Extent.lt, value?]
    | exact n q =>
      have hbot := EReal.bot_lt_coe ((n : ℝ) * 2 ^ q)
      cases s <;> simp [-EReal.coe_mul, Extent.lt, value?, hbot]
  | exact m p =>
    cases b with
    | undefined => simp [Extent.lt, value?]
    | infinite t =>
      have htop := EReal.coe_lt_top ((m : ℝ) * 2 ^ p)
      cases t <;> simp [-EReal.coe_mul, Extent.lt, value?, htop]
    | exact n q =>
      rw [Extent.lt, relate_lt, ← EReal.coe_lt_coe_iff]
      simp [-EReal.coe_mul, value?]

namespace Number

theorem lt_iff {a b : Number} :
    a.lt b = true ↔ ∃ v w, a.value? = some v ∧ b.value? = some w ∧ v < w :=
  Extent.lt_iff

@[simp]
theorem value?_int (n : Int) : (int n).value? = some ((n : ℝ) : EReal) := by
  simp [value?, extent, Extent.value?]

theorem value?_finite (negative : Bool) (m : Nat) (q : Int) (h : IsCanonical m q) :
    (float (.finite negative m q h)).value? =
      some ((signed negative m * 2 ^ q : ℝ) : EReal) := rfl

end Number

private theorem signed_eq_mul_iff {negative : Bool} {m d : Nat} {n : Int} (hd : 0 < d) :
    signed negative m = n * d ↔ m % d = 0 ∧ signed negative (m / d) = n := by
  have hd' : (d : Int) ≠ 0 := by omega
  constructor
  · intro h
    have hdvd : d ∣ m := by
      rw [← Int.natCast_dvd_natCast]
      cases negative
      · exact ⟨n, by rw [mul_comm]; exact h⟩
      · exact ⟨-n, by rw [mul_comm, neg_mul, ← h, signed, if_pos rfl, neg_neg]⟩
    obtain ⟨k, rfl⟩ := hdvd
    refine ⟨Nat.mul_mod_right d k, mul_right_cancel₀ hd' ?_⟩
    rw [← h, Nat.mul_div_cancel_left k hd]
    cases negative <;> simp [signed, mul_comm]
  · rintro ⟨hm, rfl⟩
    obtain ⟨k, rfl⟩ := Nat.dvd_of_mod_eq_zero hm
    rw [Nat.mul_div_cancel_left k hd]
    cases negative <;> simp [signed, mul_comm]

/-- A whole number is read off exactly when it has the value. -/
theorem Binary64.toInt?_eq_some_iff {x : Binary64} {n : Int} :
    x.toInt? = some n ↔ (Number.float x).value? = (Number.int n).value? := by
  cases x with
  | nan => simp [toInt?, Number.value?, Number.extent, Extent.value?]
  | infinite negative =>
    cases negative <;> simp [toInt?, Number.value?, Number.extent, Extent.value?]
  | finite negative m q h =>
    rw [Number.value?_finite, Number.value?_int, Option.some.injEq, EReal.coe_eq_coe_iff, toInt?]
    by_cases hq : 0 ≤ q
    · rw [if_pos hq, Option.some.injEq, ← Int.cast_inj (α := ℝ), cast_signed, cast_signed,
        Nat.cast_mul, cast_power 2 hq]
      cases negative <;> simp
    · have hd : 0 < power 2 (-q) := Nat.pow_pos (by decide)
      have hinv : (2 : ℝ) ^ q = (power 2 (-q) : ℝ)⁻¹ := by
        rw [cast_power 2 (by omega), Nat.cast_ofNat, ← zpow_neg, neg_neg]
      have hd' : (power 2 (-q) : ℝ) ≠ 0 := by exact_mod_cast hd.ne'
      rw [if_neg hq, hinv, ← div_eq_mul_inv, div_eq_iff hd', ← Int.cast_natCast (power 2 (-q)),
        ← Int.cast_mul, Int.cast_inj, signed_eq_mul_iff hd]
      by_cases hm : m % power 2 (-q) = 0
      · simp [hm]
      · simp [hm]

/-- A number in its plainest form: whole, or finite and of a value no whole number has. -/
def Number.IsPlain : Number → Prop
  | .int _ => True
  | .float x =>
    x.isFinite = true ∧ ∀ n : Int, (Number.float x).value? ≠ (Number.int n).value?

theorem Number.isPlain_of_plain? {a n : Number} (h : a.plain? = some n) : n.IsPlain := by
  cases a with
  | int k =>
    cases h
    trivial
  | float x =>
    rw [plain?] at h
    cases hx : x.toInt? with
    | some k =>
      rw [hx] at h
      cases h
      trivial
    | none =>
      rw [hx] at h
      obtain ⟨hfin, hn⟩ := Option.ite_none_right_eq_some.1 h
      cases hn
      refine ⟨hfin, fun k hk => ?_⟩
      rw [← Binary64.toInt?_eq_some_iff, hx] at hk
      cases hk

theorem Number.isPlain_of_ofText? {s : String} {n : Number} (h : ofText? s = some n) :
    n.IsPlain := by
  rw [ofText?] at h
  cases hwhole : Numeral.whole? (Text.strip s) with
  | some k =>
    rw [hwhole] at h
    cases h
    trivial
  | none =>
    rw [hwhole] at h
    obtain ⟨x, -, hplain⟩ := Option.bind_eq_some_iff.1 h
    exact isPlain_of_plain? hplain

end CloudCanvas
