import CloudCanvas.Proofs.Number.Value
import Mathlib.Algebra.Order.Field.Power
import Mathlib.Tactic.FieldSimp
import Mathlib.Tactic.Positivity

/-!
Rounding never crosses a representable number: a bound on the exact result that is itself a double
precision number is a bound on the rounded one. A ratio is rounded in steps of `2^q`, where `q` is
chosen so that 53 bits are left. A representable bound is a whole number of such steps, or it lies
below the whole binade of the ratio.
-/

namespace CloudCanvas

namespace Binary64

theorem power_pos (e : Int) : 0 < power 2 e :=
  Nat.pow_pos (by decide)

private theorem two_zpow_pos (e : Int) : (0 : ℝ) < 2 ^ e :=
  zpow_pos (by norm_num) e

private theorem two_zpow_add (a b : Int) : (2 : ℝ) ^ (a + b) = 2 ^ a * 2 ^ b :=
  zpow_add₀ (by norm_num) a b

private theorem two_zpow_le {a b : Int} (h : a ≤ b) : (2 : ℝ) ^ a ≤ 2 ^ b :=
  zpow_le_zpow_right₀ (by norm_num) h

theorem scale_den_pos (num : Nat) {den : Nat} (hden : 0 < den) (q : Int) :
    0 < (scale num den q).2 := by
  unfold scale
  by_cases hq : 0 ≤ q
  · rw [if_pos hq]
    exact Nat.mul_pos hden (power_pos q)
  · rw [if_neg hq]
    exact hden

theorem scale_ratio (num den : Nat) (q : Int) :
    ((scale num den q).1 : ℝ) / (scale num den q).2 = num / den / 2 ^ q := by
  unfold scale
  by_cases hq : 0 ≤ q
  · rw [if_pos hq]
    push_cast
    rw [cast_power 2 hq, div_div]
    norm_num
  · rw [if_neg hq]
    push_cast
    rw [cast_power 2 (by omega), Nat.cast_ofNat, zpow_neg, div_div, div_eq_div_iff_comm]
    field_simp

theorem le_nearest {k num den : Nat} (hden : 0 < den) (h : (k : ℝ) ≤ num / den) :
    k ≤ nearest num den := by
  have hden' : (0 : ℝ) < den := by exact_mod_cast hden
  rw [le_div_iff₀ hden'] at h
  have hk : k ≤ num / den := (Nat.le_div_iff_mul_le hden).2 (by exact_mod_cast h)
  have hbelow : num / den ≤ nearest num den := by
    simp only [nearest]
    split_ifs <;> omega
  omega

theorem nearest_le {k num den : Nat} (hden : 0 < den) (h : (num : ℝ) / den ≤ k) :
    nearest num den ≤ k := by
  have hden' : (0 : ℝ) < den := by exact_mod_cast hden
  rw [div_le_iff₀ hden'] at h
  have hk : num ≤ k * den := by exact_mod_cast h
  have hbelow : num / den ≤ k := Nat.div_le_of_le_mul (by rwa [mul_comm])
  have hsplit := Nat.div_add_mod num den
  simp only [nearest]
  rcases hbelow.lt_or_eq with hlt | heq
  · split_ifs <;> omega
  · -- no step is left above, so nothing is left over
    have hrest : num % den = 0 := by
      rw [heq, mul_comm] at hsplit
      omega
    rw [hrest, if_pos (by omega)]
    exact hbelow

private theorem two_zpow_log2_le {n : Nat} (hn : 0 < n) : (2 : ℝ) ^ (n.log2 : Int) ≤ n := by
  rw [zpow_natCast]
  exact_mod_cast Nat.log2_self_le hn.ne'

private theorem lt_two_zpow_log2 (n : Nat) : (n : ℝ) < 2 ^ (n.log2 + 1 : Int) := by
  rw [← Nat.cast_succ, zpow_natCast]
  exact_mod_cast Nat.lt_log2_self

theorem scale_le_iff (num : Nat) {den : Nat} (hden : 0 < den) (q : Int) :
    (scale num den q).2 ≤ (scale num den q).1 ↔ (2 : ℝ) ^ q ≤ num / den := by
  have hpos : (0 : ℝ) < (scale num den q).2 := by exact_mod_cast scale_den_pos num hden q
  rw [← Nat.cast_le (α := ℝ), ← one_le_div hpos, scale_ratio, one_le_div (two_zpow_pos q)]

theorem ratioLog_bounds {num den : Nat} (hnum : 0 < num) (hden : 0 < den) :
    (2 : ℝ) ^ ratioLog num den ≤ num / den ∧ (num : ℝ) / den < 2 ^ (ratioLog num den + 1) := by
  have hden' : (0 : ℝ) < den := by exact_mod_cast hden
  have hlow := two_zpow_log2_le hnum
  have hdlow := two_zpow_log2_le hden
  have hdhigh := lt_two_zpow_log2 den
  generalize he : (num.log2 - den.log2 : Int) = e
  have habove : (num : ℝ) / den < 2 ^ (e + 1) := by
    rw [div_lt_iff₀ hden']
    calc (num : ℝ) < 2 ^ (num.log2 + 1 : Int) := lt_two_zpow_log2 num
      _ = 2 ^ (e + 1) * 2 ^ (den.log2 : Int) := by
        rw [← two_zpow_add]
        congr 1
        omega
      _ ≤ 2 ^ (e + 1) * den := by gcongr
  have hbelow : (2 : ℝ) ^ (e - 1) ≤ num / den := by
    rw [le_div_iff₀ hden']
    calc (2 : ℝ) ^ (e - 1) * den ≤ 2 ^ (e - 1) * 2 ^ (den.log2 + 1 : Int) := by gcongr
      _ = 2 ^ (num.log2 : Int) := by
        rw [← two_zpow_add]
        congr 1
        omega
      _ ≤ num := hlow
  have hreach := scale_le_iff num hden e
  simp only [ratioLog, he]
  by_cases h : (scale num den e).2 ≤ (scale num den e).1
  · rw [if_pos h]
    exact ⟨hreach.1 h, habove⟩
  · rw [if_neg h, sub_add_cancel]
    exact ⟨hbelow, not_le.1 (fun hle => h (hreach.2 hle))⟩

theorem le_nearest_scale {k num den : Nat} (hden : 0 < den) {q : Int}
    (h : (k : ℝ) * 2 ^ q ≤ num / den) : k ≤ nearest (scale num den q).1 (scale num den q).2 := by
  refine le_nearest (scale_den_pos num hden q) ?_
  rwa [scale_ratio, le_div_iff₀ (two_zpow_pos q)]

theorem nearest_scale_le {k num den : Nat} (hden : 0 < den) {q : Int}
    (h : (num : ℝ) / den ≤ k * 2 ^ q) : nearest (scale num den q).1 (scale num den q).2 ≤ k := by
  refine nearest_le (scale_den_pos num hden q) ?_
  rwa [scale_ratio, div_le_iff₀ (two_zpow_pos q)]

/-- A representable number is a whole number of steps, or it lies below 53 bits of them. -/
theorem exists_steps_or_lt {n : Nat} {p : Int} (h : IsCanonical n p) (q : Int) :
    (∃ k : Nat, (n : ℝ) * 2 ^ p = k * 2 ^ q) ∨
      q ≠ -1074 ∧ (n : ℝ) * 2 ^ p < (2 ^ 52 : Nat) * 2 ^ q := by
  obtain ⟨hn, hp, -, -⟩ := h
  by_cases hqp : q ≤ p
  · refine Or.inl ⟨n * power 2 (p - q), ?_⟩
    have hsteps := cast_mul_zpow n hqp
    exact_mod_cast hsteps
  · refine Or.inr ⟨by omega, ?_⟩
    have hn' : (n : ℝ) < 2 ^ (53 : Int) := by exact_mod_cast hn
    have hpos := two_zpow_pos p
    calc (n : ℝ) * 2 ^ p < 2 ^ (53 : Int) * 2 ^ p := by gcongr
      _ = 2 ^ (53 + p) := (two_zpow_add 53 p).symm
      _ ≤ 2 ^ (52 + q) := two_zpow_le (by omega)
      _ = 2 ^ (52 : Int) * 2 ^ q := two_zpow_add 52 q
      _ = (2 ^ 52 : Nat) * 2 ^ q := by norm_cast

/-- No representable number that bounds `x` is passed over by `m · 2^q`. -/
structure KeepsBounds (x : ℝ) (m : Nat) (q : Int) : Prop where
  lower : ∀ n p, IsCanonical n p → (n : ℝ) * 2 ^ p ≤ x → (n : ℝ) * 2 ^ p ≤ m * 2 ^ q
  upper : ∀ n p, IsCanonical n p → x ≤ (n : ℝ) * 2 ^ p → (m : ℝ) * 2 ^ q ≤ n * 2 ^ p

/-- The nearest step keeps the bounds of a ratio that has 53 bits of steps, or the least step. -/
theorem keepsBounds_nearest {num den : Nat} (hden : 0 < den) {q : Int}
    (hbinade : q ≠ -1074 → ((2 ^ 52 : Nat) : ℝ) * 2 ^ q ≤ num / den) :
    KeepsBounds (num / den) (nearest (scale num den q).1 (scale num den q).2) q := by
  have hunit := two_zpow_pos q
  constructor
  · intro n p h hle
    rcases exists_steps_or_lt h q with ⟨k, hk⟩ | ⟨hq, hlt⟩
    · rw [hk] at hle ⊢
      gcongr
      exact le_nearest_scale hden hle
    · refine hlt.le.trans ?_
      gcongr
      exact le_nearest_scale hden (hbinade hq)
  · intro n p h hle
    rcases exists_steps_or_lt h q with ⟨k, hk⟩ | ⟨hq, hlt⟩
    · rw [hk] at hle ⊢
      gcongr
      exact nearest_scale_le hden hle
    · exact absurd ((hbinade hq).trans hle) (not_le.2 hlt)

/-- Counted in the unit that 53 bits leave for it, a ratio is at most one binade. -/
theorem nearest_scale_spec {num den : Nat} (hnum : 0 < num) (hden : 0 < den) {m : Nat} {q : Int}
    (hq : q = max (ratioLog num den - 52) (-1074))
    (hm : nearest (scale num den q).1 (scale num den q).2 = m) :
    m ≤ 2 ^ 53 ∧ (2 ^ 52 ≤ m ∨ q = -1074) ∧ KeepsBounds (num / den) m q := by
  obtain ⟨hlow, hhigh⟩ := ratioLog_bounds hnum hden
  have hbinade : q ≠ -1074 → ((2 ^ 52 : Nat) : ℝ) * 2 ^ q ≤ num / den := by
    intro hne
    refine le_trans (le_of_eq ?_) hlow
    rw [Nat.cast_pow, Nat.cast_ofNat, ← zpow_natCast, ← two_zpow_add]
    congr 1
    omega
  subst hm
  refine ⟨nearest_scale_le hden ?_, ?_, keepsBounds_nearest hden hbinade⟩
  · refine hhigh.le.trans ?_
    rw [Nat.cast_pow, Nat.cast_ofNat, ← zpow_natCast, ← two_zpow_add]
    exact two_zpow_le (by omega)
  · by_cases hne : q = -1074
    · exact Or.inr hne
    · exact Or.inl (le_nearest_scale hden (hbinade hne))

/-- What a ratio is rounded to before the range is checked. -/
theorem roundRatio_eq_ofCanonical (negative : Bool) (num : Nat) {den : Nat} (hden : 0 < den) :
    ∃ m q, roundRatio negative num den = ofCanonical negative m q ∧
      m < 2 ^ 53 ∧ -1074 ≤ q ∧ (2 ^ 52 ≤ m ∨ q = -1074) ∧ KeepsBounds (num / den) m q := by
  by_cases hnum : num = 0
  · refine ⟨0, -1074, ?_, by decide, by decide, Or.inr rfl, ?_⟩
    · rw [roundRatio, if_pos hnum]
      rfl
    · subst hnum
      constructor <;> simp
  · simp only [roundRatio, if_neg hnum]
    generalize hq : max (ratioLog num den - 52) (-1074) = q
    generalize hm : nearest (scale num den q).1 (scale num den q).2 = m
    obtain ⟨hle, hfull, hbounds⟩ :=
      nearest_scale_spec (Nat.pos_of_ne_zero hnum) hden hq.symm hm
    by_cases hcarry : m = Nat.pow 2 53
    · refine ⟨2 ^ 52, q + 1, if_pos hcarry, by decide, by omega, Or.inl le_rfl, ?_⟩
      have hvalue : (m : ℝ) * 2 ^ q = ((2 ^ 52 : Nat) : ℝ) * 2 ^ (q + 1) := by
        rw [hcarry, two_zpow_add]
        norm_num
        ring
      constructor
      · rw [← hvalue]
        exact hbounds.lower
      · rw [← hvalue]
        exact hbounds.upper
    · have hlt : m < 2 ^ 53 := lt_of_le_of_ne hle hcarry
      exact ⟨m, q, if_neg hcarry, hlt, by omega, hfull, hbounds⟩

/-- The rounding of a ratio is not below a representable number the ratio is not below. -/
theorem le_roundRatio (negative : Bool) {num den n : Nat} {p : Int} (hden : 0 < den)
    (hn : IsCanonical n p) (h : (n : ℝ) * 2 ^ p ≤ num / den) :
    roundRatio negative num den = .infinite negative ∨
      ∃ m q hm, roundRatio negative num den = .finite negative m q hm ∧
        (n : ℝ) * 2 ^ p ≤ m * 2 ^ q := by
  obtain ⟨m, q, heq, -, -, -, hbounds⟩ := roundRatio_eq_ofCanonical negative num hden
  rw [heq, ofCanonical]
  by_cases hm : IsCanonical m q
  · rw [dif_pos hm]
    exact Or.inr ⟨m, q, hm, rfl, hbounds.lower n p hn h⟩
  · rw [dif_neg hm]
    exact Or.inl rfl

/-- The rounding of a ratio is not above a representable number the ratio is not above. -/
theorem roundRatio_le (negative : Bool) {num den n : Nat} {p : Int} (hden : 0 < den)
    (hn : IsCanonical n p) (h : num / den ≤ (n : ℝ) * 2 ^ p) :
    ∃ m q hm, roundRatio negative num den = .finite negative m q hm ∧
      (m : ℝ) * 2 ^ q ≤ n * 2 ^ p := by
  obtain ⟨m, q, heq, hlt, hq, hfull, hbounds⟩ := roundRatio_eq_ofCanonical negative num hden
  have hle := hbounds.upper n p hn h
  have htop : q ≤ 971 := by
    by_contra hgt
    have hm : (2 : ℝ) ^ (52 : Int) ≤ m := by
      exact_mod_cast hfull.resolve_right (by omega)
    have hn' : (n : ℝ) < 2 ^ (53 : Int) := by exact_mod_cast hn.1
    have hover : (m : ℝ) * 2 ^ q < m * 2 ^ q := by
      calc (m : ℝ) * 2 ^ q ≤ n * 2 ^ p := hle
        _ < 2 ^ (53 : Int) * 2 ^ p := by gcongr
        _ = 2 ^ (53 + p) := (two_zpow_add 53 p).symm
        _ ≤ 2 ^ (52 + q) := two_zpow_le (by have := hn.2.2.1; omega)
        _ = 2 ^ (52 : Int) * 2 ^ q := two_zpow_add 52 q
        _ ≤ m * 2 ^ q := by gcongr
    exact lt_irrefl _ hover
  have hm : IsCanonical m q := ⟨hlt, hq, htop, hfull⟩
  rw [heq, ofCanonical, dif_pos hm]
  exact ⟨m, q, hm, rfl, hle⟩

theorem roundScaled_zero (q : Int) (zeroSign : Bool) :
    roundScaled 0 q zeroSign = zero zeroSign := by
  have hnum : (scale (Int.natAbs 0) 1 (-q)).1 = 0 := by
    unfold scale
    split_ifs <;> simp
  rw [roundScaled, if_pos rfl]
  exact if_pos hnum

theorem roundScaled_eq_roundRatio (n q : Int) (zeroSign : Bool) (hn : n ≠ 0) :
    ∃ num den : Nat, 0 < den ∧ (num : ℝ) / den = |(n : ℝ)| * 2 ^ q ∧
      roundScaled n q zeroSign = roundRatio (decide (n < 0)) num den := by
  refine ⟨(scale n.natAbs 1 (-q)).1, (scale n.natAbs 1 (-q)).2,
    scale_den_pos _ Nat.one_pos _, ?_, ?_⟩
  · rw [scale_ratio, zpow_neg, Nat.cast_one, div_one, div_inv_eq_mul, Nat.cast_natAbs,
      Int.cast_abs]
  · rw [roundScaled, if_neg hn]

section RoundScaled

variable {n q : Int} (zeroSign : Bool) {m : Nat} {p : Int} (hm : IsCanonical m p)
include hm

/-- The bounds of what is below zero are below zero too, and in size it is rounded to no more than
theirs. -/
theorem le_roundScaled_of_neg (hneg : n < 0) {negative : Bool}
    (h : (signed negative m : ℝ) * 2 ^ p ≤ n * 2 ^ q) :
    ∃ v, (Number.float (roundScaled n q zeroSign)).value? = some v ∧
      ((signed negative m * 2 ^ p : ℝ) : EReal) ≤ v := by
  obtain ⟨num, den, hden, hratio, heq⟩ := roundScaled_eq_roundRatio n q zeroSign hneg.ne
  have hp := two_zpow_pos p
  have hn : (n : ℝ) < 0 := by exact_mod_cast hneg
  rw [abs_of_neg hn] at hratio
  cases negative with
  | false =>
    have hbelow := h.trans_lt (mul_neg_of_neg_of_pos hn (two_zpow_pos q))
    rw [cast_signed, if_neg Bool.false_ne_true] at hbelow
    exact absurd hbelow (not_lt.2 (by positivity))
  | true =>
    rw [cast_signed, if_pos rfl] at h ⊢
    have hle : (num : ℝ) / den ≤ m * 2 ^ p := by
      rw [hratio]
      linarith
    obtain ⟨m', q', hm', hround, hbound⟩ := roundRatio_le true hden hm hle
    rw [heq, decide_eq_true hneg, hround]
    refine ⟨_, Number.value?_finite true m' q' hm', EReal.coe_le_coe_iff.2 ?_⟩
    rw [cast_signed, if_pos rfl]
    linarith

theorem le_roundScaled_of_pos (hpos : 0 < n) (h : (m : ℝ) * 2 ^ p ≤ n * 2 ^ q) :
    ∃ v, (Number.float (roundScaled n q zeroSign)).value? = some v ∧
      ((m * 2 ^ p : ℝ) : EReal) ≤ v := by
  obtain ⟨num, den, hden, hratio, heq⟩ := roundScaled_eq_roundRatio n q zeroSign hpos.ne'
  have hn : (0 : ℝ) < n := by exact_mod_cast hpos
  rw [abs_of_pos hn] at hratio
  rw [heq, decide_eq_false hpos.not_gt]
  obtain hround | ⟨m', q', hm', hround, hle⟩ := le_roundRatio false hden hm (hratio ▸ h)
  · rw [hround]
    exact ⟨⊤, rfl, le_top⟩
  · rw [hround]
    refine ⟨_, Number.value?_finite false m' q' hm', EReal.coe_le_coe_iff.2 ?_⟩
    rwa [cast_signed, if_neg Bool.false_ne_true]

/-- The rounding of a number is not below a representable number the number is not below. -/
theorem le_roundScaled {negative : Bool} (h : (signed negative m : ℝ) * 2 ^ p ≤ n * 2 ^ q) :
    ∃ v, (Number.float (roundScaled n q zeroSign)).value? = some v ∧
      ((signed negative m * 2 ^ p : ℝ) : EReal) ≤ v := by
  have hp := two_zpow_pos p
  have hq := two_zpow_pos q
  rcases lt_trichotomy n 0 with hneg | rfl | hpos
  · exact le_roundScaled_of_neg zeroSign hm hneg h
  · rw [roundScaled_zero]
    refine ⟨_, Number.value?_finite zeroSign 0 (-1074) (by decide), EReal.coe_le_coe_iff.2 ?_⟩
    rw [Int.cast_zero, zero_mul] at h
    refine h.trans (le_of_eq ?_)
    cases zeroSign <;> simp [signed]
  · cases negative with
    | false => exact le_roundScaled_of_pos zeroSign hm hpos h
    | true =>
      -- a bound below zero is met by zero itself
      have hn : (0 : ℝ) < n := by exact_mod_cast hpos
      have hzero : ((0 : Nat) : ℝ) * 2 ^ (-1074 : Int) ≤ n * 2 ^ q := by
        rw [Nat.cast_zero, zero_mul]
        positivity
      obtain ⟨v, hv, hle⟩ := le_roundScaled_of_pos zeroSign (by decide) hpos hzero
      refine ⟨v, hv, (EReal.coe_le_coe_iff.2 ?_).trans hle⟩
      rw [cast_signed, if_pos rfl, Nat.cast_zero, zero_mul, neg_mul, neg_nonpos]
      positivity

end RoundScaled

section Sub

variable {s : Bool} {a b v : EReal}

/-- What is taken from infinity leaves it as it is, or nothing when it is the same infinity. -/
theorem le_infinite_sub {y : Binary64} (hy : (Number.float y).value? = some a)
    (hv : (Number.float ((infinite s).sub y)).value? = some v)
    (h : a + b ≤ if s then ⊥ else ⊤) : b ≤ v := by
  cases s with
  | false =>
    have htop : v = ⊤ := by
      cases y with
      | nan => cases hv
      | infinite u =>
        cases u with
        | false => cases hv
        | true =>
          cases hv
          rfl
      | finite =>
        cases hv
        rfl
    exact htop ▸ le_top
  | true =>
    rw [if_pos rfl, le_bot_iff, EReal.add_eq_bot_iff] at h
    refine (h.resolve_left ?_).trans_le bot_le
    rintro rfl
    cases y with
    | nan => cases hy
    | infinite u =>
      cases u with
      | false => cases hy
      | true => cases hv
    | finite => exact absurd (Option.some.inj hy) (EReal.coe_ne_bot _)

variable {m n : Nat} {p q : Int} {hm : IsCanonical m p}

theorem le_finite_sub_infinite {u : Bool}
    (hv : (Number.float ((finite s m p hm).sub (infinite u))).value? = some v)
    (h : (if u then ⊥ else ⊤) + b ≤ ((signed s m * 2 ^ p : ℝ) : EReal)) : b ≤ v := by
  cases u with
  | false =>
    -- with `⊤`, nothing but `⊥` stays within a finite number
    have hb : b = ⊥ := by
      by_contra hb
      rw [if_neg Bool.false_ne_true, EReal.top_add_of_ne_bot hb] at h
      exact absurd h (not_le.2 (EReal.coe_lt_top _))
    exact hb.trans_le bot_le
  | true =>
    cases hv
    exact le_top

/-- The difference of finite numbers is rounded, which passes over no bound that is itself a
number of the format. -/
theorem le_finite_sub_finite {t : Bool} {hn : IsCanonical n q} {z : Binary64}
    (hz : (Number.float z).value? = some b)
    (hv : (Number.float ((finite s m p hm).sub (finite t n q hn))).value? = some v)
    (h : ((signed t n * 2 ^ q : ℝ) : EReal) + b ≤ ((signed s m * 2 ^ p : ℝ) : EReal)) :
    b ≤ v := by
  cases z with
  | nan => cases hz
  | infinite w =>
    cases w with
    | false =>
      cases hz
      rw [if_neg Bool.false_ne_true, EReal.add_top_of_ne_bot (EReal.coe_ne_bot _)] at h
      exact absurd h (not_le.2 (EReal.coe_lt_top _))
    | true =>
      cases hz
      exact bot_le
  | finite u k r hk =>
    cases hz
    rw [← EReal.coe_add, EReal.coe_le_coe_iff] at h
    obtain ⟨v', hv', hle⟩ := le_roundScaled (n := signed s m * power 2 (p - min p q) -
      signed t n * power 2 (q - min p q)) (q := min p q) (s && !t && m == 0) hk (by
        rw [Int.cast_sub, sub_mul, ← cast_mul_zpow _ (min_le_left p q),
          ← cast_mul_zpow _ (min_le_right p q)]
        exact le_sub_iff_add_le'.2 h)
    rw [sub, hv', Option.some.injEq] at hv
    rwa [← hv]

end Sub

/-- The computed difference is never found below a bound that the exact one reaches. -/
theorem sub_not_lt {x y z : Binary64} {a b t : EReal} (hx : (Number.float x).value? = some t)
    (hy : (Number.float y).value? = some a) (hz : (Number.float z).value? = some b)
    (h : a + b ≤ t) : (Number.float (x.sub y)).lt (.float z) = false := by
  rw [Bool.eq_false_iff]
  intro hlt
  obtain ⟨v, w, hv, hw, hvw⟩ := Number.lt_iff.1 hlt
  rw [hz, Option.some.injEq] at hw
  subst hw
  refine not_le.2 hvw ?_
  cases x with
  | nan => cases hx
  | infinite s =>
    cases hx
    exact le_infinite_sub hy hv h
  | finite s m p hm =>
    cases hx
    cases y with
    | nan => cases hy
    | infinite u =>
      cases hy
      exact le_finite_sub_infinite hv h
    | finite u n q hn =>
      cases hy
      exact le_finite_sub_finite hz hv h

end Binary64

namespace Number

/-- A double precision number has the value of the number. -/
def IsDouble (a : Number) : Prop :=
  ∃ x, a.toBinary64? = some x ∧ (float x).value? = a.value?

theorem isDouble_float (x : Binary64) : (float x).IsDouble :=
  ⟨x, rfl, rfl⟩

/-- In value, `a` is at least the sum of `b` and `c`. -/
def Reaches (a b c : Number) : Prop :=
  ∃ u v w, a.value? = some u ∧ b.value? = some v ∧ c.value? = some w ∧ v + w ≤ u

theorem reaches_int {m n k : Int} : (int m).Reaches (int n) (int k) ↔ n + k ≤ m := by
  simp [Reaches, ← EReal.coe_add]
  norm_cast

/-- Either nothing is rounded in `a - b`, or it is formed from double precision numbers and compared
with one. -/
def Precise (a b c : Number) : Prop :=
  (∃ m n, a = int m ∧ b = int n) ∨ a.IsDouble ∧ b.IsDouble ∧ c.IsDouble

/-- Whole numbers are subtracted without rounding. -/
theorem sub_int_not_lt {m n : Int} {c : Number} (h : (int m).Reaches (int n) c) :
    (int (m - n)).lt c = false := by
  obtain ⟨u, v, w, hu, hv, hw, hle⟩ := h
  refine Bool.eq_false_iff.2 fun hlt => ?_
  obtain ⟨x, y, hx, hy, hxy⟩ := lt_iff.1 hlt
  rw [value?_int, Option.some.injEq] at hu hv hx
  rw [hw, Option.some.injEq] at hy
  subst hu hv hx hy
  induction w with
  | bot => exact absurd hxy not_lt_bot
  | top =>
    rw [EReal.coe_add_top] at hle
    exact absurd hle (not_le.2 (EReal.coe_lt_top _))
  | coe r =>
    rw [← EReal.coe_add, EReal.coe_le_coe_iff] at hle
    rw [EReal.coe_lt_coe_iff] at hxy
    push_cast at hxy
    linarith

theorem sub?_of_not_whole {a b : Number} {x y : Binary64}
    (hboth : ¬ ∃ m n, a = int m ∧ b = int n) (hx : a.toBinary64? = some x)
    (hy : b.toBinary64? = some y) : a.sub? b = some (float (x.sub y)) := by
  have hrounded : a.sub? b = a.toBinary64? >>= fun x => b.toBinary64? >>= fun y =>
      some (float (x.sub y)) := by
    cases a with
    | float => rfl
    | int m =>
      cases b with
      | float => rfl
      | int n => exact absurd ⟨m, n, rfl, rfl⟩ hboth
  rw [hrounded, hx, hy]
  rfl

/-- A bound that `a - b` reaches exactly is also reached by the difference as computed. -/
theorem exists_sub?_not_lt {a b c : Number} (h : a.Reaches b c) (hprecise : a.Precise b c) :
    ∃ d, a.sub? b = some d ∧ d.lt c = false := by
  by_cases hboth : ∃ m n, a = int m ∧ b = int n
  · obtain ⟨m, n, rfl, rfl⟩ := hboth
    exact ⟨int (m - n), rfl, sub_int_not_lt h⟩
  · obtain ⟨⟨x, hxa, hx⟩, ⟨y, hyb, hy⟩, z, -, hz⟩ := hprecise.resolve_left hboth
    obtain ⟨u, v, w, hu, hv, hw, hle⟩ := h
    refine ⟨float (x.sub y), sub?_of_not_whole hboth hxa hyb, ?_⟩
    have hfloat := Binary64.sub_not_lt (hx.trans hu) (hy.trans hv) (hz.trans hw) hle
    rw [Bool.eq_false_iff] at hfloat ⊢
    intro hlt
    rw [lt_iff, ← hz, ← lt_iff] at hlt
    exact hfloat hlt

end Number

end CloudCanvas
