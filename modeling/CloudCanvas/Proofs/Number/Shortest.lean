import CloudCanvas.Proofs.Number.Rounding

/-!
The decimal that is written for a double precision number reads back as that number. Rounding
leaves a representable number alone, and such a number has one canonical form. So the exact
expansion reads back, and whatever the search finds on a grid has been read back before it is taken.
-/

namespace CloudCanvas

namespace Binary64

/-- Of two forms of one number neither has the greater exponent: the other one would have more
than 53 bits. -/
theorem exponent_le_of_value_eq {m n : Nat} {q p : Int} (hm : IsCanonical m q)
    (hn : IsCanonical n p) (h : (m : ℝ) * 2 ^ q = n * 2 ^ p) : p ≤ q := by
  by_contra hlt
  have hqp : q ≤ p := by omega
  have hsteps : (n : ℝ) * 2 ^ p = ((n * power 2 (p - q) : Nat) : ℝ) * 2 ^ q := by
    exact_mod_cast cast_mul_zpow n hqp
  have hunit : (2 : ℝ) ^ q ≠ 0 := zpow_ne_zero q (by norm_num)
  have hmn : m = n * power 2 (p - q) := by
    rw [hsteps] at h
    exact_mod_cast mul_right_cancel₀ hunit h
  have htwo : 2 ≤ power 2 (p - q) := by
    have hexp : (p - q).toNat ≠ 0 := by omega
    exact Nat.le_self_pow hexp 2
  have hfull : 2 ^ 52 ≤ n := by
    rcases hn.2.2.2 with hfull | hleast
    · exact hfull
    · have hq := hm.2.1
      omega
  have hbits : m < 2 ^ 53 := hm.1
  have hdouble : n * 2 ≤ m := by
    rw [hmn]
    exact Nat.mul_le_mul_left n htwo
  omega

theorem eq_of_value_eq {m n : Nat} {q p : Int} (hm : IsCanonical m q) (hn : IsCanonical n p)
    (h : (m : ℝ) * 2 ^ q = n * 2 ^ p) : m = n ∧ q = p := by
  have hqp : q = p :=
    le_antisymm (exponent_le_of_value_eq hn hm h.symm) (exponent_le_of_value_eq hm hn h)
  subst hqp
  have hunit : (2 : ℝ) ^ q ≠ 0 := zpow_ne_zero q (by norm_num)
  exact ⟨by exact_mod_cast mul_right_cancel₀ hunit h, rfl⟩

/-- Nothing is rounded where the ratio is representable. -/
theorem roundRatio_of_representable (negative : Bool) {num den m : Nat} {q : Int} (hden : 0 < den)
    (hm : IsCanonical m q) (h : (num : ℝ) / den = m * 2 ^ q) :
    roundRatio negative num den = .finite negative m q hm := by
  obtain ⟨n, p, hn, hround, hbelow⟩ := roundRatio_le negative hden hm h.le
  have habove : (m : ℝ) * 2 ^ q ≤ n * 2 ^ p := by
    rcases le_roundRatio negative hden hm h.ge with hover | ⟨k, r, hk, hround', hle⟩
    · rw [hround] at hover
      cases hover
    · rw [hround] at hround'
      cases hround'
      exact hle
  obtain ⟨rfl, rfl⟩ := eq_of_value_eq hn hm (le_antisymm hbelow habove)
  exact hround

theorem ratioLog_mul {num den c : Nat} (hnum : 0 < num) (hden : 0 < den) (hc : 0 < c) :
    ratioLog (num * c) (den * c) = ratioLog num den := by
  have hratio : ((num * c : Nat) : ℝ) / (den * c : Nat) = num / den := by
    have hc' : (c : ℝ) ≠ 0 := by exact_mod_cast hc.ne'
    push_cast
    exact mul_div_mul_right _ _ hc'
  obtain ⟨hlow, hhigh⟩ := ratioLog_bounds (Nat.mul_pos hnum hc) (Nat.mul_pos hden hc)
  obtain ⟨hlow', hhigh'⟩ := ratioLog_bounds hnum hden
  rw [hratio] at hlow hhigh
  have hlt := (zpow_lt_zpow_iff_right₀ (one_lt_two (α := ℝ))).1 (hlow.trans_lt hhigh')
  have hlt' := (zpow_lt_zpow_iff_right₀ (one_lt_two (α := ℝ))).1 (hlow'.trans_lt hhigh)
  omega

theorem scale_mul (num den c : Nat) (q : Int) :
    scale (num * c) (den * c) q = ((scale num den q).1 * c, (scale num den q).2 * c) := by
  unfold scale
  split_ifs <;> simp only [Nat.mul_right_comm]

theorem nearest_mul (num den : Nat) {c : Nat} (hc : 0 < c) :
    nearest (num * c) (den * c) = nearest num den := by
  have hrest : num * c % (den * c) = num % den * c := Nat.mul_mod_mul_right c num den
  have hlt : 2 * (num % den * c) < den * c ↔ 2 * (num % den) < den := by
    rw [← Nat.mul_assoc, Nat.mul_lt_mul_right hc]
  have hgt : den * c < 2 * (num % den * c) ↔ den < 2 * (num % den) := by
    rw [← Nat.mul_assoc, Nat.mul_lt_mul_right hc]
  simp only [nearest, Nat.mul_div_mul_right num den hc, hrest, hlt, hgt]

/-- A common factor does not change what a ratio is rounded to. -/
theorem roundRatio_mul (negative : Bool) (num : Nat) {den c : Nat} (hden : 0 < den) (hc : 0 < c) :
    roundRatio negative (num * c) (den * c) = roundRatio negative num den := by
  by_cases hnum : num = 0
  · simp [roundRatio, hnum]
  · have hmul : num * c ≠ 0 := Nat.mul_ne_zero hnum hc.ne'
    simp only [roundRatio, if_neg hnum, if_neg hmul,
      ratioLog_mul (Nat.pos_of_ne_zero hnum) hden hc, scale_mul, nearest_mul _ _ hc]

/-- What is rounded to a finite number keeps the sign it is given, and has the same size under
either sign. -/
theorem ofCanonical_sign (negative : Bool) {s t : Bool} {m n : Nat} {q p : Int}
    {hn : IsCanonical n p} (h : ofCanonical s m q = .finite t n p hn) :
    t = s ∧ ofCanonical negative m q = .finite negative n p hn := by
  unfold ofCanonical at h ⊢
  by_cases hm : IsCanonical m q
  · rw [dif_pos hm] at h ⊢
    cases h
    exact ⟨rfl, rfl⟩
  · rw [dif_neg hm] at h
    cases h

theorem roundRatio_sign (negative : Bool) {s t : Bool} {num den m : Nat} {q : Int}
    {hm : IsCanonical m q} (h : roundRatio s num den = .finite t m q hm) :
    t = s ∧ roundRatio negative num den = .finite negative m q hm := by
  unfold roundRatio at h ⊢
  by_cases hnum : num = 0
  · rw [if_pos hnum] at h ⊢
    cases h
    exact ⟨rfl, rfl⟩
  · simp only [if_neg hnum] at h ⊢
    split_ifs at h ⊢
    · exact ofCanonical_sign negative h
    · exact ofCanonical_sign negative h

theorem ofDecimal_sign (negative : Bool) {s t : Bool} {digits : Nat} {exponent : Int} {m : Nat}
    {q : Int} {hm : IsCanonical m q} (h : ofDecimal s digits exponent = .finite t m q hm) :
    t = s ∧ ofDecimal negative digits exponent = .finite negative m q hm := by
  unfold ofDecimal at h ⊢
  split_ifs at h ⊢
  · cases h
    exact ⟨rfl, rfl⟩
  · cases h
    exact ⟨rfl, rfl⟩
  · exact roundRatio_sign negative h
  · exact roundRatio_sign negative h

theorem ofDecimal_of_mid (negative : Bool) {digits : Nat} {exponent : Int} (hdigits : digits ≠ 0)
    (hhigh : exponent ≤ 400) (hlow : -400 ≤ exponent + digits.log2) :
    ofDecimal negative digits exponent =
      if 0 ≤ exponent then roundRatio negative (digits * power 10 exponent) 1
      else roundRatio negative digits (power 10 (-exponent)) := by
  rw [ofDecimal, if_neg hdigits, if_neg (by omega), if_neg (by omega)]

end Binary64

namespace Decimal

open Binary64

/-- Zeros in front of a point count with the exponent. -/
theorem round_shift (negative : Bool) (digits : Nat) {exponent : Int} (hlow : 0 ≤ exponent)
    (hhigh : exponent ≤ 400) :
    (⟨digits * 10 ^ (exponent.toNat + 1), -1⟩ : Decimal).round negative =
      (⟨digits, exponent⟩ : Decimal).round negative := by
  unfold round
  dsimp only
  by_cases hdigits : digits = 0
  · simp [ofDecimal, hdigits]
  · have hshifted : digits * 10 ^ (exponent.toNat + 1) ≠ 0 :=
      Nat.mul_ne_zero hdigits (by positivity)
    rw [ofDecimal_of_mid negative hshifted (by omega) (by omega),
      ofDecimal_of_mid negative hdigits hhigh (by omega), if_neg (by omega), if_pos hlow]
    have hten := roundRatio_mul negative (digits * power 10 exponent) Nat.one_pos
      (show 0 < 10 by omega)
    rwa [Nat.mul_assoc] at hten

end Decimal

namespace Shortest

open Binary64

theorem log2_le_log2_mul {m k : Nat} (hm : m ≠ 0) : k.log2 ≤ (m * k).log2 := by
  have hle : k ≤ m * k := Nat.le_mul_of_pos_left k (Nat.pos_of_ne_zero hm)
  by_cases hk : k = 0
  · subst hk
    simp
  · rw [Nat.le_log2 (Nat.mul_ne_zero hm hk)]
    exact (Nat.log2_self_le hk).trans hle

/-- Of a whole number all digits are kept. -/
theorem round_expansion_whole (negative : Bool) {m : Nat} {q : Int} (hm : IsCanonical m q)
    (hne : m ≠ 0) (hq : 0 ≤ q) :
    (⟨m * power 2 q, 0⟩ : Decimal).round negative = .finite negative m q hm := by
  have hdigits : m * power 2 q ≠ 0 := Nat.mul_ne_zero hne (power_pos q).ne'
  unfold Decimal.round
  dsimp only
  rw [ofDecimal_of_mid negative hdigits (by omega) (by omega), if_pos le_rfl]
  refine roundRatio_of_representable negative Nat.one_pos hm ?_
  have hpower : ((power 2 q : Nat) : ℝ) = 2 ^ q := by
    rw [cast_power 2 hq, Nat.cast_ofNat]
  have hone : power 10 0 = 1 := rfl
  rw [hone, Nat.mul_one, Nat.cast_mul, hpower, Nat.cast_one, div_one]

/-- A half is five tenths, so a fraction has as many digits as its power of two says. -/
theorem round_expansion_fraction (negative : Bool) {m : Nat} {q : Int} (hm : IsCanonical m q)
    (hne : m ≠ 0) (hq : ¬ 0 ≤ q) :
    (⟨m * power 5 (-q), q⟩ : Decimal).round negative = .finite negative m q hm := by
  have hfive : 0 < power 5 (-q) := Nat.pow_pos (by decide)
  have hdigits : m * power 5 (-q) ≠ 0 := Nat.mul_ne_zero hne hfive.ne'
  -- the digits outweigh the exponent, as five to a power has more than one bit for each factor
  have hlog : (-q).toNat ≤ (m * power 5 (-q)).log2 := by
    refine le_trans ?_ (log2_le_log2_mul hne)
    rw [Nat.le_log2 hfive.ne']
    exact Nat.pow_le_pow_left (by omega) _
  unfold Decimal.round
  dsimp only
  rw [ofDecimal_of_mid negative hdigits (by omega) (by omega), if_neg hq]
  have hten : 0 < power 10 (-q) := Nat.pow_pos (by decide)
  refine roundRatio_of_representable negative hten hm ?_
  have hsplit : ((power 10 (-q) : Nat) : ℝ) = 2 ^ (-q) * power 5 (-q) := by
    rw [cast_power 10 (by omega), cast_power 5 (by omega), Nat.cast_ofNat, Nat.cast_ofNat,
      ← mul_zpow]
    norm_num
  have hfive' : ((power 5 (-q) : Nat) : ℝ) ≠ 0 := by exact_mod_cast hfive.ne'
  rw [hsplit, Nat.cast_mul, mul_div_mul_right _ _ hfive', zpow_neg, div_inv_eq_mul]

theorem round_expansion (negative : Bool) {m : Nat} {q : Int} (hm : IsCanonical m q)
    (hne : m ≠ 0) : (expansion m q).round negative = .finite negative m q hm := by
  unfold expansion
  by_cases hq : 0 ≤ q
  · rw [if_pos hq]
    exact round_expansion_whole negative hm hne hq
  · rw [if_neg hq]
    exact round_expansion_fraction negative hm hne hq

theorem round_of_readsBack (negative : Bool) {m : Nat} {q : Int} (hm : IsCanonical m q)
    {d : Decimal} (h : readsBack m q d = true) : d.round negative = .finite negative m q hm := by
  unfold readsBack at h
  cases hround : d.round false with
  | finite s n p hn =>
    rw [hround] at h
    simp only [Bool.and_eq_true, beq_iff_eq] at h
    obtain ⟨rfl, rfl⟩ := h
    exact (ofDecimal_sign negative hround).2
  | infinite s => rw [hround] at h; cases h
  | nan => rw [hround] at h; cases h

theorem readsBack_of_onGrid {m : Nat} {q k : Int} {d : Decimal} (h : onGrid m q k = some d) :
    readsBack m q d = true := by
  unfold onGrid at h
  simp only at h
  split_ifs at h with hnear hgap hfar hfar
  all_goals
    cases h
    assumption

/-- By induction on the tries: a grid gives only what reads back, and the expansion does. -/
theorem round_search (negative : Bool) {m : Nat} {q : Int} (hm : IsCanonical m q) (hne : m ≠ 0)
    (k : Int) (tries : Nat) : (search m q k tries).round negative = .finite negative m q hm := by
  induction tries generalizing k with
  | zero => exact round_expansion negative hm hne
  | succ tries ih =>
    rw [search]
    cases hgrid : onGrid m q k with
    | none => exact ih (k - 1)
    | some d => exact round_of_readsBack negative hm (readsBack_of_onGrid hgrid)

theorem round_decimal (negative : Bool) {m : Nat} {q : Int} (hm : IsCanonical m q) :
    (decimal m q).round negative = .finite negative m q hm := by
  unfold decimal
  by_cases hne : m = 0
  · -- zero has the least exponent
    have hq : q = -1074 := by
      rcases hm.2.2.2 with hfull | hleast
      · subst hne
        exact absurd hfull (by decide)
      · exact hleast
    subst hne hq
    rfl
  · rw [if_neg hne]
    exact round_search negative hm hne _ _

/-- Only zero is written with no digit but zeros, and that in the plainest way. -/
theorem exponent_decimal_of_zero {m : Nat} {q : Int} (hm : IsCanonical m q)
    (h : (decimal m q).digits = 0) : (decimal m q).exponent = 0 := by
  by_cases hne : m = 0
  · simp [decimal, hne]
  · have hround := round_decimal false hm
    have hzero : (decimal m q).round false = zero false := by
      rw [Decimal.round, ofDecimal, if_pos h]
    rw [hzero, zero] at hround
    cases hround
    exact absurd rfl hne

end Shortest

end CloudCanvas
