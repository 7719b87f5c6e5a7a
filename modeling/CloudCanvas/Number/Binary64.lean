/-!
Double precision numbers, kept exactly: a finite one is a sign, a whole number of at most 53 bits
and a power of two. Every operation first forms its exact result and then rounds it once, to the
nearest representable number, a tie going to the even one.
-/

namespace CloudCanvas

/-- The number m · 2^q in the one form the format has for it: 53 bits, or the least exponent. -/
def IsCanonical (m : Nat) (q : Int) : Prop :=
  m < Nat.pow 2 53 ∧ -1074 ≤ q ∧ q ≤ 971 ∧ (Nat.pow 2 52 ≤ m ∨ q = -1074)

instance (m : Nat) (q : Int) : Decidable (IsCanonical m q) :=
  inferInstanceAs (Decidable (_ ∧ _))

inductive Binary64
  | finite (negative : Bool) (m : Nat) (q : Int) (canonical : IsCanonical m q)
  | infinite (negative : Bool)
  | nan
deriving DecidableEq

namespace Binary64

def zero (negative : Bool) : Binary64 :=
  .finite negative 0 (-1074) (by decide)

/-- Beyond the greatest exponent there is only infinity. -/
def ofCanonical (negative : Bool) (m : Nat) (q : Int) : Binary64 :=
  if canonical : IsCanonical m q then .finite negative m q canonical else .infinite negative

/-- The whole number nearest to `num / den`, a tie going to the even one. -/
def nearest (num den : Nat) : Nat :=
  let below := num / den
  let twice := 2 * (num % den)
  if twice < den then below
  else if den < twice then below + 1
  else below + below % 2

/-- The power `base ^ e`; a negative exponent counts as zero. -/
def power (base : Nat) (e : Int) : Nat :=
  Nat.pow base e.toNat

/-- The quotient of `num / den` by `2 ^ q`, as a numerator and a denominator. -/
def scale (num den : Nat) (q : Int) : Nat × Nat :=
  if 0 ≤ q then (num, den * power 2 q) else (num * power 2 (-q), den)

/-- The greatest `e` with `2 ^ e ≤ num / den`, for positive `num` and `den`. -/
def ratioLog (num den : Nat) : Int :=
  let e : Int := num.log2 - den.log2
  let (n, d) := scale num den e
  if d ≤ n then e else e - 1

def roundRatio (negative : Bool) (num den : Nat) : Binary64 :=
  if num = 0 then
    zero negative
  else
    let q := max (ratioLog num den - 52) (-1074)
    let (n, d) := scale num den q
    let m := nearest n d
    if m = Nat.pow 2 53 then ofCanonical negative (Nat.pow 2 52) (q + 1)
    else ofCanonical negative m q

/-- The rounding of `n · 2^q`. A zero takes the sign `zeroSign`. -/
def roundScaled (n q : Int) (zeroSign : Bool) : Binary64 :=
  let (num, den) := scale n.natAbs 1 (-q)
  roundRatio (if n = 0 then zeroSign else decide (n < 0)) num den

/-- The rounding of `digits · 10^exponent`. An exponent so great or so small that no digit can
bring the number back into range is settled before the power of ten is formed. -/
def ofDecimal (negative : Bool) (digits : Nat) (exponent : Int) : Binary64 :=
  if digits = 0 then zero negative
  else if 400 < exponent then .infinite negative
  else if exponent + digits.log2 < -400 then zero negative
  else if 0 ≤ exponent then roundRatio negative (digits * power 10 exponent) 1
  else roundRatio negative digits (power 10 (-exponent))

def ofInt (n : Int) : Binary64 :=
  roundScaled n 0 false

/-- A whole number as a double precision number, unless it is out of range. -/
def ofInt? (n : Int) : Option Binary64 :=
  match ofInt n with
  | .infinite _ => none
  | x => some x

def isFinite : Binary64 → Bool
  | .finite .. => true
  | _ => false

def isZero : Binary64 → Bool
  | .finite _ m _ _ => m == 0
  | _ => false

def signed (negative : Bool) (m : Nat) : Int :=
  if negative then -m else m

/-- The number as a whole number, if it is one. -/
def toInt? : Binary64 → Option Int
  | .finite negative m q _ =>
    if 0 ≤ q then some (signed negative (m * power 2 q))
    else if m % power 2 (-q) = 0 then some (signed negative (m / power 2 (-q)))
    else none
  | _ => none

/-- The difference `x - y`. -/
def sub : Binary64 → Binary64 → Binary64
  | .nan, _ | _, .nan => .nan
  | .infinite s, .infinite t => if s = t then .nan else .infinite s
  | .infinite s, .finite .. => .infinite s
  | .finite .., .infinite t => .infinite !t
  | .finite s m p _, .finite t n q _ =>
    let low := min p q
    roundScaled (signed s m * power 2 (p - low) - signed t n * power 2 (q - low)) low
      (s && !t && m == 0)

end Binary64

end CloudCanvas
