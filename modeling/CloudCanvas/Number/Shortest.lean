import CloudCanvas.Number.Binary64

/-!
Decimal text of double precision numbers: the fewest digits that read back as the number, and of
those the nearest to it. The digits are found on the grids of multiples of powers of ten, from a
coarse grid to finer ones; on each grid only the two neighbours of the number can read back. The
exact expansion, which always reads back, would end the search.
-/

namespace CloudCanvas

/-- The number `digits · 10^exponent`. -/
structure Decimal where
  digits : Nat
  exponent : Int
deriving DecidableEq

def Decimal.round (negative : Bool) (d : Decimal) : Binary64 :=
  Binary64.ofDecimal negative d.digits d.exponent

namespace Shortest

/-- The quotient of `m · 2^q` by `10 ^ k`, as a numerator and a denominator. -/
def gridRatio (m : Nat) (q k : Int) : Nat × Nat :=
  let (num, den) := Binary64.scale m 1 (-q)
  if 0 ≤ k then (num, den * Binary64.power 10 k) else (num * Binary64.power 10 (-k), den)

def readsBack (m : Nat) (q : Int) (d : Decimal) : Bool :=
  match d.round false with
  | .finite _ n p _ => n == m && p == q
  | _ => false

/-- The neighbour on the grid of multiples of `10 ^ k` that reads back, the nearer one if both
do. -/
def onGrid (m : Nat) (q k : Int) : Option Decimal :=
  let (num, den) := gridRatio m q k
  let near := Binary64.nearest num den
  let far := if near = num / den then near + 1 else near - 1
  if readsBack m q ⟨near, k⟩ then some ⟨near, k⟩
  else if readsBack m q ⟨far, k⟩ then some ⟨far, k⟩
  else none

def expansion (m : Nat) (q : Int) : Decimal :=
  if 0 ≤ q then ⟨m * Binary64.power 2 q, 0⟩ else ⟨m * Binary64.power 5 (-q), q⟩

def search (m : Nat) (q k : Int) : (tries : Nat) → Decimal
  | 0 => expansion m q
  | tries + 1 => (onGrid m q k).getD (search m q (k - 1) tries)

/-- A grid that is coarser than `m · 2^q`: the power of ten lies above the number. -/
def coarseGrid (m : Nat) (q : Int) : Int :=
  (m.log2 + q) * 30103 / 100000 + 2

def decimal (m : Nat) (q : Int) : Decimal :=
  if m = 0 then ⟨0, 0⟩ else search m q (coarseGrid m q) 24

end Shortest

namespace Decimal

def zeros (n : Int) : List Char :=
  List.replicate n.toNat '0'

/-- The exponent has a sign and at least two digits. -/
def exponentText (e : Int) : List Char :=
  let digits := Nat.toDigits 10 e.natAbs
  (if e < 0 then '-' else '+') :: (zeros (2 - digits.length) ++ digits)

/-- Numbers from `1e-4` up to, but not including, `1e16` are written without an exponent and
always with a point. -/
def text (d : Decimal) : List Char :=
  let ds := Nat.toDigits 10 d.digits
  let e := d.exponent + ds.length - 1
  if -4 ≤ e ∧ e < 16 then
    if e < 0 then '0' :: '.' :: (zeros (-e - 1) ++ ds)
    else if d.exponent < 0 then ds.take (e + 1).toNat ++ '.' :: ds.drop (e + 1).toNat
    else ds ++ zeros d.exponent ++ ['.', '0']
  else
    match ds with
    | [] => []
    | [d] => d :: 'e' :: exponentText e
    | d :: rest => d :: '.' :: (rest ++ 'e' :: exponentText e)

end Decimal

/-- The text of a double precision number, given the words for infinity and for no number. -/
def Binary64.text (infinity noNumber : List Char) : Binary64 → List Char
  | .finite negative m q _ => (if negative then ['-'] else []) ++ (Shortest.decimal m q).text
  | .infinite negative => (if negative then ['-'] else []) ++ infinity
  | .nan => noNumber

end CloudCanvas
