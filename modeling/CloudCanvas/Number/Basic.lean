import CloudCanvas.Number.Numeral

/-!
Numbers of documents. A whole number is unbounded and a fractional one has double precision; the
two stay different values even when they are equal in size, and are compared exactly.
-/

namespace CloudCanvas

inductive Number
  | int (n : Int)
  | float (x : Binary64)
deriving DecidableEq

/-- The size of a number: `exact n q` is `n · 2^q`. -/
inductive Extent
  | exact (n q : Int)
  | infinite (negative : Bool)
  | undefined

/-- Whether `n · 2^q` and `m · 2^p` are related as `compare` says. -/
def Extent.relate (compare : Int → Int → Bool) (m p n q : Int) : Bool :=
  let low := min p q
  compare (m * Binary64.power 2 (p - low)) (n * Binary64.power 2 (q - low))

def Extent.lt : Extent → Extent → Bool
  | .undefined, _ | _, .undefined => false
  | .infinite s, .infinite t => s && !t
  | .infinite s, .exact .. => s
  | .exact .., .infinite t => !t
  | .exact m p, .exact n q => relate (fun a b => a < b) m p n q

def Extent.le : Extent → Extent → Bool
  | .undefined, _ | _, .undefined => false
  | .infinite s, .infinite t => s || !t
  | .infinite s, .exact .. => s
  | .exact .., .infinite t => !t
  | .exact m p, .exact n q => relate (fun a b => a ≤ b) m p n q

namespace Number

def extent : Number → Extent
  | .int n => .exact n 0
  | .float (.finite negative m q _) => .exact (Binary64.signed negative m) q
  | .float (.infinite negative) => .infinite negative
  | .float .nan => .undefined

def lt (a b : Number) : Bool :=
  a.extent.lt b.extent

def le (a b : Number) : Bool :=
  a.extent.le b.extent

/-- Whether two numbers have the same size. -/
def same (a b : Number) : Bool :=
  a.le b && b.le a

theorem lt_int (m n : Int) : lt (.int m) (.int n) = decide (m < n) := by
  simp [lt, extent, Extent.lt, Extent.relate, Binary64.power]

theorem le_int (m n : Int) : le (.int m) (.int n) = decide (m ≤ n) := by
  simp [le, extent, Extent.le, Extent.relate, Binary64.power]

theorem same_int (m n : Int) : same (.int m) (.int n) = decide (m = n) := by
  rw [same, le_int, le_int, ← Bool.decide_and]
  exact decide_eq_decide.2 (by omega)

def toBinary64? : Number → Option Binary64
  | .int n => Binary64.ofInt? n
  | .float x => some x

/-- The difference `a - b`. Of two whole numbers it is exact; otherwise both are first brought to
double precision, which fails for a whole number out of range. -/
def sub? : Number → Number → Option Number
  | .int m, .int n => some (.int (m - n))
  | a, b => do
    let x ← a.toBinary64?
    let y ← b.toBinary64?
    some (.float (x.sub y))

def isZero : Number → Bool
  | .int n => n == 0
  | .float x => x.isZero

def isFinite : Number → Bool
  | .int _ => true
  | .float x => x.isFinite

/-- A finite number in its plainest form: a whole number whenever it is one. -/
def plain? : Number → Option Number
  | .int n => some (.int n)
  | .float x =>
    match x.toInt? with
    | some n => some (.int n)
    | none => if x.isFinite then some (.float x) else none

/-- The number a text denotes whatever the blanks around it, in its plainest form. -/
def ofText? (s : String) : Option Number :=
  match Numeral.whole? (Text.strip s) with
  | some n => some (.int n)
  | none => Numeral.float? (Text.strip s) >>= fun x => plain? (.float x)

def intText (n : Int) : List Char :=
  (if n < 0 then ['-'] else []) ++ Nat.toDigits 10 n.natAbs

def text (infinity noNumber : List Char) : Number → List Char
  | .int n => intText n
  | .float x => x.text infinity noNumber

end Number

end CloudCanvas
