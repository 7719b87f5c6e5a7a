import CloudCanvas.Number.Shortest
import CloudCanvas.Text.Blank
import CloudCanvas.Text.Digit

/-!
Numbers read from text. Padding around a number is ignored, the digits may be those of any
script, one sign may come first, and an underscore may stand between two digits. A whole number
has at most 4300 digits; a number with a point or an exponent is rounded once.
-/

namespace CloudCanvas.Numeral

open Text

def plainDigit (c : Char) : Char :=
  match digitValue? c with
  | some d => Nat.digitChar d
  | none => c

def startsWithDigit : List Char → Bool
  | [] => false
  | c :: _ => c.isDigit

/-- Removes the underscores, each of which has to stand between two digits. -/
def joinGroups (afterDigit : Bool) : List Char → Option (List Char)
  | [] => some []
  | c :: rest =>
    if c = '_' then
      if afterDigit && startsWithDigit rest then joinGroups false rest else none
    else
      (joinGroups c.isDigit rest).map (c :: ·)

def plainChars? (s : String) : Option (List Char) :=
  joinGroups false ((dropEnds isPadding s.toList).map plainDigit)

def splitSign : List Char → Bool × List Char
  | '-' :: rest => (true, rest)
  | '+' :: rest => (false, rest)
  | cs => (false, cs)

def digitsValue (cs : List Char) : Nat :=
  cs.foldl (fun n c => 10 * n + (c.toNat - '0'.toNat)) 0

def maxWholeDigits : Nat := 4300

def wholeOfChars? (cs : List Char) : Option Int :=
  let (negative, digits) := splitSign cs
  if digits ≠ [] ∧ digits.all Char.isDigit ∧ digits.length ≤ maxWholeDigits then
    some (Binary64.signed negative (digitsValue digits))
  else
    none

def exponentOfChars? : List Char → Option Int
  | [] => some 0
  | c :: rest =>
    let (negative, digits) := splitSign rest
    if (c = 'e' ∨ c = 'E') ∧ digits ≠ [] ∧ digits.all Char.isDigit then
      some (Binary64.signed negative (digitsValue digits))
    else
      none

/-- The digits after the point, if there is a point, and what follows them. -/
def splitFraction : List Char → List Char × List Char
  | '.' :: rest => (rest.takeWhile Char.isDigit, rest.dropWhile Char.isDigit)
  | cs => ([], cs)

/-- Digits with a point before, between or after them, then perhaps an exponent. -/
def decimalOfChars? (cs : List Char) : Option Decimal :=
  let whole := cs.takeWhile Char.isDigit
  let (fraction, rest) := splitFraction (cs.dropWhile Char.isDigit)
  if whole = [] ∧ fraction = [] then
    none
  else
    (exponentOfChars? rest).map fun e => ⟨digitsValue (whole ++ fraction), e - fraction.length⟩

def infinityNames : List (List Char) :=
  ["inf".toList, "infinity".toList]

def floatOfChars? (cs : List Char) : Option Binary64 :=
  let (negative, body) := splitSign cs
  let name := body.map Char.toLower
  if name ∈ infinityNames then some (.infinite negative)
  else if name = "nan".toList then some .nan
  else (decimalOfChars? body).map (·.round negative)

def whole? (s : String) : Option Int :=
  plainChars? s >>= wholeOfChars?

def float? (s : String) : Option Binary64 :=
  plainChars? s >>= floatOfChars?

end CloudCanvas.Numeral
