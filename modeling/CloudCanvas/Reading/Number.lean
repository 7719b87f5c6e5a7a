import CloudCanvas.Reading.Issue

/-!
Numbers that a document holds as text. A fractional number may be padded, or else have single
underscores inside. A whole number may be spelled as documents spell numbers; any other text is
first cleaned of its padding, its sign, the zeros in front, a fraction of zeros and its single
underscores.
-/

namespace CloudCanvas.Reading

/-- Removes single underscores from inside a text; `inside` tells that a character other than an
underscore has just passed. -/
def dropUnderscores? (inside : Bool) : List Char → Option (List Char)
  | [] => some []
  | c :: rest =>
    if c = '_' then
      if inside && !rest.isEmpty then dropUnderscores? false rest else none
    else
      (dropUnderscores? true rest).map (c :: ·)

def floatOfText? (s : String) : Option Binary64 :=
  match Numeral.floatOfChars? (Text.dropEnds Text.isPadding s.toList) with
  | some x => some x
  | none => dropUnderscores? false s.toList >>= Numeral.floatOfChars?

def isNonzeroDigit (c : Char) : Bool :=
  '1' ≤ c && c ≤ '9'

def splitMinus : List Char → Bool × List Char
  | '-' :: rest => (true, rest)
  | cs => (false, cs)

/-- A whole number as documents spell it: with no plus sign and with no zeros in front. -/
def plainWhole? (cs : List Char) : Option Int :=
  let (negative, digits) := splitMinus cs
  if (digits = ['0'] ∨ digits.take 1 ≠ ['0']) ∧ digits ≠ [] ∧ digits.all Char.isDigit ∧
      digits.length ≤ Numeral.maxWholeDigits then
    some (Binary64.signed negative (Numeral.digitsValue digits))
  else
    none

/-- Whether a text begins with more digits than a whole number may have, whatever comes after. -/
def isOversized (cs : List Char) : Bool :=
  let digits := (splitMinus cs).2
  digits.take 1 != ['0'] && Numeral.maxWholeDigits < (digits.takeWhile Char.isDigit).length

/-- Passes zeros and underscores after a character. Of a text that has nothing else, and of a
fraction, the last character passed stays in front. -/
def skipZeros? (passed : Char) : List Char → Option (List Char)
  | [] => some [passed]
  | c :: rest =>
    if c = '0' ∨ c = '_' then skipZeros? c rest
    else if isNonzeroDigit c ∨ c = '-' then some (c :: rest)
    else if c = '.' then some (passed :: c :: rest)
    else none

/-- A number begins with a digit, so its sign is not followed by another one. -/
def dropZeros? : List Char → Option (List Char)
  | [] => none
  | c :: rest =>
    if c = '0' then skipZeros? c rest
    else if isNonzeroDigit c then some (c :: rest)
    else none

/-- What stands before the point when only zeros stand behind it, and at least one. -/
def dropZeroFraction (cs : List Char) : List Char :=
  match cs.dropWhile (· != '.') with
  | _ :: '0' :: zeros => if zeros.all (· == '0') then cs.takeWhile (· != '.') else cs
  | _ => cs

def cleanWhole? (cs : List Char) : Option (List Char) :=
  let (negative, body) := Numeral.splitSign (Text.dropEnds Text.isPadding cs)
  (dropZeros? body >>= fun body => dropUnderscores? false (dropZeroFraction body)).map fun body =>
    if negative then '-' :: body else body

def wholeOfText (s : String) : Except Fault Int :=
  match plainWhole? s.toList with
  | some n => .ok n
  | none =>
    if isOversized s.toList then .error .oversizedInteger
    else
      match cleanWhole? s.toList >>= plainWhole? with
      | some n => .ok n
      | none => .error .unreadableInteger

end CloudCanvas.Reading
