import CloudCanvas.Document.Basic
import CloudCanvas.Text.Digit

/-!
Documents read from text. The reader takes the standard grammar and also the words for numbers
that are not finite. Of two fields with one name the object keeps the place of the first and the
value of the last. A whole number of more digits than it may have is refused. How deep containers
may be nested is up to the caller.
-/

namespace CloudCanvas.Document

open Text (Point Textual hexValue? ofPoints)

inductive Container
  | array
  | object
deriving DecidableEq

/-- A text is too deep when it opens one container more than there is room for, whatever comes
after. -/
inductive ReadError
  | malformed
  | tooDeep (container : Container)
deriving DecidableEq

variable {τ : Type} [Textual τ] [DecidableEq τ]

def isGap (c : Char) : Bool :=
  c == ' ' || c == '\t' || c == '\n' || c == '\r'

def skipGap (cs : List Char) : List Char :=
  cs.dropWhile isGap

def unitValue? (a b c d : Char) : Option Nat := do
  let a ← hexValue? a
  let b ← hexValue? b
  let c ← hexValue? c
  let d ← hexValue? d
  some (((a * 16 + b) * 16 + c) * 16 + d)

def pairValue? (high : Nat) (low : Option Nat) : Option Char := do
  let low ← low
  if 0xd800 ≤ high ∧ high < 0xdc00 ∧ 0xdc00 ≤ low ∧ low < 0xe000 then
    some (Char.ofNat (0x10000 + (high - 0xd800) * 0x400 + (low - 0xdc00)))
  else
    none

def unitPoint (unit : Nat) : Point :=
  if 0xd800 ≤ unit ∧ unit < 0xe000 then .surrogate unit else .char (Char.ofNat unit)

def escapedChar? : Char → Option Char
  | '"' => some '"'
  | '\\' => some '\\'
  | '/' => some '/'
  | 'b' => some '\x08'
  | 'f' => some '\x0c'
  | 'n' => some '\n'
  | 'r' => some '\r'
  | 't' => some '\t'
  | _ => none

/-- The points of a string up to its closing quote, and what follows the quote. -/
def readString : List Char → Option (List Point × List Char)
  | [] => none
  | '"' :: rest => some ([], rest)
  | '\\' :: 'u' :: a :: b :: c :: d :: rest =>
    match unitValue? a b c d with
    | none => none
    | some unit =>
      match rest with
      | '\\' :: 'u' :: e :: f :: g :: h :: after =>
        match pairValue? unit (unitValue? e f g h) with
        | some c => (readString after).map fun (ps, rest) => (.char c :: ps, rest)
        | none =>
          (readString ('\\' :: 'u' :: e :: f :: g :: h :: after)).map fun (ps, rest) =>
            (unitPoint unit :: ps, rest)
      | rest => (readString rest).map fun (ps, rest) => (unitPoint unit :: ps, rest)
  | '\\' :: c :: rest =>
    match escapedChar? c with
    | none => none
    | some c => (readString rest).map fun (ps, rest) => (.char c :: ps, rest)
  | c :: rest =>
    if c.toNat < 0x20 ∨ c = '\\' then none
    else (readString rest).map fun (ps, rest) => (.char c :: ps, rest)

/-- The digits of a fraction: a point counts only with a digit behind it. -/
def splitPoint : List Char → List Char × List Char
  | '.' :: c :: rest =>
    if c.isDigit then (c :: rest.takeWhile Char.isDigit, rest.dropWhile Char.isDigit)
    else ([], '.' :: c :: rest)
  | cs => ([], cs)

/-- An exponent: its letter counts only with digits behind it. -/
def splitExponent (cs : List Char) : Option (Int × List Char) :=
  match cs with
  | [] => none
  | c :: after =>
    let (negative, digits) := Numeral.splitSign after
    if (c = 'e' ∨ c = 'E') ∧ Numeral.startsWithDigit digits then
      some (Binary64.signed negative (Numeral.digitsValue (digits.takeWhile Char.isDigit)),
        digits.dropWhile Char.isDigit)
    else
      none

/-- A number without its sign. A whole one has at most `most` digits. -/
def unsigned? (most : Nat) (negative : Bool) (cs : List Char) : Option (Number × List Char) :=
  let whole := cs.takeWhile Char.isDigit
  let (fraction, rest) := splitPoint (cs.dropWhile Char.isDigit)
  if whole = [] ∨ (whole.head? = some '0' ∧ whole.length ≠ 1) then none
  else
    match splitExponent rest with
    | some (e, rest) =>
      some (.float (Decimal.round negative
        ⟨Numeral.digitsValue (whole ++ fraction), e - fraction.length⟩), rest)
    | none =>
      if fraction ≠ [] then
        some (.float (Decimal.round negative
          ⟨Numeral.digitsValue (whole ++ fraction), -fraction.length⟩), rest)
      else if whole.length ≤ most then
        some (.int (Binary64.signed negative (Numeral.digitsValue whole)), rest)
      else
        none

def readNumber (most : Nat) : List Char → Option (Number × List Char)
  | '-' :: cs => unsigned? most true cs
  | cs => unsigned? most false cs

/-- The words for numbers that are not finite. -/
def readSpecial : List Char → Option (Number × List Char)
  | 'N' :: 'a' :: 'N' :: rest => some (.float .nan, rest)
  | 'I' :: 'n' :: 'f' :: 'i' :: 'n' :: 'i' :: 't' :: 'y' :: rest =>
    some (.float (.infinite false), rest)
  | '-' :: 'I' :: 'n' :: 'f' :: 'i' :: 'n' :: 'i' :: 't' :: 'y' :: rest =>
    some (.float (.infinite true), rest)
  | _ => none

def readScalar? (most : Nat) : List Char → Option (Document τ × List Char)
  | 'n' :: 'u' :: 'l' :: 'l' :: rest => some (.null, rest)
  | 't' :: 'r' :: 'u' :: 'e' :: rest => some (.bool true, rest)
  | 'f' :: 'a' :: 'l' :: 's' :: 'e' :: rest => some (.bool false, rest)
  | '"' :: rest => (readString rest).map fun (ps, rest) => (.str (ofPoints ps), rest)
  | cs => ((readSpecial cs).or (readNumber most cs)).map fun (n, rest) => (.num n, rest)

def readScalar (most : Nat) (cs : List Char) : Except ReadError (Document τ × List Char) :=
  match readScalar? most cs with
  | some result => .ok result
  | none => .error .malformed

mutual

/-- A value and what follows it. The fuel bounds the number of values and containers passed, and
there is room for `room` containers within each other. -/
def readValue (most : Nat) : (fuel room : Nat) → List Char →
    Except ReadError (Document τ × List Char)
  | 0, _, _ => .error .malformed
  | _ + 1, 0, '[' :: _ => .error (.tooDeep .array)
  | fuel + 1, room + 1, '[' :: rest =>
    match skipGap rest with
    | ']' :: rest => .ok (.arr [], rest)
    | cs => (readItems most fuel room cs).map fun (items, rest) => (.arr items, rest)
  | _ + 1, 0, '\x7b' :: _ => .error (.tooDeep .object)
  | fuel + 1, room + 1, '\x7b' :: rest =>
    match skipGap rest with
    | '\x7d' :: rest => .ok (.obj [], rest)
    | cs =>
      (readFields most fuel room cs).map fun (fields, rest) => (.obj (Table.ofList fields), rest)
  | _ + 1, _, cs => readScalar most cs

def readItems (most : Nat) : (fuel room : Nat) → List Char →
    Except ReadError (List (Document τ) × List Char)
  | 0, _, _ => .error .malformed
  | fuel + 1, room, cs =>
    match readValue most fuel room cs with
    | .error e => .error e
    | .ok (v, rest) =>
      match skipGap rest with
      | ']' :: rest => .ok ([v], rest)
      | ',' :: rest =>
        (readItems most fuel room (skipGap rest)).map fun (items, rest) => (v :: items, rest)
      | _ => .error .malformed

def readFields (most : Nat) : (fuel room : Nat) → List Char →
    Except ReadError (List (τ × Document τ) × List Char)
  | 0, _, _ => .error .malformed
  | fuel + 1, room, '"' :: cs =>
    match readString cs with
    | none => .error .malformed
    | some (key, rest) =>
      match skipGap rest with
      | ':' :: rest =>
        match readValue most fuel room (skipGap rest) with
        | .error e => .error e
        | .ok (v, rest) =>
          match skipGap rest with
          | '\x7d' :: rest => .ok ([(ofPoints key, v)], rest)
          | ',' :: rest =>
            (readFields most fuel room (skipGap rest)).map fun (fields, rest) =>
              ((ofPoints key, v) :: fields, rest)
          | _ => .error .malformed
      | _ => .error .malformed
  | _ + 1, _, _ => .error .malformed

end

/-- The document a text holds, with nothing but gaps around it, where a whole number has at most
4300 digits. Two units of fuel for each character are always enough. -/
def readWithin (room : Nat) (s : String) : Except ReadError (Document τ) :=
  let cs := s.toList
  match readValue Numeral.maxWholeDigits (2 * cs.length + 2) room (skipGap cs) with
  | .ok (v, rest) => if skipGap rest = [] then .ok v else .error .malformed
  | .error e => .error e

/-- The document a text holds, however deep: a text never opens more containers than it has
characters. -/
def ofText? (s : String) : Option Json :=
  match readWithin s.length s with
  | .ok v => some v
  | .error _ => none

end CloudCanvas.Document
