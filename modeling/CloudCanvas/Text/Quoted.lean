import CloudCanvas.Text.Loose
import CloudCanvas.Text.Printable

/-!
Quoted text as it stands in messages. The text is put in single quotes, or in double quotes when
it holds a single quote and no double one. The chosen quote and the backslash are escaped, and
an unprintable character is written by its code in the fewest of two, four or eight hexadecimal
digits. So is a surrogate without a partner, whose code has four.
-/

namespace CloudCanvas.Text

/-- The last `width` hexadecimal digits of `n`, most significant first. -/
def hexDigits : (width n : Nat) → List Char
  | 0, _ => []
  | width + 1, n => hexDigits width (n / 16) ++ [Nat.digitChar (n % 16)]

def escapeCode (c : Char) : List Char :=
  let n := c.toNat
  if n < 0x100 then '\\' :: 'x' :: hexDigits 2 n
  else if n < 0x10000 then '\\' :: 'u' :: hexDigits 4 n
  else '\\' :: 'U' :: hexDigits 8 n

def quoteChar (mark c : Char) : List Char :=
  if c = mark ∨ c = '\\' then ['\\', c]
  else if c = '\n' then ['\\', 'n']
  else if c = '\r' then ['\\', 'r']
  else if c = '\t' then ['\\', 't']
  else if isPrintable c then [c]
  else escapeCode c

def quotePoint (mark : Char) : Point → List Char
  | .char c => quoteChar mark c
  | .surrogate unit => '\\' :: 'u' :: hexDigits 4 unit

def quoteMark (ps : List Point) : Char :=
  if ps.contains (.char '\'') && !ps.contains (.char '"') then '"' else '\''

def quotePoints (ps : List Point) : List Char :=
  quoteMark ps :: (ps.flatMap (quotePoint (quoteMark ps)) ++ [quoteMark ps])

def quote (s : String) : String :=
  String.ofList (quotePoints (points s))

end CloudCanvas.Text
