import CloudCanvas.Text.Digit
import CloudCanvas.Text.Pattern

/-!
Names of buckets. A name has from 3 to 63 characters, lowercase letters, digits, dots and hyphens,
with a letter or a digit at both ends. It has no two hyphens in a row and no hyphen after a dot,
and does not begin with digits before a dot. A line break may follow it.
-/

namespace CloudCanvas.BucketName

open Text (Item Pattern)

def isNameEnd (c : Char) : Bool :=
  ('a' ≤ c && c ≤ 'z') || ('0' ≤ c && c ≤ '9')

def isNameChar (c : Char) : Bool :=
  isNameEnd c || c == '.' || c == '-'

def one (accepts : Char → Bool) : Item :=
  .run accepts 1 (some 1)

def anywhereInLine : Item :=
  .run (· != '\n') 0 none

def pattern : Pattern :=
  [.refuse [.run (fun c => (Text.digitValue? c).isSome) 1 none, one (· == '.')],
    .refuse [one (· == '-')],
    .refuse [anywhereInLine, one (· == '-'), one (· == '-')],
    .refuse [anywhereInLine, one (· == '.'), .finish],
    .refuse [anywhereInLine, one (· == '.'), one (· == '-')],
    one isNameEnd,
    .run isNameChar 1 (some 61),
    one isNameEnd,
    .finish]

def accepts (name : String) : Bool :=
  pattern.accepts name

end CloudCanvas.BucketName
