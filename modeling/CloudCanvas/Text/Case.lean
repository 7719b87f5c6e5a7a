import CloudCanvas.Text.Case.Table

/-!
Lowercase text. Every character has a lowercase form that depends on it alone, except the capital
sigma: at the end of a word it becomes the final sigma. A word ends there when the nearest
character before it that is not case-ignorable is cased and the nearest such one after it is not.
-/

namespace CloudCanvas.Text

def inRanges (ranges : List (Nat × Nat)) (c : Char) : Bool :=
  ranges.any fun (first, last) => first ≤ c.toNat && c.toNat ≤ last

def CaseSpan.contains (span : CaseSpan) (c : Char) : Bool :=
  span.first ≤ c.toNat && c.toNat ≤ span.last && (c.toNat - span.first) % span.stride == 0

/-- The capital I with a dot is the one letter whose lowercase form has two characters. -/
def lowerChar (c : Char) : List Char :=
  if c = 'İ' then
    ['i', '\u0307']
  else
    match lowerSpans.find? (·.contains c) with
    | some span => [Char.ofNat (c.toNat + span.offset).toNat]
    | none => [c]

/-- Whether the nearest neighbour that is not case-ignorable is cased. -/
def meetsCased (neighbours : List Char) : Bool :=
  match neighbours.dropWhile (inRanges ignorableRanges) with
  | [] => false
  | c :: _ => inRanges casedRanges c

def lowerSigma (before after : List Char) : Char :=
  if meetsCased before && !meetsCased after then 'ς' else 'σ'

/-- `before` holds the characters already passed, the nearest first. -/
def lowerFrom (before : List Char) : List Char → List Char
  | [] => []
  | c :: after =>
    (if c = 'Σ' then [lowerSigma before after] else lowerChar c) ++ lowerFrom (c :: before) after

def lower (s : String) : String :=
  String.ofList (lowerFrom [] s.toList)

end CloudCanvas.Text
