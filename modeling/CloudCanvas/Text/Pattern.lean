/-!
Patterns over text. A pattern is a sequence of items, each of which takes a part of the text at
hand; matching keeps every way in which the items so far can have divided the text. A pattern
matches a text when it can take some initial part of it.
-/

namespace CloudCanvas.Text

/-- `run` takes from `least` to `most` characters of a class, `refuse` takes nothing and demands
that its pattern does not match here, and `finish` takes nothing at the end of the text or before
a line break that ends it. -/
inductive Item
  | run (accepts : Char → Bool) (least : Nat) (most : Option Nat)
  | refuse (pattern : List Item)
  | finish

abbrev Pattern := List Item

namespace Pattern

/-- What may be left after taking at most `most` characters of a class. -/
def runRests (accepts : Char → Bool) (least : Nat) (most : Option Nat) :
    List Char → List (List Char)
  | [] => if least = 0 then [[]] else []
  | c :: rest =>
    (if least = 0 then [c :: rest] else []) ++
      (if accepts c ∧ most ≠ some 0 then
        runRests accepts (least - 1) (most.map (· - 1)) rest
      else
        [])

def atEnd (cs : List Char) : Bool :=
  cs == [] || cs == ['\n']

mutual

def itemRests : Item → List Char → List (List Char)
  | .run accepts least most, cs => runRests accepts least most cs
  | .refuse pattern, cs => if (rests pattern cs).isEmpty then [cs] else []
  | .finish, cs => if atEnd cs then [cs] else []

/-- What may be left of the text after the whole pattern. -/
def rests : List Item → List Char → List (List Char)
  | [], cs => [cs]
  | item :: items, cs => (itemRests item cs).flatMap (rests items)

end

def accepts (p : Pattern) (s : String) : Bool :=
  !(rests p s.toList).isEmpty

end Pattern

end CloudCanvas.Text
