import CloudCanvas.Document.Basic
import CloudCanvas.Text.Quoted

/-!
The text of a document in messages and in text fields. A string stands for itself; inside a list
or an object it is quoted, and so are the names of fields.
-/

namespace CloudCanvas.Document

open Text (Textual points quotePoints)

variable {τ : Type} [Textual τ]

def numberText (n : Number) : List Char :=
  n.text ['i', 'n', 'f'] ['n', 'a', 'n']

def boolText : Bool → List Char
  | true => ['T', 'r', 'u', 'e']
  | false => ['F', 'a', 'l', 's', 'e']

mutual

/-- The text of a value with every string in quotes. -/
def quotedChars : Document τ → List Char
  | .null => ['N', 'o', 'n', 'e']
  | .bool b => boolText b
  | .num n => numberText n
  | .str s => quotePoints (points s)
  | .arr [] => ['[', ']']
  | .arr (v :: rest) => '[' :: (quotedChars v ++ quotedItems rest)
  | .obj [] => ['\x7b', '\x7d']
  | .obj ((k, v) :: rest) =>
    '\x7b' :: (quotePoints (points k) ++ ':' :: ' ' :: (quotedChars v ++ quotedFields rest))

def quotedItems : List (Document τ) → List Char
  | [] => [']']
  | v :: rest => ',' :: ' ' :: (quotedChars v ++ quotedItems rest)

def quotedFields : List (τ × Document τ) → List Char
  | [] => ['\x7d']
  | (k, v) :: rest =>
    ',' :: ' ' :: (quotePoints (points k) ++ ':' :: ' ' :: (quotedChars v ++ quotedFields rest))

end

def quoted (v : Document τ) : String :=
  String.ofList v.quotedChars

def display : Json → String
  | .str s => s
  | v => v.quoted

/-- The name of a value's type in messages. -/
def typeName : Document τ → String
  | .null => "NoneType"
  | .bool _ => "bool"
  | .num (.int _) => "int"
  | .num (.float _) => "float"
  | .str _ => "str"
  | .arr _ => "list"
  | .obj _ => "dict"

end CloudCanvas.Document
