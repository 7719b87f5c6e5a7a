import CloudCanvas.Document.Basic
import CloudCanvas.Text.Quoted

/-!
Documents as text of ASCII characters. A layout says what stands before each item and before a
closing bracket, and what follows a colon. The canonical text is the compact one with the fields
of every object sorted by name.
-/

namespace CloudCanvas.Document

open Text (Point Textual points)

variable {τ : Type} [Textual τ]

def hexEscape (unit : Nat) : List Char :=
  '\\' :: 'u' :: Text.hexDigits 4 unit

/-- A character beyond the first 65536 is written as its two surrogates. -/
def escapeChar (c : Char) : List Char :=
  let n := c.toNat
  if c = '"' ∨ c = '\\' then ['\\', c]
  else if c = '\n' then ['\\', 'n']
  else if c = '\r' then ['\\', 'r']
  else if c = '\t' then ['\\', 't']
  else if c = '\x08' then ['\\', 'b']
  else if c = '\x0c' then ['\\', 'f']
  else if 0x20 ≤ n ∧ n < 0x7f then [c]
  else if n < 0x10000 then hexEscape n
  else
    hexEscape (0xd800 + (n - 0x10000) / 0x400) ++ hexEscape (0xdc00 + (n - 0x10000) % 0x400)

def escapePoint : Point → List Char
  | .char c => escapeChar c
  | .surrogate unit => hexEscape unit

def stringText (s : τ) : List Char :=
  '"' :: ((points s).flatMap escapePoint ++ ['"'])

theorem stringText_string (s : String) :
    stringText s = '"' :: (s.toList.flatMap escapeChar ++ ['"']) := by
  rw [stringText, Text.points_string, List.flatMap_map]
  rfl

structure Layout where
  gap : (depth : Nat) → List Char
  afterColon : List Char

def compact : Layout :=
  ⟨fun _ => [], []⟩

/-- Every item stands on a line of its own, two blanks further in than its container. -/
def indented : Layout :=
  ⟨fun depth => '\n' :: List.replicate (2 * depth) ' ', [' ']⟩

mutual

def write (layout : Layout) (depth : Nat) : Document τ → List Char
  | .null => ['n', 'u', 'l', 'l']
  | .bool true => ['t', 'r', 'u', 'e']
  | .bool false => ['f', 'a', 'l', 's', 'e']
  | .num n => n.text ['I', 'n', 'f', 'i', 'n', 'i', 't', 'y'] ['N', 'a', 'N']
  | .str s => stringText s
  | .arr [] => ['[', ']']
  | .arr (v :: rest) =>
    '[' :: (layout.gap (depth + 1) ++ (write layout (depth + 1) v ++ writeItems layout depth rest))
  | .obj [] => ['\x7b', '\x7d']
  | .obj ((k, v) :: rest) =>
    '\x7b' :: (layout.gap (depth + 1) ++ (stringText k ++ ':' :: (layout.afterColon ++
      (write layout (depth + 1) v ++ writeFields layout depth rest))))

def writeItems (layout : Layout) (depth : Nat) : List (Document τ) → List Char
  | [] => layout.gap depth ++ [']']
  | v :: rest =>
    ',' :: (layout.gap (depth + 1) ++ (write layout (depth + 1) v ++ writeItems layout depth rest))

def writeFields (layout : Layout) (depth : Nat) : List (τ × Document τ) → List Char
  | [] => layout.gap depth ++ ['\x7d']
  | (k, v) :: rest =>
    ',' :: (layout.gap (depth + 1) ++ (stringText k ++ ':' :: (layout.afterColon ++
      (write layout (depth + 1) v ++ writeFields layout depth rest))))

end

def render (layout : Layout) (v : Document τ) : String :=
  String.ofList (write layout 0 v)

def sortFields (fields : List (String × Json)) : List (String × Json) :=
  fields.mergeSort fun a b => a.1 ≤ b.1

mutual

/-- The document with the fields of every object sorted by name. -/
def sorted : Json → Json
  | .arr items => .arr (sortedItems items)
  | .obj fields => .obj (sortFields (sortedFields fields))
  | v => v

def sortedItems : List Json → List Json
  | [] => []
  | v :: rest => v.sorted :: sortedItems rest

def sortedFields : List (String × Json) → List (String × Json)
  | [] => []
  | (k, v) :: rest => (k, v.sorted) :: sortedFields rest

end

def canonical (v : Json) : String :=
  render compact v.sorted

end CloudCanvas.Document
