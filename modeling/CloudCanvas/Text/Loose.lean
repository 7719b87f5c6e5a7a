/-!
Loose text: what the escapes of a document can spell. Its points are characters and also
surrogates without a partner, which stand for no character. Every text is a loose text; when a
loose text has to become a text, each surrogate is replaced.
-/

namespace CloudCanvas.Text

inductive Point
  | char (c : Char)
  | surrogate (unit : Nat)
deriving DecidableEq

def Point.toChar : Point → Char
  | .char c => c
  | .surrogate _ => '\ufffd'

abbrev LooseText := List Point

/-- Text that is made of points. -/
class Textual (τ : Type) where
  points : τ → List Point
  ofPoints : List Point → τ

export Textual (points ofPoints)

instance : Textual String where
  points s := s.toList.map .char
  ofPoints ps := String.ofList (ps.map Point.toChar)

instance : Textual LooseText where
  points ps := ps
  ofPoints ps := ps

theorem points_string (s : String) : points s = s.toList.map Point.char :=
  rfl

theorem isEmpty_points (s : String) : (points s).isEmpty = s.isEmpty := by
  rw [points_string, List.isEmpty_map, Bool.eq_iff_iff]
  simp

theorem ofPoints_points (s : String) : (ofPoints (points s) : String) = s := by
  simp [points, ofPoints, Point.toChar, Function.comp_def]

end CloudCanvas.Text
