/-!
Parts of a text between marks. There is one part more than there are marks, and the parts with the
mark between them make up the text again.
-/

namespace CloudCanvas.Text

def split (isMark : Char → Bool) : List Char → List (List Char)
  | [] => [[]]
  | c :: rest =>
    if isMark c then [] :: split isMark rest
    else
      match split isMark rest with
      | [] => [[c]]
      | part :: later => (c :: part) :: later

theorem split_ne_nil (isMark : Char → Bool) (cs : List Char) : split isMark cs ≠ [] := by
  cases cs with
  | nil => simp [split]
  | cons c rest =>
    unfold split
    split
    · simp
    · split <;> simp

theorem intercalate_split (mark : Char) (cs : List Char) :
    [mark].intercalate (split (· == mark) cs) = cs := by
  induction cs with
  | nil => rfl
  | cons c rest ih =>
    unfold split
    cases hs : split (· == mark) rest with
    | nil => exact absurd hs (split_ne_nil _ rest)
    | cons part later =>
      rw [hs] at ih
      split
      · next hc => rw [List.intercalate_cons_of_ne_nil (by simp), ih]; simp [beq_iff_eq.mp hc]
      · cases later <;> simp_all [List.intercalate]

end CloudCanvas.Text
