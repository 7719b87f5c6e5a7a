import CloudCanvas.Proofs.Text.Case
import CloudCanvas.Text.Blank

/-!
Texts that are typed anew. Blanks may come and go anywhere in them and ASCII letters may change
their case. Without their blanks and in lowercase they are the same text: the two cases of an ASCII
letter have one lowercase form, and a capital sigma between them sees a cased letter in either.
-/

namespace CloudCanvas.Text

/-- The one text becomes the other by putting in or leaving out blanks, and by putting an ASCII
letter into the other case. -/
inductive Retyped : List Char → List Char → Prop
  | nil : Retyped [] []
  | letter {c d : Char} {cs ds : List Char} (hcd : c.toLower = d.toLower) (h : Retyped cs ds) :
    Retyped (c :: cs) (d :: ds)
  | inserted {c : Char} {cs ds : List Char} (hc : isBlank c = true) (h : Retyped cs ds) :
    Retyped cs (c :: ds)
  | deleted {c : Char} {cs ds : List Char} (hc : isBlank c = true) (h : Retyped cs ds) :
    Retyped (c :: cs) ds

theorem toLower_of_isCapital {c : Char} (h : 'A' ≤ c ∧ c ≤ 'Z') :
    ∃ n < 26, c = Char.ofNat (65 + n) ∧ c.toLower = Char.ofNat (97 + n) := by
  have hall : ∀ n < 26, (Char.ofNat (65 + n)).toLower = Char.ofNat (97 + n) := by decide
  have hfirst : 65 ≤ c.toNat := h.1
  have hlast : c.toNat ≤ 90 := h.2
  have hc : c = Char.ofNat (65 + (c.toNat - 65)) := by
    rw [Nat.add_sub_cancel' hfirst, Char.ofNat_toNat]
  refine ⟨c.toNat - 65, by omega, hc, ?_⟩
  rw [← hall _ (by omega), ← hc]

/-- What does not tell the two cases of an ASCII letter apart does not tell any characters apart
that `Char.toLower` makes the same. -/
theorem apply_toLower {α : Type} {f : Char → α}
    (h : ∀ n < 26, f (Char.ofNat (97 + n)) = f (Char.ofNat (65 + n))) (c : Char) :
    f c.toLower = f c := by
  by_cases hc : 'A' ≤ c ∧ c ≤ 'Z'
  · obtain ⟨n, hn, hupper, hlower⟩ := toLower_of_isCapital hc
    rw [hlower, h n hn, ← hupper]
  · have hself : c.toLower = c := dif_neg hc
    rw [hself]

theorem inRanges_eq_false {ranges : List (Nat × Nat)} (first last : Nat)
    (h : (ranges.all fun range => Nat.blt range.2 first || Nat.blt last range.1) = true) {c : Char}
    (hfirst : first ≤ c.toNat) (hlast : c.toNat ≤ last) : inRanges ranges c = false := by
  refine List.any_eq_false.2 fun range hrange => ?_
  have hapart := List.all_eq_true.1 h range hrange
  simp only [Bool.or_eq_true, Nat.blt_eq] at hapart
  simp only [Bool.and_eq_true, decide_eq_true_eq]
  omega

section ToLower

variable (c : Char)

theorem isBlank_toLower : isBlank c.toLower = isBlank c :=
  apply_toLower (by decide) c

/-- No ASCII letter is in any of the ranges. -/
theorem inRanges_ignorableRanges_toLower :
    inRanges ignorableRanges c.toLower = inRanges ignorableRanges c := by
  refine apply_toLower (fun n hn => ?_) c
  have hlower : (Char.ofNat (97 + n)).toNat = 97 + n := toNat_ofNat (.inl (by omega))
  have hupper : (Char.ofNat (65 + n)).toNat = 65 + n := toNat_ofNat (.inl (by omega))
  rw [inRanges_eq_false 97 122 (by decide +kernel) (by omega) (by omega),
    inRanges_eq_false 65 90 (by decide +kernel) (by omega) (by omega)]

theorem inRanges_casedRanges_toLower :
    inRanges casedRanges c.toLower = inRanges casedRanges c :=
  apply_toLower (by decide +kernel) c

theorem lowerChar_toLower : lowerChar c.toLower = lowerChar c :=
  apply_toLower (by decide +kernel) c

theorem toLower_eq_sigma_iff : c.toLower = 'Σ' ↔ c = 'Σ' := by
  have hsame := apply_toLower (f := fun c => decide (c = 'Σ')) (by decide) c
  simpa using hsame

end ToLower

theorem meetsCased_map_toLower (cs : List Char) :
    meetsCased (cs.map Char.toLower) = meetsCased cs := by
  have hignorable : inRanges ignorableRanges ∘ Char.toLower = inRanges ignorableRanges :=
    funext inRanges_ignorableRanges_toLower
  rw [meetsCased, meetsCased, List.dropWhile_map, hignorable]
  cases cs.dropWhile (inRanges ignorableRanges) with
  | nil => rfl
  | cons c rest => exact inRanges_casedRanges_toLower c

/-- By induction on the text: each character has the same lowercase form between the same
neighbours, whatever their case. -/
theorem lowerFrom_map_toLower (before cs : List Char) :
    lowerFrom (before.map Char.toLower) (cs.map Char.toLower) = lowerFrom before cs := by
  induction cs generalizing before with
  | nil => rfl
  | cons c after ih =>
    rw [List.map_cons, lowerFrom, ← List.map_cons, ih, lowerFrom]
    by_cases hc : c = 'Σ'
    · rw [if_pos hc, if_pos ((toLower_eq_sigma_iff c).2 hc), lowerSigma, lowerSigma,
        meetsCased_map_toLower, meetsCased_map_toLower]
    · rw [if_neg hc, if_neg fun h => hc ((toLower_eq_sigma_iff c).1 h), lowerChar_toLower]

/-- The characters of a text that are no blanks, with ASCII letters in lowercase. -/
def bare (cs : List Char) : List Char :=
  (cs.filter (!isBlank ·)).map Char.toLower

theorem Retyped.bare_eq {cs ds : List Char} (h : Retyped cs ds) : bare cs = bare ds := by
  unfold bare
  induction h with
  | nil => rfl
  | @letter c d _ _ hcd _ ih =>
    have hblank : isBlank c = isBlank d := by
      rw [← isBlank_toLower c, hcd, isBlank_toLower d]
    rw [List.filter_cons, List.filter_cons, hblank]
    split
    · rw [List.map_cons, List.map_cons, hcd, ih]
    · exact ih
  | inserted hc _ ih => rw [ih, List.filter_cons_of_neg (by simp [hc])]
  | deleted hc _ ih => rw [List.filter_cons_of_neg (by simp [hc]), ih]

/-- By induction on the one text, and for each of its letters by induction on the other one: the
blanks in front of the letter go first. -/
theorem retyped_of_bare_eq {cs ds : List Char} (h : bare cs = bare ds) : Retyped cs ds := by
  unfold bare at h
  induction cs generalizing ds with
  | nil =>
    induction ds with
    | nil => exact .nil
    | cons d ds ih =>
      by_cases hd : isBlank d = true
      · exact .inserted hd (ih (by simpa [hd] using h))
      · simp [hd] at h
  | cons c cs ih =>
    by_cases hc : isBlank c = true
    · exact .deleted hc (ih (by simpa [hc] using h))
    induction ds with
    | nil => simp [hc] at h
    | cons d ds ihd =>
      by_cases hd : isBlank d = true
      · exact .inserted hd (ihd (by simpa [hd] using h))
      · obtain ⟨hcd, hrest⟩ := List.cons.inj (by simpa [hc, hd] using h)
        exact .letter hcd (ih hrest)

theorem retyped_iff {cs ds : List Char} : Retyped cs ds ↔ bare cs = bare ds :=
  ⟨Retyped.bare_eq, retyped_of_bare_eq⟩

instance : DecidableRel Retyped :=
  fun _ _ => decidable_of_iff _ retyped_iff.symm

theorem lower_removeBlanks (s : String) :
    lower (removeBlanks s) = String.ofList (lowerFrom [] (bare s.toList)) := by
  rw [lower, removeBlanks, String.toList_ofList, ← lowerFrom_map_toLower [], List.map_nil, bare]

theorem Retyped.lower_removeBlanks_eq {s t : String} (h : Retyped s.toList t.toList) :
    lower (removeBlanks s) = lower (removeBlanks t) := by
  rw [lower_removeBlanks, lower_removeBlanks, h.bare_eq]

end CloudCanvas.Text
