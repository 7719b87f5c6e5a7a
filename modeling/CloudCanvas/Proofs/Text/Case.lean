import CloudCanvas.Text.Case
import Mathlib.Data.List.Basic

/-!
Lowercase text consists of characters that stay as they are when they are made lowercase again,
whatever stands around them. No lowercase form has a lowercase form of its own, and neither of the
two small sigmas depends on its neighbours. So it is enough that no character to which a span of the
table leads lies in a span again. This is decided span against span: the images lie before the other
span, after it, or between its characters.
-/

namespace CloudCanvas.Text

/-- The character is its own lowercase form, whatever stands around it. -/
structure IsLower (c : Char) : Prop where
  ne_sigma : c ≠ 'Σ'
  lowerChar_eq : lowerChar c = [c]

theorem toNat_ofNat {n : Nat} (h : n.isValidChar) : (Char.ofNat n).toNat = n := by
  rw [Char.ofNat, dif_pos h]
  rfl

namespace CaseSpan

theorem contains_iff {span : CaseSpan} {c : Char} :
    span.contains c = true ↔ span.first ≤ c.toNat ∧ c.toNat ≤ span.last ∧
      (c.toNat - span.first) % span.stride = 0 := by
  simp [contains, and_assoc]

/-- Where a character of the span moves to. -/
def image (span : CaseSpan) (c : Char) : Char :=
  Char.ofNat (c.toNat + span.offset).toNat

def firstImage (span : CaseSpan) : Nat :=
  (span.first + span.offset).toNat

def lastImage (span : CaseSpan) : Nat :=
  (span.last + span.offset).toNat

/-- The images of a span are characters again. -/
def isSound (span : CaseSpan) : Bool :=
  0 ≤ span.first + span.offset &&
    (span.lastImage < 0xd800 || 0xdfff < span.firstImage && span.lastImage < 0x110000)

/-- No image of the one span is in the other. In the last of the three ways this can be, the other
span has every second character, and the images stand at odd distances from its first one. -/
def misses (span other : CaseSpan) : Bool :=
  Nat.blt span.lastImage other.first || Nat.blt other.last span.firstImage ||
    Nat.beq other.stride 2 && (Nat.beq span.stride 2 || Nat.beq span.first span.last) &&
      Nat.beq ((span.firstImage + other.first) % 2) 1

section Image

variable {span other : CaseSpan} {c : Char} (hc : span.contains c = true)
  (hsound : span.isSound = true)
include hc hsound

theorem toNat_image : ((span.image c).toNat : Int) = c.toNat + span.offset := by
  obtain ⟨hfirst, hlast, -⟩ := contains_iff.1 hc
  simp only [isSound, Bool.and_eq_true, Bool.or_eq_true, decide_eq_true_eq] at hsound
  unfold firstImage lastImage at hsound
  obtain ⟨hnonneg, hrange⟩ := hsound
  have hvalid : (c.toNat + span.offset).toNat.isValidChar := by
    rcases hrange with hlow | ⟨hhigh, hbound⟩
    · exact Or.inl (by omega)
    · exact Or.inr (by omega)
  rw [image, toNat_ofNat hvalid]
  omega

theorem not_contains_image (hmisses : span.misses other = true) :
    other.contains (span.image c) = false := by
  have himage := toNat_image hc hsound
  obtain ⟨hfirst, hlast, hstep⟩ := contains_iff.1 hc
  rw [isSound, Bool.and_eq_true, decide_eq_true_eq] at hsound
  have hnonneg := hsound.1
  by_contra hcontains
  obtain ⟨hofirst, holast, hostep⟩ := contains_iff.1 (Bool.not_eq_false _ ▸ hcontains)
  simp only [misses, firstImage, lastImage, Bool.and_eq_true, Bool.or_eq_true, Nat.blt_eq,
    Nat.beq_eq] at hmisses
  rcases hmisses with (hbefore | hafter) | ⟨⟨hostride, hstride | hsingle⟩, hodd⟩
  · omega
  · omega
  · rw [hstride] at hstep
    rw [hostride] at hostep
    omega
  · rw [hostride] at hostep
    omega

end Image

/-- The characters that are not their own lowercase form: those of the table, and the two capitals
that it leaves out. -/
def moving : List CaseSpan :=
  ⟨'İ'.toNat, 'İ'.toNat, 1, 0⟩ :: ⟨'Σ'.toNat, 'Σ'.toNat, 1, 0⟩ :: lowerSpans

theorem lowerSpans_sound : (lowerSpans.all fun span => span.isSound) = true := by
  decide +kernel

theorem lowerSpans_miss_moving :
    (lowerSpans.all fun span => moving.all fun other => span.misses other) = true := by
  decide +kernel

end CaseSpan

open CaseSpan (moving)

/-- Outside of all spans nothing has a lowercase form of its own. -/
theorem isLower_of_not_contains {c : Char} (h : ∀ span ∈ moving, span.contains c = false) :
    IsLower c := by
  obtain ⟨hdotted, hsigma, hspans⟩ : _ ∧ _ ∧ ∀ span ∈ lowerSpans, span.contains c = false := by
    simpa only [moving, List.forall_mem_cons] using h
  constructor
  · rintro rfl
    exact absurd hsigma (by decide)
  · have hnone : lowerSpans.find? (·.contains c) = none := by
      rw [List.find?_eq_none]
      intro span hspan
      rw [hspans span hspan]
      exact Bool.false_ne_true
    have hne : c ≠ 'İ' := by
      rintro rfl
      exact absurd hdotted (by decide)
    rw [lowerChar, if_neg hne, hnone]

theorem isLower_image {span : CaseSpan} {c : Char} (hspan : span ∈ lowerSpans)
    (hc : span.contains c = true) : IsLower (span.image c) := by
  apply isLower_of_not_contains
  intro other hother
  have hsound := List.all_eq_true.1 CaseSpan.lowerSpans_sound span hspan
  have hmisses := List.all_eq_true.1 CaseSpan.lowerSpans_miss_moving span hspan
  exact CaseSpan.not_contains_image hc hsound (List.all_eq_true.1 hmisses other hother)

/-- Every span begins at or after the first capital letter. -/
theorem isLower_of_lt {c : Char} (h : c.toNat < 'A'.toNat) : IsLower c := by
  have hfirst : ∀ span ∈ moving, 'A'.toNat ≤ span.first := by
    have hall : (moving.all fun span => Nat.ble 'A'.toNat span.first) = true := by decide +kernel
    simpa using hall
  apply isLower_of_not_contains
  intro span hspan
  by_contra hcontains
  obtain ⟨hc, -, -⟩ := CaseSpan.contains_iff.1 (Bool.not_eq_false _ ▸ hcontains)
  have := hfirst span hspan
  omega

theorem isLower_of_mem_lowerChar {c d : Char} (hc : c ≠ 'Σ') (hd : d ∈ lowerChar c) :
    IsLower d := by
  by_cases hdotted : c = 'İ'
  · rw [lowerChar, if_pos hdotted] at hd
    rcases List.mem_pair.1 hd with rfl | rfl
    · exact ⟨by decide, by decide +kernel⟩
    · exact ⟨by decide, by decide +kernel⟩
  · rw [lowerChar, if_neg hdotted] at hd
    cases hfind : lowerSpans.find? (·.contains c) with
    | some span =>
      rw [hfind] at hd
      rw [List.mem_singleton.1 hd]
      have hspan : span.contains c = true := by simpa using List.find?_some hfind
      exact isLower_image (List.mem_of_find?_eq_some hfind) hspan
    | none =>
      rw [hfind] at hd
      rw [List.mem_singleton.1 hd]
      exact ⟨hc, by rw [lowerChar, if_neg hdotted, hfind]⟩

theorem isLower_lowerSigma (before after : List Char) : IsLower (lowerSigma before after) := by
  unfold lowerSigma
  split
  · exact ⟨by decide, by decide +kernel⟩
  · exact ⟨by decide, by decide +kernel⟩

theorem isLower_of_mem_lowerFrom {before cs : List Char} {d : Char}
    (h : d ∈ lowerFrom before cs) : IsLower d := by
  induction cs generalizing before with
  | nil => cases h
  | cons c after ih =>
    rw [lowerFrom] at h
    rcases List.mem_append.1 h with hhead | hrest
    · split at hhead
      · rw [List.mem_singleton.1 hhead]
        exact isLower_lowerSigma before after
      · next hc => exact isLower_of_mem_lowerChar hc hhead
    · exact ih hrest

theorem lowerFrom_of_isLower {cs : List Char} (h : ∀ c ∈ cs, IsLower c) (before : List Char) :
    lowerFrom before cs = cs := by
  induction cs generalizing before with
  | nil => rfl
  | cons c after ih =>
    have hc : IsLower c := h c List.mem_cons_self
    have hafter : ∀ d ∈ after, IsLower d := fun d hd => h d (List.mem_cons_of_mem c hd)
    rw [lowerFrom, if_neg hc.ne_sigma, hc.lowerChar_eq, ih hafter, List.singleton_append]

theorem lower_of_isLower {s : String} (h : ∀ c ∈ s.toList, IsLower c) : lower s = s := by
  rw [lower, lowerFrom_of_isLower h, String.ofList_toList]

theorem isLower_of_mem_lower {s : String} {c : Char} (h : c ∈ (lower s).toList) : IsLower c := by
  rw [lower, String.toList_ofList] at h
  exact isLower_of_mem_lowerFrom h

theorem lowerChar_ne_nil (c : Char) : lowerChar c ≠ [] := by
  unfold lowerChar
  split
  · exact List.cons_ne_nil _ _
  · split
    · exact List.cons_ne_nil _ _
    · exact List.cons_ne_nil _ _

/-- A lowercase form is never empty, so nothing is lost. -/
theorem lowerFrom_ne_nil {cs : List Char} (h : cs ≠ []) (before : List Char) :
    lowerFrom before cs ≠ [] := by
  obtain ⟨c, after, rfl⟩ := List.exists_cons_of_ne_nil h
  rw [lowerFrom]
  apply List.append_ne_nil_of_left_ne_nil
  split
  · exact List.cons_ne_nil _ _
  · exact lowerChar_ne_nil c

end CloudCanvas.Text
