import CloudCanvas.Text.Pattern
import Mathlib.Data.List.Basic

/-!
What patterns match. What may be left of a text after a pattern is described item by item: a run
takes a stretch of its characters, a refused pattern and an end take nothing.
-/

namespace CloudCanvas.Text.Pattern

section Run

variable {accepts : Char → Bool} {least : Nat} {most : Option Nat}

variable (accepts least most) in
/-- The stretches that a run may take. -/
structure Takes (taken : List Char) : Prop where
  chars : ∀ c ∈ taken, accepts c = true
  least : least ≤ taken.length
  most : ∀ m ∈ most, taken.length ≤ m

theorem takes_nil_iff : Takes accepts least most [] ↔ least = 0 := by
  constructor
  · exact fun h => Nat.le_zero.1 h.least
  · rintro rfl
    exact ⟨List.forall_mem_nil _, Nat.le_refl 0, fun m _ => Nat.zero_le m⟩

/-- A run that takes a character goes on with its bounds lowered by one. -/
theorem takes_cons_iff {c : Char} {taken : List Char} :
    Takes accepts least most (c :: taken) ↔
      (accepts c = true ∧ most ≠ some 0) ∧
        Takes accepts (least - 1) (most.map (· - 1)) taken := by
  constructor
  · rintro ⟨hchars, hleast, hmost⟩
    have hzero : most ≠ some 0 := by
      rintro rfl
      exact Nat.not_succ_le_zero _ (hmost 0 rfl)
    refine ⟨⟨hchars c List.mem_cons_self, hzero⟩, ?_, Nat.sub_le_of_le_add hleast, ?_⟩
    · exact fun d hd => hchars d (List.mem_cons_of_mem c hd)
    · intro m hm
      obtain ⟨n, hn, rfl⟩ := Option.map_eq_some_iff.1 hm
      exact Nat.le_sub_one_of_lt (hmost n hn)
  · rintro ⟨⟨hc, hzero⟩, hchars, hleast, hmost⟩
    refine ⟨List.forall_mem_cons.2 ⟨hc, hchars⟩, Nat.le_add_of_sub_le hleast, ?_⟩
    rintro m rfl
    have hpos : m ≠ 0 := fun h => hzero (by rw [h])
    have hm := hmost (m - 1) rfl
    rw [List.length_cons]
    omega

/-- By induction on the text, as the run takes nothing more or one more character. -/
theorem mem_runRests_iff {cs rest : List Char} :
    rest ∈ runRests accepts least most cs ↔
      ∃ taken, cs = taken ++ rest ∧ Takes accepts least most taken := by
  induction cs generalizing least most with
  | nil =>
    simp only [List.nil_eq_append_iff, and_assoc, exists_eq_left, takes_nil_iff]
    by_cases hleast : least = 0 <;> simp [runRests, hleast]
  | cons c cs ih =>
    simp only [List.cons_eq_append_iff, or_and_right, exists_or, and_assoc, exists_eq_left,
      takes_nil_iff]
    rw [runRests, List.mem_append]
    refine or_congr ?_ ?_
    · by_cases hleast : least = 0 <;> simp [hleast]
    · by_cases hc : accepts c = true ∧ most ≠ some 0
      · rw [if_pos hc, ih]
        constructor
        · rintro ⟨taken, heq, htaken⟩
          exact ⟨c :: taken, ⟨taken, rfl, heq⟩, takes_cons_iff.2 ⟨hc, htaken⟩⟩
        · rintro ⟨_, ⟨taken, rfl, heq⟩, htaken⟩
          exact ⟨taken, heq, (takes_cons_iff.1 htaken).2⟩
      · rw [if_neg hc]
        refine iff_of_false List.not_mem_nil ?_
        rintro ⟨_, ⟨taken, rfl, -⟩, htaken⟩
        exact hc (takes_cons_iff.1 htaken).1

end Run

/-- The pattern takes some initial part of the text. -/
def Matches (pattern : List Item) (cs : List Char) : Prop :=
  ∃ rest, rest ∈ rests pattern cs

theorem accepts_iff_matches (p : Pattern) (s : String) :
    p.accepts s = true ↔ Matches p s.toList := by
  rw [accepts, Bool.not_eq_true', List.isEmpty_eq_false_iff_exists_mem, Matches]

theorem matches_nil (cs : List Char) : Matches [] cs :=
  ⟨cs, by simp [rests]⟩

theorem matches_cons_iff {item : Item} {items : List Item} {cs : List Char} :
    Matches (item :: items) cs ↔ ∃ after ∈ itemRests item cs, Matches items after := by
  simp only [Matches, rests, List.mem_flatMap]
  constructor
  · rintro ⟨rest, after, hafter, hrest⟩
    exact ⟨after, hafter, rest, hrest⟩
  · rintro ⟨after, hafter, rest, hrest⟩
    exact ⟨rest, after, hafter, hrest⟩

theorem matches_run_iff {accepts : Char → Bool} {least : Nat} {most : Option Nat}
    {items : List Item} {cs : List Char} :
    Matches (.run accepts least most :: items) cs ↔
      ∃ taken rest, cs = taken ++ rest ∧ Takes accepts least most taken ∧ Matches items rest := by
  rw [matches_cons_iff]
  constructor
  · rintro ⟨rest, hrest, hmatches⟩
    rw [itemRests, mem_runRests_iff] at hrest
    obtain ⟨taken, heq, htaken⟩ := hrest
    exact ⟨taken, rest, heq, htaken, hmatches⟩
  · rintro ⟨taken, rest, heq, htaken, hmatches⟩
    refine ⟨rest, ?_, hmatches⟩
    rw [itemRests, mem_runRests_iff]
    exact ⟨taken, heq, htaken⟩

theorem matches_refuse_iff {pattern items : List Item} {cs : List Char} :
    Matches (.refuse pattern :: items) cs ↔ ¬ Matches pattern cs ∧ Matches items cs := by
  rw [matches_cons_iff, itemRests, Matches, ← List.isEmpty_eq_false_iff_exists_mem]
  by_cases h : (rests pattern cs).isEmpty = true
  · simp [h]
  · simp [h]

theorem matches_finish_iff {cs : List Char} :
    Matches [.finish] cs ↔ cs = [] ∨ cs = ['\n'] := by
  rw [matches_cons_iff, itemRests, atEnd]
  by_cases h : cs = [] ∨ cs = ['\n']
  · simp [h, matches_nil]
  · simp [h]

end CloudCanvas.Text.Pattern
