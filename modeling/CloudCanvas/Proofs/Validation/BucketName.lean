import CloudCanvas.Proofs.Text.Blank
import CloudCanvas.Proofs.Text.Pattern
import CloudCanvas.Text.Blank
import CloudCanvas.Validation.BucketName
import Mathlib.Data.List.Infix

/-!
The language of bucket names. The pattern accepts exactly the texts that follow the rules of
names, alone or with one line break behind them; each rule that the pattern refuses by looking
ahead is a rule about the name, because nothing it looks for lies in a line break.
-/

namespace CloudCanvas.BucketName

open Text Text.Pattern

/-- From 3 to 63 characters, with a letter or a digit at both ends. -/
structure IsSpelled (w : List Char) : Prop where
  least : 3 ≤ w.length
  most : w.length ≤ 63
  chars : ∀ c ∈ w, isNameChar c = true
  first : ∀ c ∈ w.head?, isNameEnd c = true
  last : ∀ c ∈ w.getLast?, isNameEnd c = true

/-- The rules of bucket names. -/
structure IsName (w : List Char) : Prop extends IsSpelled w where
  noDoubleHyphen : ¬ ['-', '-'] <:+: w
  noHyphenAfterDot : ¬ ['.', '-'] <:+: w
  noNumberFirst : ∀ digits rest, w = digits ++ '.' :: rest → digits ≠ [] →
    ¬ ∀ c ∈ digits, c.isDigit = true

/-- What may stand behind a name. -/
def IsTail (tail : List Char) : Prop :=
  tail = [] ∨ tail = ['\n']

section Items

variable {items : List Item} {cs : List Char}

theorem matches_one_iff {accepts : Char → Bool} :
    Matches (one accepts :: items) cs ↔
      ∃ c rest, cs = c :: rest ∧ accepts c = true ∧ Matches items rest := by
  rw [one, matches_run_iff]
  constructor
  · rintro ⟨taken, rest, rfl, htaken, hrest⟩
    have hone : taken.length = 1 := Nat.le_antisymm (htaken.most 1 rfl) htaken.least
    obtain ⟨c, rfl⟩ := List.length_eq_one_iff.1 hone
    exact ⟨c, rest, rfl, htaken.chars c List.mem_cons_self, hrest⟩
  · rintro ⟨c, rest, rfl, hc, hrest⟩
    exact ⟨[c], rest, rfl, ⟨by simpa using hc, by simp, by simp⟩, hrest⟩

theorem matches_anywhereInLine_iff :
    Matches (anywhereInLine :: items) cs ↔
      ∃ before rest, cs = before ++ rest ∧ '\n' ∉ before ∧ Matches items rest := by
  rw [anywhereInLine, matches_run_iff]
  constructor
  · rintro ⟨before, rest, rfl, hbefore, hrest⟩
    refine ⟨before, rest, rfl, fun hmem => ?_, hrest⟩
    simpa using hbefore.chars _ hmem
  · rintro ⟨before, rest, rfl, hline, hrest⟩
    refine ⟨before, rest, rfl, ⟨fun c hc => ?_, Nat.zero_le _, by simp⟩, hrest⟩
    simp only [bne_iff_ne, ne_eq]
    rintro rfl
    exact hline hc

end Items

/-- What begins in a text and holds no line break ends before the line break at its end. -/
theorem exists_rest {w tail : List Char} (htail : IsTail tail) (before part : List Char)
    {rest : List Char} (hpart : part ≠ []) (hline : '\n' ∉ part)
    (h : w ++ tail = before ++ (part ++ rest)) : ∃ rest', w = before ++ part ++ rest' := by
  rw [← List.append_assoc] at h
  rcases htail with rfl | rfl
  · exact ⟨rest, by rw [← h, List.append_nil]⟩
  · rcases List.eq_nil_or_concat rest with rfl | ⟨rest', c, rfl⟩
    · obtain ⟨part', c, rfl⟩ := (List.eq_nil_or_concat part).resolve_left hpart
      rw [List.append_nil, List.concat_eq_append, ← List.append_assoc] at h
      obtain ⟨-, hc⟩ := List.append_singleton_inj.1 h
      exact absurd (by rw [hc, List.concat_eq_append]; simp) hline
    · rw [List.concat_eq_append, ← List.append_assoc] at h
      exact ⟨rest', (List.append_singleton_inj.1 h).1⟩

theorem isNameChar_of_isNameEnd {c : Char} (h : isNameEnd c = true) : isNameChar c = true := by
  simp [isNameChar, h]

theorem toNat_lt_of_isNameChar {c : Char} (h : isNameChar c = true) : c.toNat < 128 := by
  simp only [isNameChar, isNameEnd, Bool.or_eq_true, Bool.and_eq_true, decide_eq_true_eq,
    beq_iff_eq] at h
  rcases h with ((⟨-, hletter⟩ | ⟨-, hdigit⟩) | rfl) | rfl
  · have hz : c.toNat ≤ 122 := hletter
    omega
  · have hnine : c.toNat ≤ 57 := hdigit
    omega
  · decide
  · decide

/-- Of the digits of all scripts only the ordinary ones are this low. -/
theorem isSome_digitValue? {c : Char} (h : c.toNat < 128) :
    (digitValue? c).isSome = c.isDigit := by
  have hall : ∀ n < 128, (digitValue? (Char.ofNat n)).isSome = (Char.ofNat n).isDigit := by
    decide
  simpa using hall c.toNat h

theorem isBlank_of_isNameChar {c : Char} (h : isNameChar c = true) : isBlank c = false := by
  have hall : ∀ n < 128, isNameChar (Char.ofNat n) = true → isBlank (Char.ofNat n) = false := by
    decide
  simpa using hall c.toNat (toNat_lt_of_isNameChar h) (by simpa using h)

theorem IsSpelled.newline_notMem {w : List Char} (hw : IsSpelled w) : '\n' ∉ w := by
  intro h
  exact absurd (hw.chars _ h) (by decide)

theorem matches_spelled_iff {cs : List Char} :
    Matches [one isNameEnd, .run isNameChar 1 (some 61), one isNameEnd, .finish] cs ↔
      ∃ w tail, cs = w ++ tail ∧ IsTail tail ∧ IsSpelled w := by
  simp only [matches_one_iff, matches_run_iff, matches_finish_iff]
  constructor
  · rintro ⟨a, _, rfl, ha, middle, _, rfl, ⟨hmiddle, hleast, hmost⟩, b, tail, rfl, hb, htail⟩
    have hmost' : middle.length ≤ 61 := hmost 61 rfl
    refine ⟨a :: (middle ++ [b]), tail, by simp, htail, ?_, ?_, ?_, ?_, ?_⟩
    · simp only [List.length_cons, List.length_append, List.length_nil]
      omega
    · simp only [List.length_cons, List.length_append, List.length_nil]
      omega
    · intro c hc
      rw [List.mem_cons, List.mem_append, List.mem_singleton] at hc
      rcases hc with rfl | hc | rfl
      · exact isNameChar_of_isNameEnd ha
      · exact hmiddle c hc
      · exact isNameChar_of_isNameEnd hb
    · simpa using ha
    · rw [← List.cons_append, List.getLast?_concat]
      simpa using hb
  · rintro ⟨w, tail, rfl, htail, hw⟩
    have hleast := hw.least
    have hmost := hw.most
    obtain ⟨a, inner, rfl⟩ := List.exists_cons_of_length_pos (show 0 < w.length by omega)
    rcases List.eq_nil_or_concat inner with rfl | ⟨middle, b, rfl⟩
    · simp at hleast
    rw [List.concat_eq_append] at *
    simp only [List.length_cons, List.length_append, List.length_nil] at hleast hmost
    refine ⟨a, _, rfl, hw.first a rfl, middle, b :: tail, by simp, ⟨?_, by omega, ?_⟩,
      b, tail, rfl, hw.last b ?_, htail⟩
    · exact fun c hc => hw.chars c (by simp [hc])
    · rintro m hm
      cases hm
      omega
    · rw [← List.cons_append, List.getLast?_concat]
      rfl

section Lookahead

variable {w tail : List Char} (hw : IsSpelled w) (htail : IsTail tail)
include hw htail

theorem matches_pair_iff (a b : Char) (ha : a ≠ '\n') (hb : b ≠ '\n') :
    Matches [anywhereInLine, one (· == a), one (· == b)] (w ++ tail) ↔ [a, b] <:+: w := by
  simp only [matches_anywhereInLine_iff, matches_one_iff, beq_iff_eq]
  constructor
  · rintro ⟨before, _, heq, -, a', _, rfl, ha', b', rest, rfl, hb', -⟩
    rw [ha', hb'] at heq
    obtain ⟨rest', hsplit⟩ := exists_rest htail before [a, b] (by simp)
      (by simp [Ne.symm ha, Ne.symm hb]) heq
    exact ⟨before, rest', hsplit.symm⟩
  · rintro ⟨before, rest, rfl⟩
    have hline : '\n' ∉ before := fun h => hw.newline_notMem (by simp [h])
    refine ⟨before, a :: b :: (rest ++ tail), by simp, hline, ?_⟩
    exact ⟨a, _, rfl, rfl, b, _, rfl, rfl, matches_nil _⟩

theorem not_matches_dot_finish :
    ¬ Matches [anywhereInLine, one (· == '.'), .finish] (w ++ tail) := by
  simp only [matches_anywhereInLine_iff, matches_one_iff, matches_finish_iff, beq_iff_eq]
  rintro ⟨before, _, heq, -, _, finish, rfl, rfl, hfinish⟩
  obtain ⟨rest, rfl⟩ := exists_rest htail before ['.'] (by simp) (by decide) heq
  have hrest : rest ++ tail = finish := by simpa using heq
  rcases List.eq_nil_or_concat rest with rfl | ⟨rest', c, rfl⟩
  · exact absurd (hw.last '.' (by simp)) (by decide)
  · -- What is left after the dot is at most a line break, and a name holds none.
    have hline : ∀ d ∈ finish, d = '\n' := by rcases hfinish with rfl | rfl <;> simp
    have hc : c = '\n' := hline c (by simp [← hrest])
    exact hw.newline_notMem (by simp [hc])

theorem not_matches_hyphen : ¬ Matches [one (· == '-')] (w ++ tail) := by
  simp only [matches_one_iff, beq_iff_eq]
  rintro ⟨_, rest, heq, rfl, -⟩
  obtain ⟨rest', rfl⟩ := exists_rest htail [] ['-'] (by simp) (by decide) heq
  exact absurd (hw.first '-' rfl) (by decide)

theorem matches_number_iff :
    Matches [.run (fun c => (digitValue? c).isSome) 1 none, one (· == '.')] (w ++ tail) ↔
      ∃ digits rest, w = digits ++ '.' :: rest ∧ digits ≠ [] ∧
        ∀ c ∈ digits, c.isDigit = true := by
  simp only [matches_run_iff, matches_one_iff, beq_iff_eq]
  constructor
  · rintro ⟨digits, _, heq, ⟨hdigits, hleast, -⟩, _, rest, rfl, rfl, -⟩
    obtain ⟨rest', hsplit⟩ := exists_rest htail digits ['.'] (by simp) (by decide) heq
    refine ⟨digits, rest', by simpa using hsplit, List.ne_nil_of_length_pos hleast, ?_⟩
    intro c hc
    have hchar : isNameChar c = true := hw.chars c (by simp [hsplit, hc])
    rw [← isSome_digitValue? (toNat_lt_of_isNameChar hchar)]
    exact hdigits c hc
  · rintro ⟨digits, rest, rfl, hne, hdigits⟩
    refine ⟨digits, _, by simp, ⟨?_, List.length_pos_of_ne_nil hne, by simp⟩, '.', rest ++ tail,
      rfl, rfl, matches_nil _⟩
    intro c hc
    have hchar : isNameChar c = true := hw.chars c (by simp [hc])
    rw [isSome_digitValue? (toNat_lt_of_isNameChar hchar)]
    exact hdigits c hc

end Lookahead

/-- The pattern accepts the names, with or without a line break behind them. -/
theorem accepts_iff (s : String) :
    accepts s = true ↔ ∃ w tail, s.toList = w ++ tail ∧ IsTail tail ∧ IsName w := by
  simp only [accepts, accepts_iff_matches, pattern, matches_refuse_iff, matches_spelled_iff]
  constructor
  · rintro ⟨hnumber, -, hdouble, -, hdot, w, tail, heq, htail, hw⟩
    rw [heq] at hnumber hdouble hdot
    refine ⟨w, tail, heq, htail, hw, ?_, ?_, ?_⟩
    · rwa [matches_pair_iff hw htail '-' '-' (by decide) (by decide)] at hdouble
    · rwa [matches_pair_iff hw htail '.' '-' (by decide) (by decide)] at hdot
    · intro digits rest hsplit hne hdigits
      rw [matches_number_iff hw htail] at hnumber
      exact hnumber ⟨digits, rest, hsplit, hne, hdigits⟩
  · rintro ⟨w, tail, heq, htail, hw⟩
    have hspelled := hw.toIsSpelled
    rw [heq]
    refine ⟨?_, not_matches_hyphen hspelled htail, ?_, not_matches_dot_finish hspelled htail, ?_,
      w, tail, rfl, htail, hspelled⟩
    · rw [matches_number_iff hspelled htail]
      rintro ⟨digits, rest, hsplit, hne, hdigits⟩
      exact hw.noNumberFirst digits rest hsplit hne hdigits
    · rw [matches_pair_iff hspelled htail '-' '-' (by decide) (by decide)]
      exact hw.noDoubleHyphen
    · rw [matches_pair_iff hspelled htail '.' '-' (by decide) (by decide)]
      exact hw.noHyphenAfterDot

theorem IsName.stripChars_append {w : List Char} (hw : IsName w) {before after : List Char}
    (hbefore : ∀ c ∈ before, isBlank c) (hafter : ∀ c ∈ after, isBlank c) :
    stripChars (before ++ w ++ after) = w :=
  dropEnds_append hbefore (fun c hc => isBlank_of_isNameChar (hw.chars c hc)) hafter

theorem IsTail.isBlank {tail : List Char} (htail : IsTail tail) : ∀ c ∈ tail, isBlank c := by
  rcases htail with rfl | rfl
  · exact List.forall_mem_nil _
  · exact List.forall_mem_singleton.2 rfl

/-- A line break behind a name does not survive stripping. -/
theorem accepts_strip_iff (s : String) :
    accepts (strip s) = true ↔ IsName (stripChars s.toList) := by
  rw [accepts_iff, strip, String.toList_ofList]
  constructor
  · rintro ⟨w, tail, heq, htail, hw⟩
    obtain ⟨before, after, hs, hbefore, hafter⟩ := exists_append_dropEnds isBlank s.toList
    have hs' : s.toList = before ++ w ++ (tail ++ after) := by
      rw [hs, ← stripChars, heq]
      simp
    have hstripped : stripChars s.toList = w := by
      rw [hs']
      refine hw.stripChars_append hbefore fun c hc => ?_
      exact (List.mem_append.1 hc).elim (htail.isBlank c) (hafter c)
    rwa [hstripped]
  · intro hw
    exact ⟨_, [], (List.append_nil _).symm, .inl rfl, hw⟩

/-- Around a name the pattern bears one line break behind it and no other blank. -/
theorem accepts_iff_of_accepts_strip {s : String} (h : accepts (strip s) = true) :
    accepts s = true ↔ s = strip s ∨ s = strip s ++ "\n" := by
  rw [accepts_strip_iff] at h
  rw [accepts_iff, strip, ← String.toList_inj, ← String.toList_inj, String.toList_append,
    String.toList_ofList]
  constructor
  · rintro ⟨w, tail, heq, htail, hw⟩
    have hstripped : stripChars s.toList = w := by
      rw [heq]
      exact hw.stripChars_append (List.forall_mem_nil _) htail.isBlank
    rw [hstripped, heq]
    rcases htail with rfl | rfl <;> simp
  · rintro (heq | heq)
    · exact ⟨_, [], by rw [List.append_nil]; exact heq, .inl rfl, h⟩
    · exact ⟨_, _, heq, .inr rfl, h⟩

/-- The pattern accepts the names, with or without a line break behind them, and nothing else. No
line break is left behind a stripped text, which is accepted just when it is a name. -/
theorem accepts_exactly (s : String) :
    (accepts s = true ↔
      ∃ w, IsName w ∧ (s = String.ofList w ∨ s = String.ofList w ++ "\n")) ∧
    (∀ t, strip s ≠ t ++ "\n") ∧
    (accepts (strip s) = true ↔ IsName (strip s).toList) := by
  refine ⟨?_, strip_ne_append_newline s, ?_⟩
  · rw [accepts_iff]
    constructor
    · rintro ⟨w, tail, heq, rfl | rfl, hw⟩
      · exact ⟨w, hw, .inl (String.toList_inj.1 (by simp [heq]))⟩
      · exact ⟨w, hw, .inr (String.toList_inj.1 (by simp [heq]))⟩
    · rintro ⟨w, hw, rfl | rfl⟩
      · exact ⟨w, [], by simp, .inl rfl, hw⟩
      · exact ⟨w, ['\n'], by simp, .inr rfl, hw⟩
  · rw [accepts_strip_iff, strip, String.toList_ofList]

end CloudCanvas.BucketName
