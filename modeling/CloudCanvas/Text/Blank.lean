/-!
Blank characters and what is done with them: stripping both ends of a text, removing every blank,
and joining the words of a text by hyphens. A text is blank when nothing is left after stripping.
Addresses and paths are stripped of the slashes at their end.
-/

namespace CloudCanvas.Text

def isBlank (c : Char) : Bool :=
  let n := c.toNat
  (9 ≤ n && n ≤ 13) || (0x1c ≤ n && n ≤ 0x20) || n == 0x85 || n == 0xa0 || n == 0x1680 ||
    (0x2000 ≤ n && n ≤ 0x200a) || n == 0x2028 || n == 0x2029 || n == 0x202f || n == 0x205f ||
    n == 0x3000

/-- The blanks that may stand around a number: all but the four separators of information. -/
def isPadding (c : Char) : Bool :=
  isBlank c && !(0x1c ≤ c.toNat && c.toNat ≤ 0x1f)

def dropEnds (drop : Char → Bool) (cs : List Char) : List Char :=
  ((cs.dropWhile drop).reverse.dropWhile drop).reverse

/-- Only characters to be dropped are dropped. -/
theorem exists_append_dropEnds (drop : Char → Bool) (cs : List Char) :
    ∃ before after, cs = before ++ dropEnds drop cs ++ after ∧
      (∀ c ∈ before, drop c) ∧ ∀ c ∈ after, drop c := by
  refine ⟨cs.takeWhile drop, ((cs.dropWhile drop).reverse.takeWhile drop).reverse, ?_, ?_, ?_⟩
  · rw [dropEnds, List.append_assoc, ← List.reverse_append, List.takeWhile_append_dropWhile,
      List.reverse_reverse, List.takeWhile_append_dropWhile]
  · exact List.all_eq_true.1 List.all_takeWhile
  · intro c hc
    exact List.all_eq_true.1 List.all_takeWhile c (List.mem_reverse.1 hc)

theorem dropEnds_eq_nil_iff (drop : Char → Bool) (cs : List Char) :
    dropEnds drop cs = [] ↔ ∀ c ∈ cs, drop c := by
  constructor
  · intro h
    obtain ⟨before, after, eq, hbefore, hafter⟩ := exists_append_dropEnds drop cs
    rw [h, List.append_nil] at eq
    intro c hc
    rw [eq] at hc
    exact (List.mem_append.1 hc).elim (hbefore c) (hafter c)
  · intro h
    have hnil : cs.dropWhile drop = [] := by
      induction cs with
      | nil => rfl
      | cons c rest ih =>
        rw [List.dropWhile_cons_of_pos (h c (by simp))]
        exact ih fun d hd => h d (by simp [hd])
    simp [dropEnds, hnil]

theorem dropWhile_append_of_keep {drop : Char → Bool} {cs : List Char} (rest : List Char)
    (h : ∀ c ∈ cs, drop c = false) (hne : cs ≠ []) : (cs ++ rest).dropWhile drop = cs ++ rest := by
  obtain ⟨c, cs, rfl⟩ := List.exists_cons_of_ne_nil hne
  exact List.dropWhile_cons_of_neg (by simp [h])

/-- What is left of three stretches of which the outer ones are to be dropped, and nothing in the
middle one is. -/
theorem dropEnds_append {drop : Char → Bool} {before w after : List Char}
    (hbefore : ∀ c ∈ before, drop c) (hw : ∀ c ∈ w, drop c = false) (hafter : ∀ c ∈ after, drop c) :
    dropEnds drop (before ++ w ++ after) = w := by
  by_cases hne : w = []
  · subst hne
    rw [dropEnds_eq_nil_iff]
    intro c hc
    rw [List.append_nil] at hc
    exact (List.mem_append.1 hc).elim (hbefore c) (hafter c)
  · have hfront : (before ++ w ++ after).dropWhile drop = w ++ after := by
      rw [List.append_assoc, List.dropWhile_append_of_pos hbefore,
        dropWhile_append_of_keep after hw hne]
    have hback : (w ++ after).reverse.dropWhile drop = w.reverse := by
      rw [List.reverse_append, List.dropWhile_append_of_pos (by simpa using hafter),
        ← List.append_nil w.reverse,
        dropWhile_append_of_keep [] (by simpa using hw) (by simpa using hne)]
    rw [dropEnds, hfront, hback, List.reverse_reverse]

def stripChars (cs : List Char) : List Char :=
  dropEnds isBlank cs

def strip (s : String) : String :=
  String.ofList (stripChars s.toList)

theorem length_strip_le (s : String) : (strip s).length ≤ s.length := by
  obtain ⟨before, after, eq, -, -⟩ := exists_append_dropEnds isBlank s.toList
  have hlength := congrArg List.length eq
  rw [List.length_append, List.length_append, ← stripChars] at hlength
  rw [← String.length_toList, ← String.length_toList, strip, String.toList_ofList]
  omega

def isBlankText (s : String) : Bool :=
  s.toList.all isBlank

theorem ne_empty_of_not_blank {s : String} (h : isBlankText s = false) : s ≠ "" := by
  rintro rfl
  exact absurd h (by decide)

theorem isBlankText_iff_strip_eq (s : String) : isBlankText s = true ↔ strip s = "" := by
  rw [strip, stripChars, ← String.toList_inj, String.toList_ofList, String.toList_empty,
    dropEnds_eq_nil_iff, isBlankText, List.all_eq_true]

/-- The text without the slashes at its end. -/
def trimSlashes (s : String) : String :=
  String.ofList (s.toList.reverse.dropWhile (· == '/')).reverse

def removeBlanks (s : String) : String :=
  String.ofList (s.toList.filter (!isBlank ·))

/-- Each run of blanks becomes one hyphen; `inRun` tells that the run has begun already. -/
def hyphenateFrom (inRun : Bool) : List Char → List Char
  | [] => []
  | c :: rest =>
    if isBlank c then
      if inRun then hyphenateFrom true rest else '-' :: hyphenateFrom true rest
    else
      c :: hyphenateFrom false rest

theorem not_blank_of_mem_hyphenateFrom {inRun : Bool} {cs : List Char} {c : Char}
    (h : c ∈ hyphenateFrom inRun cs) : isBlank c = false := by
  induction cs generalizing inRun with
  | nil => cases h
  | cons d rest ih =>
    unfold hyphenateFrom at h
    split at h
    · split at h
      · exact ih h
      · rcases List.mem_cons.1 h with rfl | h
        · decide
        · exact ih h
    · rcases List.mem_cons.1 h with rfl | h
      · simp_all
      · exact ih h

theorem hyphenateFrom_of_not_blank {inRun : Bool} {cs : List Char}
    (h : ∀ c ∈ cs, isBlank c = false) : hyphenateFrom inRun cs = cs := by
  induction cs generalizing inRun with
  | nil => rfl
  | cons d rest ih => simp_all [hyphenateFrom]

def hyphenate (s : String) : String :=
  String.ofList (hyphenateFrom false s.toList)

end CloudCanvas.Text
