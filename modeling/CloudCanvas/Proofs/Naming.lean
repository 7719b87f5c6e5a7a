import CloudCanvas.Naming
import CloudCanvas.Proofs.Number.Numeral
import CloudCanvas.Proofs.Text.Blank
import CloudCanvas.Proofs.Text.Case

/-!
Resource names do not change when they are made into names again. A name that is not blank gives
an identifier that is not empty, since lowercase forms and hyphens replace characters and never
drop the last one; so such a name takes nothing from the counter.
-/

namespace CloudCanvas.Naming

/-- A name that is settled: making a resource name of it gives it back, whatever the counter. -/
structure IsSettled (name : String) : Prop where
  ne_empty : name ≠ ""
  not_blank : ∀ c ∈ name.toList, Text.isBlank c = false
  sanitize_eq : ∀ counter, sanitize name counter = (name, counter)

theorem sanitize_of_ne_empty {name : String} (h : identifier name ≠ "") (counter : Int) :
    sanitize name counter = (identifier name, counter) := by
  simp only [sanitize, if_neg h]

theorem identifier_eq_self {name : String} (hblank : ∀ c ∈ name.toList, Text.isBlank c = false)
    (hlower : ∀ c ∈ name.toList, Text.IsLower c) : identifier name = name := by
  rw [identifier, Text.strip_of_not_blank hblank, Text.lower_of_isLower hlower,
    Text.hyphenate_of_not_blank hblank]

theorem isSettled_of_chars {name : String} (hne : name ≠ "")
    (hblank : ∀ c ∈ name.toList, Text.isBlank c = false)
    (hlower : ∀ c ∈ name.toList, Text.IsLower c) : IsSettled name := by
  have hself : identifier name = name := identifier_eq_self hblank hlower
  refine ⟨hne, hblank, fun counter => ?_⟩
  rw [sanitize_of_ne_empty (by rwa [hself]), hself]

theorem isLower_hyphen : Text.IsLower '-' :=
  Text.isLower_of_lt (by decide)

theorem identifier_ne_empty {name : String} (h : Text.strip name ≠ "") : identifier name ≠ "" := by
  have hchars : (Text.strip name).toList ≠ [] := by simpa using h
  have hlower : (Text.lower (Text.strip name)).toList ≠ [] := by
    rw [Text.lower, String.toList_ofList]
    exact Text.lowerFrom_ne_nil hchars []
  have hjoined : (identifier name).toList ≠ [] := by
    rw [identifier, Text.hyphenate, String.toList_ofList]
    exact Text.hyphenateFrom_ne_nil hlower
  simpa using hjoined

theorem not_blank_of_mem_identifier {name : String} {c : Char}
    (h : c ∈ (identifier name).toList) : Text.isBlank c = false :=
  Text.not_blank_of_mem_hyphenate h

/-- Everything in an identifier is a lowercase form or a hyphen. -/
theorem isLower_of_mem_identifier {name : String} {c : Char}
    (h : c ∈ (identifier name).toList) : Text.IsLower c := by
  rw [identifier, Text.hyphenate, String.toList_ofList] at h
  rcases Text.mem_hyphenateFrom h with hlower | rfl
  · exact Text.isLower_of_mem_lower hlower
  · exact isLower_hyphen

theorem isSettled_identifier {name : String} (h : Text.strip name ≠ "") :
    IsSettled (identifier name) :=
  isSettled_of_chars (identifier_ne_empty h) (fun _ => not_blank_of_mem_identifier)
    fun _ => isLower_of_mem_identifier

theorem mem_numberedName {n : Int} {c : Char} (h : c ∈ (numberedName n).toList) :
    c ∈ ['r', 'e', 's', '-'] ∨ c.isDigit = true := by
  rw [numberedName, String.toList_append] at h
  rcases List.mem_append.1 h with hword | htext
  · exact Or.inl hword
  rw [String.toList_ofList] at htext
  rcases Number.mem_intText htext with rfl | hdigit
  · exact Or.inl (by decide)
  · exact Or.inr hdigit

theorem isLower_of_isDigit {c : Char} (h : c.isDigit = true) : Text.IsLower c := by
  rw [Char.isDigit, Bool.and_eq_true, decide_eq_true_eq, decide_eq_true_eq] at h
  have hlast : c.toNat ≤ '9'.toNat := h.2
  have hbefore : '9'.toNat < 'A'.toNat := by decide
  exact Text.isLower_of_lt (by omega)

theorem isSettled_numberedName (n : Int) : IsSettled (numberedName n) := by
  apply isSettled_of_chars
  · intro hempty
    have hchars := congrArg String.toList hempty
    rw [numberedName, String.toList_append] at hchars
    exact List.append_ne_nil_of_left_ne_nil (by decide) _ hchars
  · intro c hc
    rcases mem_numberedName hc with hword | hdigit
    · have hall : (['r', 'e', 's', '-'].all fun d => !Text.isBlank d) = true := by decide
      simpa using List.all_eq_true.1 hall c hword
    · exact Text.isBlank_of_isDigit hdigit
  · intro c hc
    rcases mem_numberedName hc with hword | hdigit
    · have hself : Text.lower "res-" = "res-" := by decide +kernel
      have hmem : c ∈ (Text.lower "res-").toList := by rwa [hself]
      exact Text.isLower_of_mem_lower hmem
    · exact isLower_of_isDigit hdigit

end CloudCanvas.Naming
