import CloudCanvas.Proofs.Document.Reader
import Mathlib.Data.List.Infix

/-!
How deep a text may be to be read. Each reader leaves an end of its text, so a container is opened
by a mark of its own. A text with no more of these marks than there is room for is never too deep,
whatever it holds.
-/

namespace CloudCanvas.Document

open Text (Point Textual)

theorem skipGap_suffix (cs : List Char) : skipGap cs <:+ cs :=
  List.dropWhile_suffix isGap

/-- What stands behind a mark that comes after a gap. -/
theorem suffix_behind_bracket {c : Char} {after later cs : List Char}
    (hmark : skipGap after = c :: later) (hafter : after <:+ cs) : later <:+ cs := by
  have hlater : later <:+ skipGap after := hmark ▸ List.suffix_cons c later
  exact hlater.trans ((skipGap_suffix after).trans hafter)

/-- What stands behind such a mark and the gap after it. -/
theorem suffix_behind_mark {c : Char} {after later cs : List Char}
    (hmark : skipGap after = c :: later) (hafter : after <:+ cs) : skipGap later <:+ cs :=
  (skipGap_suffix later).trans (suffix_behind_bracket hmark hafter)

theorem suffix_of_map_readString {cs rest : List Char} {p : Point} {ps : List Point}
    (ih : ∀ {rest ps}, readString cs = some (ps, rest) → rest <:+ cs)
    (h : (readString cs).map (fun (ps, rest) => (p :: ps, rest)) = some (ps, rest)) :
    rest <:+ cs := by
  obtain ⟨⟨_, _⟩, hread, heq⟩ := Option.map_eq_some_iff.1 h
  cases heq
  exact ih hread

theorem suffix_of_readString {cs rest : List Char} {ps : List Point}
    (h : readString cs = some (ps, rest)) : rest <:+ cs := by
  fun_induction readString cs generalizing ps rest with
  | case1 => cases h
  | case2 =>
    cases h
    exact List.suffix_cons _ _
  | case3 => cases h
  | case4 a b c d unit _ i j k l after _ _ ih =>
    exact (suffix_of_map_readString ih h).trans
      (List.suffix_append ['\\', 'u', a, b, c, d, '\\', 'u', i, j, k, l] after)
  | case5 a b c d unit _ i j k l after _ ih =>
    exact (suffix_of_map_readString ih h).trans (List.suffix_append ['\\', 'u', a, b, c, d] _)
  | case6 a b c d unit _ after _ ih =>
    exact (suffix_of_map_readString ih h).trans (List.suffix_append ['\\', 'u', a, b, c, d] after)
  | case7 => cases h
  | case8 c after _ _ _ ih =>
    exact (suffix_of_map_readString ih h).trans (List.suffix_append ['\\', c] after)
  | case9 => cases h
  | case10 c after _ _ _ _ ih =>
    exact (suffix_of_map_readString ih h).trans (List.suffix_cons c after)

/-- What stands behind a text and its opening mark. -/
theorem suffix_behind_quote {cs rest : List Char} {ps : List Point}
    (h : readString cs = some (ps, rest)) : rest <:+ '"' :: cs :=
  (suffix_of_readString h).trans (List.suffix_cons '"' cs)

theorem splitPoint_suffix (cs : List Char) : (splitPoint cs).2 <:+ cs := by
  unfold splitPoint
  split
  · next c rest =>
    split
    · exact (List.dropWhile_suffix _).trans (List.suffix_append ['.', c] rest)
    · exact List.suffix_refl _
  · exact List.suffix_refl _

theorem splitSign_suffix (cs : List Char) : (Numeral.splitSign cs).2 <:+ cs := by
  unfold Numeral.splitSign
  split
  · exact List.suffix_cons _ _
  · exact List.suffix_cons _ _
  · exact List.suffix_refl _

theorem suffix_of_splitExponent {cs rest : List Char} {e : Int}
    (h : splitExponent cs = some (e, rest)) : rest <:+ cs := by
  unfold splitExponent at h
  split at h
  · cases h
  · next c after =>
    dsimp only at h
    split at h
    · cases h
      exact (List.dropWhile_suffix _).trans
        ((splitSign_suffix after).trans (List.suffix_cons c after))
    · cases h

theorem suffix_of_unsigned? {most : Nat} {negative : Bool} {cs rest : List Char} {n : Number}
    (h : unsigned? most negative cs = some (n, rest)) : rest <:+ cs := by
  have hpoint : (splitPoint (cs.dropWhile Char.isDigit)).2 <:+ cs :=
    (splitPoint_suffix _).trans (List.dropWhile_suffix _)
  unfold unsigned? at h
  dsimp only at h
  split at h
  · cases h
  · split at h
    · next hexponent =>
      cases h
      exact (suffix_of_splitExponent hexponent).trans hpoint
    · split at h
      · cases h
        exact hpoint
      · split at h
        · cases h
          exact hpoint
        · cases h

theorem suffix_of_readNumber {most : Nat} {cs rest : List Char} {n : Number}
    (h : readNumber most cs = some (n, rest)) : rest <:+ cs := by
  unfold readNumber at h
  split at h
  · exact (suffix_of_unsigned? h).trans (List.suffix_cons _ _)
  · exact suffix_of_unsigned? h

theorem suffix_of_readSpecial {cs rest : List Char} {n : Number}
    (h : readSpecial cs = some (n, rest)) : rest <:+ cs := by
  unfold readSpecial at h
  split at h
  · cases h
    exact List.suffix_append ['N', 'a', 'N'] rest
  · cases h
    exact List.suffix_append ['I', 'n', 'f', 'i', 'n', 'i', 't', 'y'] rest
  · cases h
    exact List.suffix_append ['-', 'I', 'n', 'f', 'i', 'n', 'i', 't', 'y'] rest
  · cases h

variable {τ : Type} [Textual τ]

theorem suffix_of_readScalar {most : Nat} {cs rest : List Char} {v : Document τ}
    (h : readScalar most cs = .ok (v, rest)) : rest <:+ cs := by
  unfold readScalar at h
  split at h
  · next result hscalar =>
    cases h
    unfold readScalar? at hscalar
    split at hscalar
    · cases hscalar
      exact List.suffix_append ['n', 'u', 'l', 'l'] rest
    · cases hscalar
      exact List.suffix_append ['t', 'r', 'u', 'e'] rest
    · cases hscalar
      exact List.suffix_append ['f', 'a', 'l', 's', 'e'] rest
    · obtain ⟨⟨_, _⟩, hstring, heq⟩ := Option.map_eq_some_iff.1 hscalar
      cases heq
      exact suffix_behind_quote hstring
    · obtain ⟨⟨n, _⟩, hnumber, heq⟩ := Option.map_eq_some_iff.1 hscalar
      cases heq
      rcases Option.or_eq_some_iff.1 hnumber with hspecial | ⟨-, hnumber⟩
      · exact suffix_of_readSpecial hspecial
      · exact suffix_of_readNumber hnumber
  · cases h

variable [DecidableEq τ]

variable (τ) in
/-- What is read with that much fuel leaves an end of the text. -/
structure ReadsPart (most fuel : Nat) : Prop where
  value : ∀ {room cs rest} {v : Document τ},
    readValue most fuel room cs = .ok (v, rest) → rest <:+ cs
  items : ∀ {room cs rest} {items : List (Document τ)},
    readItems most fuel room cs = .ok (items, rest) → rest <:+ cs
  fields : ∀ {room cs rest} {fields : List (τ × Document τ)},
    readFields most fuel room cs = .ok (fields, rest) → rest <:+ cs

section Step

variable {most fuel room : Nat} {cs rest : List Char} (ih : ReadsPart τ most fuel)
include ih

theorem ReadsValue.suffix {v : Document τ} (h : ReadsValue most fuel room cs v rest) :
    rest <:+ cs := by
  cases h with
  | scalar h => exact suffix_of_readScalar h
  | emptyList hclose => exact suffix_behind_bracket hclose (List.suffix_cons _ _)
  | list h => exact (ih.items h).trans ((skipGap_suffix _).trans (List.suffix_cons _ _))
  | emptyObject hclose => exact suffix_behind_bracket hclose (List.suffix_cons _ _)
  | object h => exact (ih.fields h).trans ((skipGap_suffix _).trans (List.suffix_cons _ _))

theorem ReadsItems.suffix {items : List (Document τ)}
    (h : ReadsItems most fuel room cs items rest) : rest <:+ cs := by
  cases h with
  | last hv hclose => exact suffix_behind_bracket hclose (ih.value hv)
  | more hv hcomma hmore =>
    exact (ih.items hmore).trans (suffix_behind_mark hcomma (ih.value hv))

theorem ReadsFields.suffix {fields : List (τ × Document τ)}
    (h : ReadsFields most fuel room cs fields rest) : rest <:+ cs := by
  cases h with
  | last hkey hcolon hv hclose =>
    have hstart := suffix_behind_mark hcolon (suffix_behind_quote hkey)
    exact suffix_behind_bracket hclose ((ih.value hv).trans hstart)
  | more hkey hcolon hv hcomma hmore =>
    have hstart := suffix_behind_mark hcolon (suffix_behind_quote hkey)
    exact (ih.fields hmore).trans (suffix_behind_mark hcomma ((ih.value hv).trans hstart))

end Step

theorem readsPart (most fuel : Nat) : ReadsPart τ most fuel := by
  induction fuel with
  | zero =>
    constructor <;> intro _ _ _ _ h
    · cases h
    · cases h
    · cases h
  | succ fuel ih =>
    exact ⟨fun h => (readsValue_of_readValue h).suffix ih,
      fun h => (readItems_eq_ok_iff.1 h).suffix ih,
      fun h => (readFields_eq_ok_iff.1 h).suffix ih⟩

/-- How many marks of the text open a container. -/
def openings (cs : List Char) : Nat :=
  cs.countP fun c => c == '[' || c == '\x7b'

theorem openings_le_of_suffix {cs ds : List Char} (h : cs <:+ ds) : openings cs ≤ openings ds :=
  h.sublist.countP_le

theorem eq_error_of_map {α β : Type} {result : Except ReadError α} {f : α → β} {e : ReadError}
    (h : result.map f = .error e) : result = .error e := by
  cases result with
  | error cause =>
    cases h
    rfl
  | ok a => cases h

omit [DecidableEq τ] in
theorem readScalar_ne_tooDeep (most : Nat) (cs : List Char) (container : Container) :
    (readScalar most cs : Except ReadError (Document τ × List Char)) ≠
      .error (.tooDeep container) := by
  unfold readScalar
  split
  · exact nofun
  · exact nofun

variable (τ) in
/-- What is too deep with that much fuel opens more containers than there is room for. -/
structure FillsRoom (most fuel : Nat) : Prop where
  value : ∀ {room cs container},
    (readValue most fuel room cs : Except ReadError (Document τ × List Char)) =
      .error (.tooDeep container) → room < openings cs
  items : ∀ {room cs container},
    (readItems most fuel room cs : Except ReadError (List (Document τ) × List Char)) =
      .error (.tooDeep container) → room < openings cs
  fields : ∀ {room cs container},
    (readFields most fuel room cs : Except ReadError (List (τ × Document τ) × List Char)) =
      .error (.tooDeep container) → room < openings cs

section Step

variable {most fuel room : Nat} {cs : List Char} {container : Container}
  (ih : FillsRoom τ most fuel)
include ih

theorem lt_openings_of_readValue_succ
    (h : (readValue most (fuel + 1) room cs : Except ReadError (Document τ × List Char)) =
      .error (.tooDeep container)) : room < openings cs := by
  unfold readValue at h
  split at h
  · next hfuel => cases hfuel
  · simp [openings]
  · next room after hfuel =>
    cases hfuel
    have hopen : openings ('[' :: after) = openings after + 1 := by simp [openings]
    have hgap := openings_le_of_suffix (skipGap_suffix after)
    split at h
    · cases h
    · have hitems := ih.items (eq_error_of_map h)
      omega
  · simp [openings]
  · next room after hfuel =>
    cases hfuel
    have hopen : openings ('\x7b' :: after) = openings after + 1 := by simp [openings]
    have hgap := openings_le_of_suffix (skipGap_suffix after)
    split at h
    · cases h
    · have hfields := ih.fields (eq_error_of_map h)
      omega
  · exact absurd h (readScalar_ne_tooDeep _ _ _)

theorem lt_openings_of_readItems_succ
    (h : (readItems most (fuel + 1) room cs : Except ReadError (List (Document τ) × List Char)) =
      .error (.tooDeep container)) : room < openings cs := by
  unfold readItems at h
  split at h
  · next hv =>
    cases h
    exact ih.value hv
  · next v after hv =>
    have hafter := (readsPart most fuel).value hv
    split at h
    · cases h
    · next later hcomma =>
      have hmore := ih.items (eq_error_of_map h)
      exact hmore.trans_le (openings_le_of_suffix (suffix_behind_mark hcomma hafter))
    · cases h

theorem lt_openings_of_readFields_succ
    (h : (readFields most (fuel + 1) room cs :
      Except ReadError (List (τ × Document τ) × List Char)) = .error (.tooDeep container)) :
    room < openings cs := by
  unfold readFields at h
  split at h
  · next hfuel => cases hfuel
  · next key hfuel =>
    cases hfuel
    split at h
    · cases h
    · next ps after hkey =>
      split at h
      · next value hcolon =>
        have hstart := suffix_behind_mark hcolon (suffix_behind_quote hkey)
        split at h
        · next hv =>
          cases h
          exact (ih.value hv).trans_le (openings_le_of_suffix hstart)
        · next v after' hv =>
          have hafter := ((readsPart most fuel).value hv).trans hstart
          split at h
          · cases h
          · next later hcomma =>
            have hmore := ih.fields (eq_error_of_map h)
            exact hmore.trans_le (openings_le_of_suffix (suffix_behind_mark hcomma hafter))
          · cases h
      · cases h
  · cases h

end Step

theorem fillsRoom (most fuel : Nat) : FillsRoom τ most fuel := by
  induction fuel with
  | zero =>
    constructor <;> intro _ _ _ h
    · cases h
    · cases h
    · cases h
  | succ fuel ih =>
    exact ⟨lt_openings_of_readValue_succ ih, lt_openings_of_readItems_succ ih,
      lt_openings_of_readFields_succ ih⟩

/-- A text with no more openings than there is room for is not too deep. -/
theorem readWithin_ne_tooDeep {room : Nat} {s : String} (h : openings s.toList ≤ room)
    (container : Container) :
    (readWithin room s : Except ReadError (Document τ)) ≠ .error (.tooDeep container) := by
  intro hdeep
  unfold readWithin at hdeep
  dsimp only at hdeep
  split at hdeep
  · split at hdeep
    · cases hdeep
    · cases hdeep
  · next e he =>
    cases hdeep
    have hroom := (fillsRoom _ _).value he
    have hgap := openings_le_of_suffix (skipGap_suffix s.toList)
    omega

end CloudCanvas.Document
