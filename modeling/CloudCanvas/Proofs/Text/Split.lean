import CloudCanvas.Text.Split
import Mathlib.Data.List.Chain

/-!
The parts of a text, its lines among them. Splitting at a mark takes the text apart there, whatever
stands on either side; so lines that are joined are split into the lines of each. What a text is
split into are the stretches between two marks, where its ends count as marks. So a line begins
behind a newline or with the text, and hence with nothing that never stands in either place.
-/

namespace CloudCanvas.Text

theorem split_eq_splitOnP (isMark : Char → Bool) (cs : List Char) :
    split isMark cs = cs.splitOnP isMark := by
  induction cs with
  | nil => rfl
  | cons c rest ih =>
    rw [split, List.splitOnP_cons_eq_if_modifyHead, ← ih]
    split
    · rfl
    · cases hs : split isMark rest with
      | nil => exact absurd hs (split_ne_nil isMark rest)
      | cons part later => rfl

theorem split_append_cons (mark : Char) (cs ds : List Char) :
    split (· == mark) (cs ++ mark :: ds) = split (· == mark) cs ++ split (· == mark) ds := by
  simp only [split_eq_splitOnP]
  exact List.splitOnP_append_cons cs ds (beq_self_eq_true mark)

theorem split_of_notMem {mark : Char} {cs : List Char} (h : mark ∉ cs) :
    split (· == mark) cs = [cs] := by
  rw [split_eq_splitOnP]
  refine List.splitOnP_eq_singleton fun c hc => ?_
  simpa using ne_of_mem_of_not_mem hc h

theorem flatMap_split_of_notMem {mark : Char} {parts : List (List Char)}
    (h : ∀ part ∈ parts, mark ∉ part) : parts.flatMap (split (· == mark)) = parts := by
  induction parts with
  | nil => rfl
  | cons part rest ih =>
    obtain ⟨hpart, hrest⟩ := List.forall_mem_cons.1 h
    rw [List.flatMap_cons, split_of_notMem hpart, ih hrest, List.singleton_append]

/-- By induction on the parts: each is split by itself. -/
theorem split_intercalate (mark : Char) {parts : List (List Char)} (h : parts ≠ []) :
    split (· == mark) ([mark].intercalate parts) = parts.flatMap (split (· == mark)) := by
  induction parts with
  | nil => exact absurd rfl h
  | cons part rest ih =>
    by_cases hrest : rest = []
    · subst hrest
      simp
    · rw [List.intercalate_cons_of_ne_nil hrest, List.append_assoc, List.singleton_append,
        split_append_cons, ih hrest, List.flatMap_cons]

/-- A part of the text without the mark, with a mark or an end of the text on either side. -/
structure IsPart (mark : Char) (cs part : List Char) : Prop where
  notMem : mark ∉ part
  between : ∃ before after, cs = before ++ part ++ after ∧
    (before = [] ∨ before.getLast? = some mark) ∧ (after = [] ∨ after.head? = some mark)

/-- By induction on the length: behind the first mark is a shorter text. -/
theorem isPart_of_mem_split {mark : Char} {cs part : List Char}
    (h : part ∈ split (· == mark) cs) : IsPart mark cs part := by
  induction hlength : cs.length using Nat.strongRecOn generalizing cs with
  | ind n ih =>
    by_cases hmark : mark ∈ cs
    · obtain ⟨first, rest, rfl, hfirst⟩ := List.eq_append_cons_of_mem hmark
      rw [split_append_cons, split_of_notMem hfirst, List.singleton_append] at h
      rcases List.mem_cons.1 h with rfl | hlater
      · exact ⟨hfirst, [], mark :: rest, rfl, .inl rfl, .inr rfl⟩
      · have hshort : rest.length < n := by
          simp only [List.length_append, List.length_cons] at hlength
          omega
        obtain ⟨hpart, before, after, rfl, hbefore, hafter⟩ := ih _ hshort hlater rfl
        refine ⟨hpart, first ++ mark :: before, after, by simp, .inr ?_, hafter⟩
        rcases hbefore with rfl | hlast
        · exact List.getLast?_concat
        · rw [List.getLast?_append_cons, List.getLast?_cons, hlast]
          rfl
    · rw [split_of_notMem hmark, List.mem_singleton] at h
      exact ⟨h ▸ hmark, [], [], by simp [h], .inl rfl, .inl rfl⟩

/-- What the text is split into are its parts. -/
theorem mem_split_iff {mark : Char} {cs part : List Char} :
    part ∈ split (· == mark) cs ↔ IsPart mark cs part := by
  refine ⟨isPart_of_mem_split, ?_⟩
  rintro ⟨hpart, before, after, rfl, hbefore, hafter⟩
  have hback : part ∈ split (· == mark) (part ++ after) := by
    rcases hafter with rfl | hhead
    · rw [List.append_nil, split_of_notMem hpart]
      exact List.mem_singleton_self part
    · obtain ⟨rest, rfl⟩ := List.head?_eq_some_iff.1 hhead
      rw [split_append_cons, split_of_notMem hpart]
      exact List.mem_cons_self
  rcases hbefore with rfl | hlast
  · exact hback
  · obtain ⟨front, rfl⟩ := List.getLast?_eq_some_iff.1 hlast
    rw [List.append_assoc, List.append_assoc, List.singleton_append, split_append_cons]
    exact List.mem_append_right _ hback

/-- By induction on the text from its end: what stands behind its last mark. -/
theorem exists_last_part (mark : Char) (cs : List Char) : ∃ before part, cs = before ++ part ∧
    mark ∉ part ∧ (before = [] ∨ before.getLast? = some mark) := by
  induction cs using List.reverseRecOn with
  | nil => exact ⟨[], [], rfl, List.not_mem_nil, .inl rfl⟩
  | append_singleton cs c ih =>
    by_cases hc : c = mark
    · subst hc
      exact ⟨cs ++ [c], [], by simp, List.not_mem_nil, .inr List.getLast?_concat⟩
    · obtain ⟨before, part, rfl, hpart, hbefore⟩ := ih
      refine ⟨before, part ++ [c], by simp, ?_, hbefore⟩
      simpa [hpart] using Ne.symm hc

/-- The character stands neither in front of the text nor behind a newline. -/
def NeverBegins (mark : Char) (cs : List Char) : Prop :=
  ('\n' :: cs).IsChain fun before c => before = '\n' → c ≠ mark

namespace NeverBegins

variable {mark : Char} {cs ds : List Char}

theorem head?_ne (h : NeverBegins mark cs) : cs.head? ≠ some mark := by
  intro hhead
  exact (List.isChain_cons.1 h).1 mark hhead rfl rfl

theorem of_notMem (hline : '\n' ∉ cs) (hhead : cs.head? ≠ some mark) : NeverBegins mark cs := by
  refine List.isChain_cons.2 ⟨?_, List.isChain_iff_forall_rel_of_append_cons_cons.2 ?_⟩
  · rintro c hc - rfl
    exact hhead hc
  · rintro before c front rest rfl rfl
    exact absurd (by simp) hline

theorem of_mark_notMem (h : mark ∉ cs) : NeverBegins mark cs := by
  refine List.isChain_cons.2 ⟨?_, List.isChain_iff_forall_rel_of_append_cons_cons.2 ?_⟩
  · rintro c hc - rfl
    exact h (List.mem_of_mem_head? hc)
  · rintro before c front rest rfl - rfl
    exact h (by simp)

theorem append (hcs : NeverBegins mark cs) (hds : NeverBegins mark ds) :
    NeverBegins mark (cs ++ ds) := by
  obtain ⟨hfirst, hlater⟩ := List.isChain_cons.1 hds
  exact List.isChain_append.2 ⟨hcs, hlater, fun _ _ c hc _ => hfirst c hc rfl⟩

theorem left (h : NeverBegins mark (cs ++ ds)) : NeverBegins mark cs :=
  List.IsChain.prefix h ⟨ds, rfl⟩

theorem behind_newline (h : NeverBegins mark (cs ++ '\n' :: ds)) : NeverBegins mark ds :=
  List.IsChain.suffix h ⟨'\n' :: cs, rfl⟩

theorem head?_ne_of_mem_split (h : NeverBegins mark cs) {line : List Char}
    (hline : line ∈ split (· == '\n') cs) : line.head? ≠ some mark := by
  obtain ⟨-, before, after, rfl, hbefore, -⟩ := mem_split_iff.1 hline
  rcases hbefore with rfl | hlast
  · exact h.left.head?_ne
  · obtain ⟨front, rfl⟩ := List.getLast?_eq_some_iff.1 hlast
    rw [List.append_assoc, List.append_assoc, List.singleton_append] at h
    exact h.behind_newline.left.head?_ne

end NeverBegins

end CloudCanvas.Text
