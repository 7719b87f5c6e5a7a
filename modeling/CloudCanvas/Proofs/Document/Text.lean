import CloudCanvas.Document.Printer
import CloudCanvas.Document.Reader
import Mathlib.Tactic.SplitIfs

/-!
Texts written in documents are read back. Each character has one escape, which is read as that
character whatever follows; a character beyond the first 65536 is the only one that is written as a
pair, and no other character is written as half of one.
-/

namespace CloudCanvas.Document

open Text (Point hexDigits hexValue? points)

theorem hexValue?_digitChar (d : Nat) (h : d < 16) : hexValue? (Nat.digitChar d) = some d := by
  have hall : ∀ d < 16, hexValue? (Nat.digitChar d) = some d := by decide
  exact hall d h

theorem hexDigits_four (n : Nat) :
    hexDigits 4 n = [Nat.digitChar (n / 16 / 16 / 16 % 16), Nat.digitChar (n / 16 / 16 % 16),
      Nat.digitChar (n / 16 % 16), Nat.digitChar (n % 16)] := rfl

theorem unitValue?_digits {n : Nat} (h : n < 0x10000) :
    unitValue? (Nat.digitChar (n / 16 / 16 / 16 % 16)) (Nat.digitChar (n / 16 / 16 % 16))
      (Nat.digitChar (n / 16 % 16)) (Nat.digitChar (n % 16)) = some n := by
  simp only [unitValue?, hexValue?_digitChar _ (Nat.mod_lt _ (by decide : 0 < 16)),
    Option.bind_eq_bind, Option.bind_some, Option.some.injEq]
  omega

/-- No partner makes a pair of a unit that is not the first of one. -/
theorem pairValue?_of_not_high {unit : Nat} (h : ¬ (0xd800 ≤ unit ∧ unit < 0xdc00))
    (low : Option Nat) : pairValue? unit low = none := by
  cases low with
  | none => rfl
  | some low =>
    simp only [pairValue?, Option.bind_eq_bind, Option.bind_some]
    rw [if_neg fun hpair => h ⟨hpair.1, hpair.2.1⟩]

/-- Reads one more point in front. -/
def consPoint (p : Point) : List Point × List Char → List Point × List Char :=
  fun (ps, rest) => (p :: ps, rest)

theorem readString_unit {unit : Nat} (hunit : unit < 0x10000)
    (hhigh : ¬ (0xd800 ≤ unit ∧ unit < 0xdc00)) (cs : List Char) :
    readString (hexEscape unit ++ cs) = (readString cs).map (consPoint (unitPoint unit)) := by
  rw [hexEscape, hexDigits_four]
  simp only [List.cons_append, List.nil_append]
  rw [readString.eq_def]
  simp only [unitValue?_digits hunit]
  split
  · rw [pairValue?_of_not_high hhigh]
    rfl
  · rfl

theorem readString_pair {high low : Nat} (hhigh : 0xd800 ≤ high ∧ high < 0xdc00)
    (hlow : 0xdc00 ≤ low ∧ low < 0xe000) (cs : List Char) :
    readString (hexEscape high ++ hexEscape low ++ cs) = (readString cs).map
      (consPoint (.char (Char.ofNat (0x10000 + (high - 0xd800) * 0x400 + (low - 0xdc00))))) := by
  have hpair : pairValue? high (some low) =
      some (Char.ofNat (0x10000 + (high - 0xd800) * 0x400 + (low - 0xdc00))) := by
    simp only [pairValue?, Option.bind_eq_bind, Option.bind_some]
    rw [if_pos ⟨hhigh.1, hhigh.2, hlow.1, hlow.2⟩]
  rw [hexEscape, hexEscape, hexDigits_four, hexDigits_four]
  simp only [List.cons_append, List.nil_append]
  rw [readString.eq_def]
  simp only [unitValue?_digits (show high < 0x10000 by omega),
    unitValue?_digits (show low < 0x10000 by omega), hpair]
  rfl

theorem readString_escaped {c d : Char} (hu : c ≠ 'u') (h : escapedChar? c = some d)
    (cs : List Char) :
    readString ('\\' :: c :: cs) = (readString cs).map (consPoint (.char d)) := by
  rw [readString.eq_def]
  split
  · next heq => cases heq
  · next heq => cases heq
  · next heq =>
    cases heq
    exact absurd rfl hu
  · next heq =>
    cases heq
    rw [h]
    rfl
  · next hother heq =>
    cases heq
    exact absurd rfl (hother c cs rfl)

theorem readString_plain {c : Char} (hquote : c ≠ '"') (hslash : c ≠ '\\') (h : 0x20 ≤ c.toNat)
    (cs : List Char) : readString (c :: cs) = (readString cs).map (consPoint (.char c)) := by
  rw [readString.eq_def]
  split
  · next heq => cases heq
  · next heq =>
    cases heq
    exact absurd rfl hquote
  · next heq =>
    cases heq
    exact absurd rfl hslash
  · next heq =>
    cases heq
    exact absurd rfl hslash
  · next heq =>
    cases heq
    rw [if_neg (by simp [hslash, h])]
    rfl

theorem not_surrogate (c : Char) : ¬ (0xd800 ≤ c.toNat ∧ c.toNat < 0xe000) := by
  have hvalid : c.toNat < 0xd800 ∨ 0xdfff < c.toNat ∧ c.toNat < 0x110000 := c.valid
  omega

theorem toNat_lt (c : Char) : c.toNat < 0x110000 := by
  have hvalid : c.toNat < 0xd800 ∨ 0xdfff < c.toNat ∧ c.toNat < 0x110000 := c.valid
  omega

theorem unitPoint_toNat (c : Char) : unitPoint c.toNat = .char c := by
  rw [unitPoint, if_neg (not_surrogate c), Char.ofNat_toNat]

/-- What a character is written as: itself, a backslash and the letter that stands for it, its code,
or the codes of its two surrogates. -/
inductive Escapes (c : Char) : List Char → Prop
  | plain (hquote : c ≠ '"') (hslash : c ≠ '\\') (hlow : 0x20 ≤ c.toNat) (hhigh : c.toNat < 0x7f) :
    Escapes c [c]
  | letter {d : Char} (h : escapedChar? d = some c) : Escapes c ['\\', d]
  | code (h : c.toNat < 0x10000) : Escapes c (hexEscape c.toNat)
  | pair (h : 0x10000 ≤ c.toNat) : Escapes c (hexEscape (0xd800 + (c.toNat - 0x10000) / 0x400) ++
      hexEscape (0xdc00 + (c.toNat - 0x10000) % 0x400))

theorem escapes_escapeChar (c : Char) : Escapes c (escapeChar c) := by
  unfold escapeChar
  dsimp only
  split_ifs with hmark hn hr ht hb hf hplain hunit
  · rcases hmark with rfl | rfl
    · exact .letter rfl
    · exact .letter rfl
  · exact .letter (hn ▸ rfl)
  · exact .letter (hr ▸ rfl)
  · exact .letter (ht ▸ rfl)
  · exact .letter (hb ▸ rfl)
  · exact .letter (hf ▸ rfl)
  · obtain ⟨hquote, hslash⟩ := not_or.1 hmark
    exact .plain hquote hslash hplain.1 hplain.2
  · exact .code hunit
  · exact .pair (by omega)

/-- Every escape is read as the character it was written for. -/
theorem Escapes.readString_append {c : Char} {text : List Char} (h : Escapes c text)
    (cs : List Char) : readString (text ++ cs) = (readString cs).map (consPoint (.char c)) := by
  have hsurrogate := not_surrogate c
  have hlt := toNat_lt c
  cases h with
  | plain hquote hslash hlow _ => exact readString_plain hquote hslash hlow cs
  | letter h =>
    refine readString_escaped ?_ h cs
    rintro rfl
    cases h
  | code h => rw [readString_unit h (by omega), unitPoint_toNat]
  | pair h =>
    rw [readString_pair (by omega) (by omega)]
    -- the two halves of a pair are the quotient and the remainder of the point
    have hsum : 0x10000 + (0xd800 + (c.toNat - 0x10000) / 0x400 - 0xd800) * 0x400 +
        (0xdc00 + (c.toNat - 0x10000) % 0x400 - 0xdc00) = c.toNat := by omega
    rw [hsum, Char.ofNat_toNat]

/-- By induction on the text: a text is read back up to its closing quote. -/
theorem readString_flatMap (cs rest : List Char) :
    readString (cs.flatMap escapeChar ++ '"' :: rest) = some (cs.map .char, rest) := by
  induction cs with
  | nil => rfl
  | cons c more ih =>
    rw [List.flatMap_cons, List.append_assoc, (escapes_escapeChar c).readString_append, ih]
    rfl

end CloudCanvas.Document
