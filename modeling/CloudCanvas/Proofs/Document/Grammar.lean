import CloudCanvas.Document.Printer
import CloudCanvas.Document.Reader
import CloudCanvas.Proofs.Document.Basic
import CloudCanvas.Proofs.Document.Number
import CloudCanvas.Proofs.Document.Text
import CloudCanvas.Proofs.Number.Spelling

/-!
The standard grammar of documents, which has no words for numbers that are not finite. Every
document whose numbers are finite is written in it, whatever the layout puts between the parts as
long as it is a gap, and with ASCII characters only.
-/

namespace CloudCanvas.Document

namespace Grammar

def Gap (cs : List Char) : Prop :=
  ∀ c ∈ cs, isGap c = true

def Sign (cs : List Char) : Prop :=
  cs = [] ∨ cs = ['-']

inductive Fraction : List Char → Prop
  | absent : Fraction []
  | point {ds : List Char} (hds : IsDigits ds) (hne : ds ≠ []) : Fraction ('.' :: ds)

inductive Exponent : List Char → Prop
  | absent : Exponent []
  | mark {letter : Char} {sign ds : List Char} (hletter : letter = 'e' ∨ letter = 'E')
    (hsign : Sign sign ∨ sign = ['+']) (hds : IsDigits ds) (hne : ds ≠ []) :
    Exponent (letter :: (sign ++ ds))

inductive Numeral : List Char → Prop
  | parts {sign whole fraction exponent : List Char} (hsign : Sign sign) (hwhole : IsWhole whole)
    (hfraction : Fraction fraction) (hexponent : Exponent exponent) :
    Numeral (sign ++ (whole ++ (fraction ++ exponent)))

/-- The characters a backslash may stand before, but for the letter of a code. -/
def escapable : List Char :=
  ['"', '\\', '/', 'b', 'f', 'n', 'r', 't']

/-- One character of a string, plain or escaped. -/
inductive Symbol : List Char → Prop
  | plain {c : Char} (hcontrol : 0x20 ≤ c.toNat) (hquote : c ≠ '"') (hslash : c ≠ '\\') :
    Symbol [c]
  | escaped {c : Char} (hc : c ∈ escapable) : Symbol ['\\', c]
  | code {a b c d : Char} (hex : ∀ x ∈ [a, b, c, d], (Text.hexValue? x).isSome = true) :
    Symbol ['\\', 'u', a, b, c, d]

inductive Symbols : List Char → Prop
  | nil : Symbols []
  | cons {symbol rest : List Char} (hsymbol : Symbol symbol) (hrest : Symbols rest) :
    Symbols (symbol ++ rest)

inductive Quoted : List Char → Prop
  | quotes {cs : List Char} (hcs : Symbols cs) : Quoted ('"' :: (cs ++ ['"']))

mutual

inductive Value : List Char → Prop
  | null : Value ['n', 'u', 'l', 'l']
  | true : Value ['t', 'r', 'u', 'e']
  | false : Value ['f', 'a', 'l', 's', 'e']
  | number {cs : List Char} (hcs : Numeral cs) : Value cs
  | string {cs : List Char} (hcs : Quoted cs) : Value cs
  | emptyList {gap : List Char} (hgap : Gap gap) : Value ('[' :: (gap ++ [']']))
  | list {cs : List Char} (hcs : Items cs) : Value ('[' :: (cs ++ [']']))
  | emptyObject {gap : List Char} (hgap : Gap gap) : Value ('\x7b' :: (gap ++ ['\x7d']))
  | object {cs : List Char} (hcs : Members cs) : Value ('\x7b' :: (cs ++ ['\x7d']))

/-- Values with commas between them and gaps around them. -/
inductive Items : List Char → Prop
  | last {before value after : List Char} (hbefore : Gap before) (hvalue : Value value)
    (hafter : Gap after) : Items (before ++ (value ++ after))
  | more {before value after rest : List Char} (hbefore : Gap before) (hvalue : Value value)
    (hafter : Gap after) (hrest : Items rest) :
    Items (before ++ (value ++ (after ++ ',' :: rest)))

/-- Names with colons and values behind them. -/
inductive Members : List Char → Prop
  | last {before name inner beside value after : List Char} (hbefore : Gap before)
    (hname : Quoted name) (hinner : Gap inner) (hbeside : Gap beside) (hvalue : Value value)
    (hafter : Gap after) :
    Members (before ++ (name ++ (inner ++ ':' :: (beside ++ (value ++ after)))))
  | more {before name inner beside value after rest : List Char} (hbefore : Gap before)
    (hname : Quoted name) (hinner : Gap inner) (hbeside : Gap beside) (hvalue : Value value)
    (hafter : Gap after) (hrest : Members rest) :
    Members (before ++ (name ++ (inner ++ ':' :: (beside ++ (value ++ (after ++ ',' :: rest))))))

end

end Grammar

open Grammar

theorem gap_nil : Gap [] :=
  List.forall_mem_nil _

theorem fraction_pointText {fraction : List Char} (h : IsDigits fraction) :
    Fraction (Spelling.pointText fraction) := by
  unfold Spelling.pointText
  split_ifs with hnil
  · exact .absent
  · exact .point h hnil

theorem exponent_markText (exponent : Option Int) : Exponent (Spelling.markText exponent) := by
  cases exponent with
  | none => exact .absent
  | some e =>
    obtain ⟨ds, htext, hds, hne, -⟩ := Decimal.exists_exponentText e
    rw [Spelling.markText, htext]
    by_cases he : e < 0
    · rw [if_pos he]
      exact .mark (.inl rfl) (.inl (.inr rfl)) hds hne
    · rw [if_neg he]
      exact .mark (.inl rfl) (.inr rfl) hds hne

theorem numeral_of_sign (negative : Bool) {whole fraction exponent : List Char}
    (hwhole : IsWhole whole) (hfraction : Fraction fraction) (hexponent : Exponent exponent) :
    Numeral ((if negative then ['-'] else []) ++ (whole ++ (fraction ++ exponent))) := by
  refine .parts ?_ hwhole hfraction hexponent
  cases negative
  · exact .inl rfl
  · exact .inr rfl

theorem numeral_text {n : Number} (h : n.isFinite = true) (infinity noNumber : List Char) :
    Numeral (n.text infinity noNumber) := by
  obtain ⟨negative, body, hbody, htext⟩ := exists_unsigned h infinity noNumber
  rw [htext]
  cases hbody with
  | whole hwhole =>
    have hnumeral := numeral_of_sign negative hwhole .absent .absent
    rwa [List.append_nil, List.append_nil] at hnumeral
  | fractional s =>
    exact numeral_of_sign negative s.isWhole (fraction_pointText s.isDigits)
      (exponent_markText s.exponent)

theorem isSome_hexValue?_digitChar (n : Nat) :
    (Text.hexValue? (Nat.digitChar (n % 16))).isSome = true := by
  have hall : ∀ d < 16, (Text.hexValue? (Nat.digitChar d)).isSome = true := by decide
  exact hall _ (Nat.mod_lt n (by decide))

theorem symbol_hexEscape (unit : Nat) : Symbol (hexEscape unit) := by
  refine .code ?_
  simp only [List.forall_mem_cons]
  exact ⟨isSome_hexValue?_digitChar _, isSome_hexValue?_digitChar _, isSome_hexValue?_digitChar _,
    isSome_hexValue?_digitChar _, List.forall_mem_nil _⟩

theorem mem_escapable {c d : Char} (h : escapedChar? d = some c) : d ∈ escapable := by
  unfold escapedChar? at h
  split at h
  case h_9 => cases h
  all_goals decide

theorem Escapes.symbols_append {c : Char} {text rest : List Char} (h : Escapes c text)
    (hrest : Symbols rest) : Symbols (text ++ rest) := by
  cases h with
  | plain hquote hslash hlow _ => exact .cons (.plain hlow hquote hslash) hrest
  | letter h => exact .cons (.escaped (mem_escapable h)) hrest
  | code => exact .cons (symbol_hexEscape _) hrest
  | pair =>
    rw [List.append_assoc]
    exact .cons (symbol_hexEscape _) (.cons (symbol_hexEscape _) hrest)

theorem quoted_stringText (s : String) : Quoted (stringText s) := by
  rw [stringText_string]
  refine .quotes ?_
  induction s.toList with
  | nil => exact .nil
  | cons c rest ih =>
    rw [List.flatMap_cons]
    exact (escapes_escapeChar c).symbols_append ih

section Containers

variable {layout : Layout} (hlayout : layout.IsGap) (depth : Nat)
include hlayout

/-- By induction on the items behind the first one: what is written for them closes the list. -/
theorem exists_writeItems {items : List Json}
    (h : ∀ v ∈ items, Value (write layout (depth + 1) v)) :
    ∃ cs, writeItems layout depth items = cs ++ [']'] ∧
      ∀ {before value : List Char}, Gap before → Value value → Items (before ++ (value ++ cs)) := by
  induction items with
  | nil =>
    refine ⟨layout.gap depth, by rw [writeItems], fun hbefore hvalue => ?_⟩
    exact .last hbefore hvalue (hlayout.gap depth)
  | cons v rest ih =>
    obtain ⟨hv, hrest⟩ := List.forall_mem_cons.1 h
    obtain ⟨cs, hcs, hitems⟩ := ih hrest
    refine ⟨',' :: (layout.gap (depth + 1) ++ (write layout (depth + 1) v ++ cs)), ?_,
      fun hbefore hvalue => ?_⟩
    · rw [writeItems, hcs]
      simp
    · exact .more hbefore hvalue gap_nil (hitems (hlayout.gap (depth + 1)) hv)

theorem exists_writeFields {fields : List (String × Json)}
    (h : ∀ entry ∈ fields, Value (write layout (depth + 1) entry.2)) :
    ∃ cs, writeFields layout depth fields = cs ++ ['\x7d'] ∧
      ∀ {before value : List Char} (key : String), Gap before → Value value →
        Members (before ++ (stringText key ++ ':' :: (layout.afterColon ++ (value ++ cs)))) := by
  induction fields with
  | nil =>
    refine ⟨layout.gap depth, by rw [writeFields], fun key hbefore hvalue => ?_⟩
    exact .last hbefore (quoted_stringText key) gap_nil hlayout.afterColon hvalue
      (hlayout.gap depth)
  | cons entry rest ih =>
    obtain ⟨hv, hrest⟩ := List.forall_mem_cons.1 h
    obtain ⟨cs, hcs, hmembers⟩ := ih hrest
    refine ⟨',' :: (layout.gap (depth + 1) ++ (stringText entry.1 ++ ':' :: (layout.afterColon ++
      (write layout (depth + 1) entry.2 ++ cs)))), ?_, fun key hbefore hvalue => ?_⟩
    · rw [writeFields, hcs]
      simp
    · exact .more hbefore (quoted_stringText key) gap_nil hlayout.afterColon hvalue gap_nil
        (hmembers entry.1 (hlayout.gap (depth + 1)) hv)

theorem value_list {items : List Json} (h : ∀ v ∈ items, Value (write layout (depth + 1) v)) :
    Value (write layout depth (.arr items)) := by
  cases items with
  | nil => rw [write]; exact .emptyList gap_nil
  | cons v rest =>
    obtain ⟨hv, hrest⟩ := List.forall_mem_cons.1 h
    obtain ⟨cs, hcs, hlist⟩ := exists_writeItems hlayout depth hrest
    rw [write, hcs, ← List.append_assoc, ← List.append_assoc, List.append_assoc (layout.gap _)]
    exact .list (hlist (hlayout.gap (depth + 1)) hv)

theorem value_object {fields : List (String × Json)}
    (h : ∀ entry ∈ fields, Value (write layout (depth + 1) entry.2)) :
    Value (write layout depth (.obj fields)) := by
  cases fields with
  | nil => rw [write]; exact .emptyObject gap_nil
  | cons entry rest =>
    obtain ⟨hv, hrest⟩ := List.forall_mem_cons.1 h
    obtain ⟨cs, hcs, hobject⟩ := exists_writeFields hlayout depth hrest
    have hmembers := hobject entry.1 (hlayout.gap (depth + 1)) hv
    have htext : write layout depth (.obj (entry :: rest)) = '\x7b' :: ((layout.gap (depth + 1) ++
        (stringText entry.1 ++ ':' :: (layout.afterColon ++
          (write layout (depth + 1) entry.2 ++ cs)))) ++ ['\x7d']) := by
      rw [write, hcs]
      simp
    rw [htext]
    exact .object hmembers

/-- A document whose numbers are finite is written in the standard grammar. -/
theorem value_write {v : Json} (h : v.allFinite = true) : Value (write layout depth v) := by
  induction v using inductionOn generalizing depth with
  | scalar v hv =>
    cases v with
    | null => rw [write]; exact .null
    | bool b =>
      cases b
      · rw [write]; exact .false
      · rw [write]; exact .true
    | num n => rw [write]; exact .number (numeral_text h _ _)
    | str s => rw [write]; exact .string (quoted_stringText s)
    | arr items => cases hv
    | obj fields => cases hv
  | arr items ih =>
    exact value_list hlayout depth fun v hv => ih v hv (depth + 1) (allFiniteItems_iff.1 h v hv)
  | obj fields ih =>
    exact value_object hlayout depth fun entry hentry =>
      ih entry hentry (depth + 1) (allFiniteFields_iff.1 h entry hentry)

end Containers

def IsAscii (cs : List Char) : Prop :=
  ∀ c ∈ cs, c.toNat < 0x80

instance : DecidablePred IsAscii :=
  List.decidableBAll fun c : Char => c.toNat < 0x80

/-- ASCII characters, none of which breaks a line or controls anything else. -/
def IsPrintable (cs : List Char) : Prop :=
  ∀ c ∈ cs, 0x20 ≤ c.toNat ∧ c.toNat < 0x7f

instance : DecidablePred IsPrintable :=
  List.decidableBAll fun c : Char => 0x20 ≤ c.toNat ∧ c.toNat < 0x7f

theorem isPrintable_append {cs ds : List Char} :
    IsPrintable (cs ++ ds) ↔ IsPrintable cs ∧ IsPrintable ds :=
  List.forall_mem_append

theorem isPrintable_cons {c : Char} {cs : List Char} :
    IsPrintable (c :: cs) ↔ (0x20 ≤ c.toNat ∧ c.toNat < 0x7f) ∧ IsPrintable cs :=
  List.forall_mem_cons

theorem IsPrintable.isAscii {cs : List Char} (h : IsPrintable cs) : IsAscii cs :=
  fun c hc => (h c hc).2.trans (by decide)

theorem IsPrintable.newline_notMem {cs : List Char} (h : IsPrintable cs) : '\n' ∉ cs :=
  fun hc => absurd (h _ hc).1 (by decide)

theorem isPrintable_of_isDigits {ds : List Char} (h : IsDigits ds) : IsPrintable ds := by
  intro c hc
  have hdigit := h c hc
  rw [Char.isDigit, Bool.and_eq_true, decide_eq_true_eq, decide_eq_true_eq] at hdigit
  have hlow : 48 ≤ c.toNat := hdigit.1
  have hhigh : c.toNat ≤ 57 := hdigit.2
  omega

theorem isAscii_of_gap {gap : List Char} (h : Gap gap) : IsAscii gap := by
  intro c hc
  have hgap := h c hc
  simp only [isGap, Bool.or_eq_true, beq_iff_eq] at hgap
  rcases hgap with ((rfl | rfl) | rfl) | rfl <;> decide

theorem isPrintable_spelling (s : Spelling) : IsPrintable s.text := by
  have hwhole := isPrintable_of_isDigits s.isWhole.digits
  have hfraction : IsPrintable (Spelling.pointText s.fraction) := by
    unfold Spelling.pointText
    split_ifs
    · decide
    · exact isPrintable_cons.2 ⟨by decide, isPrintable_of_isDigits s.isDigits⟩
  have hmark : IsPrintable (Spelling.markText s.exponent) := by
    cases s.exponent with
    | none => decide
    | some e =>
      obtain ⟨ds, htext, hds, -, -⟩ := Decimal.exists_exponentText e
      rw [Spelling.markText, htext]
      refine isPrintable_cons.2 ⟨by decide, isPrintable_cons.2 ⟨?_, isPrintable_of_isDigits hds⟩⟩
      split_ifs <;> decide
  exact isPrintable_append.2 ⟨hwhole, isPrintable_append.2 ⟨hfraction, hmark⟩⟩

theorem isPrintable_numberText (n : Number) :
    IsPrintable (n.text ['I', 'n', 'f', 'i', 'n', 'i', 't', 'y'] ['N', 'a', 'N']) := by
  cases hfinite : n.isFinite with
  | false =>
    have hwords : ∀ cs ∈ numberWords, IsPrintable cs := by decide
    exact hwords _ (text_mem_numberWords hfinite)
  | true =>
    obtain ⟨negative, body, hbody, htext⟩ := exists_unsigned hfinite _ _
    rw [htext]
    refine isPrintable_append.2 ⟨by cases negative <;> decide, ?_⟩
    cases hbody with
    | whole h => exact isPrintable_of_isDigits h.digits
    | fractional s => exact isPrintable_spelling s

theorem isPrintable_hexEscape (unit : Nat) : IsPrintable (hexEscape unit) := by
  have hall : ∀ d < 16, 0x20 ≤ (Nat.digitChar d).toNat ∧ (Nat.digitChar d).toNat < 0x7f := by
    decide
  have hdigit (n : Nat) := hall (n % 16) (Nat.mod_lt n (by decide))
  simp only [hexEscape, Text.hexDigits, List.nil_append, List.cons_append, isPrintable_cons]
  exact ⟨by decide, by decide, hdigit _, hdigit _, hdigit _, hdigit _, by decide⟩

theorem Escapes.isPrintable {c : Char} {text : List Char} (h : Escapes c text) :
    IsPrintable text := by
  cases h with
  | plain _ _ hlow hhigh => exact isPrintable_cons.2 ⟨⟨hlow, hhigh⟩, by decide⟩
  | letter h =>
    have hall : ∀ d ∈ escapable, IsPrintable ['\\', d] := by simp [escapable, IsPrintable]
    exact hall _ (mem_escapable h)
  | code => exact isPrintable_hexEscape _
  | pair => exact isPrintable_append.2 ⟨isPrintable_hexEscape _, isPrintable_hexEscape _⟩

theorem isPrintable_stringText (s : String) : IsPrintable (stringText s) := by
  rw [stringText_string]
  refine isPrintable_cons.2 ⟨by decide, isPrintable_append.2 ⟨fun d hd => ?_, by decide⟩⟩
  obtain ⟨c, -, hc⟩ := List.mem_flatMap.1 hd
  exact (escapes_escapeChar c).isPrintable d hc

theorem isPrintable_scalar (layout : Layout) (depth : Nat) {v : Json} (h : v.isScalar = true) :
    IsPrintable (write layout depth v) := by
  cases v with
  | null => rw [write]; decide
  | bool b => cases b <;> rw [write] <;> decide
  | num n => rw [write]; exact isPrintable_numberText n
  | str s => rw [write]; exact isPrintable_stringText s
  | arr items => cases h
  | obj fields => cases h

/-- Only ASCII characters are written. -/
theorem isAscii_write {layout : Layout} (hlayout : layout.IsGap) (depth : Nat) (v : Json) :
    IsAscii (write layout depth v) := by
  have hkeeps : layout.Keeps IsAscii := {
    append := fun hcs hds => List.forall_mem_append.2 ⟨hcs, hds⟩
    gap := fun depth => isAscii_of_gap (hlayout.gap depth)
    afterColon := isAscii_of_gap hlayout.afterColon
    mark := by simp [marks, IsAscii]
    scalar := fun depth _ h => (isPrintable_scalar layout depth h).isAscii }
  exact hkeeps.write depth v

end CloudCanvas.Document
