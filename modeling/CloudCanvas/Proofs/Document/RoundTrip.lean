import CloudCanvas.Proofs.Document.Alike
import CloudCanvas.Proofs.Document.Number
import CloudCanvas.Proofs.Document.Text

/-!
A written document is read back, whatever is put between its parts as long as it is a gap. Numbers
that are not finite are read back too, by their words. So the text of a document gives the document
away, and the canonical text gives it away up to the order of fields.
-/

namespace CloudCanvas.Document

section Bounds

variable {τ : Type}

mutual

/-- The greatest number of digits of a whole number. -/
def wholeDigits : Document τ → Nat
  | .num n => numberDigits n
  | .arr items => itemsWholeDigits items
  | .obj fields => fieldsWholeDigits fields
  | _ => 0

def itemsWholeDigits : List (Document τ) → Nat
  | [] => 0
  | v :: rest => max v.wholeDigits (itemsWholeDigits rest)

def fieldsWholeDigits : List (τ × Document τ) → Nat
  | [] => 0
  | (_, v) :: rest => max v.wholeDigits (fieldsWholeDigits rest)

end

theorem itemsWholeDigits_le_iff {items : List (Document τ)} {n : Nat} :
    itemsWholeDigits items ≤ n ↔ ∀ v ∈ items, v.wholeDigits ≤ n := by
  induction items with
  | nil => simp [itemsWholeDigits]
  | cons v rest ih => rw [itemsWholeDigits, Nat.max_le, ih, List.forall_mem_cons]

theorem fieldsWholeDigits_le_iff {fields : List (τ × Document τ)} {n : Nat} :
    fieldsWholeDigits fields ≤ n ↔ ∀ entry ∈ fields, entry.2.wholeDigits ≤ n := by
  induction fields with
  | nil => simp [fieldsWholeDigits]
  | cons entry rest ih => rw [fieldsWholeDigits, Nat.max_le, ih, List.forall_mem_cons]

/-- There is room for the containers, and whole numbers may have as many digits as they have. -/
structure Fits (most room : Nat) (v : Document τ) : Prop where
  wellFormed : v.WellFormed
  nesting : v.nesting ≤ room
  digits : v.wholeDigits ≤ most

variable {most room : Nat}

theorem Fits.items {items : List (Document τ)} (h : Fits most room (.arr items)) :
    ∃ inner, room = inner + 1 ∧ ∀ v ∈ items, Fits most inner v := by
  obtain ⟨hformed, hnesting, hdigits⟩ := h
  have hroom : itemsNesting items + 1 ≤ room := hnesting
  have hinner : itemsNesting items ≤ room - 1 := by omega
  refine ⟨room - 1, by omega, fun v hv => ⟨wellFormedItems_iff.1 hformed v hv, ?_, ?_⟩⟩
  · exact itemsNesting_le_iff.1 hinner v hv
  · exact itemsWholeDigits_le_iff.1 hdigits v hv

theorem Fits.fields {fields : List (τ × Document τ)} (h : Fits most room (.obj fields)) :
    ∃ inner, room = inner + 1 ∧ ∀ entry ∈ fields, Fits most inner entry.2 := by
  obtain ⟨hformed, hnesting, hdigits⟩ := h
  have hroom : fieldsNesting fields + 1 ≤ room := hnesting
  have hinner : fieldsNesting fields ≤ room - 1 := by omega
  refine ⟨room - 1, by omega, fun entry hentry => ⟨?_, ?_, ?_⟩⟩
  · exact wellFormedFields_iff.1 hformed.2 entry hentry
  · exact fieldsNesting_le_iff.1 hinner entry hentry
  · exact fieldsWholeDigits_le_iff.1 hdigits entry hentry

end Bounds

theorem skipGap_append {gap : List Char} (hgap : ∀ c ∈ gap, isGap c = true) (cs : List Char) :
    skipGap (gap ++ cs) = skipGap cs :=
  List.dropWhile_append_of_pos hgap

theorem skipGap_cons {c : Char} (hc : isGap c = false) (cs : List Char) :
    skipGap (c :: cs) = c :: cs :=
  List.dropWhile_cons_of_neg (by simp [hc])

/-- Gaps and what separates values end a number. -/
theorem endsNumber_gap {gap : List Char} (hgap : ∀ c ∈ gap, isGap c = true) {c : Char}
    (hc : c ∈ [',', ']', '\x7d']) (rest : List Char) : EndsNumber (gap ++ c :: rest) := by
  have hends : ∀ d ∈ [',', ']', '\x7d'], d.isDigit = false ∧ d ≠ '.' ∧ d ≠ 'e' ∧ d ≠ 'E' := by
    simp
  cases gap with
  | nil =>
    intro d hd
    cases hd
    exact hends c hc
  | cons first more =>
    intro d hd
    cases hd
    have hfirst := hgap first List.mem_cons_self
    simp only [isGap, Bool.or_eq_true, beq_iff_eq] at hfirst
    rcases hfirst with ((rfl | rfl) | rfl) | rfl <;> decide

/-- A number begins with neither a gap nor a bracket. -/
theorem exists_text_cons_ne (n : Number) :
    ∃ c cs, n.text ['I', 'n', 'f', 'i', 'n', 'i', 't', 'y'] ['N', 'a', 'N'] = c :: cs ∧
      isGap c = false ∧ c ∉ [']', '[', '\x7b'] := by
  obtain ⟨c, cs, htext, hdigit | hother⟩ := exists_text_cons n
  · have hnone : ∀ d ∈ [' ', '\t', '\n', '\r', ']', '[', '\x7b'], c ≠ d := by
      rintro d hd rfl
      have hno : ∀ d ∈ [' ', '\t', '\n', '\r', ']', '[', '\x7b'], d.isDigit = false := by simp
      rw [hno c hd] at hdigit
      cases hdigit
    simp only [List.forall_mem_cons] at hnone
    obtain ⟨hspace, htab, hline, hreturn, hbrackets⟩ := hnone
    exact ⟨c, cs, htext, by simp [isGap, hspace, htab, hline, hreturn], by simp [hbrackets]⟩
  · have hall : ∀ d ∈ ['-', 'I', 'N'], isGap d = false ∧ d ∉ [']', '[', '\x7b'] := by
      simp [isGap]
    exact ⟨c, cs, htext, hall c hother⟩

/-- What a value begins with is neither a gap nor the end of a list. -/
theorem exists_write_cons (layout : Layout) (depth : Nat) (v : Json) :
    ∃ c cs, write layout depth v = c :: cs ∧ isGap c = false ∧ c ≠ ']' ∧
      (v.isScalar = true → c ≠ '[' ∧ c ≠ '\x7b') := by
  cases v with
  | null => exact ⟨'n', _, by rw [write], by decide⟩
  | bool b =>
    cases b
    · exact ⟨'f', _, by rw [write], by decide⟩
    · exact ⟨'t', _, by rw [write], by decide⟩
  | num n =>
    obtain ⟨c, cs, htext, hgap, hbrackets⟩ := exists_text_cons_ne n
    simp only [List.mem_cons, List.not_mem_nil, or_false, not_or] at hbrackets
    exact ⟨c, cs, by rw [write, htext], hgap, hbrackets.1, fun _ => hbrackets.2⟩
  | str s => exact ⟨'"', _, by rw [write, stringText], by decide, by decide, fun _ => by decide⟩
  | arr items =>
    cases items <;> exact ⟨'[', _, by rw [write], by decide, by decide, fun h => by cases h⟩
  | obj fields =>
    cases fields <;> exact ⟨'\x7b', _, by rw [write], by decide, by decide, fun h => by cases h⟩

theorem length_write_pos (layout : Layout) (depth : Nat) (v : Json) :
    0 < (write layout depth v).length := by
  obtain ⟨c, cs, htext, -⟩ := exists_write_cons layout depth v
  rw [htext]
  exact Nat.succ_pos _

theorem skipGap_write {layout : Layout} {gap : List Char} (hgap : ∀ c ∈ gap, isGap c = true)
    (depth : Nat) (v : Json) (rest : List Char) :
    skipGap (gap ++ (write layout depth v ++ rest)) = write layout depth v ++ rest := by
  obtain ⟨c, cs, htext, hc, -⟩ := exists_write_cons layout depth v
  rw [skipGap_append hgap, htext, List.cons_append, skipGap_cons hc]

theorem exists_stringText (s : String) (rest : List Char) :
    ∃ cs, stringText s ++ rest = '"' :: cs ∧ readString cs = some (Text.points s, rest) := by
  refine ⟨s.toList.flatMap escapeChar ++ '"' :: rest, ?_, readString_flatMap s.toList rest⟩
  rw [stringText_string, List.cons_append, List.append_assoc, List.singleton_append]

theorem skipGap_stringText (s : String) (cs : List Char) :
    skipGap (stringText s ++ cs) = stringText s ++ cs :=
  skipGap_cons (by decide) _

section Scalar

variable {most : Nat}

theorem readScalar_write (layout : Layout) (depth : Nat) {v : Json} (hv : v.isScalar = true)
    (hmost : v.wholeDigits ≤ most) {rest : List Char} (h : EndsNumber rest) :
    readScalar most (write layout depth v ++ rest) = .ok (v, rest) := by
  have hread : readScalar? most (write layout depth v ++ rest) = some (v, rest) := by
    cases v with
    | null => rw [write]; rfl
    | bool b => cases b <;> rw [write] <;> rfl
    | num n =>
      rw [write]
      exact readScalar?_text n hmost h
    | str s =>
      obtain ⟨cs, htext, hstring⟩ := exists_stringText s rest
      rw [write, htext, readScalar?, hstring, Option.map_some]
      dsimp only
      rw [Text.ofPoints_points]
    | arr items => cases hv
    | obj fields => cases hv
  rw [readScalar, hread]

theorem readValue_of_scalar {fuel room : Nat} {c : Char} (hopen : c ≠ '[') (hbrace : c ≠ '\x7b')
    (cs : List Char) :
    readValue (τ := String) most (fuel + 1) room (c :: cs) = readScalar most (c :: cs) := by
  rw [readValue] <;> simp_all

end Scalar

/-- With that much fuel, everything whose text is not too long for it is read back. -/
structure ReadsBack (layout : Layout) (most fuel : Nat) : Prop where
  value : ∀ {room depth} {v : Json} {rest}, Fits most room v →
    2 * (write layout depth v).length ≤ fuel → EndsNumber rest →
    readValue most fuel room (write layout depth v ++ rest) = .ok (v, rest)
  items : ∀ {room depth v} {items : List Json} {rest}, (∀ w ∈ v :: items, Fits most room w) →
    2 * ((write layout (depth + 1) v).length + (writeItems layout depth items).length) ≤ fuel →
    readItems most fuel room
      (write layout (depth + 1) v ++ (writeItems layout depth items ++ rest)) =
        .ok (v :: items, rest)
  fields : ∀ {room depth key v} {fields : List (String × Json)} {rest},
    (∀ entry ∈ (key, v) :: fields, Fits most room entry.2) →
    2 * ((write layout (depth + 1) v).length + (writeFields layout depth fields).length) ≤ fuel →
    readFields most fuel room (stringText key ++ ':' :: (layout.afterColon ++
      (write layout (depth + 1) v ++ (writeFields layout depth fields ++ rest)))) =
        .ok ((key, v) :: fields, rest)

/-- A value is read back before a gap and a mark that ends it. -/
theorem ReadsBack.value_gap {layout : Layout} {most fuel room depth : Nat}
    (ih : ReadsBack layout most fuel) {v : Json} (hv : Fits most room v)
    (hfuel : 2 * (write layout depth v).length ≤ fuel) {gap : List Char}
    (hgap : ∀ c ∈ gap, isGap c = true) {c : Char} (hc : c ∈ [',', ']', '\x7d'])
    (rest : List Char) :
    readValue most fuel room (write layout depth v ++ (gap ++ c :: rest)) =
        .ok (v, gap ++ c :: rest) ∧ skipGap (gap ++ c :: rest) = c :: rest := by
  have hends : ∀ d ∈ [',', ']', '\x7d'], isGap d = false := by simp [isGap]
  refine ⟨ih.value hv hfuel (endsNumber_gap hgap hc rest), ?_⟩
  rw [skipGap_append hgap, skipGap_cons (hends c hc)]

theorem ReadsBack.value_comma {layout : Layout} {most fuel room depth : Nat}
    (ih : ReadsBack layout most fuel) {v : Json} (hv : Fits most room v)
    (hfuel : 2 * (write layout depth v).length ≤ fuel) (rest : List Char) :
    readValue most fuel room (write layout depth v ++ ',' :: rest) = .ok (v, ',' :: rest) ∧
      skipGap (',' :: rest) = ',' :: rest :=
  ih.value_gap hv hfuel (List.forall_mem_nil _) (by decide) rest

section Step

variable {layout : Layout} (hlayout : layout.IsGap) {most fuel room depth : Nat}
  (ih : ReadsBack layout most fuel) {rest : List Char}
include hlayout ih

theorem readItems_write_succ {v : Json} {items : List Json}
    (hfits : ∀ w ∈ v :: items, Fits most room w)
    (hfuel : 2 * ((write layout (depth + 1) v).length + (writeItems layout depth items).length) ≤
      fuel + 1) :
    readItems most (fuel + 1) room
      (write layout (depth + 1) v ++ (writeItems layout depth items ++ rest)) =
        .ok (v :: items, rest) := by
  obtain ⟨hv, hitems⟩ := List.forall_mem_cons.1 hfits
  rw [readItems_eq_ok_iff]
  cases items with
  | nil =>
    simp only [writeItems, List.length_append, List.length_singleton, List.append_assoc,
      List.singleton_append] at hfuel ⊢
    have hvalueFuel : 2 * (write layout (depth + 1) v).length ≤ fuel := by omega
    have hclose : ']' ∈ [',', ']', '\x7d'] := by decide
    obtain ⟨hvalue, hend⟩ := ih.value_gap hv hvalueFuel (hlayout.gap depth) hclose rest
    exact .last hvalue hend
  | cons w more =>
    simp only [writeItems, List.length_append, List.length_cons, List.append_assoc,
      List.cons_append] at hfuel ⊢
    have hvalueFuel : 2 * (write layout (depth + 1) v).length ≤ fuel := by omega
    obtain ⟨hvalue, hcomma⟩ := ih.value_comma hv hvalueFuel _
    refine .more hvalue hcomma ?_
    rw [skipGap_write (hlayout.gap (depth + 1))]
    exact ih.items hitems (by omega)

theorem readFields_write_succ {key : String} {v : Json} {fields : List (String × Json)}
    (hfits : ∀ entry ∈ (key, v) :: fields, Fits most room entry.2)
    (hfuel : 2 * ((write layout (depth + 1) v).length + (writeFields layout depth fields).length) ≤
      fuel + 1) :
    readFields most (fuel + 1) room (stringText key ++ ':' :: (layout.afterColon ++
      (write layout (depth + 1) v ++ (writeFields layout depth fields ++ rest)))) =
        .ok ((key, v) :: fields, rest) := by
  obtain ⟨hentry, hfields⟩ := List.forall_mem_cons.1 hfits
  have hv : Fits most room v := hentry
  obtain ⟨cs, hname, hkey⟩ := exists_stringText key (':' :: (layout.afterColon ++
    (write layout (depth + 1) v ++ (writeFields layout depth fields ++ rest))))
  have hcolon := skipGap_cons (c := ':') (by decide) (layout.afterColon ++
    (write layout (depth + 1) v ++ (writeFields layout depth fields ++ rest)))
  have hstart : skipGap (layout.afterColon ++ (write layout (depth + 1) v ++
      (writeFields layout depth fields ++ rest))) =
        write layout (depth + 1) v ++ (writeFields layout depth fields ++ rest) :=
    skipGap_write hlayout.afterColon _ _ _
  rw [hname, readFields_eq_ok_iff, ← Text.ofPoints_points key]
  cases fields with
  | nil =>
    simp only [writeFields, List.length_append, List.length_singleton, List.append_assoc,
      List.singleton_append] at hfuel hkey hcolon hstart
    have hvalueFuel : 2 * (write layout (depth + 1) v).length ≤ fuel := by omega
    have hclose : '\x7d' ∈ [',', ']', '\x7d'] := by decide
    obtain ⟨hvalue, hend⟩ := ih.value_gap hv hvalueFuel (hlayout.gap depth) hclose rest
    rw [← hstart] at hvalue
    exact .last hkey hcolon hvalue hend
  | cons entry more =>
    obtain ⟨name, w⟩ := entry
    simp only [writeFields, List.length_append, List.length_cons, List.append_assoc,
      List.cons_append] at hfuel hkey hcolon hstart
    have hvalueFuel : 2 * (write layout (depth + 1) v).length ≤ fuel := by omega
    -- what follows the comma is kept folded: the reader gets to it by a step of its own
    generalize hafter : layout.gap (depth + 1) ++ (stringText name ++ ':' :: (layout.afterColon ++
      (write layout (depth + 1) w ++ (writeFields layout depth more ++ rest)))) = after at *
    obtain ⟨hvalue, hcomma⟩ := ih.value_comma hv hvalueFuel after
    rw [← hstart] at hvalue
    refine .more hkey hcolon hvalue hcomma ?_
    rw [← hafter, skipGap_append (hlayout.gap (depth + 1)), skipGap_stringText]
    exact ih.fields hfields (by omega)

theorem readValue_write_arr {items : List Json} (hfits : Fits most room (.arr items))
    (hfuel : 2 * (write layout depth (.arr items)).length ≤ fuel + 1) :
    readValue most (fuel + 1) room (write layout depth (.arr items) ++ rest) =
      .ok (.arr items, rest) := by
  obtain ⟨inner, rfl, hitems⟩ := hfits.items
  cases items with
  | nil =>
    rw [write]
    rfl
  | cons v more =>
    obtain ⟨c, cs, htext, hgap, hclose, -⟩ := exists_write_cons layout (depth + 1) v
    simp only [write, List.length_append, List.length_cons, List.append_assoc,
      List.cons_append] at hfuel ⊢
    have hread : readItems most fuel inner (write layout (depth + 1) v ++
        (writeItems layout depth more ++ rest)) = .ok (v :: more, rest) :=
      ih.items hitems (by omega)
    rw [readValue, skipGap_write (hlayout.gap (depth + 1))]
    rw [htext, List.cons_append] at hread ⊢
    split
    · next heq => exact absurd (List.cons.inj heq).1 hclose
    · rw [hread]
      rfl

theorem readValue_write_obj {fields : List (String × Json)} (hfits : Fits most room (.obj fields))
    (hfuel : 2 * (write layout depth (.obj fields)).length ≤ fuel + 1) :
    readValue most (fuel + 1) room (write layout depth (.obj fields) ++ rest) =
      .ok (.obj fields, rest) := by
  obtain ⟨inner, rfl, hfields⟩ := hfits.fields
  cases fields with
  | nil =>
    rw [write]
    rfl
  | cons entry more =>
    obtain ⟨key, v⟩ := entry
    simp only [write, List.length_append, List.length_cons, List.append_assoc,
      List.cons_append] at hfuel ⊢
    have hread : readFields most fuel inner (stringText key ++ ':' :: (layout.afterColon ++
        (write layout (depth + 1) v ++ (writeFields layout depth more ++ rest)))) =
          .ok ((key, v) :: more, rest) :=
      ih.fields hfields (by omega)
    rw [readValue, skipGap_append (hlayout.gap (depth + 1)), skipGap_stringText]
    split
    · next heq => cases heq
    · rw [hread, Except.map]
      dsimp only
      rw [Table.ofList_of_nodup hfits.wellFormed.1]

theorem readValue_write_succ {v : Json} (hfits : Fits most room v)
    (hfuel : 2 * (write layout depth v).length ≤ fuel + 1) (hrest : EndsNumber rest) :
    readValue most (fuel + 1) room (write layout depth v ++ rest) = .ok (v, rest) := by
  by_cases hscalar : v.isScalar = true
  · obtain ⟨c, cs, htext, -, -, hopen⟩ := exists_write_cons layout depth v
    obtain ⟨hlist, hobject⟩ := hopen hscalar
    have hread := readScalar_write layout depth hscalar hfits.digits hrest
    rw [htext, List.cons_append] at hread ⊢
    rw [readValue_of_scalar hlist hobject, hread]
  · cases v with
    | arr items => exact readValue_write_arr hlayout ih hfits hfuel
    | obj fields => exact readValue_write_obj hlayout ih hfits hfuel
    | _ => exact absurd rfl hscalar

end Step

/-- By induction on the fuel: every part of a text is shorter than the whole. -/
theorem readsBack {layout : Layout} (hlayout : layout.IsGap) (most fuel : Nat) :
    ReadsBack layout most fuel := by
  induction fuel with
  | zero =>
    refine ⟨fun {room depth v rest} _ hfuel _ => ?_, fun {room depth v items rest} _ hfuel => ?_,
      fun {room depth key v fields rest} _ hfuel => ?_⟩
    · have hpos := length_write_pos layout depth v
      omega
    · have hpos := length_write_pos layout (depth + 1) v
      omega
    · have hpos := length_write_pos layout (depth + 1) v
      omega
  | succ fuel ih =>
    exact ⟨readValue_write_succ hlayout ih, readItems_write_succ hlayout ih,
      readFields_write_succ hlayout ih⟩

theorem readValue_write {layout : Layout} (hlayout : layout.IsGap) {most fuel room : Nat}
    {v : Json} (hfits : Fits most room v) (hfuel : 2 * (write layout 0 v).length ≤ fuel) :
    readValue most fuel room (write layout 0 v) = .ok (v, []) := by
  have hread : readValue most fuel room (write layout 0 v ++ []) = .ok (v, []) :=
    (readsBack hlayout most fuel).value hfits hfuel (by simp [EndsNumber])
  rwa [List.append_nil] at hread

/-- The text of a document gives it away: with enough room for either, the one that is read is
both. -/
theorem render_eq_iff {layout : Layout} (hlayout : layout.IsGap) {v w : Json} (hv : v.WellFormed)
    (hw : w.WellFormed) : render layout v = render layout w ↔ v = w := by
  constructor
  · intro h
    have htext : write layout 0 v = write layout 0 w := by
      simpa [render] using congrArg String.toList h
    have hfitsv : Fits (max v.wholeDigits w.wholeDigits) (max v.nesting w.nesting) v :=
      ⟨hv, le_max_left _ _, le_max_left _ _⟩
    have hfitsw : Fits (max v.wholeDigits w.wholeDigits) (max v.nesting w.nesting) w :=
      ⟨hw, le_max_right _ _, le_max_right _ _⟩
    have hreadv := readValue_write hlayout hfitsv le_rfl
    have hreadw := readValue_write hlayout hfitsw le_rfl
    rw [htext, hreadw] at hreadv
    cases hreadv
    rfl
  · rintro rfl
    rfl

mutual

theorem nesting_le_length (layout : Layout) : (depth : Nat) → (v : Json) →
    v.nesting ≤ (write layout depth v).length
  | _, .null | _, .bool _ | _, .num _ | _, .str _ => Nat.zero_le _
  | _, .arr [] | _, .obj [] => by simp [nesting, itemsNesting, fieldsNesting, write]
  | depth, .arr (v :: rest) => by
    have hv := nesting_le_length layout (depth + 1) v
    have hrest := itemsNesting_le_length layout depth rest
    simp only [nesting, itemsNesting, write, List.length_cons, List.length_append]
    omega
  | depth, .obj ((_, v) :: rest) => by
    have hv := nesting_le_length layout (depth + 1) v
    have hrest := fieldsNesting_le_length layout depth rest
    simp only [nesting, fieldsNesting, write, List.length_cons, List.length_append]
    omega

theorem itemsNesting_le_length (layout : Layout) : (depth : Nat) → (items : List Json) →
    itemsNesting items ≤ (writeItems layout depth items).length
  | _, [] => Nat.zero_le _
  | depth, v :: rest => by
    have hv := nesting_le_length layout (depth + 1) v
    have hrest := itemsNesting_le_length layout depth rest
    simp only [itemsNesting, writeItems, List.length_cons, List.length_append]
    omega

theorem fieldsNesting_le_length (layout : Layout) :
    (depth : Nat) → (fields : List (String × Json)) →
      fieldsNesting fields ≤ (writeFields layout depth fields).length
  | _, [] => Nat.zero_le _
  | depth, (_, v) :: rest => by
    have hv := nesting_le_length layout (depth + 1) v
    have hrest := fieldsNesting_le_length layout depth rest
    simp only [fieldsNesting, writeFields, List.length_cons, List.length_append]
    omega

end

/-- The document a text holds, however deep, where a whole number has at most `most` digits. -/
def ofTextUpTo? (most : Nat) (s : String) : Option Json :=
  match readValue most (2 * s.length + 2) s.length (skipGap s.toList) with
  | .ok (v, rest) => if skipGap rest = [] then some v else none
  | .error _ => none

theorem ofText?_eq (s : String) : ofText? s = ofTextUpTo? Numeral.maxWholeDigits s := by
  simp only [ofText?, ofTextUpTo?, readWithin, String.length_toList]
  cases readValue (τ := String) Numeral.maxWholeDigits (2 * s.length + 2) s.length
      (skipGap s.toList) with
  | error cause => rfl
  | ok read => dsimp only; split_ifs <;> rfl

/-- A document is read back from its text if its whole numbers may be as long as they are. -/
theorem ofTextUpTo?_render {layout : Layout} (hlayout : layout.IsGap) {v : Json}
    (hv : v.WellFormed) {most : Nat} (hdigits : v.wholeDigits ≤ most) :
    ofTextUpTo? most (render layout v) = some v := by
  obtain ⟨c, cs, htext, hgap, -⟩ := exists_write_cons layout 0 v
  have hskip : skipGap (write layout 0 v) = write layout 0 v := by
    rw [htext, skipGap_cons hgap]
  have hfits : Fits most (write layout 0 v).length v :=
    ⟨hv, nesting_le_length layout 0 v, hdigits⟩
  have hread : readValue most (2 * (write layout 0 v).length + 2) (write layout 0 v).length
      (write layout 0 v) = .ok (v, []) :=
    readValue_write hlayout hfits (by omega)
  rw [ofTextUpTo?, render, String.length_ofList, String.toList_ofList, hskip, hread]
  rfl

theorem ofText?_render {layout : Layout} (hlayout : layout.IsGap) {v : Json} (hv : v.WellFormed)
    (hdigits : v.wholeDigits ≤ Numeral.maxWholeDigits) : ofText? (render layout v) = some v := by
  rw [ofText?_eq, ofTextUpTo?_render hlayout hv hdigits]

/-- The canonical text tells documents apart up to the order of fields. -/
theorem canonical_eq_iff {v w : Json} (hv : v.WellFormed) (hw : w.WellFormed) :
    v.canonical = w.canonical ↔ v.Alike w := by
  have hv' : v.sorted.WellFormed := (alike_sorted hv).symm.wellFormed
  have hw' : w.sorted.WellFormed := (alike_sorted hw).symm.wellFormed
  rw [canonical, canonical, render_eq_iff isGap_compact hv' hw', sorted_eq_iff hv hw]

end CloudCanvas.Document
