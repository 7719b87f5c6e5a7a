import CloudCanvas.Document.Reader

/-!
Documents read from text are well formed: wherever a text repeats a name in one object, the object
that is read has it once.
-/

namespace CloudCanvas

namespace Document

variable {τ : Type}

theorem wellFormedFields_iff {fields : List (τ × Document τ)} :
    WellFormedFields fields ↔ ∀ entry ∈ fields, entry.2.WellFormed := by
  induction fields with
  | nil => simp [WellFormedFields]
  | cons entry rest ih => rw [WellFormedFields, ih, List.forall_mem_cons]

theorem wellFormed_ofList [DecidableEq τ] {fields : List (τ × Document τ)}
    (h : WellFormedFields fields) :
    (Document.obj (Table.ofList fields)).WellFormed := by
  refine ⟨Table.nodup_keys_ofList fields, wellFormedFields_iff.2 fun entry hentry => ?_⟩
  exact wellFormedFields_iff.1 h entry (Table.mem_of_mem_ofList hentry)

variable [Text.Textual τ]

theorem wellFormed_of_readScalar? {most : Nat} {cs rest : List Char} {v : Document τ}
    (h : readScalar? most cs = some (v, rest)) : v.WellFormed := by
  unfold readScalar? at h
  split at h
  · cases h
    trivial
  · cases h
    trivial
  · cases h
    trivial
  · obtain ⟨_, -, heq⟩ := Option.map_eq_some_iff.1 h
    cases heq
    trivial
  · obtain ⟨_, -, heq⟩ := Option.map_eq_some_iff.1 h
    cases heq
    trivial

theorem wellFormed_of_readScalar {most : Nat} {cs rest : List Char} {v : Document τ}
    (h : readScalar most cs = .ok (v, rest)) : v.WellFormed := by
  unfold readScalar at h
  split at h
  · next hscalar =>
    cases h
    exact wellFormed_of_readScalar? hscalar
  · cases h

variable [DecidableEq τ]

theorem exists_of_map_eq_ok {α β : Type} {result : Except ReadError α} {f : α → β} {b : β}
    (h : result.map f = .ok b) : ∃ a, result = .ok a ∧ f a = b := by
  cases result with
  | error e => cases h
  | ok a => exact ⟨a, rfl, Except.ok.inj h⟩

section Steps

variable {most fuel : Nat}

variable (most fuel) in
/-- The ways in which a value is read, by what the readers make of its parts with less fuel. -/
inductive ReadsValue : Nat → List Char → Document τ → List Char → Prop
  | scalar {room : Nat} {cs rest : List Char} {v : Document τ}
      (h : readScalar most cs = .ok (v, rest)) : ReadsValue room cs v rest
  | emptyList {room : Nat} {after rest : List Char} (hclose : skipGap after = ']' :: rest) :
      ReadsValue (room + 1) ('[' :: after) (.arr []) rest
  | list {room : Nat} {after rest : List Char} {items : List (Document τ)}
      (h : readItems most fuel room (skipGap after) = .ok (items, rest)) :
      ReadsValue (room + 1) ('[' :: after) (.arr items) rest
  | emptyObject {room : Nat} {after rest : List Char} (hclose : skipGap after = '\x7d' :: rest) :
      ReadsValue (room + 1) ('\x7b' :: after) (.obj []) rest
  | object {room : Nat} {after rest : List Char} {fields : List (τ × Document τ)}
      (h : readFields most fuel room (skipGap after) = .ok (fields, rest)) :
      ReadsValue (room + 1) ('\x7b' :: after) (.obj (Table.ofList fields)) rest

theorem readsValue_of_readValue {room : Nat} {cs rest : List Char} {v : Document τ}
    (h : readValue most (fuel + 1) room cs = .ok (v, rest)) :
    ReadsValue most fuel room cs v rest := by
  unfold readValue at h
  split at h
  · next hfuel => cases hfuel
  · cases h
  · next hfuel =>
    cases hfuel
    split at h
    · next hclose =>
      cases h
      exact .emptyList hclose
    · obtain ⟨⟨items, after⟩, hitems, heq⟩ := exists_of_map_eq_ok h
      cases heq
      exact .list hitems
  · cases h
  · next hfuel =>
    cases hfuel
    split at h
    · next hclose =>
      cases h
      exact .emptyObject hclose
    · obtain ⟨⟨fields, after⟩, hfields, heq⟩ := exists_of_map_eq_ok h
      cases heq
      exact .object hfields
  · exact .scalar h

variable (most fuel) in
/-- The ways in which the items of a list are read, and the end of the list behind them. -/
inductive ReadsItems (room : Nat) : List Char → List (Document τ) → List Char → Prop
  | last {cs after rest : List Char} {v : Document τ}
      (hv : readValue most fuel room cs = .ok (v, after)) (hclose : skipGap after = ']' :: rest) :
      ReadsItems room cs [v] rest
  | more {cs after later rest : List Char} {v : Document τ} {items : List (Document τ)}
      (hv : readValue most fuel room cs = .ok (v, after)) (hcomma : skipGap after = ',' :: later)
      (hmore : readItems most fuel room (skipGap later) = .ok (items, rest)) :
      ReadsItems room cs (v :: items) rest

theorem readsItems_of_readItems {room : Nat} {cs rest : List Char} {items : List (Document τ)}
    (h : readItems most (fuel + 1) room cs = .ok (items, rest)) :
    ReadsItems most fuel room cs items rest := by
  unfold readItems at h
  split at h
  · cases h
  · next v after hv =>
    split at h
    · next hclose =>
      cases h
      exact .last hv hclose
    · next later hcomma =>
      obtain ⟨⟨more, after⟩, hmore, heq⟩ := exists_of_map_eq_ok h
      cases heq
      exact .more hv hcomma hmore
    · cases h

theorem readItems_eq_ok_iff {room : Nat} {cs rest : List Char} {items : List (Document τ)} :
    readItems most (fuel + 1) room cs = .ok (items, rest) ↔
      ReadsItems most fuel room cs items rest := by
  refine ⟨readsItems_of_readItems, fun h => ?_⟩
  cases h with
  | last hv hclose =>
    rw [readItems, hv]
    simp only [hclose]
  | more hv hcomma hmore =>
    rw [readItems, hv]
    simp only [hcomma, hmore]
    rfl

variable (most fuel) in
/-- The ways in which the fields of an object are read, and the end of the object behind them. -/
inductive ReadsFields (room : Nat) : List Char → List (τ × Document τ) → List Char → Prop
  | last {cs behind beside after rest : List Char} {key : List Text.Point} {v : Document τ}
      (hkey : readString cs = some (key, behind)) (hcolon : skipGap behind = ':' :: beside)
      (hv : readValue most fuel room (skipGap beside) = .ok (v, after))
      (hclose : skipGap after = '\x7d' :: rest) :
      ReadsFields room ('"' :: cs) [(Text.ofPoints key, v)] rest
  | more {cs behind beside after later rest : List Char} {key : List Text.Point} {v : Document τ}
      {fields : List (τ × Document τ)}
      (hkey : readString cs = some (key, behind)) (hcolon : skipGap behind = ':' :: beside)
      (hv : readValue most fuel room (skipGap beside) = .ok (v, after))
      (hcomma : skipGap after = ',' :: later)
      (hmore : readFields most fuel room (skipGap later) = .ok (fields, rest)) :
      ReadsFields room ('"' :: cs) ((Text.ofPoints key, v) :: fields) rest

theorem readsFields_of_readFields {room : Nat} {cs rest : List Char}
    {fields : List (τ × Document τ)}
    (h : readFields most (fuel + 1) room cs = .ok (fields, rest)) :
    ReadsFields most fuel room cs fields rest := by
  unfold readFields at h
  split at h
  · next hfuel => cases hfuel
  · next hfuel =>
    cases hfuel
    split at h
    · cases h
    · next key behind hkey =>
      split at h
      · next beside hcolon =>
        split at h
        · cases h
        · next v after hv =>
          split at h
          · next hclose =>
            cases h
            exact .last hkey hcolon hv hclose
          · next later hcomma =>
            obtain ⟨⟨more, after⟩, hmore, heq⟩ := exists_of_map_eq_ok h
            cases heq
            exact .more hkey hcolon hv hcomma hmore
          · cases h
      · cases h
  · cases h

theorem readFields_eq_ok_iff {room : Nat} {cs rest : List Char}
    {fields : List (τ × Document τ)} :
    readFields most (fuel + 1) room cs = .ok (fields, rest) ↔
      ReadsFields most fuel room cs fields rest := by
  refine ⟨readsFields_of_readFields, fun h => ?_⟩
  cases h with
  | last hkey hcolon hv hclose =>
    rw [readFields, hkey]
    simp only [hcolon, hv, hclose]
  | more hkey hcolon hv hcomma hmore =>
    rw [readFields, hkey]
    simp only [hcolon, hv, hcomma, hmore]
    rfl

end Steps

variable (τ) in
/-- What is read with that much fuel is well formed. -/
structure ReadsWellFormed (most fuel : Nat) : Prop where
  value : ∀ {room cs rest} {v : Document τ},
    readValue most fuel room cs = .ok (v, rest) → v.WellFormed
  items : ∀ {room cs rest} {items : List (Document τ)},
    readItems most fuel room cs = .ok (items, rest) → WellFormedItems items
  fields : ∀ {room cs rest} {fields : List (τ × Document τ)},
    readFields most fuel room cs = .ok (fields, rest) → WellFormedFields fields

section Step

variable {most fuel room : Nat} {cs rest : List Char} (ih : ReadsWellFormed τ most fuel)
include ih

theorem ReadsValue.wellFormed {v : Document τ} (h : ReadsValue most fuel room cs v rest) :
    v.WellFormed := by
  cases h with
  | scalar h => exact wellFormed_of_readScalar h
  | emptyList => trivial
  | list h => exact ih.items h
  | emptyObject => exact ⟨List.nodup_nil, trivial⟩
  | object h => exact wellFormed_ofList (ih.fields h)

theorem ReadsItems.wellFormed {items : List (Document τ)}
    (h : ReadsItems most fuel room cs items rest) : WellFormedItems items := by
  cases h with
  | last hv => exact ⟨ih.value hv, trivial⟩
  | more hv _ hmore => exact ⟨ih.value hv, ih.items hmore⟩

theorem ReadsFields.wellFormed {fields : List (τ × Document τ)}
    (h : ReadsFields most fuel room cs fields rest) : WellFormedFields fields := by
  cases h with
  | last _ _ hv => exact ⟨ih.value hv, trivial⟩
  | more _ _ hv _ hmore => exact ⟨ih.value hv, ih.fields hmore⟩

end Step

/-- By induction on the fuel, of which every part of a value gets less. -/
theorem readsWellFormed (most fuel : Nat) : ReadsWellFormed τ most fuel := by
  induction fuel with
  | zero =>
    constructor <;> intro _ _ _ _ h
    · cases h
    · cases h
    · cases h
  | succ fuel ih =>
    exact ⟨fun h => (readsValue_of_readValue h).wellFormed ih,
      fun h => (readItems_eq_ok_iff.1 h).wellFormed ih,
      fun h => (readFields_eq_ok_iff.1 h).wellFormed ih⟩

theorem wellFormed_of_readWithin {room : Nat} {s : String} {v : Document τ}
    (h : readWithin room s = .ok v) : v.WellFormed := by
  unfold readWithin at h
  dsimp only at h
  split at h
  · next hv =>
    split at h
    · cases h
      exact (readsWellFormed _ _).value hv
    · cases h
  · cases h

theorem wellFormed_of_ofText? {s : String} {v : Json} (h : ofText? s = some v) :
    v.WellFormed := by
  unfold ofText? at h
  split at h
  · next hv =>
    cases h
    exact wellFormed_of_readWithin hv
  · cases h

end Document

end CloudCanvas
