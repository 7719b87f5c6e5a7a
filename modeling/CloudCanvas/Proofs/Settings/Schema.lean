import CloudCanvas.Proofs.Number.Value
import CloudCanvas.Settings.Schema

/-!
What a settings schema promises about the values of its fields. The schemas keep the promise
themselves: names are not repeated, no name is an older name at the same time, and what a field
falls back to is a value of its shape.
-/

namespace CloudCanvas.Settings

/-- The values of a shape. A text is never blank, and a number has its plainest form. -/
def Shape.Admits : Shape → Json → Prop
  | .flag, v => ∃ b, v = .bool b
  | .number, v => ∃ n : Number, v = .num n ∧ n.IsPlain
  | .text, v => ∃ s, v = .str s ∧ Text.isBlankText s = false
  | .mapping, v => ∃ fields, v = .obj fields
  | .any, v => v.isBlank = false

theorem Shape.isBlank_of_admits {shape : Shape} {v : Json} (h : shape.Admits v) :
    v.isBlank = false := by
  cases shape with
  | flag =>
    obtain ⟨b, rfl⟩ := h
    rfl
  | number =>
    obtain ⟨n, rfl, -⟩ := h
    rfl
  | text =>
    obtain ⟨s, rfl, hs⟩ := h
    exact hs
  | mapping =>
    obtain ⟨fields, rfl⟩ := h
    rfl
  | any => exact h

theorem Shape.ne_null_of_admits {shape : Shape} {v : Json} (h : shape.Admits v) : v ≠ .null := by
  rintro rfl
  cases shape.isBlank_of_admits h

/-- A field falls back to nothing or to a value of its shape. -/
def Field.IsSound (field : Field) : Prop :=
  ∀ v, field.fallback = some v → field.shape.Admits v

theorem Field.isSound_number (name : String) (fallback : Int) (legacy : List String) :
    (number name fallback legacy).IsSound := by
  rintro v hv
  cases hv
  exact ⟨.int fallback, rfl, trivial⟩

theorem Field.isSound_flag (name : String) (fallback : Option Bool) (legacy : List String) :
    (flag name fallback legacy).IsSound := by
  rintro v hv
  obtain ⟨b, -, rfl⟩ := Option.map_eq_some_iff.1 hv
  exact ⟨b, rfl⟩

theorem Field.isSound_mapping (name : String) : (mapping name).IsSound := by
  rintro v hv
  cases hv
  exact ⟨[], rfl⟩

theorem Field.isSound_any (name : String) (legacy : List String) : (any name legacy).IsSound := by
  rintro v hv
  cases hv

theorem Field.isSound_text {name : String} {fallback : Option String} {legacy : List String}
    (h : ∀ s ∈ fallback, Text.isBlankText s = false) : (text name fallback legacy).IsSound := by
  rintro v hv
  obtain ⟨s, hs, rfl⟩ := Option.map_eq_some_iff.1 hv
  exact ⟨s, rfl, h s hs⟩

theorem Field.isSound_keyName {name : String} {fallback : Option String}
    (h : ∀ s ∈ fallback, Text.isBlankText s = false) : (keyName name fallback).IsSound := by
  rintro v hv
  obtain ⟨s, hs, rfl⟩ := Option.map_eq_some_iff.1 hv
  exact ⟨s, rfl, h s hs⟩

theorem nodup_names {kind : ResourceKind} {schema : Schema} (h : schema? kind = some schema) :
    (schema.map Field.name).Nodup := by
  cases kind <;> cases h <;> decide

theorem isSound_of_mem {kind : ResourceKind} {schema : Schema} (h : schema? kind = some schema) :
    ∀ field ∈ schema, field.IsSound := by
  cases kind <;> cases h <;>
    simp +decide [Field.isSound_number, Field.isSound_flag, Field.isSound_mapping,
      Field.isSound_any, Field.isSound_text, Field.isSound_keyName]

/-- No name of a field is an older name of a field. -/
def Schema.KeepsApart (schema : Schema) : Prop :=
  ∀ field ∈ schema, ∀ other ∈ schema, other.name ∉ field.legacy

instance (schema : Schema) : Decidable schema.KeepsApart :=
  inferInstanceAs (Decidable (∀ field ∈ schema, ∀ other ∈ schema, other.name ∉ field.legacy))

theorem keepsApart {kind : ResourceKind} {schema : Schema} (h : schema? kind = some schema) :
    schema.KeepsApart := by
  cases kind <;> cases h <;> decide

/-- Key names are texts. -/
theorem shape_of_named {kind : ResourceKind} {schema : Schema} (h : schema? kind = some schema) :
    ∀ field ∈ schema, field.named = true → field.shape = .text := by
  cases kind <;> cases h <;> decide

end CloudCanvas.Settings
