import CloudCanvas.Proofs.Document.Basic
import CloudCanvas.Proofs.Settings.Field
import CloudCanvas.Proofs.Settings.Normalize

/-!
The values among normalized settings. Normalization keeps a detail, reduces it to a part of it, or
makes a scalar of it; what a field falls back to is a scalar or empty. So what holds of scalars and
of the empty object, and of the parts of whatever it holds of, holds of all settings when it holds
of the details.
-/

namespace CloudCanvas.Settings

theorem isScalar_or_empty_of_fallback {kind : ResourceKind} {schema : Schema}
    (h : schema? kind = some schema) :
    ∀ field ∈ schema, ∀ v ∈ field.fallback, v.isScalar = true ∨ v = .obj [] := by
  cases kind <;> cases h <;> decide

theorem Field.exists_mem_of_entered? {field : Field} {details : Table Json} {v : Json}
    (h : field.entered? details = some v) : ∃ key, (key, v) ∈ details := by
  obtain ⟨key, -, hkey⟩ := List.exists_of_findSome?_eq_some h
  exact ⟨key, Table.mem_of_get? (Option.filter_eq_some_iff.1 hkey).1⟩

section Values

variable {Q : Json → Prop} (hscalar : ∀ v, v.isScalar = true → Q v)
include hscalar

theorem of_coerce? {shape : Shape} {v w : Json} (h : shape.coerce? v = some w) (hv : Q v) :
    Q w := by
  cases shape with
  | flag =>
    cases h
    exact hscalar _ rfl
  | number =>
    obtain ⟨n, -, rfl⟩ := Option.map_eq_some_iff.1 h
    exact hscalar _ rfl
  | text =>
    cases v <;> cases h <;> exact hscalar _ rfl
  | mapping =>
    cases v <;> cases h
    exact hv
  | any =>
    cases h
    exact hv

variable (hQ : Document.Hereditary Q)
include hQ

theorem of_getField {parts : Table Json} (h : Q (.obj parts)) (key : String) :
    Q (Document.getField parts key) := by
  unfold Document.getField
  cases hget : parts.get? key with
  | none => exact hscalar _ rfl
  | some v => exact hQ.fields h _ (Table.mem_of_get? hget)

theorem of_reduce? {field : Field} {v w : Json} (h : field.reduce? v = some w) (hv : Q v) :
    Q w := by
  unfold Field.reduce? at h
  split at h
  · split at h
    · obtain ⟨hname, -⟩ := Option.filter_eq_some_iff.1 h
      cases hname
      exact of_getField hscalar hQ hv "name"
    · cases h
      exact hv
  · cases h
    exact hv

variable (hempty : Q (.obj [])) {details : Table Json} (h : ∀ entry ∈ details, Q entry.2)
include hempty h

theorem of_read {kind : ResourceKind} {schema : Schema} (hschema : schema? kind = some schema)
    {field : Field} (hfield : field ∈ schema) {v : Json} (hv : field.read details = some v) :
    Q v := by
  rcases Option.or_eq_some_iff.1 hv with hentered | ⟨-, hfallback⟩
  · simp only [Option.bind_eq_bind, Option.bind_eq_some_iff] at hentered
    obtain ⟨reduced, ⟨entered, hsome, hreduced⟩, hcoerced⟩ := hentered
    obtain ⟨key, hkey⟩ := Field.exists_mem_of_entered? hsome
    exact of_coerce? hscalar hcoerced (of_reduce? hscalar hQ hreduced (h _ hkey))
  · rcases isScalar_or_empty_of_fallback hschema field hfield v hfallback with hv | rfl
    · exact hscalar v hv
    · exact hempty

theorem of_mem_normalize (hdetails : details.keys.Nodup) (kind : ResourceKind) :
    ∀ entry ∈ normalize (.kind kind) (.obj details), Q entry.2 := by
  cases hschema : schema? kind with
  | none =>
    have hnone : KindRef.resolve? (.kind kind) >>= schema? = none := hschema
    rw [normalize_of_unmodelled hnone]
    exact h
  | some schema =>
    rw [normalize_eq_read rfl hschema hdetails]
    intro entry hentry
    obtain ⟨field, hfield, hread⟩ := List.mem_filterMap.1 hentry
    obtain ⟨v, hv, rfl⟩ := Option.map_eq_some_iff.1 hread
    exact of_read hscalar hQ hempty h hschema hfield hv

end Values

/-- A setting is named by the schema, or is a detail of a kind without one. -/
theorem name_of_mem_normalize {kind : ResourceKind} {details : Table Json} {entry : String × Json}
    (h : entry ∈ normalize (.kind kind) (.obj details)) :
    (∃ schema, schema? kind = some schema ∧ ∃ field ∈ schema, field.name = entry.1) ∨
      entry ∈ details := by
  cases hschema : schema? kind with
  | none =>
    have hnone : KindRef.resolve? (.kind kind) >>= schema? = none := hschema
    rw [normalize_of_unmodelled hnone] at h
    exact .inr h
  | some schema =>
    rw [normalize_eq_apply rfl hschema] at h
    obtain ⟨field, hfield, hname, -⟩ := mem_apply_iff.1 h
    exact .inl ⟨schema, rfl, field, hfield, hname⟩

end CloudCanvas.Settings
