import CloudCanvas.Proofs.Number.Text
import CloudCanvas.Proofs.Settings.Schema
import CloudCanvas.Settings.Normalize
import Mathlib.Data.List.Basic

/-!
Whatever a user entered, normalized settings conform to the schema of their kind. A value reaches
the settings only through its field: it is either brought to the shape of the field or replaced by
what the field falls back to.
-/

namespace CloudCanvas.Settings

theorem isPlain_of_number? {v : Json} {n : Number} (h : number? v = some n) : n.IsPlain := by
  cases v with
  | bool b =>
    cases h
    trivial
  | num m =>
    rw [number?] at h
    exact Number.isPlain_of_plain? h
  | str s =>
    rw [number?] at h
    exact Number.isPlain_of_ofText? h
  | null => cases h
  | arr items => cases h
  | obj fields => cases h

/-- Only a blank text is brought to a text that is blank. -/
theorem Shape.admits_of_coerce? {shape : Shape} {v w : Json} (h : shape.coerce? v = some w)
    (hv : v.isBlank = false) : shape.Admits w := by
  cases shape with
  | flag =>
    cases h
    exact ⟨v.truthy, rfl⟩
  | number =>
    obtain ⟨n, hn, rfl⟩ := Option.map_eq_some_iff.1 h
    exact ⟨n, rfl, isPlain_of_number? hn⟩
  | text =>
    cases v with
    | str s =>
      cases h
      exact ⟨s, rfl, hv⟩
    | num n =>
      cases h
      exact ⟨_, rfl, n.isBlankText_display⟩
    | null => cases h
    | bool b => cases h
    | arr items => cases h
    | obj fields => cases h
  | mapping =>
    cases v with
    | obj fields =>
      cases h
      exact ⟨fields, rfl⟩
    | null => cases h
    | bool b => cases h
    | num n => cases h
    | str s => cases h
    | arr items => cases h
  | any =>
    cases h
    exact hv

theorem admits_of_settle {details : Table Json} {field : Field} {v : Json}
    (hsound : field.IsSound) (h : settle details field = some v) : field.shape.Admits v := by
  unfold settle at h
  cases hget : details.get? field.name with
  | none =>
    rw [hget] at h
    exact hsound v h
  | some w =>
    simp only [hget] at h
    by_cases hblank : w.isBlank = true
    · rw [if_pos hblank] at h
      exact hsound v h
    · rw [if_neg hblank, Option.or_eq_some_iff] at h
      rcases h with hcoerce | ⟨-, hfallback⟩
      · exact Shape.admits_of_coerce? hcoerce (Bool.not_eq_true _ ▸ hblank)
      · exact hsound v hfallback

theorem isSome_settle {details : Table Json} {field : Field} (h : field.fallback.isSome = true) :
    (settle details field).isSome = true := by
  unfold settle
  cases details.get? field.name with
  | none => exact h
  | some w =>
    by_cases hblank : w.isBlank = true
    · simp only [if_pos hblank, h]
    · simp only [if_neg hblank, Option.isSome_or, h, Bool.or_true]

/-- The settings are those of the fields, in their order, that have a value. -/
theorem keys_apply (schema : Schema) (details : Json) :
    (apply schema details).keys =
      (schema.filter fun field => (settle (prepare schema details) field).isSome).map
        Field.name := by
  unfold apply
  generalize prepare schema details = prepared
  induction schema with
  | nil => rfl
  | cons field rest ih =>
    cases hvalue : settle prepared field with
    | none => simpa [Table.keys, hvalue] using ih
    | some v => simpa [Table.keys, hvalue] using ih

theorem mem_apply_iff {schema : Schema} {details : Json} {key : String} {v : Json} :
    (key, v) ∈ apply schema details ↔
      ∃ field ∈ schema, field.name = key ∧ settle (prepare schema details) field = some v := by
  simp [apply, and_comm]

/-- The settings are written as the schema says: its fields in their order and none twice, those
that fall back to something always, and each with a value of its shape. -/
structure Conforms (schema : Schema) (settings : Table Json) : Prop where
  ordered : settings.keys.Sublist (schema.map Field.name)
  distinct : settings.keys.Nodup
  complete : ∀ field ∈ schema, field.fallback.isSome = true → field.name ∈ settings.keys
  admitted : ∀ key v, (key, v) ∈ settings →
    ∃ field ∈ schema, field.name = key ∧ field.shape.Admits v ∧ v ≠ .null

theorem conforms_apply {schema : Schema} (hnames : (schema.map Field.name).Nodup)
    (hsound : ∀ field ∈ schema, field.IsSound) (details : Json) :
    Conforms schema (apply schema details) := by
  have hordered : (apply schema details).keys.Sublist (schema.map Field.name) := by
    rw [keys_apply]
    exact List.filter_sublist.map Field.name
  refine ⟨hordered, hordered.nodup hnames, ?_, ?_⟩
  · intro field hfield hfallback
    rw [keys_apply]
    exact List.mem_map_of_mem (List.mem_filter.2 ⟨hfield, isSome_settle hfallback⟩)
  · intro key v hv
    obtain ⟨field, hfield, hname, hsettle⟩ := mem_apply_iff.1 hv
    have hadmits := admits_of_settle (hsound field hfield) hsettle
    exact ⟨field, hfield, hname, hadmits, Shape.ne_null_of_admits hadmits⟩

/-- Settings of a modelled kind conform to its schema, whatever the details are. -/
theorem conforms_normalize {ref : KindRef} {kind : ResourceKind} {schema : Schema}
    (hkind : ref.resolve? = some kind) (hschema : schema? kind = some schema) (details : Json) :
    Conforms schema (normalize ref details) := by
  have hnormalize : normalize ref details = apply schema details := by
    rw [normalize, hkind, Option.bind_eq_bind, Option.bind_some, hschema]
  rw [hnormalize]
  exact conforms_apply (nodup_names hschema) (isSound_of_mem hschema) details

/-- Key names in objects, an older name and an unusable value. -/
def looseTable : Json :=
  .obj [("stream", .null), ("sortKey", .obj [("name", .str " ")]), ("billingMode", .arr []),
    ("partitionKey", .obj [("name", .num (.int 7)), ("type", .str "N")]), ("tableName", .str "t")]

theorem conforms_normalize_looseTable :
    normalize (.kind .awsDynamodb) looseTable =
        [("partitionKey", .str "7"), ("billing", .str "PAY_PER_REQUEST"), ("stream", .bool true),
          ("physicalName", .str "t")] ∧
      ∃ schema, schema? .awsDynamodb = some schema ∧
        Conforms schema (normalize (.kind .awsDynamodb) looseTable) :=
  ⟨by decide, _, rfl, conforms_normalize rfl rfl looseTable⟩

end CloudCanvas.Settings
