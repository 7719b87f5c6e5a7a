import CloudCanvas.Proofs.Document.Alike
import CloudCanvas.Proofs.Settings.Field
import CloudCanvas.Proofs.Settings.Normalize

/-!
Normalization does not see the order of what was entered. A field looks for its value by the names
it declares, in the order in which it declares them, and what it makes of the value depends on the
order of fields only where it passes an object on. So details that are alike are normalized alike.
-/

namespace CloudCanvas

open Document (Alike AlikeFields)

/-- What is found in two places, or in neither, and is alike. -/
abbrev AlikeOption : Option Json → Option Json → Prop :=
  Option.Rel Alike

namespace AlikeOption

variable {v w : Option Json}

theorem of_eq {v : Json} (h : v.isScalar = true) : AlikeOption (some v) (some v) :=
  .some (.scalar h)

theorem bind {f g : Json → Option Json} (h : AlikeOption v w)
    (hfg : ∀ a b, Alike a b → AlikeOption (f a) (g b)) : AlikeOption (v >>= f) (w >>= g) := by
  cases h with
  | some h => exact hfg _ _ h
  | none => exact .none

theorem or {x y : Option Json} (h : AlikeOption v w) (h' : AlikeOption x y) :
    AlikeOption (v.or x) (w.or y) := by
  cases h with
  | some h => exact .some h
  | none => exact h'

theorem filter {keep : Json → Bool} (h : AlikeOption v w)
    (hkeep : ∀ a b, Alike a b → keep a = keep b) : AlikeOption (v.filter keep) (w.filter keep) := by
  cases h with
  | @some a b h =>
    rw [Option.filter_some, Option.filter_some, hkeep a b h]
    split_ifs
    · exact .some h
    · exact .none
  | none => exact .none

end AlikeOption

namespace Settings

theorem number?_eq {v w : Json} (h : Alike v w) : number? v = number? w := by
  cases h <;> rfl

theorem alike_coerce? (shape : Shape) {v w : Json} (h : Alike v w) :
    AlikeOption (shape.coerce? v) (shape.coerce? w) := by
  cases shape with
  | flag =>
    have htruthy := h.truthy
    rw [Shape.coerce?, Shape.coerce?, htruthy]
    exact .of_eq rfl
  | number =>
    rw [Shape.coerce?, Shape.coerce?, number?_eq h]
    cases number? w with
    | none => exact .none
    | some n => exact .of_eq rfl
  | text =>
    cases h with
    | @scalar v h =>
      cases v with
      | str s => exact .of_eq rfl
      | num n => exact .of_eq rfl
      | _ => exact .none
    | arr _ _ => exact .none
    | obj _ _ _ _ => exact .none
  | mapping =>
    cases h with
    | @scalar v h =>
      cases v with
      | obj fields => cases h
      | _ => exact .none
    | arr _ _ => exact .none
    | obj ha hb hkeys hfields => exact .some (.obj ha hb hkeys hfields)
  | any => exact .some h

namespace Field

variable (field : Field) {a b : Table Json} (h : AlikeFields a b)

include h in
theorem alike_entered? : AlikeOption (field.entered? a) (field.entered? b) := by
  unfold entered?
  induction field.sources with
  | nil => exact .none
  | cons key rest ih =>
    have hkey : AlikeOption ((a.get? key).filter (!·.isBlank)) ((b.get? key).filter (!·.isBlank)) :=
      AlikeOption.filter (h.get? key) fun v w hvw => by rw [hvw.isBlank]
    rw [List.findSome?_cons, List.findSome?_cons]
    generalize (a.get? key).filter (!·.isBlank) = v, (b.get? key).filter (!·.isBlank) = w at hkey ⊢
    cases hkey with
    | some hvw => exact .some hvw
    | none => exact ih

theorem alike_reduce? {v w : Json} (h : Alike v w) :
    AlikeOption (field.reduce? v) (field.reduce? w) := by
  cases h with
  | @scalar v h =>
    cases v with
    | arr items => cases h
    | obj fields => cases h
    | _ => exact .of_eq rfl
  | arr hlength hitems => exact .some (.arr hlength hitems)
  | @obj a b ha hb hkeys hfields =>
    have hobj : Alike (.obj a) (.obj b) := .obj ha hb hkeys hfields
    rw [reduce?, reduce?]
    split_ifs
    · exact AlikeOption.filter (.some ((Document.alike_obj_iff.1 hobj).getField "name"))
        fun v w hvw => by rw [hvw.isBlank]
    · exact .some hobj

include h in
/-- What a field is given is alike for details that are. -/
theorem alike_read (hfallback : ∀ v ∈ field.fallback, v.WellFormed) :
    AlikeOption (field.read a) (field.read b) := by
  have hentered := (field.alike_entered? h).bind fun _ _ hvw => field.alike_reduce? hvw
  have hfallback' : AlikeOption field.fallback field.fallback := by
    cases hv : field.fallback with
    | none => exact .none
    | some v => exact .some (.refl (hfallback v hv))
  exact (hentered.bind fun _ _ hvw => alike_coerce? field.shape hvw).or hfallback'

end Field

theorem wellFormed_fallback {kind : ResourceKind} {schema : Schema}
    (h : schema? kind = some schema) : ∀ field ∈ schema, ∀ v ∈ field.fallback, v.WellFormed := by
  cases kind <;> cases h <;>
    simp [Field.text, Field.number, Field.flag, Field.mapping, Field.keyName, Field.any,
      Document.ofInt, Document.WellFormed, Document.WellFormedFields]

theorem alike_apply {kind : ResourceKind} {schema : Schema} (hschema : schema? kind = some schema)
    {v w : Json} (h : AlikeFields v.fieldsOrEmpty w.fieldsOrEmpty) :
    AlikeFields (apply schema v) (apply schema w) := by
  have hnames := nodup_names hschema
  have hapart := keepsApart hschema
  refine ⟨(conforms_apply hnames (isSound_of_mem hschema) v).distinct,
    (conforms_apply hnames (isSound_of_mem hschema) w).distinct, fun key => ?_⟩
  by_cases hkey : key ∈ schema.map Field.name
  · obtain ⟨field, hfield, rfl⟩ := List.mem_map.1 hkey
    rw [get?_apply hnames hapart hfield h.left, get?_apply hnames hapart hfield h.right]
    exact field.alike_read h (wellFormed_fallback hschema field hfield)
  · rw [apply, apply, get?_filterMap_of_notMem hkey fun field => settle (prepare schema v) field,
      get?_filterMap_of_notMem hkey fun field => settle (prepare schema w) field]
    exact .none

/-- Details that are alike are normalized alike, as a modelled kind and as any other. -/
theorem alike_normalize (ref : KindRef) {v w : Json} (h : Alike v w) :
    AlikeFields (normalize ref v) (normalize ref w) := by
  unfold normalize
  cases hkind : ref.resolve? with
  | none => exact h.fieldsOrEmpty
  | some kind =>
    cases hschema : schema? kind with
    | none =>
      simp only [Option.bind_eq_bind, Option.bind_some, hschema]
      exact h.fieldsOrEmpty
    | some schema =>
      simp only [Option.bind_eq_bind, Option.bind_some, hschema]
      exact alike_apply hschema h.fieldsOrEmpty

end Settings

end CloudCanvas
