import CloudCanvas.Proofs.Settings.Schema
import CloudCanvas.Settings.Normalize
import Mathlib.Data.List.Basic

/-!
The settings field by field. What a field is given depends on the values entered under its own
name and under its older names alone, because no step of normalization touches a name that
another field reads. So the settings of a schema are the readings of its fields, and details that
agree on those names are normalized alike.
-/

namespace CloudCanvas.Settings

private theorem findSome?_congr {α β : Type} {f g : α → Option β} {l : List α}
    (h : ∀ a ∈ l, f a = g a) : l.findSome? f = l.findSome? g := by
  induction l with
  | nil => rfl
  | cons a rest ih =>
    rw [List.findSome?_cons, List.findSome?_cons, h a List.mem_cons_self,
      ih fun b hb => h b (List.mem_cons_of_mem a hb)]

namespace Field

/-- The names under which the value of a field may be entered, the preferred ones first. -/
def sources (field : Field) : List String :=
  field.name :: field.legacy

def entered? (field : Field) (details : Table Json) : Option Json :=
  field.sources.findSome? fun key => (details.get? key).filter (!·.isBlank)

/-- An object in place of a key name stands for its name, if it has one. -/
def reduce? (field : Field) : Json → Option Json
  | .obj parts =>
    if field.named then some (Document.getField parts "name") |>.filter (!·.isBlank)
    else some (.obj parts)
  | v => some v

def read (field : Field) (details : Table Json) : Option Json :=
  (field.entered? details >>= field.reduce? >>= field.shape.coerce?).or field.fallback

theorem isBlank_of_entered? {field : Field} {details : Table Json} {v : Json}
    (h : field.entered? details = some v) : v.isBlank = false := by
  obtain ⟨key, -, hkey⟩ := List.exists_of_findSome?_eq_some h
  simpa using (Option.filter_eq_some_iff.1 hkey).2

theorem isBlank_of_reduce? {field : Field} {v w : Json} (h : field.reduce? v = some w)
    (hv : v.isBlank = false) : w.isBlank = false := by
  unfold reduce? at h
  split at h
  · split at h
    · simpa using (Option.filter_eq_some_iff.1 h).2
    · cases h
      exact hv
  · cases h
    exact hv

theorem read_congr {field : Field} {a b : Table Json}
    (h : ∀ key ∈ field.sources, a.get? key = b.get? key) : field.read a = field.read b := by
  have hentered : field.entered? a = field.entered? b :=
    findSome?_congr fun key hkey => by rw [h key hkey]
  rw [read, read, hentered]

/-- A text entered under the name of a text field is what the field has, blanks around it and
all. -/
theorem read_eq_entered {field : Field} {details : Table Json} {s : String}
    (hshape : field.shape = .text) (hs : Text.isBlankText s = false)
    (h : details.get? field.name = some (.str s)) : field.read details = some (.str s) := by
  have hentered : field.entered? details = some (.str s) := by
    simp [entered?, sources, h, Option.filter_some, Document.isBlank, hs]
  rw [read, hentered, hshape]
  rfl

end Field

/-- A step that prepares one field sets the name of that field, by what it finds under the names
of the field. -/
theorem get?_adoptLegacy_self (details : Table Json) (field : Field) :
    (adoptLegacy details field).get? field.name =
      (details.get? field.name).or (field.legacy.findSome? details.get?) := by
  unfold adoptLegacy
  rw [Table.contains_eq_isSome]
  cases hown : details.get? field.name with
  | some v => simp [hown]
  | none =>
    cases hold : field.legacy.findSome? details.get? with
    | some v => simp [Table.get?_set]
    | none => simp [hown]

theorem get?_adoptLegacy_of_ne (details : Table Json) {field : Field} {key : String}
    (h : field.name ≠ key) : (adoptLegacy details field).get? key = details.get? key := by
  unfold adoptLegacy
  split
  · rfl
  · split
    · rw [Table.get?_set, if_neg h]
    · rfl

theorem get?_reduceNamed_self (details : Table Json) (field : Field) :
    (reduceNamed details field).get? field.name =
      details.get? field.name >>= field.reduce? := by
  unfold reduceNamed Field.reduce?
  by_cases hnamed : field.named = true
  · simp only [hnamed, if_true]
    cases hown : details.get? field.name with
    | none => simp [hown]
    | some v =>
      cases v with
      | obj parts =>
        by_cases hblank : (Document.getField parts "name").isBlank = true
        · simp [hblank, Table.get?_erase, Option.filter_some]
        · simp [hblank, Table.get?_set, Option.filter_some]
      | _ => simp [hown]
  · simp only [hnamed]
    cases hown : details.get? field.name with
    | none => simp [hown]
    | some v => cases v <;> simp [hown]

theorem get?_reduceNamed_of_ne (details : Table Json) {field : Field} {key : String}
    (h : field.name ≠ key) : (reduceNamed details field).get? key = details.get? key := by
  unfold reduceNamed
  split
  · split
    · dsimp only
      split
      · rw [Table.get?_erase, if_neg h]
      · rw [Table.get?_set, if_neg h]
    · rfl
  · rfl

section Fold

variable {step : Table Json → Field → Table Json}

theorem get?_foldl_of_notMem
    (hother : ∀ details field key, field.name ≠ key →
      (step details field).get? key = details.get? key)
    {schema : Schema} {key : String} (h : key ∉ schema.map Field.name) (details : Table Json) :
    (schema.foldl step details).get? key = details.get? key := by
  induction schema generalizing details with
  | nil => rfl
  | cons field rest ih =>
    rw [List.map_cons, List.mem_cons, not_or] at h
    rw [List.foldl_cons, ih h.2, hother details field key (Ne.symm h.1)]

/-- By induction on the schema: the steps before that of the field leave alone whatever it reads,
and those after it leave alone what it sets. -/
theorem get?_foldl (value : Table Json → Field → Option Json)
    (hown : ∀ details field, (step details field).get? field.name = value details field)
    (hother : ∀ details field key, field.name ≠ key →
      (step details field).get? key = details.get? key)
    (hreads : ∀ a b field, (∀ key ∈ field.sources, a.get? key = b.get? key) →
      value a field = value b field)
    {schema : Schema} (hnames : (schema.map Field.name).Nodup) (hapart : schema.KeepsApart)
    {field : Field} (hfield : field ∈ schema) (details : Table Json) :
    (schema.foldl step details).get? field.name = value details field := by
  induction schema generalizing details with
  | nil => cases hfield
  | cons first rest ih =>
    obtain ⟨hfirst, hrest⟩ := List.nodup_cons.1 hnames
    rw [List.foldl_cons]
    rcases List.mem_cons.1 hfield with rfl | hlater
    · rw [get?_foldl_of_notMem hother hfirst, hown]
    · have hapart' : Schema.KeepsApart rest := fun f hf g hg =>
        hapart f (List.mem_cons_of_mem first hf) g (List.mem_cons_of_mem first hg)
      rw [ih hrest hapart' hlater]
      refine hreads _ _ field fun key hkey => hother details first key ?_
      rintro rfl
      rcases List.mem_cons.1 hkey with hname | hlegacy
      · exact hfirst (hname ▸ List.mem_map_of_mem hlater)
      · exact hapart field hfield first List.mem_cons_self hlegacy

end Fold

theorem get?_filterMap_of_notMem {schema : Schema} {key : String}
    (h : key ∉ schema.map Field.name) (value : Field → Option Json) :
    Table.get? (schema.filterMap fun field => (value field).map (field.name, ·)) key = none := by
  rw [Table.get?_eq_none_iff]
  rintro hkey
  obtain ⟨entry, hentry, rfl⟩ := List.mem_map.1 hkey
  obtain ⟨field, hfield, hvalue⟩ := List.mem_filterMap.1 hentry
  obtain ⟨v, -, rfl⟩ := Option.map_eq_some_iff.1 hvalue
  exact h (List.mem_map_of_mem hfield)

theorem get?_filterMap {schema : Schema} {field : Field}
    (hnames : (schema.map Field.name).Nodup) (hfield : field ∈ schema)
    (value : Field → Option Json) :
    Table.get? (schema.filterMap fun field => (value field).map (field.name, ·)) field.name =
      value field := by
  induction schema with
  | nil => cases hfield
  | cons first rest ih =>
    obtain ⟨hfirst, hrest⟩ := List.nodup_cons.1 hnames
    rcases List.mem_cons.1 hfield with rfl | hlater
    · cases hvalue : value field with
      | none =>
        rw [List.filterMap_cons_none (by rw [hvalue]; rfl), get?_filterMap_of_notMem hfirst]
      | some v =>
        rw [List.filterMap_cons_some (by rw [hvalue]; rfl), Table.get?, if_pos rfl]
    · have hne : first.name ≠ field.name := fun h => hfirst (h ▸ List.mem_map_of_mem hlater)
      cases hvalue : value first with
      | none => rw [List.filterMap_cons_none (by rw [hvalue]; rfl), ih hrest hlater]
      | some v =>
        rw [List.filterMap_cons_some (by rw [hvalue]; rfl), Table.get?, if_neg hne,
          ih hrest hlater]

section Schema

variable {schema : Schema} (hnames : (schema.map Field.name).Nodup) (hapart : schema.KeepsApart)
include hnames hapart

theorem get?_prepare {field : Field} (hfield : field ∈ schema) {details : Json}
    (hdetails : details.fieldsOrEmpty.keys.Nodup) :
    (prepare schema details).get? field.name =
      field.entered? details.fieldsOrEmpty >>= field.reduce? := by
  have hadopted : (schema.foldl adoptLegacy (dropBlank details.fieldsOrEmpty)).get? field.name =
      field.sources.findSome? (dropBlank details.fieldsOrEmpty).get? := by
    refine get?_foldl (fun t f => f.sources.findSome? t.get?) ?_
      (fun _ _ _ => get?_adoptLegacy_of_ne _) (fun _ _ _ => findSome?_congr) hnames hapart hfield _
    intro t f
    rw [get?_adoptLegacy_self, Field.sources, List.findSome?_cons]
    cases t.get? f.name <;> rfl
  have hblank : field.sources.findSome? (dropBlank details.fieldsOrEmpty).get? =
      field.entered? details.fieldsOrEmpty :=
    findSome?_congr fun key _ => Table.get?_filter _ (!Document.isBlank ·) hdetails key
  rw [← hblank, ← hadopted]
  refine get?_foldl (fun t f => t.get? f.name >>= f.reduce?) get?_reduceNamed_self
    (fun _ _ _ => get?_reduceNamed_of_ne _) ?_ hnames hapart hfield _
  intro a b f h
  rw [h f.name List.mem_cons_self]

/-- What a field settles for is what is entered for it, whatever the other fields are. -/
theorem settle_prepare {field : Field} (hfield : field ∈ schema) {details : Json}
    (hdetails : details.fieldsOrEmpty.keys.Nodup) :
    settle (prepare schema details) field = field.read details.fieldsOrEmpty := by
  rw [settle, get?_prepare hnames hapart hfield hdetails, Field.read]
  cases hentered : field.entered? details.fieldsOrEmpty with
  | none => rfl
  | some v =>
    cases hreduced : field.reduce? v with
    | none => simp [hreduced]
    | some w =>
      have hblank : w.isBlank = false :=
        Field.isBlank_of_reduce? hreduced (Field.isBlank_of_entered? hentered)
      simp [hreduced, hblank]

theorem apply_eq_read {details : Json} (hdetails : details.fieldsOrEmpty.keys.Nodup) :
    apply schema details =
      schema.filterMap fun field =>
        (field.read details.fieldsOrEmpty).map (field.name, ·) := by
  refine List.filterMap_congr fun field hfield => ?_
  rw [settle_prepare hnames hapart hfield hdetails]

theorem get?_apply {field : Field} (hfield : field ∈ schema) {details : Json}
    (hdetails : details.fieldsOrEmpty.keys.Nodup) :
    (apply schema details).get? field.name = field.read details.fieldsOrEmpty := by
  rw [apply_eq_read hnames hapart hdetails, get?_filterMap hnames hfield
    fun field => field.read details.fieldsOrEmpty]

end Schema

theorem normalize_eq_apply {ref : KindRef} {kind : ResourceKind} {schema : Schema}
    (hkind : ref.resolve? = some kind) (hschema : schema? kind = some schema) (details : Json) :
    normalize ref details = apply schema details := by
  rw [normalize, hkind, Option.bind_eq_bind, Option.bind_some, hschema]

theorem normalize_congr {ref other : KindRef} (h : ref.resolve? = other.resolve?)
    (details : Json) : normalize ref details = normalize other details := by
  rw [normalize, normalize, h]

section Readings

variable {ref : KindRef} {kind : ResourceKind} {schema : Schema}
  (hkind : ref.resolve? = some kind) (hschema : schema? kind = some schema)
include hkind hschema

/-- The settings of a kind are what its fields read, in the order of the fields. -/
theorem normalize_eq_read {details : Table Json} (hdetails : details.keys.Nodup) :
    normalize ref (.obj details) =
      schema.filterMap fun field => (field.read details).map (field.name, ·) := by
  have hdetails' : (Document.obj details : Json).fieldsOrEmpty.keys.Nodup := hdetails
  rw [normalize_eq_apply hkind hschema,
    apply_eq_read (nodup_names hschema) (keepsApart hschema) hdetails']
  rfl

theorem get?_normalize {details : Table Json} (hdetails : details.keys.Nodup) {field : Field}
    (hfield : field ∈ schema) :
    (normalize ref (.obj details)).get? field.name = field.read details := by
  rw [normalize_eq_read hkind hschema hdetails,
    get?_filterMap (nodup_names hschema) hfield fun field => field.read details]

variable {a b : Table Json} (ha : a.keys.Nodup) (hb : b.keys.Nodup)
include ha hb

theorem normalize_eq_of_read (h : ∀ field ∈ schema, field.read a = field.read b) :
    normalize ref (.obj a) = normalize ref (.obj b) := by
  rw [normalize_eq_read hkind hschema ha, normalize_eq_read hkind hschema hb]
  exact List.filterMap_congr fun field hfield => congrArg _ (h field hfield)

/-- Details that agree wherever the schema looks are normalized alike. -/
theorem normalize_eq_of_agree
    (h : ∀ field ∈ schema, ∀ key ∈ field.sources, a.get? key = b.get? key) :
    normalize ref (.obj a) = normalize ref (.obj b) :=
  normalize_eq_of_read hkind hschema ha hb fun field hfield => Field.read_congr (h field hfield)

end Readings

theorem get?_normalize_of_entered {kind : ResourceKind} {schema : Schema} {field : Field}
    (hschema : schema? kind = some schema) (hfield : field ∈ schema) (hshape : field.shape = .text)
    {details : Table Json} (hdetails : details.keys.Nodup) {s : String}
    (hs : Text.isBlankText s = false) (hentry : details.get? field.name = some (.str s)) :
    (normalize (.kind kind) (.obj details)).get? field.name = some (.str s) := by
  rw [get?_normalize rfl hschema hdetails hfield]
  exact Field.read_eq_entered hshape hs hentry

theorem normalize_of_unmodelled {ref : KindRef} (h : ref.resolve? >>= schema? = none)
    (details : Json) : normalize ref details = details.fieldsOrEmpty := by
  rw [normalize, h]

end CloudCanvas.Settings
