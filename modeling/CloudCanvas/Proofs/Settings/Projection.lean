import CloudCanvas.Proofs.Settings.Field
import CloudCanvas.Proofs.Settings.Normalize
import Mathlib.Data.List.Nodup

/-!
Normalization leaves normalized settings alone. Settings that conform to a schema hold a value of
the right shape under each of their names and nothing under an older name, so every field reads
back exactly what it has; and what normalization gives conforms.
-/

namespace CloudCanvas

theorem Table.get?_cons_of_ne {α κ : Type} [DecidableEq κ] {entry : κ × α} {key : κ}
    (h : entry.1 ≠ key) (t : Table α κ) : get? (entry :: t) key = t.get? key := by
  simp [get?, h]

/-- A table whose names come in a given order is what looking them up in that order gives. -/
theorem Table.filterMap_get? {α κ : Type} [DecidableEq κ] {names : List κ} (hnames : names.Nodup)
    {t : Table α κ} (h : t.keys.Sublist names) :
    names.filterMap (fun name => (t.get? name).map (name, ·)) = t := by
  induction names generalizing t with
  | nil =>
    rw [List.sublist_nil, keys, List.map_eq_nil_iff] at h
    rw [h]
    rfl
  | cons name rest ih =>
    obtain ⟨hname, hrest⟩ := List.nodup_cons.1 hnames
    cases t with
    | nil => simp
    | cons entry later =>
      rcases List.sublist_cons_iff.1 h with hskip | ⟨keys, heq, htake⟩
      · have hnone : get? (entry :: later) name = none :=
          (get?_eq_none_iff _ name).2 fun hmem => hname (hskip.subset hmem)
        rw [List.filterMap_cons_none (by simp [hnone]), ih hrest hskip]
      · obtain ⟨rfl, rfl⟩ := List.cons.inj heq
        have hfirst : get? (entry :: later) entry.1 = some entry.2 := by simp [get?]
        have hrestEq : rest.filterMap (fun other => (get? (entry :: later) other).map (other, ·)) =
            later := by
          refine (List.filterMap_congr fun other hother => ?_).trans (ih hrest htake)
          have hne : entry.1 ≠ other := fun heq => hname (heq ▸ hother)
          rw [get?_cons_of_ne hne]
        rw [List.filterMap_cons, hfirst, hrestEq]
        rfl

theorem Number.plain?_of_isPlain {n : Number} (h : n.IsPlain) : n.plain? = some n := by
  cases n with
  | int k => rfl
  | float x =>
    obtain ⟨hfinite, hwhole⟩ := h
    have hnone : x.toInt? = none :=
      Option.eq_none_iff_forall_ne_some.2 fun k hk =>
        hwhole k (Binary64.toInt?_eq_some_iff.1 hk)
    rw [plain?, hnone]
    exact if_pos hfinite

namespace Settings

theorem Shape.coerce?_of_admits {shape : Shape} {v : Json} (h : shape.Admits v) :
    shape.coerce? v = some v := by
  cases shape with
  | flag =>
    obtain ⟨b, rfl⟩ := h
    rfl
  | number =>
    obtain ⟨n, rfl, hn⟩ := h
    rw [coerce?, number?, Number.plain?_of_isPlain hn]
    rfl
  | text =>
    obtain ⟨s, rfl, -⟩ := h
    rfl
  | mapping =>
    obtain ⟨fields, rfl⟩ := h
    rfl
  | any => rfl

theorem Field.reduce?_of_admits {field : Field} {v : Json}
    (hnamed : field.named = true → field.shape = .text) (h : field.shape.Admits v) :
    field.reduce? v = some v := by
  cases v with
  | obj parts =>
    by_cases hfield : field.named = true
    · rw [hnamed hfield] at h
      obtain ⟨s, hs, -⟩ := h
      cases hs
    · rw [reduce?, if_neg hfield]
  | _ => rfl

section Schema

variable {schema : Schema} (hnames : (schema.map Field.name).Nodup) (hapart : schema.KeepsApart)
  (hnamed : ∀ field ∈ schema, field.named = true → field.shape = .text)
include hnames hapart hnamed

/-- A field finds its setting under its name, and where it has none it finds nothing under an older
name either and has nothing to fall back to. -/
theorem Field.read_of_conforms {settings : Table Json} (h : Conforms schema settings)
    {field : Field} (hfield : field ∈ schema) : field.read settings = settings.get? field.name := by
  cases hget : settings.get? field.name with
  | none =>
    have hentered : field.entered? settings = none := by
      rw [entered?, List.findSome?_eq_none_iff]
      intro key hkey
      rcases List.mem_cons.1 hkey with rfl | hlegacy
      · rw [hget, Option.filter_none]
      · have habsent : settings.get? key = none := by
          rw [Table.get?_eq_none_iff]
          intro hmem
          obtain ⟨other, hother, rfl⟩ := List.mem_map.1 (h.ordered.subset hmem)
          exact hapart field hfield other hother hlegacy
        rw [habsent, Option.filter_none]
    have hfallback : field.fallback = none := by
      rw [← Option.not_isSome_iff_eq_none]
      exact fun hsome => (Table.get?_eq_none_iff settings field.name).1 hget
        (h.complete field hfield hsome)
    rw [read, hentered, hfallback]
    rfl
  | some v =>
    obtain ⟨other, hother, hname, hadmits, -⟩ := h.admitted field.name v (Table.mem_of_get? hget)
    obtain rfl : other = field := List.inj_on_of_nodup_map hnames hother hfield hname
    have hentered : other.entered? settings = some v := by
      simp [entered?, sources, hget, Option.filter_some, other.shape.isBlank_of_admits hadmits]
    have hreduced : other.reduce? v = some v := reduce?_of_admits (hnamed other hfield) hadmits
    have hcoerced : other.shape.coerce? v = some v := Shape.coerce?_of_admits hadmits
    simp [read, hentered, hreduced, hcoerced]

theorem apply_of_conforms {settings : Table Json} (h : Conforms schema settings) :
    apply schema (.obj settings) = settings := by
  have hread : apply schema (.obj settings) =
      schema.filterMap fun field => (settings.get? field.name).map (field.name, ·) := by
    have hdistinct : (Document.obj settings : Json).fieldsOrEmpty.keys.Nodup := h.distinct
    rw [apply_eq_read hnames hapart hdistinct]
    refine List.filterMap_congr fun field hfield => ?_
    rw [← Field.read_of_conforms hnames hapart hnamed h hfield]
    rfl
  rw [hread]
  calc
    schema.filterMap (fun field => (settings.get? field.name).map (field.name, ·)) =
        (schema.map Field.name).filterMap fun name => (settings.get? name).map (name, ·) := by
      rw [List.filterMap_map]
      rfl
    _ = settings := Table.filterMap_get? hnames h.ordered

end Schema

theorem normalize_of_conforms {ref : KindRef} {kind : ResourceKind} {schema : Schema}
    (hkind : ref.resolve? = some kind) (hschema : schema? kind = some schema)
    {settings : Table Json} (h : Conforms schema settings) :
    normalize ref (.obj settings) = settings := by
  rw [normalize_eq_apply hkind hschema]
  exact apply_of_conforms (nodup_names hschema) (keepsApart hschema) (shape_of_named hschema) h

theorem normalize_idem (ref : KindRef) (details : Json) :
    normalize ref (.obj (normalize ref details)) = normalize ref details := by
  cases hschema : ref.resolve? >>= schema? with
  | none =>
    rw [normalize_of_unmodelled hschema, normalize_of_unmodelled hschema]
    rfl
  | some schema =>
    obtain ⟨kind, hkind, hschema⟩ := Option.bind_eq_some_iff.1 hschema
    refine normalize_of_conforms hkind hschema ?_
    rw [normalize_eq_apply hkind hschema]
    exact conforms_apply (nodup_names hschema) (isSound_of_mem hschema) details

end Settings

end CloudCanvas
