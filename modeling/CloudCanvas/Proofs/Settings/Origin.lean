import CloudCanvas.Proofs.Settings.Field
import CloudCanvas.Proofs.Settings.Normalize
import Mathlib.Data.List.Nodup
import Mathlib.Data.List.Pairwise

/-!
Where a setting comes from. Of the names of a field the first that holds a value counts, where blank
values are none; an object in place of a key name stands for its name. A field is given that value
in its shape, and in every other case what it falls back to. No other detail has a say in it, so a
value may move from an older name to the name of the field.
-/

namespace CloudCanvas.Settings

/-- Nothing is entered under that name, or only a blank. -/
def IsOpen (details : Table Json) (key : String) : Prop :=
  ∀ v ∈ details.get? key, v.isBlank = true

instance (details : Table Json) (key : String) : Decidable (IsOpen details key) :=
  inferInstanceAs (Decidable (∀ v ∈ details.get? key, v.isBlank = true))

namespace Field

/-- The value stands under one of the names of the field, and the names before it are open. -/
def Holds (field : Field) (details : Table Json) (v : Json) : Prop :=
  ∃ before key after, field.sources = before ++ key :: after ∧
    (∀ earlier ∈ before, IsOpen details earlier) ∧ details.get? key = some v ∧ v.isBlank = false

/-- What a value means to a field: a key name may be the name of an object. -/
inductive StandsFor (field : Field) : Json → Json → Prop
  | itself {v : Json} (h : field.named = false ∨ v.fields? = none) : StandsFor field v v
  | name {parts : Table Json} (h : field.named = true)
      (hname : (Document.getField parts "name").isBlank = false) :
      StandsFor field (.obj parts) (Document.getField parts "name")

/-- What a field is given of the details: its value in its shape, if there is one that can be
brought to it. -/
inductive Gives (field : Field) (details : Table Json) : Option Json → Prop
  | coerced {v w x : Json} (hv : field.Holds details v) (hw : field.StandsFor v w)
      (hx : field.shape.coerce? w = some x) : Gives field details (some x)
  | fallback (h : ∀ v w, field.Holds details v → field.StandsFor v w →
      field.shape.coerce? w = none) : Gives field details field.fallback

variable {field : Field} {details : Table Json}

theorem isOpen_iff (details : Table Json) (key : String) :
    IsOpen details key ↔ (details.get? key).filter (!·.isBlank) = none := by
  rw [IsOpen, Option.filter_eq_none_iff]
  simp

theorem entered?_eq_some_iff {v : Json} :
    field.entered? details = some v ↔ field.Holds details v := by
  simp only [entered?, Holds, List.findSome?_eq_some_iff, Option.filter_eq_some_iff,
    Bool.not_eq_true', isOpen_iff]
  constructor
  · rintro ⟨before, key, after, hsources, ⟨hv, hblank⟩, hbefore⟩
    exact ⟨before, key, after, hsources, hbefore, hv, hblank⟩
  · rintro ⟨before, key, after, hsources, hbefore, hv, hblank⟩
    exact ⟨before, key, after, hsources, ⟨hv, hblank⟩, hbefore⟩

theorem reduce?_eq_some_iff {v w : Json} : field.reduce? v = some w ↔ field.StandsFor v w := by
  constructor
  · intro h
    unfold reduce? at h
    split at h
    · next parts =>
      split_ifs at h with hnamed
      · obtain ⟨heq, hname⟩ := Option.filter_eq_some_iff.1 h
        cases heq
        exact .name hnamed (by simpa using hname)
      · cases h
        exact .itself (.inl (by simpa using hnamed))
    · next hobj =>
      cases h
      refine .itself (.inr ?_)
      cases v with
      | obj parts => exact absurd rfl (hobj parts)
      | _ => rfl
  · rintro (⟨hitself⟩ | ⟨hnamed, hname⟩)
    · cases v with
      | obj parts =>
        have hnamed : ¬ field.named = true := by
          simpa [Document.fields?] using hitself
        rw [reduce?, if_neg hnamed]
      | _ => rfl
    · rw [reduce?, if_pos hnamed, Option.filter_some, hname]
      rfl

theorem coerced?_eq_some_iff {x : Json} :
    (field.entered? details >>= field.reduce? >>= field.shape.coerce?) = some x ↔
      ∃ v w, field.Holds details v ∧ field.StandsFor v w ∧ field.shape.coerce? w = some x := by
  simp only [Option.bind_eq_bind, Option.bind_eq_some_iff, entered?_eq_some_iff,
    reduce?_eq_some_iff]
  constructor
  · rintro ⟨w, ⟨v, hv, hw⟩, hx⟩
    exact ⟨v, w, hv, hw, hx⟩
  · rintro ⟨v, w, hv, hw, hx⟩
    exact ⟨w, ⟨v, hv, hw⟩, hx⟩

theorem coerced?_eq_none_iff :
    (field.entered? details >>= field.reduce? >>= field.shape.coerce?) = none ↔
      ∀ v w, field.Holds details v → field.StandsFor v w → field.shape.coerce? w = none := by
  rw [Option.eq_none_iff_forall_ne_some]
  constructor
  · intro hnone v w hv hw
    exact Option.eq_none_iff_forall_ne_some.2 fun x hx =>
      hnone x (coerced?_eq_some_iff.2 ⟨v, w, hv, hw, hx⟩)
  · intro hnone x hread
    obtain ⟨v, w, hv, hw, hx⟩ := coerced?_eq_some_iff.1 hread
    rw [hnone v w hv hw] at hx
    cases hx

theorem Gives.read_eq {result : Option Json} (h : field.Gives details result) :
    field.read details = result := by
  cases h with
  | coerced hv hw hx => rw [read, coerced?_eq_some_iff.2 ⟨_, _, hv, hw, hx⟩, Option.some_or]
  | fallback hnone => rw [read, coerced?_eq_none_iff.2 hnone, Option.none_or]

theorem gives_read (field : Field) (details : Table Json) :
    field.Gives details (field.read details) := by
  rw [read]
  cases hread : field.entered? details >>= field.reduce? >>= field.shape.coerce? with
  | none => exact .fallback (coerced?_eq_none_iff.1 hread)
  | some x =>
    obtain ⟨v, w, hv, hw, hx⟩ := coerced?_eq_some_iff.1 hread
    exact .coerced hv hw hx

/-- A field is given just one thing. -/
theorem gives_iff {result : Option Json} :
    field.Gives details result ↔ field.read details = result :=
  ⟨Gives.read_eq, fun h => h ▸ gives_read field details⟩

end Field

section Schema

variable {kind : ResourceKind} {schema : Schema} (hschema : schema? kind = some schema)
include hschema

/-- No two fields share a name, be it an older one. -/
theorem nodup_sources : (schema.flatMap Field.sources).Nodup := by
  cases kind <;> cases hschema <;> decide

theorem disjoint_sources {field other : Field} (hfield : field ∈ schema) (hother : other ∈ schema)
    (hne : field ≠ other) : field.sources.Disjoint other.sources := by
  have hsymm : Std.Symm (Function.onFun List.Disjoint Field.sources) :=
    ⟨fun _ _ h => List.disjoint_symm h⟩
  exact (List.nodup_flatMap.1 (nodup_sources hschema)).2.forall hfield hother hne

/-- The keys of tables are the fields that may be given as objects. -/
theorem named_iff {field : Field} (hfield : field ∈ schema) :
    field.named = true ↔ kind = .awsDynamodb ∧ field.name ∈ ["partitionKey", "sortKey"] := by
  revert field
  cases kind <;> cases hschema <;> decide

end Schema

/-- The details with the value under an older name of a field moved to the name of the field. -/
def moved (details : Table Json) (field : Field) (old : String) (v : Json) : Table Json :=
  (details.erase old).set field.name v

section Moved

variable {details : Table Json} {field : Field} {old : String} {v : Json}

theorem nodup_keys_moved (h : details.keys.Nodup) : (moved details field old v).keys.Nodup :=
  Table.nodup_keys_set _ _ _ ((List.filter_sublist.map Prod.fst).nodup h)

theorem get?_moved (key : String) : (moved details field old v).get? key =
    if field.name = key then some v else if old = key then none else details.get? key := by
  rw [moved, Table.get?_set, Table.get?_erase]

theorem get?_moved_of_ne {key : String} (hname : field.name ≠ key) (hold : old ≠ key) :
    (moved details field old v).get? key = details.get? key := by
  rw [get?_moved, if_neg hname, if_neg hold]

/-- Where all but one of the names are passed over, that one decides. -/
theorem findSome?_eq_of_unique {α β : Type} {f : α → Option β} {l : List α} {a : α} (ha : a ∈ l)
    (h : ∀ b ∈ l, b ≠ a → f b = none) : l.findSome? f = f a := by
  induction l with
  | nil => cases ha
  | cons b rest ih =>
    have hrest : ∀ c ∈ rest, c ≠ a → f c = none := fun c hc => h c (List.mem_cons_of_mem b hc)
    rw [List.findSome?_cons]
    by_cases hb : b = a
    · subst hb
      cases hvalue : f b with
      | some x => rfl
      | none =>
        refine List.findSome?_eq_none_iff.2 fun c hc => ?_
        by_cases hsame : c = b
        · rw [hsame, hvalue]
        · exact hrest c hc hsame
    · rw [h b List.mem_cons_self hb]
      exact ih ((List.mem_cons.1 ha).resolve_left (Ne.symm hb)) hrest

theorem entered?_moved (hold : old ∈ field.legacy) (hv : details.get? old = some v)
    (hopen : ∀ key ∈ field.sources, key ≠ old → IsOpen details key) :
    field.entered? (moved details field old v) = field.entered? details := by
  have hbefore : field.entered? details = (details.get? old).filter (!·.isBlank) :=
    findSome?_eq_of_unique (List.mem_cons_of_mem _ hold) fun key hkey hother =>
      (Field.isOpen_iff details key).1 (hopen key hkey hother)
  have hafter : field.entered? (moved details field old v) =
      ((moved details field old v).get? field.name).filter (!·.isBlank) := by
    refine findSome?_eq_of_unique List.mem_cons_self fun key hkey hother => ?_
    rw [get?_moved, if_neg (Ne.symm hother)]
    split_ifs with hkeyOld
    · rfl
    · exact (Field.isOpen_iff details key).1 (hopen key hkey (Ne.symm hkeyOld))
  rw [hbefore, hafter, get?_moved, if_pos rfl, hv]

theorem normalize_moved {ref : KindRef} {kind : ResourceKind} {schema : Schema}
    (hkind : ref.resolve? = some kind) (hschema : schema? kind = some schema)
    (hdetails : details.keys.Nodup) (hfield : field ∈ schema) (hold : old ∈ field.legacy)
    (hv : details.get? old = some v)
    (hopen : ∀ key ∈ field.sources, key ≠ old → IsOpen details key) :
    normalize ref (.obj (moved details field old v)) = normalize ref (.obj details) := by
  refine normalize_eq_of_read hkind hschema (nodup_keys_moved hdetails) hdetails ?_
  intro other hother
  by_cases hsame : field = other
  · subst hsame
    rw [Field.read, Field.read, entered?_moved hold hv hopen]
  · have hdisjoint := disjoint_sources hschema hfield hother hsame
    refine Field.read_congr fun key hkey => get?_moved_of_ne ?_ ?_
    · rintro rfl
      exact hdisjoint List.mem_cons_self hkey
    · rintro rfl
      exact hdisjoint (List.mem_cons_of_mem _ hold) hkey

end Moved

/-- The settings of a modelled kind are what its fields are given, in the order of the fields, and
nothing else. Only the names of a field have a say in it; and a value may be moved from an older
name to the name of its field if nothing is entered under the other names. -/
theorem normalize_by_fields {ref : KindRef} {kind : ResourceKind} {schema : Schema}
    (hkind : ref.resolve? = some kind) (hschema : schema? kind = some schema)
    (details : Table Json) (hdetails : details.keys.Nodup) :
    (∀ field ∈ schema, ∀ result, (normalize ref (.obj details)).get? field.name = result ↔
      field.Gives details result) ∧
    (∀ field ∈ schema, field.named = true ↔
      kind = .awsDynamodb ∧ field.name ∈ ["partitionKey", "sortKey"]) ∧
    (normalize ref (.obj details)).keys.Sublist (schema.map Field.name) ∧
    (∀ other : Table Json, other.keys.Nodup →
      (∀ field ∈ schema, ∀ key ∈ field.sources, other.get? key = details.get? key) →
        normalize ref (.obj other) = normalize ref (.obj details)) ∧
    ∀ field ∈ schema, ∀ old ∈ field.legacy, ∀ v, details.get? old = some v →
      (∀ key ∈ field.sources, key ≠ old → IsOpen details key) →
        normalize ref (.obj (moved details field old v)) = normalize ref (.obj details) := by
  refine ⟨fun field hfield result => ?_, fun field => named_iff hschema,
    ?_, fun other hother hagree => normalize_eq_of_agree hkind hschema hother hdetails hagree,
    fun field hfield old hold v hv hopen =>
      normalize_moved hkind hschema hdetails hfield hold hv hopen⟩
  · rw [get?_normalize hkind hschema hdetails hfield, Field.gives_iff]
  · rw [normalize_eq_apply hkind hschema]
    exact (conforms_apply (nodup_names hschema) (isSound_of_mem hschema) _).ordered

/-- A memory size under the oldest of its names, with blanks under the other two, and a time that is
no number, which hides the one under an older name. -/
def crowded : Table Json :=
  [("memory", .null), ("memory_mb", .str " "), ("memoryMB", .str " 512"), ("timeout", .str "soon"),
    ("timeoutSec", .num (.int 5))]

theorem normalize_by_fields_crowded :
    crowded.keys.Nodup ∧ ∃ schema, schema? .awsLambda = some schema ∧
      ∃ memory ∈ schema, memory.name = "memory" ∧
        memory.Gives crowded (some (.num (.int 512))) ∧
        normalize (.kind .awsLambda) (.obj (moved crowded memory "memoryMB" (.str " 512"))) =
          normalize (.kind .awsLambda) (.obj crowded) ∧
        ∃ timeout ∈ schema, timeout.name = "timeout" ∧
          timeout.Gives crowded (some (.num (.int 30))) := by
  have hdetails : crowded.keys.Nodup := by decide
  obtain ⟨schema, hschema⟩ : ∃ schema, schema? .awsLambda = some schema := ⟨_, rfl⟩
  have hkind : (KindRef.kind .awsLambda).resolve? = some .awsLambda := rfl
  obtain ⟨hgives, -, -, -, hmoved⟩ := normalize_by_fields hkind hschema crowded hdetails
  have hmemory : Field.number "memory" 256 ["memory_mb", "memoryMB"] ∈ schema := by
    cases hschema
    simp
  have htimeout : Field.number "timeout" 30 ["timeout_s", "timeoutSec"] ∈ schema := by
    cases hschema
    simp
  refine ⟨hdetails, schema, hschema, _, hmemory, rfl, ?_, ?_, _, htimeout, rfl, ?_⟩
  · exact (hgives _ hmemory _).1 (by decide)
  · exact hmoved _ hmemory "memoryMB" (by decide) _ rfl (by decide)
  · exact (hgives _ htimeout _).1 (by decide)

end CloudCanvas.Settings
