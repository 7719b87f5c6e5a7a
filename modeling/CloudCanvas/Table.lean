/-!
Tables: named values in the order in which their names first came. Setting a name that is present
keeps its place and takes the new value.
-/

namespace CloudCanvas

/-- Names are texts unless another type of names is given. -/
abbrev Table (α : Type) (κ : Type := String) := List (κ × α)

namespace Table

variable {α κ : Type} [DecidableEq κ]

def get? (t : Table α κ) (key : κ) : Option α :=
  match t with
  | [] => none
  | (k, v) :: rest => if k = key then some v else get? rest key

@[simp]
theorem get?_nil (key : κ) : get? ([] : Table α κ) key = none :=
  rfl

theorem get?_append (t u : Table α κ) (key : κ) :
    (t ++ u : Table α κ).get? key = (t.get? key).or (u.get? key) := by
  induction t with
  | nil => simp
  | cons entry rest ih => grind [get?]

def contains (t : Table α κ) (key : κ) : Bool :=
  t.any (·.1 == key)

theorem contains_eq_isSome (t : Table α κ) (key : κ) :
    t.contains key = (t.get? key).isSome := by
  induction t with
  | nil => rfl
  | cons entry rest ih => grind [get?, contains]

def keys (t : Table α κ) : List κ :=
  t.map Prod.fst

theorem contains_iff_mem_keys (t : Table α κ) (key : κ) :
    t.contains key = true ↔ key ∈ t.keys := by
  simp [contains, keys]

theorem mem_of_get? {t : Table α κ} {key : κ} {value : α} (h : t.get? key = some value) :
    (key, value) ∈ t := by
  induction t with
  | nil => cases h
  | cons entry rest ih => grind [get?]

theorem get?_of_mem {t : Table α κ} (h : t.keys.Nodup) {key : κ} {value : α}
    (hmem : (key, value) ∈ t) : t.get? key = some value := by
  induction t with
  | nil => cases hmem
  | cons entry rest ih =>
    obtain ⟨hname, hrest⟩ := List.nodup_cons.1 h
    rcases List.mem_cons.1 hmem with rfl | hlater
    · rw [get?, if_pos rfl]
    · have hne : entry.1 ≠ key := fun heq => hname (heq ▸ List.mem_map_of_mem hlater)
      rw [get?, if_neg hne, ih hrest hlater]

theorem get?_eq_none_iff (t : Table α κ) (key : κ) : t.get? key = none ↔ key ∉ t.keys := by
  rw [← contains_iff_mem_keys, contains_eq_isSome]
  simp

/-- An entry that is dropped by its value does not uncover another one of its name. -/
theorem get?_filter (t : Table α κ) (keep : α → Bool) (h : t.keys.Nodup) (key : κ) :
    get? (t.filter fun entry => keep entry.2) key = (t.get? key).filter keep := by
  induction t with
  | nil => rfl
  | cons entry rest ih =>
    obtain ⟨hname, hrest⟩ := List.nodup_cons.1 h
    have hlater := ih hrest
    by_cases hkey : entry.1 = key
    · have hnone : get? rest key = none := (get?_eq_none_iff rest key).2 (hkey ▸ hname)
      by_cases hkeep : keep entry.2 = true
      · simp [get?, hkeep, hkey, Option.filter_some]
      · simp [get?, hkeep, hkey, hlater, hnone, Option.filter_some]
    · by_cases hkeep : keep entry.2 = true
      · simp [get?, hkeep, hkey, hlater]
      · simp [get?, hkeep, hkey, hlater]

def set (t : Table α κ) (key : κ) (value : α) : Table α κ :=
  match t with
  | [] => [(key, value)]
  | (k, v) :: rest => if k = key then (k, value) :: rest else (k, v) :: set rest key value

theorem get?_set (t : Table α κ) (key other : κ) (value : α) :
    (t.set key value).get? other = if key = other then some value else t.get? other := by
  induction t with
  | nil => simp [set, get?]
  | cons entry rest ih => grind [set, get?]

theorem mem_of_mem_set {t : Table α κ} {key : κ} {value : α} {entry : κ × α}
    (h : entry ∈ t.set key value) : entry ∈ t ∨ entry = (key, value) := by
  induction t with
  | nil => exact .inr (List.mem_singleton.1 h)
  | cons first rest ih => grind [set]

/-- A name that is present keeps its place. -/
theorem keys_set (t : Table α κ) (key : κ) (value : α) :
    (t.set key value).keys = if t.contains key then t.keys else t.keys ++ [key] := by
  induction t with
  | nil => rfl
  | cons entry rest ih => grind [set, keys, contains]

theorem nodup_keys_set (t : Table α κ) (key : κ) (value : α) (h : t.keys.Nodup) :
    (t.set key value).keys.Nodup := by
  rw [keys_set]
  split
  · exact h
  · next absent =>
    rw [contains_iff_mem_keys] at absent
    exact List.nodup_append.2 ⟨h, by simp, by grind⟩

def erase (t : Table α κ) (key : κ) : Table α κ :=
  t.filter (·.1 != key)

theorem get?_erase (t : Table α κ) (key other : κ) :
    (t.erase key).get? other = if key = other then none else t.get? other := by
  induction t with
  | nil => simp [erase]
  | cons entry rest ih => grind [erase, get?]

/-- Sets every entry of `entries` in turn. -/
def merge (t : Table α κ) (entries : List (κ × α)) : Table α κ :=
  entries.foldl (fun t entry => t.set entry.1 entry.2) t

/-- What is merged into a table wins over what was there. -/
theorem get?_merge (t entries : Table α κ) (h : entries.keys.Nodup) (key : κ) :
    (t.merge entries).get? key = (entries.get? key).or (t.get? key) := by
  induction entries generalizing t with
  | nil => rfl
  | cons entry rest ih =>
    obtain ⟨hname, hrest⟩ := List.nodup_cons.1 h
    have hstep : (t.merge (entry :: rest)).get? key =
        (get? rest key).or ((t.set entry.1 entry.2).get? key) := ih _ hrest
    rw [hstep, get?_set]
    by_cases hkey : entry.1 = key
    · have hnone : get? rest key = none := (get?_eq_none_iff rest key).2 (hkey ▸ hname)
      simp [get?, hkey, hnone]
    · simp [get?, hkey]

theorem nodup_keys_merge (t : Table α κ) (entries : List (κ × α)) (h : t.keys.Nodup) :
    (t.merge entries).keys.Nodup := by
  induction entries generalizing t with
  | nil => exact h
  | cons entry rest ih => exact ih _ (nodup_keys_set t entry.1 entry.2 h)

theorem mem_of_mem_merge {t entries : Table α κ} {entry : κ × α} (h : entry ∈ t.merge entries) :
    entry ∈ t ∨ entry ∈ entries := by
  induction entries generalizing t with
  | nil => exact .inl h
  | cons first rest ih =>
    rcases ih h with hset | hrest
    · rcases mem_of_mem_set hset with ht | rfl
      · exact .inl ht
      · exact .inr List.mem_cons_self
    · exact .inr (List.mem_cons_of_mem first hrest)

def ofList (entries : List (κ × α)) : Table α κ :=
  merge [] entries

theorem mem_of_mem_ofList {entries : Table α κ} {entry : κ × α} (h : entry ∈ ofList entries) :
    entry ∈ entries :=
  (mem_of_mem_merge h).resolve_left (by simp)

theorem get?_ofList {entries : Table α κ} (h : entries.keys.Nodup) (key : κ) :
    (ofList entries).get? key = entries.get? key := by
  rw [ofList, get?_merge [] entries h, get?_nil, Option.or_none]

theorem nodup_keys_ofList (entries : List (κ × α)) : (ofList entries).keys.Nodup :=
  nodup_keys_merge [] entries (by simp [keys])

/-- Sets a name that is not there yet. -/
def setDefault (t : Table α κ) (key : κ) (value : α) : Table α κ :=
  if t.contains key then t else t ++ [(key, value)]

theorem get?_setDefault (t : Table α κ) (key other : κ) (value : α) :
    (t.setDefault key value).get? other =
      (t.get? other).or (if key = other then some value else none) := by
  have h := contains_eq_isSome t key
  unfold setDefault
  split
  · grind [Option.or_eq_some_iff]
  · rw [get?_append]
    simp [get?]

end Table

end CloudCanvas
