import CloudCanvas.Table
import Mathlib.Data.List.Forall2
import Mathlib.Data.List.Nodup
import Mathlib.Data.Option.Defs
import Mathlib.Tactic.SplitIfs

/-!
Tables whose names differ. Such a table is told, up to the order of its entries, by what it has
under each name, and setting its entries one by one gives it back in its order.
-/

namespace CloudCanvas.Table

variable {α β κ : Type} [DecidableEq κ]

theorem mem_iff_get? {t : Table α κ} (h : t.keys.Nodup) {key : κ} {value : α} :
    (key, value) ∈ t ↔ t.get? key = some value :=
  ⟨get?_of_mem h, mem_of_get?⟩

theorem get?_map (t : Table α κ) (f : α → β) (key : κ) :
    get? (t.map fun entry => (entry.1, f entry.2)) key = (t.get? key).map f := by
  induction t with
  | nil => rfl
  | cons entry rest ih =>
    rw [List.map_cons, get?, get?, ih]
    split_ifs
    · rfl
    · rfl

omit [DecidableEq κ] in
theorem keys_map (t : Table α κ) (f : α → β) :
    keys (t.map fun entry => (entry.1, f entry.2)) = t.keys := by
  rw [keys, keys, List.map_map]
  rfl

theorem get?_of_perm {t u : Table α κ} (h : t.Perm u) (ht : t.keys.Nodup) (key : κ) :
    t.get? key = u.get? key := by
  have hu : u.keys.Nodup := (h.map Prod.fst).nodup_iff.1 ht
  refine Option.ext fun value => ?_
  rw [← mem_iff_get? ht, ← mem_iff_get? hu, h.mem_iff]

/-- Tables with distinct names are told apart by what they have under some name. -/
theorem perm_of_get? {t u : Table α κ} (ht : t.keys.Nodup) (hu : u.keys.Nodup)
    (h : ∀ key, t.get? key = u.get? key) : t.Perm u := by
  have ht' : t.Nodup := List.Nodup.of_map Prod.fst ht
  have hu' : u.Nodup := List.Nodup.of_map Prod.fst hu
  refine (List.perm_ext_iff_of_nodup ht' hu').2 fun ⟨key, value⟩ => ?_
  rw [mem_iff_get? ht, mem_iff_get? hu, h]

/-- What two tables have under a name, if anything. -/
theorem get?_cases {a : Table α κ} {b : Table β κ} {key : κ}
    (h : a.contains key = b.contains key) :
    (a.get? key = none ∧ b.get? key = none) ∨
      ∃ v w, a.get? key = some v ∧ b.get? key = some w := by
  rw [contains_eq_isSome, contains_eq_isSome] at h
  cases ha : a.get? key with
  | none =>
    rw [ha] at h
    exact .inl ⟨rfl, by simpa using h.symm⟩
  | some v =>
    rw [ha] at h
    obtain ⟨w, hw⟩ := Option.isSome_iff_exists.1 h.symm
    exact .inr ⟨v, w, rfl, hw⟩

/-- A field has a partner in every table with the same names. -/
theorem exists_partner {a : Table α κ} {b : Table β κ} (ha : a.keys.Nodup)
    (h : ∀ key, a.contains key = b.contains key) {entry : κ × α} (hentry : entry ∈ a) :
    ∃ w, a.get? entry.1 = some entry.2 ∧ b.get? entry.1 = some w ∧ (entry.1, w) ∈ b := by
  have hv : a.get? entry.1 = some entry.2 := get?_of_mem ha hentry
  rcases get?_cases (h entry.1) with ⟨hnone, -⟩ | ⟨-, w, -, hw⟩
  · rw [hnone] at hv
    cases hv
  · exact ⟨w, hv, hw, mem_of_get? hw⟩

theorem set_of_notMem {t : Table α κ} {key : κ} (h : key ∉ t.keys) (value : α) :
    t.set key value = t ++ [(key, value)] := by
  induction t with
  | nil => rfl
  | cons entry rest ih =>
    rw [keys, List.map_cons, List.mem_cons, not_or] at h
    rw [set, if_neg (Ne.symm h.1), ih h.2]
    rfl

theorem merge_of_nodup {t entries : Table α κ} (h : (t ++ entries : Table α κ).keys.Nodup) :
    t.merge entries = t ++ entries := by
  induction entries generalizing t with
  | nil => exact (List.append_nil t).symm
  | cons entry rest ih =>
    have hassoc : t ++ entry :: rest = (t ++ [entry]) ++ rest := by simp
    have hnew : entry.1 ∉ t.keys := by
      rw [keys, List.map_append, List.map_cons, List.nodup_append] at h
      exact fun hmem => h.2.2 _ hmem _ List.mem_cons_self rfl
    have hset : t.merge (entry :: rest) = (t ++ [entry] : Table α κ).merge rest := by
      rw [← set_of_notMem hnew]
      rfl
    rw [hset, hassoc]
    rw [hassoc] at h
    exact ih h

/-- Names that differ keep their order and their values. -/
theorem ofList_of_nodup {entries : Table α κ} (h : entries.keys.Nodup) :
    ofList entries = entries :=
  merge_of_nodup h

/-- What is merged into a table is there, and nothing else is but what was there. -/
theorem mem_keys_merge (t entries : Table α κ) (key : κ) :
    key ∈ (t.merge entries).keys ↔ key ∈ t.keys ∨ key ∈ entries.keys := by
  induction entries generalizing t with
  | nil => simp [merge, keys]
  | cons entry rest ih =>
    have hset : key ∈ (t.set entry.1 entry.2).keys ↔ key ∈ t.keys ∨ key = entry.1 := by
      rw [keys_set]
      split
      · next hpresent =>
        rw [contains_iff_mem_keys] at hpresent
        exact ⟨Or.inl, fun h => h.elim id fun heq => heq ▸ hpresent⟩
      · simp
    calc
      key ∈ (t.merge (entry :: rest)).keys ↔
          key ∈ (t.set entry.1 entry.2).keys ∨ key ∈ keys rest := ih _
      _ ↔ key ∈ t.keys ∨ key ∈ keys (entry :: rest) := by
        rw [hset, or_assoc, ← List.mem_cons]
        rfl

theorem mem_keys_ofList (entries : Table α κ) (key : κ) :
    key ∈ (ofList entries).keys ↔ key ∈ entries.keys := by
  rw [ofList, mem_keys_merge]
  simp [keys]

theorem get?_merge_of_notMem {t entries : Table α κ} {key : κ} (h : key ∉ entries.keys) :
    (t.merge entries).get? key = t.get? key := by
  induction entries generalizing t with
  | nil => rfl
  | cons entry rest ih =>
    rw [keys, List.map_cons, List.mem_cons, not_or] at h
    obtain ⟨hne, hrest⟩ := h
    exact (ih hrest).trans ((get?_set t entry.1 key entry.2).trans (if_neg (Ne.symm hne)))

/-- The last entry of a name decides what the table has under it. -/
theorem get?_ofList_append_cons {before after : Table α κ} {key : κ} (h : key ∉ after.keys)
    (value : α) : (ofList (before ++ (key, value) :: after)).get? key = some value := by
  have hlast : ofList (before ++ (key, value) :: after) =
      ((ofList before).set key value).merge after := by
    rw [ofList, merge, List.foldl_append]
    rfl
  rw [hlast, get?_merge_of_notMem h, get?_set, if_pos rfl]

/-- The tables have the same names, each once, and under each name values that are related. The
order of the names does not matter. -/
structure Matches (R : κ → α → β → Prop) (a : Table α κ) (b : Table β κ) : Prop where
  left : a.keys.Nodup
  right : b.keys.Nodup
  get? : ∀ key, Option.Rel (R key) (a.get? key) (b.get? key)

namespace Matches

variable {R : κ → α → β → Prop} {a : Table α κ} {b : Table β κ}

theorem nil : Matches R ([] : Table α κ) ([] : Table β κ) :=
  ⟨List.nodup_nil, List.nodup_nil, fun _ => .none⟩

/-- Entries that are related one by one. -/
theorem of_forall₂ (ha : a.keys.Nodup)
    (h : List.Forall₂ (fun x y => x.1 = y.1 ∧ R x.1 x.2 y.2) a b) : Matches R a b := by
  have hkeys : a.keys = b.keys := by
    induction h with
    | nil => rfl
    | cons hxy _ ih => exact List.cons_eq_cons.2 ⟨hxy.1, ih (List.nodup_cons.1 ha).2⟩
  refine ⟨ha, hkeys ▸ ha, fun key => ?_⟩
  clear ha hkeys
  induction h with
  | nil => exact .none
  | @cons x y _ _ hxy _ ih =>
    obtain ⟨hname, hvalue⟩ := hxy
    rw [Table.get?, Table.get?, ← hname]
    split_ifs with hkey
    · exact .some (hkey ▸ hvalue)
    · exact ih

/-- The same entries in another order. -/
theorem of_perm {t u : Table α κ} (h : t.Perm u) (ht : t.keys.Nodup) :
    Matches (fun _ => Eq) t u where
  left := ht
  right := (h.map Prod.fst).nodup_iff.1 ht
  get? key := by
    rw [get?_of_perm h ht]
    cases u.get? key with
    | none => exact .none
    | some value => exact .some rfl

theorem perm_right (h : Matches R a b) {c : Table β κ} (hbc : b.Perm c) : Matches R a c where
  left := h.left
  right := (hbc.map Prod.fst).nodup_iff.1 h.right
  get? key := by
    rw [← get?_of_perm hbc h.right]
    exact h.get? key

theorem set (h : Matches R a b) {key : κ} {v : α} {w : β} (hvw : R key v w) :
    Matches R (a.set key v) (b.set key w) where
  left := nodup_keys_set a key v h.left
  right := nodup_keys_set b key w h.right
  get? other := by
    rw [get?_set, get?_set]
    split_ifs with hkey
    · exact .some (hkey ▸ hvw)
    · exact h.get? other

theorem merge {c : Table α κ} {d : Table β κ} (h : Matches R a b) (h' : Matches R c d) :
    Matches R (a.merge c) (b.merge d) where
  left := nodup_keys_merge a c h.left
  right := nodup_keys_merge b d h.right
  get? key := by
    have hkey := h'.get? key
    rw [get?_merge a c h'.left, get?_merge b d h'.right]
    generalize c.get? key = v, d.get? key = w at hkey ⊢
    cases hkey with
    | some hvw => exact .some hvw
    | none => exact h.get? key

end Matches

end CloudCanvas.Table
