import CloudCanvas.Document.Printer
import CloudCanvas.Proofs.Document.Basic
import CloudCanvas.Proofs.Table
import Mathlib.Data.String.Basic

/-!
Documents that agree up to the order of fields, at every depth. A document has one sorted form, and
two of them agree exactly when their sorted forms are equal: an object with distinct names is told
by what it has under each name, and its fields can be sorted in one way only.
-/

namespace CloudCanvas.Document

theorem sortedItems_eq_map (items : List Json) : sortedItems items = items.map sorted := by
  induction items with
  | nil => rfl
  | cons v rest ih => rw [sortedItems, ih, List.map_cons]

theorem sortedFields_eq_map (fields : List (String × Json)) :
    sortedFields fields = fields.map fun entry => (entry.1, entry.2.sorted) := by
  induction fields with
  | nil => rfl
  | cons entry rest ih => rw [sortedFields, ih, List.map_cons]

/-- Equal up to the order of fields, at every depth. No object has a name twice. -/
inductive Alike : Json → Json → Prop
  | scalar {v : Json} (h : v.isScalar = true) : Alike v v
  | arr {a b : List Json} (hlength : a.length = b.length)
    (hitems : ∀ (i : Nat) (v w : Json), a[i]? = some v → b[i]? = some w → Alike v w) :
    Alike (.arr a) (.arr b)
  | obj {a b : Table Json} (ha : a.keys.Nodup) (hb : b.keys.Nodup)
    (hkeys : ∀ key, a.contains key = b.contains key)
    (hfields : ∀ (key : String) (v w : Json),
      a.get? key = some v → b.get? key = some w → Alike v w) :
    Alike (.obj a) (.obj b)

/-- An item stands beside one in every list of that length. -/
theorem exists_beside {α β : Type} {a : List α} {b : List β} (h : a.length = b.length) {v : α}
    (hv : v ∈ a) : ∃ (i : Nat) (w : β), a[i]? = some v ∧ b[i]? = some w ∧ w ∈ b := by
  obtain ⟨i, hi, rfl⟩ := List.getElem_of_mem hv
  have hib : i < b.length := h ▸ hi
  exact ⟨i, b[i], List.getElem?_eq_getElem hi, List.getElem?_eq_getElem hib, List.getElem_mem hib⟩

namespace Alike

theorem symm {v w : Json} (h : Alike v w) : Alike w v := by
  induction h with
  | scalar h => exact .scalar h
  | arr hlength _ ih => exact .arr hlength.symm fun i v w hv hw => ih i w v hw hv
  | obj ha hb hkeys _ ih =>
    exact .obj hb ha (fun key => (hkeys key).symm) fun key v w hv hw => ih key w v hw hv

theorem trans {u v w : Json} (h : Alike u v) (h' : Alike v w) : Alike u w := by
  induction h generalizing w with
  | scalar _ => exact h'
  | @arr a b hlength _ ih =>
    cases h' with
    | scalar h => cases h
    | @arr b c hlength' hitems' =>
      refine .arr (hlength.trans hlength') fun i u w hu hw => ?_
      obtain ⟨hi, -⟩ := List.getElem?_eq_some_iff.1 hw
      have hv : b[i]? = some b[i] := List.getElem?_eq_getElem (hlength' ▸ hi)
      exact ih i u b[i] hu hv (hitems' i b[i] w hv hw)
  | @obj a b ha _ hkeys _ ih =>
    cases h' with
    | scalar h => cases h
    | @obj b c _ hc hkeys' hfields' =>
      refine .obj ha hc (fun key => (hkeys key).trans (hkeys' key)) fun key u w hu hw => ?_
      obtain ⟨v, -, hv, -⟩ := Table.exists_partner ha hkeys (Table.mem_of_get? hu)
      exact ih key u v hu hv (hfields' key v w hv hw)

theorem wellFormed {v w : Json} (h : Alike v w) : v.WellFormed := by
  induction h with
  | @scalar v h =>
    cases v with
    | arr items => cases h
    | obj fields => cases h
    | _ => trivial
  | @arr a b hlength _ ih =>
    refine wellFormedItems_iff.2 fun v hv => ?_
    obtain ⟨i, w, hi, hi', -⟩ := exists_beside hlength hv
    exact ih i v w hi hi'
  | @obj a b ha _ hkeys _ ih =>
    refine ⟨ha, wellFormedFields_iff.2 fun entry hentry => ?_⟩
    obtain ⟨w, hv, hw, -⟩ := Table.exists_partner ha hkeys hentry
    exact ih entry.1 entry.2 w hv hw

theorem allFinite {v w : Json} (h : Alike v w) (hw : w.allFinite = true) :
    v.allFinite = true := by
  induction h with
  | scalar _ => exact hw
  | @arr a b hlength _ ih =>
    refine allFiniteItems_iff.2 fun v hv => ?_
    obtain ⟨i, w, hi, hi', hmem⟩ := exists_beside hlength hv
    exact ih i v w hi hi' (allFiniteItems_iff.1 hw w hmem)
  | @obj a b ha _ hkeys _ ih =>
    refine allFiniteFields_iff.2 fun entry hentry => ?_
    obtain ⟨w, hv, hw', hmem⟩ := Table.exists_partner ha hkeys hentry
    exact ih entry.1 entry.2 w hv hw' (allFiniteFields_iff.1 hw (entry.1, w) hmem)

theorem height_le {v w : Json} (h : Alike v w) : v.height ≤ w.height := by
  induction h with
  | scalar h => exact le_rfl
  | @arr a b hlength _ ih =>
    refine Nat.succ_le_succ (itemsHeight_le_iff.2 fun v hv => ?_)
    obtain ⟨i, w, hi, hi', hw⟩ := exists_beside hlength hv
    exact (ih i v w hi hi').trans (itemsHeight_le_iff.1 le_rfl w hw)
  | @obj a b ha _ hkeys _ ih =>
    refine Nat.succ_le_succ (fieldsHeight_le_iff.2 fun entry hentry => ?_)
    obtain ⟨w, hv, hw, hmem⟩ := Table.exists_partner ha hkeys hentry
    exact (ih entry.1 entry.2 w hv hw).trans (fieldsHeight_le_iff.1 le_rfl _ hmem)

theorem height_eq {v w : Json} (h : Alike v w) : v.height = w.height :=
  le_antisymm h.height_le h.symm.height_le

theorem finiteOrNull {v w : Json} (h : Alike v w) : Alike v.finiteOrNull w.finiteOrNull := by
  induction h with
  | @scalar v h =>
    refine .scalar ?_
    cases v with
    | num n =>
      unfold Document.finiteOrNull
      split <;> rfl
    | arr items => cases h
    | obj fields => cases h
    | _ => rfl
  | arr hlength _ ih =>
    rw [Document.finiteOrNull, Document.finiteOrNull, finiteOrNullItems_eq_map,
      finiteOrNullItems_eq_map]
    refine .arr (by simpa using hlength) fun i v w hv hw => ?_
    rw [List.getElem?_map, Option.map_eq_some_iff] at hv hw
    obtain ⟨v, hv, rfl⟩ := hv
    obtain ⟨w, hw, rfl⟩ := hw
    exact ih i v w hv hw
  | @obj a b ha hb hkeys _ ih =>
    rw [Document.finiteOrNull, Document.finiteOrNull, finiteOrNullFields_eq_map,
      finiteOrNullFields_eq_map]
    refine .obj (by rwa [Table.keys_map]) (by rwa [Table.keys_map]) (fun key => ?_)
      fun key v w hv hw => ?_
    · simpa [Table.contains_eq_isSome, Table.get?_map] using hkeys key
    · rw [Table.get?_map, Option.map_eq_some_iff] at hv hw
      obtain ⟨v, hv, rfl⟩ := hv
      obtain ⟨w, hw, rfl⟩ := hw
      exact ih key v w hv hw

end Alike

theorem perm_sortFields (fields : List (String × Json)) : (sortFields fields).Perm fields :=
  List.mergeSort_perm _ _

/-- The fields of an object are sorted in one way only. -/
theorem sortFields_eq_of_perm {a b : Table Json} (ha : a.keys.Nodup) (h : a.Perm b) :
    sortFields a = sortFields b := by
  have hsorted (t : List (String × Json)) :
      (sortFields t).Pairwise fun x y => x.1 ≤ y.1 := by
    refine (List.pairwise_mergeSort ?_ ?_ t).imp fun h => by simpa using h
    · intro x y z hxy hyz
      simp only [decide_eq_true_eq] at hxy hyz ⊢
      exact hxy.trans hyz
    · intro x y
      simpa using le_total x.1 y.1
  have hperm : (sortFields a).Perm (sortFields b) :=
    (perm_sortFields a).trans (h.trans (perm_sortFields b).symm)
  have hkeys : (Table.keys (sortFields a)).Nodup :=
    ((perm_sortFields a).map Prod.fst).nodup_iff.2 ha
  refine List.Perm.eq_of_pairwise ?_ (hsorted a) (hsorted b) hperm
  rintro ⟨key, v⟩ ⟨key', w⟩ hx hy hle hge
  obtain rfl : key = key' := le_antisymm hle hge
  have hv := Table.get?_of_mem hkeys hx
  have hw := Table.get?_of_mem hkeys (hperm.mem_iff.2 hy)
  rw [hv] at hw
  rw [Option.some.inj hw]

/-- By induction on the likeness: at each level the sorted parts are the same, so the objects have
the same fields, and these are sorted in one way. -/
theorem Alike.sorted_eq {v w : Json} (h : Alike v w) : v.sorted = w.sorted := by
  induction h with
  | scalar h => rfl
  | @arr a b hlength _ ih =>
    rw [sorted, sorted, sortedItems_eq_map, sortedItems_eq_map]
    refine congrArg Document.arr (List.ext_getElem (by simpa using hlength) fun i hi hi' => ?_)
    rw [List.length_map] at hi hi'
    rw [List.getElem_map, List.getElem_map]
    exact ih i _ _ (List.getElem?_eq_getElem hi) (List.getElem?_eq_getElem hi')
  | @obj a b ha hb hkeys _ ih =>
    rw [sorted, sorted, sortedFields_eq_map, sortedFields_eq_map]
    refine congrArg Document.obj (sortFields_eq_of_perm (by rwa [Table.keys_map]) ?_)
    refine Table.perm_of_get? (by rwa [Table.keys_map]) (by rwa [Table.keys_map]) fun key => ?_
    rw [Table.get?_map, Table.get?_map]
    rcases Table.get?_cases (hkeys key) with ⟨ha', hb'⟩ | ⟨v, w, hv, hw⟩
    · rw [ha', hb']
    · rw [hv, hw, Option.map_some, Option.map_some, ih key v w hv hw]

theorem alike_sorted {v : Json} (h : v.WellFormed) : v.Alike v.sorted := by
  induction v using inductionOn with
  | scalar v hv =>
    cases v with
    | arr items => cases hv
    | obj fields => cases hv
    | _ => exact .scalar rfl
  | arr items ih =>
    rw [sorted, sortedItems_eq_map]
    refine .arr (by simp) fun i v w hv hw => ?_
    rw [List.getElem?_map, hv] at hw
    cases hw
    have hmem : v ∈ items := List.mem_of_getElem? hv
    exact ih v hmem (wellFormedItems_iff.1 h v hmem)
  | obj fields ih =>
    have hperm := perm_sortFields (fields.map fun entry => (entry.1, entry.2.sorted))
    have hkeys : (Table.keys (sortFields
        (fields.map fun entry => (entry.1, entry.2.sorted)))).Nodup := by
      refine (hperm.map Prod.fst).nodup_iff.2 ?_
      have hnames : (Table.keys (fields.map fun entry => (entry.1, entry.2.sorted))).Nodup := by
        rw [Table.keys_map]
        exact h.1
      exact hnames
    -- sorting moves the fields, so each name keeps its value, which is now sorted itself
    have hget (key : String) : Table.get? (sortFields
        (fields.map fun entry => (entry.1, entry.2.sorted))) key =
          (Table.get? fields key).map sorted := by
      rw [Table.get?_of_perm hperm hkeys, Table.get?_map]
    rw [sorted, sortedFields_eq_map]
    refine .obj h.1 hkeys (fun key => ?_) fun key v w hv hw => ?_
    · rw [Table.contains_eq_isSome, Table.contains_eq_isSome, hget, Option.isSome_map]
    · rw [hget, hv] at hw
      cases hw
      have hmem : (key, v) ∈ fields := Table.mem_of_get? hv
      exact ih (key, v) hmem (wellFormedFields_iff.1 h.2 (key, v) hmem)

theorem Alike.refl {v : Json} (h : v.WellFormed) : v.Alike v :=
  (alike_sorted h).trans (alike_sorted h).symm

theorem sorted_eq_iff {v w : Json} (hv : v.WellFormed) (hw : w.WellFormed) :
    v.sorted = w.sorted ↔ v.Alike w := by
  constructor
  · intro h
    have hsorted : v.Alike w.sorted := h ▸ alike_sorted hv
    exact hsorted.trans (alike_sorted hw).symm
  · exact Alike.sorted_eq

/-- Two tables with the same names and with values that are alike. -/
abbrev AlikeFields (a b : Table Json) : Prop :=
  Table.Matches (fun _ => Alike) a b

theorem alike_obj_iff {a b : Table Json} : Alike (.obj a) (.obj b) ↔ AlikeFields a b := by
  constructor
  · intro h
    cases h with
    | scalar h => cases h
    | obj ha hb hkeys hfields =>
      refine ⟨ha, hb, fun key => ?_⟩
      rcases Table.get?_cases (hkeys key) with ⟨hv, hw⟩ | ⟨v, w, hv, hw⟩
      · rw [hv, hw]
        exact .none
      · rw [hv, hw]
        exact .some (hfields key v w hv hw)
  · rintro ⟨ha, hb, hget⟩
    refine .obj ha hb (fun key => ?_) fun key v w hv hw => ?_
    · have hkey := hget key
      rw [Table.contains_eq_isSome, Table.contains_eq_isSome]
      generalize a.get? key = v, b.get? key = w at hkey ⊢
      cases hkey <;> rfl
    · have hkey := hget key
      rw [hv, hw] at hkey
      cases hkey with
      | some h => exact h

/-- Objects whose fields stand in one order, with values that are alike. -/
theorem Alike.obj_of_forall₂ {a b : Table Json} (ha : a.keys.Nodup)
    (h : List.Forall₂ (fun x y => x.1 = y.1 ∧ Alike x.2 y.2) a b) : Alike (.obj a) (.obj b) :=
  alike_obj_iff.2 (.of_forall₂ ha h)

theorem Alike.arr_of_forall₂ {a b : List Json} (h : List.Forall₂ Alike a b) :
    Alike (.arr a) (.arr b) := by
  refine .arr h.length_eq fun i v w hv hw => ?_
  induction h generalizing i with
  | nil => cases hv
  | cons hvw _ ih =>
    cases i with
    | zero =>
      cases hv
      cases hw
      exact hvw
    | succ i => exact ih i hv hw

/-- Objects whose fields are the same, in any order. -/
theorem Alike.obj_of_perm {a b : Table Json} (h : a.Perm b)
    (ha : (Document.obj a).WellFormed) : Alike (.obj a) (.obj b) := by
  have hself : AlikeFields a a := alike_obj_iff.1 (.refl ha)
  exact alike_obj_iff.2 (hself.perm_right h)

theorem isEmpty_eq_of_contains {a b : Table Json} (h : ∀ key, a.contains key = b.contains key) :
    a.isEmpty = b.isEmpty := by
  cases a with
  | nil =>
    cases b with
    | nil => rfl
    | cons entry rest =>
      have hfirst := h entry.1
      simp [Table.contains] at hfirst
  | cons entry rest =>
    cases b with
    | nil =>
      have hfirst := h entry.1
      simp [Table.contains] at hfirst
    | cons entry' rest' => rfl

namespace Alike

variable {v w : Json} (h : Alike v w)
include h

theorem truthy : v.truthy = w.truthy := by
  cases h with
  | scalar h => rfl
  | @arr a b hlength _ =>
    have hempty : a.isEmpty = b.isEmpty := by
      rw [Bool.eq_iff_iff, List.isEmpty_iff_length_eq_zero, List.isEmpty_iff_length_eq_zero,
        hlength]
    simp [Document.truthy, hempty]
  | obj _ _ hkeys _ => simp [Document.truthy, isEmpty_eq_of_contains hkeys]

theorem isBlank : v.isBlank = w.isBlank := by
  cases h <;> rfl

theorem isNull : v.isNull = w.isNull := by
  cases h <;> rfl

/-- Outside of containers there is no order to differ in. -/
theorem eq_of_isScalar (hv : v.isScalar = true) : v = w := by
  cases h with
  | scalar _ => rfl
  | arr _ _ => cases hv
  | obj _ _ _ _ => cases hv

theorem strippedText : v.strippedText = w.strippedText := by
  cases h <;> rfl

theorem fieldsOrEmpty : AlikeFields v.fieldsOrEmpty w.fieldsOrEmpty := by
  cases h with
  | @scalar v h =>
    have hnone : v.fieldsOrEmpty = [] := by
      cases v with
      | obj fields => cases h
      | _ => rfl
    rw [hnone]
    exact .nil
  | arr _ _ => exact .nil
  | obj ha hb hkeys hfields => exact alike_obj_iff.1 (.obj ha hb hkeys hfields)

end Alike

/-- A field of tables that are alike, where a missing one is null. -/
theorem AlikeFields.getField {a b : Table Json} (h : AlikeFields a b) (key : String) :
    (getField a key).Alike (getField b key) := by
  have hkey := h.get? key
  unfold Document.getField
  generalize a.get? key = v, b.get? key = w at hkey ⊢
  cases hkey with
  | some h => exact h
  | none => exact .scalar rfl

end CloudCanvas.Document
