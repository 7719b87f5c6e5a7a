import CloudCanvas.Document.Printer
import CloudCanvas.Proofs.Document.Reader

/-!
What a document is, by what its parts are. A property is shown for a document by showing it for a
container of which all parts have it.
-/

namespace CloudCanvas.Document

variable {τ : Type}

/-- What holds of a container as soon as it holds of all its parts holds of every document. -/
@[elab_as_elim]
theorem inductionOn {P : Document τ → Prop} (scalar : ∀ v : Document τ, v.isScalar = true → P v)
    (arr : ∀ items, (∀ v ∈ items, P v) → P (.arr items))
    (obj : ∀ fields : List (τ × Document τ), (∀ entry ∈ fields, P entry.2) → P (.obj fields))
    (v : Document τ) : P v :=
  @Document.rec τ P (fun items => ∀ v ∈ items, P v) (fun fields => ∀ entry ∈ fields, P entry.2)
    (fun entry => P entry.2) (scalar .null rfl) (fun b => scalar (.bool b) rfl)
    (fun n => scalar (.num n) rfl) (fun s => scalar (.str s) rfl) arr obj
    (List.forall_mem_nil P) (fun _ _ hv hrest => List.forall_mem_cons.2 ⟨hv, hrest⟩)
    (List.forall_mem_nil _) (fun _ _ hentry hrest => List.forall_mem_cons.2 ⟨hentry, hrest⟩)
    (fun _ _ hv => hv) v

theorem wellFormedItems_iff {items : List (Document τ)} :
    WellFormedItems items ↔ ∀ v ∈ items, v.WellFormed := by
  induction items with
  | nil => simp [WellFormedItems]
  | cons v rest ih => rw [WellFormedItems, ih, List.forall_mem_cons]

theorem allFiniteItems_iff {items : List (Document τ)} :
    allFiniteItems items = true ↔ ∀ v ∈ items, v.allFinite = true := by
  induction items with
  | nil => simp [allFiniteItems]
  | cons v rest ih => rw [allFiniteItems, Bool.and_eq_true, ih, List.forall_mem_cons]

theorem allFiniteFields_iff {fields : List (τ × Document τ)} :
    allFiniteFields fields = true ↔ ∀ entry ∈ fields, entry.2.allFinite = true := by
  induction fields with
  | nil => simp [allFiniteFields]
  | cons entry rest ih => rw [allFiniteFields, Bool.and_eq_true, ih, List.forall_mem_cons]

theorem finiteOrNullItems_eq_map (items : List (Document τ)) :
    finiteOrNullItems items = items.map finiteOrNull := by
  induction items with
  | nil => rfl
  | cons v rest ih => rw [finiteOrNullItems, ih, List.map_cons]

theorem finiteOrNullFields_eq_map (fields : List (τ × Document τ)) :
    finiteOrNullFields fields = fields.map fun entry => (entry.1, entry.2.finiteOrNull) := by
  induction fields with
  | nil => rfl
  | cons entry rest ih => rw [finiteOrNullFields, ih, List.map_cons]

theorem itemsHeight_le_iff {items : List (Document τ)} {n : Nat} :
    itemsHeight items ≤ n ↔ ∀ v ∈ items, v.height ≤ n := by
  induction items with
  | nil => simp [itemsHeight]
  | cons v rest ih => rw [itemsHeight, Nat.max_le, ih, List.forall_mem_cons]

theorem fieldsHeight_le_iff {fields : List (τ × Document τ)} {n : Nat} :
    fieldsHeight fields ≤ n ↔ ∀ entry ∈ fields, entry.2.height ≤ n := by
  induction fields with
  | nil => simp [fieldsHeight]
  | cons entry rest ih => rw [fieldsHeight, Nat.max_le, ih, List.forall_mem_cons]

theorem itemsNesting_le_iff {items : List (Document τ)} {n : Nat} :
    itemsNesting items ≤ n ↔ ∀ v ∈ items, v.nesting ≤ n := by
  induction items with
  | nil => simp [itemsNesting]
  | cons v rest ih => rw [itemsNesting, Nat.max_le, ih, List.forall_mem_cons]

theorem fieldsNesting_le_iff {fields : List (τ × Document τ)} {n : Nat} :
    fieldsNesting fields ≤ n ↔ ∀ entry ∈ fields, entry.2.nesting ≤ n := by
  induction fields with
  | nil => simp [fieldsNesting]
  | cons entry rest ih => rw [fieldsNesting, Nat.max_le, ih, List.forall_mem_cons]

/-- The parts of a document with the property have it too. -/
structure Hereditary (Q : Document τ → Prop) : Prop where
  items : ∀ {items}, Q (.arr items) → ∀ v ∈ items, Q v
  fields : ∀ {fields : List (τ × Document τ)}, Q (.obj fields) → ∀ entry ∈ fields, Q entry.2

theorem hereditary_wellFormed : Hereditary fun v : Document τ => v.WellFormed where
  items h := wellFormedItems_iff.1 h
  fields h := wellFormedFields_iff.1 h.2

theorem hereditary_allFinite : Hereditary fun v : Document τ => v.allFinite = true where
  items h := allFiniteItems_iff.1 h
  fields h := allFiniteFields_iff.1 h

/-- What a layout puts between the parts is only gaps. -/
structure Layout.IsGap (layout : Layout) : Prop where
  gap : ∀ depth, ∀ c ∈ layout.gap depth, Document.isGap c = true
  afterColon : ∀ c ∈ layout.afterColon, Document.isGap c = true

theorem isGap_compact : compact.IsGap :=
  ⟨fun _ => List.forall_mem_nil _, List.forall_mem_nil _⟩

theorem isGap_indented : indented.IsGap where
  gap depth := by
    refine List.forall_mem_cons.2 ⟨by decide, fun c hc => ?_⟩
    rw [List.eq_of_mem_replicate hc]
    decide
  afterColon := List.forall_mem_singleton.2 (by decide)

/-- The brackets of containers, and what stands between their parts. -/
def marks : List Char :=
  [',', ':', '[', ']', '\x7b', '\x7d']

/-- The property holds of the pieces of which documents are written, and of two texts together when
it holds of both. -/
structure Layout.Keeps (layout : Layout) (P : List Char → Prop) : Prop where
  append : ∀ {cs ds}, P cs → P ds → P (cs ++ ds)
  gap : ∀ depth, P (layout.gap depth)
  afterColon : P layout.afterColon
  mark : ∀ c ∈ marks, P [c]
  scalar : ∀ depth, ∀ v : Json, v.isScalar = true → P (Document.write layout depth v)

namespace Layout.Keeps

variable {layout : Layout} {P : List Char → Prop} (h : layout.Keeps P)
include h

theorem cons {c : Char} (hc : c ∈ marks) {cs : List Char} (hcs : P cs) : P (c :: cs) :=
  h.append (h.mark c hc) hcs

theorem named (key : String) {cs : List Char} (hcs : P cs) :
    P (stringText key ++ ':' :: (layout.afterColon ++ cs)) := by
  have hkey := h.scalar 0 (.str key) rfl
  rw [Document.write] at hkey
  exact h.append hkey (h.cons (by decide) (h.append h.afterColon hcs))

mutual

/-- It then holds of every written document. -/
theorem write (depth : Nat) : (v : Json) → P (Document.write layout depth v)
  | .null | .bool _ | .num _ | .str _ => h.scalar depth _ rfl
  | .arr [] => by
    rw [Document.write]
    exact h.cons (by decide) (h.mark ']' (by decide))
  | .obj [] => by
    rw [Document.write]
    exact h.cons (by decide) (h.mark '\x7d' (by decide))
  | .arr (v :: rest) => by
    have hrest := writeItems depth rest
    rw [Document.write]
    exact h.cons (by decide) (h.append (h.gap _) (h.append (write (depth + 1) v) hrest))
  | .obj ((key, v) :: rest) => by
    have hvalue := h.append (write (depth + 1) v) (writeFields depth rest)
    rw [Document.write]
    exact h.cons (by decide) (h.append (h.gap _) (h.named key hvalue))

theorem writeItems (depth : Nat) :
    (items : List Json) → P (Document.writeItems layout depth items)
  | [] => by
    rw [Document.writeItems]
    exact h.append (h.gap depth) (h.mark ']' (by decide))
  | v :: rest => by
    have hrest := writeItems depth rest
    rw [Document.writeItems]
    exact h.cons (by decide) (h.append (h.gap _) (h.append (write (depth + 1) v) hrest))

theorem writeFields (depth : Nat) :
    (fields : List (String × Json)) → P (Document.writeFields layout depth fields)
  | [] => by
    rw [Document.writeFields]
    exact h.append (h.gap depth) (h.mark '\x7d' (by decide))
  | (key, v) :: rest => by
    have hvalue := h.append (write (depth + 1) v) (writeFields depth rest)
    rw [Document.writeFields]
    exact h.cons (by decide) (h.append (h.gap _) (h.named key hvalue))

end

end Layout.Keeps

end CloudCanvas.Document
