import CloudCanvas.Proofs.Canvas.Rearranged

/-!
The spellings of fields. Of the names of a field the first that is present decides, whatever stands
there and whatever stands under the others; nothing else in the record has a say in that field. So
documents that agree on what decides are read as one graph. That is so in particular for a document
in which no field has two names, and for any other spelling of that document.
-/

namespace CloudCanvas

namespace Reading

variable {α β γ : Type}

theorem value?_eq_some_iff {r : Reading α} {a : α} : r.value? = some a ↔ r = .ok a := by
  cases r <;> simp [value?]

theorem value?_map (f : α → β) (r : Reading α) : (r.map f).value? = r.value?.map f := by
  cases r <;> rfl

theorem value?_under (step : Step) (r : Reading α) : (r.under step).value? = r.value? := by
  cases r <;> rfl

theorem value?_both (f : α → β → γ) (r : Reading α) (s : Reading β) :
    (both f r s).value? = r.value?.bind fun a => s.value?.map (f a) := by
  cases r <;> cases s <;> rfl

theorem value?_andThen (f : Reading (α → β)) (r : Reading α) :
    (f.andThen r).value? = f.value?.bind fun f => r.value?.map f :=
  value?_both _ f r

/-- What stands under the first of the names that is present. -/
def decisive? (fields : Table Json) (keys : List String) : Option Json :=
  keys.findSome? fields.get?

theorem map_snd_firstPresent? (fields : Table Json) (keys : List String) :
    (firstPresent? fields keys).map Prod.snd = decisive? fields keys := by
  induction keys with
  | nil => rfl
  | cons key rest ih =>
    rw [firstPresent?, decisive?, List.findSome?_cons]
    cases fields.get? key with
    | some v => rfl
    | none => exact ih

theorem decisive?_singleton (fields : Table Json) (key : String) :
    decisive? fields [key] = fields.get? key := by
  rw [decisive?, List.findSome?_cons]
  cases fields.get? key <;> rfl

section Fields

variable (fields : Table Json) (keys : List String) (read : Json → Reading α)

theorem value?_field :
    (field fields keys read).value? = (decisive? fields keys).bind fun v => (read v).value? := by
  rw [field, ← map_snd_firstPresent?]
  cases firstPresent? fields keys with
  | none => rfl
  | some entry => exact value?_under _ _

theorem value?_fieldOr (absent : α) :
    (fieldOr fields keys absent read).value? =
      (decisive? fields keys).elim (some absent) fun v => (read v).value? := by
  rw [fieldOr, ← map_snd_firstPresent?]
  cases firstPresent? fields keys with
  | none => rfl
  | some entry => exact value?_under _ _

end Fields

/-- Both documents are read as the same value, or neither is accepted. -/
def Agree (read : Json → Reading α) (v w : Json) : Prop :=
  (read v).value? = (read w).value?

theorem Agree.ok_iff {read : Json → Reading α} {v w : Json} (h : Agree read v w) (a : α) :
    read v = .ok a ↔ read w = .ok a := by
  rw [← value?_eq_some_iff, ← value?_eq_some_iff, h]

theorem value?_itemsFrom_congr {read : Json → Reading α} {items others : List Json}
    (h : List.Forall₂ (Agree read) items others) (n : Nat) :
    (itemsFrom read n items).value? = (itemsFrom read n others).value? := by
  induction h generalizing n with
  | nil => rfl
  | cons hvw _ ih =>
    rw [itemsFrom, itemsFrom, value?_both, value?_both, value?_under, value?_under, hvw, ih]

theorem Agree.list {read : Json → Reading α} {v w : Json}
    (h : Document.Itemwise (Agree read) v w) : Agree (list read) v w := by
  cases h with
  | same _ => rfl
  | arr hitems => exact value?_itemsFrom_congr hitems 0

end Reading

namespace Reading

variable {fields : Table Json} {keys : List String}

theorem decisive?_eq_none (h : ∀ entry ∈ fields, entry.1 ∉ keys) :
    decisive? fields keys = none := by
  refine List.findSome?_eq_none_iff.2 fun key hkey => (Table.get?_eq_none_iff fields key).2 ?_
  intro hmem
  obtain ⟨entry, hentry, rfl⟩ := List.mem_map.1 hmem
  exact h entry hentry hkey

theorem decisive?_cons_of_notMem {entry : String × Json} (h : entry.1 ∉ keys) :
    decisive? (entry :: fields) keys = decisive? fields keys := by
  induction keys with
  | nil => rfl
  | cons key rest ih =>
    obtain ⟨hkey, hrest⟩ := not_or.1 (mt List.mem_cons.2 h)
    have hlater := ih hrest
    unfold decisive? at hlater ⊢
    rw [List.findSome?_cons, List.findSome?_cons, Table.get?, if_neg hkey, hlater]

theorem decisive?_cons_of_mem {entry : String × Json} (h : entry.1 ∈ keys)
    (hnone : decisive? fields keys = none) : decisive? (entry :: fields) keys = some entry.2 := by
  induction keys with
  | nil => cases h
  | cons key rest ih =>
    unfold decisive? at ih hnone ⊢
    rw [List.findSome?_cons, Table.get?]
    by_cases hkey : entry.1 = key
    · rw [if_pos hkey]
    · have hlater : entry.1 ∈ rest := (List.mem_cons.1 h).resolve_left hkey
      rw [if_neg hkey, List.findSome?_eq_none_iff.1 hnone key List.mem_cons_self]
      exact ih hlater (List.findSome?_eq_none_iff.2 fun other hother =>
        List.findSome?_eq_none_iff.1 hnone other (List.mem_cons_of_mem key hother))

end Reading

namespace Document

/-- Two objects that have the same value, or none, to decide about each field; or one document that
is no object. A field is given by its names. -/
inductive SameFields (names : List (List String)) : Json → Json → Prop
  | same {v : Json} (h : v.fields? = none) : SameFields names v v
  | obj {a b : Table Json}
      (h : ∀ keys ∈ names, Reading.decisive? a keys = Reading.decisive? b keys) :
      SameFields names (.obj a) (.obj b)

/-- The two names are names of one field. -/
def Spells (names : List (List String)) (key other : String) : Prop :=
  key = other ∨ ∃ keys ∈ names, key ∈ keys ∧ other ∈ keys

instance (names : List (List String)) (key other : String) : Decidable (Spells names key other) :=
  inferInstanceAs (Decidable (_ ∨ _))

/-- Two objects with the same values in the same order, each under some name of its field, where no
two entries belong to one field; or one document that is no object. -/
inductive Respelled (names : List (List String)) : Json → Json → Prop
  | same {v : Json} (h : v.fields? = none) : Respelled names v v
  | obj {a b : Table Json}
      (once : a.Pairwise fun x y => ∀ keys ∈ names, x.1 ∈ keys → y.1 ∉ keys)
      (entries : List.Forall₂ (fun x y => Spells names x.1 y.1 ∧ x.2 = y.2) a b) :
      Respelled names (.obj a) (.obj b)

section Respelling

variable {names : List (List String)}
  (hapart : ∀ keys ∈ names, ∀ others ∈ names, ∀ key ∈ keys, key ∈ others → keys = others)
include hapart

theorem Spells.mem_iff {key other : String} (h : Spells names key other) {keys : List String}
    (hkeys : keys ∈ names) : key ∈ keys ↔ other ∈ keys := by
  rcases h with rfl | ⟨others, hothers, hkey, hother⟩
  · exact Iff.rfl
  · constructor
    · intro hmem
      rwa [hapart keys hkeys others hothers key hmem hkey]
    · intro hmem
      rwa [hapart keys hkeys others hothers other hmem hother]

/-- By induction on the entries: the first one decides about its field, of which there is no other
entry, and about no other field. -/
theorem decisive?_of_respelled {a b : Table Json}
    (once : a.Pairwise fun x y => ∀ keys ∈ names, x.1 ∈ keys → y.1 ∉ keys)
    (entries : List.Forall₂ (fun x y => Spells names x.1 y.1 ∧ x.2 = y.2) a b)
    {keys : List String} (hkeys : keys ∈ names) :
    Reading.decisive? a keys = Reading.decisive? b keys := by
  induction entries with
  | nil => rfl
  | @cons x y a b hxy _ ih =>
    obtain ⟨hfirst, hrest⟩ := List.pairwise_cons.1 once
    have hlater := ih hrest
    have hmem : x.1 ∈ keys ↔ y.1 ∈ keys := hxy.1.mem_iff hapart hkeys
    by_cases hx : x.1 ∈ keys
    · have hnone : Reading.decisive? a keys = none :=
        Reading.decisive?_eq_none fun entry hentry => hfirst entry hentry keys hkeys hx
      rw [Reading.decisive?_cons_of_mem hx hnone,
        Reading.decisive?_cons_of_mem (hmem.1 hx) (hlater ▸ hnone), hxy.2]
    · rw [Reading.decisive?_cons_of_notMem hx,
        Reading.decisive?_cons_of_notMem (mt hmem.2 hx), hlater]

theorem Respelled.sameFields {v w : Json} (h : Respelled names v w) : SameFields names v w := by
  cases h with
  | same hnone => exact .same hnone
  | obj once entries =>
    exact .obj fun keys hkeys => decisive?_of_respelled hapart once entries hkeys

end Respelling

theorem Itemwise.mono {R S : Json → Json → Prop} (h : ∀ v w, R v w → S v w) {v w : Json}
    (hvw : Itemwise R v w) : Itemwise S v w := by
  cases hvw with
  | same hno => exact .same hno
  | arr hitems => exact .arr (hitems.imp h)

end Document

namespace Canvas

open Document (Itemwise SameFields Respelled)
open Reading

/-- The fields of a node, each by its names. -/
def nodeNames : List (List String) :=
  [["id"], visualTypeKeys, displayLabelKeys, ["position"], ["config"]]

/-- The fields of an edge, each by its names. -/
def edgeNames : List (List String) :=
  [sourceKeys, targetKeys, edgePropsKeys]

/-- Two documents of graphs whose nodes and whose edges are related one by one. -/
inductive Partwise (R : List (List String) → Json → Json → Prop) : Json → Json → Prop
  | same {v : Json} (h : v.fields? = none) : Partwise R v v
  | obj {a b : Table Json}
      (nodes : Option.Rel (Itemwise (R nodeNames)) (a.get? "nodes") (b.get? "nodes"))
      (edges : Option.Rel (Itemwise (R edgeNames)) (a.get? "edges") (b.get? "edges")) :
      Partwise R (.obj a) (.obj b)

theorem agree_readNode {v w : Json} (h : SameFields nodeNames v w) : Agree readNode v w := by
  cases h with
  | same _ => rfl
  | obj h =>
    have hid := h ["id"] (by decide)
    have hvisualType := h visualTypeKeys (by decide)
    have hdisplayLabel := h displayLabelKeys (by decide)
    have hposition := h ["position"] (by decide)
    have hconfig := h ["config"] (by decide)
    simp only [Agree, readNode, record, value?_andThen, value?_map, value?_field, value?_fieldOr,
      hid, hvisualType, hdisplayLabel, hposition, hconfig]

theorem agree_readEdge {v w : Json} (h : SameFields edgeNames v w) : Agree readEdge v w := by
  cases h with
  | same _ => rfl
  | obj h =>
    have hsource := h sourceKeys (by decide)
    have htarget := h targetKeys (by decide)
    have hprops := h edgePropsKeys (by decide)
    simp only [Agree, readEdge, record, value?_andThen, value?_map, value?_field, value?_fieldOr,
      hsource, htarget, hprops]

/-- Lists under a name of the graph, of items that are read alike. -/
theorem value?_list_congr {α : Type} {R : Json → Json → Prop} {read : Json → Reading α}
    (h : ∀ v w, R v w → Agree read v w) {a b : Table Json} {key : String}
    (hkey : Option.Rel (Itemwise R) (a.get? key) (b.get? key)) :
    (fieldOr a [key] [] (list read)).value? = (fieldOr b [key] [] (list read)).value? := by
  rw [value?_fieldOr, value?_fieldOr, decisive?_singleton, decisive?_singleton]
  generalize a.get? key = v, b.get? key = w at hkey ⊢
  cases hkey with
  | some hvw => exact Agree.list (hvw.mono h)
  | none => rfl

theorem agree_readGraph {R : List (List String) → Json → Json → Prop}
    (hnode : ∀ v w, R nodeNames v w → Agree readNode v w)
    (hedge : ∀ v w, R edgeNames v w → Agree readEdge v w) {v w : Json} (h : Partwise R v w) :
    Agree readGraph v w := by
  cases h with
  | same _ => rfl
  | obj nodes edges =>
    simp only [Agree, readGraph, record, value?_andThen, value?_map,
      value?_list_congr hnode nodes, value?_list_congr hedge edges]

theorem agree_readGraph_of_sameFields {v w : Json} (h : Partwise SameFields v w) :
    Agree readGraph v w :=
  agree_readGraph (fun _ _ => agree_readNode) (fun _ _ => agree_readEdge) h

theorem agree_readGraph_of_respelled {v w : Json} (h : Partwise Respelled v w) :
    Agree readGraph v w :=
  agree_readGraph (fun _ _ h => agree_readNode (h.sameFields (by decide)))
    (fun _ _ h => agree_readEdge (h.sameFields (by decide))) h

/-- What stands under the deciding names is what the node has. A label is empty only where it has
none of its names. -/
structure Node.DecidedBy (n : Node) (fields : Table Json) : Prop where
  visualType : decisive? fields visualTypeKeys = some (.str n.visualType)
  displayLabel : (decisive? fields displayLabelKeys).getD (.str "") = .str n.displayLabel

/-- What stands under the deciding names is what the edge has. Properties that are no object are
none, whatever stands under the other names. -/
structure Edge.DecidedBy (e : Edge) (fields : Table Json) : Prop where
  source : decisive? fields sourceKeys = some (.str e.source)
  target : decisive? fields targetKeys = some (.str e.target)
  props : ((decisive? fields edgePropsKeys).getD .null).fieldsOrEmpty = e.props

theorem text_eq_ok_iff {v : Json} {s : String} : text v = .ok s ↔ v = .str s := by
  cases v <;> simp [text, fail]

theorem decisive?_of_text {fields : Table Json} {keys : List String} {s : String}
    (h : field fields keys text = .ok s) : decisive? fields keys = some (.str s) := by
  rw [← value?_eq_some_iff, value?_field, Option.bind_eq_some_iff] at h
  obtain ⟨v, hv, hs⟩ := h
  rw [hv, text_eq_ok_iff.1 (value?_eq_some_iff.1 hs)]

theorem decidedBy_of_readNode {fields : Table Json} {n : Node}
    (h : readNode (.obj fields) = .ok n) : n.DecidedBy fields := by
  simp only [readNode, record, andThen_eq_ok_iff, map_eq_ok_iff] at h
  obtain ⟨_, _, ⟨_, _, ⟨_, displayLabel, ⟨_, visualType, ⟨_, -, rfl⟩, hvisualType, rfl⟩,
    hdisplayLabel, rfl⟩, -, rfl⟩, -, rfl⟩ := h
  refine ⟨decisive?_of_text hvisualType, ?_⟩
  rw [← value?_eq_some_iff, value?_fieldOr] at hdisplayLabel
  cases hdecisive : decisive? fields displayLabelKeys with
  | none =>
    rw [hdecisive] at hdisplayLabel
    cases hdisplayLabel
    rfl
  | some v =>
    rw [hdecisive] at hdisplayLabel
    exact text_eq_ok_iff.1 (value?_eq_some_iff.1 hdisplayLabel)

theorem decidedBy_of_readEdge {fields : Table Json} {e : Edge}
    (h : readEdge (.obj fields) = .ok e) : e.DecidedBy fields := by
  simp only [readEdge, record, andThen_eq_ok_iff, map_eq_ok_iff] at h
  obtain ⟨_, props, ⟨_, target, ⟨source, hsource, rfl⟩, htarget, rfl⟩, hprops, rfl⟩ := h
  refine ⟨decisive?_of_text hsource, decisive?_of_text htarget, ?_⟩
  rw [← value?_eq_some_iff, value?_fieldOr] at hprops
  cases hdecisive : decisive? fields edgePropsKeys with
  | none =>
    rw [hdecisive] at hprops
    cases hprops
    rfl
  | some v =>
    rw [hdecisive] at hprops
    cases hprops
    rfl

end Canvas

end CloudCanvas
