import CloudCanvas.Canvas.Reader
import CloudCanvas.Proofs.Document.Basic
import CloudCanvas.Proofs.Document.Reader
import CloudCanvas.Proofs.Plan.Nodes

/-!
Graphs read from documents. The details of a node and the properties of an edge are objects of the
document, or nothing at all. So a property that a document hands down to its parts reaches them: a
graph that is read from a well-formed document has no detail twice, and one that is read from a
document of finite numbers has no others.
-/

namespace CloudCanvas

open Document (Hereditary)

namespace Reading

variable {α : Type} {Q : Json → Prop} {read : Json → Reading α} {P : α → Prop}

/-- What is read from a document with the one property has the other. -/
def Ensures (Q : Json → Prop) (read : Json → Reading α) (P : α → Prop) : Prop :=
  ∀ v : Json, Q v → ∀ a, read v = .ok a → P a

theorem of_firstPresent? (hQ : Hereditary Q) {fields : Table Json} (hfields : Q (.obj fields))
    {keys : List String} {key : String} {v : Json}
    (h : firstPresent? fields keys = some (key, v)) : Q v := by
  induction keys with
  | nil => cases h
  | cons first rest ih =>
    unfold firstPresent? at h
    split at h
    · next hfirst =>
      cases h
      exact hQ.fields hfields _ (Table.mem_of_get? hfirst)
    · exact ih h

theorem Ensures.field (h : Ensures Q read P) (hQ : Hereditary Q) {fields : Table Json}
    (hfields : Q (.obj fields)) {keys : List String} {a : α}
    (ha : field fields keys read = .ok a) : P a := by
  unfold Reading.field at ha
  split at ha
  · next hpresent => exact h _ (of_firstPresent? hQ hfields hpresent) a (under_eq_ok_iff.1 ha)
  · cases ha

theorem Ensures.fieldOr (h : Ensures Q read P) (hQ : Hereditary Q) {fields : Table Json}
    (hfields : Q (.obj fields)) {keys : List String} {absent a : α} (habsent : P absent)
    (ha : fieldOr fields keys absent read = .ok a) : P a := by
  unfold Reading.fieldOr at ha
  split at ha
  · next hpresent => exact h _ (of_firstPresent? hQ hfields hpresent) a (under_eq_ok_iff.1 ha)
  · cases ha
    exact habsent

theorem Ensures.record {model : String} {readFields : Table Json → Reading α}
    (h : ∀ fields, Q (.obj fields) → ∀ a, readFields fields = .ok a → P a) :
    Ensures Q (record model readFields) P := by
  intro v hv a ha
  cases v with
  | obj fields => exact h fields hv a ha
  | _ => cases ha

theorem Ensures.optional (h : Ensures Q read P) :
    Ensures Q (optional read) fun o => ∀ a ∈ o, P a := by
  intro v hv o ho
  unfold Reading.optional at ho
  split at ho
  · cases ho
    simp
  · obtain ⟨a, ha, rfl⟩ := map_eq_ok_iff.1 ho
    simpa using h v hv a ha

theorem Ensures.itemsFrom (h : Ensures Q read P) {n : Nat} {items : List Json}
    (hitems : ∀ v ∈ items, Q v) {as : List α} (has : itemsFrom read n items = .ok as) :
    ∀ a ∈ as, P a := by
  induction items generalizing n as with
  | nil =>
    cases has
    exact List.forall_mem_nil P
  | cons v rest ih =>
    obtain ⟨hv, hrest⟩ := List.forall_mem_cons.1 hitems
    obtain ⟨a, more, ha, hmore, rfl⟩ := both_eq_ok_iff.1 has
    exact List.forall_mem_cons.2 ⟨h v hv a (under_eq_ok_iff.1 ha), ih hrest hmore⟩

theorem Ensures.list (h : Ensures Q read P) (hQ : Hereditary Q) :
    Ensures Q (list read) fun as => ∀ a ∈ as, P a := by
  intro v hv as has
  cases v with
  | arr items => exact h.itemsFrom (hQ.items hv) has
  | _ => cases has

end Reading

namespace Canvas

open Reading

section Tables

variable {Q : Json → Prop} (hQ : Hereditary Q) {P : Table Json → Prop}
  (hobj : ∀ fields, Q (.obj fields) → P fields) (hnil : P [])
include hobj hnil

theorem ensures_readLooseMapping : Ensures Q readLooseMapping P := by
  intro v hv details h
  cases h
  cases v with
  | obj fields => exact hobj fields hv
  | _ => exact hnil

include hQ

theorem ensures_readConfig : Ensures Q readConfig fun config => P config.details := by
  refine Ensures.record fun fields hfields config h => ?_
  simp only [andThen_eq_ok_iff, map_eq_ok_iff] at h
  obtain ⟨_, details, ⟨_, _, ⟨_, _, ⟨_, _, ⟨_, -, rfl⟩, -, rfl⟩, -, rfl⟩, -, rfl⟩, hdetails, rfl⟩ :=
    h
  exact (ensures_readLooseMapping hobj hnil).fieldOr hQ hfields hnil hdetails

theorem ensures_readNode : Ensures Q readNode fun n => P n.details := by
  refine Ensures.record fun fields hfields n h => ?_
  simp only [andThen_eq_ok_iff, map_eq_ok_iff] at h
  obtain ⟨_, config, ⟨_, _, ⟨_, _, ⟨_, _, ⟨_, -, rfl⟩, -, rfl⟩, -, rfl⟩, -, rfl⟩, hconfig, rfl⟩ := h
  have hdetails : ∀ c ∈ config, P c.details :=
    (ensures_readConfig hQ hobj hnil).optional.fieldOr hQ hfields (by simp) hconfig
  cases config with
  | none => exact hnil
  | some c => exact hdetails c rfl

theorem ensures_readEdge : Ensures Q readEdge fun e => P e.props := by
  refine Ensures.record fun fields hfields e h => ?_
  simp only [andThen_eq_ok_iff, map_eq_ok_iff] at h
  obtain ⟨_, props, ⟨_, _, ⟨_, -, rfl⟩, -, rfl⟩, hprops, rfl⟩ := h
  exact (ensures_readLooseMapping hobj hnil).fieldOr hQ hfields hnil hprops

theorem ensures_readGraph : Ensures Q readGraph fun g =>
    (∀ n ∈ g.nodes, P n.details) ∧ ∀ e ∈ g.edges, P e.props := by
  refine Ensures.record fun fields hfields g h => ?_
  simp only [andThen_eq_ok_iff, map_eq_ok_iff] at h
  obtain ⟨_, edges, ⟨nodes, hnodes, rfl⟩, hedges, rfl⟩ := h
  have hnodeList := (ensures_readNode hQ hobj hnil).list hQ
  have hedgeList := (ensures_readEdge hQ hobj hnil).list hQ
  exact ⟨hnodeList.fieldOr hQ hfields (List.forall_mem_nil _) hnodes,
    hedgeList.fieldOr hQ hfields (List.forall_mem_nil _) hedges⟩

end Tables

/-- Every graph that a text holds has distinct details. -/
theorem hasDistinctDetails_of_ofText? {s : String} {v : Json} {g : Graph}
    (hv : Document.ofText? s = some v) (hg : readGraph v = .ok g) : g.HasDistinctDetails := by
  have hensures : Ensures (fun v => v.WellFormed) readGraph fun g =>
      (∀ n ∈ g.nodes, n.details.keys.Nodup) ∧ ∀ e ∈ g.edges, e.props.keys.Nodup :=
    ensures_readGraph Document.hereditary_wellFormed (fun _ h => h.1) List.nodup_nil
  exact (hensures v (Document.wellFormed_of_ofText? hv) g hg).1

end Canvas

end CloudCanvas
