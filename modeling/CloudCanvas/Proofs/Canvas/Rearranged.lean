import CloudCanvas.Canvas.Reader
import CloudCanvas.Proofs.Document.Alike

/-!
Canvas documents whose fields come in another order. A field is found by its spellings, in the
order in which they are declared, so such documents are read as the same graph, but for the order
of fields within details and at the top of the properties of an edge. Within the properties of an
edge the order counts at every depth below, because it shows in the texts that are made of them.
-/

namespace CloudCanvas

namespace Document

/-- Two objects with the same names and with values that are related, in any order; or one document
that is no object. -/
inductive Rearranged (R : String → Json → Json → Prop) : Json → Json → Prop
  | same {v : Json} (h : v.fields? = none) : Rearranged R v v
  | obj {a b : Table Json} (h : Table.Matches R a b) : Rearranged R (.obj a) (.obj b)

/-- Two lists with items that are related, in their order; or one document that is no list. -/
inductive Itemwise (R : Json → Json → Prop) : Json → Json → Prop
  | same {v : Json} (h : ∀ items, v ≠ .arr items) : Itemwise R v v
  | arr {a b : List Json} (h : List.Forall₂ R a b) : Itemwise R (.arr a) (.arr b)

theorem Alike.forall₂ {a b : List Json} (h : Alike (.arr a) (.arr b)) :
    List.Forall₂ Alike a b := by
  cases h with
  | scalar h => cases h
  | arr hlength hitems =>
    refine List.forall₂_iff_get.2 ⟨hlength, fun i hi hi' => ?_⟩
    exact hitems i _ _ (List.getElem?_eq_getElem hi) (List.getElem?_eq_getElem hi')

end Document

open Document (Alike AlikeFields Rearranged Itemwise)

namespace Reading

variable {α : Type}

/-- What is read from one document is read from the other, up to the relation. -/
def Carries (S : Json → Json → Prop) (read : Json → Reading α) (R : α → α → Prop) : Prop :=
  ∀ v w, S v w → ∀ a, read v = .ok a → ∃ b, read w = .ok b ∧ R a b

variable {read : Json → Reading α} {R : α → α → Prop}

/-- Only containers have an order in which documents that are alike may differ. -/
theorem carries_of_scalar (h : ∀ v a, read v = .ok a → v.isScalar = true) :
    Carries Alike read Eq := by
  intro v w hvw a ha
  obtain rfl := hvw.eq_of_isScalar (h v a ha)
  exact ⟨a, ha, rfl⟩

theorem rel_firstPresent? {S : String → Json → Json → Prop} {a b : Table Json}
    (h : Table.Matches S a b) (keys : List String) :
    (firstPresent? a keys = none ∧ firstPresent? b keys = none) ∨
      ∃ key ∈ keys, ∃ v w, firstPresent? a keys = some (key, v) ∧
        firstPresent? b keys = some (key, w) ∧ S key v w := by
  induction keys with
  | nil => exact .inl ⟨rfl, rfl⟩
  | cons key rest ih =>
    have hkey := h.get? key
    rw [firstPresent?, firstPresent?]
    generalize a.get? key = v, b.get? key = w at hkey ⊢
    cases hkey with
    | some hvw => exact .inr ⟨key, List.mem_cons_self, _, _, rfl, rfl, hvw⟩
    | none =>
      rcases ih with hnone | ⟨other, hmem, v, w, hv, hw, hvw⟩
      · exact .inl hnone
      · exact .inr ⟨other, List.mem_cons_of_mem key hmem, v, w, hv, hw, hvw⟩

theorem Carries.under {S : Json → Json → Prop} (h : Carries S read R) {place : Step}
    {v w : Json} (hvw : S v w) {x : α} (hx : under place (read v) = .ok x) :
    ∃ y, under place (read w) = .ok y ∧ R x y := by
  obtain ⟨y, hy, hxy⟩ := h v w hvw x (under_eq_ok_iff.1 hx)
  exact ⟨y, under_eq_ok_iff.2 hy, hxy⟩

section Fields

variable {S : String → Json → Json → Prop} {a b : Table Json} (h : Table.Matches S a b)
  {keys : List String} (hread : ∀ key ∈ keys, Carries (S key) read R)
include h hread

theorem carries_fieldOr {absent x : α} (habsent : R absent absent)
    (hx : fieldOr a keys absent read = .ok x) :
    ∃ y, fieldOr b keys absent read = .ok y ∧ R x y := by
  unfold fieldOr at hx ⊢
  rcases rel_firstPresent? h keys with ⟨ha, hb⟩ | ⟨key, hmem, v, w, ha, hb, hvw⟩
  · rw [ha] at hx
    cases hx
    rw [hb]
    exact ⟨absent, rfl, habsent⟩
  · rw [ha] at hx
    rw [hb]
    exact (hread key hmem).under hvw hx

theorem carries_field {x : α} (hx : field a keys read = .ok x) :
    ∃ y, field b keys read = .ok y ∧ R x y := by
  unfold field at hx ⊢
  rcases rel_firstPresent? h keys with ⟨ha, -⟩ | ⟨key, hmem, v, w, ha, hb, hvw⟩
  · rw [ha] at hx
    cases hx
  · rw [ha] at hx
    rw [hb]
    exact (hread key hmem).under hvw hx

end Fields

section Combinators

theorem Carries.record {S : String → Json → Json → Prop} {model : String}
    {readFields : Table Json → Reading α}
    (h : ∀ a b, Table.Matches S a b → ∀ x, readFields a = .ok x →
      ∃ y, readFields b = .ok y ∧ R x y) :
    Carries (Rearranged S) (record model readFields) R := by
  intro v w hvw x hx
  cases hvw with
  | same hnone =>
    cases v with
    | obj fields => cases hnone
    | _ => cases hx
  | obj hab => exact h _ _ hab x hx

theorem Carries.recordAlike {model : String} {readFields : Table Json → Reading α}
    (h : ∀ a b, AlikeFields a b → ∀ x, readFields a = .ok x → ∃ y, readFields b = .ok y ∧ R x y) :
    Carries Alike (Reading.record model readFields) R := by
  intro v w hvw x hx
  cases v with
  | obj a =>
    cases hvw with
    | scalar hscalar => cases hscalar
    | obj ha hb hkeys hfields =>
      exact h _ _ (Document.alike_obj_iff.1 (.obj ha hb hkeys hfields)) x hx
  | _ => cases hx

theorem optional_of_ne {v : Json} (h : v ≠ .null) : optional read v = (read v).map some := by
  cases v with
  | null => exact absurd rfl h
  | _ => rfl

theorem Carries.optional (h : Carries Alike read R) :
    Carries Alike (optional read) (Option.Rel R) := by
  intro v w hvw o ho
  by_cases hv : v = .null
  · obtain rfl := hvw.eq_of_isScalar (hv ▸ rfl)
    subst hv
    cases ho
    exact ⟨none, rfl, .none⟩
  · -- null is like nothing else, so the other document is not null either
    have hw : w ≠ .null := by
      intro hw
      exact hv ((hvw.symm.eq_of_isScalar (hw ▸ rfl)).symm.trans hw)
    rw [optional_of_ne hv] at ho
    obtain ⟨a, ha, rfl⟩ := map_eq_ok_iff.1 ho
    obtain ⟨b, hb, hab⟩ := h v w hvw a ha
    rw [optional_of_ne hw]
    exact ⟨some b, map_eq_ok_iff.2 ⟨b, hb, rfl⟩, .some hab⟩

theorem carries_itemsFrom {S : Json → Json → Prop} (h : Carries S read R) (n : Nat)
    {items others : List Json} (hitems : List.Forall₂ S items others) {as : List α}
    (has : itemsFrom read n items = .ok as) :
    ∃ bs, itemsFrom read n others = .ok bs ∧ List.Forall₂ R as bs := by
  induction hitems generalizing n as with
  | nil =>
    cases has
    exact ⟨[], rfl, .nil⟩
  | cons hvw _ ih =>
    obtain ⟨a, more, ha, hmore, rfl⟩ := both_eq_ok_iff.1 has
    obtain ⟨b, hb, hab⟩ := h _ _ hvw a (under_eq_ok_iff.1 ha)
    obtain ⟨bs, hbs, hrest⟩ := ih (n + 1) hmore
    exact ⟨b :: bs, both_eq_ok_iff.2 ⟨b, bs, under_eq_ok_iff.2 hb, hbs, rfl⟩, .cons hab hrest⟩

theorem Carries.list {S : Json → Json → Prop} (h : Carries S read R) :
    Carries (Itemwise S) (list read) (List.Forall₂ R) := by
  intro v w hvw as has
  cases hvw with
  | same hno =>
    cases v with
    | arr items => exact absurd rfl (hno items)
    | _ => cases has
  | arr hitems => exact carries_itemsFrom h 0 hitems has

theorem Carries.listAlike (h : Carries Alike read R) :
    Carries Alike (Reading.list read) (List.Forall₂ R) := by
  intro v w hvw as has
  cases v with
  | arr items =>
    cases hvw with
    | scalar hscalar => cases hscalar
    | arr hlength hitems => exact carries_itemsFrom h 0 (Alike.forall₂ (.arr hlength hitems)) has
  | _ => cases has

end Combinators

end Reading

namespace Canvas

open Reading

/-- The same configuration, with details in another order. -/
structure ServiceConfig.Alike (c d : ServiceConfig) : Prop where
  name : c.name = d.name
  description : c.description = d.description
  environment : c.environment = d.environment
  region : c.region = d.region
  details : AlikeFields c.details d.details

structure Node.Alike (n m : Node) : Prop where
  id : n.id = m.id
  visualType : n.visualType = m.visualType
  displayLabel : n.displayLabel = m.displayLabel
  position : n.position = m.position
  config : Option.Rel ServiceConfig.Alike n.config m.config

/-- The same edge, with properties that stand in another order and are the same otherwise. -/
structure Edge.Alike (e f : Edge) : Prop where
  source : e.source = f.source
  target : e.target = f.target
  props : ∀ key, e.props.get? key = f.props.get? key

structure Graph.Alike (g h : Graph) : Prop where
  nodes : List.Forall₂ Node.Alike g.nodes h.nodes
  edges : List.Forall₂ Edge.Alike g.edges h.edges

/-- Documents of an edge: the order of fields may differ in the edge and, within its properties, at
the top. -/
def AlikeEdge : Json → Json → Prop :=
  Rearranged fun key => if key ∈ edgePropsKeys then Rearranged fun _ => Eq else Document.Alike

/-- Documents of a graph: the order of fields may differ everywhere but below the top of the
properties of an edge. -/
def AlikeGraph : Json → Json → Prop :=
  Rearranged fun key => if key = "edges" then Itemwise AlikeEdge else Document.Alike

theorem carries_text : Carries Document.Alike Reading.text Eq :=
  carries_of_scalar fun v s h => by
    cases v with
    | str s => rfl
    | _ => cases h

theorem carries_readTextOrNull : Carries Document.Alike readTextOrNull Eq :=
  carries_of_scalar fun v s h => by
    cases v with
    | null => rfl
    | str s => rfl
    | _ => cases h

theorem carries_readCoordinate : Carries Document.Alike readCoordinate Eq :=
  carries_of_scalar fun v x h => by
    cases v with
    | arr items => cases h
    | obj fields => cases h
    | _ => rfl

theorem carries_readEnvironment : Carries Document.Alike readEnvironment Eq :=
  carries_of_scalar fun v e h => by
    cases v with
    | str s => rfl
    | _ => cases h

theorem carries_readLooseMapping : Carries Document.Alike readLooseMapping AlikeFields := by
  intro v w hvw details h
  cases h
  exact ⟨w.fieldsOrEmpty, rfl, hvw.fieldsOrEmpty⟩

theorem carries_readLooseMapping_rearranged : Carries (Rearranged fun _ => Eq) readLooseMapping
    fun a b => ∀ key, a.get? key = b.get? key := by
  intro v w hvw props h
  cases h
  refine ⟨w.fieldsOrEmpty, rfl, fun key => ?_⟩
  cases hvw with
  | same _ => rfl
  | @obj a b hab =>
    have hkey := hab.get? key
    change a.get? key = b.get? key
    generalize a.get? key = v, b.get? key = w at hkey ⊢
    cases hkey with
    | none => rfl
    | some hvw => rw [hvw]

theorem carries_readPosition : Carries Document.Alike readPosition Eq := by
  refine Carries.recordAlike fun a b hab position h => ?_
  simp only [andThen_eq_ok_iff, map_eq_ok_iff] at h
  obtain ⟨_, y, ⟨x, hx, rfl⟩, hy, rfl⟩ := h
  obtain ⟨x', hx', rfl⟩ := carries_fieldOr hab (fun _ _ => carries_readCoordinate) rfl hx
  obtain ⟨y', hy', rfl⟩ := carries_fieldOr hab (fun _ _ => carries_readCoordinate) rfl hy
  refine ⟨⟨x, y⟩, ?_, rfl⟩
  rw [hx', hy']
  rfl

theorem carries_readConfig : Carries Document.Alike readConfig ServiceConfig.Alike := by
  refine Carries.recordAlike fun a b hab config h => ?_
  simp only [andThen_eq_ok_iff, map_eq_ok_iff] at h
  obtain ⟨_, details, ⟨_, region, ⟨_, environment, ⟨_, description, ⟨name, hname, rfl⟩,
    hdescription, rfl⟩, henvironment, rfl⟩, hregion, rfl⟩, hdetails, rfl⟩ := h
  obtain ⟨name, hname', rfl⟩ := carries_fieldOr hab (fun _ _ => carries_readTextOrNull) rfl hname
  obtain ⟨description, hdescription', rfl⟩ :=
    carries_fieldOr hab (fun _ _ => carries_readTextOrNull) rfl hdescription
  obtain ⟨environment, henvironment', rfl⟩ :=
    carries_fieldOr hab (fun _ _ => carries_readEnvironment) rfl henvironment
  obtain ⟨region, hregion', rfl⟩ :=
    carries_fieldOr hab (fun _ _ => carries_readTextOrNull) rfl hregion
  obtain ⟨details', hdetails', halike⟩ :=
    carries_fieldOr hab (fun _ _ => carries_readLooseMapping) .nil hdetails
  refine ⟨⟨name, description, environment, region, details'⟩, ?_, ⟨rfl, rfl, rfl, rfl, halike⟩⟩
  rw [hname', hdescription', henvironment', hregion', hdetails']
  rfl

theorem carries_readNode : Carries Document.Alike readNode Node.Alike := by
  refine Carries.recordAlike fun a b hab n h => ?_
  simp only [andThen_eq_ok_iff, map_eq_ok_iff] at h
  obtain ⟨_, config, ⟨_, position, ⟨_, displayLabel, ⟨_, visualType, ⟨id, hid, rfl⟩,
    hvisualType, rfl⟩, hdisplayLabel, rfl⟩, hposition, rfl⟩, hconfig, rfl⟩ := h
  obtain ⟨id, hid', rfl⟩ := carries_field hab (fun _ _ => carries_text) hid
  obtain ⟨visualType, hvisualType', rfl⟩ :=
    carries_field hab (fun _ _ => carries_text) hvisualType
  obtain ⟨displayLabel, hdisplayLabel', rfl⟩ :=
    carries_fieldOr hab (fun _ _ => carries_text) rfl hdisplayLabel
  obtain ⟨position, hposition', rfl⟩ :=
    carries_fieldOr hab (fun _ _ => carries_readPosition) rfl hposition
  obtain ⟨config', hconfig', halike⟩ :=
    carries_fieldOr hab (fun _ _ => carries_readConfig.optional) .none hconfig
  refine ⟨⟨id, visualType, displayLabel, position, config'⟩, ?_, ⟨rfl, rfl, rfl, rfl, halike⟩⟩
  rw [hid', hvisualType', hdisplayLabel', hposition', hconfig']
  rfl

theorem carries_readEdge : Carries AlikeEdge readEdge Edge.Alike := by
  refine Carries.record fun a b hab e h => ?_
  simp only [andThen_eq_ok_iff, map_eq_ok_iff] at h
  obtain ⟨_, props, ⟨_, target, ⟨source, hsource, rfl⟩, htarget, rfl⟩, hprops, rfl⟩ := h
  have htext {keys : List String} (hkeys : ∀ key ∈ keys, key ∉ edgePropsKeys) :
      ∀ key ∈ keys, Carries (if key ∈ edgePropsKeys then Rearranged fun _ => Eq
        else Document.Alike) Reading.text Eq := by
    intro key hkey
    rw [if_neg (hkeys key hkey)]
    exact carries_text
  obtain ⟨source, hsource', rfl⟩ := carries_field hab (htext (by decide)) hsource
  obtain ⟨target, htarget', rfl⟩ := carries_field hab (htext (by decide)) htarget
  have hmapping : ∀ key ∈ edgePropsKeys, Carries (if key ∈ edgePropsKeys then
      Rearranged fun _ => Eq else Document.Alike) readLooseMapping
        fun a b => ∀ key, a.get? key = b.get? key := by
    intro key hkey
    rw [if_pos hkey]
    exact carries_readLooseMapping_rearranged
  obtain ⟨props', hprops', halike⟩ := carries_fieldOr hab hmapping (fun _ => rfl) hprops
  refine ⟨⟨source, target, props'⟩, ?_, ⟨rfl, rfl, halike⟩⟩
  rw [hsource', htarget', hprops']
  rfl

/-- What is accepted in one order of fields is accepted in every other, and reads as a graph that
is alike. -/
theorem carries_readGraph : Carries AlikeGraph readGraph Graph.Alike := by
  refine Carries.record fun a b hab g h => ?_
  simp only [andThen_eq_ok_iff, map_eq_ok_iff] at h
  obtain ⟨_, edges, ⟨nodes, hnodes, rfl⟩, hedges, rfl⟩ := h
  have hreadNodes : ∀ key ∈ ["nodes"], Carries (if key = "edges" then Itemwise AlikeEdge
      else Document.Alike) (Reading.list readNode) (List.Forall₂ Node.Alike) := by
    intro key hkey
    obtain rfl := List.mem_singleton.1 hkey
    exact carries_readNode.listAlike
  have hreadEdges : ∀ key ∈ ["edges"], Carries (if key = "edges" then Itemwise AlikeEdge
      else Document.Alike) (Reading.list readEdge) (List.Forall₂ Edge.Alike) := by
    intro key hkey
    rw [if_pos (List.mem_singleton.1 hkey)]
    exact carries_readEdge.list
  obtain ⟨nodes', hnodes', halikeNodes⟩ := carries_fieldOr hab hreadNodes .nil hnodes
  obtain ⟨edges', hedges', halikeEdges⟩ := carries_fieldOr hab hreadEdges .nil hedges
  refine ⟨⟨nodes', edges'⟩, ?_, ⟨halikeNodes, halikeEdges⟩⟩
  rw [hnodes', hedges']
  rfl

end Canvas

end CloudCanvas
