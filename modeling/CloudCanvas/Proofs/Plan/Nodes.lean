import CloudCanvas.Proofs.Plan.Names
import Mathlib.Data.List.Forall2

/-!
The nodes of a built plan. Each canvas node gives one plan node in its place, which has the id of
the canvas node, the plan type of its visual type and its details. Beside the details only a label
and a region are put, and where the user entered either, it is the user's that counts.
-/

namespace CloudCanvas

theorem forall₂_filterMap {α β : Type} {f : α → Option β} {r : α → β → Prop} {l : List α}
    (h : ∀ a ∈ l, ∃ b, f a = some b ∧ r a b) : List.Forall₂ r l (l.filterMap f) := by
  induction l with
  | nil => exact .nil
  | cons a rest ih =>
    obtain ⟨b, hb, hr⟩ := h a List.mem_cons_self
    rw [List.filterMap_cons_some hb]
    exact .cons hr (ih fun a' ha => h a' (List.mem_cons_of_mem a ha))

section Congruence

variable {α β γ : Type} {r : α → β → Prop} {a : List α} {b : List β}

theorem map_eq_map_of_forall₂ (h : List.Forall₂ r a b) {f : α → γ} {g : β → γ}
    (hfg : ∀ x y, r x y → f x = g y) : a.map f = b.map g := by
  induction h with
  | nil => rfl
  | cons hxy _ ih => rw [List.map_cons, List.map_cons, hfg _ _ hxy, ih]

theorem mapIdx_eq_mapIdx_of_forall₂ (h : List.Forall₂ r a b) {f : Nat → α → γ} {g : Nat → β → γ}
    (hfg : ∀ place x y, r x y → f place x = g place y) : a.mapIdx f = b.mapIdx g := by
  induction h generalizing f g with
  | nil => rfl
  | cons hxy _ ih =>
    rw [List.mapIdx_cons, List.mapIdx_cons, hfg 0 _ _ hxy, ih fun place => hfg (place + 1)]

end Congruence

/-- Lists that agree on what is searched for are searched up to the same place. -/
theorem rel_find? {α β : Type} {r : α → β → Prop} {a : List α} {b : List β}
    (h : List.Forall₂ r a b) {sought : α → Bool} {sought' : β → Bool}
    (hsought : ∀ x y, r x y → sought x = sought' y) :
    Option.Rel r (a.find? sought) (b.find? sought') := by
  induction h with
  | nil => exact .none
  | @cons x y _ _ hxy _ ih =>
    rw [List.find?_cons, List.find?_cons, hsought x y hxy]
    cases sought' y
    · exact ih
    · exact .some hxy

/-- No detail is named twice, as in every object of a document. -/
def Canvas.Node.HasDistinctDetails (n : Canvas.Node) : Prop :=
  n.details.keys.Nodup

def Canvas.Graph.HasDistinctDetails (g : Canvas.Graph) : Prop :=
  ∀ n ∈ g.nodes, n.HasDistinctDetails

instance : DecidablePred Canvas.Node.HasDistinctDetails :=
  fun n => inferInstanceAs (Decidable n.details.keys.Nodup)

instance : DecidablePred Canvas.Graph.HasDistinctDetails :=
  fun g => inferInstanceAs (Decidable (∀ n ∈ g.nodes, n.HasDistinctDetails))

namespace Plan

open Canvas (Graph)

/-- Only the regions of its nodes decide on the region of a graph. -/
theorem firstRegion?_congr {nodes others : List Canvas.Node}
    (h : nodes.map ownRegion = others.map ownRegion) :
    firstRegion? nodes = firstRegion? others := by
  have hfound (nodes : List Canvas.Node) :
      firstRegion? nodes = (nodes.map ownRegion).find? (· ≠ "") := by
    rw [List.find?_map]
    rfl
  rw [hfound, hfound, h]

/-- The plan node stands for the canvas node. -/
structure Node.Shows (planned : Node) (n : Canvas.Node) : Prop where
  id : planned.id = n.id
  type : planned.type = VisualType.planType n.visualType
  props : planned.props = nodeProps n

theorem shows_nodeIn (place : Nat) (n : Canvas.Node) : (nodeIn place n).Shows n := by
  constructor <;> rw [nodeIn]

/-- The place of a node reaches its name only. -/
theorem shows_mapIdx_nodeIn (nodes : List Canvas.Node) :
    List.Forall₂ (fun n planned => planned.Shows n) nodes (nodes.mapIdx nodeIn) := by
  refine List.forall₂_iff_get.2 ⟨by simp, fun place hplace hplace' => ?_⟩
  rw [List.get_eq_getElem, List.get_eq_getElem, List.getElem_mapIdx]
  exact shows_nodeIn place _

theorem shows_buildFor (g : Graph) (p : Provider) :
    List.Forall₂ (fun n planned => planned.Shows n) g.nodes (buildFor g p).nodes := by
  rw [nodes_buildFor_eq]
  exact shows_mapIdx_nodeIn g.nodes

theorem exists_rel_of_mem {α β : Type} {r : α → β → Prop} {a : List α} {b : List β}
    (h : List.Forall₂ r a b) {x : α} (hx : x ∈ a) : ∃ y ∈ b, r x y := by
  induction h with
  | nil => cases hx
  | cons hxy _ ih =>
    rcases List.mem_cons.1 hx with rfl | hlater
    · exact ⟨_, List.mem_cons_self, hxy⟩
    · obtain ⟨y, hy, hxy⟩ := ih hlater
      exact ⟨y, List.mem_cons_of_mem _ hy, hxy⟩

theorem exists_shows_of_mem {g : Graph} {n : Canvas.Node} (h : n ∈ g.nodes) (p : Provider) :
    ∃ planned ∈ (buildFor g p).nodes, planned.Shows n :=
  exists_rel_of_mem (shows_buildFor g p) h

theorem exists_shown_of_mem {g : Graph} {p : Provider} {planned : Node}
    (h : planned ∈ (buildFor g p).nodes) : ∃ n ∈ g.nodes, planned.Shows n :=
  exists_rel_of_mem (shows_buildFor g p).flip h

/-- The plan node in a place is the same under every provider. -/
theorem exists_planned {g : Graph} {place : Nat} {n : Canvas.Node} (h : g.nodes[place]? = some n) :
    ∃ planned : Node, (∀ p, (buildFor g p).nodes[place]? = some planned) ∧ planned.Shows n := by
  refine ⟨nodeIn place n, fun p => ?_, shows_nodeIn place n⟩
  rw [nodes_buildFor_eq, List.getElem?_mapIdx, h, Option.map_some]

theorem exists_endpoint {g : Graph} {id : String} (h : id ∈ g.ids) (p : Provider) :
    ∃ n, endpoint? (buildFor g p).nodes id = some n := by
  rw [← Option.isSome_iff_exists, isSome_endpoint?_iff, ids_buildFor]
  exact h

theorem get?_nodeProps {n : Canvas.Node} (h : n.HasDistinctDetails) {key : String}
    (hlabel : key ≠ "label") (hregion : key ≠ "region") :
    (nodeProps n).get? key = n.details.get? key := by
  rw [nodeProps, Table.get?_merge _ _ h]
  simp [Table.get?, hlabel.symm, hregion.symm]

end Plan

end CloudCanvas
