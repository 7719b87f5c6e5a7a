import CloudCanvas.Proofs.Canvas.Rearranged
import CloudCanvas.Proofs.Plan.Nodes

/-!
Graphs that are alike give plans that are alike. Everything that is picked from a node is looked up
by its name: the region, the name and the properties do not depend on where a detail stands. An
edge takes the settings of a bucket over under names of their own, so they are left out of account.
-/

namespace CloudCanvas

open Document (AlikeFields)

/-- The same node, with properties in another order. -/
structure Plan.Node.Alike (n m : Plan.Node) : Prop where
  id : n.id = m.id
  type : n.type = m.type
  name : n.name = m.name
  props : AlikeFields n.props m.props

/-- The same edge, as far as its own properties go. -/
structure Plan.Edge.Alike (e f : Plan.Edge) : Prop where
  source : e.source = f.source
  target : e.target = f.target
  props : ∀ key ∉ Plan.storageKeys, e.props.get? key = f.props.get? key

structure Plan.Alike (a b : Plan) : Prop where
  region : a.region = b.region
  nodes : List.Forall₂ Plan.Node.Alike a.nodes b.nodes
  edges : List.Forall₂ Plan.Edge.Alike a.edges b.edges

namespace Canvas.Node.Alike

variable {n m : Canvas.Node} (h : n.Alike m)
include h

theorem details : AlikeFields n.details m.details := by
  have hconfig := h.config
  unfold Canvas.Node.details
  generalize n.config = c, m.config = d at hconfig ⊢
  cases hconfig with
  | none => exact .nil
  | some hcd => exact hcd.details

theorem detail (key : String) : (n.detail key).Alike (m.detail key) :=
  h.details.getField key

/-- What a configuration has in common with one that is alike, two nodes have in common. -/
theorem map_config {α : Type} {f : ServiceConfig → α} (hf : ∀ c d, c.Alike d → f c = f d) :
    n.config.map f = m.config.map f := by
  have hconfig := h.config
  generalize n.config = c, m.config = d at hconfig ⊢
  cases hconfig with
  | none => rfl
  | some hcd => exact congrArg some (hf _ _ hcd)

end Canvas.Node.Alike

namespace Plan

section Node

variable {n m : Canvas.Node} (h : n.Alike m)
include h

theorem ownRegion_eq : ownRegion n = ownRegion m := by
  have hdetail := (h.detail "region").strippedText
  have hconfig := h.config
  unfold ownRegion
  rw [hdetail]
  generalize n.config = c, m.config = d at hconfig ⊢
  cases hconfig with
  | none => rfl
  | some hcd => simp only [hcd.region]

theorem displayName_eq : displayName n = displayName m := by
  rw [displayName, displayName, h.map_config fun _ _ hcd => hcd.name, h.displayLabel, h.id]

theorem nameIn_eq (place : Nat) : nameIn place n = nameIn place m := by
  rw [nameIn, nameIn, displayName_eq h]

theorem alike_regionProp : (regionProp n).Alike (regionProp m) := by
  have hdetail := h.detail "region"
  unfold regionProp
  rw [h.map_config fun _ _ hcd => hcd.region, hdetail.truthy]
  dsimp only
  split_ifs
  · exact .scalar rfl
  · exact hdetail
  · exact .scalar rfl

theorem alike_nodeProps : AlikeFields (nodeProps n) (nodeProps m) := by
  have hown : AlikeFields [("label", .str n.displayLabel), ("region", regionProp n)]
      [("label", .str m.displayLabel), ("region", regionProp m)] := by
    refine .of_forall₂ (show ["label", "region"].Nodup by decide) ?_
    rw [h.displayLabel]
    exact .cons ⟨rfl, .scalar rfl⟩ (.cons ⟨rfl, alike_regionProp h⟩ .nil)
  exact hown.merge h.details

theorem alike_nodeIn (place : Nat) : (nodeIn place n).Alike (nodeIn place m) := by
  have hn := shows_nodeIn place n
  have hm := shows_nodeIn place m
  refine ⟨?_, ?_, ?_, ?_⟩
  · rw [hn.id, hm.id, h.id]
  · rw [hn.type, hm.type, h.visualType]
  · rw [name_nodeIn, name_nodeIn, nameIn_eq h]
  · rw [hn.props, hm.props]
    exact alike_nodeProps h

end Node

theorem firstRegion?_eq {nodes others : List Canvas.Node}
    (h : List.Forall₂ Canvas.Node.Alike nodes others) :
    firstRegion? nodes = firstRegion? others :=
  firstRegion?_congr (map_eq_map_of_forall₂ h fun _ _ => ownRegion_eq)

theorem alike_nodes_buildFor {g g' : Canvas.Graph} (h : g.Alike g') (p : Provider) :
    List.Forall₂ Node.Alike (buildFor g p).nodes (buildFor g' p).nodes := by
  obtain ⟨hlength, hat⟩ := List.forall₂_iff_get.1 h.nodes
  rw [nodes_buildFor_eq, nodes_buildFor_eq]
  refine List.forall₂_iff_get.2 ⟨by simp [hlength], fun place hplace hplace' => ?_⟩
  simp only [List.get_eq_getElem, List.getElem_mapIdx]
  rw [List.length_mapIdx] at hplace hplace'
  exact alike_nodeIn (hat place hplace hplace') place

theorem rel_endpoint? {a b : List Node} (h : List.Forall₂ Node.Alike a b) (id : String) :
    Option.Rel Node.Alike (endpoint? a id) (endpoint? b id) := by
  have hreverse : List.Forall₂ Node.Alike a.reverse b.reverse := List.rel_reverse h
  exact rel_find? hreverse fun n m hnm => by rw [hnm.id]

theorem get?_withStorage (n : Node) (props : Table Json) {key : String} (hkey : key ∉ storageKeys) :
    (withStorage n props).get? key = props.get? key := by
  simp only [storageKeys, List.mem_cons, List.not_mem_nil, or_false, not_or] at hkey
  obtain ⟨hfirst, hlast⟩ := hkey
  simp [withStorage, storageKeys, Table.get?_setDefault, Ne.symm hfirst, Ne.symm hlast]

theorem get?_edgeProps (source target : Node) (props : Table Json) {key : String}
    (hkey : key ∉ storageKeys) : (edgeProps source target props).get? key = props.get? key := by
  unfold edgeProps
  split_ifs
  · exact get?_withStorage source props hkey
  · exact get?_withStorage target props hkey
  · rfl

theorem rel_ofEdge? {nodes others : List Node} (h : List.Forall₂ Node.Alike nodes others)
    {e f : Canvas.Edge} (hef : e.Alike f) :
    Option.Rel Edge.Alike (ofEdge? nodes e) (ofEdge? others f) := by
  have hsource := rel_endpoint? h e.source
  have htarget := rel_endpoint? h e.target
  unfold ofEdge?
  rw [← hef.source, ← hef.target]
  generalize endpoint? nodes e.source = s, endpoint? others e.source = s' at hsource ⊢
  generalize endpoint? nodes e.target = t, endpoint? others e.target = t' at htarget ⊢
  cases hsource with
  | none => exact .none
  | some hs =>
    cases htarget with
    | none => exact .none
    | some ht =>
      refine .some ⟨hs.id, ht.id, fun key hkey => ?_⟩
      rw [get?_edgeProps _ _ _ hkey, get?_edgeProps _ _ _ hkey, hef.props key]

theorem alike_filterMap_ofEdge? {nodes others : List Node}
    (h : List.Forall₂ Node.Alike nodes others) {edges edges' : List Canvas.Edge}
    (hedges : List.Forall₂ Canvas.Edge.Alike edges edges') :
    List.Forall₂ Edge.Alike (edges.filterMap (ofEdge? nodes))
      (edges'.filterMap (ofEdge? others)) := by
  induction hedges with
  | nil => exact .nil
  | @cons e f _ _ hef _ ih =>
    have hmade := rel_ofEdge? h hef
    rw [List.filterMap_cons, List.filterMap_cons]
    generalize ofEdge? nodes e = made, ofEdge? others f = made' at hmade ⊢
    cases hmade with
    | none => exact ih
    | some hmade => exact .cons hmade ih

theorem alike_buildFor {g g' : Canvas.Graph} (h : g.Alike g') (p : Provider) :
    (buildFor g p).Alike (buildFor g' p) := by
  have hnodes := alike_nodes_buildFor h p
  refine ⟨?_, hnodes, alike_filterMap_ofEdge? hnodes h.edges⟩
  simp only [buildFor, buildIn, firstRegion?_eq h.nodes]

end Plan

end CloudCanvas
