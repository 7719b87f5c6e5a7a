import CloudCanvas.Canvas.Reader
import CloudCanvas.Proofs.Plan.Build
import Mathlib.Data.List.Infix
import Mathlib.Data.List.Pairwise

/-!
Nodes of a plan by their ids. A reader of the plan is given the first node of an id, while edges
belong to the last one. The type of an edge names the types of its last nodes, and it gives both of
them away. So the reader finds other types at its ends than it names just when the first and the
last node of an id are of two types; where no id repeats, there is one node to find.
-/

namespace CloudCanvas

section Key

variable {α κ : Type} [DecidableEq κ] {key : α → κ} {l l' : List α} (h : l.Perm l')
  (hkeys : (l.map key).Nodup)
include h hkeys

/-- At most one item has a key, so there is nothing to put in order. -/
theorem filter_key_of_perm (k : κ) : l.filter (key · = k) = l'.filter (key · = k) := by
  have hapart : l.Pairwise fun a b => key a ≠ key b := List.pairwise_map.1 hkeys
  have hapart' : l'.Pairwise fun a b => key a ≠ key b :=
    List.pairwise_map.1 ((h.map key).nodup_iff.1 hkeys)
  refine List.Perm.eq_of_pairwise (fun a b ha hb hne _ => absurd ?_ hne)
    (hapart.filter _) (hapart'.filter _) (h.filter _)
  have hak : key a = k := by simpa using (List.mem_filter.1 ha).2
  have hbk : key b = k := by simpa using (List.mem_filter.1 hb).2
  exact hak.trans hbk.symm

theorem find?_key_of_perm (k : κ) : l.find? (key · = k) = l'.find? (key · = k) := by
  rw [← List.head?_filter, ← List.head?_filter, filter_key_of_perm h hkeys]

end Key

namespace PlanType

/-- What the type of an edge begins with. -/
def fromText (t : PlanType) : String :=
  t.name ++ "_to_"

/-- No type is named by the beginning of another one, up to the word behind it. -/
theorem eq_of_isPrefix_fromText {t u : PlanType} (h : t.fromText.toList <+: u.fromText.toList) :
    t = u := by
  have hall : ∀ t ∈ all, ∀ u ∈ all, t.fromText.toList <+: u.fromText.toList → t = u := by
    decide +kernel
  exact hall t (mem_all t) u (mem_all u) h

theorem name_injective {t u : PlanType} (h : t.name = u.name) : t = u := by
  have hu := ofName?_eq_some_iff.2 h.symm
  rw [ofName?_eq_some_iff.2 rfl] at hu
  exact Option.some.inj hu

/-- The two words on which the types of both texts begin agree as far as the shorter one goes. -/
theorem fromText_append_inj {s t u v : PlanType}
    (h : s.fromText ++ t.name = u.fromText ++ v.name) : s = u ∧ t = v := by
  have hchars : s.fromText.toList ++ t.name.toList = u.fromText.toList ++ v.name.toList := by
    rw [← String.toList_append, h, String.toList_append]
  have hsource : s = u := by
    have hs : s.fromText.toList <+: u.fromText.toList ++ v.name.toList :=
      hchars ▸ List.prefix_append _ _
    rcases List.prefix_or_prefix_of_prefix hs (List.prefix_append _ _) with hshort | hlong
    · exact eq_of_isPrefix_fromText hshort
    · exact (eq_of_isPrefix_fromText hlong).symm
  subst hsource
  exact ⟨rfl, name_injective (String.toList_inj.1 (List.append_cancel_left hchars))⟩

end PlanType

namespace Plan

open Canvas (Graph)

/-- No node behind this one has the id. -/
def IsLast (nodes : List Node) (id : String) (n : Node) : Prop :=
  ∃ before after, nodes = before ++ n :: after ∧ n.id = id ∧ ∀ m ∈ after, m.id ≠ id

theorem endpoint?_eq_some_iff (nodes : List Node) (id : String) (n : Node) :
    endpoint? nodes id = some n ↔ IsLast nodes id n := by
  simp only [endpoint?, IsLast, List.find?_eq_some_iff_append, decide_eq_true_eq, Bool.not_eq_true',
    decide_eq_false_iff_not]
  constructor
  · rintro ⟨hid, after, before, hnodes, hafter⟩
    refine ⟨before.reverse, after.reverse, ?_, hid, fun m hm => hafter m (List.mem_reverse.1 hm)⟩
    rw [← List.reverse_reverse nodes, hnodes, List.reverse_append, List.reverse_cons,
      List.append_assoc, List.singleton_append]
  · rintro ⟨before, after, rfl, hid, hafter⟩
    refine ⟨hid, after.reverse, before.reverse, ?_, fun m hm => hafter m (List.mem_reverse.1 hm)⟩
    rw [List.reverse_append, List.reverse_cons, List.append_assoc, List.singleton_append]

theorem IsLast.mem {nodes : List Node} {id : String} {n : Node} (h : IsLast nodes id n) :
    n ∈ nodes ∧ n.id = id :=
  mem_of_endpoint? ((endpoint?_eq_some_iff nodes id n).2 h)

/-- A reader finds some node where there is a last one. -/
theorem IsLast.exists_node? {plan : Plan} {id : String} {n : Node} (h : IsLast plan.nodes id n) :
    ∃ first, plan.node? id = some first := by
  obtain ⟨hn, hid⟩ := h.mem
  rw [← Option.isSome_iff_exists, node?, List.find?_isSome]
  exact ⟨n, hn, decide_eq_true hid⟩

/-- An edge of a plan is made of the last nodes of its ids. -/
theorem exists_isLast_of_mem_edges {g : Graph} {provider : Json} {plan : Plan}
    (h : build g provider = .ok plan) {e : Edge} (he : e ∈ plan.edges) :
    ∃ source target, IsLast plan.nodes e.source source ∧ IsLast plan.nodes e.target target ∧
      e.type = source.type.fromText ++ target.type.name := by
  obtain ⟨region, rfl⟩ := exists_region_of_build h
  obtain ⟨drawn, -, hmade⟩ := List.mem_filterMap.1 he
  unfold ofEdge? at hmade
  split at hmade
  · next source target hsource htarget =>
    cases hmade
    refine ⟨source, target, ?_, ?_, rfl⟩
    · rw [← endpoint?_eq_some_iff, (mem_of_endpoint? hsource).2]
      exact hsource
    · rw [← endpoint?_eq_some_iff, (mem_of_endpoint? htarget).2]
      exact htarget
  · cases hmade

theorem ids_of_build {g : Graph} {provider : Json} {plan : Plan}
    (h : build g provider = .ok plan) : plan.nodes.map (·.id) = g.ids := by
  obtain ⟨region, rfl⟩ := exists_region_of_build h
  exact ids_ofNodesFrom 0 0 g.nodes

/-- The first and the last node of an id are one where no id repeats. -/
theorem IsLast.eq_of_nodup {plan : Plan} {id : String} {first last : Node}
    (hlast : IsLast plan.nodes id last) (h : (plan.nodes.map (·.id)).Nodup)
    (hfirst : plan.node? id = some first) : first = last := by
  have hsame : plan.node? id = endpoint? plan.nodes id :=
    find?_key_of_perm (List.reverse_perm _).symm h id
  rw [hsame, (endpoint?_eq_some_iff _ _ _).2 hlast] at hfirst
  exact (Option.some.inj hfirst).symm

/-- A reader finds a node at either end of an edge. The type of the edge is that of the last nodes
of its ids; it names the types of the nodes that the reader finds just when these are of the types
of the last ones, as they are where no id repeats. -/
theorem edge_type_iff (g : Graph) (provider : Json) (plan : Plan)
    (h : build g provider = .ok plan) :
    ∀ e ∈ plan.edges, ∃ s t source target,
      plan.node? e.source = some s ∧ plan.node? e.target = some t ∧
      IsLast plan.nodes e.source source ∧ IsLast plan.nodes e.target target ∧
      e.type = source.type.name ++ "_to_" ++ target.type.name ∧
      (e.type = s.type.name ++ "_to_" ++ t.type.name ↔
        s.type = source.type ∧ t.type = target.type) ∧
      (g.ids.Nodup → s = source ∧ t = target) := by
  intro e he
  obtain ⟨source, target, hsource, htarget, htype⟩ := exists_isLast_of_mem_edges h he
  obtain ⟨s, hs⟩ := hsource.exists_node?
  obtain ⟨t, ht⟩ := htarget.exists_node?
  refine ⟨s, t, source, target, hs, ht, hsource, htarget, htype, ?_, fun hids => ?_⟩
  · rw [htype]
    constructor
    · intro hsame
      obtain ⟨hleft, hright⟩ := PlanType.fromText_append_inj hsame
      exact ⟨hleft.symm, hright.symm⟩
    · rintro ⟨hleft, hright⟩
      rw [hleft, hright]
      rfl
  · rw [← ids_of_build h] at hids
    exact ⟨hsource.eq_of_nodup hids hs, htarget.eq_of_nodup hids ht⟩

/-- The document of a queue and a function that have one id, and of a topic that is fed by it. -/
def doubled : Json :=
  .obj [("nodes", .arr ([("a", "SQS"), ("a", "Lambda"), ("b", "sns")].map fun node =>
      .obj [("id", .str node.1), ("type", .str node.2)])),
    ("edges", .arr [.obj [("source", .str "a"), ("target", .str "b")]])]

theorem edge_type_iff_doubled :
    ∃ g plan e s t, Canvas.readGraph doubled = .ok g ∧ build g .null = .ok plan ∧
      plan.edges = [e] ∧ plan.node? e.source = some s ∧ plan.node? e.target = some t ∧
      e.type = "lambda_to_sns" := by
  obtain ⟨g, hg⟩ : ∃ g, Canvas.readGraph doubled = .ok g := ⟨_, rfl⟩
  have hplan : build g .null = .ok (buildFor g .aws) := build_of_choose rfl g
  obtain ⟨e, he⟩ : ∃ e, (buildFor g .aws).edges = [e] := by
    cases hg
    exact ⟨_, rfl⟩
  have hmem : e ∈ (buildFor g .aws).edges := he ▸ List.mem_cons_self
  obtain ⟨s, t, source, target, hs, ht, hsource, htarget, htype, -⟩ :=
    edge_type_iff g .null _ hplan e hmem
  refine ⟨g, _, e, s, t, hg, hplan, he, hs, ht, ?_⟩
  rw [← endpoint?_eq_some_iff] at hsource htarget
  cases hg
  cases he
  cases hsource
  cases htarget
  exact htype

/-- A reader of the plan is given the queue, but the edge is one of the function. -/
theorem edge_type_mismatch :
    ∃ g plan e s t, Canvas.readGraph doubled = .ok g ∧ build g .null = .ok plan ∧
      e ∈ plan.edges ∧ plan.node? e.source = some s ∧ plan.node? e.target = some t ∧
      e.type ≠ s.type.name ++ "_to_" ++ t.type.name :=
  ⟨_, _, _, _, _, rfl, build_of_choose (p := .aws) rfl _, List.mem_cons_self, rfl, rfl, by decide⟩

end Plan

end CloudCanvas
