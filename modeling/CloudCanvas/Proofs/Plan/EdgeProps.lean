import CloudCanvas.Proofs.Plan.Nodes

/-!
The properties of planned edges. An edge keeps all that it was drawn with. One that leaves a bucket,
or failing that enters one, also gets the prefix and the suffix of the bucket, but neither in place
of its own, be that a null; no edge gets anything else. The buckets lose nothing by it: nodes are
planned as if there were no edges.
-/

namespace CloudCanvas

/-- By induction on the names: those that come later are told apart from the one just set. -/
theorem Table.foldl_setDefault {α κ : Type} [DecidableEq κ] {names : List κ} (hnames : names.Nodup)
    (value : κ → α) (t : Table α κ) :
    names.foldl (fun t name => t.setDefault name (value name)) t =
      t ++ (names.filter (· ∉ t.keys)).map fun name => (name, value name) := by
  induction names generalizing t with
  | nil => simp
  | cons name rest ih =>
    obtain ⟨hname, hrest⟩ := List.nodup_cons.1 hnames
    rw [List.foldl_cons, ih hrest, setDefault]
    by_cases hpresent : name ∈ t.keys
    · rw [if_pos ((contains_iff_mem_keys t name).2 hpresent),
        List.filter_cons_of_neg (by simpa using hpresent)]
    · have hlater : rest.filter (· ∉ keys (t ++ [(name, value name)])) =
          rest.filter (· ∉ t.keys) := by
        refine List.filter_congr fun other hother => ?_
        have hne : other ≠ name := fun heq => hname (heq ▸ hother)
        have hkeys : keys (t ++ [(name, value name)]) = t.keys ++ [name] := List.map_append
        simp [hkeys, hne]
      rw [if_neg (mt (contains_iff_mem_keys t name).1 hpresent), hlater,
        List.filter_cons_of_pos (by simpa using hpresent), List.map_cons, List.append_assoc,
        List.singleton_append]

theorem Table.keys_map_names {α κ : Type} [DecidableEq κ] (names : List κ) (value : κ → α) :
    keys (names.map fun name => (name, value name)) = names := by
  rw [keys, List.map_map]
  exact List.map_id names

namespace Canvas

/-- The node shows a bucket, on either provider. -/
def Node.IsBucket (n : Node) : Prop :=
  VisualType.planType n.visualType = .s3 ∨ VisualType.planType n.visualType = .gcs

instance : DecidablePred Node.IsBucket :=
  fun _ => inferInstanceAs (Decidable (_ ∨ _))

/-- What an edge at the node finds under a name that it lacks: the detail, or the empty text for
want of one. -/
def Node.lends (n : Node) (key : String) : Json :=
  if (n.detail key).isNull then .str "" else n.detail key

/-- The node that is meant by an id at an end of an edge. -/
def Graph.lastNode? (g : Graph) (id : String) : Option Node :=
  g.nodes.reverse.find? (·.id = id)

end Canvas

namespace Plan

open Canvas (Graph)

/-- What an edge takes over from a bucket stands behind what it has. -/
theorem withStorage_eq (n : Node) (props : Table Json) :
    withStorage n props = props ++
      (storageKeys.filter (· ∉ props.keys)).map fun key => (key, storageDefault n key) :=
  Table.foldl_setDefault (by decide) (storageDefault n) props

theorem mem_of_mem_withStorage {n : Node} {props : Table Json} {entry : String × Json}
    (h : entry ∈ withStorage n props) :
    entry ∈ props ∨ entry.1 ∈ storageKeys ∧ entry.2 = storageDefault n entry.1 := by
  rw [withStorage_eq] at h
  rcases List.mem_append.1 h with hprops | hadded
  · exact .inl hprops
  · obtain ⟨key, hkey, rfl⟩ := List.mem_map.1 hadded
    exact .inr ⟨(List.mem_filter.1 hkey).1, rfl⟩

theorem isStorage_iff {planned : Node} {n : Canvas.Node} (h : planned.Shows n) :
    isStorage planned = true ↔ n.IsBucket := by
  rw [isStorage, Canvas.Node.IsBucket, ← h.type]
  cases planned.type <;> decide

theorem storageDefault_eq {planned : Node} {n : Canvas.Node} (h : planned.Shows n)
    (hn : n.HasDistinctDetails) {key : String} (hkey : key ∈ storageKeys) :
    storageDefault planned key = n.lends key := by
  have hown : key ≠ "label" ∧ key ≠ "region" := by
    rcases List.mem_pair.1 hkey with rfl | rfl <;> decide
  rw [storageDefault, h.props, get?_nodeProps hn hown.1 hown.2, Canvas.Node.lends,
    Canvas.Node.detail, Document.getField]
  cases n.details.get? key with
  | none => rfl
  | some v => cases v <;> rfl

/-- The bucket whose settings an edge takes over: its source, or else its target. -/
inductive Lender (source target : Canvas.Node) : Canvas.Node → Prop
  | source (h : source.IsBucket) : Lender source target source
  | target (hsource : ¬ source.IsBucket) (h : target.IsBucket) : Lender source target target

/-- The properties of a planned edge, by those it was drawn with and the nodes at its ends. -/
structure Edge.Shows (made : Edge) (e : Canvas.Edge) (source target : Canvas.Node) : Prop where
  ends : made.ends = e.ends
  kept : ∀ key v, e.props.get? key = some v → made.props.get? key = some v
  added : ∃ added : Table Json, made.props = e.props ++ added ∧
    added.keys.Sublist ["prefix", "suffix"] ∧ ∀ key ∈ added.keys, key ∉ e.props.keys
  lent : ∀ bucket, Lender source target bucket → ∀ key ∈ ["prefix", "suffix"],
    made.props.get? key = some ((e.props.get? key).getD (bucket.lends key))
  plain : ¬ source.IsBucket → ¬ target.IsBucket → made.props = e.props

theorem withStorage_eq_lent {planned : Node} {n : Canvas.Node} (h : planned.Shows n)
    (hn : n.HasDistinctDetails) (props : Table Json) :
    withStorage planned props = props ++
      (storageKeys.filter (· ∉ props.keys)).map fun key => (key, n.lends key) := by
  rw [withStorage_eq]
  refine congrArg (props ++ ·) (List.map_congr_left fun key hkey => ?_)
  rw [storageDefault_eq h hn (List.mem_filter.1 hkey).1]

section Ends

variable {planned planned' : Node} {source target : Canvas.Node} (hs : planned.Shows source)
  (ht : planned'.Shows target)
include hs ht

theorem edgeProps_of_lender (hsource : source.HasDistinctDetails)
    (htarget : target.HasDistinctDetails) {bucket : Canvas.Node}
    (h : Lender source target bucket) (props : Table Json) :
    edgeProps planned planned' props = props ++
      (storageKeys.filter (· ∉ props.keys)).map fun key => (key, bucket.lends key) := by
  unfold edgeProps
  cases h with
  | source h => rw [if_pos ((isStorage_iff hs).2 h), withStorage_eq_lent hs hsource]
  | target hnot h =>
    rw [if_neg (mt (isStorage_iff hs).1 hnot), if_pos ((isStorage_iff ht).2 h),
      withStorage_eq_lent ht htarget]

theorem edgeProps_of_not_isBucket (hsource : ¬ source.IsBucket) (htarget : ¬ target.IsBucket)
    (props : Table Json) : edgeProps planned planned' props = props := by
  rw [edgeProps, if_neg (mt (isStorage_iff hs).1 hsource), if_neg (mt (isStorage_iff ht).1 htarget)]

end Ends

theorem lender_cases (source target : Canvas.Node) :
    (∃ bucket, Lender source target bucket) ∨ ¬ source.IsBucket ∧ ¬ target.IsBucket := by
  by_cases hsource : source.IsBucket
  · exact .inl ⟨source, .source hsource⟩
  · by_cases htarget : target.IsBucket
    · exact .inl ⟨target, .target hsource htarget⟩
    · exact .inr ⟨hsource, htarget⟩

/-- What is behind the properties of an edge is found only under the names that they lack. -/
theorem get?_of_lent {props : Table Json} {key : String} (hkey : key ∈ storageKeys)
    (value : String → Json) :
    (props ++ (storageKeys.filter (· ∉ props.keys)).map fun key => (key, value key) :
      Table Json).get? key = some ((props.get? key).getD (value key)) := by
  rw [Table.get?_append]
  cases hown : props.get? key with
  | some v => rfl
  | none =>
    have hlacks : key ∈ storageKeys.filter (· ∉ props.keys) :=
      List.mem_filter.2 ⟨hkey, by simpa using (Table.get?_eq_none_iff props key).1 hown⟩
    have hnames : (storageKeys.filter (· ∉ props.keys)).Nodup := List.Pairwise.filter _ (by decide)
    rw [Option.none_or, Option.getD_none]
    refine Table.get?_of_mem ?_ (List.mem_map_of_mem hlacks)
    rwa [Table.keys_map_names]

/-- Whether or not an edge touches a bucket, what it gets stands behind what it has. -/
theorem exists_added {planned planned' : Node} {source target : Canvas.Node}
    (hs : planned.Shows source) (ht : planned'.Shows target) (hsource : source.HasDistinctDetails)
    (htarget : target.HasDistinctDetails) (props : Table Json) :
    ∃ added : Table Json, edgeProps planned planned' props = props ++ added ∧
      added.keys.Sublist storageKeys ∧ ∀ key ∈ added.keys, key ∉ props.keys := by
  rcases lender_cases source target with ⟨bucket, hlender⟩ | ⟨hnot, hnot'⟩
  · refine ⟨_, edgeProps_of_lender hs ht hsource htarget hlender props, ?_, ?_⟩
    · rw [Table.keys_map_names]
      exact List.filter_sublist
    · rw [Table.keys_map_names]
      intro key hkey
      simpa using (List.mem_filter.1 hkey).2
  · refine ⟨[], ?_, List.nil_sublist _, by simp [Table.keys]⟩
    rw [edgeProps_of_not_isBucket hs ht hnot hnot', List.append_nil]

theorem Edge.shows_of_edgeProps {planned planned' : Node} {source target : Canvas.Node}
    {e : Canvas.Edge} {made : Edge} (hs : planned.Shows source) (ht : planned'.Shows target)
    (hsource : source.HasDistinctDetails) (htarget : target.HasDistinctDetails)
    (hends : made.ends = e.ends) (hprops : made.props = edgeProps planned planned' e.props) :
    made.Shows e source target where
  ends := hends
  kept key v hv := by
    obtain ⟨added, hadded, -, -⟩ := exists_added hs ht hsource htarget e.props
    rw [hprops, hadded, Table.get?_append, hv, Option.some_or]
  added := by
    rw [hprops]
    exact exists_added hs ht hsource htarget e.props
  lent bucket hlender key hkey := by
    rw [hprops, edgeProps_of_lender hs ht hsource htarget hlender]
    exact get?_of_lent hkey bucket.lends
  plain hnot hnot' := by
    rw [hprops, edgeProps_of_not_isBucket hs ht hnot hnot']

theorem exists_lastNode {g : Graph} {id : String} (h : id ∈ g.ids) (p : Provider) :
    ∃ n planned, g.lastNode? id = some n ∧ endpoint? (buildFor g p).nodes id = some planned ∧
      planned.Shows n := by
  have hreverse : List.Forall₂ (fun n planned => planned.Shows n) g.nodes.reverse
      (buildFor g p).nodes.reverse := List.rel_reverse (shows_buildFor g p)
  have hfound : Option.Rel (fun n planned => planned.Shows n) (g.lastNode? id)
      (endpoint? (buildFor g p).nodes id) :=
    rel_find? hreverse fun n planned hshows => by rw [hshows.id]
  obtain ⟨planned, hplanned⟩ := exists_endpoint h p
  rw [hplanned] at hfound ⊢
  generalize g.lastNode? id = found at hfound ⊢
  cases hfound with
  | some hshows => exact ⟨_, planned, rfl, rfl, hshows⟩

theorem distinct_of_lastNode {g : Graph} (hg : g.HasDistinctDetails) {id : String}
    {n : Canvas.Node} (h : g.lastNode? id = some n) : n.HasDistinctDetails :=
  hg n (List.mem_reverse.1 (List.mem_of_find?_eq_some h))

/-- An attached edge is planned by the last nodes of its ids. -/
theorem exists_shows_of_attaches {g : Graph} (hg : g.HasDistinctDetails) {e : Canvas.Edge}
    (he : g.Attaches e) (p : Provider) :
    ∃ made, ofEdge? (buildFor g p).nodes e = some made ∧
      ∃ source target, g.lastNode? e.source = some source ∧ g.lastNode? e.target = some target ∧
        made.Shows e source target := by
  obtain ⟨source, planned, hsource, hplanned, hs⟩ := exists_lastNode he.1 p
  obtain ⟨target, planned', htarget, hplanned', ht⟩ := exists_lastNode he.2 p
  have hmade : ofEdge? (buildFor g p).nodes e =
      some ⟨planned.type.name ++ "_to_" ++ planned'.type.name, planned.id, planned'.id,
        edgeProps planned planned' e.props⟩ := by
    simp only [ofEdge?, hplanned, hplanned']
  exact ⟨_, hmade, source, target, hsource, htarget,
    Edge.shows_of_edgeProps hs ht (distinct_of_lastNode hg hsource)
      (distinct_of_lastNode hg htarget) (ends_of_ofEdge? hmade) rfl⟩

/-- The planned edges have the properties of the attached edges, and beside them at most the prefix
and the suffix of one bucket. What the nodes are planned with is their own, as it is without any
edges. -/
theorem edges_show (g : Graph) (provider : Json) (plan : Plan) (hg : g.HasDistinctDetails)
    (h : build g provider = .ok plan) :
    List.Forall₂ (fun e made => ∃ source target, g.lastNode? e.source = some source ∧
        g.lastNode? e.target = some target ∧ made.Shows e source target)
      g.attachedEdges plan.edges ∧
    List.Forall₂ (fun n planned => planned.Shows n) g.nodes plan.nodes ∧
    ∃ bare, build ⟨g.nodes, []⟩ provider = .ok bare ∧ bare.nodes = plan.nodes := by
  obtain ⟨region, hregion, rfl⟩ := exists_resolved_of_build h
  refine ⟨?_, shows_buildFor g .aws, (buildIn region ⟨g.nodes, []⟩ 0).1, ?_, rfl⟩
  · have hedges : (buildIn region g 0).1.edges =
        g.attachedEdges.filterMap (ofEdge? (buildFor g .aws).nodes) :=
      (filterMap_ofEdge?_attachedEdges g .aws).symm
    rw [hedges]
    refine forall₂_filterMap fun e he => exists_shows_of_attaches hg ?_ .aws
    simpa using (List.mem_filter.1 he).2
  · rw [build, buildFrom, hregion]
    rfl

/-- A bucket that feeds another one, and a function that writes into it. The first edge has a
prefix of its own, which is null. -/
def lending : Graph where
  nodes :=
    [⟨"a", "AWS S3", "", .origin, some ⟨"", "", .staging, "eu-west-1",
        [("suffix", .null), ("prefix", .str "in/")]⟩⟩,
      ⟨"b", "gcs", "", .origin, none⟩, ⟨"f", "lambda", "", .origin, none⟩]
  edges := [⟨"a", "b", [("prefix", .null)]⟩, ⟨"b", "c", []⟩, ⟨"f", "a", [("suffix", .str ".txt")]⟩]

theorem edges_show_lending :
    lending.HasDistinctDetails ∧
      ∃ plan fed written, build lending .null = .ok plan ∧ plan.edges = [fed, written] ∧
        fed.props.get? "prefix" = some .null ∧ fed.props.get? "suffix" = some (.str "") ∧
        written.props.get? "prefix" = some (.str "in/") ∧
        written.props.get? "suffix" = some (.str ".txt") := by
  have hg : lending.HasDistinctDetails := by decide
  have hplan : build lending .null = .ok (buildFor lending .aws) := build_of_choose rfl lending
  have hattached : lending.attachedEdges =
      [⟨"a", "b", [("prefix", .null)]⟩, ⟨"f", "a", [("suffix", .str ".txt")]⟩] := by decide
  obtain ⟨hedges, -, -⟩ := edges_show lending .null _ hg hplan
  rw [hattached] at hedges
  obtain ⟨fed, rest, ⟨source, target, hsource, htarget, hfed⟩, hrest, hmade⟩ :=
    List.forall₂_cons_left_iff.1 hedges
  obtain ⟨written, last, ⟨source', target', hsource', htarget', hwritten⟩, hlast, rfl⟩ :=
    List.forall₂_cons_left_iff.1 hrest
  rw [List.forall₂_nil_left_iff.1 hlast] at hmade
  cases hsource
  cases hsource'
  cases htarget'
  have hfeeds := hfed.lent _ (.source (.inl (by decide)))
  have hwrites := hwritten.lent _ (.target (by decide) (.inl (by decide)))
  exact ⟨hg, _, fed, written, hplan, hmade, hfeeds "prefix" (by decide),
    hfeeds "suffix" (by decide), hwrites "prefix" (by decide), hwrites "suffix" (by decide)⟩

end Plan

end CloudCanvas
