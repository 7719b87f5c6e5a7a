import CloudCanvas.Proofs.Payload.Writable
import CloudCanvas.Proofs.Plan.Variables
import CloudCanvas.Service.Response

/-!
Documents that are published as they are. A document loses nothing exactly when no name in it, at
any depth, begins with the internal mark. The service itself chooses no such name, for its plans or
for its payloads; only names among the details of nodes and the properties of edges can be internal.
-/

namespace CloudCanvas

namespace Service

mutual

/-- No field of the document is internal. -/
def isPublic : Json → Bool
  | .arr items => isPublicItems items
  | .obj fields => isPublicFields fields
  | _ => true

def isPublicItems : List Json → Bool
  | [] => true
  | v :: rest => isPublic v && isPublicItems rest

def isPublicFields : List (String × Json) → Bool
  | [] => true
  | (key, v) :: rest => !isInternal key && isPublic v && isPublicFields rest

end

theorem isPublicItems_iff {items : List Json} :
    isPublicItems items = true ↔ ∀ v ∈ items, isPublic v = true := by
  induction items with
  | nil => simp [isPublicItems]
  | cons v rest ih => rw [isPublicItems, Bool.and_eq_true, ih, List.forall_mem_cons]

theorem isPublicFields_iff {fields : List (String × Json)} :
    isPublicFields fields = true ↔
      ∀ entry ∈ fields, isInternal entry.1 = false ∧ isPublic entry.2 = true := by
  induction fields with
  | nil => simp [isPublicFields]
  | cons entry rest ih =>
    rw [isPublicFields, Bool.and_eq_true, Bool.and_eq_true, Bool.not_eq_true', ih,
      List.forall_mem_cons]

theorem isPublic_of_isScalar {v : Json} (h : v.isScalar = true) : isPublic v = true := by
  cases v <;> first | rfl | cases h

theorem hereditary_isPublic : Document.Hereditary fun v : Json => isPublic v = true where
  items h := isPublicItems_iff.1 h
  fields h entry hentry := (isPublicFields_iff.1 h entry hentry).2

theorem length_publishedFields_le (fields : List (String × Json)) :
    (publishedFields fields).length ≤ fields.length := by
  induction fields with
  | nil => exact le_rfl
  | cons entry rest ih =>
    unfold publishedFields
    split
    · exact ih.trans (Nat.le_succ _)
    · exact Nat.succ_le_succ ih

mutual

/-- A document is published as it is exactly when it has nothing internal. -/
theorem published_eq_self_iff : (v : Json) → (published v = v ↔ isPublic v = true)
  | .arr items => by
    rw [published, isPublic, Document.arr.injEq, publishedItems_eq_self_iff items]
  | .obj fields => by
    rw [published, isPublic, Document.obj.injEq, publishedFields_eq_self_iff fields]
  | .null | .bool _ | .num _ | .str _ => iff_of_true rfl rfl

theorem publishedItems_eq_self_iff :
    (items : List Json) → (publishedItems items = items ↔ isPublicItems items = true)
  | [] => iff_of_true rfl rfl
  | v :: rest => by
    rw [publishedItems, isPublicItems, List.cons.injEq, Bool.and_eq_true,
      published_eq_self_iff v, publishedItems_eq_self_iff rest]

theorem publishedFields_eq_self_iff :
    (fields : List (String × Json)) →
      (publishedFields fields = fields ↔ isPublicFields fields = true)
  | [] => iff_of_true rfl rfl
  | (key, v) :: rest => by
    rw [publishedFields, isPublicFields]
    cases isInternal key with
    | true =>
      -- With the first field gone, what is left is too short.
      refine iff_of_false (fun heq => ?_) Bool.false_ne_true
      have hlength := length_publishedFields_le rest
      have heq' : publishedFields rest = (key, v) :: rest := heq
      rw [heq', List.length_cons] at hlength
      omega
    | false =>
      rw [if_neg Bool.false_ne_true, List.cons.injEq, Prod.mk.injEq, Bool.not_false, Bool.true_and,
        Bool.and_eq_true, published_eq_self_iff v, publishedFields_eq_self_iff rest]
      simp only [true_and]

end

mutual

theorem isPublic_finiteOrNull : (v : Json) → isPublic v.finiteOrNull = isPublic v
  | .num n => by
    unfold Document.finiteOrNull
    split <;> rfl
  | .arr items => isPublicItems_finiteOrNull items
  | .obj fields => isPublicFields_finiteOrNull fields
  | .null | .bool _ | .str _ => rfl

theorem isPublicItems_finiteOrNull :
    (items : List Json) → isPublicItems (Document.finiteOrNullItems items) = isPublicItems items
  | [] => rfl
  | v :: rest => by
    rw [Document.finiteOrNullItems, isPublicItems, isPublicItems, isPublic_finiteOrNull v,
      isPublicItems_finiteOrNull rest]

theorem isPublicFields_finiteOrNull : (fields : List (String × Json)) →
    isPublicFields (Document.finiteOrNullFields fields) = isPublicFields fields
  | [] => rfl
  | (key, v) :: rest => by
    rw [Document.finiteOrNullFields, isPublicFields, isPublicFields, isPublic_finiteOrNull v,
      isPublicFields_finiteOrNull rest]

end

end Service

open Service (isInternal isPublic isPublicItems isPublicFields isPublicItems_iff isPublicFields_iff
  isPublic_of_isScalar hereditary_isPublic)

/-- No name among the details of nodes and the properties of edges is internal. -/
structure Canvas.Graph.IsPublic (g : Canvas.Graph) : Prop where
  nodes : ∀ n ∈ g.nodes, isPublicFields n.details = true
  edges : ∀ e ∈ g.edges, isPublicFields e.props = true

theorem Canvas.Graph.IsPublic.holds {g : Canvas.Graph} (h : g.IsPublic) :
    g.Holds fun v => isPublic v = true where
  nodes n hn entry hentry := (isPublicFields_iff.1 (h.nodes n hn) entry hentry).2
  edges e he entry hentry := (isPublicFields_iff.1 (h.edges e he) entry hentry).2

namespace Plan

theorem isPublicFields_nodeProps {n : Canvas.Node} (h : isPublicFields n.details = true) :
    isPublicFields (nodeProps n) = true := by
  have hdetails := isPublicFields_iff.1 h
  refine isPublicFields_iff.2 fun entry hentry => ⟨?_, ?_⟩
  · rcases Table.mem_of_mem_merge hentry with hown | hdetail
    · simp only [List.mem_cons, List.not_mem_nil, or_false] at hown
      rcases hown with rfl | rfl
      · exact (by decide : isInternal "label" = false)
      · exact (by decide : isInternal "region" = false)
    · exact (hdetails entry hdetail).1
  · exact of_mem_nodeProps (Q := fun v => isPublic v = true) (fun _ => rfl)
      (fun entry hentry => (hdetails entry hentry).2) entry hentry

theorem name_of_mem_edgeProps {source target : Node} {props : Table Json}
    {entry : String × Json} (h : entry ∈ edgeProps source target props) :
    entry.1 ∈ storageKeys ∨ entry ∈ props := by
  unfold edgeProps at h
  split_ifs at h
  · exact (mem_of_mem_withStorage h).symm.imp_left And.left
  · exact (mem_of_mem_withStorage h).symm.imp_left And.left
  · exact .inr h

theorem isInternal_variablesOf {nodes : List Node} {entry : String × String}
    (h : entry ∈ variablesOf nodes) : isInternal entry.1 = false := by
  obtain ⟨n, -, hvariable⟩ := List.mem_filterMap.1 (Table.mem_of_mem_ofList h)
  obtain ⟨⟨word, field⟩, hfield, rfl⟩ := Option.map_eq_some_iff.1 hvariable
  rcases word_of_variableField? hfield with rfl | rfl | rfl <;>
    simp [isInternal, Service.internalMark, List.isPrefixOf]

theorem isPublic_toJson {g : Canvas.Graph} (h : g.IsPublic) (p : Provider) :
    isPublic (buildFor g p).toJson = true := by
  have hholds := holds_buildFor (Q := fun v => isPublic v = true) (fun _ => rfl) h.holds p
  have htable : isPublicFields
      ((buildFor g p).variableTable.map fun entry => (entry.1, (.str entry.2 : Json))) = true := by
    refine isPublicFields_iff.2 fun entry hentry => ?_
    obtain ⟨named, hnamed, rfl⟩ := List.mem_map.1 hentry
    exact ⟨isInternal_variablesOf hnamed, rfl⟩
  have hnodes : isPublicItems ((buildFor g p).nodes.map Node.toJson) = true := by
    refine isPublicItems_iff.2 fun v hv => ?_
    obtain ⟨planned, hplanned, rfl⟩ := List.mem_map.1 hv
    obtain ⟨n, hn, hshows⟩ := exists_shown_of_mem hplanned
    have hprops : isPublicFields planned.props = true := by
      rw [hshows.props]
      exact isPublicFields_nodeProps (h.nodes n hn)
    simp +decide [Node.toJson, isPublic, isPublicFields, hprops]
  have hedges : isPublicItems ((buildFor g p).edges.map Edge.toJson) = true := by
    refine isPublicItems_iff.2 fun v hv => ?_
    obtain ⟨made, hmade, rfl⟩ := List.mem_map.1 hv
    obtain ⟨e, he, source, -, target, -, hedge⟩ := exists_of_mem_edges hmade
    have hprops : isPublicFields made.props = true := by
      refine isPublicFields_iff.2 fun entry hentry => ⟨?_, hholds.edges made hmade entry hentry⟩
      rw [hedge] at hentry
      rcases name_of_mem_edgeProps hentry with hkey | hown
      · exact (by decide : ∀ key ∈ storageKeys, isInternal key = false) _ hkey
      · exact (isPublicFields_iff.1 (h.edges e he) entry hown).1
    simp +decide [Edge.toJson, isPublic, isPublicFields, hprops]
  simp +decide [toJson, isPublic, isPublicFields, htable, hnodes, hedges]

end Plan

namespace Payload

theorem isInternal_name {kind : ResourceKind} {schema : Settings.Schema}
    (h : Settings.schema? kind = some schema) :
    ∀ field ∈ schema, isInternal field.name = false := by
  cases kind <;> cases h <;> decide

theorem isPublicFields_props {g : Canvas.Graph} (h : g.IsPublic) (config : Configuration)
    (p : Provider) (project env : Option String) :
    ∀ n ∈ (buildFor config (Plan.buildFor g p) p project env).nodes,
      isPublicFields n.props = true := by
  intro made hmade
  refine isPublicFields_iff.2 fun entry hentry => ⟨?_, ?_⟩
  · obtain ⟨planned, hplanned, rfl⟩ := List.mem_map.1 hmade
    obtain ⟨n, hn, hshows⟩ := Plan.exists_shown_of_mem hplanned
    rcases mem_of_mem_inferEvents hentry with hsettings | rfl
    · rcases Settings.name_of_mem_normalize hsettings with
        ⟨schema, hschema, field, hfield, hname⟩ | hdetail
      · rw [← hname]
        exact isInternal_name hschema field hfield
      · rw [hshows.props] at hdetail
        exact (isPublicFields_iff.1 (Plan.isPublicFields_nodeProps (h.nodes n hn)) entry hdetail).1
    · exact (by decide : isInternal "eventBridge" = false)
  · exact of_mem_props (Q := fun v => isPublic v = true) (fun _ => isPublic_of_isScalar)
      hereditary_isPublic rfl h.holds.nodes config p project env made hmade entry hentry

theorem isPublic_toWire_edge (e : Edge) : isPublic e.toWire = true := by
  obtain ⟨source, target, intent, path, method, batchSize⟩ := e
  cases path <;> cases method <;> cases batchSize <;> rfl

theorem isPublic_toWire {p : Payload} (h : ∀ n ∈ p.nodes, isPublicFields n.props = true) :
    isPublic p.toWire = true := by
  have hnodes : isPublicItems (p.nodes.map Node.toWire) = true := by
    refine isPublicItems_iff.2 fun v hv => ?_
    obtain ⟨n, hn, rfl⟩ := List.mem_map.1 hv
    have hprops : isPublic (Document.obj n.props).finiteOrNull = true := by
      rw [Service.isPublic_finiteOrNull]
      exact h n hn
    simp +decide [Node.toWire, isPublic, isPublicFields, hprops]
  have hedges : isPublicItems (p.edges.map Edge.toWire) = true := by
    refine isPublicItems_iff.2 fun v hv => ?_
    obtain ⟨e, -, rfl⟩ := List.mem_map.1 hv
    exact isPublic_toWire_edge e
  unfold Payload.toWire
  cases p.location <;>
    simp +decide [unlessUnset, isPublic, isPublicFields, hnodes, hedges]

end Payload

end CloudCanvas
