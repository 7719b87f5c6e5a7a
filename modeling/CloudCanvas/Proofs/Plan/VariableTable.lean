import CloudCanvas.Proofs.Plan.Nodes
import CloudCanvas.Proofs.Plan.Variables
import CloudCanvas.Proofs.Table

/-!
The table of variables of a plan. Buckets, queues and functions have variables; the name of a
variable gives away the word for its kind and the id of its node. So nodes share a variable only
when they share both, the last of them decides its value, and where no id repeats the table has an
entry for each of these nodes.
-/

namespace CloudCanvas

open Canvas (Graph)

/-- For the types whose nodes have variables: the word that the variables begin with, and the
detail with the physical name. -/
def PlanType.naming? : PlanType → Option (String × String)
  | .s3 | .gcs => some ("bucket", "bucketName")
  | .sqs => some ("queue", "queueName")
  | .lambda => some ("lambda", "functionName")
  | _ => none

theorem PlanType.variableField?_family (t : PlanType) :
    Plan.variableField? t.family = t.naming? := by
  cases t <;> rfl

theorem PlanType.ne_of_naming? {t : PlanType} {word field : String}
    (h : t.naming? = some (word, field)) : field ≠ "label" ∧ field ≠ "region" := by
  cases t <;> cases h <;> decide

/-- Of the items that are so there is a last one. -/
theorem exists_last {α : Type} {P : α → Prop} {l : List α} (h : ∃ a ∈ l, P a) :
    ∃ before a after, l = before ++ a :: after ∧ P a ∧ ∀ b ∈ after, ¬ P b := by
  induction l with
  | nil =>
    obtain ⟨a, ha, -⟩ := h
    cases ha
  | cons first rest ih =>
    by_cases hrest : ∃ a ∈ rest, P a
    · obtain ⟨before, a, after, rfl, ha, hafter⟩ := ih hrest
      exact ⟨first :: before, a, after, rfl, ha, hafter⟩
    · have hnone : ∀ b ∈ rest, ¬ P b := fun b hb hp => hrest ⟨b, hb, hp⟩
      obtain ⟨a, ha, hp⟩ := h
      rcases List.mem_cons.1 ha with rfl | hlater
      · exact ⟨[], a, rest, rfl, hp, hnone⟩
      · exact absurd hp (hnone a hlater)

namespace Canvas.Node

/-- The node has a variable of that name, whose value is looked up in the field. -/
structure HasVariable (n : Node) (word field key : String) : Prop where
  type : (VisualType.planType n.visualType).naming? = some (word, field)
  key : key = word ++ "_" ++ n.id ++ "_name"

/-- The physical name of a node that is called `name`: what was entered in the field, if it is a
text and not the empty one. -/
inductive GoesBy (n : Node) (field name : String) : String → Prop
  | entered {s : String} (hs : n.detail field = .str s) (hne : s ≠ "") : GoesBy n field name s
  | called (h : ∀ s, n.detail field = .str s → s = "") : GoesBy n field name name

theorem GoesBy.unique {n : Node} {field name value value' : String}
    (h : n.GoesBy field name value) (h' : n.GoesBy field name value') : value = value' := by
  cases h with
  | entered hs hne =>
    cases h' with
    | entered hs' _ => exact Document.str.inj (hs.symm.trans hs')
    | called hnone => exact absurd (hnone _ hs) hne
  | called hnone =>
    cases h' with
    | entered hs' hne => exact absurd (hnone _ hs') hne
    | called _ => rfl

theorem HasVariable.inj {n m : Node} {word word' field field' key : String}
    (hn : n.HasVariable word field key) (hm : m.HasVariable word' field' key) :
    word = word' ∧ n.id = m.id := by
  have htype := hn.type
  have htype' := hm.type
  rw [← PlanType.variableField?_family] at htype htype'
  exact Plan.variableName_inj htype htype' (hn.key.symm.trans hm.key)

end Canvas.Node

namespace Plan

theorem goesBy_physicalName {n : Canvas.Node} (h : n.HasDistinctDetails) {planned : Node}
    (hshows : planned.Shows n) {field : String} (hlabel : field ≠ "label")
    (hregion : field ≠ "region") : n.GoesBy field planned.name (physicalName planned field) := by
  have hget : planned.props.get? field = n.details.get? field := by
    rw [hshows.props, get?_nodeProps h hlabel hregion]
  have hdetail : n.detail field = (n.details.get? field).getD .null := rfl
  unfold physicalName
  rw [hget]
  split
  · next s hs =>
    rw [hs, Option.getD_some] at hdetail
    split
    · next hne => exact .entered hdetail hne
    · next hempty =>
      refine .called fun t ht => ?_
      rw [← Document.str.inj (hdetail.symm.trans ht)]
      exact not_not.1 hempty
  · next hother =>
    refine .called fun t ht => ?_
    cases hentry : n.details.get? field with
    | none =>
      rw [hdetail, hentry] at ht
      cases ht
    | some v =>
      rw [hdetail, hentry, Option.getD_some] at ht
      exact absurd (ht ▸ hentry) (hother t)

theorem variableOf_eq_of_shows {n : Canvas.Node} {planned : Node} (hshows : planned.Shows n)
    {word field key : String} (hkey : n.HasVariable word field key) :
    variableOf planned = some (key, physicalName planned field) := by
  rw [variableOf, PlanType.variableField?_family, hshows.type, hkey.type, hkey.key, hshows.id]
  rfl

theorem hasVariable_of_variableOf {n : Canvas.Node} {planned : Node} (hshows : planned.Shows n)
    {key value : String} (h : variableOf planned = some (key, value)) :
    ∃ word field, n.HasVariable word field key := by
  obtain ⟨⟨word, field⟩, hfield, heq⟩ := Option.map_eq_some_iff.1 h
  rw [PlanType.variableField?_family, hshows.type] at hfield
  rw [hshows.id] at heq
  exact ⟨word, field, hfield, (Prod.mk.inj heq).1.symm⟩

theorem hasVariable_of_mem_keys {nodes : List Canvas.Node} (offset : Nat) {key : String}
    (h : key ∈ Table.keys ((nodes.mapIdx fun i n => nodeIn (i + offset) n).filterMap variableOf)) :
    ∃ n ∈ nodes, ∃ word field, n.HasVariable word field key := by
  obtain ⟨⟨_, value⟩, hentry, rfl⟩ := List.mem_map.1 h
  obtain ⟨planned, hplanned, hvariable⟩ := List.mem_filterMap.1 hentry
  obtain ⟨i, hi, rfl⟩ := List.mem_mapIdx.1 hplanned
  exact ⟨nodes[i], List.getElem_mem hi, hasVariable_of_variableOf (shows_nodeIn _ _) hvariable⟩

theorem mem_keys_variablesOf (nodes : List Canvas.Node) (key : String) :
    key ∈ (variablesOf (nodes.mapIdx nodeIn)).keys ↔
      ∃ n ∈ nodes, ∃ word field, n.HasVariable word field key := by
  rw [variablesOf, Table.mem_keys_ofList]
  constructor
  · intro h
    exact hasVariable_of_mem_keys 0 h
  · rintro ⟨n, hn, word, field, hkey⟩
    obtain ⟨place, hplace, heq⟩ := List.mem_iff_getElem.1 hn
    have hplanned : nodeIn place n ∈ nodes.mapIdx nodeIn :=
      List.mem_mapIdx.2 ⟨place, hplace, by rw [heq]⟩
    have hentry := List.mem_filterMap.2
      ⟨_, hplanned, variableOf_eq_of_shows (shows_nodeIn place n) hkey⟩
    exact List.mem_map_of_mem hentry

/-- The last node with a variable decides what the table has under it. -/
theorem exists_get?_of_last (before : List Canvas.Node) {after : List Canvas.Node} {n : Canvas.Node}
    (hn : n.HasDistinctDetails) {word field key : String} (hkey : n.HasVariable word field key)
    (hafter : ∀ m ∈ after, ∀ word field, ¬ m.HasVariable word field key) :
    ∃ value, (variablesOf ((before ++ n :: after).mapIdx nodeIn)).get? key = some value ∧
      n.GoesBy field (nameIn before.length n) value := by
  have hshows := shows_nodeIn before.length n
  obtain ⟨hlabel, hregion⟩ := PlanType.ne_of_naming? hkey.type
  have hvalue := goesBy_physicalName hn hshows hlabel hregion
  rw [name_nodeIn] at hvalue
  refine ⟨_, ?_, hvalue⟩
  have hvariable := variableOf_eq_of_shows hshows hkey
  rw [← Nat.zero_add before.length] at hvariable
  rw [variablesOf, List.mapIdx_append, List.mapIdx_cons, List.filterMap_append,
    List.filterMap_cons_some hvariable, Nat.zero_add]
  refine Table.get?_ofList_append_cons (fun hmem => ?_) _
  simp only [Nat.add_assoc] at hmem
  obtain ⟨m, hm, word, field, hlater⟩ := hasVariable_of_mem_keys _ hmem
  exact hafter m hm word field hlater

/-- The last of the nodes with this variable goes by that value. -/
def Decides (nodes : List Canvas.Node) (key value : String) : Prop :=
  ∃ before n after word field, nodes = before ++ n :: after ∧ n.HasVariable word field key ∧
    n.GoesBy field (nameIn before.length n) value ∧
    ∀ m ∈ after, ∀ word field, ¬ m.HasVariable word field key

theorem get?_variablesOf_iff {nodes : List Canvas.Node} (hall : ∀ n ∈ nodes, n.HasDistinctDetails)
    (key value : String) :
    (variablesOf (nodes.mapIdx nodeIn)).get? key = some value ↔ Decides nodes key value := by
  constructor
  · intro h
    have hmem : key ∈ (variablesOf (nodes.mapIdx nodeIn)).keys :=
      List.mem_map_of_mem (Table.mem_of_get? h)
    obtain ⟨before, n, after, rfl, ⟨word, field, hkey⟩, hafter⟩ :=
      exists_last ((mem_keys_variablesOf nodes key).1 hmem)
    have hlater : ∀ m ∈ after, ∀ word field, ¬ m.HasVariable word field key :=
      fun m hm word field hm' => hafter m hm ⟨word, field, hm'⟩
    obtain ⟨value', hget, hvalue⟩ := exists_get?_of_last before (hall n (by simp)) hkey hlater
    obtain rfl : value' = value := Option.some.inj (hget.symm.trans h)
    exact ⟨before, n, after, word, field, rfl, hkey, hvalue, hlater⟩
  · rintro ⟨before, n, after, word, field, rfl, hkey, hvalue, hafter⟩
    obtain ⟨value', hget, hvalue'⟩ := exists_get?_of_last before (hall n (by simp)) hkey hafter
    rw [hget, hvalue.unique hvalue']

/-- Where no id repeats, the entries of the table are those of the nodes, in their order. -/
theorem forall₂_variablesOf {nodes : List Canvas.Node} {planned : List Node}
    (h : List.Forall₂ (fun n planned => planned.Shows n) nodes planned)
    (hids : (planned.map (·.id)).Nodup) :
    List.Forall₂ (fun n entry => ∃ word field, n.HasVariable word field entry.1)
      (nodes.filter fun n => (VisualType.planType n.visualType).naming?.isSome)
      (variablesOf planned) := by
  rw [variablesOf, Table.ofList_of_nodup (nodup_keys_filterMap_variableOf hids)]
  clear hids
  induction h with
  | nil => exact .nil
  | @cons n planned rest plannedRest hshows _ ih =>
    cases hnaming : (VisualType.planType n.visualType).naming? with
    | none =>
      have hnone : variableOf planned = none := by
        rw [variableOf, PlanType.variableField?_family, hshows.type, hnaming]
        rfl
      rw [List.filterMap_cons_none hnone, List.filter_cons_of_neg (by simp [hnaming])]
      exact ih
    | some naming =>
      obtain ⟨word, field⟩ := naming
      have hkey : n.HasVariable word field (word ++ "_" ++ n.id ++ "_name") := ⟨hnaming, rfl⟩
      rw [List.filterMap_cons_some (variableOf_eq_of_shows hshows hkey),
        List.filter_cons_of_pos (by simp [hnaming])]
      exact .cons ⟨word, field, hkey⟩ ih

theorem variableTable_buildIn (region : String) (g : Graph) (counter : Int) :
    (buildIn region g counter).1.variableTable = variablesOf (g.nodes.mapIdx nodeIn) := by
  rw [← nodes_buildIn region g counter]
  rfl

/-- The variables of a plan are those of the nodes of its graph. A node shares a variable just with
the nodes of its word and its id, and the last of them decides. -/
theorem variables_of_build (g : Graph) (hg : g.HasDistinctDetails) (provider : Json) (plan : Plan)
    (h : build g provider = .ok plan) :
    plan.nodes.map (·.name) = g.nodes.mapIdx nameIn ∧
    plan.variableTable.keys.Nodup ∧
    (∀ key, key ∈ plan.variableTable.keys ↔
      ∃ n ∈ g.nodes, ∃ word field, n.HasVariable word field key) ∧
    (∀ (n m : Canvas.Node) (word word' field field' key : String), n.HasVariable word field key →
      m.HasVariable word' field' key → word = word' ∧ n.id = m.id) ∧
    (∀ key value, plan.variableTable.get? key = some value ↔ Decides g.nodes key value) ∧
    (g.ids.Nodup → List.Forall₂ (fun n entry => ∃ word field, n.HasVariable word field entry.1)
      (g.nodes.filter fun n => (VisualType.planType n.visualType).naming?.isSome)
      plan.variableTable) := by
  obtain ⟨region, rfl⟩ := exists_region_of_build h
  have hnodes : (buildIn region g 0).1.nodes = g.nodes.mapIdx nodeIn := nodes_buildIn region g 0
  rw [hnodes, variableTable_buildIn]
  refine ⟨map_name_mapIdx_nodeIn g.nodes, Table.nodup_keys_ofList _, mem_keys_variablesOf g.nodes,
    fun n m word word' field field' key hn hm => hn.inj hm, get?_variablesOf_iff hg, fun hids => ?_⟩
  have hplanned : ((g.nodes.mapIdx nodeIn).map (·.id)).Nodup := by
    have heq : (g.nodes.mapIdx nodeIn).map (·.id) = g.nodes.map (·.id) := by
      rw [← hnodes]
      exact ids_ofNodesFrom 0 0 g.nodes
    rw [heq]
    exact hids
  exact forall₂_variablesOf (shows_mapIdx_nodeIn g.nodes) hplanned

/-- Three nodes of one id, two of them queues, and a bucket whose id ends like a variable. -/
def sharing : Graph where
  nodes := [⟨"a", "sqs", "", .origin, none⟩,
    ⟨"a", "lambda", "", .origin, some ⟨"", "", .staging, "", [("functionName", .str "")]⟩⟩,
    ⟨"a", "S Q S", " Jobs", .origin, some ⟨"", "", .staging, "", [("queueName", .ofInt 1)]⟩⟩,
    ⟨"a_name", "gcs", "", .origin, some ⟨"", "", .staging, "", [("bucketName", .str " ")]⟩⟩]
  edges := []

theorem variables_of_build_sharing :
    sharing.HasDistinctDetails ∧ ∃ plan, build sharing .null = .ok plan ∧
      plan.variableTable =
        [("queue_a_name", "jobs"), ("lambda_a_name", "a"), ("bucket_a_name_name", " ")] ∧
      Decides sharing.nodes "queue_a_name" "jobs" := by
  have hg : sharing.HasDistinctDetails := by decide
  have hplan : build sharing .null = .ok (buildFor sharing .aws) := build_of_choose rfl sharing
  have htable : (buildFor sharing .aws).variableTable =
      [("queue_a_name", "jobs"), ("lambda_a_name", "a"), ("bucket_a_name_name", " ")] := by
    decide +kernel
  obtain ⟨-, -, -, -, hdecides, -⟩ := variables_of_build sharing hg .null _ hplan
  refine ⟨hg, _, hplan, htable, (hdecides _ _).1 ?_⟩
  rw [htable]
  decide

end Plan

end CloudCanvas
