import CloudCanvas.Proofs.Table
import CloudCanvas.Proofs.Validation.Accepted
import Mathlib.Data.List.Basic
import Mathlib.Data.List.Flatten
import Mathlib.Data.List.Induction

/-!
The report on a list of nodes. Its table has the ids of the nodes with errors in the order in which
they first fail, and under each id the messages about all nodes of that id, node by node. Warnings
have no part in it. So the verdict, the number of errors, the table and the messages of the single
nodes never disagree.
-/

namespace CloudCanvas

namespace Table

variable {α κ : Type} [DecidableEq κ]

/-- A table whose names differ is told by its names and by what it has under each of them. -/
theorem eq_map_keys {t : Table α κ} (h : t.keys.Nodup) {f : κ → α}
    (hf : ∀ key ∈ t.keys, t.get? key = some (f key)) :
    t = t.keys.map fun key => (key, f key) := by
  have hentry : ∀ entry ∈ t, (entry.1, f entry.1) = entry := by
    intro entry hmem
    have hvalue : t.get? entry.1 = some entry.2 := get?_of_mem h hmem
    rw [hf entry.1 (List.mem_map_of_mem hmem)] at hvalue
    rw [Option.some.inj hvalue]
  calc
    t = t.map id := (List.map_id t).symm
    _ = t.map fun entry => (entry.1, f entry.1) :=
      List.map_congr_left fun entry hmem => (hentry entry hmem).symm
    _ = t.keys.map fun key => (key, f key) := by
      rw [keys, List.map_map]
      rfl

/-- What is put behind the items under a name is all that the table gains. -/
theorem length_flatMap_set (t : Table (List α) κ) (key : κ) (more : List α) :
    ((t.set key ((t.get? key).getD [] ++ more)).flatMap Prod.snd).length =
      (t.flatMap Prod.snd).length + more.length := by
  induction t with
  | nil => simp [set]
  | cons entry rest ih =>
    by_cases hkey : entry.1 = key
    · rw [set, if_pos hkey, get?, if_pos hkey]
      simp only [List.flatMap_cons, List.length_append, Option.getD_some]
      omega
    · rw [set, if_neg hkey, get?, if_neg hkey]
      simp only [List.flatMap_cons, List.length_append, ih]
      omega

end Table

namespace Validation

open Canvas (Node)

/-- The ids of the nodes with errors, each once, in the order in which they first fail. -/
def failingIds (nodes : List Node) : List String :=
  ((nodes.filter (nodeErrors · ≠ [])).map (·.id)).eraseDups

/-- The messages about the nodes of an id, node by node. -/
def messagesFor (nodes : List Node) (id : String) : List String :=
  (nodes.filter (·.id = id)).flatMap nodeErrors

/-- The table of errors, told by the errors of the single nodes. -/
def errorTable (nodes : List Node) : Table (List String) :=
  (failingIds nodes).map fun id => (id, messagesFor nodes id)

/-- What is in the way of one node. -/
def blockingIssues (n : Node) : List Issue :=
  (validateNode n).filter Issue.isError

theorem mem_failingIds_iff {nodes : List Node} {id : String} :
    id ∈ failingIds nodes ↔ ∃ n ∈ nodes, n.id = id ∧ nodeErrors n ≠ [] := by
  simp only [failingIds, List.mem_eraseDups, List.mem_map, List.mem_filter, decide_eq_true_eq]
  constructor
  · rintro ⟨n, ⟨hn, herrors⟩, hid⟩
    exact ⟨n, hn, hid, herrors⟩
  · rintro ⟨n, hn, hid, herrors⟩
    exact ⟨n, ⟨hn, herrors⟩, hid⟩

theorem nodeId_of_mem_blockingIssues {n : Node} {i : Issue} (h : i ∈ blockingIssues n) :
    i.nodeId = n.id := by
  have hissue : i ∈ validateNode n := (List.mem_filter.1 h).1
  obtain ⟨problem, -, rfl⟩ := List.mem_map.1 hissue
  rfl

theorem blockingIssues_eq_nil_iff (n : Node) : blockingIssues n = [] ↔ nodeErrors n = [] := by
  rw [nodeErrors, List.map_eq_nil_iff]
  rfl

theorem errors_validate (nodes : List Node) :
    (validate nodes).errors = nodes.flatMap blockingIssues :=
  List.filter_flatMap ..

theorem map_message_errors (nodes : List Node) :
    (validate nodes).errors.map Issue.message = nodes.flatMap nodeErrors := by
  rw [errors_validate, List.map_flatMap]
  rfl

namespace Report

/-- By induction on the issues from the last one: only an id that has not failed yet gets a new
place in the table. -/
theorem keys_foldl_addMessage (issues : List Issue) :
    (issues.foldl addMessage []).keys = (issues.map (·.nodeId)).eraseDups := by
  induction issues using List.reverseRecOn with
  | nil => rfl
  | append_singleton issues i ih =>
    rw [List.foldl_append, List.foldl_cons, List.foldl_nil, addMessage, Table.keys_set,
      List.map_append, List.eraseDups_append, ih]
    by_cases hfailed : i.nodeId ∈ (issues.map (·.nodeId)).eraseDups
    · have hkey : (issues.foldl addMessage []).contains i.nodeId = true := by
        rwa [Table.contains_iff_mem_keys, ih]
      have hold : i.nodeId ∈ issues.map (·.nodeId) := List.mem_eraseDups.1 hfailed
      rw [if_pos hkey, List.map_singleton, List.removeAll,
        List.filter_cons_of_neg (by simpa using hold), List.filter_nil, List.eraseDups_nil,
        List.append_nil]
    · have hkey : ¬ (issues.foldl addMessage []).contains i.nodeId = true := by
        rwa [Table.contains_iff_mem_keys, ih]
      have hnew : i.nodeId ∉ issues.map (·.nodeId) := fun h => hfailed (List.mem_eraseDups.2 h)
      rw [if_neg hkey, List.map_singleton, List.removeAll,
        List.filter_cons_of_pos (by simpa using hnew), List.filter_nil, List.eraseDups_cons,
        List.filter_nil, List.eraseDups_nil]

theorem get?_foldl_addMessage (issues : List Issue) (id : String) :
    ((issues.foldl addMessage []).get? id).getD [] =
      (issues.filter (·.nodeId = id)).map Issue.message := by
  induction issues using List.reverseRecOn with
  | nil => rfl
  | append_singleton issues i ih =>
    rw [List.foldl_append, List.foldl_cons, List.foldl_nil, addMessage, Table.get?_set,
      List.filter_append, List.map_append, ← ih]
    by_cases hid : i.nodeId = id
    · subst hid
      simp
    · simp [hid]

theorem length_foldl_addMessage (issues : List Issue) (table : Table (List String)) :
    ((issues.foldl addMessage table).flatMap Prod.snd).length =
      (table.flatMap Prod.snd).length + issues.length := by
  induction issues generalizing table with
  | nil => rfl
  | cons i rest ih =>
    rw [List.foldl_cons, ih, addMessage, Table.length_flatMap_set, List.length_singleton,
      List.length_cons]
    omega

end Report

theorem nodup_keys_errorsByNode (r : Report) : r.errorsByNode.keys.Nodup := by
  rw [Report.errorsByNode]
  induction r.errors using List.reverseRecOn with
  | nil => exact List.nodup_nil
  | append_singleton issues i ih =>
    rw [List.foldl_append, List.foldl_cons, List.foldl_nil, Report.addMessage]
    exact Table.nodup_keys_set _ _ _ ih

/-- Only what stands in the first list, not how often, decides what is new in the second. -/
theorem eraseDups_append_congr {as cs : List String} (h : as.eraseDups = cs.eraseDups)
    (bs : List String) : (as ++ bs).eraseDups = (cs ++ bs).eraseDups := by
  have hmem : ∀ b, b ∈ as ↔ b ∈ cs := by
    intro b
    rw [← List.mem_eraseDups, h, List.mem_eraseDups]
  have hremove : bs.removeAll as = bs.removeAll cs := by
    refine List.filter_congr fun b _ => ?_
    rw [Bool.eq_iff_iff]
    simp [hmem]
  rw [List.eraseDups_append, List.eraseDups_append, h, hremove]

theorem eraseDups_append_of_forall_eq (as : List String) {bs : List String} {x : String}
    (hne : bs ≠ []) (h : ∀ b ∈ bs, b = x) : (as ++ bs).eraseDups = (as ++ [x]).eraseDups := by
  obtain ⟨b, rest, rfl⟩ := List.exists_cons_of_ne_nil hne
  have hb : b = x := h b List.mem_cons_self
  have hrest : rest.removeAll (as ++ [b]) = [] := by
    refine List.filter_eq_nil_iff.2 fun c hc => ?_
    simp [h c (List.mem_cons_of_mem b hc), hb]
  rw [List.append_cons, List.eraseDups_append, hrest, List.eraseDups_nil, List.append_nil, hb]

/-- By induction on the nodes from the last one: its id is new unless a node before it fails under
the same id. -/
theorem eraseDups_nodeIds (nodes : List Node) :
    ((validate nodes).errors.map (·.nodeId)).eraseDups = failingIds nodes := by
  rw [errors_validate]
  induction nodes using List.reverseRecOn with
  | nil => rfl
  | append_singleton nodes n ih =>
    rw [List.flatMap_append, List.flatMap_singleton, List.map_append, failingIds,
      List.filter_append, List.map_append]
    by_cases herrors : nodeErrors n = []
    · have hblocking : blockingIssues n = [] := (blockingIssues_eq_nil_iff n).2 herrors
      rw [hblocking, List.filter_cons_of_neg (by simpa using herrors)]
      simpa [failingIds] using ih
    · have hblocking : (blockingIssues n).map (·.nodeId) ≠ [] := by
        rwa [ne_eq, List.map_eq_nil_iff, blockingIssues_eq_nil_iff]
      have hids : ∀ id ∈ (blockingIssues n).map (·.nodeId), id = n.id := by
        intro id hid
        obtain ⟨i, hi, rfl⟩ := List.mem_map.1 hid
        exact nodeId_of_mem_blockingIssues hi
      rw [eraseDups_append_of_forall_eq _ hblocking hids,
        List.filter_cons_of_pos (by simpa using herrors)]
      exact eraseDups_append_congr ih _

theorem messagesFor_eq (nodes : List Node) (id : String) :
    ((validate nodes).errors.filter (·.nodeId = id)).map Issue.message = messagesFor nodes id := by
  rw [errors_validate]
  induction nodes with
  | nil => rfl
  | cons n rest ih =>
    rw [List.flatMap_cons, List.filter_append, List.map_append, ih, messagesFor, messagesFor]
    by_cases hid : n.id = id
    · have hall : ∀ i ∈ blockingIssues n, decide (i.nodeId = id) = true := by
        intro i hi
        rw [nodeId_of_mem_blockingIssues hi]
        exact decide_eq_true hid
      rw [List.filter_eq_self.2 hall, List.filter_cons_of_pos (by simpa using hid),
        List.flatMap_cons]
      rfl
    · have hnone : ∀ i ∈ blockingIssues n, ¬ decide (i.nodeId = id) = true := by
        intro i hi
        rw [nodeId_of_mem_blockingIssues hi, decide_eq_true_eq]
        exact hid
      rw [List.filter_eq_nil_iff.2 hnone, List.filter_cons_of_neg (by simpa using hid)]
      rfl

theorem errorsByNode_validate (nodes : List Node) :
    (validate nodes).errorsByNode = errorTable nodes := by
  have hkeys : (validate nodes).errorsByNode.keys = failingIds nodes := by
    rw [Report.errorsByNode, Report.keys_foldl_addMessage, eraseDups_nodeIds]
  rw [errorTable, ← hkeys]
  refine Table.eq_map_keys (nodup_keys_errorsByNode _) fun key hkey => ?_
  have hsome : ((validate nodes).errorsByNode.get? key).isSome = true := by
    rwa [← Table.contains_eq_isSome, Table.contains_iff_mem_keys]
  obtain ⟨messages, hmessages⟩ := Option.isSome_iff_exists.1 hsome
  have hvalue := Report.get?_foldl_addMessage (validate nodes).errors key
  rw [← Report.errorsByNode, hmessages, messagesFor_eq] at hvalue
  rw [hmessages, ← hvalue]
  rfl

theorem errorTable_eq_nil_iff (nodes : List Node) :
    errorTable nodes = [] ↔ ∀ n ∈ nodes, nodeErrors n = [] := by
  rw [← errorsByNode_validate, errorsByNode_eq_nil_iff]

theorem nodup_failingIds (nodes : List Node) : (failingIds nodes).Nodup := by
  rw [← eraseDups_nodeIds, ← Report.keys_foldl_addMessage]
  exact nodup_keys_errorsByNode (validate nodes)

/-- Every error has its message in the table, and there is nothing else in it. -/
theorem length_messages_errorTable (nodes : List Node) :
    ((errorTable nodes).flatMap Prod.snd).length = (validate nodes).errors.length := by
  rw [← errorsByNode_validate, Report.errorsByNode, Report.length_foldl_addMessage]
  exact Nat.zero_add _

theorem length_errors_validate (nodes : List Node) :
    (validate nodes).errors.length = (nodes.flatMap nodeErrors).length := by
  rw [← map_message_errors, List.length_map]

theorem isValid_validate_iff (nodes : List Node) :
    (validate nodes).isValid = true ↔ ∀ n ∈ nodes, nodeErrors n = [] := by
  rw [← errorsByNode_eq_nil_iff, Report.errorsByNode, foldl_addMessage_eq_nil_iff, Report.isValid,
    List.isEmpty_iff]
  exact (and_iff_right rfl).symm

/-- The verdict is the same by the issues and by the table. -/
theorem isValid_validate (nodes : List Node) :
    (validate nodes).isValid = (validate nodes).errorsByNode.isEmpty := by
  rw [Bool.eq_iff_iff, isValid_validate_iff, List.isEmpty_iff, errorsByNode_eq_nil_iff]

end Validation

end CloudCanvas
