import CloudCanvas.Plan.Build
import Mathlib.Data.List.Pairwise

/-!
The variables of a plan. A variable is named by the family and the id of its node. So nodes whose
ids differ have variables of their own, and each variable has the physical name of its node.
-/

namespace CloudCanvas.Plan

theorem word_of_variableField? {family : Family} {word field : String}
    (h : variableField? family = some (word, field)) :
    word = "bucket" ∨ word = "queue" ∨ word = "lambda" := by
  cases family <;> cases h <;> decide

/-- The words begin with letters of their own, so the name of a variable gives its word and the id
away, whatever the ids are. -/
theorem variableName_inj {family family' : Family} {word word' field field' : String}
    (h : variableField? family = some (word, field))
    (h' : variableField? family' = some (word', field')) {id id' : String}
    (hkeys : word ++ "_" ++ id ++ "_name" = word' ++ "_" ++ id' ++ "_name") :
    word = word' ∧ id = id' := by
  rw [← String.toList_inj] at hkeys
  simp only [String.toList_append] at hkeys
  have hword : word = word' := by
    rcases word_of_variableField? h with rfl | rfl | rfl <;>
      rcases word_of_variableField? h' with rfl | rfl | rfl <;>
      first
      | rfl
      | exact absurd hkeys (by simp)
  subst hword
  have hid : id.toList = id'.toList := by simpa using hkeys
  exact ⟨rfl, String.toList_inj.1 hid⟩

theorem id_eq_of_variableOf {n m : Node} {key : String} {x y : String}
    (hn : variableOf n = some (key, x)) (hm : variableOf m = some (key, y)) : n.id = m.id := by
  obtain ⟨⟨word, field⟩, hfield, heq⟩ := Option.map_eq_some_iff.1 hn
  obtain ⟨⟨word', field'⟩, hfield', heq'⟩ := Option.map_eq_some_iff.1 hm
  have hkeys : word ++ "_" ++ n.id ++ "_name" = word' ++ "_" ++ m.id ++ "_name" :=
    (Prod.mk.inj heq).1.trans (Prod.mk.inj heq').1.symm
  exact (variableName_inj hfield hfield' hkeys).2

theorem nodup_keys_filterMap_variableOf {nodes : List Node} (h : (nodes.map (·.id)).Nodup) :
    (Table.keys (nodes.filterMap variableOf)).Nodup := by
  have hids : nodes.Pairwise fun n m => n.id ≠ m.id := List.pairwise_map.1 h
  refine List.pairwise_map.2 (hids.filterMap variableOf ?_)
  rintro n m hne ⟨key, x⟩ hn ⟨_, y⟩ hm rfl
  exact hne (id_eq_of_variableOf hn hm)

/-- Where no id repeats, the variable of a node has its physical name. -/
theorem get?_variablesOf {nodes : List Node} (h : (nodes.map (·.id)).Nodup) {n : Node}
    (hn : n ∈ nodes) {word field : String}
    (hfield : variableField? n.type.family = some (word, field)) :
    (variablesOf nodes).get? (word ++ "_" ++ n.id ++ "_name") = some (physicalName n field) := by
  have hkeys := nodup_keys_filterMap_variableOf h
  rw [variablesOf, Table.get?_ofList hkeys]
  refine Table.get?_of_mem hkeys (List.mem_filterMap.2 ⟨n, hn, ?_⟩)
  rw [variableOf, hfield]
  rfl

end CloudCanvas.Plan
