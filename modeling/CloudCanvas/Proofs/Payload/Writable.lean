import CloudCanvas.Proofs.Compilation.Edges
import CloudCanvas.Proofs.Plan.Values
import CloudCanvas.Proofs.Settings.Values

/-!
Payloads that can be written. No document is higher than one that it is a part of, and scalars are
as low as can be. So no setting is higher than the details are, and only details that are too high
themselves keep a payload from being written.
-/

namespace CloudCanvas

namespace Document

variable {τ : Type}

theorem height_le_of_mem_fields {fields : List (τ × Document τ)} {entry : τ × Document τ}
    (h : entry ∈ fields) : entry.2.height ≤ (Document.obj fields).height := by
  have hfields := fieldsHeight_le_iff.1 (le_refl (fieldsHeight fields)) entry h
  rw [height]
  omega

theorem height_of_isScalar {v : Document τ} (h : v.isScalar = true) : v.height = 1 := by
  cases v <;> first | rfl | cases h

theorem hereditary_height (most : Nat) : Hereditary fun v : Document τ => v.height ≤ most where
  items {items} h v hv := by
    have hitems := itemsHeight_le_iff.1 (le_refl (itemsHeight items)) v hv
    rw [height] at h
    omega
  fields h entry hentry := (height_le_of_mem_fields hentry).trans h

/-- A list in a list in a list, and so on. -/
def buried : Nat → Json
  | 0 => .arr []
  | n + 1 => .arr [buried n]

theorem height_buried (n : Nat) : (buried n).height = n + 1 := by
  induction n with
  | zero => rfl
  | succ n ih => simp [buried, height, itemsHeight, ih]

theorem wellFormed_buried (n : Nat) : (buried n).WellFormed := by
  induction n with
  | zero => trivial
  | succ n ih => exact ⟨ih, trivial⟩

end Document

namespace Plan

theorem nodup_keys_nodeProps (n : Canvas.Node) : (nodeProps n).keys.Nodup :=
  Table.nodup_keys_merge _ _ (show ["label", "region"].Nodup by decide)

end Plan

namespace Payload

theorem isWritable_eq_false_iff {p : Payload} :
    p.isWritable = false ↔ ∃ n ∈ p.nodes, ∃ entry ∈ n.props, heightLimit < entry.2.height := by
  simp [isWritable, Node.isWritable]

theorem heightLimit_lt_height_buried : heightLimit < (Document.buried 255).height := by
  rw [Document.height_buried]
  decide

theorem mem_of_mem_inferEvents {kind : ResourceKind} {outgoing : Bool} {props : Table Json}
    {entry : String × Json} (h : entry ∈ inferEvents kind outgoing props) :
    entry ∈ props ∨ entry = ("eventBridge", .bool outgoing) := by
  unfold inferEvents at h
  split_ifs at h
  · exact Table.mem_of_mem_set h
  · exact .inl h

section Values

variable {Q : Json → Prop} (hscalar : ∀ v, v.isScalar = true → Q v) (hQ : Document.Hereditary Q)
  (hempty : Q (.obj []))
include hscalar hQ hempty

/-- What holds of all details holds of all that is deployed. -/
theorem of_mem_props {g : Canvas.Graph} (h : ∀ n ∈ g.nodes, ∀ entry ∈ n.details, Q entry.2)
    (config : Configuration) (p : Provider) (project env : Option String) :
    ∀ n ∈ (buildFor config (Plan.buildFor g p) p project env).nodes, ∀ entry ∈ n.props,
      Q entry.2 := by
  intro made hmade entry hentry
  obtain ⟨planned, hplanned, rfl⟩ := List.mem_map.1 hmade
  obtain ⟨n, hn, hshows⟩ := Plan.exists_shown_of_mem hplanned
  have hprops : ∀ entry ∈ planned.props, Q entry.2 := by
    rw [hshows.props]
    exact Plan.of_mem_nodeProps (fun s => hscalar (.str s) rfl) (h n hn)
  have hkeys : planned.props.keys.Nodup := by
    rw [hshows.props]
    exact Plan.nodup_keys_nodeProps n
  rcases mem_of_mem_inferEvents hentry with hsettings | rfl
  · exact Settings.of_mem_normalize hscalar hQ hempty hprops hkeys _ entry hsettings
  · exact hscalar _ rfl

end Values

/-- Only what the user has entered can be too high to be written. -/
theorem isWritable_buildFor (config : Configuration) {g : Canvas.Graph}
    (h : ∀ n ∈ g.nodes, ∀ entry ∈ n.details, entry.2.height ≤ heightLimit) (p : Provider)
    (project env : Option String) :
    (buildFor config (Plan.buildFor g p) p project env).isWritable = true := by
  have hlow := of_mem_props (Q := fun v => v.height ≤ heightLimit)
    (fun v hv => by rw [Document.height_of_isScalar hv]; decide) (Document.hereditary_height _)
    (by decide) h config p project env
  exact List.all_eq_true.2 fun w hw => List.all_eq_true.2 fun entry hentry =>
    decide_eq_true (hlow w hw entry hentry)

theorem props_ofPlanNode_of_unmodelled {plan : Plan} {p : Provider} {n : Plan.Node}
    (h : Settings.schema? (n.type.kindFor p) = none) : (ofPlanNode plan p n).props = n.props := by
  have hnone : KindRef.resolve? (.kind (n.type.kindFor p)) >>= Settings.schema? = none := h
  have hinfer : ¬ infersEvents (n.type.kindFor p) n.props = true := by
    intro hinfers
    have hkind : n.type.kindFor p = .awsS3 := (of_decide_eq_true hinfers).1
    rw [hkind] at h
    cases h
  change inferEvents _ _ (Settings.normalize _ _) = n.props
  rw [Settings.normalize_of_unmodelled hnone, Document.fieldsOrEmpty, Document.fields?,
    Option.getD_some, inferEvents, if_neg hinfer]

/-- A node of a kind without settings is deployed with all its details, however high. -/
theorem not_isWritable_buildFor (config : Configuration) {g : Canvas.Graph} {n : Canvas.Node}
    (hn : n ∈ g.nodes) (hdetails : n.HasDistinctDetails) {p : Provider}
    (hkind : Settings.schema? ((VisualType.planType n.visualType).kindFor p) = none)
    {key : String} {v : Json} (hv : n.details.get? key = some v) (hhigh : heightLimit < v.height)
    (project env : Option String) :
    (buildFor config (Plan.buildFor g p) p project env).isWritable = false := by
  obtain ⟨planned, hplanned, hshows⟩ := Plan.exists_shows_of_mem hn p
  have hentry : (key, v) ∈ (ofPlanNode (Plan.buildFor g p) p planned).props := by
    rw [props_ofPlanNode_of_unmodelled (hshows.type ▸ hkind), hshows.props]
    refine Table.mem_of_get? ?_
    rw [Plan.nodeProps, Table.get?_merge _ _ hdetails, hv, Option.some_or]
  exact isWritable_eq_false_iff.2 ⟨_, List.mem_map_of_mem hplanned, _, hentry, hhigh⟩

end Payload

end CloudCanvas
