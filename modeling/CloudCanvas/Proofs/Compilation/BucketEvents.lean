import CloudCanvas.Proofs.Compilation.PhysicalName
import CloudCanvas.Proofs.Compilation.WireEdges

/-!
Whether a bucket on AWS sends its events on. Its settings are two switches. One that was set has
the truth of what was entered, even where that is no switch; one that was left blank is on for
versioning, and for events it is on just when an edge leads from the bucket to a node. An edge that
ends nowhere does not count, whereas one back to the bucket does, and so does one that was drawn
from another node of the same id.
-/

namespace CloudCanvas

open Canvas (Graph)
open Document (getField)

/-- The state of a switch, which is the given one as long as nothing was entered. -/
def Document.switch (unset : Bool) (v : Json) : Bool :=
  if v.isBlank then unset else v.truthy

theorem Document.switch_of_isBlank {v : Json} (h : v.isBlank = true) (unset : Bool) :
    v.switch unset = unset :=
  if_pos h

theorem Document.switch_of_not_isBlank {v : Json} (h : v.isBlank = false) (unset : Bool) :
    v.switch unset = v.truthy := by
  rw [switch, h, if_neg Bool.false_ne_true]

namespace Settings

/-- Nothing but its own name is a source of a flag, and every value can be brought to it. -/
theorem Field.read_flag (name : String) (fallback : Option Bool) (details : Table Json) :
    (Field.flag name fallback []).read details =
      if (getField details name).isBlank then fallback.map .bool
      else some (.bool (getField details name).truthy) := by
  have hentered : (Field.flag name fallback []).entered? details =
      (details.get? name).filter (!·.isBlank) := by
    rw [entered?, flag, sources, List.findSome?_singleton]
  have hreduce : ∀ v, (Field.flag name fallback []).reduce? v = some v := by
    intro v
    cases v <;> rfl
  rw [Field.read, hentered, getField]
  cases details.get? name with
  | none => rfl
  | some v =>
    rw [Option.getD_some, Option.filter_some]
    by_cases hblank : v.isBlank = true
    · rw [if_pos hblank, if_neg (by simp [hblank])]
      rfl
    · rw [if_neg hblank, if_pos (by simp [hblank]), Option.bind_eq_bind, Option.bind_some, hreduce]
      rfl

/-- A bucket that does not say whether it sends its events on leaves that open. -/
theorem normalize_awsS3_eq {details : Table Json} (h : details.keys.Nodup) :
    normalize (.kind .awsS3) (.obj details) =
      ("versioning", .bool ((getField details "versioning").switch true)) ::
        if (getField details "eventBridge").isBlank then []
        else [("eventBridge", .bool (getField details "eventBridge").truthy)] := by
  have hschema : schema? .awsS3 =
      some [.flag "versioning" (some true) [], .flag "eventBridge" none []] := rfl
  have hversioning : (Field.flag "versioning" (some true) []).read details =
      some (.bool ((getField details "versioning").switch true)) := by
    rw [Field.read_flag, Document.switch]
    split_ifs <;> rfl
  rw [normalize_eq_read rfl hschema h, List.filterMap_cons, hversioning, List.filterMap_cons,
    Field.read_flag, List.filterMap_nil]
  split_ifs <;> rfl

end Settings

namespace Payload

theorem settingsOf_awsS3 {details : Table Json} (h : details.keys.Nodup) (leaves : Bool) :
    settingsOf .awsS3 details leaves =
      [("versioning", .bool ((getField details "versioning").switch true)),
        ("eventBridge", .bool ((getField details "eventBridge").switch leaves))] := by
  rw [settingsOf, Settings.normalize_awsS3_eq h]
  generalize (getField details "versioning").switch true = versioning
  rw [Document.switch]
  cases (getField details "eventBridge").isBlank <;> rfl

end Payload

/-- The source of an edge need not be looked for: it is the node that the edge leaves. -/
theorem Canvas.Graph.any_attachedEdges_iff {g : Graph} {n : Canvas.Node} (hn : n ∈ g.nodes) :
    g.attachedEdges.any (·.source == n.id) = true ↔
      ∃ e ∈ g.edges, e.source = n.id ∧ e.target ∈ g.ids := by
  have hid : n.id ∈ g.ids := List.mem_map_of_mem hn
  simp only [attachedEdges, List.any_eq_true, List.mem_filter, decide_eq_true_eq, beq_iff_eq]
  constructor
  · rintro ⟨e, ⟨he, hattached⟩, hsource⟩
    exact ⟨e, he, hsource, hattached.2⟩
  · rintro ⟨e, he, hsource, htarget⟩
    exact ⟨e, ⟨he, hsource ▸ hid, htarget⟩, hsource⟩

namespace Compilation

/-- Whether errors block it or are only reported, a compilation is the same. -/
theorem eq_ofGraph_of_compile {config : Configuration} {g : Graph} {provider : Json} {p : Provider}
    {project env : Option String} {blocking : Bool} {c : Compilation}
    (hp : Provider.choose provider = .ok p)
    (hc : compile config g provider project env blocking = .ok c) :
    c = ofGraph config g p project env := by
  cases blocking with
  | true => exact (ofGraph_of_compile hp hc).2
  | false => exact Except.ok.inj (hc.symm.trans (compile_reporting hp config g project env))

theorem ids_ofGraph (config : Configuration) (g : Graph) (p : Provider)
    (project env : Option String) :
    List.Forall₂ (fun n w => w.id = n.id) g.nodes
      (ofGraph config g p project env).payload.nodes := by
  change List.Forall₂ _ _ ((Plan.buildFor g p).nodes.map _)
  rw [List.forall₂_map_right_iff]
  exact (Plan.shows_buildFor g p).imp fun n planned h => h.id

/-- The switches of the bucket on the wire, which stands for that node of the graph. -/
structure HasSwitches (w : Payload.Node) (g : Graph) (n : Canvas.Node)
    (versioning events : Bool) : Prop where
  props : w.props = [("versioning", .bool versioning), ("eventBridge", .bool events)]
  wire : w.toWire = .obj [("id", .str w.id), ("kind", .str w.kind), ("name", .str w.name),
    ("props", .obj [("versioning", .bool versioning), ("eventBridge", .bool events)])]
  entered : (n.detail "eventBridge").isBlank = false → events = (n.detail "eventBridge").truthy
  inferred : (n.detail "eventBridge").isBlank = true →
    (events = true ↔ ∃ e ∈ g.edges, e.source = n.id ∧ e.target ∈ g.ids)

theorem hasSwitches_of_props {w : Payload.Node} {g : Graph} {n : Canvas.Node} (hn : n ∈ g.nodes)
    {versioning : Bool} (h : w.props = [("versioning", .bool versioning), ("eventBridge",
      .bool ((n.detail "eventBridge").switch (g.attachedEdges.any (·.source == n.id))))]) :
    HasSwitches w g n versioning
      ((n.detail "eventBridge").switch (g.attachedEdges.any (·.source == n.id))) where
  props := h
  wire := by
    rw [Payload.Node.toWire, h]
    rfl
  entered hentered := Document.switch_of_not_isBlank hentered _
  inferred hblank := by
    rw [Document.switch_of_isBlank hblank]
    exact Graph.any_attachedEdges_iff hn

/-- Every bucket that is compiled for AWS has its two switches and nothing else. Its events are
sent on as the user entered it; where nothing was entered, they are just when some edge of the
graph leads from the id of the bucket to the id of a node. -/
theorem hasSwitches_of_compile (config : Configuration) (g : Graph) (provider : Json)
    (project env : Option String) (hg : g.HasDistinctDetails)
    (hp : Provider.choose provider = .ok .aws) :
    ∃ c, compile config g provider project env false = .ok c ∧
      (∀ blocking c', compile config g provider project env blocking = .ok c' → c' = c) ∧
      List.Forall₂ (fun n w => w.id = n.id ∧
          (w.kind = ResourceKind.awsS3.name ↔ VisualType.native? n.visualType = some .awsS3) ∧
          (w.kind = ResourceKind.awsS3.name →
            ∃ versioning events, HasSwitches w g n versioning events))
        g.nodes c.payload.nodes := by
  refine ⟨ofGraph config g .aws project env, compile_reporting hp config g project env,
    fun blocking c' hc' => eq_ofGraph_of_compile hp hc', ?_⟩
  have hids := (List.forall₂_and_left _ _).2
    ⟨fun n hn => And.intro hn (hg n hn), ids_ofGraph config g .aws project env⟩
  have hsettings := (Payload.settings_buildFor config hg .aws project env).mp
    (fun n w hnative hown => And.intro hnative hown)
    (Payload.ownSettings_buildFor config hg .aws project env)
  refine hids.mp (fun n w hid hw => ?_) hsettings
  obtain ⟨⟨hn, hdetails⟩, hid⟩ := hid
  obtain ⟨hnative, hown⟩ := hw
  refine ⟨hid, ⟨fun hkind => ?_, fun hkind => ?_⟩, fun hkind => ?_⟩
  · exact (hown .awsS3 hkind (by decide)).1
  · exact (hnative .awsS3 hkind rfl).1
  · have hprops := (hown .awsS3 hkind (by decide)).2
    rw [Payload.settingsOf_awsS3 hdetails] at hprops
    exact ⟨_, _, hasSwitches_of_props hn hprops⟩

/-- Three buckets with a setting each. The first has an edge to itself, the second one to the
first, and the edge of the third lacks an end. -/
def listening (first second third : Json) : Graph where
  nodes := [settled "a" "s3" [("eventBridge", first)],
    settled "b" "AWS S3" [("eventBridge", second)], settled "c" "s3" [("eventBridge", third)]]
  edges := [⟨"a", "a", []⟩, ⟨"b", "a", []⟩, ⟨"c", "z", []⟩]

theorem hasSwitches_of_compile_listening :
    (listening (.str " ") (.num (.int 0)) .null).HasDistinctDetails ∧
      Provider.choose (.str "aws") = .ok .aws ∧
      ∃ c, compile .standard (listening (.str " ") (.num (.int 0)) .null) (.str "aws") none none
          false = .ok c ∧
        ∃ u v w, c.payload.nodes = [u, v, w] ∧
          u.props.get? "eventBridge" = some (.bool true) ∧
          v.props.get? "eventBridge" = some (.bool false) ∧
          w.props.get? "eventBridge" = some (.bool false) := by
  have hg : (listening (.str " ") (.num (.int 0)) .null).HasDistinctDetails := by decide
  have hp : Provider.choose (.str "aws") = .ok .aws := rfl
  obtain ⟨c, hc, -, hnodes⟩ := hasSwitches_of_compile .standard
    (listening (.str " ") (.num (.int 0)) .null) (.str "aws") none none hg hp
  refine ⟨hg, hp, c, hc, ?_⟩
  obtain ⟨u, others, ⟨-, hu, hu'⟩, hothers, hnodes⟩ := List.forall₂_cons_left_iff.1 hnodes
  obtain ⟨v, last, ⟨-, hv, hv'⟩, hlast, rfl⟩ := List.forall₂_cons_left_iff.1 hothers
  obtain ⟨w, none, ⟨-, hw, hw'⟩, hnone, rfl⟩ := List.forall₂_cons_left_iff.1 hlast
  obtain rfl := List.forall₂_nil_left_iff.1 hnone
  obtain ⟨_, _, hu⟩ := hu' (hu.2 (by decide))
  obtain ⟨_, _, hv⟩ := hv' (hv.2 (by decide))
  obtain ⟨_, _, hw⟩ := hw' (hw.2 (by decide))
  have hloops := (hu.inferred (by decide)).2 (by decide)
  have hentered := hv.entered (by decide)
  have hdangles := Bool.eq_false_iff.2 ((hw.inferred (by decide)).not.2 (by decide))
  refine ⟨u, v, w, hnodes, ?_, ?_, ?_⟩
  · rw [hu.props, hloops]
    rfl
  · rw [hv.props, hentered]
    rfl
  · rw [hw.props, hdangles]
    rfl

end Compilation

end CloudCanvas
