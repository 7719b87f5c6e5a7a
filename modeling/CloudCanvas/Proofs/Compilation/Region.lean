import CloudCanvas.Proofs.Compilation.Validated
import CloudCanvas.Proofs.Plan.Region

/-!
The region of a compilation. The plan, the payload and the object on the wire have one region, and
on Google Cloud it is the location too. A graph that passed validation has a region of its own in
its very first node; otherwise the provider's default takes the place of a region that is missing.
-/

namespace CloudCanvas

open Canvas (Graph)

namespace Payload

theorem orDefault_of_ne_empty {default s : String} (h : s ≠ "") :
    orDefault default (some s) = s := by
  rw [orDefault, if_pos h]

/-- A plan that has a region never falls back on the default of the provider. -/
theorem region_buildFor (config : Configuration) {plan : Plan} (h : plan.region ≠ "")
    (p : Provider) (project env : Option String) :
    (buildFor config plan p project env).region = plan.region ∧
      (buildFor config plan p project env).location =
        if p = .gcp then some plan.region else none := by
  have hregion : (buildFor config plan p project env).region = plan.region :=
    orDefault_of_ne_empty h
  refine ⟨hregion, ?_⟩
  rw [← hregion]
  rfl

theorem toWire_places (payload : Payload) :
    ∃ fields : Table Json, payload.toWire = .obj fields ∧
      fields.get? "region" = some (.str payload.region) ∧
      fields.get? "location" = payload.location.map .str := by
  refine ⟨_, rfl, rfl, ?_⟩
  cases payload.location <;> rfl

end Payload

namespace Compilation

/-- A validated graph takes its region from its first node. -/
theorem liesIn_of_compile {config : Configuration} {g : Graph} {provider : Json} {p : Provider}
    {project env : Option String} {c : Compilation} {n : Canvas.Node} {rest : List Canvas.Node}
    (hp : Provider.choose provider = .ok p)
    (hc : compile config g provider project env true = .ok c) (hg : g.nodes = n :: rest) :
    n.LiesIn (Plan.buildFor g p).region := by
  obtain ⟨hvalid, -⟩ := ofGraph_of_compile hp hc
  have hn : n ∈ g.nodes := by
    rw [hg]
    exact List.mem_cons_self
  obtain ⟨s, hs⟩ := Plan.exists_liesIn_of_nodeErrors (hvalid n hn)
  have hfirst : g.nodes = [] ++ n :: rest := hg
  rwa [Plan.region_buildFor_of_first hfirst (List.forall_mem_nil _) hs p]

/-- The plan, the payload and whatever is written of it agree on the region, and the location is
that region under Google Cloud alone. It is the region of the first node that has one; if none has,
and only then, the provider decides. In a validated graph the first node has one. -/
theorem region_agrees (config : Configuration) (g : Graph) (provider : Json) (p : Provider)
    (project env : Option String) (hp : Provider.choose provider = .ok p) :
    ∃ c region, ∃ fields : Table Json, compile config g provider project env false = .ok c ∧
      Plan.build g provider = .ok c.plan ∧
      Payload.build config c.plan provider project env = .ok c.payload ∧
      c.plan.region = region ∧ c.payload.region = region ∧ c.payload.toWire = .obj fields ∧
      (∀ v, c.payload.write = .ok v → v = .obj fields) ∧
      fields.get? "region" = some (.str region) ∧
      fields.get? "location" = (if p = .gcp then some (.str region) else none) ∧
      Text.IsTrim region ∧
      (∀ c' n rest, compile config g provider project env true = .ok c' → g.nodes = n :: rest →
        c' = c ∧ n.LiesIn region ∧ Plan.SettlesRegion g region) ∧
      (Plan.SettlesRegion g region ↔ ∃ n ∈ g.nodes, ∃ s, n.LiesIn s) ∧
      (∀ before n after s, g.nodes = before ++ n :: after →
        (∀ m ∈ before, ¬ ∃ s, m.LiesIn s) → n.LiesIn s → region = s) ∧
      ((∀ n ∈ g.nodes, ¬ ∃ s, n.LiesIn s) → region = p.defaultRegion) := by
  have htrim : Text.IsTrim (Plan.buildFor g p).region := Plan.isTrim_region_buildFor g p
  obtain ⟨hregion, hlocation⟩ :=
    Payload.region_buildFor config htrim.ne_empty p project env
  obtain ⟨fields, hfields, hwire, hplace⟩ :=
    Payload.toWire_places (ofGraph config g p project env).payload
  refine ⟨ofGraph config g p project env, (Plan.buildFor g p).region, fields,
    compile_reporting hp config g project env, Plan.build_of_choose hp g,
    Payload.build_of_choose hp config _ project env, rfl, hregion, hfields, ?_, ?_, ?_, htrim, ?_,
    Plan.settlesRegion_buildFor_iff g p, ?_, fun h => Plan.region_buildFor_of_none h p⟩
  · intro v hv
    rw [← hfields, (Payload.write_eq_ok_iff.1 hv).2]
  · rw [hwire, ← hregion]
    rfl
  · have hplaced : (ofGraph config g p project env).payload.location = _ := hlocation
    rw [hplace, hplaced]
    split <;> rfl
  · intro c' n rest hc' hg
    have hn : n.LiesIn (Plan.buildFor g p).region := liesIn_of_compile hp hc' hg
    refine ⟨(ofGraph_of_compile hp hc').2, hn, (Plan.settlesRegion_buildFor_iff g p).2 ?_⟩
    refine ⟨n, ?_, _, hn⟩
    rw [hg]
    exact List.mem_cons_self
  · intro before n after s hg hbefore hn
    exact Plan.region_buildFor_of_first hg hbefore hn p

/-- A node that was never configured, one whose regions are blanks and no text, and one whose
region stands among its details. -/
def wandering : Graph where
  nodes :=
    [⟨"a", "S3", "", .origin, none⟩,
      ⟨"b", "gcs", "", .origin, some ⟨"", "", .staging, "\t ", [("region", .num (.int 7))]⟩⟩,
      ⟨"c", "sqs", "", .origin, some ⟨"", "", .staging, "", [("region", .str " asia-east1\n")]⟩⟩]
  edges := []

theorem region_agrees_wandering :
    Provider.choose (.str "gcp") = .ok .gcp ∧
      (∃ c, ∃ fields : Table Json,
        compile .standard wandering (.str "gcp") none none false = .ok c ∧
        c.plan.region = "asia-east1" ∧ c.payload.toWire = .obj fields ∧
        fields.get? "location" = some (.str "asia-east1")) ∧
      ∃ c, compile .standard padded (.str "gcp") none none true = .ok c ∧
        c.payload.region = "europe-west1" := by
  have hp : Provider.choose (.str "gcp") = .ok .gcp := rfl
  constructor
  · exact hp
  constructor
  · obtain ⟨c, region, fields, hc, -, -, hplan, -, hfields, -, -, hlocation, -, -, -, hfirst, -⟩ :=
      region_agrees .standard wandering (.str "gcp") .gcp none none hp
    have hbefore : ∀ m ∈ wandering.nodes.take 2, ¬ ∃ s, m.LiesIn s := by
      simp only [Plan.liesIn_ownRegion_iff]
      decide
    have hn : (wandering.nodes.getLast (by decide)).LiesIn (Text.strip " asia-east1\n") :=
      .detailed rfl (by decide) ⟨rfl, by decide⟩
    have hregion : region = "asia-east1" :=
      (hfirst _ _ [] _ rfl hbefore hn).trans (by decide)
    rw [hregion] at hplan hlocation
    exact ⟨c, fields, hc, hplan, hfields, hlocation⟩
  · obtain ⟨c, region, -, -, -, -, -, hpayload, -, -, -, -, -, hvalid, -⟩ :=
      region_agrees .standard padded (.str "gcp") .gcp none none hp
    have hc : compile .standard padded (.str "gcp") none none true =
        .ok (ofGraph .standard padded .gcp none none) :=
      compile_eq_ok_iff.2 ⟨.gcp, hp, by decide, rfl⟩
    obtain ⟨hsame, hn, -⟩ := hvalid _ _ _ hc rfl
    refine ⟨_, hc, ?_⟩
    obtain ⟨hregion, -⟩ := (Plan.liesIn_iff _ _).1 hn
    rw [hsame, hpayload, ← hregion]
    decide

end Compilation

end CloudCanvas
