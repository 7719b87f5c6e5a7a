import CloudCanvas.Proofs.Plan.Region

/-!
When no plan is made. A provider is looked at only where its default region is needed, so what
stands for it matters only to a graph no node of which has a region of its own. Such a graph has no
plan just when no provider is named; every other graph has one under any name.
-/

namespace CloudCanvas

namespace Provider

/-- The value names the provider, in any letter case, or counts as absent and so means AWS. -/
inductive Named (value : Json) : Provider → Prop
  | absent (h : value.truthy = false) : Named value .aws
  | text {p : Provider} (h : value.truthy = true) (hname : Text.lower value.display = p.name) :
      Named value p

theorem Named.choose_eq {value : Json} {p : Provider} (h : Named value p) :
    choose value = .ok p := by
  unfold choose
  cases h with
  | absent h =>
    have hname : Text.lower aws.name = aws.name := by decide
    simp only [h, hname, ofName?_eq_some_iff.2 rfl, Bool.false_eq_true, if_false]
  | text h hname => simp only [h, hname, ofName?_eq_some_iff.2 rfl, if_true]

theorem choose_eq_of_not_named {value : Json} (h : ∀ p, ¬ Named value p) :
    choose value = .error (.unknownProvider (Text.lower value.display)) := by
  have hvalue : value.truthy = true := by
    by_contra habsent
    exact h .aws (.absent (by simpa using habsent))
  unfold choose
  simp only [hvalue, if_true]
  split
  · next p hp => exact absurd (.text hvalue (ofName?_eq_some_iff.1 hp).symm) (h p)
  · rfl

end Provider

namespace Plan

open Canvas (Graph)
open Provider (Named)

theorem build_of_settled {g : Graph} {n : Canvas.Node} {s : String} (hn : n ∈ g.nodes)
    (hs : n.LiesIn s) (provider : Json) (p : Provider) :
    build g provider = .ok (buildFor g p) := by
  cases hfirst : firstRegion? g.nodes with
  | none => exact absurd ⟨s, hs⟩ ((firstRegion?_eq_none_iff g.nodes).1 hfirst n hn)
  | some region =>
    rw [build, buildFrom, resolveRegion, hfirst, buildFor, hfirst]
    rfl

theorem build_of_unnamed {g : Graph} {provider : Json}
    (hregion : ∀ n ∈ g.nodes, ¬ ∃ s, n.LiesIn s) (hnamed : ∀ p, ¬ Named provider p) :
    build g provider = .error (.unknownProvider (Text.lower provider.display)) := by
  rw [build, buildFrom, resolveRegion, (firstRegion?_eq_none_iff g.nodes).2 hregion,
    Provider.choose_eq_of_not_named hnamed]
  rfl

/-- A plan is refused just when no provider is named and no node has a region of its own, and then
for the name. Under a provider that is named there is its plan; and a graph with a region of its own
has one plan, that of every provider, whatever is given for it. -/
theorem build_refuses_iff (g : Graph) (provider : Json) :
    (∀ cause, build g provider = .error cause ↔
      (∀ p, ¬ Named provider p) ∧ (∀ n ∈ g.nodes, ¬ ∃ s, n.LiesIn s) ∧
        cause = .unknownProvider (Text.lower provider.display)) ∧
    (∀ p, Named provider p → build g provider = .ok (buildFor g p)) ∧
    ∀ n ∈ g.nodes, ∀ s, n.LiesIn s → ∀ p, build g provider = .ok (buildFor g p) := by
  have hnamed : ∀ p, Named provider p → build g provider = .ok (buildFor g p) :=
    fun p hp => build_of_choose hp.choose_eq g
  have hsettled : ∀ n ∈ g.nodes, ∀ s, n.LiesIn s → ∀ p, build g provider = .ok (buildFor g p) :=
    fun n hn s hs => build_of_settled hn hs provider
  refine ⟨fun cause => ⟨fun h => ?_, ?_⟩, hnamed, hsettled⟩
  · have hnone : ∀ p, ¬ Named provider p := by
      intro p hp
      cases h.symm.trans (hnamed p hp)
    have hregion : ∀ n ∈ g.nodes, ¬ ∃ s, n.LiesIn s := by
      rintro n hn ⟨s, hs⟩
      cases h.symm.trans (hsettled n hn s hs .aws)
    cases h.symm.trans (build_of_unnamed hregion hnone)
    exact ⟨hnone, hregion, rfl⟩
  · rintro ⟨hnone, hregion, rfl⟩
    exact build_of_unnamed hregion hnone

/-- A bucket with a region of its own. -/
def settled : Graph :=
  ⟨[⟨"a", "s3", "", .origin, some ⟨"", "", .development, "eu-west-1", []⟩⟩], []⟩

/-- No provider is named so, and yet there is a plan. -/
theorem build_unrefused :
    (∀ p, ¬ Named (.str "azure") p) ∧
      build settled (.str "azure") = .ok (buildFor settled .aws) := by
  constructor
  · rintro p (⟨habsent⟩ | ⟨-, hname⟩)
    · exact absurd habsent (by decide)
    · revert hname
      cases p <;> decide
  · exact build_of_settled List.mem_cons_self (.configured rfl (by decide)) _ _

end Plan

end CloudCanvas
