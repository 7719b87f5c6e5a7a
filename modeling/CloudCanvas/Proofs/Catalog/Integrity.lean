import CloudCanvas.Catalog.Integrity
import Mathlib.Data.Fintype.EquivFin

/-!
What the integrity check is worth. It asks only that every plan type but `other` has some native
kind, and that every kind but the `other` ones is the native kind of some plan type. There are as
many of the one sort as of the other, so a catalog that passes pairs them off: no plan type is left
over that could share its kind with another one, or have an `other` kind.
-/

namespace CloudCanvas

/-- The plan types that some provider models. -/
abbrev PlanType.Modelled : Type :=
  { t : PlanType // t ≠ .other }

/-- The kinds that stand for a service. -/
abbrev ResourceKind.Proper : Type :=
  { k : ResourceKind // k.isOther = false }

instance : Fintype PlanType :=
  ⟨PlanType.all.toFinset, fun t => List.mem_toFinset.2 t.mem_all⟩

instance : Fintype ResourceKind :=
  ⟨ResourceKind.all.toFinset, fun k => List.mem_toFinset.2 k.mem_all⟩

theorem card_proper_eq_card_modelled :
    Fintype.card ResourceKind.Proper = Fintype.card PlanType.Modelled := by
  decide

theorem ResourceKind.isOther_otherOf (p : Provider) : (otherOf p).isOther = true := by
  cases p <;> decide

namespace Catalog

theorem reaches_iff (c : Catalog) (k : ResourceKind) :
    c.reaches k = true ↔ ∃ t, c.native t = some k := by
  simp [reaches, PlanType.mem_all]

/-- What each of the three requirements asks of a catalog. -/
theorem check_eq_ok_iff (c : Catalog) :
    c.check = .ok () ↔ (∀ k, ∃ f, c.family k = some f) ∧
      (∀ t, t ≠ .other → ∃ k, c.native t = some k) ∧
      ∀ k : ResourceKind, k.isOther = false → ∃ t, c.native t = some k := by
  have hfamily : c.kindsWithoutFamily = [] ↔ ∀ k, ∃ f, c.family k = some f := by
    simp [kindsWithoutFamily, ResourceKind.mem_all, Option.ne_none_iff_exists']
  have hnative : c.typesWithoutKind = [] ↔ ∀ t, t ≠ .other → ∃ k, c.native t = some k := by
    simp [typesWithoutKind, PlanType.mem_all, Option.ne_none_iff_exists']
  have hreached : c.unreachableKinds = [] ↔
      ∀ k : ResourceKind, k.isOther = false → ∃ t, c.native t = some k := by
    simp [unreachableKinds, ResourceKind.mem_all, reaches_iff]
  rw [← hfamily, ← hnative, ← hreached, check]
  split_ifs <;> simp_all

/-- A provider deploys a plan type as a kind that stands for a service only if it owns that kind
and the kind is the native one. -/
theorem kindFor_eq_iff (c : Catalog) (t : PlanType) (p : Provider) {k : ResourceKind}
    (hk : k.isOther = false) : c.kindFor t p = k ↔ c.native t = some k ∧ k.provider = p := by
  have hother : .otherOf p ≠ k := by
    rintro rfl
    rw [ResourceKind.isOther_otherOf] at hk
    cases hk
  rw [kindFor, PlanType.kindBy]
  cases c.native t with
  | none => simp [hother]
  | some j =>
    by_cases hj : j.provider = p
    · simp only [if_pos hj, Option.some.injEq]
      exact ⟨fun h => ⟨h, h ▸ hj⟩, And.left⟩
    · simp only [if_neg hj, Option.some.injEq]
      refine ⟨fun h => absurd h hother, ?_⟩
      rintro ⟨rfl, hp⟩
      exact absurd hp hj

section Passing

variable {c : Catalog} (hother : c.native .other = none)
include hother

theorem ne_other_of_native {t : PlanType} {k : ResourceKind} (h : c.native t = some k) :
    t ≠ .other := by
  rintro rfl
  rw [hother] at h
  cases h

/-- No plan type has two native kinds, so choosing a plan type for every kind uses up as many plan
types as there are. -/
theorem exists_pairing
    (hreached : ∀ k : ResourceKind, k.isOther = false → ∃ t, c.native t = some k) :
    ∃ pairing : PlanType.Modelled ≃ ResourceKind.Proper,
      ∀ t : PlanType.Modelled, c.native t.val = some (pairing t).val := by
  have hchoice : ∀ k : ResourceKind.Proper, ∃ t : PlanType.Modelled,
      c.native t.val = some k.val := by
    intro k
    obtain ⟨t, ht⟩ := hreached k.val k.property
    exact ⟨⟨t, ne_other_of_native hother ht⟩, ht⟩
  choose typeOf htypeOf using hchoice
  have hinjective : Function.Injective typeOf := by
    intro j k hjk
    have hsame : some j.val = some k.val := by
      rw [← htypeOf j, ← htypeOf k, hjk]
    exact Subtype.ext (Option.some.inj hsame)
  have hbijective : Function.Bijective typeOf :=
    (Fintype.bijective_iff_injective_and_card typeOf).2 ⟨hinjective, card_proper_eq_card_modelled⟩
  refine ⟨(Equiv.ofBijective typeOf hbijective).symm, fun t => ?_⟩
  obtain ⟨k, rfl⟩ := hbijective.surjective t
  rw [htypeOf, Equiv.ofBijective_symm_apply_apply]

theorem eq_of_native {pairing : PlanType.Modelled ≃ ResourceKind.Proper}
    (hpairing : ∀ t : PlanType.Modelled, c.native t.val = some (pairing t).val)
    {t u : PlanType} {k : ResourceKind} (ht : c.native t = some k) (hu : c.native u = some k) :
    t = u := by
  have hsame : pairing ⟨t, ne_other_of_native hother ht⟩ =
      pairing ⟨u, ne_other_of_native hother hu⟩ := by
    apply Subtype.ext
    apply Option.some.inj
    rw [← hpairing, ← hpairing, ht, hu]
  exact congrArg Subtype.val (pairing.injective hsame)

end Passing

theorem exists_familyOf? {c : Catalog} (h : ∀ k, ∃ f, c.family k = some f) (r : KindRef) :
    ∃ f, c.familyOf? r = some f := by
  unfold familyOf?
  cases r.resolveBy? c.native with
  | none => exact ⟨.other, rfl⟩
  | some k => exact h k

/-- Whatever the tables, once a catalog passes its check everything has a family, and the modelled
plan types are paired off with the kinds that stand for a service. So each such kind is what its
provider deploys exactly one plan type as, and two plan types that become the same kind of some
provider, other than its `other` kind, are one. -/
theorem paired_of_check {c : Catalog} (hother : c.native .other = none)
    (hcheck : c.check = .ok ()) :
    (∀ r, ∃ f, c.familyOf? r = some f) ∧
      (∃ pairing : PlanType.Modelled ≃ ResourceKind.Proper,
        ∀ t : PlanType.Modelled, c.native t.val = some (pairing t).val) ∧
      (∀ k : ResourceKind, k.isOther = false → ∃! t, c.kindFor t k.provider = k) ∧
      ∀ t u p, c.kindFor t p = c.kindFor u p → (c.kindFor t p).isOther = false → t = u := by
  obtain ⟨hfamily, -, hreached⟩ := (check_eq_ok_iff c).1 hcheck
  obtain ⟨pairing, hpairing⟩ := exists_pairing hother hreached
  refine ⟨exists_familyOf? hfamily, ⟨pairing, hpairing⟩, fun k hk => ?_, fun t u p htu ht => ?_⟩
  · obtain ⟨t, ht⟩ := hreached k hk
    refine ⟨t, (kindFor_eq_iff c t _ hk).2 ⟨ht, rfl⟩, fun u hu => ?_⟩
    have hu' := ((kindFor_eq_iff c u _ hk).1 hu).1
    exact eq_of_native hother hpairing hu' ht
  · have ht' := ((kindFor_eq_iff c t p ht).1 rfl).1
    have hu' := ((kindFor_eq_iff c u p ht).1 htu.symm).1
    exact eq_of_native hother hpairing ht' hu'

/-- The two kinds of bucket have changed places. -/
def exchanged : Catalog :=
  (standard.setNative .s3 .gcpStorage).setNative .gcs .awsS3

theorem paired_of_check_exchanged :
    exchanged.native .other = none ∧ exchanged.check = .ok () ∧
      exchanged.kindFor .s3 .gcp = .gcpStorage ∧
      ∀ t, exchanged.kindFor t .gcp = .gcpStorage → t = .s3 := by
  have hother : exchanged.native .other = none := rfl
  have hcheck : exchanged.check = .ok () := rfl
  obtain ⟨-, -, -, hwire⟩ := paired_of_check hother hcheck
  have hs3 : exchanged.kindFor .s3 .gcp = .gcpStorage := rfl
  refine ⟨hother, hcheck, hs3, fun t ht => ?_⟩
  exact hwire t .s3 .gcp (ht.trans hs3.symm) (ht ▸ rfl)

end Catalog

end CloudCanvas
