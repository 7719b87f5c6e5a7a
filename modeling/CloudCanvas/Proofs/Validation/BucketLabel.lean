import CloudCanvas.Proofs.Text.Split
import CloudCanvas.Proofs.Validation.Accepted
import CloudCanvas.Proofs.Validation.BucketName

/-!
The labels of bucket names. A name is cut into labels at its dots. Its rules bar a hyphen behind a
dot, so no label begins with one, but they do not look at what stands in front of a dot. Where that
is another dot a label is empty, and where it is a hyphen a label ends with it; every other label is
one of a domain name.
-/

namespace CloudCanvas

namespace BucketName

open Text (IsPart split mem_split_iff)

/-- A label of a domain name. -/
structure IsLabel (label : List Char) : Prop where
  ne_nil : label ≠ []
  chars : ∀ c ∈ label, isNameEnd c = true ∨ c = '-'
  first : ∀ c ∈ label.head?, isNameEnd c = true
  last : ∀ c ∈ label.getLast?, isNameEnd c = true

/-- The labels of a name, whatever they are. -/
def labels (w : List Char) : List (List Char) :=
  split (· == '.') w

theorem isNameEnd_hyphen : isNameEnd '-' = false := by
  decide

section Label

variable {w label : List Char} (hw : IsName w) (hlabel : IsPart '.' w label)
include hw hlabel

theorem isNameEnd_or_hyphen {c : Char} (hc : c ∈ label) : isNameEnd c = true ∨ c = '-' := by
  obtain ⟨hdot, before, after, rfl, -, -⟩ := hlabel
  have hchar : isNameChar c = true := hw.chars c (by simp [hc])
  have hne : c ≠ '.' := ne_of_mem_of_not_mem hc hdot
  simpa [isNameChar, hne] using hchar

/-- What a label begins with stands behind a dot or begins the name. -/
theorem isNameEnd_of_head? {c : Char} (hc : c ∈ label.head?) : isNameEnd c = true := by
  refine (isNameEnd_or_hyphen hw hlabel (List.mem_of_mem_head? hc)).resolve_right ?_
  rintro rfl
  obtain ⟨rest, rfl⟩ := List.head?_eq_some_iff.1 hc
  obtain ⟨-, before, after, rfl, hbefore, -⟩ := hlabel
  rcases hbefore with rfl | hlast
  · exact Bool.false_ne_true (isNameEnd_hyphen ▸ hw.first '-' rfl)
  · obtain ⟨front, rfl⟩ := List.getLast?_eq_some_iff.1 hlast
    exact hw.noHyphenAfterDot ⟨front, rest ++ after, by simp⟩

theorem double_dot_of_nil (hnil : label = []) : ['.', '.'] <:+: w := by
  subst hnil
  obtain ⟨-, before, after, rfl, hbefore, hafter⟩ := hlabel
  rcases hbefore with rfl | hlast
  · rcases hafter with rfl | hhead
    · exact absurd hw.least (by decide)
    · exact absurd (hw.first '.' hhead) (by decide)
  · obtain ⟨front, rfl⟩ := List.getLast?_eq_some_iff.1 hlast
    rcases hafter with rfl | hhead
    · exact absurd (hw.last '.' (by simp)) (by decide)
    · obtain ⟨rest, rfl⟩ := List.head?_eq_some_iff.1 hhead
      exact ⟨front, rest, by simp⟩

theorem hyphen_dot_of_getLast? (hlast : label.getLast? = some '-') : ['-', '.'] <:+: w := by
  obtain ⟨front, rfl⟩ := List.getLast?_eq_some_iff.1 hlast
  obtain ⟨-, before, after, rfl, -, hafter⟩ := hlabel
  rcases hafter with rfl | hhead
  · exact absurd (hw.last '-' (by simp)) (by decide)
  · obtain ⟨rest, rfl⟩ := List.head?_eq_some_iff.1 hhead
    exact ⟨before ++ front, rest, by simp⟩

theorem isLabel_iff : IsLabel label ↔ label ≠ [] ∧ label.getLast? ≠ some '-' := by
  constructor
  · intro h
    refine ⟨h.ne_nil, fun hlast => ?_⟩
    exact Bool.false_ne_true (isNameEnd_hyphen ▸ h.last '-' hlast)
  · rintro ⟨hne, hlast⟩
    refine ⟨hne, fun c => isNameEnd_or_hyphen hw hlabel, fun c => isNameEnd_of_head? hw hlabel, ?_⟩
    intro c hc
    refine (isNameEnd_or_hyphen hw hlabel (List.mem_of_mem_getLast? hc)).resolve_right ?_
    rintro rfl
    exact hlast hc

end Label

theorem isPart_nil_of_double_dot {w : List Char} (h : ['.', '.'] <:+: w) : IsPart '.' w [] := by
  obtain ⟨front, rest, rfl⟩ := h
  exact ⟨List.not_mem_nil, front ++ ['.'], '.' :: rest, by simp, .inr (by simp), .inr rfl⟩

/-- The label before that dot goes back to the dot before it, or to the beginning. -/
theorem exists_isPart_of_hyphen_dot {w : List Char} (h : ['-', '.'] <:+: w) :
    ∃ label, IsPart '.' w label ∧ label.getLast? = some '-' := by
  obtain ⟨front, rest, rfl⟩ := h
  obtain ⟨before, label, rfl, hlabel, hbefore⟩ := Text.exists_last_part '.' front
  refine ⟨label ++ ['-'], ⟨?_, before, '.' :: rest, by simp, hbefore, .inr rfl⟩, by simp⟩
  simpa using hlabel

/-- The labels of a name are those of a domain name just when no dot stands behind a dot or a
hyphen. -/
theorem labels_iff {w : List Char} (hw : IsName w) :
    (∀ label ∈ labels w, IsLabel label) ↔ ¬ ['.', '.'] <:+: w ∧ ¬ ['-', '.'] <:+: w := by
  simp only [labels, mem_split_iff]
  constructor
  · intro h
    constructor
    · intro hdots
      exact (h [] (isPart_nil_of_double_dot hdots)).ne_nil rfl
    · intro hhyphen
      obtain ⟨label, hlabel, hlast⟩ := exists_isPart_of_hyphen_dot hhyphen
      exact ((isLabel_iff hw hlabel).1 (h label hlabel)).2 hlast
  · rintro ⟨hdots, hhyphen⟩ label hlabel
    refine (isLabel_iff hw hlabel).2 ⟨fun hnil => ?_, fun hlast => ?_⟩
    · exact hdots (double_dot_of_nil hw hlabel hnil)
    · exact hhyphen (hyphen_dot_of_getLast? hw hlabel hlast)

end BucketName

namespace Validation

open BucketName

/-- A bucket that passes has a name, whose labels hold no other characters than those of domain
names, and begin as these do. A label falls short only if it is empty or ends with a hyphen, and
none does just when no dot of the name stands behind a dot or a hyphen. -/
theorem bucketLabels_of_nodeErrors (n : Canvas.Node)
    (hkind : VisualType.native? n.visualType = some .awsS3) (h : nodeErrors n = []) :
    ∃ s, n.detail "bucketName" = .str s ∧
      (∀ label ∈ labels (Text.strip s).toList,
        (∀ c ∈ label, isNameEnd c = true ∨ c = '-') ∧ (∀ c ∈ label.head?, isNameEnd c = true) ∧
          (IsLabel label ↔ label ≠ [] ∧ label.getLast? ≠ some '-')) ∧
      ((∀ label ∈ labels (Text.strip s).toList, IsLabel label) ↔
        ¬ ['.', '.'] <:+: (Text.strip s).toList ∧ ¬ ['-', '.'] <:+: (Text.strip s).toList) := by
  have hproblems := kindProblems_of_nodeErrors h hkind
  obtain ⟨s, hs, haccepts⟩ := (bucketProblems_eq_nil_iff n _ _).1 hproblems
  have hw : IsName (Text.strip s).toList := by
    rw [Text.strip, String.toList_ofList]
    exact (accepts_strip_iff s).1 haccepts
  refine ⟨s, hs.1, fun label hlabel => ?_, labels_iff hw⟩
  have hpart : Text.IsPart '.' (Text.strip s).toList label := Text.mem_split_iff.1 hlabel
  exact ⟨fun c => isNameEnd_or_hyphen hw hpart, fun c => isNameEnd_of_head? hw hpart,
    isLabel_iff hw hpart⟩

/-- A bucket of that name, of which nothing else is missing. -/
def bucketCalled (name : String) : Canvas.Node :=
  ⟨"a", "s3", "", .origin,
    some ⟨"", "", .development, "eu-west-1", [("bucketName", .str name)]⟩⟩

theorem bucketLabels_of_nodeErrors_hosted :
    VisualType.native? (bucketCalled " logs.my-app.eu ").visualType = some .awsS3 ∧
      nodeErrors (bucketCalled " logs.my-app.eu ") = [] ∧
      labels "logs.my-app.eu".toList = ["logs".toList, "my-app".toList, "eu".toList] ∧
      ∀ label ∈ labels "logs.my-app.eu".toList, IsLabel label := by
  have hkind : VisualType.native? (bucketCalled " logs.my-app.eu ").visualType = some .awsS3 := by
    decide +kernel
  have h : nodeErrors (bucketCalled " logs.my-app.eu ") = [] := by decide +kernel
  obtain ⟨s, hs, -, hlabels⟩ := bucketLabels_of_nodeErrors _ hkind h
  cases Document.str.inj (hs.symm.trans rfl)
  have hstrip : Text.strip " logs.my-app.eu " = "logs.my-app.eu" := by decide +kernel
  rw [hstrip] at hlabels
  exact ⟨hkind, h, by decide +kernel, hlabels.2 (by decide)⟩

/-- Both names pass, and yet one has an empty label and the other one that ends with a hyphen. -/
theorem bucketLabels_unsound :
    VisualType.native? (bucketCalled "a..b").visualType = some .awsS3 ∧
      nodeErrors (bucketCalled "a..b") = [] ∧
      (∃ label ∈ labels (Text.strip "a..b").toList, label = [] ∧ ¬ IsLabel label) ∧
      nodeErrors (bucketCalled "a-.b") = [] ∧
      ∃ label ∈ labels (Text.strip "a-.b").toList, label = ['a', '-'] ∧ ¬ IsLabel label := by
  refine ⟨by decide +kernel, by decide +kernel, ⟨[], by decide +kernel, rfl, fun h => h.ne_nil rfl⟩,
    by decide +kernel, ['a', '-'], by decide +kernel, rfl, fun h => ?_⟩
  exact Bool.false_ne_true (isNameEnd_hyphen ▸ h.last '-' rfl)

end Validation

end CloudCanvas
