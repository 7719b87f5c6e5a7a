import CloudCanvas.Proofs.Naming

/-!
The names given to a sequence of callers. Only a caller without a name takes something from the
counter, and takes one: so the numbered names come in the order of the counter, without a gap, and
no two of them are the same. Every name that is given is settled.
-/

namespace CloudCanvas.Naming

/-- A name as a caller hands it over: a text, or nothing. -/
def request : Option String → Json
  | some name => .str name
  | none => .null

/-- The caller has no name, or one that shows nothing. -/
def isNameless (name : Option String) : Bool :=
  name.all Text.isBlankText

/-- The names given to those who had none. -/
def numbered (names : List (Option String)) (results : List String) : List String :=
  ((names.zip results).filter fun call => isNameless call.1).map Prod.snd

/-- So many names from the counter on. -/
def numberedNames (counter : Int) (count : Nat) : List String :=
  (List.range count).map fun k : Nat => numberedName (counter + k)

theorem numberedName_injective : Function.Injective numberedName := by
  intro m n h
  have hchars := congrArg String.toList h
  simp only [numberedName, String.toList_append, String.toList_ofList] at hchars
  exact Numeral.intText_injective (List.append_cancel_left hchars)

theorem nodup_numberedNames (counter : Int) (count : Nat) :
    (numberedNames counter count).Nodup := by
  refine List.nodup_range.map fun j k h => ?_
  have hplace : counter + j = counter + k := numberedName_injective h
  omega

theorem numberedNames_succ (counter : Int) (count : Nat) :
    numberedNames counter (count + 1) =
      numberedName counter :: numberedNames (counter + 1) count := by
  have hlater : (fun k : Nat => numberedName (counter + (k + 1 : Nat))) =
      fun k : Nat => numberedName (counter + 1 + k) := by
    funext k
    congr 1
    omega
  rw [numberedNames, List.range_succ_eq_map, List.map_cons, List.map_map, numberedNames, ← hlater,
    Int.natCast_zero, Int.add_zero]
  rfl

section Cons

variable {name : Option String} (names : List (Option String)) (result : String)
  (results : List String)

theorem numbered_cons_nameless (h : isNameless name = true) :
    numbered (name :: names) (result :: results) = result :: numbered names results := by
  simp [numbered, h]

theorem numbered_cons_named (h : isNameless name = false) :
    numbered (name :: names) (result :: results) = numbered names results := by
  simp [numbered, h]

end Cons

theorem identifier_of_blank {name : String} (h : Text.isBlankText name = true) :
    identifier name = "" := by
  have hstrip : Text.strip name = "" := (Text.isBlankText_iff_strip_eq name).1 h
  rw [identifier, hstrip]
  decide

theorem sanitizeJson_str (name : String) (counter : Int) :
    sanitizeJson (.str name) counter =
      (.ok (sanitize name counter).1, (sanitize name counter).2) := by
  rw [sanitizeJson, Document.truthy_str]
  by_cases hname : name = ""
  · subst hname
    rfl
  · have hsome : (!name.isEmpty) = true := by simpa using hname
    rw [if_pos hsome]

theorem sanitizeJson_nameless {name : Option String} (h : isNameless name = true) (counter : Int) :
    sanitizeJson (request name) counter = (.ok (numberedName counter), counter + 1) := by
  cases name with
  | none => rfl
  | some name =>
    rw [request, sanitizeJson_str, sanitize, identifier_of_blank h]
    rfl

theorem sanitizeJson_named {name : String} (h : Text.isBlankText name = false) (counter : Int) :
    sanitizeJson (.str name) counter = (.ok (identifier name), counter) := by
  have hne : identifier name ≠ "" := identifier_ne_empty (Text.strip_ne_empty_iff.2 h)
  rw [sanitizeJson_str, sanitize_of_ne_empty hne]

theorem IsSettled.sanitizeJson_eq {name : String} (h : IsSettled name) (counter : Int) :
    sanitizeJson (.str name) counter = (.ok name, counter) := by
  rw [sanitizeJson_str, h.sanitize_eq]

/-- A caller who has a name is given the identifier of that name. -/
def Answers (name : Option String) (result : String) : Prop :=
  ∀ s ∈ name, Text.isBlankText s = false → result = identifier s

/-- By induction on the callers: one without a name moves the counter on by one, any other leaves it
to the next. -/
theorem exists_results (counter : Int) (names : List (Option String)) :
    ∃ results : List String, sanitizeAll counter (names.map request) = results.map .ok ∧
      List.Forall₂ Answers names results ∧
      numbered names results = numberedNames counter (names.countP isNameless) ∧
      ∀ result ∈ results, IsSettled result := by
  induction names generalizing counter with
  | nil => exact ⟨[], rfl, .nil, rfl, List.forall_mem_nil _⟩
  | cons name rest ih =>
    cases hname : isNameless name with
    | true =>
      obtain ⟨results, hrun, hanswers, hnumbered, hsettled⟩ := ih (counter + 1)
      refine ⟨numberedName counter :: results, ?_, .cons ?_ hanswers, ?_, ?_⟩
      · simp only [List.map_cons, sanitizeAll, sanitizeJson_nameless hname, hrun]
      · rintro s rfl hs
        exact absurd (hname.symm.trans hs) (by decide)
      · rw [numbered_cons_nameless _ _ _ hname, List.countP_cons_of_pos hname, numberedNames_succ,
          hnumbered]
      · exact List.forall_mem_cons.2 ⟨isSettled_numberedName counter, hsettled⟩
    | false =>
      obtain ⟨results, hrun, hanswers, hnumbered, hsettled⟩ := ih counter
      cases name with
      | none => cases hname
      | some s =>
        refine ⟨identifier s :: results, ?_, .cons ?_ hanswers, ?_, ?_⟩
        · simp only [List.map_cons, sanitizeAll, request, sanitizeJson_named hname, hrun]
        · rintro t ht -
          rw [Option.some.inj ht]
        · rw [numbered_cons_named _ _ _ hname, List.countP_cons_of_neg (by simp [hname]), hnumbered]
        · exact List.forall_mem_cons.2
            ⟨isSettled_identifier (Text.strip_ne_empty_iff.2 hname), hsettled⟩

/-- Wherever the counter stands, the callers without a name are given the numbers from there on, one
each, and no two of them the same. A caller with a name takes none. Every name that is given is not
empty, has no blank in it, and is given again to a caller who asks for it. -/
theorem names_in_sequence :
    (∀ (counter : Int) (names : List (Option String)), ∃ results : List String,
      sanitizeAll counter (names.map request) = results.map .ok ∧
      List.Forall₂ Answers names results ∧
      numbered names results = numberedNames counter (names.countP isNameless) ∧
      (numbered names results).Nodup ∧
      ∀ result ∈ results, IsSettled result ∧
        ∀ later, sanitizeJson (.str result) later = (.ok result, later)) ∧
    (∀ name counter, isNameless name = true →
      sanitizeJson (request name) counter = (.ok (numberedName counter), counter + 1)) ∧
    ∀ name counter, Text.isBlankText name = false →
      sanitizeJson (.str name) counter = (.ok (identifier name), counter) := by
  refine ⟨fun counter names => ?_, fun name counter hname => sanitizeJson_nameless hname counter,
    fun name counter hname => sanitizeJson_named hname counter⟩
  obtain ⟨results, hrun, hanswers, hnumbered, hsettled⟩ := exists_results counter names
  refine ⟨results, hrun, hanswers, hnumbered, ?_, fun result hresult => ?_⟩
  · rw [hnumbered]
    exact nodup_numberedNames counter _
  · have hresult := hsettled result hresult
    exact ⟨hresult, hresult.sanitizeJson_eq⟩

/-- Two callers hand over names, one with sigmas at ends of words and a capital I with a dot. -/
def callers : List (Option String) :=
  [none, some " ΟΔΟΣ \u2003Σ İ\n", some " \t", some "res-0", some ""]

theorem names_in_sequence_callers :
    ∃ results : List String, sanitizeAll (-1) (callers.map request) = results.map .ok ∧
      results = ["res--1", "οδος-σ-i\u0307", "res-0", "res-0", "res-1"] ∧
      numbered callers results = ["res--1", "res-0", "res-1"] ∧
      sanitizeJson (.str "οδος-σ-i\u0307") 5 = (.ok "οδος-σ-i\u0307", 5) ∧
      isNameless (some " \t") = true ∧ sanitizeJson (.str " \t") 0 = (.ok "res-0", 1) ∧
      Text.isBlankText "res-0" = false ∧ sanitizeJson (.str "res-0") 1 = (.ok "res-0", 1) := by
  obtain ⟨hall, hnameless, hnamed⟩ := names_in_sequence
  obtain ⟨results, hrun, -, hnumbered, -, hsettled⟩ := hall (-1) callers
  have hvalues : sanitizeAll (-1) (callers.map request) =
      ["res--1", "οδος-σ-i\u0307", "res-0", "res-0", "res-1"].map .ok := by
    decide +kernel
  have hresults : results = ["res--1", "οδος-σ-i\u0307", "res-0", "res-0", "res-1"] :=
    (List.map_injective_iff.2 fun _ _ => Except.ok.inj) (hrun.symm.trans hvalues)
  have hmem : "οδος-σ-i\u0307" ∈ results := by
    rw [hresults]
    exact List.mem_cons_of_mem _ List.mem_cons_self
  have hblank : isNameless (some " \t") = true := by decide
  have hnot : Text.isBlankText "res-0" = false := by decide
  refine ⟨results, hrun, hresults, ?_, (hsettled _ hmem).2 5, hblank, ?_, hnot, ?_⟩
  · rw [hnumbered]
    decide +kernel
  · exact (hnameless (some " \t") 0 hblank).trans rfl
  · refine (hnamed "res-0" 1 hnot).trans ?_
    decide +kernel

end CloudCanvas.Naming
