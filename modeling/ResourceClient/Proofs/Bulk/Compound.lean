import Mathlib
import ResourceClient.Bulk.Summary

/-! # The compound error of a bulk operation

    When tasks fail, one error stands for all of them.  It is that of one
    task, the first whose error names identifiers or else the first of all
    (`IsPrimary`), except that it holds the identifiers of all the errors.

    Merging lists of identifiers goes through them once and keeps what has
    not been seen.  The invariant (`Json.MergedOnce`) speaks of places: the
    values kept so far are those at the places where a value appears for the
    first time, in the order of these places.  So a value is never lost and
    never doubled, and the error that stands for all reports missing
    identifiers exactly when one of the errors does
    (`compound_error_keeps_identifiers`). -/

namespace ResourceClient

/-! ## Values that are kept once -/

namespace Json

/-- A place of a list at which a value appears for the first time. -/
def IsFirstPlace (all : List Json) (i : Nat) : Prop :=
  ∃ v, all[i]? = some v ∧ ∀ u ∈ all.take i, u.same v = false

/-- A list that holds the values of another one, each of them once and in the
    order in which they appear first. -/
structure MergedOnce (merged all : List Json) : Prop where
  /-- Each value is there exactly once. -/
  once : ∀ v ∈ all, merged.countP (·.same v) = 1
  /-- The list is made of the first places, from left to right. -/
  in_order : ∃ places : List Nat, places.Pairwise (· < ·) ∧ (∀ i ∈ places, IsFirstPlace all i) ∧
    merged.map some = places.map fun i => all[i]?

section merged

variable {merged all : List Json} {v w : Json}

theorem mergedOnce_nil : MergedOnce [] [] where
  once := by simp
  in_order := ⟨[], .nil, by simp, rfl⟩

/-- A place stays a first place when values are added behind. -/
theorem IsFirstPlace.append {i : Nat} (h : IsFirstPlace all i) (later : List Json) :
    IsFirstPlace (all ++ later) i := by
  obtain ⟨v, hv, hbefore⟩ := h
  have hi : i < all.length := (List.getElem?_eq_some_iff.1 hv).1
  refine ⟨v, ?_, ?_⟩
  · rw [List.getElem?_append_left hi]
    exact hv
  · rw [List.take_append_of_le_length hi.le]
    exact hbefore

/-- What is kept is taken from the list. -/
theorem MergedOnce.mem (h : MergedOnce merged all) (hv : v ∈ merged) : v ∈ all := by
  obtain ⟨places, -, -, hplaces⟩ := h.in_order
  have hsome : some v ∈ places.map fun i => all[i]? := by
    rw [← hplaces]
    exact List.mem_map_of_mem hv
  obtain ⟨i, -, hi⟩ := List.mem_map.1 hsome
  exact List.mem_of_getElem? hi

/-- A value of the list is kept, itself or as one that is the same. -/
theorem MergedOnce.exists_same (h : MergedOnce merged all) (hv : v ∈ all) :
    ∃ u ∈ merged, u.same v = true := by
  have hcount := h.once v hv
  exact List.countP_pos_iff.1 (by omega)

/-- Values that are the same are counted alike. -/
theorem countP_same_congr (h : v.same w = true) (vs : List Json) :
    vs.countP (·.same v) = vs.countP (·.same w) := by
  apply List.countP_congr
  intro u _
  constructor
  · intro huv
    exact same_trans u v w huv h
  · intro huw
    have hwv : w.same v = true := (same_comm w v).trans h
    exact same_trans u w v huw hwv

/-- A value that is there already is passed over. -/
theorem MergedOnce.skip (h : MergedOnce merged all) {u : Json} (hu : u ∈ merged)
    (huv : u.same v = true) : MergedOnce merged (all ++ [v]) where
  once := by
    intro w hw
    rcases List.mem_append.1 hw with hold | hnew
    · exact h.once w hold
    · obtain rfl : w = v := List.mem_singleton.1 hnew
      rw [← countP_same_congr huv]
      exact h.once u (h.mem hu)
  in_order := by
    obtain ⟨places, hsorted, hfirst, hplaces⟩ := h.in_order
    refine ⟨places, hsorted, fun i hi => (hfirst i hi).append [v], ?_⟩
    rw [hplaces]
    apply List.map_congr_left
    intro i hi
    obtain ⟨w, hw, -⟩ := hfirst i hi
    exact (List.getElem?_append_left (List.getElem?_eq_some_iff.1 hw).1).symm

/-- A value that is not there is added at the end. -/
theorem MergedOnce.add (h : MergedOnce merged all) (hnew : ∀ u ∈ merged, u.same v = false) :
    MergedOnce (merged ++ [v]) (all ++ [v]) := by
  -- the value is not among those gone through either, since they are kept
  have hfresh : ∀ w ∈ all, w.same v = false := by
    intro w hw
    obtain ⟨u, hu, huw⟩ := h.exists_same hw
    by_contra hwv
    have huv := same_trans u w v huw (Bool.eq_true_of_not_eq_false hwv)
    rw [hnew u hu] at huv
    cases huv
  constructor
  · intro w hw
    rw [List.countP_append, List.countP_singleton]
    rcases List.mem_append.1 hw with hold | hlast
    · have hvw : v.same w = false := (same_comm v w).trans (hfresh w hold)
      rw [h.once w hold, hvw]
      rfl
    · obtain rfl : w = v := List.mem_singleton.1 hlast
      have hnone : merged.countP (·.same w) = 0 := by
        rw [List.countP_eq_zero]
        intro u hu
        rw [hnew u hu]
        exact Bool.false_ne_true
      rw [hnone, same_refl]
      rfl
  · obtain ⟨places, hsorted, hfirst, hplaces⟩ := h.in_order
    have hlt : ∀ i ∈ places, i < all.length := by
      intro i hi
      obtain ⟨w, hw, -⟩ := hfirst i hi
      exact (List.getElem?_eq_some_iff.1 hw).1
    refine ⟨places ++ [all.length], ?_, ?_, ?_⟩
    · rw [List.pairwise_append]
      refine ⟨hsorted, List.pairwise_singleton _ _, ?_⟩
      intro i hi j hj
      rw [List.mem_singleton.1 hj]
      exact hlt i hi
    · intro i hi
      rcases List.mem_append.1 hi with hold | hlast
      · exact (hfirst i hold).append [v]
      · rw [List.mem_singleton.1 hlast]
        exact ⟨v, List.getElem?_concat_length, by rwa [List.take_left]⟩
    · rw [List.map_append, List.map_append, hplaces]
      congr 1
      · apply List.map_congr_left
        intro i hi
        exact (List.getElem?_append_left (hlt i hi)).symm
      · simp

end merged

end Json

/-! ## Merging the identifiers of errors -/

namespace Summary

open Json

/-- Merging goes on with the values of another list. -/
theorem mergedOnce_mergeUnique {merged all : List Json} (h : MergedOnce merged all)
    (extra : List Json) : MergedOnce (mergeUnique merged extra) (all ++ extra) := by
  induction extra generalizing merged all with
  | nil =>
    rw [List.append_nil]
    exact h
  | cons v extra ih =>
    have hstep : MergedOnce (if merged.any (·.same v) then merged else merged ++ [v])
        (all ++ [v]) := by
      by_cases hseen : merged.any (·.same v) = true
      · rw [if_pos hseen]
        obtain ⟨u, hu, huv⟩ := List.any_eq_true.1 hseen
        exact h.skip hu huv
      · rw [if_neg hseen]
        have hnew := List.any_eq_false.1 (Bool.eq_false_of_not_eq_true hseen)
        exact h.add fun u hu => Bool.eq_false_of_not_eq_true (hnew u hu)
    have hrest := ih hstep
    rw [List.append_assoc] at hrest
    exact hrest

/-- Values that differ from those before them are all added. -/
theorem mergeUnique_of_distinct {seen extra : List Json}
    (h : (seen ++ extra).Pairwise fun u v => u.same v = false) :
    mergeUnique seen extra = seen ++ extra := by
  induction extra generalizing seen with
  | nil => exact (List.append_nil seen).symm
  | cons v extra ih =>
    have hnew : seen.any (·.same v) = false := by
      rw [List.any_eq_false]
      intro u hu
      rw [(List.pairwise_append.1 h).2.2 u hu v List.mem_cons_self]
      exact Bool.false_ne_true
    rw [List.append_cons] at h ⊢
    rw [mergeUnique, List.foldl_cons, hnew]
    exact ih h

/-- The lists under a field of all errors that are answers of the server, one
    after the other. -/
def reported (field : ApiError → List Json) (exceptions : List Error) : List Json :=
  exceptions.flatMap fun e =>
    match e.kind with
    | .api a => field a
    | _ => []

theorem reported_eq (field : ApiError → List Json) (exceptions : List Error) :
    reported field exceptions = (exceptions.filterMap Error.apiError?).flatMap field := by
  induction exceptions with
  | nil => rfl
  | cons e exceptions ih =>
    rw [reported, List.flatMap_cons, ← reported, ih, List.filterMap_cons, Error.apiError?]
    cases e.kind <;> rfl

/-- The merged lists hold every value of the lists once. -/
theorem mergedOnce_mergedReports (field : ApiError → List Json) (exceptions : List Error) :
    MergedOnce (mergedReports field exceptions) (reported field exceptions) := by
  rw [reported_eq]
  have hfold (answers : List ApiError) {merged all : List Json} (h : MergedOnce merged all) :
      MergedOnce (answers.foldl (fun seen a => mergeUnique seen (field a)) merged)
        (all ++ answers.flatMap field) := by
    induction answers generalizing merged all with
    | nil =>
      rw [List.flatMap_nil, List.append_nil]
      exact h
    | cons a answers ih =>
      rw [List.flatMap_cons, ← List.append_assoc]
      exact ih (mergedOnce_mergeUnique h (field a))
  exact hfold (exceptions.filterMap Error.apiError?) mergedOnce_nil

/-- Whether an error is an answer of the server that names a value under a
    field. -/
def NamesUnder (field : ApiError → List Json) (e : Error) (v : Json) : Prop :=
  ∃ a, e.kind = .api a ∧ ∃ u ∈ field a, u.same v = true

theorem mem_reported_iff {field : ApiError → List Json} {exceptions : List Error} {v : Json} :
    v ∈ reported field exceptions ↔ ∃ e ∈ exceptions, ∃ a, e.kind = .api a ∧ v ∈ field a := by
  unfold reported
  rw [List.mem_flatMap]
  constructor
  · rintro ⟨e, he, hv⟩
    split at hv
    · next a ha => exact ⟨e, he, a, ha, hv⟩
    · cases hv
  · rintro ⟨e, he, a, ha, hv⟩
    refine ⟨e, he, ?_⟩
    simp only [ha]
    exact hv

/-- An error whose list is merged from those of others names what one of them
    names, as long as it has lists at all when one of them is not empty. -/
theorem namesUnder_iff_of_mergedOnce {field : ApiError → List Json} {exceptions : List Error}
    {e : Error} (hmerged : ∀ b, e.kind = .api b → MergedOnce (field b) (reported field exceptions))
    (hlists : ∀ x ∈ exceptions, ∀ a, x.kind = .api a → field a ≠ [] → ∃ b, e.kind = .api b)
    (v : Json) : NamesUnder field e v ↔ ∃ x ∈ exceptions, NamesUnder field x v := by
  constructor
  · rintro ⟨b, hb, u, hu, huv⟩
    obtain ⟨x, hx, a, ha, hmem⟩ := mem_reported_iff.1 ((hmerged b hb).mem hu)
    exact ⟨x, hx, a, ha, u, hmem, huv⟩
  · rintro ⟨x, hx, a, ha, u, hu, huv⟩
    obtain ⟨b, hb⟩ := hlists x hx a ha (List.ne_nil_of_mem hu)
    obtain ⟨u', hu', hsame⟩ := (hmerged b hb).exists_same (mem_reported_iff.2 ⟨x, hx, a, ha, hu⟩)
    exact ⟨b, hb, u', hu', same_trans u' u v hsame huv⟩

theorem isNotFound_iff (e : Error) :
    e.isNotFound = true ↔ ∃ v, NamesUnder (·.missing) e v := by
  unfold Error.isNotFound Error.apiError? NamesUnder
  constructor
  · intro h
    cases hkind : e.kind with
    | api a =>
      simp only [hkind, Bool.not_eq_true', List.isEmpty_eq_false_iff] at h
      obtain ⟨v, hv⟩ := List.exists_mem_of_ne_nil _ h
      exact ⟨v, a, rfl, v, hv, same_refl v⟩
    | _ => simp [hkind] at h
  · rintro ⟨v, a, ha, u, hu, -⟩
    simp only [ha, Bool.not_eq_true', List.isEmpty_eq_false_iff]
    exact List.ne_nil_of_mem hu

/-! ## The error that stands for all -/

/-- An answer of the server that names identifiers. -/
def Names (e : Error) : Prop := ∃ a, e.kind = .api a ∧ (a.missing ≠ [] ∨ a.duplicated ≠ [])

/-- The error that stands for all of them. -/
inductive IsPrimary (exceptions : List Error) (e : Error) : Prop where
  /-- It is the first that names identifiers. -/
  | naming {before after : List Error} (hsplit : exceptions = before ++ e :: after)
      (hnames : Names e) (hbefore : ∀ x ∈ before, ¬ Names x)
  /-- None names any, and it is the first of all. -/
  | first {after : List Error} (hsplit : exceptions = e :: after)
      (hnone : ∀ x ∈ exceptions, ¬ Names x)

theorem namesIdentifiers_iff (e : Error) : namesIdentifiers e = true ↔ Names e := by
  unfold namesIdentifiers Names Error.apiError?
  cases e.kind with
  | api a =>
    simp only [ApiError.namesIdentifiers, Bool.or_eq_true, Bool.not_eq_true',
      List.isEmpty_eq_false_iff, ErrorKind.api.injEq, exists_eq_left']
  | _ => simp

theorem exists_primary {exceptions : List Error} (h : exceptions ≠ []) :
    ∃ e, primary? exceptions = some e ∧ IsPrimary exceptions e := by
  unfold primary?
  cases hfind : exceptions.find? namesIdentifiers with
  | some e =>
    obtain ⟨hnames, before, after, hsplit, hbefore⟩ := List.find?_eq_some_iff_append.1 hfind
    refine ⟨e, rfl, .naming hsplit ((namesIdentifiers_iff e).1 hnames) ?_⟩
    intro x hx hnot
    have hx' := hbefore x hx
    rw [(namesIdentifiers_iff x).2 hnot] at hx'
    cases hx'
  | none =>
    obtain ⟨e, after, hsplit⟩ := List.exists_cons_of_ne_nil h
    refine ⟨e, by rw [hsplit]; rfl, .first hsplit ?_⟩
    intro x hx hnot
    exact List.find?_eq_none.1 hfind x hx ((namesIdentifiers_iff x).2 hnot)

/-- When an error names identifiers, so does the one that stands for all. -/
theorem IsPrimary.names {exceptions : List Error} {e : Error} (h : IsPrimary exceptions e)
    {x : Error} (hx : x ∈ exceptions) (hnames : Names x) : Names e := by
  cases h with
  | naming _ he _ => exact he
  | first _ hnone => exact absurd hnames (hnone x hx)

theorem IsPrimary.mem {exceptions : List Error} {e : Error} (h : IsPrimary exceptions e) :
    e ∈ exceptions := by
  cases h with
  | naming hsplit _ _ => simp [hsplit]
  | first hsplit _ => simp [hsplit]

/-- Putting other lists into an error changes nothing else about it. -/
theorem kind_withReports_of_api {e : Error} {a : ApiError} (h : e.kind = .api a)
    (missing duplicated : List Json) :
    (withReports e missing duplicated).kind = .api { a with missing, duplicated } := by
  simp only [withReports, h]

theorem withReports_of_ne_api {e : Error} (h : ∀ a, e.kind ≠ .api a)
    (missing duplicated : List Json) : withReports e missing duplicated = e := by
  unfold withReports
  split
  · next a ha => exact absurd ha (h a)
  · rfl

theorem context_withReports (e : Error) (missing duplicated : List Json) :
    (withReports e missing duplicated).context = e.context ∧
      (withReports e missing duplicated).source = e.source := by
  unfold withReports
  split <;> exact ⟨rfl, rfl⟩

/-- The compound error is the one that stands for all, with the merged lists
    of identifiers if it has lists. -/
structure IsCompound (exceptions : List Error) (primary e : Error) : Prop where
  /-- It stands for all. -/
  isPrimary : IsPrimary exceptions primary
  /-- It happened in the same place. -/
  context_eq : e.context = primary.context
  /-- It has the same error underneath. -/
  source_eq : e.source = primary.source
  /-- Without lists it is of the same kind. -/
  other : (∀ a, primary.kind ≠ .api a) → e.kind = primary.kind
  /-- An answer of the server has the merged lists. -/
  answer : ∀ a, primary.kind = .api a → e.kind = .api { a with
    missing := mergedReports (·.missing) exceptions
    duplicated := mergedReports (·.duplicated) exceptions }

theorem exists_isCompound {τ ρ : Type} {s : Summary τ ρ} (hfailed : s.exceptions ≠ [])
    (unwrap : τ → List Json) :
    ∃ e primary, s.raise unwrap = .error e ∧ IsCompound s.exceptions primary e := by
  obtain ⟨primary, hprimary, his⟩ := exists_primary hfailed
  let e := withReports primary (mergedReports (·.missing) s.exceptions)
    (mergedReports (·.duplicated) s.exceptions)
  have hraise : s.raise unwrap = .error (e.withOutcome (s.itemOutcome unwrap)) := by
    unfold raise compoundError?
    rw [hprimary]
    rfl
  obtain ⟨hcontext, hsource⟩ := context_withReports primary
    (mergedReports (·.missing) s.exceptions) (mergedReports (·.duplicated) s.exceptions)
  refine ⟨_, primary, hraise, his, hcontext, hsource, ?_, ?_⟩
  · intro hnot
    show e.kind = primary.kind
    exact congrArg Error.kind (withReports_of_ne_api hnot _ _)
  · intro a ha
    exact kind_withReports_of_api ha _ _

section compound

variable {exceptions : List Error} {primary e : Error}

/-- The compound error has lists whenever one of the errors names something. -/
theorem IsCompound.exists_api (h : IsCompound exceptions primary e) {x : Error}
    (hx : x ∈ exceptions) (hnames : Names x) : ∃ b, e.kind = .api b := by
  obtain ⟨a, ha, -⟩ := h.isPrimary.names hx hnames
  exact ⟨_, h.answer a ha⟩

/-- And they are the merged ones. -/
theorem IsCompound.lists_eq (h : IsCompound exceptions primary e) {b : ApiError}
    (hb : e.kind = .api b) : b.missing = mergedReports (·.missing) exceptions ∧
      b.duplicated = mergedReports (·.duplicated) exceptions := by
  by_cases hkind : ∃ a, primary.kind = .api a
  · obtain ⟨a, ha⟩ := hkind
    obtain rfl := ErrorKind.api.inj ((h.answer a ha).symm.trans hb)
    exact ⟨rfl, rfl⟩
  · rw [h.other (not_exists.1 hkind)] at hb
    exact absurd ⟨b, hb⟩ hkind

theorem IsCompound.names_missing (h : IsCompound exceptions primary e) (v : Json) :
    NamesUnder (·.missing) e v ↔ ∃ x ∈ exceptions, NamesUnder (·.missing) x v := by
  refine namesUnder_iff_of_mergedOnce (fun b hb => ?_) (fun x hx a ha hne => ?_) v
  · rw [(h.lists_eq hb).1]
    exact mergedOnce_mergedReports _ exceptions
  · exact h.exists_api hx ⟨a, ha, Or.inl hne⟩

theorem IsCompound.names_duplicated (h : IsCompound exceptions primary e) (v : Json) :
    NamesUnder (·.duplicated) e v ↔ ∃ x ∈ exceptions, NamesUnder (·.duplicated) x v := by
  refine namesUnder_iff_of_mergedOnce (fun b hb => ?_) (fun x hx a ha hne => ?_) v
  · rw [(h.lists_eq hb).2]
    exact mergedOnce_mergedReports _ exceptions
  · exact h.exists_api hx ⟨a, ha, Or.inr hne⟩

theorem IsCompound.isNotFound_iff (h : IsCompound exceptions primary e) :
    e.isNotFound = true ↔ ∃ x ∈ exceptions, x.isNotFound = true := by
  simp only [Summary.isNotFound_iff, h.names_missing]
  constructor
  · rintro ⟨v, x, hx, hv⟩
    exact ⟨x, hx, v, hv⟩
  · rintro ⟨x, hx, v, hv⟩
    exact ⟨v, x, hx, hv⟩

end compound

/-- **Compound errors lose no identifier.**  The summary of tasks of which
    some failed is raised as the error that stands for all, with its kind,
    its context and its source.  If that is an answer of the server, then it
    has its status, message, request id and further members, and its lists
    hold the identifiers of all the errors, each once, in the order in which
    they appear first.  So the compound error names an identifier exactly
    when one of the errors does, and identifiers are missing exactly when
    one of the errors says so. -/
theorem compound_error_keeps_identifiers {τ ρ : Type} (s : Summary τ ρ)
    (unwrap : τ → List Json) (hfailed : s.exceptions ≠ []) :
    ∃ e primary, s.raise unwrap = .error e ∧ IsPrimary s.exceptions primary ∧
      e.context = primary.context ∧ e.source = primary.source ∧
      ((∀ a, primary.kind ≠ .api a) → e.kind = primary.kind) ∧
      (∀ a, primary.kind = .api a → ∃ missing duplicated,
        e.kind = .api { a with missing, duplicated } ∧
        MergedOnce missing (reported (·.missing) s.exceptions) ∧
        MergedOnce duplicated (reported (·.duplicated) s.exceptions)) ∧
      (∀ v, NamesUnder (·.missing) e v ↔ ∃ x ∈ s.exceptions, NamesUnder (·.missing) x v) ∧
      (∀ v, NamesUnder (·.duplicated) e v ↔ ∃ x ∈ s.exceptions, NamesUnder (·.duplicated) x v) ∧
      (e.isNotFound = true ↔ ∃ x ∈ s.exceptions, x.isNotFound = true) := by
  obtain ⟨e, primary, hraise, h⟩ := exists_isCompound hfailed unwrap
  refine ⟨e, primary, hraise, h.isPrimary, h.context_eq, h.source_eq, h.other, ?_,
    h.names_missing, h.names_duplicated, h.isNotFound_iff⟩
  intro a ha
  exact ⟨_, _, h.answer a ha, mergedOnce_mergedReports _ _, mergedOnce_mergedReports _ _⟩

/-- A reply that something was not found. -/
def notFound (missing : List Json) : Error := .api { ApiError.ofCode 400 with missing }

/-- Four tasks that failed: without an answer, by a breakdown of the server,
    and twice because something was not found. -/
def fourFailed : Summary Json Json where
  successful := []
  failed := [.int 3, .int 4]
  unknown := [.int 1, .int 2]
  results := []
  exceptions := [{ kind := .readTimeout }, .api (.ofCode 503), notFound [.int 7, .int 8],
    notFound [.int 8, .int 9]]

/-- The third error stands for all of them, and names what the fourth
    names. -/
theorem compound_error_of_four_failed :
    fourFailed.exceptions ≠ [] ∧
      ∃ e, fourFailed.raise (fun v => [v]) = .error e ∧ e.statusCode? = some 400 ∧
        e.isNotFound = true ∧ NamesUnder (·.missing) e (.int 9) := by
  have hfailed : fourFailed.exceptions ≠ [] := List.cons_ne_nil _ _
  obtain ⟨e, primary, hraise, -, -, -, -, -, hmissing, -, hfound⟩ :=
    compound_error_keeps_identifiers fourFailed (fun v => [v]) hfailed
  have hlast : notFound [.int 8, .int 9] ∈ fourFailed.exceptions := by
    simp [fourFailed]
  refine ⟨hfailed, e, hraise, ?_, hfound.2 ⟨_, hlast, rfl⟩, (hmissing _).2 ⟨_, hlast, ?_⟩⟩
  · obtain rfl := Except.error.inj hraise
    rfl
  · exact ⟨_, rfl, .int 9, by simp, same_refl _⟩

end Summary

end ResourceClient
