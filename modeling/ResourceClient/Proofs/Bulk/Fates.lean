import Mathlib
import ResourceClient.Proofs.Bulk.Schedule

/-! # What an error says of the fates of tasks

    When tasks fail, the items of all tasks are divided among three lists:
    those of tasks that succeeded, those of tasks that were rejected, and
    those of which nothing is known.  Each list is in the order of the tasks,
    and together they hold every item once (`BulkOutcome.splits_ofFates`).

    `Reported` says what a result tells of the fates of tasks: it is a
    success when all of them are, and otherwise an error that holds every
    item under its fate.  This is so of the raised summary of any tasks
    (`reported_raise_unwrap`). -/

namespace ResourceClient

/-! ## Items by their fates -/

namespace BulkOutcome

/-- The items of the chunks with a fate. -/
def itemsWith (fates : List (List Json × Fate)) (fate : Fate) : List Json :=
  (fates.filter fun f => f.2 = fate).flatMap (·.1)

/-- The items of all chunks, each under the fate of its chunk. -/
def ofFates (fates : List (List Json × Fate)) : BulkOutcome where
  successful := itemsWith fates .successful
  failed := itemsWith fates .failed
  unknown := itemsWith fates .unknown

/-- An outcome that holds every item exactly once, in three lists that keep
    the order of the items. -/
structure Splits (outcome : BulkOutcome) (items : List Json) : Prop where
  successful : outcome.successful.Sublist items
  failed : outcome.failed.Sublist items
  unknown : outcome.unknown.Sublist items
  perm : (outcome.successful ++ outcome.failed ++ outcome.unknown).Perm items

theorem itemsWith_cons (f : List Json × Fate) (fates : List (List Json × Fate)) (fate : Fate) :
    itemsWith (f :: fates) fate =
      if f.2 = fate then f.1 ++ itemsWith fates fate else itemsWith fates fate := by
  unfold itemsWith
  by_cases hfate : f.2 = fate <;> simp [hfate]

theorem itemsWith_sublist (fates : List (List Json × Fate)) (fate : Fate) :
    (itemsWith fates fate).Sublist (fates.flatMap (·.1)) :=
  List.filter_sublist.flatMap _

theorem perm_ofFates (fates : List (List Json × Fate)) :
    ((ofFates fates).successful ++ (ofFates fates).failed ++ (ofFates fates).unknown).Perm
      (fates.flatMap (·.1)) := by
  induction fates with
  | nil => exact .nil
  | cons f fates ih =>
    simp only [ofFates, itemsWith_cons, List.flatMap_cons] at ih ⊢
    cases f.2 with
    | successful =>
      simp only [reduceCtorEq, if_false, if_true, List.append_assoc] at ih ⊢
      exact ih.append_left f.1
    | failed =>
      -- the chunk stands behind the successful ones and is moved to the front
      simp only [reduceCtorEq, if_false, if_true, List.append_assoc] at ih ⊢
      exact (List.perm_append_comm_assoc _ _ _).trans (ih.append_left f.1)
    | unknown =>
      simp only [reduceCtorEq, if_false, if_true] at ih ⊢
      exact (List.perm_append_comm_assoc _ _ _).trans (ih.append_left f.1)

theorem splits_ofFates (fates : List (List Json × Fate)) :
    (ofFates fates).Splits (fates.flatMap (·.1)) where
  successful := itemsWith_sublist fates .successful
  failed := itemsWith_sublist fates .failed
  unknown := itemsWith_sublist fates .unknown
  perm := perm_ofFates fates

end BulkOutcome

/-! ## Results that report fates -/

/-- A result that tells the fates of chunks if it is an error. -/
def ReportsOnError {β : Type} (result : Result β) (fates : List (List Json × Fate)) : Prop :=
  ∀ e, result = .error e → e.outcome = some (.ofFates fates)

/-- A result that is a success exactly when all chunks are successful, and
    tells their fates otherwise. -/
def Reported {β : Type} (result : Result β) (fates : List (List Json × Fate)) : Prop :=
  ((∃ b, result = .ok b) ↔ ∀ f ∈ fates, f.2 = .successful) ∧ ReportsOnError result fates

section reported

variable {τ β γ ρ : Type} {fates : List (List Json × Fate)}

theorem ReportsOnError.map {result : Result β} (h : ReportsOnError result fates) (g : β → γ) :
    ReportsOnError (result.map g) fates := by
  intro e he
  cases result with
  | ok b => cases he
  | error e' =>
    cases he
    exact h e rfl

theorem Reported.map {result : Result β} (h : Reported result fates) (g : β → γ) :
    Reported (result.map g) fates := by
  refine ⟨?_, h.2.map g⟩
  rw [← h.1]
  cases result with
  | ok b => exact ⟨fun _ => ⟨b, rfl⟩, fun _ => ⟨g b, rfl⟩⟩
  | error e =>
    constructor
    · rintro ⟨_, hb⟩
      cases hb
    · rintro ⟨_, hb⟩
      cases hb

/-- The fates of tasks with their results. -/
def fatesOf (outcomes : List (List Json × Result ρ)) : List (List Json × Fate) :=
  outcomes.map fun o => (o.1, Fate.ofResult o.2)

theorem flatMap_withFate (unwrap : τ → List Json) (outcomes : List (τ × Result ρ)) (fate : Fate) :
    (Summary.withFate outcomes fate).flatMap unwrap =
      BulkOutcome.itemsWith (outcomes.map fun o => (unwrap o.1, Fate.ofResult o.2)) fate := by
  induction outcomes with
  | nil => rfl
  | cons o os ih =>
    unfold Summary.withFate at ih ⊢
    rw [List.map_cons, BulkOutcome.itemsWith_cons, List.filter_cons]
    by_cases hfate : Fate.ofResult o.2 = fate
    · simp only [hfate, beq_self_eq_true, if_true, List.map_cons, List.flatMap_cons, ih]
    · simp only [beq_eq_false_iff_ne.2 hfate, Bool.false_eq_true, if_false, hfate, ih]

theorem withOutcome_compoundError? {s : Summary τ ρ} {unwrap : τ → List Json} {e : Error}
    (h : s.compoundError? unwrap = some e) : e.outcome = some (s.itemOutcome unwrap) := by
  obtain ⟨e', -, rfl⟩ := Option.map_eq_some_iff.1 h
  rfl

/-- Errors of tasks make a compound error. -/
theorem compoundError?_eq_none {s : Summary τ ρ} {unwrap : τ → List Json} :
    s.compoundError? unwrap = none ↔ s.exceptions = [] := by
  unfold Summary.compoundError? Summary.primary?
  rw [Option.map_eq_none_iff]
  cases hexceptions : s.exceptions with
  | nil => simp
  | cons e es =>
    cases (e :: es).find? Summary.namesIdentifiers <;> simp

theorem exceptions_eq_nil_iff {outcomes : List (τ × Result ρ)} :
    (Summary.ofOutcomes outcomes).exceptions = [] ↔
      ∀ o ∈ outcomes, Fate.ofResult o.2 = .successful := by
  induction outcomes with
  | nil => simp [Summary.ofOutcomes]
  | cons o os ih =>
    obtain ⟨t, r⟩ := o
    rw [List.forall_mem_cons]
    cases r with
    | ok a => exact ih.trans (by simp [Fate.ofResult])
    | error e =>
      have hnot : Fate.ofResult (.error e : Result ρ) ≠ .successful := by
        intro hfate
        obtain ⟨a, ha⟩ := Summary.fate_successful hfate
        cases ha
      simp [Summary.ofOutcomes, hnot]

/-- Raising the summary of tasks reports their fates, with what is unwrapped
    of the tasks. -/
theorem reported_raise_unwrap (unwrap : τ → List Json) (outcomes : List (τ × Result ρ)) :
    Reported ((Summary.ofOutcomes outcomes).raise unwrap)
      (outcomes.map fun o => (unwrap o.1, Fate.ofResult o.2)) := by
  have hfates : (∀ f ∈ outcomes.map fun o => (unwrap o.1, Fate.ofResult o.2), f.2 = .successful) ↔
      (Summary.ofOutcomes outcomes).compoundError? unwrap = none := by
    rw [compoundError?_eq_none, exceptions_eq_nil_iff, List.forall_mem_map]
  unfold Reported
  rw [hfates]
  unfold Summary.raise
  cases hcompound : (Summary.ofOutcomes outcomes).compoundError? unwrap with
  | none => exact ⟨⟨fun _ => rfl, fun _ => ⟨_, rfl⟩⟩, fun e he => by cases he⟩
  | some e =>
    refine ⟨⟨?_, fun hnone => by cases hnone⟩, ?_⟩
    · rintro ⟨s, hs⟩
      cases hs
    · intro e' he'
      obtain rfl := Except.error.inj he'
      rw [withOutcome_compoundError? hcompound]
      simp only [Summary.itemOutcome, Summary.ofOutcomes, flatMap_withFate, BulkOutcome.ofFates]

theorem reported_raise (outcomes : List (List Json × Result ρ)) :
    Reported ((Summary.ofOutcomes outcomes).raise id) (fatesOf outcomes) :=
  reported_raise_unwrap id outcomes

/-- What is raised does not depend on what the results are made into. -/
theorem raise_joined_map (g : β → γ) (outcomes : List (List Json × Result (List β))) :
    ((Summary.ofOutcomes (outcomes.map fun o => (o.1, o.2.map (List.map g)))).raise id).map
        (·.joined id) =
      (((Summary.ofOutcomes outcomes).raise id).map (·.joined id)).map (List.map g) := by
  let mapped := outcomes.map fun o => (o.1, o.2.map (List.map g))
  have hfate (fate : Fate) : Summary.withFate mapped fate = Summary.withFate outcomes fate := by
    have hsame (r : Result (List β)) : Fate.ofResult (r.map (List.map g)) = Fate.ofResult r := by
      cases r <;> rfl
    simp [mapped, Summary.withFate, List.filter_map, Function.comp_def, hsame]
  have hexceptions : (Summary.ofOutcomes mapped).exceptions =
      (Summary.ofOutcomes outcomes).exceptions := by
    simp only [mapped, Summary.ofOutcomes, List.filterMap_map]
    congr 1
    funext o
    obtain ⟨t, r⟩ := o
    cases r <;> rfl
  have hresults : (Summary.ofOutcomes mapped).results =
      (Summary.ofOutcomes outcomes).results.map (List.map g) := by
    simp only [mapped, Summary.ofOutcomes, List.filterMap_map, List.map_filterMap]
    congr 1
    funext o
    obtain ⟨t, r⟩ := o
    cases r <;> rfl
  have hcompound : (Summary.ofOutcomes mapped).compoundError? id =
      (Summary.ofOutcomes outcomes).compoundError? id := by
    unfold Summary.compoundError? Summary.itemOutcome
    rw [hexceptions]
    simp only [Summary.ofOutcomes, hfate]
  unfold Summary.raise
  rw [hcompound]
  cases (Summary.ofOutcomes outcomes).compoundError? id with
  | some e => rfl
  | none =>
    have hjoined : (Summary.ofOutcomes mapped).joined id =
        ((Summary.ofOutcomes outcomes).joined id).map g := by
      simp only [Summary.joined, hresults, List.flatMap_id, List.map_flatten]
    exact congrArg Except.ok hjoined

end reported

/-! ## Fates of errors -/

theorem ApiError.code_ofReply (code : Nat) (body : ByteArray) (id : Option String) :
    (ApiError.ofReply code body id).code = code := by
  unfold ApiError.ofReply
  dsimp only
  split <;> rfl

/-- A reply that is no success leaves open what happened from 500 on. -/
theorem Fate.ofResult_error_response {ρ : Type} (r : Http.Response) :
    Fate.ofResult (.error r.error : Result ρ) = if r.status < 500 then .failed else .unknown := by
  simp only [Fate.ofResult, Http.Response.error, Error.api, ApiError.code_ofReply]

/-- An error that is no answer of the server leaves open what happened. -/
theorem Fate.ofResult_error {ρ : Type} {e : Error} (h : ∀ a, e.kind ≠ .api a) :
    Fate.ofResult (.error e : Result ρ) = .unknown := by
  unfold Fate.ofResult
  dsimp only
  split
  · next a hkind => exact absurd hkind (h a)
  · rfl

end ResourceClient
