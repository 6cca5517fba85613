import ResourceClient.Error

/-! # Summaries of bulk operations

    A bulk operation runs many tasks and keeps the result of each.  Its
    summary sorts the tasks by what their results say about the server: the
    request succeeded, it was rejected, or it may or may not have taken
    effect.  The summary raises nothing by itself.  `Summary.raise` turns
    one with errors into a single compound error: the first error that names
    identifiers, or else the first one, with the identifiers of all the
    errors and with the fate of every item. -/

namespace ResourceClient

/-- What the result of a task says about its request. -/
inductive Fate where
  /-- It succeeded. -/
  | successful
  /-- The server rejected it. -/
  | failed
  /-- It may or may not have taken effect. -/
  | unknown
  deriving DecidableEq, Repr

/-- The fate that a result tells.  Statuses from 500 on leave it open, even
    those that name identifiers; a status below is a rejection, even when it was
    retried in vain. -/
def Fate.ofResult {ρ : Type} : Result ρ → Fate
  | .ok _ => successful
  | .error e =>
    match e.kind with
    | .api error => if error.code < 500 then failed else unknown
    | _ => unknown

/-- The tasks of a bulk operation by their fates, and their results; all in task order. -/
structure Summary (τ ρ : Type) where
  /-- Tasks whose request succeeded. -/
  successful : List τ
  /-- Tasks whose request was rejected. -/
  failed : List τ
  /-- Tasks whose request may or may not have taken effect. -/
  unknown : List τ
  /-- The results of the successful tasks. -/
  results : List ρ
  /-- The errors of the other tasks. -/
  exceptions : List Error

namespace Summary

variable {τ ρ : Type}

/-- The tasks with a fate. -/
def withFate (outcomes : List (τ × Result ρ)) (fate : Fate) : List τ :=
  (outcomes.filter fun o => Fate.ofResult o.2 == fate).map (·.1)

/-- The summary of tasks with their results. -/
def ofOutcomes (outcomes : List (τ × Result ρ)) : Summary τ ρ where
  successful := withFate outcomes .successful
  failed := withFate outcomes .failed
  unknown := withFate outcomes .unknown
  results := outcomes.filterMap fun o =>
    match o.2 with
    | .ok r => some r
    | .error _ => none
  exceptions := outcomes.filterMap fun o =>
    match o.2 with
    | .ok _ => none
    | .error e => some e

/-- Whether a task did not succeed. -/
def hasExceptions (s : Summary τ ρ) : Bool := !s.exceptions.isEmpty

/-- The results as one list, in task order. -/
def joined {υ : Type} (s : Summary τ ρ) (unwrap : ρ → List υ) : List υ :=
  s.results.flatMap unwrap

/-! ## The compound error -/

/-- Appends the values that are not there yet. -/
def mergeUnique (target extra : List Json) : List Json :=
  extra.foldl (fun seen v => if seen.any (·.same v) then seen else seen ++ [v]) target

/-- The values of lists that every reported error holds, each once, in order of appearance. -/
def mergedReports (field : ApiError → List Json) (exceptions : List Error) : List Json :=
  (exceptions.filterMap Error.apiError?).foldl (fun seen e => mergeUnique seen (field e)) []

/-- Whether an error names identifiers that the server holds already or did not find. -/
def namesIdentifiers (e : Error) : Bool :=
  match e.apiError? with
  | some error => error.namesIdentifiers
  | none => false

/-- The error that stands for all: the first that names identifiers, or else the first. -/
def primary? (exceptions : List Error) : Option Error :=
  match exceptions.find? namesIdentifiers with
  | some e => some e
  | none => exceptions.head?

/-- An error with other lists of identifiers, if it has any. -/
def withReports (e : Error) (missing duplicated : List Json) : Error :=
  match e.kind with
  | .api error => { e with kind := .api { error with missing, duplicated } }
  | _ => e

/-- The fate of every item, where `unwrap` gives the items of a task. -/
def itemOutcome (s : Summary τ ρ) (unwrap : τ → List Json) : BulkOutcome where
  successful := s.successful.flatMap unwrap
  failed := s.failed.flatMap unwrap
  unknown := s.unknown.flatMap unwrap

/-- The one error that covers all tasks, if a task did not succeed. -/
def compoundError? (s : Summary τ ρ) (unwrap : τ → List Json) : Option Error :=
  (primary? s.exceptions).map fun e =>
    (withReports e (mergedReports (·.missing) s.exceptions)
      (mergedReports (·.duplicated) s.exceptions)).withOutcome (s.itemOutcome unwrap)

/-- The summary, unless a task did not succeed. -/
def raise (s : Summary τ ρ) (unwrap : τ → List Json) : Result (Summary τ ρ) :=
  match s.compoundError? unwrap with
  | none => .ok s
  | some e => .error e

end Summary

end ResourceClient
