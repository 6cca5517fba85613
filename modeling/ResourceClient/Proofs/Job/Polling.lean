import Mathlib
import ResourceClient.Proofs.Dialogue.Worlds
import ResourceClient.Proofs.Job.Coherence

/-! # Waiting for a job

    A wait asks for the document of the job again and again (`Job.Polls`).
    There are four ways in which such a poll can end the wait
    (`Poll.Ends`): it fails, the job has completed, the job has failed, or
    the time is up.

    One turn of the loop makes one poll, and goes on if that does not end the
    wait (`Job.Polls.passes`).  So in every world the wait comes to what the
    first poll says that ends it, or there is no such poll and any budget is
    used up (`polling_ends`).

    A job that was started and followed has the status that its document
    reports (`Collection.HasJob.isFaithful`), and this is why the document
    that `Job.result` gives is one of a completed job. -/

namespace ResourceClient

open Dialogue

/-! ## Polls -/

/-- The report and the document that an inquiry comes to. -/
def Inquiry.answer (i : Inquiry) : Result (JobReport × Json) :=
  Client.successful i.outcome >>= Job.reportOf

/-- A turn of a wait: what asking for the document comes to, and what the
    clock shows after it, if it is looked at. -/
structure Poll where
  /-- The request for the document. -/
  inquiry : Inquiry
  /-- The time. -/
  now : Option Nat

theorem Inquiry.decode_of_document? {i : Inquiry} {report : JobReport} {document : Json}
    (h : i.document? = some (report, document)) : JobReport.decode document = .ok report := by
  unfold document? at h
  cases hresponse : Client.successful i.outcome with
  | error e =>
    rw [hresponse] at h
    cases h
  | ok response =>
    have hreport : (Job.reportOf response).toOption = some (report, document) := by
      rwa [hresponse] at h
    unfold Job.reportOf at hreport
    cases hjson : response.json with
    | error e =>
      rw [hjson] at hreport
      cases hreport
    | ok value =>
      cases hdecode : JobReport.decode value with
      | error e =>
        simp only [hjson, hdecode, Bind.bind, Except.bind, Except.toOption] at hreport
        cases hreport
      | ok found =>
        simp only [hjson, hdecode, Bind.bind, Except.bind] at hreport
        cases hreport
        exact hdecode

namespace Poll

/-- What a poll brings a wait to that it ends.  The wait began at `started`
    and is for the job with the number `id`. -/
inductive Ends (timeout : Option Nat) (started : Nat) (id : Int64) (p : Poll) :
    Result JobStatus → Prop where
  /-- The poll fails. -/
  | error {e : Error} (h : p.inquiry.answer = .error e) : Ends timeout started id p (.error e)
  /-- The job has completed. -/
  | completed {report : JobReport} {document : Json}
      (h : p.inquiry.answer = .ok (report, document)) (hstatus : report.status = .completed) :
      Ends timeout started id p (.ok .completed)
  /-- The job has failed, and the document says why. -/
  | failed {report : JobReport} {document : Json}
      (h : p.inquiry.answer = .ok (report, document)) (hstatus : report.status = .failed) :
      Ends timeout started id p
        (.error { kind := .jobFailed id (report.errorMessage.getD "unknown error") })
  /-- The job is not at its end, and the time is up. -/
  | late {report : JobReport} {document : Json} {limit now : Nat}
      (h : p.inquiry.answer = .ok (report, document)) (hopen : report.status.isTerminal = false)
      (hlimit : timeout = some limit) (hnow : p.now = some now) (hlate : limit ≤ now - started) :
      Ends timeout started id p (.ok report.status)

/-- Whether the time is up at a poll. -/
def isLate (timeout : Option Nat) (started : Nat) (p : Poll) : Bool :=
  timeout.any fun limit => p.now.any fun now => limit ≤ now - started

/-- What a poll brings a wait for a job to, if it ends it. -/
def outcome? (timeout : Option Nat) (started : Nat) (job : Job) (p : Poll) :
    Option (Result JobStatus) :=
  match p.inquiry.answer with
  | .error e => some (.error e)
  | .ok (report, document) =>
    match (job.apply report document).settled? with
    | some outcome => some outcome
    | none => if p.isLate timeout started then some (.ok report.status) else none

variable {timeout : Option Nat} {started : Nat} {job : Job} {p : Poll}

theorem isLate_iff : p.isLate timeout started = true ↔
    ∃ limit now, timeout = some limit ∧ p.now = some now ∧ limit ≤ now - started := by
  simp only [isLate, Option.any_eq_true, decide_eq_true_eq]
  constructor
  · rintro ⟨limit, hlimit, now, hnow, hlate⟩
    exact ⟨limit, now, hlimit, hnow, hlate⟩
  · rintro ⟨limit, now, hlimit, hnow, hlate⟩
    exact ⟨limit, hlimit, now, hnow, hlate⟩

end Poll

theorem Job.settled?_eq_none_iff {job : Job} :
    job.settled? = none ↔ job.status.isTerminal = false := by
  unfold settled?
  cases job.status <;> simp [JobStatus.isTerminal]

namespace Poll

variable {timeout : Option Nat} {started : Nat} {job : Job} {p : Poll}

theorem outcome?_of_ends {outcome : Result JobStatus}
    (h : p.Ends timeout started job.id outcome) :
    p.outcome? timeout started job = some outcome := by
  unfold outcome?
  cases h with
  | error hanswer => rw [hanswer]
  | completed hanswer hstatus => simp only [hanswer, Job.settled?, Job.apply, hstatus]
  | failed hanswer hstatus => simp only [hanswer, Job.settled?, Job.apply, hstatus, Job.failure]
  | @late report document limit now hanswer hopen hlimit hnow hlate =>
    have hnone : (job.apply report document).settled? = none :=
      Job.settled?_eq_none_iff.2 hopen
    have htime : p.isLate timeout started = true := isLate_iff.2 ⟨limit, now, hlimit, hnow, hlate⟩
    simp only [hanswer, hnone, htime, if_true]

theorem ends_of_outcome? {outcome : Result JobStatus}
    (h : p.outcome? timeout started job = some outcome) :
    p.Ends timeout started job.id outcome := by
  unfold outcome? at h
  cases hanswer : p.inquiry.answer with
  | error e =>
    rw [hanswer] at h
    obtain rfl := Option.some.inj h
    exact .error hanswer
  | ok found =>
    obtain ⟨report, document⟩ := found
    simp only [hanswer] at h
    cases hsettled : (job.apply report document).settled? with
    | none =>
      have hopen := Job.settled?_eq_none_iff.1 hsettled
      rw [hsettled] at h
      obtain ⟨htime, hstatus⟩ := Option.ite_none_right_eq_some.1 h
      obtain rfl := Option.some.inj hstatus
      obtain ⟨limit, now, hlimit, hnow, hlate⟩ := isLate_iff.1 htime
      exact .late hanswer hopen hlimit hnow hlate
    | some settled =>
      rw [hsettled] at h
      obtain rfl := Option.some.inj h
      unfold Job.settled? at hsettled
      have hstatus : (job.apply report document).status = report.status := rfl
      split at hsettled
      · next hfailed =>
        obtain rfl := Option.some.inj hsettled
        exact .failed hanswer hfailed
      · next hcompleted =>
        obtain rfl := Option.some.inj hsettled
        exact .completed hanswer hcompleted
      · cases hsettled

end Poll

/-! ## A poll in a world -/

section polling

variable {σ : Type} {w : World σ} {client : Client} {timeout : Option Nat} {started : Nat}
  {job job' : Job} {p : Poll} {x x₁ x' : σ}

namespace Job

/-- In a world and from a state of it, the inquiry for the document of a job,
    and the state of the world after it. -/
structure Asks (w : World σ) (client : Client) (job : Job) (x : σ) (i : Inquiry) (x' : σ) :
    Prop where
  /-- The document is asked for. -/
  isInquiry : client.IsInquiry .get job.documentPath none i
  /-- The world says what comes of it. -/
  comesTo : ComesTo w (client.get job.documentPath) x i.sent (Client.successful i.outcome) x'

theorem exists_asks (w : World σ) (client : Client) (job : Job) (x : σ) :
    ∃ i x', Asks w client job x i x' := by
  obtain ⟨result, x', hrun⟩ :=
    run_of_total w (client.total_request .get job.documentPath [] none) x
  obtain ⟨i, hi, hsent, rfl⟩ := Client.isInquiry_of_runs (runs_of_run hrun)
  exact ⟨i, x', hi, hrun, hsent⟩

/-- Asking for the document is one inquiry. -/
theorem Asks.comesTo_update {i : Inquiry} (h : Asks w client job x i x') :
    ComesTo w (job.update client) x i.sent
      (i.answer.map fun found => found.1.status, job.inquired i) x' := by
  unfold update
  refine ComesTo.bind_done h.comesTo ?_
  unfold inquired Inquiry.document? Inquiry.answer
  cases Client.successful i.outcome >>= reportOf with
  | error e => rfl
  | ok found => rfl

/-- A poll of a wait in a world.  The clock is looked at if a timeout was
    given and the answer says that the job is not at its end. -/
inductive Polls (w : World σ) (client : Client) (timeout : Option Nat) (job : Job) (x : σ) :
    Poll → σ → Prop where
  /-- The time does not count. -/
  | untimed {i : Inquiry} {x' : σ} (h : Asks w client job x i x')
      (hdecided : timeout = none ∨
        ∀ report document, i.answer = .ok (report, document) → report.status.isTerminal = true) :
      Polls w client timeout job x ⟨i, none⟩ x'
  /-- The clock is looked at. -/
  | timed {i : Inquiry} {x₁ x' : σ} {report : JobReport} {document : Json} {limit now : Nat}
      (h : Asks w client job x i x₁) (hanswer : i.answer = .ok (report, document))
      (hopen : report.status.isTerminal = false) (hlimit : timeout = some limit)
      (htime : w.time x₁ = (now, x')) : Polls w client timeout job x ⟨i, some now⟩ x'

theorem exists_polls (w : World σ) (client : Client) (timeout : Option Nat) (job : Job) (x : σ) :
    ∃ p x', Polls w client timeout job x p x' := by
  obtain ⟨i, x₁, hasks⟩ := exists_asks w client job x
  cases timeout with
  | none => exact ⟨_, x₁, .untimed hasks (Or.inl rfl)⟩
  | some limit =>
    by_cases hopen : ∃ report document, i.answer = .ok (report, document) ∧
        report.status.isTerminal = false
    · obtain ⟨report, document, hanswer, hopen⟩ := hopen
      exact ⟨_, _, .timed hasks hanswer hopen rfl rfl⟩
    · simp only [not_exists, not_and, Bool.not_eq_false] at hopen
      exact ⟨_, x₁, .untimed hasks (Or.inr hopen)⟩

theorem inquired_of_answer {i : Inquiry} {report : JobReport} {document : Json}
    (h : i.answer = .ok (report, document)) : job.inquired i = job.apply report document := by
  have hdocument : i.document? = some (report, document) := congrArg Except.toOption h
  rw [inquired, hdocument]

/-- How a wait goes on when the document was asked for. -/
def afterUpdate (client : Client) (timeout : Option Nat) (started budget : Nat) :
    Result JobStatus × Job → Dialogue (Result JobStatus × Job)
  | (.error e, job) => .done (.error e, job)
  | (.ok status, job) =>
    match job.settled? with
    | some outcome => .done (outcome, job)
    | none => (gaveUp started timeout).bind fun late =>
      if late then .done (.ok status, job) else poll client timeout started budget job

theorem Asks.passes {i : Inquiry} (h : Asks w client job x i x') (timeout : Option Nat)
    (started budget : Nat) :
    Passes w (poll client timeout started (budget + 1) job) x i.sent
      (afterUpdate client timeout started budget
        (i.answer.map fun found => found.1.status, job.inquired i)) x' := by
  have hpoll : poll client timeout started (budget + 1) job =
      (job.update client).bind (afterUpdate client timeout started budget) := by
    rw [poll]
    refine congrArg _ (funext fun found => ?_)
    obtain ⟨_ | status, job'⟩ := found
    · rfl
    · rfl
  rw [hpoll]
  exact h.comesTo_update.passes _

/-- The step of a wait: one poll, which ends it or leaves the rest of the
    budget for the job that it makes known. -/
theorem Polls.passes (h : Polls w client timeout job x p x') (started budget : Nat) :
    Passes w (poll client timeout started (budget + 1) job) x p.inquiry.sent
      (match p.outcome? timeout started job with
        | some outcome => .done (outcome, job.inquired p.inquiry)
        | none => poll client timeout started budget (job.inquired p.inquiry)) x' := by
  cases h with
  | @untimed i x' hasks hdecided =>
    have hpasses := hasks.passes timeout started budget
    unfold Poll.outcome?
    cases hanswer : i.answer with
    | error e =>
      rw [hanswer] at hpasses
      exact hpasses
    | ok found =>
      obtain ⟨report, document⟩ := found
      rw [hanswer, inquired_of_answer hanswer] at hpasses
      simp only [inquired_of_answer hanswer]
      cases hsettled : (job.apply report document).settled? with
      | some outcome =>
        simpa only [afterUpdate, Except.map, hsettled] using hpasses
      | none =>
        -- the job is not at its end, so that there is no timeout
        have hopen := settled?_eq_none_iff.1 hsettled
        obtain rfl : timeout = none := hdecided.resolve_right fun hterminal => by
          have hend : (job.apply report document).status.isTerminal = true :=
            hterminal report document hanswer
          rw [hopen] at hend
          cases hend
        simpa [afterUpdate, Except.map, hsettled, gaveUp, Poll.isLate] using hpasses
  | @timed i x₁ x' report document limit now hasks hanswer hopen hlimit htime =>
    have hpasses := hasks.passes timeout started budget
    have hsettled : (job.apply report document).settled? = none := settled?_eq_none_iff.2 hopen
    subst hlimit
    rw [hanswer, inquired_of_answer hanswer] at hpasses
    simp only [Poll.outcome?, hanswer, hsettled, inquired_of_answer hanswer]
    simp only [afterUpdate, Except.map, hsettled] at hpasses
    have hclock :
        ComesTo w (gaveUp started (some limit)) x₁ [] (decide (limit ≤ now - started)) x' :=
      (comesTo_readClock htime).bind_done rfl
    have hlook := hclock.passes fun late =>
      if late then Dialogue.done (Except.ok report.status, job.apply report document)
      else poll client (some limit) started budget (job.apply report document)
    have hboth := hpasses.trans hlook
    rw [List.append_nil] at hboth
    by_cases hlate : limit ≤ now - started
    · simpa [Poll.isLate, hlate] using hboth
    · simpa [Poll.isLate, hlate] using hboth

theorem Polls.comesTo_of_ends {outcome : Result JobStatus} (h : Polls w client timeout job x p x')
    (hends : p.Ends timeout started job.id outcome) (budget : Nat) :
    ComesTo w (poll client timeout started (budget + 1) job) x p.inquiry.sent
      (outcome, job.inquired p.inquiry) x' := by
  have hpasses := h.passes started budget
  rw [Poll.outcome?_of_ends hends] at hpasses
  have hcomes := hpasses.comesTo (comesTo_done w (outcome, job.inquired p.inquiry) x')
  rwa [List.append_nil] at hcomes

theorem Polls.passes_of_not_ends (h : Polls w client timeout job x p x')
    (hgoes : ∀ outcome, ¬ p.Ends timeout started job.id outcome) (budget : Nat) :
    Passes w (poll client timeout started (budget + 1) job) x p.inquiry.sent
      (poll client timeout started budget (job.inquired p.inquiry)) x' := by
  have hpasses := h.passes started budget
  have hnone : p.outcome? timeout started job = none :=
    Option.eq_none_iff_forall_ne_some.2 fun outcome houtcome =>
      hgoes outcome (Poll.ends_of_outcome? houtcome)
  rwa [hnone] at hpasses

/-! ## A wait in a world -/

/-- The polls that a wait makes in a world, one after the other, as long as
    none of them ends it; and what becomes of the job and of the world. -/
inductive Waits (w : World σ) (client : Client) (timeout : Option Nat) (started : Nat) :
    Job → σ → List Poll → Job → σ → Prop where
  /-- No poll is made. -/
  | stop (job : Job) (x : σ) : Waits w client timeout started job x [] job x
  /-- A poll is made that does not end the wait, and then more of them. -/
  | poll {job job' : Job} {x x₁ x' : σ} {p : Poll} {later : List Poll}
      (hpoll : Polls w client timeout job x p x₁)
      (hgoes : ∀ outcome, ¬ p.Ends timeout started job.id outcome)
      (hlater : Waits w client timeout started (job.inquired p.inquiry) x₁ later job' x') :
      Waits w client timeout started job x (p :: later) job' x'

/-- What is sent in polls. -/
def sentIn (polls : List Poll) : List (Outgoing × Http.Reply) :=
  polls.flatMap fun p => p.inquiry.sent

variable {polls : List Poll}

theorem Waits.id_eq (h : Waits w client timeout started job x polls job' x') :
    job'.id = job.id := by
  induction h with
  | stop => rfl
  | poll _ _ _ ih => exact ih.trans (id_inquired _ _)

/-- The run of a wait: by induction on the polls, each of which takes one
    turn of the loop. -/
theorem Waits.passes (h : Waits w client timeout started job x polls job' x') (budget : Nat) :
    Passes w (Job.poll client timeout started (polls.length + budget) job) x (sentIn polls)
      (Job.poll client timeout started budget job') x' := by
  induction h with
  | stop job x =>
    rw [List.length_nil, Nat.zero_add]
    exact .refl w _ x
  | @poll job job' x x₁ x' p later hpoll hgoes _ ih =>
    have hbudget : (p :: later).length + budget = later.length + budget + 1 := by
      rw [List.length_cons]
      omega
    rw [hbudget]
    exact (hpoll.passes_of_not_ends hgoes _).trans ih

/-- In every world there is a first poll that ends the wait, or polls go on
    without one. -/
theorem exists_waits (w : World σ) (client : Client) (timeout : Option Nat) (started : Nat)
    (job : Job) (x : σ) (count : Nat) :
    (∃ polls job₁ x₁ last x' outcome, Waits w client timeout started job x polls job₁ x₁ ∧
      Polls w client timeout job₁ x₁ last x' ∧ last.Ends timeout started job₁.id outcome) ∨
    ∃ polls job₁ x₁, polls.length = count ∧ Waits w client timeout started job x polls job₁ x₁ := by
  induction count generalizing job x with
  | zero => exact Or.inr ⟨[], job, x, rfl, .stop job x⟩
  | succ count ih =>
    obtain ⟨p, x₁, hpoll⟩ := exists_polls w client timeout job x
    by_cases hends : ∃ outcome, p.Ends timeout started job.id outcome
    · obtain ⟨outcome, hends⟩ := hends
      exact Or.inl ⟨[], job, x, p, x₁, outcome, .stop job x, hpoll, hends⟩
    · have hgoes := not_exists.1 hends
      rcases ih (job.inquired p.inquiry) x₁ with
        ⟨polls, job₁, x₂, last, x', outcome, hwaits, hlast, hended⟩ |
        ⟨polls, job₁, x₂, hlength, hwaits⟩
      · exact Or.inl ⟨p :: polls, job₁, x₂, last, x', outcome, .poll hpoll hgoes hwaits, hlast,
          hended⟩
      · exact Or.inr ⟨p :: polls, job₁, x₂, congrArg Nat.succ hlength,
          .poll hpoll hgoes hwaits⟩

/-- A wait reads the clock once before its polls. -/
theorem passes_wait (htime : w.time x = (started, x₁)) (client : Client) (budget : Nat)
    (timeout : Option Nat) (job : Job) :
    Passes w (job.wait client budget timeout) x []
      (Job.poll client timeout started budget job) x₁ :=
  (comesTo_readClock htime).passes _

/-! ## Documents of completed jobs -/

variable {budget : Nat} {turns : List Turn}

theorem status_of_runs_update {status : JobStatus}
    (h : Runs (job.update client) turns (.ok status, job')) : job'.status = status := by
  obtain ⟨response, turns₁, turns₂, rfl, -, hrest⟩ := runs_bind_iff.1 h
  cases hreport : response >>= reportOf with
  | error e =>
    rw [hreport] at hrest
    obtain ⟨-, heq⟩ := runs_done_iff.1 hrest
    cases (Prod.mk.inj heq).1
  | ok found =>
    rw [hreport] at hrest
    obtain ⟨-, heq⟩ := runs_done_iff.1 hrest
    obtain ⟨hstatus, rfl⟩ := Prod.mk.inj heq
    exact (Except.ok.inj hstatus).symm

/-- Without a timeout only a completed job ends a wait well.  By induction on
    the budget. -/
theorem completed_of_runs_poll {status : JobStatus}
    (h : Runs (Job.poll client none started budget job) turns (.ok status, job')) :
    status = .completed ∧ job'.status = .completed := by
  induction budget generalizing job turns with
  | zero => exact absurd h not_runs_abandoned
  | succ budget ih =>
    obtain ⟨⟨found, job₁⟩, turns₁, turns₂, rfl, hupdate, hrest⟩ := runs_bind_iff.1 h
    cases found with
    | error e =>
      obtain ⟨-, heq⟩ := runs_done_iff.1 hrest
      cases (Prod.mk.inj heq).1
    | ok found =>
      cases hsettled : job₁.settled? with
      | none =>
        -- there is no timeout to look at
        simp only [hsettled, gaveUp] at hrest
        exact ih hrest
      | some outcome =>
        simp only [hsettled] at hrest
        obtain ⟨-, heq⟩ := runs_done_iff.1 hrest
        obtain ⟨rfl, rfl⟩ := Prod.mk.inj heq
        unfold settled? at hsettled
        split at hsettled
        · cases hsettled
        · next hcompleted =>
          cases hsettled
          exact ⟨rfl, hcompleted⟩
        · cases hsettled

theorem completed_of_runs_wait {status : JobStatus}
    (h : Runs (job.wait client budget none) turns (.ok status, job')) :
    status = .completed ∧ job'.status = .completed := by
  obtain ⟨started, rest, rfl, hpoll⟩ := runs_ask_iff.1 h
  have hwait : Runs (Job.poll client none started budget job) rest (.ok status, job') := hpoll
  exact completed_of_runs_poll hwait

/-- The document that is given is the last one of a job that has completed. -/
theorem completed_of_runs_result {document : Json}
    (h : Runs (job.result client budget) turns (.ok document, job')) :
    document = job'.document ∧ job'.status = .completed := by
  unfold Job.result at h
  by_cases hcompleted : job.status = .completed
  · rw [if_pos hcompleted] at h
    obtain ⟨-, heq⟩ := runs_done_iff.1 h
    obtain ⟨hdocument, rfl⟩ := Prod.mk.inj heq
    exact ⟨Except.ok.inj hdocument, hcompleted⟩
  · rw [if_neg hcompleted] at h
    obtain ⟨⟨outcome, job₁⟩, turns₁, turns₂, rfl, hwait, hdone⟩ := runs_bind_iff.1 h
    obtain ⟨-, heq⟩ := runs_done_iff.1 hdone
    obtain ⟨hdocument, rfl⟩ := Prod.mk.inj heq
    cases outcome with
    | error e => cases hdocument
    | ok status => exact ⟨Except.ok.inj hdocument, (completed_of_runs_wait hwait).2⟩

/-- A job whose document reports its status. -/
def IsFaithful (job : Job) : Prop :=
  ∃ report, JobReport.decode job.document = .ok report ∧ report.status = job.status

/-- A job that says what documents say says what the last of them reports. -/
theorem Tells.isFaithful {inquiries : List Inquiry} (h : job.Tells (Inquiry.documents inquiries)) :
    job.IsFaithful := by
  obtain ⟨earlier, report, hdocuments, hstatus, -⟩ := h.last
  have hmem : (report, job.document) ∈ Inquiry.documents inquiries := by
    rw [hdocuments]
    exact List.mem_append_right earlier (List.mem_singleton_self _)
  obtain ⟨i, -, hi⟩ := List.mem_filterMap.1 hmem
  exact ⟨report, Inquiry.decode_of_document? hi, hstatus.symm⟩

end Job

/-- A job of a collection: it was started at one of the endpoints, and then
    anything may have been done with it. -/
def Collection.HasJob (c : Collection) (job : Job) : Prop :=
  ∃ path body turns₀ turns job₀, Runs (c.runJob path body) turns₀ (.ok job₀) ∧
    c.client.Follows job₀ turns job

theorem Collection.HasJob.isFaithful {c : Collection} (h : c.HasJob job) : job.IsFaithful := by
  obtain ⟨path, body, turns₀, turns, job₀, hstart, hfollows⟩ := h
  obtain ⟨first, -, -, -, -, htells⟩ := Job.tells_of_runs_start hstart
  obtain ⟨later, hlater⟩ := hfollows.inquires
  have hall := htells.foldl later
  rw [← hlater.after_eq, ← Inquiry.documents_cons] at hall
  exact hall.isFaithful

/-- It stays a job of the collection when its result is read. -/
theorem Collection.HasJob.after_result {c : Collection} (h : c.HasJob job) {budget : Nat}
    {turns : List Turn} {result : Result Json}
    (hresult : Runs (job.result c.client budget) turns (result, job')) : c.HasJob job' := by
  obtain ⟨path, body, turns₀, turns₁, job₀, hstart, hfollows⟩ := h
  exact ⟨path, body, turns₀, _, job₀, hstart, .result hfollows hresult⟩

/-! ## Polling -/

/-- **A wait ends at the first poll that ends it.**  In every world, either
    there are polls that do not end the wait and then one that does: the wait
    comes to what this poll says, and sends what these polls send, under
    every budget that is large enough for them.  Or polls that do not end it
    go on: then every budget is used up in them.

    So without a timeout a wait ends well only if the job has completed.  The
    result of a job of a collection is a document that reports the status
    `Completed`, and of a job that has completed it is given at once. -/
theorem polling_ends (w : World σ) (c : Collection) (job : Job) (timeout : Option Nat) (x : σ) :
    (∃ started x₀, w.time x = (started, x₀) ∧
      ((∃ polls job₁ x₁ last x' outcome,
          Job.Waits w c.client timeout started job x₀ polls job₁ x₁ ∧
          Job.Polls w c.client timeout job₁ x₁ last x' ∧
          last.Ends timeout started job.id outcome ∧
          ∀ budget, polls.length < budget →
            ComesTo w (job.wait c.client budget timeout) x (Job.sentIn (polls ++ [last]))
              (outcome, job₁.inquired last.inquiry) x') ∨
        ∀ budget, ∃ polls job₁ x₁, polls.length = budget ∧
          Job.Waits w c.client timeout started job x₀ polls job₁ x₁ ∧
          run w (job.wait c.client budget timeout) x = none ∧
          exchanges (turns w (job.wait c.client budget timeout) x) = Job.sentIn polls)) ∧
    (∀ budget turns status job', Runs (job.wait c.client budget none) turns (.ok status, job') →
      status = .completed) ∧
    (c.HasJob job → ∀ budget turns document job',
      Runs (job.result c.client budget) turns (.ok document, job') →
        ∃ report, JobReport.decode document = .ok report ∧ report.status = .completed) ∧
    (job.status = .completed → ∀ budget,
      job.result c.client budget = .done (.ok job.document, job)) := by
  refine ⟨?_, fun budget turns status job' hwait => (Job.completed_of_runs_wait hwait).1,
    fun hjob budget turns document job' hresult => ?_, fun hcompleted budget => ?_⟩
  · cases htime : w.time x with
    | mk started x₀ =>
      refine ⟨started, x₀, rfl, ?_⟩
      by_cases hfirst : ∃ polls job₁ x₁ last x' outcome,
          Job.Waits w c.client timeout started job x₀ polls job₁ x₁ ∧
          Job.Polls w c.client timeout job₁ x₁ last x' ∧ last.Ends timeout started job₁.id outcome
      · obtain ⟨polls, job₁, x₁, last, x', outcome, hwaits, hlast, hends⟩ := hfirst
        refine Or.inl ⟨polls, job₁, x₁, last, x', outcome, hwaits, hlast, hwaits.id_eq ▸ hends,
          fun budget hbudget => ?_⟩
        obtain ⟨rest, rfl⟩ := Nat.exists_eq_add_of_lt hbudget
        have hsent : Job.sentIn (polls ++ [last]) =
            [] ++ (Job.sentIn polls ++ last.inquiry.sent) := by
          simp [Job.sentIn]
        have hbegin := Job.passes_wait htime c.client (polls.length + rest + 1) timeout job
        rw [Nat.add_assoc] at hbegin ⊢
        rw [hsent]
        exact hbegin.comesTo ((hwaits.passes (rest + 1)).comesTo
          (hlast.comesTo_of_ends hends rest))
      · refine Or.inr fun budget => ?_
        obtain hended | ⟨polls, job₁, x₁, hlength, hwaits⟩ :=
          Job.exists_waits w c.client timeout started job x₀ budget
        · exact absurd hended hfirst
        · have hall := (Job.passes_wait htime c.client budget timeout job).trans
            (hlength ▸ hwaits.passes 0)
          exact ⟨polls, job₁, x₁, hlength, hwaits, hall.run_eq,
            hall.exchanges_eq.trans (List.append_nil _)⟩
  · obtain ⟨rfl, hstatus⟩ := Job.completed_of_runs_result hresult
    obtain ⟨report, hdecode, hreport⟩ := (hjob.after_result hresult).isFaithful
    exact ⟨report, hdecode, hreport.trans hstatus⟩
  · rw [Job.result, if_pos hcompleted]

/-- A job that is found completed gives its document. -/
theorem Job.exists_runs_result_of_update {turns : List Turn}
    (h : Runs (job.update client) turns (.ok .completed, job')) (hopen : job.status ≠ .completed) :
    ∃ turns', Runs (job.result client 1) turns' (.ok job'.document, job') := by
  have hsettled : job'.settled? = some (.ok .completed) := by
    rw [settled?, status_of_runs_update h]
  have hpoll : Runs (Job.poll client none 0 1 job) turns (.ok .completed, job') := by
    rw [poll]
    refine h.bind_done ?_
    simp only [hsettled]
    rfl
  have hclock : Runs readClock [⟨.clock, (0 : Nat)⟩] 0 :=
    runs_ask_iff.2 ⟨(0 : Nat), [], rfl, .done 0⟩
  have hwait : Runs (job.wait client 1 none) ([⟨.clock, (0 : Nat)⟩] ++ turns)
      (.ok .completed, job') := runs_bind_iff.2 ⟨0, _, turns, rfl, hclock, hpoll⟩
  refine ⟨[⟨.clock, (0 : Nat)⟩] ++ turns, ?_⟩
  rw [Job.result, if_neg hopen]
  exact hwait.bind_done rfl

end polling

/-- A job that runs is waited for once, and its result is the document of its
    end. -/
theorem result_of_running_job :
    ∃ job, entityMatching.HasJob job ∧ job.status = .running ∧
      (∃ turns job', Runs (job.result entityMatching.client 1) turns
        (.ok completedDocument, job')) ∧
      ∃ report, JobReport.decode completedDocument = .ok report ∧ report.status = .completed := by
  let started : Job :=
    { id := 7, path := "/context/entitymatching/run", status := .running, createdTime := some 5,
      document := runningDocument }
  let completed : Job :=
    { started with status := .completed, startTime := some 6, document := completedDocument }
  have hreach₀ : Client.IsReachable
      (Client.plain.config.projectUrl ++ "/context/entitymatching/run") := by decide +kernel
  obtain ⟨turns₀, hpost⟩ := Client.exists_runs_request_of_final .post [] (some (.object []))
    (.response (Client.jsonReply runningDocument)) hreach₀ rfl
  have hstart : Runs (entityMatching.runJob "/run" (.object [])) turns₀ (.ok started) := by
    refine hpost.bind_done ?_
    show Dialogue.done ((Client.jsonReply runningDocument).json >>= Job.ofDocument _) = _
    rw [Client.json_jsonReply plain_runningDocument]
    rfl
  have hjob : entityMatching.HasJob started := ⟨_, _, turns₀, [], started, hstart, .start⟩
  -- the first poll says that the job has completed
  have hreach : Client.IsReachable (Client.plain.config.projectUrl ++ started.documentPath) := by
    decide +kernel
  obtain ⟨turns₁, hget⟩ := Client.exists_runs_request_of_final .get [] none
    (.response (Client.jsonReply completedDocument)) hreach rfl
  have hupdate : Runs (started.update .plain) turns₁ (.ok .completed, completed) :=
    Job.runs_update_of_report hget (Job.reportOf_jsonReply plain_completedDocument)
  obtain ⟨turns, hresult⟩ := Job.exists_runs_result_of_update hupdate (by decide)
  obtain ⟨-, -, hdocument, -⟩ := polling_ends replay entityMatching started none []
  exact ⟨started, hjob, rfl, ⟨_, completed, hresult⟩, hdocument hjob 1 _ _ _ hresult⟩

end ResourceClient
