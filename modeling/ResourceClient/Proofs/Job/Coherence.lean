import Mathlib
import ResourceClient.Collection.Job
import ResourceClient.Proofs.Client.History
import ResourceClient.Proofs.Dialogue.Gather

/-! # What a job says of itself

    A job is followed over everything that is done with it: its document is
    asked for, it is waited for, its result is read (`Client.Follows`).  Each
    of these is a series of inquiries, and an inquiry changes the job if its
    answer describes a job and leaves it alone otherwise (`Job.inquired`).

    What the job then says is a matter of the documents it has received
    (`Job.Tells`).  Its status, its error and its document are from the last
    of them.  A point in time is from the last of those that give it, which
    need not be the same document for all three. -/

namespace ResourceClient

open Dialogue

/-! ## Inquiries -/

/-- A request that a job goes by: its exchanges, and what it comes to. -/
structure Inquiry where
  /-- The exchanges, one for each attempt. -/
  sent : List (Outgoing × Http.Reply)
  /-- The outcome of the last attempt. -/
  outcome : Attempt

/-- The document that an inquiry comes to, with what it reports.  There is
    none if the request fails, or if the answer does not describe a job. -/
def Inquiry.document? (i : Inquiry) : Option (JobReport × Json) :=
  (Client.successful i.outcome >>= Job.reportOf).toOption

/-- The documents of inquiries. -/
def Inquiry.documents (inquiries : List Inquiry) : List (JobReport × Json) :=
  inquiries.filterMap document?

theorem Inquiry.documents_cons (i : Inquiry) (rest : List Inquiry) :
    documents (i :: rest) = documents [i] ++ documents rest :=
  List.filterMap_append (l := [i])

/-- An inquiry is a request with its attempts. -/
def Client.IsInquiry (client : Client) (method : Http.Method) (path : String) (body : Option Json)
    (i : Inquiry) : Prop :=
  client.History (client.requestFor method path [] body) (Http.mayReplay method path) i.sent
    i.outcome

theorem Client.isInquiry_of_runs {client : Client} {method : Http.Method} {path : String}
    {body : Option Json} {turns : List Turn} {result : Result Http.Response}
    (h : Runs (client.request method path [] body) turns result) :
    ∃ i : Inquiry, client.IsInquiry method path body i ∧ exchanges turns = i.sent ∧
      result = Client.successful i.outcome := by
  obtain ⟨outcome, hhistory, hresult⟩ := history_of_runs_request h
  exact ⟨⟨exchanges turns, outcome⟩, hhistory, rfl, hresult⟩

namespace Job

variable {client : Client} {job job' job'' : Job} {turns : List Turn}

/-- The path at which a job is asked for. -/
def documentPath (job : Job) : String := job.path ++ "/" ++ toString job.id.toInt

/-- A job after an inquiry. -/
def inquired (job : Job) (i : Inquiry) : Job :=
  match i.document? with
  | some (report, document) => job.apply report document
  | none => job

theorem inquired_of_none {i : Inquiry} (h : i.document? = none) : job.inquired i = job := by
  rw [inquired, h]

@[simp] theorem id_inquired (job : Job) (i : Inquiry) : (job.inquired i).id = job.id := by
  unfold inquired
  split <;> rfl

@[simp] theorem path_inquired (job : Job) (i : Inquiry) : (job.inquired i).path = job.path := by
  unfold inquired
  split <;> rfl

/-- What becomes of a job in a series of inquiries: each of them asks for the
    document of that job, and nothing else is sent. -/
structure Inquires (client : Client) (job : Job) (inquiries : List Inquiry)
    (sent : List (Outgoing × Http.Reply)) (after : Job) : Prop where
  /-- Every inquiry asks for the document. -/
  isInquiry : ∀ i ∈ inquiries, client.IsInquiry .get job.documentPath none i
  /-- The exchanges are theirs. -/
  sent_eq : sent = inquiries.flatMap Inquiry.sent
  /-- The job went through all of them. -/
  after_eq : after = inquiries.foldl inquired job

namespace Inquires

theorem none (client : Client) (job : Job) : Inquires client job [] [] job where
  isInquiry := by simp
  sent_eq := rfl
  after_eq := rfl

theorem one {i : Inquiry} (h : client.IsInquiry .get job.documentPath Option.none i) :
    Inquires client job [i] i.sent (job.inquired i) where
  isInquiry := List.forall_mem_singleton.2 h
  sent_eq := (List.flatMap_singleton Inquiry.sent i).symm
  after_eq := rfl

variable {inquiries later : List Inquiry} {sent sent' : List (Outgoing × Http.Reply)}

/-- It stays the same job. -/
theorem same (h : Inquires client job inquiries sent job') :
    job'.id = job.id ∧ job'.path = job.path := by
  rw [h.after_eq]
  have hstep (b : Job) (hb : b.id = job.id ∧ b.path = job.path) (i : Inquiry) (_ : i ∈ inquiries) :
      (b.inquired i).id = job.id ∧ (b.inquired i).path = job.path := by
    rw [id_inquired, path_inquired]
    exact hb
  exact List.foldlRecOn inquiries inquired ⟨rfl, rfl⟩ hstep

theorem documentPath_eq (h : Inquires client job inquiries sent job') :
    job'.documentPath = job.documentPath := by
  rw [documentPath, documentPath, h.same.1, h.same.2]

/-- One series after another. -/
theorem append (h : Inquires client job inquiries sent job')
    (hlater : Inquires client job' later sent' job'') :
    Inquires client job (inquiries ++ later) (sent ++ sent') job'' where
  isInquiry := by
    intro i hi
    rcases List.mem_append.1 hi with hfirst | hsecond
    · exact h.isInquiry i hfirst
    · rw [← h.documentPath_eq]
      exact hlater.isInquiry i hsecond
  sent_eq := by rw [List.flatMap_append, h.sent_eq, hlater.sent_eq]
  after_eq := by rw [List.foldl_append, ← h.after_eq, hlater.after_eq]

end Inquires

/-! ## What is done with a job is a series of inquiries -/

/-- Asking for the document is one inquiry, and an error leaves the job as it
    is. -/
theorem inquires_of_runs_update {result : Result JobStatus}
    (h : Runs (job.update client) turns (result, job')) :
    ∃ i, Inquires client job [i] (exchanges turns) job' ∧
      ∀ e, result = .error e → i.document? = none := by
  obtain ⟨response, turns₁, turns₂, rfl, hget, hrest⟩ := runs_bind_iff.1 h
  obtain ⟨i, hi, hsent, rfl⟩ := Client.isInquiry_of_runs hget
  have hone := Inquires.one hi
  have hjob : job' = job.inquired i ∧ turns₂ = [] ∧
      ∀ e, result = .error e → i.document? = Option.none := by
    unfold inquired Inquiry.document?
    cases hreport : Client.successful i.outcome >>= reportOf with
    | error e =>
      rw [hreport] at hrest
      obtain ⟨rfl, heq⟩ := runs_done_iff.1 hrest
      obtain ⟨rfl, rfl⟩ := Prod.mk.inj heq
      exact ⟨rfl, rfl, fun _ _ => rfl⟩
    | ok found =>
      obtain ⟨report, document⟩ := found
      rw [hreport] at hrest
      obtain ⟨rfl, heq⟩ := runs_done_iff.1 hrest
      obtain ⟨rfl, rfl⟩ := Prod.mk.inj heq
      exact ⟨rfl, rfl, fun e he => nomatch he⟩
  obtain ⟨rfl, rfl, herror⟩ := hjob
  rw [List.append_nil, hsent]
  exact ⟨i, hone, herror⟩

/-- Looking whether a wait has lasted for long enough sends nothing. -/
theorem exchanges_of_runs_gaveUp {started : Nat} {timeout : Option Nat} {answer : Bool}
    (h : Runs (gaveUp started timeout) turns answer) : exchanges turns = [] := by
  cases timeout with
  | none =>
    obtain ⟨rfl, -⟩ := runs_done_iff.1 h
    rfl
  | some timeout =>
    obtain ⟨now, rest, rfl, hrest⟩ := runs_ask_iff.1 h
    obtain ⟨rfl, -⟩ := runs_done_iff.1 hrest
    rfl

/-- By induction on the budget: every turn of the loop is an inquiry, and
    what follows it is a series for the job that it leaves. -/
theorem inquires_of_runs_poll {timeout : Option Nat} {started budget : Nat}
    {result : Result JobStatus}
    (h : Runs (poll client timeout started budget job) turns (result, job')) :
    ∃ inquiries, Inquires client job inquiries (exchanges turns) job' := by
  induction budget generalizing job turns with
  | zero => exact absurd h not_runs_abandoned
  | succ budget ih =>
    obtain ⟨⟨status, job₁⟩, turns₁, turns₂, rfl, hupdate, hrest⟩ := runs_bind_iff.1 h
    obtain ⟨i, hfirst, -⟩ := inquires_of_runs_update hupdate
    have hstop (hdone : turns₂ = [] ∧ (result, job') = (result, job₁)) :
        ∃ inquiries, Inquires client job inquiries (exchanges (turns₁ ++ turns₂)) job' := by
      obtain ⟨rfl, heq⟩ := hdone
      obtain ⟨-, rfl⟩ := Prod.mk.inj heq
      rw [List.append_nil]
      exact ⟨[i], hfirst⟩
    cases status with
    | error e =>
      obtain ⟨rfl, heq⟩ := runs_done_iff.1 hrest
      exact hstop ⟨rfl, by rw [Prod.mk.injEq] at heq ⊢; exact ⟨rfl, heq.2⟩⟩
    | ok status =>
      cases hsettled : job₁.settled? with
      | some outcome =>
        simp only [hsettled] at hrest
        obtain ⟨rfl, heq⟩ := runs_done_iff.1 hrest
        exact hstop ⟨rfl, by rw [Prod.mk.injEq] at heq ⊢; exact ⟨rfl, heq.2⟩⟩
      | none =>
        simp only [hsettled] at hrest
        obtain ⟨late, turns₃, turns₄, rfl, hclock, hnext⟩ := runs_bind_iff.1 hrest
        have hsilent := exchanges_of_runs_gaveUp hclock
        cases late with
        | true =>
          obtain ⟨rfl, heq⟩ := runs_done_iff.1 hnext
          obtain ⟨-, rfl⟩ := Prod.mk.inj heq
          refine ⟨[i], ?_⟩
          rw [exchanges_append, List.append_nil, hsilent, List.append_nil]
          exact hfirst
        | false =>
          obtain ⟨later, hlater⟩ := ih hnext
          refine ⟨i :: later, ?_⟩
          rw [exchanges_append, exchanges_append, hsilent, List.nil_append]
          exact hfirst.append hlater

theorem inquires_of_runs_wait {budget : Nat} {timeout : Option Nat} {result : Result JobStatus}
    (h : Runs (job.wait client budget timeout) turns (result, job')) :
    ∃ inquiries, Inquires client job inquiries (exchanges turns) job' := by
  obtain ⟨started, rest, rfl, hpoll⟩ := runs_ask_iff.1 h
  have hwait : Runs (poll client timeout started budget job) rest (result, job') := hpoll
  -- nothing is sent to read the clock
  obtain ⟨inquiries, hinquires⟩ := inquires_of_runs_poll hwait
  exact ⟨inquiries, hinquires⟩

theorem inquires_of_runs_result {budget : Nat} {result : Result Json}
    (h : Runs (job.result client budget) turns (result, job')) :
    ∃ inquiries, Inquires client job inquiries (exchanges turns) job' := by
  unfold Job.result at h
  by_cases hcompleted : job.status = .completed
  · -- nothing is asked of a job that is over
    rw [if_pos hcompleted] at h
    obtain ⟨rfl, heq⟩ := runs_done_iff.1 h
    obtain ⟨-, rfl⟩ := Prod.mk.inj heq
    exact ⟨[], .none client _⟩
  · rw [if_neg hcompleted] at h
    obtain ⟨waited, turns₁, turns₂, rfl, hwait, hdone⟩ := runs_bind_iff.1 h
    obtain ⟨rfl, heq⟩ := runs_done_iff.1 hdone
    obtain ⟨-, rfl⟩ := Prod.mk.inj heq
    rw [List.append_nil]
    exact inquires_of_runs_wait hwait

end Job

/-- What may be done with a job, one thing after another, whatever each of
    them comes to. -/
inductive Client.Follows (client : Client) (start : Job) : List Turn → Job → Prop where
  /-- Nothing was done yet. -/
  | start : Follows client start [] start
  /-- The document is asked for. -/
  | update {turns turns' : List Turn} {job job' : Job} {result : Result JobStatus}
      (before : Follows client start turns job)
      (h : Runs (job.update client) turns' (result, job')) :
    Follows client start (turns ++ turns') job'
  /-- The job is waited for. -/
  | wait {turns turns' : List Turn} {job job' : Job} {budget : Nat} {timeout : Option Nat}
      {result : Result JobStatus} (before : Follows client start turns job)
      (h : Runs (job.wait client budget timeout) turns' (result, job')) :
    Follows client start (turns ++ turns') job'
  /-- The result is read. -/
  | result {turns turns' : List Turn} {job job' : Job} {budget : Nat} {result : Result Json}
      (before : Follows client start turns job)
      (h : Runs (job.result client budget) turns' (result, job')) :
    Follows client start (turns ++ turns') job'

/-- Whatever is done with a job is a series of inquiries. -/
theorem Client.Follows.inquires {client : Client} {start job : Job} {turns : List Turn}
    (h : client.Follows start turns job) :
    ∃ inquiries, Job.Inquires client start inquiries (exchanges turns) job := by
  induction h with
  | start => exact ⟨[], .none client start⟩
  | update before hupdate ih =>
    obtain ⟨inquiries, hbefore⟩ := ih
    obtain ⟨i, hone, -⟩ := Job.inquires_of_runs_update hupdate
    rw [exchanges_append]
    exact ⟨_, hbefore.append hone⟩
  | wait before hwait ih =>
    obtain ⟨inquiries, hbefore⟩ := ih
    obtain ⟨later, hlater⟩ := Job.inquires_of_runs_wait hwait
    rw [exchanges_append]
    exact ⟨_, hbefore.append hlater⟩
  | result before hresult ih =>
    obtain ⟨inquiries, hbefore⟩ := ih
    obtain ⟨later, hlater⟩ := Job.inquires_of_runs_result hresult
    rw [exchanges_append]
    exact ⟨_, hbefore.append hlater⟩

/-! ## What the documents say -/

namespace Job

/-- The last point in time that documents give. -/
def latest (time : JobReport → Option Int64) (documents : List (JobReport × Json)) :
    Option Int64 :=
  (documents.filterMap fun d => time d.1).getLast?

/-- A later document counts if it gives the point in time. -/
theorem latest_append_singleton (time : JobReport → Option Int64)
    (documents : List (JobReport × Json)) (report : JobReport) (document : Json) :
    latest time (documents ++ [(report, document)]) =
      (time report <|> latest time documents) := by
  unfold latest
  rw [List.filterMap_append, List.getLast?_append]
  cases htime : time report with
  | none => simp [htime]
  | some t => simp [htime]

/-- What a job says after documents, of which there is one at least. -/
structure Tells (job : Job) (documents : List (JobReport × Json)) : Prop where
  /-- The status, the error and the document are from the last one. -/
  last : ∃ earlier report, documents = earlier ++ [(report, job.document)] ∧
    job.status = report.status ∧ job.errorMessage = report.errorMessage
  /-- The time of creation is the last that was given. -/
  createdTime : job.createdTime = latest JobReport.createdTime documents
  /-- The time of the start is the last that was given. -/
  startTime : job.startTime = latest JobReport.startTime documents
  /-- The time of the status is the last that was given. -/
  statusTime : job.statusTime = latest JobReport.statusTime documents

/-- A document is taken over by a job whose points in time are those of the
    documents before. -/
theorem tells_apply (job : Job) (documents : List (JobReport × Json))
    (hcreated : job.createdTime = latest JobReport.createdTime documents)
    (hstart : job.startTime = latest JobReport.startTime documents)
    (hstatus : job.statusTime = latest JobReport.statusTime documents)
    (report : JobReport) (document : Json) :
    (job.apply report document).Tells (documents ++ [(report, document)]) where
  last := ⟨documents, report, rfl, rfl, rfl⟩
  createdTime := by rw [latest_append_singleton, ← hcreated]; rfl
  startTime := by rw [latest_append_singleton, ← hstart]; rfl
  statusTime := by rw [latest_append_singleton, ← hstatus]; rfl

/-- The step: an inquiry adds its document, if it has one. -/
theorem Tells.inquired {job : Job} {documents : List (JobReport × Json)}
    (h : job.Tells documents) (i : Inquiry) :
    (job.inquired i).Tells (documents ++ Inquiry.documents [i]) := by
  unfold Job.inquired Inquiry.documents
  cases hdocument : i.document? with
  | none => simpa [hdocument] using h
  | some found =>
    obtain ⟨report, document⟩ := found
    have hadded :=
      tells_apply job documents h.createdTime h.startTime h.statusTime report document
    simpa [hdocument] using hadded

/-- The run: by induction on the inquiries, each adding to the documents of
    those before. -/
theorem Tells.foldl {job : Job} {documents : List (JobReport × Json)} (h : job.Tells documents)
    (inquiries : List Inquiry) :
    (inquiries.foldl Job.inquired job).Tells (documents ++ Inquiry.documents inquiries) := by
  induction inquiries generalizing job documents with
  | nil => simpa [Inquiry.documents] using h
  | cons i rest ih =>
    have hrest := ih (h.inquired i)
    rwa [List.append_assoc, ← Inquiry.documents_cons] at hrest

/-- A job is started by a request whose answer is its first document. -/
theorem tells_of_runs_start {client : Client} {path : String} {body : Json} {turns : List Turn}
    {job : Job} (h : Runs (start client path body) turns (.ok job)) :
    ∃ first : Inquiry, client.IsInquiry .post path (some body) first ∧
      exchanges turns = first.sent ∧
      (∃ report, first.document? = some (report, job.document) ∧ job.id = report.jobId) ∧
      job.path = path ∧ job.Tells (Inquiry.documents [first]) := by
  obtain ⟨result, turns₁, turns₂, rfl, hpost, hrest⟩ := runs_bind_iff.1 h
  obtain ⟨first, hfirst, hsent, rfl⟩ := Client.isInquiry_of_runs hpost
  cases houtcome : Client.successful first.outcome with
  | error e =>
    rw [houtcome] at hrest
    obtain ⟨-, herror⟩ := runs_done_iff.1 hrest
    cases herror
  | ok response =>
    rw [houtcome] at hrest
    obtain ⟨rfl, hjob⟩ := runs_done_iff.1 hrest
    cases hjson : response.json with
    | error e =>
      rw [hjson] at hjob
      cases hjob
    | ok document =>
      rw [hjson] at hjob
      cases hreport : JobReport.decode document with
      | error e =>
        simp [ofDocument, hreport, Bind.bind, Except.bind] at hjob
      | ok report =>
        have hfound : first.document? = some (report, document) := by
          simp [Inquiry.document?, houtcome, reportOf, hjson, hreport, Bind.bind, Except.bind,
            Pure.pure, Except.pure, Except.toOption]
        have hstarted : job =
            ({ id := report.jobId, path, status := report.status, document := .null } : Job).apply
              report document := by
          simpa [ofDocument, hreport, Bind.bind, Except.bind, Pure.pure, Except.pure] using hjob
        subst hstarted
        refine ⟨first, hfirst, ?_, ⟨report, hfound, rfl⟩, rfl, ?_⟩
        · rw [List.append_nil, hsent]
        · let bare : Job :=
            { id := report.jobId, path, status := report.status, document := .null }
          have htells := tells_apply bare [] rfl rfl rfl report document
          simpa [Inquiry.documents, hfound] using htells

end Job

/-! ## The state of a job -/

/-- **A job is coherent over all that is done with it.**  It is started by
    one inquiry and followed by others, all for the job of the number that the
    first document gives, at the path where it was started.  Its status, its
    error and its document are those of the last document that was received
    and describes a job; each point in time is the last that was given by one
    of them.  When asking for the document fails, the job stays as it was. -/
theorem Collection.job_state_coherent {c : Collection} {path : String} {body : Json}
    {turns₀ turns : List Turn} {job₀ job : Job}
    (hstart : Runs (c.runJob path body) turns₀ (.ok job₀))
    (hfollows : c.client.Follows job₀ turns job) :
    ∃ first later,
      (c.client.IsInquiry .post (c.endpoint path) (some body) first ∧
        exchanges turns₀ = first.sent) ∧
      (∀ i ∈ later, c.client.IsInquiry .get job₀.documentPath none i) ∧
      exchanges turns = later.flatMap Inquiry.sent ∧
      (∃ report document, first.document? = some (report, document) ∧
        job.id = report.jobId ∧ job₀.id = report.jobId) ∧
      (job.path = c.endpoint path ∧ job₀.path = c.endpoint path) ∧
      job.Tells (Inquiry.documents (first :: later)) ∧
      ∀ turns' e job', Runs (job.update c.client) turns' (.error e, job') → job' = job := by
  obtain ⟨first, hfirst, hsent, ⟨report, hreport, hid⟩, hpath, htells⟩ :=
    Job.tells_of_runs_start hstart
  obtain ⟨later, hlater⟩ := hfollows.inquires
  obtain ⟨hsameId, hsamePath⟩ := hlater.same
  refine ⟨first, later, ⟨hfirst, hsent⟩, hlater.isInquiry, hlater.sent_eq,
    ⟨report, _, hreport, hsameId.trans hid, hid⟩, ⟨hsamePath.trans hpath, hpath⟩, ?_, ?_⟩
  · have hall := htells.foldl later
    rwa [← hlater.after_eq, ← Inquiry.documents_cons] at hall
  · intro turns' e job' hupdate
    obtain ⟨i, hone, herror⟩ := Job.inquires_of_runs_update hupdate
    rw [hone.after_eq]
    exact Job.inquired_of_none (herror e rfl)

/-! ## A job that is asked for twice -/

section asking

variable {client : Client} {job : Job} {turns : List Turn} {response : Http.Response}

theorem Job.runs_update_of_error (hget : Runs (client.get job.documentPath) turns (.ok response))
    {e : Error} (hreport : reportOf response = .error e) :
    Runs (job.update client) turns (.error e, job) := by
  have hfound : (Except.ok response >>= reportOf) = .error e := hreport
  unfold update
  refine Runs.bind_done hget ?_
  rw [hfound]
  rfl

theorem Job.runs_update_of_report (hget : Runs (client.get job.documentPath) turns (.ok response))
    {report : JobReport} {document : Json} (hreport : reportOf response = .ok (report, document)) :
    Runs (job.update client) turns (.ok report.status, job.apply report document) := by
  have hfound : (Except.ok response >>= reportOf) = .ok (report, document) := hreport
  unfold update
  refine Runs.bind_done hget ?_
  rw [hfound]
  rfl

theorem Job.reportOf_jsonReply {v : Json} (h : Json.Plain Json.maxDepth v) :
    reportOf (Client.jsonReply v) = (do return (← JobReport.decode v, v)) := by
  unfold reportOf
  rw [Client.json_jsonReply h]
  rfl

end asking

/-- A collection with jobs. -/
def entityMatching : Collection where
  client := .plain
  path := "/context/entitymatching"

/-- The document of a job that runs, with the time of its creation. -/
def runningDocument : Json :=
  .object [("createdTime", .int 5), ("jobId", .int 7), ("status", .string "Running")]

/-- The document of the same job at its end, with the time of its start. -/
def completedDocument : Json :=
  .object [("jobId", .int 7), ("startTime", .int 6), ("status", .string "Completed")]

theorem plain_runningDocument : Json.Plain Json.maxDepth runningDocument := by
  have hfive : Json.Plain 126 (.int 5) := ⟨by decide, by decide⟩
  have hseven : Json.Plain 126 (.int 7) := ⟨by decide, by decide⟩
  have hkeys : ["createdTime", "jobId", "status"].Pairwise (· < ·) := by decide +kernel
  exact ⟨List.pairwise_map.1 hkeys, hfive, hseven, trivial, trivial⟩

theorem plain_completedDocument : Json.Plain Json.maxDepth completedDocument := by
  have hsix : Json.Plain 126 (.int 6) := ⟨by decide, by decide⟩
  have hseven : Json.Plain 126 (.int 7) := ⟨by decide, by decide⟩
  have hkeys : ["jobId", "startTime", "status"].Pairwise (· < ·) := by decide +kernel
  exact ⟨List.pairwise_map.1 hkeys, hseven, hsix, trivial, trivial⟩

/-- A job that was created at 5 and started at 6, with a reply in between
    that describes no job. -/
theorem Collection.job_completed_after_malformed :
    ∃ turns₀ turns job₀ job,
      Runs (entityMatching.runJob "/run" (.object [])) turns₀ (.ok job₀) ∧
      entityMatching.client.Follows job₀ turns job ∧
      job₀.status = .running ∧ job.status = .completed ∧
      job.createdTime = some 5 ∧ job.startTime = some 6 ∧ job.statusTime = none ∧
      ∃ first later, job.Tells (Inquiry.documents (first :: later)) := by
  let started : Job :=
    { id := 7, path := "/context/entitymatching/run", status := .running, createdTime := some 5,
      document := runningDocument }
  let completed : Job :=
    { started with status := .completed, startTime := some 6, document := completedDocument }
  -- the job is started
  have hreach₀ : Client.IsReachable
      (Client.plain.config.projectUrl ++ "/context/entitymatching/run") := by decide +kernel
  obtain ⟨turns₀, hpost⟩ := Client.exists_runs_request_of_final .post [] (some (.object []))
    (.response (Client.jsonReply runningDocument)) hreach₀ rfl
  have hstart : Runs (entityMatching.runJob "/run" (.object [])) turns₀ (.ok started) := by
    refine hpost.bind_done ?_
    show Dialogue.done ((Client.jsonReply runningDocument).json >>= Job.ofDocument _) = _
    rw [Client.json_jsonReply plain_runningDocument]
    rfl
  -- an answer describes no job, and the next one describes it at its end
  have hreach : Client.IsReachable (Client.plain.config.projectUrl ++ started.documentPath) := by
    decide +kernel
  obtain ⟨turns₁, hmalformed⟩ := Client.exists_runs_request_of_final .get [] none
    (.response (Client.jsonReply .null)) hreach rfl
  have hfailed := Job.runs_update_of_error hmalformed (Job.reportOf_jsonReply trivial)
  obtain ⟨turns₂, hcompleted⟩ := Client.exists_runs_request_of_final .get [] none
    (.response (Client.jsonReply completedDocument)) hreach rfl
  have hupdated : Runs (started.update .plain) turns₂ (.ok .completed, completed) :=
    Job.runs_update_of_report hcompleted (Job.reportOf_jsonReply plain_completedDocument)
  have hfollows : entityMatching.client.Follows started (([] ++ turns₁) ++ turns₂) completed :=
    .update (.update .start hfailed) hupdated
  obtain ⟨first, later, -, -, -, -, -, htells, -⟩ := job_state_coherent hstart hfollows
  exact ⟨turns₀, _, started, completed, hstart, hfollows, rfl, rfl, rfl, rfl, rfl, first, later,
    htells⟩

end ResourceClient
