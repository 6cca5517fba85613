import Mathlib
import ResourceClient.Proofs.Bulk.Compound
import ResourceClient.Proofs.Collection.Results

/-! # What replies report as missing

    A reply that is no success may report that resources are missing
    (`Http.Response.ReportsMissing`), and its error lists them.  The compound
    error of a call lists what the replies to its chunks report
    (`BulkCall.namesUnder_joined`), so that these reports are all that makes
    it one of resources that are not found
    (`BulkCall.namesMissing_of_joined`).

    If there is one chunk only, and its reply reports nothing as missing,
    then the compound error is the error of the reply
    (`BulkCall.exists_joined_singleton`). -/

namespace ResourceClient

open Dialogue

/-! ## Replies that report missing resources -/

/-- What a reply reports as missing: its body is an object with an object
    under `error`, in which there is an array under `missing`. -/
inductive Http.Response.ReportsMissing (r : Http.Response) (values : List Json) : Prop where
  /-- These are the members. -/
  | list {body error : Json} {reported : Fields} (hbody : Json.parseBytes r.body = .ok body)
      (herror : body.get? "error" = some error) (hreported : error.fields? = some reported)
      (hmissing : reported.get? "missing" = some (.array values))

theorem ApiError.mem_listUnder_iff {object : Fields} {key : String} {v : Json} :
    v ∈ listUnder object key ↔ ∃ values, object.get? key = some (.array values) ∧ v ∈ values := by
  unfold listUnder
  cases object.get? key with
  | none => simp
  | some found => cases found <;> simp [Json.array?]

/-- The error of a reply has the missing identifiers that it reports. -/
theorem ApiError.mem_missing_ofReply_iff {r : Http.Response} {id : Option String} {v : Json} :
    v ∈ (ofReply r.status r.body id).missing ↔
      ∃ values, r.ReportsMissing values ∧ v ∈ values := by
  constructor
  · intro hv
    unfold ofReply at hv
    cases hbody : Json.parseBytes r.body with
    | error fault => simp [hbody, ofCode] at hv
    | ok body =>
      cases herror : body.get? "error" with
      | none => simp [hbody, herror, ofCode] at hv
      | some error =>
        cases error with
        | object entries =>
          simp only [hbody, herror] at hv
          obtain ⟨values, hmissing, hmem⟩ := mem_listUnder_iff.1 hv
          exact ⟨values, .list hbody herror rfl hmissing, hmem⟩
        | _ => simp [hbody, herror, ofCode] at hv
  · rintro ⟨values, @⟨body, error, reported, hbody, herror, hreported, hmissing⟩, hmem⟩
    cases error with
    | object entries =>
      obtain rfl := Option.some.inj hreported
      simp only [ofReply, hbody, herror]
      exact mem_listUnder_iff.2 ⟨values, hmissing, hmem⟩
    | _ => cases hreported

/-- The error that a reply reports. -/
def Http.Response.apiError (r : Http.Response) : ApiError :=
  .ofReply r.status r.body r.requestId?

/-- A call fails with the error that a reply reports, where the values that the
    reply reports as duplicated are there once. -/
structure Http.Response.FailsWith (r : Http.Response) (e : Error) : Prop where
  /-- It is the reported error. -/
  kind : ∃ duplicated, e.kind = .api { r.apiError with duplicated } ∧
    Json.MergedOnce duplicated r.apiError.duplicated
  /-- It is so exactly if no value is reported twice. -/
  exact : (r.apiError.duplicated.Pairwise fun u v => u.same v = false) → e.kind = r.error.kind
  /-- Nothing is said of where it happened. -/
  context : e.context = none
  /-- There is no error underneath. -/
  source : e.source = none

/-- The error that is raised for a single reply that reports nothing
    missing. -/
theorem Summary.IsCompound.failsWith {r : Http.Response} {primary e : Error}
    (h : IsCompound [r.error] primary e) (hmissing : r.apiError.missing = []) :
    r.FailsWith e := by
  obtain rfl : primary = r.error := List.mem_singleton.1 h.isPrimary.mem
  have hnone : mergedReports (·.missing) [r.error] = r.apiError.missing := by
    show mergeUnique [] r.apiError.missing = _
    rw [hmissing]
    rfl
  have hkind := h.answer r.apiError rfl
  rw [hnone] at hkind
  refine ⟨⟨_, hkind, ?_⟩, fun hdistinct => ?_, h.context_eq, h.source_eq⟩
  · exact List.append_nil r.apiError.duplicated ▸ mergedOnce_mergedReports (·.duplicated) [r.error]
  · have hall : mergedReports (·.duplicated) [r.error] = r.apiError.duplicated :=
      mergeUnique_of_distinct hdistinct
    rw [hall] at hkind
    exact hkind
/-! ## What deliveries report as missing -/

namespace Collection

/-- The request of a delivery was answered, without success, with the report
    that something is missing. -/
def Delivery.Misses (d : Delivery) (v : Json) : Prop :=
  ∃ r values, d.final = .ok r ∧ r.isSuccess = false ∧ r.ReportsMissing values ∧ v ∈ values

/-- An error that says of missing resources what deliveries report. -/
structure NamesMissing (e : Error) (deliveries : List Delivery) : Prop where
  /-- Resources are not found if one of the deliveries says so. -/
  isNotFound_iff : e.isNotFound = true ↔ ∃ d ∈ deliveries, ∃ v, d.Misses v
  /-- All that they report is in the list of the error. -/
  names : ∀ d ∈ deliveries, ∀ v, d.Misses v → Summary.NamesUnder (·.missing) e v

/-- An error that is no answer of the server says what deliveries report that
    miss nothing. -/
theorem namesMissing_of_ne_api {e : Error} {deliveries : List Delivery}
    (hkind : ∀ a, e.kind ≠ .api a) (h : ∀ d ∈ deliveries, ∀ v, ¬ d.Misses v) :
    NamesMissing e deliveries where
  isNotFound_iff := by
    rw [Summary.isNotFound_iff]
    constructor
    · rintro ⟨v, a, ha, -⟩
      exact absurd ha (hkind a)
    · rintro ⟨d, hd, v, hmisses⟩
      exact absurd hmisses (h d hd v)
  names := fun d hd v hmisses => absurd hmisses (h d hd v)

namespace BulkCall

variable {c : Collection} {call : BulkCall} {deliveries : List Delivery} {d : Delivery}

/-- A reply that is no success is an error of its chunk. -/
theorem answer_of_not_success (call : BulkCall) {r : Http.Response} (h : r.isSuccess = false) :
    call.answer (.ok r) = .error r.error := by
  unfold answer read Client.successful
  cases call.hasResults <;> simp [h] <;> rfl

/-- And no success of its chunk. -/
theorem fateOf_of_not_success (call : BulkCall) {r : Http.Response} (h : r.isSuccess = false) :
    call.fateOf (.ok r) ≠ .successful := by
  intro hfate
  simp only [fateOf, h, Bool.false_eq_true, if_false] at hfate
  split at hfate <;> cases hfate

/-- The other errors are no answers of the server. -/
theorem answer_eq_error (hd : call.IsDelivery c d) {x : Error}
    (h : call.answer d.final = .error x) :
    (∃ r, d.final = .ok r ∧ r.isSuccess = false ∧ x = r.error) ∨
      (∀ a, x.kind ≠ .api a) ∧ ∀ r, d.final = .ok r → r.isSuccess = true := by
  cases hfinal : d.final with
  | error e =>
    have hsame : call.answer (.error e) = .error e := by
      unfold answer read
      cases call.hasResults <;> rfl
    rw [hfinal, hsame] at h
    obtain rfl := Except.error.inj h
    exact Or.inr ⟨final_ne_api hd e hfinal, fun r hr => nomatch hr⟩
  | ok r =>
    rw [hfinal] at h
    by_cases hsuccess : r.isSuccess = true
    · -- the items could not be read
      refine Or.inr ⟨?_, fun r' hr' => Except.ok.inj hr' ▸ hsuccess⟩
      have hsuccessful : Client.successful (.ok r) = .ok r := if_pos hsuccess
      rw [answer, read, hsuccessful] at h
      cases hresults : call.hasResults with
      | false =>
        rw [hresults] at h
        cases h
      | true =>
        rw [hresults] at h
        rcases itemsOf_cases r with ⟨-, items, hitems⟩ | ⟨-, e, message, he, hmessage⟩
        · cases hitems.symm.trans h
        · obtain rfl := Except.error.inj (he.symm.trans h)
          rw [hmessage]
          exact fun a => ErrorKind.noConfusion
    · have hnot := Bool.eq_false_of_not_eq_true hsuccess
      rw [answer_of_not_success call hnot] at h
      exact Or.inl ⟨r, rfl, hnot, (Except.error.inj h).symm⟩

/-- The error of a chunk names what its reply reports as missing. -/
theorem namesUnder_answer (hd : call.IsDelivery c d) {x : Error}
    (h : call.answer d.final = .error x) (v : Json) :
    Summary.NamesUnder (·.missing) x v ↔ ∃ u, d.Misses u ∧ u.same v = true := by
  rcases answer_eq_error hd h with ⟨r, hfinal, hsuccess, rfl⟩ | ⟨hkind, hsuccess⟩
  · constructor
    · rintro ⟨a, ha, u, hu, huv⟩
      obtain rfl := ErrorKind.api.inj ha
      obtain ⟨values, hreports, hmem⟩ := ApiError.mem_missing_ofReply_iff.1 hu
      exact ⟨u, ⟨r, values, hfinal, hsuccess, hreports, hmem⟩, huv⟩
    · rintro ⟨u, ⟨r', values, hfinal', -, hreports, hmem⟩, huv⟩
      obtain rfl := Except.ok.inj (hfinal.symm.trans hfinal')
      exact ⟨_, rfl, u, ApiError.mem_missing_ofReply_iff.2 ⟨values, hreports, hmem⟩, huv⟩
  · constructor
    · rintro ⟨a, ha, -⟩
      exact absurd ha (hkind a)
    · rintro ⟨u, ⟨r, values, hfinal, hnot, -⟩, -⟩
      rw [hsuccess r hfinal] at hnot
      cases hnot

theorem fateOf_of_misses (call : BulkCall) {v : Json} (h : d.Misses v) :
    call.fateOf d.final ≠ .successful := by
  obtain ⟨r, values, hfinal, hsuccess, -⟩ := h
  rw [hfinal]
  exact fateOf_of_not_success call hsuccess

/-- A reply that reports something missing is an error of its chunk. -/
theorem exists_answer_of_misses (call : BulkCall) {v : Json} (h : d.Misses v) :
    ∃ x, call.answer d.final = .error x := by
  obtain ⟨r, values, hfinal, hsuccess, -⟩ := h
  rw [hfinal]
  exact ⟨r.error, answer_of_not_success call hsuccess⟩

/-- The error for all chunks names what their replies report as missing. -/
theorem namesUnder_joined (hdeliveries : ∀ d ∈ deliveries, call.IsDelivery c d) {e : Error}
    (h : call.joined deliveries = .error e) (v : Json) :
    Summary.NamesUnder (·.missing) e v ↔
      ∃ d ∈ deliveries, ∃ u, d.Misses u ∧ u.same v = true := by
  obtain ⟨primary, hcompound⟩ := isCompound_of_joined h
  rw [hcompound.names_missing]
  constructor
  · rintro ⟨x, hx, hv⟩
    obtain ⟨d, hd, hanswer⟩ := mem_exceptions_iff.1 hx
    exact ⟨d, hd, (namesUnder_answer (hdeliveries d hd) hanswer v).1 hv⟩
  · rintro ⟨d, hd, u, hmisses, huv⟩
    obtain ⟨x, hanswer⟩ := exists_answer_of_misses call hmisses
    exact ⟨x, mem_exceptions_iff.2 ⟨d, hd, hanswer⟩,
      (namesUnder_answer (hdeliveries d hd) hanswer v).2 ⟨u, hmisses, huv⟩⟩

theorem namesMissing_of_joined (hdeliveries : ∀ d ∈ deliveries, call.IsDelivery c d) {e : Error}
    (h : call.joined deliveries = .error e) : NamesMissing e deliveries where
  isNotFound_iff := by
    simp only [Summary.isNotFound_iff, namesUnder_joined hdeliveries h]
    constructor
    · rintro ⟨v, d, hd, u, hmisses, -⟩
      exact ⟨d, hd, u, hmisses⟩
    · rintro ⟨d, hd, v, hmisses⟩
      exact ⟨v, d, hd, v, hmisses, Json.same_refl v⟩
  names := fun d hd v hmisses =>
    (namesUnder_joined hdeliveries h v).2 ⟨d, hd, v, hmisses, Json.same_refl v⟩

/-- A single delivery that was answered without success makes for an error.
    It says that something is missing if the reply does, and is the error of
    the reply otherwise. -/
theorem exists_joined_singleton (hd : call.IsDelivery c d) {r : Http.Response}
    (hfinal : d.final = .ok r) (hsuccess : r.isSuccess = false) :
    ∃ e, call.joined [d] = .error e ∧
      (e.isNotFound = true ↔ ∃ values, r.ReportsMissing values ∧ values ≠ []) ∧
      (e.isNotFound = false → r.FailsWith e) := by
  have hdeliveries : ∀ d' ∈ [d], call.IsDelivery c d' := List.forall_mem_singleton.2 hd
  have hmisses (v : Json) : d.Misses v ↔ ∃ values, r.ReportsMissing values ∧ v ∈ values := by
    constructor
    · rintro ⟨r', values, hfinal', -, hreports, hmem⟩
      obtain rfl := Except.ok.inj (hfinal.symm.trans hfinal')
      exact ⟨values, hreports, hmem⟩
    · rintro ⟨values, hreports, hmem⟩
      exact ⟨r, values, hfinal, hsuccess, hreports, hmem⟩
  have hanswer : call.answer d.final = .error r.error := by
    rw [hfinal]
    exact answer_of_not_success call hsuccess
  have hfate : call.fateOf d.final ≠ .successful := by
    rw [hfinal]
    exact fateOf_of_not_success call hsuccess
  obtain ⟨e, hjoined⟩ := joined_of_unsuccessful hdeliveries (List.mem_singleton_self d) hfate
  have hnames := (namesMissing_of_joined hdeliveries hjoined).isNotFound_iff
  have hfound : e.isNotFound = true ↔ ∃ values, r.ReportsMissing values ∧ values ≠ [] := by
    rw [hnames]
    constructor
    · rintro ⟨d', hd', v, hv⟩
      obtain rfl := List.mem_singleton.1 hd'
      obtain ⟨values, hreports, hmem⟩ := (hmisses v).1 hv
      exact ⟨values, hreports, List.ne_nil_of_mem hmem⟩
    · rintro ⟨values, hreports, hne⟩
      obtain ⟨v, hmem⟩ := List.exists_mem_of_ne_nil _ hne
      exact ⟨d, List.mem_singleton_self d, v, (hmisses v).2 ⟨values, hreports, hmem⟩⟩
  refine ⟨e, hjoined, hfound, fun hnot => ?_⟩
  have hexceptions : (call.summary [d]).exceptions = [r.error] := by
    rw [summary, List.map_singleton, hanswer]
    rfl
  obtain ⟨primary, hcompound⟩ := isCompound_of_joined hjoined
  rw [hexceptions] at hcompound
  refine hcompound.failsWith (List.eq_nil_iff_forall_not_mem.2 fun v hv => ?_)
  -- what the reply reports as missing is missing in the error too
  obtain ⟨values, hreports, hmem⟩ := ApiError.mem_missing_ofReply_iff.1 hv
  rw [hfound.2 ⟨values, hreports, List.ne_nil_of_mem hmem⟩] at hnot
  cases hnot

end BulkCall
end Collection

end ResourceClient
