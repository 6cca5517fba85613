import Mathlib
import ResourceClient.Proofs.Bulk.Chunks
import ResourceClient.Proofs.Collection.Missing
import ResourceClient.Proofs.Collection.Replay

/-! # Resources that are not found

    A call that names a single resource takes a reply that reports something
    as missing for an empty result, and any other reply that is no success
    for the error that it reports.  A call that names several does not
    forgive: it fails when a chunk fails, and its error says of the missing
    resources what the replies say (`not_found_recovery`). -/

namespace ResourceClient

open Dialogue

/-! ## Lists of results -/

section results

variable {α β ε : Type} {f : α → Except ε β}

theorem length_of_mapM_eq_ok {l : List α} {l' : List β} (h : l.mapM f = .ok l') :
    l'.length = l.length := by
  induction l generalizing l' with
  | nil =>
    obtain rfl := Except.ok.inj h
    rfl
  | cons a l ih =>
    rw [List.mapM_cons] at h
    cases hfirst : f a with
    | error e =>
      rw [hfirst] at h
      cases h
    | ok b =>
      cases hrest : l.mapM f with
      | error e =>
        rw [hfirst, hrest] at h
        cases h
      | ok bs =>
        rw [hfirst, hrest] at h
        obtain rfl := Except.ok.inj h
        rw [List.length_cons, List.length_cons, ih hrest]

/-- The error is that of the first one that has one. -/
theorem first_of_mapM_eq_error {l : List α} {e : ε} (h : l.mapM f = .error e) :
    ∃ before a after, l = before ++ a :: after ∧ (∀ b ∈ before, ∃ v, f b = .ok v) ∧
      f a = .error e := by
  induction l with
  | nil => cases h
  | cons a l ih =>
    rw [List.mapM_cons] at h
    cases hfirst : f a with
    | error e' =>
      rw [hfirst] at h
      obtain rfl := Except.error.inj h
      exact ⟨[], a, l, rfl, List.forall_mem_nil _, hfirst⟩
    | ok b =>
      cases hrest : l.mapM f with
      | error e' =>
        rw [hfirst, hrest] at h
        obtain rfl := Except.error.inj h
        obtain ⟨before, a', after, rfl, hbefore, herror⟩ := ih hrest
        exact ⟨a :: before, a', after, rfl, List.forall_mem_cons.2 ⟨⟨b, hfirst⟩, hbefore⟩, herror⟩
      | ok bs =>
        rw [hfirst, hrest] at h
        cases h

theorem exists_of_mapM_eq_error {l : List α} {e : ε} (h : l.mapM f = .error e) :
    ∃ a ∈ l, f a = .error e := by
  obtain ⟨before, a, after, rfl, -, herror⟩ := first_of_mapM_eq_error h
  exact ⟨a, List.mem_append_right _ List.mem_cons_self, herror⟩

/-- There is an error if and only if one of them has one. -/
theorem exists_mapM_eq_error_iff {l : List α} :
    (∃ e, l.mapM f = .error e) ↔ ∃ a ∈ l, ∃ e, f a = .error e := by
  constructor
  · rintro ⟨e, h⟩
    obtain ⟨a, ha, herror⟩ := exists_of_mapM_eq_error h
    exact ⟨a, ha, e, herror⟩
  · rintro ⟨a, ha, e, herror⟩
    induction l with
    | nil => cases ha
    | cons first l ih =>
      rw [List.mapM_cons]
      cases hfirst : f first with
      | error e' => exact ⟨e', rfl⟩
      | ok b =>
        rcases List.mem_cons.1 ha with rfl | hrest
        · rw [herror] at hfirst
          cases hfirst
        · obtain ⟨e', h⟩ := ih hrest
          rw [h]
          exact ⟨e', rfl⟩

end results

namespace IdentifierSequence

/-- There are as many wire forms as identifiers. -/
theorem length_of_wire_eq_ok {s : IdentifierSequence} {wrap : Bool} {wire : List Json}
    (h : s.wire wrap = .ok wire) : wire.length = s.size := by
  cases wrap with
  | true =>
    obtain rfl := Except.ok.inj h
    exact List.length_map _
  | false => exact length_of_mapM_eq_ok h

/-- The only thing that can be wrong with identifiers is that a text is to be
    sent bare. -/
theorem error_of_wire_eq_error {s : IdentifierSequence} {wrap : Bool} {e : Error}
    (h : s.wire wrap = .error e) : e = Identifier.mustBeWrapped := by
  cases wrap with
  | true => cases h
  | false =>
    obtain ⟨i, -, hbare⟩ := exists_of_mapM_eq_error h
    cases i with
    | id n => cases hbare
    | externalId s => exact (Except.error.inj hbare).symm

end IdentifierSequence

/-- A decoder whose errors are about the shape of values. -/
def Decoder.OnlyShapes {α : Type} (decode : Decoder α) : Prop :=
  ∀ v e, decode v = .error e → ∃ message, e.kind = .serialization message

/-- Plain JSON is always read. -/
theorem Decoder.onlyShapes_json : Decoder.json.OnlyShapes := by
  intro v e h
  cases h

/-- So are the errors of reading a list. -/
theorem Decoder.OnlyShapes.list {α : Type} {decode : Decoder α} (h : decode.OnlyShapes)
    {items : List Json} {e : Error} (he : decode.list items = .error e) :
    ∃ message, e.kind = .serialization message := by
  obtain ⟨v, -, hv⟩ := exists_of_mapM_eq_error he
  exact h v e hv

namespace Collection

/-! ## Calls that name resources -/

/-- A call that names resources. -/
inductive NamingCall where
  | retrieve (identifiers : IdentifierSequence) (wrap ignoreUnknown : Bool)
  | delete (identifiers : IdentifierSequence) (wrap : Bool) (extra : Fields)

namespace NamingCall

variable {α : Type}

/-- The call on many items that is made. -/
def bulk : NamingCall → BulkCall
  | retrieve identifiers wrap ignoreUnknown => .retrieve identifiers wrap ignoreUnknown
  | delete identifiers wrap extra => .delete identifiers wrap extra

/-- The resources that are named. -/
def identifiers : NamingCall → IdentifierSequence
  | retrieve identifiers _ _ | delete identifiers _ _ => identifiers

/-- The call, with a decoder.  Deleting gives no resources. -/
def run (c : Collection) (decode : Decoder α) : NamingCall → Dialogue (Result (List α))
  | retrieve identifiers wrap ignoreUnknown =>
    c.retrieveMultiple decode identifiers wrap ignoreUnknown
  | delete identifiers wrap extra => do
    return (← c.deleteMultiple identifiers wrap extra).map fun _ => []

/-- A call is the plain call, whose items are read behind it. -/
theorem run_eq (c : Collection) (decode : Decoder α) (call : NamingCall) :
    call.run c decode = (call.bulk.run c).bind fun found => .done (decodeItems decode found) := by
  cases call with
  | retrieve identifiers wrap ignoreUnknown => exact c.retrieveMultiple_eq decode _ _ _
  | delete identifiers wrap extra =>
    show _ = ((c.deleteMultiple identifiers wrap extra).bind _).bind _
    rw [bind_assoc]
    show (c.deleteMultiple identifiers wrap extra).bind _ = _
    congr 1
    funext deleted
    cases deleted <;> rfl

/-- An error is forgiven if it says that the only resource is missing. -/
theorem finish_error (call : NamingCall) (e : Error) :
    call.bulk.finish (.error e) =
      if e.isNotFound && call.identifiers.isSingleton then .ok [] else .error e := by
  cases call with
  | retrieve identifiers wrap ignoreUnknown => rfl
  | delete identifiers wrap extra =>
    show (forgiving identifiers (.error e)).map _ = if e.isNotFound && identifiers.isSingleton then
      _ else _
    unfold forgiving
    by_cases h : (e.isNotFound && identifiers.isSingleton) = true
    · simp only [h, if_true]
      rfl
    · simp only [h]
      rfl

/-- Nothing else than an error is changed into an error. -/
theorem exists_finish_ok (call : NamingCall) (items : List Json) :
    ∃ found, call.bulk.finish (.ok items) = .ok found := by
  cases call with
  | retrieve identifiers wrap ignoreUnknown => exact ⟨_, rfl⟩
  | delete identifiers wrap extra => exact ⟨_, rfl⟩

theorem wire_bulk (call : NamingCall) :
    ∃ wrap, call.bulk.wire = call.identifiers.wire wrap := by
  cases call with
  | retrieve identifiers wrap ignoreUnknown => exact ⟨wrap, rfl⟩
  | delete identifiers wrap extra => exact ⟨wrap, rfl⟩

theorem total_run (c : Collection) (decode : Decoder α) (call : NamingCall) :
    (call.run c decode).Total := by
  rw [run_eq]
  exact (BulkCall.total_run c call.bulk).bind fun found => .done _

/-- Identifiers that cannot be sent are no answer of the server. -/
theorem ne_api_of_wire_eq_error {call : NamingCall} {e : Error} (h : call.bulk.wire = .error e)
    (a : ApiError) : e.kind ≠ .api a := by
  obtain ⟨wrap, hwrap⟩ := call.wire_bulk
  rw [IdentifierSequence.error_of_wire_eq_error (hwrap.symm.trans h)]
  exact ErrorKind.noConfusion

/-- A single identifier is sent in a single chunk. -/
theorem exists_chunks_of_single {call : NamingCall} {wire : List Json}
    (hwire : call.bulk.wire = .ok wire) (hsize : call.identifiers.size = 1) (size : Nat) :
    ∃ chunk, chunks size wire = [chunk] := by
  obtain ⟨wrap, hwrap⟩ := call.wire_bulk
  have hlength : wire.length = 1 :=
    (IdentifierSequence.length_of_wire_eq_ok (hwrap.symm.trans hwire)).trans hsize
  obtain ⟨v, rfl⟩ := List.length_eq_one_iff.1 hlength
  exact ⟨[v], chunks_singleton size v⟩

end NamingCall

/-! ## What is recovered from -/

/-- The result that a call for a single resource makes of a reply that is no
    success. -/
structure Recovers {α : Type} (r : Http.Response) (result : Result (List α)) : Prop where
  /-- It is no error exactly if something is reported as missing. -/
  ok_iff : (∃ found, result = .ok found) ↔ ∃ values, r.ReportsMissing values ∧ values ≠ []
  /-- Nothing is found then. -/
  found_eq : ∀ found, result = .ok found → found = []
  /-- Any other reply is the error that it reports. -/
  failsWith : ∀ e, result = .error e → r.FailsWith e

section recovery

variable {α : Type} {c : Collection} {call : NamingCall} {deliveries : List Delivery}
  {decode : Decoder α}

/-- A call for a single resource recovers from its only delivery. -/
theorem NamingCall.recovers_of_delivers {wire : List Json} {sent : List (Outgoing × Http.Reply)}
    (hwire : call.bulk.wire = .ok wire) (hsize : call.identifiers.size = 1)
    (hdelivers : call.bulk.Delivers c (chunks (call.bulk.limit c) wire) sent deliveries)
    {d : Delivery} (hd : d ∈ deliveries) {r : Http.Response} (hfinal : d.final = .ok r)
    (hsuccess : r.isSuccess = false) :
    Recovers r (decodeItems decode (call.bulk.finish (call.bulk.joined deliveries))) := by
  obtain ⟨chunk, hchunk⟩ := exists_chunks_of_single hwire hsize (call.bulk.limit c)
  rw [hchunk] at hdelivers
  obtain ⟨final, rfl⟩ := hdelivers.of_single
  obtain rfl := List.mem_singleton.1 hd
  obtain ⟨e, hjoined, hfound, hfails⟩ :=
    BulkCall.exists_joined_singleton (hdelivers.isDelivery _ hd) hfinal hsuccess
  have hsingleton : call.identifiers.isSingleton = true := beq_iff_eq.2 hsize
  rw [hjoined, finish_error, hsingleton, Bool.and_true]
  by_cases hnot : e.isNotFound = true
  · rw [if_pos hnot]
    exact ⟨⟨fun _ => hfound.1 hnot, fun _ => ⟨[], rfl⟩⟩,
      fun _ h => (Except.ok.inj h).symm, fun _ h => nomatch h⟩
  · rw [if_neg hnot]
    refine ⟨⟨?_, fun h => absurd (hfound.2 h) hnot⟩, fun _ h => (nomatch h), fun e' he' => ?_⟩
    · rintro ⟨_, h⟩
      cases h
    · obtain rfl := Except.error.inj he'
      exact hfails (Bool.eq_false_of_not_eq_true hnot)

/-- A call for several resources forgives nothing. -/
theorem NamingCall.finish_error_of_several (hsize : 2 ≤ call.identifiers.size) (e : Error) :
    call.bulk.finish (.error e) = .error e := by
  have hseveral : call.identifiers.isSingleton = false := beq_false_of_ne (by omega)
  rw [finish_error, hseveral, Bool.and_false]
  rfl

/-- It fails as soon as a chunk is not successful. -/
theorem NamingCall.exists_error_of_several (hsize : 2 ≤ call.identifiers.size)
    (hdeliveries : ∀ d ∈ deliveries, call.bulk.IsDelivery c d) {d : Delivery}
    (hd : d ∈ deliveries) (hfate : call.bulk.fateOf d.final ≠ .successful) :
    ∃ e, decodeItems decode (call.bulk.finish (call.bulk.joined deliveries)) = .error e ∧
      NamesMissing e deliveries := by
  obtain ⟨e, hjoined⟩ := BulkCall.joined_of_unsuccessful hdeliveries hd hfate
  refine ⟨e, ?_, BulkCall.namesMissing_of_joined hdeliveries hjoined⟩
  rw [hjoined, finish_error_of_several hsize]
  rfl

/-- And whatever it fails with, the error names what is missing. -/
theorem NamingCall.namesMissing_of_several (hsize : 2 ≤ call.identifiers.size)
    (hdeliveries : ∀ d ∈ deliveries, call.bulk.IsDelivery c d) (hshapes : decode.OnlyShapes)
    {e : Error}
    (he : decodeItems decode (call.bulk.finish (call.bulk.joined deliveries)) = .error e) :
    NamesMissing e deliveries := by
  cases hjoined : call.bulk.joined deliveries with
  | error e' =>
    rw [hjoined, finish_error_of_several hsize] at he
    obtain rfl := Except.error.inj he
    exact BulkCall.namesMissing_of_joined hdeliveries hjoined
  | ok items =>
    -- every chunk is successful, and what was found could not be read
    obtain ⟨found, hfound⟩ := call.exists_finish_ok items
    rw [hjoined, hfound] at he
    obtain ⟨message, hkind⟩ := hshapes.list he
    apply namesMissing_of_ne_api
    · intro a
      rw [hkind]
      exact ErrorKind.noConfusion
    · intro d hd v hmisses
      obtain ⟨e', herror⟩ := BulkCall.joined_of_unsuccessful hdeliveries hd
        (BulkCall.fateOf_of_misses _ hmisses)
      rw [hjoined] at herror
      cases herror

end recovery

/-- **Recovery from resources that are not found is exact.**  A call that
    names resources always has a result, and its requests are deliveries of
    its chunks.  If it names a single one, and the final reply is no success,
    then the result is empty if the reply reports something missing, and the
    error of the reply otherwise.  If it names several, then it is an error
    as soon as a chunk is not successful; and whenever it is an error, that
    error says that resources are not found exactly if a final reply that is
    no success reports something missing, and names all that is reported. -/
theorem not_found_recovery {α : Type} (c : Collection) (decode : Decoder α) (call : NamingCall) :
    (∀ {ω : Type} (w : World ω) (x : ω),
      ∃ result x', (call.run c decode).run w x = some (result, x')) ∧
    ∀ turns result, Runs (call.run c decode) turns result →
      ∃ deliveries, call.bulk.Delivers c (call.bulk.parts c) (exchanges turns) deliveries ∧
        (call.identifiers.size = 1 → ∀ d ∈ deliveries, ∀ r, d.final = .ok r →
          r.isSuccess = false → Recovers r result) ∧
        (2 ≤ call.identifiers.size →
          ((∃ d ∈ deliveries, call.bulk.fateOf d.final ≠ .successful) →
            ∃ e, result = .error e ∧ NamesMissing e deliveries) ∧
          (decode.OnlyShapes → ∀ e, result = .error e → NamesMissing e deliveries)) := by
  refine ⟨fun w x => run_of_total w (call.total_run c decode) x, ?_⟩
  intro turns result hruns
  rw [NamingCall.run_eq] at hruns
  obtain ⟨found, before, after, rfl, hbulk, hread⟩ := runs_bind_iff.1 hruns
  obtain ⟨rfl, rfl⟩ := runs_done_iff.1 hread
  rw [List.append_nil]
  rcases BulkCall.runs_cases hbulk with
    ⟨rfl, hparts, e, rfl, hcause⟩ | ⟨wire, deliveries, hwire, hparts, hdelivers, rfl⟩
  · -- nothing was sent, and the error is no answer of the server
    have hkind (a : ApiError) : e.kind ≠ .api a := by
      rcases hcause with hwire | rfl
      · exact NamingCall.ne_api_of_wire_eq_error hwire a
      · exact ErrorKind.noConfusion
    refine ⟨[], ⟨hparts.symm, interleaves_nil, by simp⟩, by simp, fun _ => ⟨by simp, ?_⟩⟩
    intro _ e' he'
    obtain rfl := Except.error.inj he'
    exact namesMissing_of_ne_api hkind (by simp)
  · refine ⟨deliveries, hdelivers, ?_, ?_⟩
    · intro hsize d hd r hfinal hsuccess
      rw [hparts] at hdelivers
      exact NamingCall.recovers_of_delivers hwire hsize hdelivers hd hfinal hsuccess
    · intro hsize
      constructor
      · rintro ⟨d, hd, hfate⟩
        exact NamingCall.exists_error_of_several hsize hdelivers.isDelivery hd hfate
      · intro hshapes e he
        exact NamingCall.namesMissing_of_several hsize hdelivers.isDelivery hshapes he

/-! ## A server that has nothing -/

/-- The reply that resources are missing. -/
def missingReply (values : List Json) : Http.Response :=
  { Client.jsonReply (.object [("error", .object [("missing", .array values)])]) with
    status := 400 }

theorem reportsMissing_missingReply {values : List Json} (h : ∀ v ∈ values, Json.Plain 124 v) :
    (missingReply values).ReportsMissing values := by
  have hplain : Json.Plain Json.maxDepth
      (.object [("error", .object [("missing", .array values)])]) :=
    ⟨List.pairwise_singleton _ _, ⟨List.pairwise_singleton _ _, Json.plainItems_iff.2 h, trivial⟩,
      trivial⟩
  have hbody : Json.parseBytes (missingReply values).body =
      .ok (.object [("error", .object [("missing", .array values)])]) := by
    show Json.parseBytes (Json.render _).toUTF8 = _
    rw [Json.parseBytes_toUTF8, Json.parse_render hplain]
  exact .list hbody rfl rfl rfl

/-- A server that misses all that it is asked for. -/
def hasNothing : World Unit := answersItems fun items => .response (missingReply items)

/-- What a chunk asks it for is missing. -/
theorem exists_misses_of_hasNothing {α : Type} {c : Collection} {call : BulkCall}
    (hextra : call.extra.get? "items" = none)
    (hreach : Client.IsReachable (c.client.config.projectUrl ++ call.path c))
    {parts : List (List Json)} {deliveries : List Delivery} {dialogue : Dialogue α}
    (h : call.Delivers c parts (exchanges (turns hasNothing dialogue ())) deliveries)
    {chunk : List Json} (hchunk : chunk ∈ parts) (hplain : ∀ v ∈ chunk, Json.Plain 124 v)
    {v : Json} (hv : v ∈ chunk) : ∃ d ∈ deliveries, d.Misses v := by
  rw [← h.items_eq] at hchunk
  obtain ⟨d, hd, rfl⟩ := List.mem_map.1 hchunk
  have hfinal := h.final_eq hextra hreach
    (serve_answersItems fun items => .response (missingReply items)) hd
  exact ⟨d, hd, _, _, hfinal, rfl, reportsMissing_missingReply hplain, hv⟩

/-- Two resources. -/
def sevenAndEight : IdentifierSequence := ⟨[.id 7, .id 8], List.cons_ne_nil _ _⟩

/-- Assets that are asked for one by one. -/
def assetsOneByOne : Collection := { plainAssets with limits := .uniform 1 }

theorem plain_wrapped_id (n : Int64) : Json.Plain 124 (Identifier.id n).wrapped :=
  ⟨List.pairwise_singleton _ _, ⟨n.le_toInt, by have := n.toInt_lt; omega⟩, trivial⟩

/-- The server has neither of the resources.  A call for one of them finds
    nothing, and a call for both fails with an error that names both. -/
theorem retrieve_from_nothing :
    (∃ turns, Runs ((NamingCall.retrieve (.single (.id 7)) true false).run assetsOneByOne .json)
      turns (.ok [])) ∧
    ∃ turns e, Runs ((NamingCall.retrieve sevenAndEight true false).run assetsOneByOne .json) turns
        (.error e) ∧
      e.isNotFound = true ∧ Summary.NamesUnder (·.missing) e (Identifier.id 7).wrapped ∧
        Summary.NamesUnder (·.missing) e (Identifier.id 8).wrapped := by
  have hreach (identifiers : IdentifierSequence) : Client.IsReachable
      (assetsOneByOne.client.config.projectUrl ++
        (BulkCall.retrieve identifiers true false).path assetsOneByOne) := by
    show Client.IsReachable (_ ++ assetsOneByOne.endpoint "/byids")
    decide +kernel
  constructor
  · let call : NamingCall := .retrieve (.single (.id 7)) true false
    obtain ⟨htotal, hrecovers⟩ := not_found_recovery assetsOneByOne .json call
    obtain ⟨result, x', hrun⟩ := htotal hasNothing ()
    obtain ⟨deliveries, hdelivers, hsingle, -⟩ := hrecovers _ _ (runs_of_run hrun)
    have hwire : call.bulk.wire = .ok [(Identifier.id 7).wrapped] := rfl
    have hparts : [(Identifier.id 7).wrapped] ∈ call.bulk.parts assetsOneByOne := by
      rw [BulkCall.parts_eq (by decide) hwire, chunks_singleton]
      exact List.mem_singleton_self _
    obtain ⟨d, hd, r, values, hfinal, hsuccess, hreports, hmem⟩ :=
      exists_misses_of_hasNothing rfl (hreach _) hdelivers hparts
        (List.forall_mem_singleton.2 (plain_wrapped_id 7)) (List.mem_singleton_self _)
    obtain ⟨hok, hnothing, -⟩ := hsingle rfl d hd r hfinal hsuccess
    obtain ⟨found, rfl⟩ := hok.2 ⟨values, hreports, List.ne_nil_of_mem hmem⟩
    obtain rfl := hnothing found rfl
    exact ⟨_, runs_of_run hrun⟩
  · let call : NamingCall := .retrieve sevenAndEight true false
    obtain ⟨htotal, hrecovers⟩ := not_found_recovery assetsOneByOne .json call
    obtain ⟨result, x', hrun⟩ := htotal hasNothing ()
    obtain ⟨deliveries, hdelivers, -, hseveral⟩ := hrecovers _ _ (runs_of_run hrun)
    have hwire : call.bulk.wire = .ok [(Identifier.id 7).wrapped, (Identifier.id 8).wrapped] := rfl
    have hparts : call.bulk.parts assetsOneByOne =
        [[(Identifier.id 7).wrapped], [(Identifier.id 8).wrapped]] := by
      rw [BulkCall.parts_eq (by decide) hwire]
      show chunks 1 _ = _
      simp [chunks, chunksOfSucc_cons]
    have hmisses (n : Int64) (hchunk : [(Identifier.id n).wrapped] ∈
        call.bulk.parts assetsOneByOne) : ∃ d ∈ deliveries, d.Misses (Identifier.id n).wrapped :=
      exists_misses_of_hasNothing rfl (hreach _) hdelivers hchunk
        (List.forall_mem_singleton.2 (plain_wrapped_id n)) (List.mem_singleton_self _)
    obtain ⟨d₇, hd₇, hmisses₇⟩ := hmisses 7 (by simp [hparts])
    obtain ⟨d₈, hd₈, hmisses₈⟩ := hmisses 8 (by simp [hparts])
    obtain ⟨hfails, hnamed⟩ := hseveral le_rfl
    obtain ⟨e, rfl, -⟩ := hfails ⟨d₇, hd₇, BulkCall.fateOf_of_misses call.bulk hmisses₇⟩
    have hnames := hnamed Decoder.onlyShapes_json e rfl
    exact ⟨_, e, runs_of_run hrun, hnames.isNotFound_iff.2 ⟨d₇, hd₇, _, hmisses₇⟩,
      hnames.names d₇ hd₇ _ hmisses₇, hnames.names d₈ hd₈ _ hmisses₈⟩

end Collection

end ResourceClient
