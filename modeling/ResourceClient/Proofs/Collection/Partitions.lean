import Mathlib
import ResourceClient.Proofs.Bulk.Schedule
import ResourceClient.Proofs.Collection.Report
import ResourceClient.Proofs.Listing.Chains

/-! # Partitions that are read side by side

    The partitions of a listing are tasks of a bulk operation, and each task
    reads a listing of its own to the end.  So what is sent is the chains of
    the partitions, woven into each other, and the label of a request tells
    the chain that it comes from (`ReadsPartitions`): no cursor of one
    partition is ever used in another, whatever the schedule is.

    The results stand in the order of the labels, as do the items of a
    listing whose chains all come to their ends.  If some do not, there is
    one error for all, and its outcome holds every label once, under the
    fate of its chain (`partitioned_listing`).

    A listing whose partitions end comes to its end itself, since the
    partitions end under every schedule (`endsIn_listPartitioned`). -/

namespace ResourceClient

open Dialogue

namespace Collection

/-! ## Labels of partitions -/

/-- The label of one of so many partitions. -/
def nthLabel (i partitions : Nat) : String := toString i ++ "/" ++ toString partitions

theorem nthLabel_inj {i j partitions : Nat} :
    nthLabel i partitions = nthLabel j partitions ↔ i = j := by
  unfold nthLabel
  rw [String.append_left_inj, String.append_left_inj]
  exact Nat.repr_inj

theorem partitionLabels_eq (partitions : Nat) :
    partitionLabels partitions = (List.range partitions).map fun i => nthLabel (i + 1) partitions :=
  rfl

theorem mem_partitionLabels {partitions : Nat} {label : String} :
    label ∈ partitionLabels partitions ↔
      ∃ i, 1 ≤ i ∧ i ≤ partitions ∧ label = nthLabel i partitions := by
  rw [partitionLabels_eq, List.mem_map]
  constructor
  · rintro ⟨i, hi, rfl⟩
    exact ⟨i + 1, Nat.le_add_left 1 i, List.mem_range.1 hi, rfl⟩
  · rintro ⟨i, hpos, hle, rfl⟩
    exact ⟨i - 1, List.mem_range.2 (by omega), by rw [Nat.sub_add_cancel hpos]⟩

theorem nodup_partitionLabels (partitions : Nat) : (partitionLabels partitions).Nodup := by
  rw [partitionLabels_eq]
  refine List.nodup_range.map fun i j hij => ?_
  exact Nat.succ.inj (nthLabel_inj.1 hij)

/-! ## Chains side by side -/

/-- The label that a request carries behind all others. -/
def lastLabel? (request : Http.Request) : Option String := (labelsOf request).getLast?

/-- The listing of a partition. -/
def partition (r : ListRequest) (label : String) : ListRequest :=
  { r with partitionLabel := some label }

/-- What is sent for the partitions of a listing, and the chains that they
    are read in, in the order of their labels. -/
structure ReadsPartitions (c : Collection) (r : ListRequest) (partitions : Nat)
    (sent : List (Outgoing × Http.Reply)) (chains : List Chain) : Prop where
  /-- Every partition is read in a chain, which is all that is sent with its
      label. -/
  isChain : List.Forall₂ (fun label ch => c.IsChain (partition r label) ch ∧
      sent.filter (fun e => lastLabel? e.1.request = some label) = ch.sent)
    (partitionLabels partitions) chains
  /-- Every request carries the label of one partition, and besides it only
      the one that the filter may name. -/
  labels : ∀ e ∈ sent, ∃ i, 1 ≤ i ∧ i ≤ partitions ∧
    labelsOf e.1.request = r.filterLabel?.toList ++ [nthLabel i partitions]

/-- The summary of the labels beside what their chains come to. -/
def partitionSummary (partitions : Nat) (chains : List Chain) : Summary String (List Json) :=
  .ofOutcomes ((partitionLabels partitions).zip (chains.map Chain.result))

/-- The labels of the partitions with the fates of their chains. -/
def partitionFates (partitions : Nat) (chains : List Chain) : List (List Json × Fate) :=
  ((partitionLabels partitions).zip chains).map fun p =>
    ([.string p.1], Fate.ofResult p.2.result)

variable {c : Collection} {r : ListRequest} {partitions : Nat}

/-- Chains that are woven into each other are found again by the labels. -/
theorem readsPartitions_of_interleaves (hlimit : r.limit = none) (hchunk : r.chunkSize = none)
    {sent : List (Outgoing × Http.Reply)} {chains : List Chain}
    (hreads : List.Forall₂ (fun label ch => c.Reads (partition r label) {} ch)
      (partitionLabels partitions) chains)
    (h : Interleaves (chains.map Chain.sent) sent) :
    c.ReadsPartitions r partitions sent chains := by
  have hlabels : List.Forall₂ (fun label ch => ∀ e ∈ Chain.sent ch,
      labelsOf e.1.request = r.filterLabel?.toList ++ [label])
      (partitionLabels partitions) chains := by
    refine hreads.imp fun label ch hreads => ?_
    exact hreads.labelsOf_eq (r := partition r label) rfl
  constructor
  · -- the label is the key of what is sent in a chain
    have hkeys : List.Forall₂ (fun label part => ∀ e ∈ part,
        lastLabel? (Prod.fst e).request = label)
        ((partitionLabels partitions).map some) (chains.map Chain.sent) := by
      rw [List.forall₂_map_left_iff, List.forall₂_map_right_iff]
      refine hlabels.imp fun label ch hlabel e he => ?_
      rw [lastLabel?, hlabel e he, List.getLast?_append]
      rfl
    have hnodup : ((partitionLabels partitions).map some).Nodup :=
      (nodup_partitionLabels partitions).map (Option.some_injective String)
    have hfilter := h.forall₂_filter hnodup hkeys
    rw [List.forall₂_map_left_iff, List.forall₂_map_right_iff] at hfilter
    refine List.Forall₂.mp (fun label ch hreads hsent => ⟨?_, hsent⟩) hreads hfilter
    exact hreads.isChain (r := partition r label) hlimit hchunk
  · intro e he
    obtain ⟨part, hpart, hmem⟩ := h.exists_part he
    obtain ⟨ch, hch, rfl⟩ := List.mem_map.1 hpart
    obtain ⟨label, hmemlabel, hlabel⟩ := exists_mem_of_forall₂ hlabels hch
    obtain ⟨i, hpos, hle, rfl⟩ := mem_partitionLabels.1 hmemlabel
    exact ⟨i, hpos, hle, hlabel e hmem⟩

/-- The partitions are read side by side, each of them to its end. -/
theorem runs_execute_partitions (hworkers : 1 ≤ c.client.config.maxWorkers) {budget : Nat}
    {turns : List Turn} {outcome : Result (Summary String (List Json))}
    (h : Runs (Bulk.execute c.client.config.maxWorkers (partitionLabels partitions)
      fun label => c.list Decoder.json budget (partition r label)) turns outcome) :
    ∃ chains,
      List.Forall₂ (fun label ch => c.Reads (partition r label) {} ch)
        (partitionLabels partitions) chains ∧
      Interleaves (chains.map Chain.sent) (exchanges turns) ∧
      outcome = .ok (partitionSummary partitions chains) := by
  obtain ⟨results, hwoven, rfl⟩ := Bulk.runs_execute hworkers h
  have hreads : ∀ label ∈ partitionLabels partitions, ∀ ts a,
      Runs (c.list Decoder.json budget (partition r label)) ts a →
        ∃ ch : Chain, c.Reads (partition r label) {} ch ∧ exchanges ts = ch.sent ∧
          a = ch.result := by
    intro label _ ts a hruns
    obtain ⟨ch, hch, hsent, rfl⟩ := reads_of_runs_collect hruns
    refine ⟨ch, hch, hsent, ?_⟩
    cases ch.result <;> rfl
  obtain ⟨chains, hreads, hinterleaves, rfl⟩ := hwoven.exists_described hreads
  exact ⟨chains, hreads, hinterleaves, rfl⟩

/-- A listing in partitions reads each of them to its end, and raises the
    summary of the labels beside the results of their chains. -/
theorem runs_listPartitioned (hworkers : 1 ≤ c.client.config.maxWorkers)
    (hpartitions : partitions ≠ 0) {budget : Nat} {turns : List Turn}
    {result : Result (List Json)}
    (h : Runs (c.listPartitioned Decoder.json budget r partitions) turns result) :
    ∃ chains,
      List.Forall₂ (fun label ch => c.Reads (partition r label) {} ch)
        (partitionLabels partitions) chains ∧
      Interleaves (chains.map Chain.sent) (exchanges turns) ∧
      result = ((partitionSummary partitions chains).raise fun label => [.string label]).map
        (·.joined id) := by
  unfold listPartitioned at h
  rw [if_neg hpartitions] at h
  obtain ⟨outcome, ts₁, ts₂, rfl, hexecute, hdone⟩ := runs_bind_iff.1 h
  obtain ⟨chains, hreads, hinterleaves, rfl⟩ := runs_execute_partitions hworkers hexecute
  obtain ⟨rfl, rfl⟩ := runs_done_iff.1 hdone
  refine ⟨chains, hreads, by rwa [List.append_nil], ?_⟩
  exact decodeItems_json_eq _

/-! ## What the chains come to together -/

section together

variable {chains : List Chain} (hlength : (partitionLabels partitions).length = chains.length)
include hlength

/-- The errors of the summary are those of the chains, in the order of the
    labels. -/
theorem exceptions_partitionSummary :
    (partitionSummary partitions chains).exceptions = chains.filterMap Chain.fault := by
  unfold partitionSummary
  generalize partitionLabels partitions = labels at hlength
  induction chains generalizing labels with
  | nil => simp [Summary.ofOutcomes]
  | cons ch chains ih =>
    obtain ⟨label, labels, rfl⟩ := List.exists_cons_of_length_eq_add_one hlength
    have hlater := ih labels (Nat.succ.inj hlength)
    obtain ⟨visits, fault⟩ := ch
    cases fault with
    | none => exact hlater
    | some e => exact congrArg (e :: ·) hlater

theorem forall_partitionFates :
    (∀ f ∈ partitionFates partitions chains, f.2 = .successful) ↔
      ∀ ch ∈ chains, ch.fault = none := by
  have hfates : (partitionFates partitions chains).map (·.2) =
      chains.map fun ch => Fate.ofResult ch.result := by
    unfold partitionFates
    rw [List.map_map]
    show ((partitionLabels partitions).zip chains).map
      ((fun ch => Fate.ofResult ch.result) ∘ Prod.snd) = _
    rw [← List.map_map, List.map_snd_zip hlength.ge]
  have hsuccessful (ch : Chain) : Fate.ofResult ch.result = .successful ↔ ch.fault = none := by
    rw [← ch.result_eq_ok_iff]
    constructor
    · exact Summary.fate_successful
    · rintro ⟨items, hitems⟩
      rw [hitems]
      rfl
  rw [← List.forall_mem_map (P := (· = Fate.successful)), hfates, List.forall_mem_map]
  simp only [hsuccessful]

/-- The labels of all partitions are reported, in order. -/
theorem flatMap_partitionFates :
    (partitionFates partitions chains).flatMap (·.1) =
      (partitionLabels partitions).map .string := by
  unfold partitionFates
  rw [List.flatMap_map, ← List.map_eq_flatMap]
  show ((partitionLabels partitions).zip chains).map (Json.string ∘ Prod.fst) = _
  rw [← List.map_map, List.map_fst_zip hlength.le]

/-- Chains without an error are joined. -/
theorem joined_of_chains (hnone : ∀ ch ∈ chains, ch.fault = none) :
    ((partitionSummary partitions chains).raise fun label => [.string label]).map (·.joined id) =
      .ok (chains.flatMap Chain.items) := by
  have hresults : chains.map Chain.result = (chains.map Chain.items).map Except.ok := by
    rw [List.map_map]
    refine List.map_congr_left fun ch hch => ?_
    rw [Chain.result, hnone ch hch]
    rfl
  unfold partitionSummary
  rw [hresults, Summary.raise_joined_of_ok _ (by rw [List.length_map, hlength]), List.flatMap_def]

end together

/-- The fates are read off the results of the chains. -/
theorem partitionFates_eq (partitions : Nat) (chains : List Chain) :
    partitionFates partitions chains =
      ((partitionLabels partitions).zip (chains.map Chain.result)).map fun o =>
        ([Json.string o.1], Fate.ofResult o.2) := by
  rw [partitionFates, List.zip_map_right, List.map_map]
  rfl

/-- The labels are reported under the fates of their chains. -/
theorem reported_partitions (partitions : Nat) (chains : List Chain) :
    Reported (((partitionSummary partitions chains).raise fun label => [.string label]).map
      (·.joined id)) (partitionFates partitions chains) := by
  rw [partitionFates_eq]
  exact (reported_raise_unwrap (fun label => [Json.string label]) _).map _

/-! ## Listings in partitions -/

/-- If the partitions of a listing end in a world, then the listing does, with
    a budget for each partition. -/
theorem endsIn_listPartitioned {σ : Type} {w : World σ} {s : σ} {pages budget : Nat}
    (hends : ∀ label ∈ partitionLabels partitions, c.EndsWithin (partition r label) w {} s pages)
    (hbudget : pages * (c.limits.list + 1) < budget) :
    EndsIn w (c.listPartitioned Decoder.json budget r partitions) s := by
  have htasks : ∀ d ∈ (partitionLabels partitions).map fun label =>
      c.list Decoder.json budget (partition r label), EndsIn w d s := by
    intro d hd
    obtain ⟨label, hlabel, rfl⟩ := List.mem_map.1 hd
    refine endsIn_collect (hends label hlabel) ?_
    rwa [List.length_nil, Nat.zero_add]
  unfold listPartitioned Bulk.execute
  split
  · exact .done _ s
  · split
    · exact .done _ s
    · refine EndsIn.bind (EndsIn.map (endsIn_gather _ htasks) _) ?_
      intro ts outcome s' _ _
      cases outcome <;> exact .done _ s'

/-- **Partitions do not get in each other's way.**  Without partitions a
    listing fails at once.  With partitions, under every schedule and
    whatever is replied, every partition is read in a chain of its own, which
    is all that is sent with its label.  The listing is a success exactly
    when every chain comes to its end, and then it has the items of the
    chains, chain after chain; otherwise it is the one error for the errors
    of all chains, and its outcome holds every label exactly once, under the
    fate of its chain.  In a world where the partitions end, the listing
    comes to a result. -/
theorem partitioned_listing (c : Collection) (hworkers : 1 ≤ c.client.config.maxWorkers)
    (method : ListMethod) (filter : Option Filter) (partitions : Nat) :
    (partitions = 0 → ∀ budget,
      c.listPartitioned Decoder.json budget (.new method filter none none) partitions =
        .done (.error noPartitions)) ∧
    (1 ≤ partitions →
      (∀ budget turns result,
        Runs (c.listPartitioned Decoder.json budget (.new method filter none none) partitions)
          turns result →
        ∃ chains,
          c.ReadsPartitions (.new method filter none none) partitions (exchanges turns) chains ∧
          ((∃ items, result = .ok items) ↔ ∀ ch ∈ chains, ch.fault = none) ∧
          (∀ items, result = .ok items → items = chains.flatMap Chain.items) ∧
          ∀ e, result = .error e →
            (∃ summary : Summary String (List Json),
              summary.exceptions = chains.filterMap Chain.fault ∧
              summary.raise (fun label => [.string label]) = .error e) ∧
            ∃ outcome, e.outcome = some outcome ∧
              outcome.successful =
                BulkOutcome.itemsWith (partitionFates partitions chains) .successful ∧
              outcome.failed = BulkOutcome.itemsWith (partitionFates partitions chains) .failed ∧
              outcome.unknown = BulkOutcome.itemsWith (partitionFates partitions chains) .unknown ∧
              outcome.Splits ((partitionLabels partitions).map .string)) ∧
      ∀ {σ : Type} (w : World σ) (s : σ) (pages : Nat),
        (∀ label ∈ partitionLabels partitions,
          c.EndsWithin (partition (.new method filter none none) label) w {} s pages) →
        ∀ budget, pages * (c.limits.list + 1) < budget →
          ∃ result s',
            (c.listPartitioned Decoder.json budget (.new method filter none none) partitions).run
              w s = some (result, s')) := by
  constructor
  · rintro rfl budget
    rfl
  · intro hpositive
    constructor
    · intro budget turns result hruns
      obtain ⟨chains, hreads, hinterleaves, rfl⟩ :=
        runs_listPartitioned hworkers (Nat.one_le_iff_ne_zero.1 hpositive) hruns
      have hlength := hreads.length_eq
      obtain ⟨hsuccess, hreports⟩ := reported_partitions partitions chains
      have hall := hsuccess.trans (forall_partitionFates hlength)
      refine ⟨chains, readsPartitions_of_interleaves rfl rfl hreads hinterleaves, hall, ?_, ?_⟩
      · intro items hitems
        rw [joined_of_chains hlength (hall.1 ⟨items, hitems⟩)] at hitems
        exact (Except.ok.inj hitems).symm
      · intro e he
        have hsplits := BulkOutcome.splits_ofFates (partitionFates partitions chains)
        rw [flatMap_partitionFates hlength] at hsplits
        refine ⟨⟨_, exceptions_partitionSummary hlength, ?_⟩, _, hreports e he, rfl, rfl, rfl,
          hsplits⟩
        -- joining the results leaves an error as it is
        cases hraise : (partitionSummary partitions chains).raise fun label => [.string label] with
        | ok summary =>
          rw [hraise] at he
          cases he
        | error e' =>
          rw [hraise] at he
          cases he
          rfl
    · intro σ w s pages hends budget hbudget
      exact (endsIn_listPartitioned hends hbudget).exists_run

/-! ## A server that answers by the labels -/

/-- A server that answers requests by the labels that they carry, and of the
    tasks that run side by side the last one moves first. -/
def answersLabels (answer : String → Http.Reply) : World Unit where
  serve sent x := (answer ((lastLabel? sent.request).getD ""), x)
  pick others x := (Fin.last others, x)

/-- Without cursors no partition has more than a page. -/
theorem endsWithin_one {answer : String → Http.Reply}
    (hlast : ∀ label page, pageOfReply (answer label) = .ok page → page.nextCursor = none)
    (p : Paging) (s : Unit) : c.EndsWithin r (answersLabels answer) p s 1 := by
  intro visits s' hvisits hserves
  match visits, hvisits with
  | [], _ => exact Nat.zero_le 1
  | [_], _ => exact Nat.le_refl 1
  | u :: v :: later, hvisits =>
    -- a second visit would need a cursor in the reply to the first
    have hsplit : Visits c r p ([] ++ u :: v :: later) := hvisits
    obtain ⟨page, next, hpage, hnext, -⟩ := hsplit.cursor_eq_next
    obtain ⟨p', hvisit⟩ := hvisits.exists_isVisitAt (v := u) List.mem_cons_self
    rcases hvisit.isFetch.page_cases with ⟨-, e, herror⟩ | ⟨earlier, sent, reply, hsent, hread⟩
    · rw [hpage] at herror
      cases herror
    · obtain ⟨s₁, s₂, hserve⟩ := hserves.exists_serve (sent, reply) (by simp [hsent])
      have hreply : reply = answer ((lastLabel? sent.request).getD "") :=
        (congrArg Prod.fst hserve).symm
      rw [hpage, hreply] at hread
      rw [hlast _ page hread.symm] at hnext
      cases hnext

/-- If all replies to a chain are the same and without a cursor, then it
    comes to what is kept of their page. -/
theorem IsChain.result_of_reply {ch : Chain} (h : c.IsChain r ch)
    (hreach : Client.IsReachable (c.client.config.projectUrl ++ c.listPath r.method))
    (hlist : c.limits.list ≠ 0) {reply : Http.Reply} (hreply : ∀ e ∈ ch.sent, e.2 = reply)
    (hlast : ∀ page, pageOfReply reply = .ok page → page.nextCursor = none) :
    ch.result = (pageOfReply reply).map fun page => page.items.take c.limits.list := by
  obtain ⟨visits, fault⟩ := ch
  cases visits with
  | nil => exact absurd (h.exists_visit rfl).1 hlist
  | cons v later =>
    have hpage : v.page = pageOfReply reply := by
      have hfetch := h.isFetch v List.mem_cons_self
      rcases hfetch.page_cases with ⟨hnone, -⟩ | ⟨earlier, sent, last, hsent, hpage⟩
      · exact absurd hnone (hfetch.sent_ne_nil hreach)
      · have hsame : last = reply :=
          hreply (sent, last) (List.mem_append_left _ (by simp [hsent]))
        rw [hpage, hsame]
    have hone : later = [] := by
      cases later with
      | nil => rfl
      | cons w later =>
        -- a second visit would need a cursor in the reply
        obtain ⟨page, next, hok, hnext, -⟩ := h.next [] v w later rfl
        rw [hpage] at hok
        rw [hlast page hok] at hnext
        cases hnext
    subst hone
    have hend := h.last [] v rfl
    cases fault with
    | some e =>
      have hfault : v.page = .error e := hend
      rw [← hpage, hfault]
      rfl
    | none =>
      obtain ⟨page, hok, -⟩ : ∃ page, v.page = .ok page ∧ page.nextCursor = none := hend
      have hkept : v.kept = page.items.take c.limits.list := by
        rw [PageVisit.kept, hok, h.limit_eq v List.mem_cons_self]
      rw [← hpage, hok]
      show Except.ok ([v].flatMap PageVisit.kept) = Except.ok (page.items.take c.limits.list)
      rw [List.flatMap_singleton, hkept]

/-- If no reply has a cursor, then the chains come to what is kept of the
    pages that their labels are answered with. -/
theorem ReadsPartitions.results_of_answers {α : Type} {answer : String → Http.Reply}
    {dialogue : Dialogue α} {s : Unit} {chains : List Chain}
    (h : c.ReadsPartitions r partitions
      (exchanges (turns (answersLabels answer) dialogue s)) chains)
    (hreach : Client.IsReachable (c.client.config.projectUrl ++ c.listPath r.method))
    (hlist : c.limits.list ≠ 0)
    (hlast : ∀ label page, pageOfReply (answer label) = .ok page → page.nextCursor = none) :
    chains.map Chain.result = (partitionLabels partitions).map fun label =>
      (pageOfReply (answer label)).map fun page => page.items.take c.limits.list := by
  rw [eq_comm, ← List.forall₂_eq_eq_eq, List.forall₂_map_left_iff, List.forall₂_map_right_iff]
  refine h.isChain.imp fun label ch hchain => Eq.symm ?_
  refine hchain.1.result_of_reply hreach hlist (fun e he => ?_) (hlast label)
  -- what is sent in the chain has its label, and is answered by that
  rw [← hchain.2] at he
  obtain ⟨hmem, hlabel⟩ := List.mem_filter.1 he
  obtain ⟨s₁, s₂, hserve⟩ := exists_serve_of_mem_exchanges hmem
  have hreply : e.2 = answer ((lastLabel? e.1.request).getD "") := (congrArg Prod.fst hserve).symm
  rw [hreply, of_decide_eq_true hlabel, Option.getD_some]

/-- The replies of a server that hands out a page for the first of three
    partitions, rejects the second one, and breaks down at the third. -/
def repliesByLabel (label : String) : Http.Reply :=
  match label with
  | "1/3" => .response (Client.jsonReply (pageJson ⟨[.string "a"], none⟩))
  | "2/3" => .response (bare 400)
  | _ => .response (bare 500)

/-- The first of three partitions is read, the second one is rejected, and at
    the third the server breaks down. -/
theorem list_one_of_three_partitions :
    1 ≤ plainAssets.client.config.maxWorkers ∧
      ∃ e x',
        (plainAssets.listPartitioned Decoder.json 1002 (.new .post none none none) 3).run
          (answersLabels repliesByLabel) () = some (.error e, x') ∧
        e.outcome = some ⟨[.string "1/3"], [.string "2/3"], [.string "3/3"]⟩ := by
  have hworkers : 1 ≤ plainAssets.client.config.maxWorkers := by decide
  have hreach : Client.IsReachable
      (plainAssets.client.config.projectUrl ++ plainAssets.listPath .post) := by decide +kernel
  have hlabels : partitionLabels 3 = ["1/3", "2/3", "3/3"] := by decide +kernel
  have hfirst : pageOfReply (repliesByLabel "1/3") = .ok ⟨[.string "a"], none⟩ :=
    pageOfReply_jsonReply (by simp [Json.Plain])
  have hlast : ∀ label page, pageOfReply (repliesByLabel label) = .ok page →
      page.nextCursor = none := by
    intro label page hpage
    unfold repliesByLabel at hpage
    split at hpage
    · rw [pageOfReply_jsonReply (by simp [Json.Plain])] at hpage
      cases hpage
      rfl
    · cases hpage
    · cases hpage
  obtain ⟨-, hlisting⟩ := partitioned_listing plainAssets hworkers .post none 3
  obtain ⟨hruns, htotal⟩ := hlisting (by decide)
  obtain ⟨result, x', hrun⟩ := htotal (answersLabels repliesByLabel) () 1
    (fun label _ => endsWithin_one hlast {} ()) 1002 (by decide)
  obtain ⟨chains, hreads, hsuccess, -, herror⟩ := hruns _ _ _ (runs_of_run hrun)
  -- the chains come to what their labels are answered with
  have hresults : chains.map Chain.result =
      [.ok [.string "a"], .error (bare 400).error, .error (bare 500).error] := by
    rw [hreads.results_of_answers hreach (by decide) hlast, hlabels]
    simp only [List.map_cons, List.map_nil, hfirst]
    rfl
  have hfates : partitionFates 3 chains = [([.string "1/3"], .successful),
      ([.string "2/3"], .failed), ([.string "3/3"], .unknown)] := by
    rw [partitionFates_eq, hlabels, hresults]
    simp only [List.zip_cons_cons, List.zip_nil_right, List.map_cons, List.map_nil,
      Fate.ofResult_error_response]
    rfl
  refine ⟨hworkers, ?_⟩
  cases result with
  | ok items =>
    -- not all of the chains come to their ends
    have hall := (forall_partitionFates hreads.isChain.length_eq).2 (hsuccess.1 ⟨items, rfl⟩)
    simp [hfates] at hall
  | error e =>
    obtain ⟨-, ⟨_, _, _⟩, houtcome, rfl, rfl, rfl, -⟩ := herror e rfl
    rw [hfates] at houtcome
    exact ⟨e, x', hrun, houtcome⟩

/-- Assets in pages of one. -/
def singleAssets : Collection := { plainAssets with limits := .uniform 1 }

/-- A listing whose filter names a cursor and a partition. -/
def filteredByPartition : ListRequest :=
  .new .get (some (.raw (.ofList [("cursor", .string "abc"), ("partition", .string "1/2")])))
    none none

/-- The reply with a page of two items. -/
def pageOfTwo : Http.Reply :=
  .response (Client.jsonReply (pageJson ⟨[.string "a", .string "b"], none⟩))

/-- In a query the members of the filter stand beside what the listing asks
    for, so that a request may carry two labels, and a cursor that no reply
    gave.  Of a page that is too long only the first items are kept. -/
theorem request_with_two_labels :
    ∃ sent reply x',
      (sent, reply) ∈ exchanges (turns (answersLabels fun _ => pageOfTwo)
        (singleAssets.listPartitioned Decoder.json 3 filteredByPartition 2) ()) ∧
      sent.request.query =
        [("cursor", "abc"), ("partition", "1/2"), ("limit", "1"), ("partition", "2/2")] ∧
      (singleAssets.listPartitioned Decoder.json 3 filteredByPartition 2).run
        (answersLabels fun _ => pageOfTwo) () = some (.ok [.string "a", .string "a"], x') := by
  have hreach : Client.IsReachable
      (singleAssets.client.config.projectUrl ++ singleAssets.listPath .get) := by decide +kernel
  have hlabels : partitionLabels 2 = ["1/2", "2/2"] := by decide +kernel
  have hpage : pageOfReply pageOfTwo = .ok ⟨[.string "a", .string "b"], none⟩ :=
    pageOfReply_jsonReply (by simp [Json.Plain])
  have hlast : ∀ page, pageOfReply pageOfTwo = .ok page → page.nextCursor = none := by
    intro page hok
    rw [hpage] at hok
    cases hok
    rfl
  have hends : EndsIn (answersLabels fun _ => pageOfTwo)
      (singleAssets.listPartitioned Decoder.json 3 filteredByPartition 2) () :=
    endsIn_listPartitioned (fun _ _ => endsWithin_one (fun _ => hlast) {} ()) (by decide)
  obtain ⟨result, x', hrun⟩ := hends.exists_run
  obtain ⟨chains, hreads, hinterleaves, rfl⟩ :=
    runs_listPartitioned (by decide) (by decide) (runs_of_run hrun)
  have hparts := readsPartitions_of_interleaves rfl rfl hreads hinterleaves
  have hresults : chains.map Chain.result = [.ok [.string "a"], .ok [.string "a"]] := by
    rw [hparts.results_of_answers hreach (by decide) (fun _ => hlast), hlabels]
    simp only [List.map_cons, List.map_nil, hpage]
    rfl
  -- the second chain has a visit, and something is sent in it
  have hchains := hparts.isChain
  rw [hlabels] at hchains
  cases hchains with
  | cons _ hchains =>
    cases hchains with
    | @cons _ ch _ _ hchain _ =>
      obtain ⟨hchain, hsent⟩ := hchain
      cases hvisits : ch.visits with
      | nil => exact absurd (hchain.exists_visit hvisits).1 (by decide)
      | cons v later =>
        have hv : v ∈ ch.visits := hvisits ▸ List.mem_cons_self
        have hfetch := hchain.isFetch v hv
        obtain ⟨⟨sent, reply⟩, he⟩ := List.exists_mem_of_ne_nil _ (hfetch.sent_ne_nil hreach)
        have hmem : (sent, reply) ∈ ch.sent := List.mem_flatMap.2 ⟨v, hv, he⟩
        rw [← hsent] at hmem
        refine ⟨sent, reply, x', List.mem_of_mem_filter hmem, ?_, ?_⟩
        · obtain ⟨headers, hrequest⟩ := hfetch.isSentFor _ he
          rw [hrequest, hchain.limit_eq v hv, hchain.first v later hvisits]
          rfl
        · rw [hrun, partitionSummary, hlabels, hresults]
          rfl

end Collection

end ResourceClient
