import Mathlib
import ResourceClient.Proofs.Collection.Calls
import ResourceClient.Proofs.Collection.NotFound
import ResourceClient.Proofs.Dialogue.Requests
import ResourceClient.Proofs.Listing.Safety

/-! # The sizes of requests

    The limits of a collection are ceilings on the number of items of a
    request, one for each operation.  The requests of a call on many items
    carry its chunks, and the chunks are as large as the call says: the limit
    of the operation, unless the caller who creates items gives one
    (`BulkCall.limit_eq`).  What is given is not compared with the ceiling.
    So every request keeps to the ceiling except those of a call whose own
    limit is above it, and these go over it as soon as there are more items
    than it (`BulkCall.IsMadeBy.exceeds_iff`).

    Page requests are different.  The limit of the collection, the chunk size
    and what is still wanted are all bounds on what a page request asks for,
    so that it keeps to the ceiling whatever the caller gives
    (`IsListing.sendsOnly`). -/

namespace ResourceClient

open Dialogue

namespace Collection

/-! ## Chunks -/

namespace BulkCall

/-- How many items a request of the call may carry by the limits of the
    collection. -/
def ceiling (c : Collection) : BulkCall → Nat
  | create _ _ _ => c.limits.create
  | update _ _ => c.limits.update
  | retrieve _ _ _ => c.limits.retrieve
  | delete _ _ _ => c.limits.delete

/-- The limit that the caller gives, if it is one that can be given. -/
def ownLimit? : BulkCall → Option Nat
  | create _ limit _ => limit
  | update _ _ | retrieve _ _ _ | delete _ _ _ => none

theorem limit_eq (c : Collection) (call : BulkCall) :
    call.limit c = call.ownLimit?.getD (call.ceiling c) := by
  cases call <;> rfl

/-- A chunk holds some of the items, and no more than the limit of the call. -/
theorem length_of_mem_parts {c : Collection} {call : BulkCall} {part : List Json}
    (h : part ∈ call.parts c) :
    1 ≤ part.length ∧ part.length ≤ max (call.limit c) 1 ∧
      ∀ wire, call.wire = .ok wire → part.length ≤ wire.length := by
  unfold parts at h
  cases hwire : call.wire with
  | error e =>
    rw [hwire] at h
    cases h
  | ok wire =>
    rw [hwire] at h
    dsimp only at h
    split at h
    · cases h
    · refine ⟨List.length_pos_iff.2 (ne_nil_of_mem_chunks h), length_le_of_mem_chunks h, ?_⟩
      intro wire' hwire'
      obtain rfl := Except.ok.inj hwire'
      have hsublist := List.sublist_flatten_of_mem h
      rw [flatten_chunks] at hsublist
      exact hsublist.length_le

/-- The first chunk is as large as the limit of the call and the items allow. -/
theorem exists_mem_parts {c : Collection} {call : BulkCall}
    (hworkers : 1 ≤ c.client.config.maxWorkers) {wire : List Json} (hwire : call.wire = .ok wire)
    (hitems : wire ≠ []) :
    ∃ part ∈ call.parts c, part.length = min (max (call.limit c) 1) wire.length := by
  have hsize : 0 < max (call.limit c) 1 := by omega
  refine ⟨wire.take (max (call.limit c) 1), ?_, List.length_take⟩
  rw [parts_eq hworkers hwire, ← chunks_max_one, chunks_of_ne_nil hsize hitems]
  exact List.mem_cons_self

end BulkCall

/-- A request posts one list of items. -/
theorem PostsItems.unique {c : Collection} {path : String} {sent : Http.Request}
    {items items' : List Json} (h : c.PostsItems path sent items)
    (h' : c.PostsItems path sent items') : items = items' := by
  obtain ⟨-, -, body, hbody, hitems⟩ := h
  obtain ⟨-, -, body', hbody', hitems'⟩ := h'
  obtain rfl := Option.some.inj (hbody.symm.trans hbody')
  exact Json.array.inj (Option.some.inj (hitems.symm.trans hitems'))

namespace BulkCall.IsMadeBy

variable {c : Collection} {call : BulkCall} {ρ : Type} {d : Dialogue (Result ρ)}

/-- A call whose own limit is not above the ceiling keeps to the ceiling. -/
theorem within_ceiling (h : call.IsMadeBy c d) (hextra : call.extra.get? "items" = none)
    (hceiling : 1 ≤ call.ceiling c)
    (hlimit : ∀ limit, call.ownLimit? = some limit → limit ≤ call.ceiling c) {ω : Type}
    {w : World ω} {x : ω} {e : Outgoing × Http.Reply} (he : e ∈ exchanges (turns w d x)) :
    ∃ items, c.PostsItems (call.path c) e.1.request items ∧ 1 ≤ items.length ∧
      items.length ≤ call.ceiling c := by
  obtain ⟨part, hpart, hposts⟩ := h.exists_part hextra he
  obtain ⟨hpos, hle, -⟩ := length_of_mem_parts hpart
  refine ⟨part, hposts, hpos, ?_⟩
  rw [call.limit_eq c] at hle
  cases hown : call.ownLimit? with
  | none =>
    rw [hown, Option.getD_none] at hle
    omega
  | some limit =>
    have hbound := hlimit limit hown
    rw [hown, Option.getD_some] at hle
    omega

/-- The ceiling is exceeded exactly by calls whose own limit is above it, if
    they have more items than it. -/
theorem exceeds_iff (h : call.IsMadeBy c d) (hextra : call.extra.get? "items" = none)
    (hceiling : 1 ≤ call.ceiling c) (hworkers : 1 ≤ c.client.config.maxWorkers)
    (hreach : Client.IsReachable (c.client.config.projectUrl ++ call.path c)) {wire : List Json}
    (hwire : call.wire = .ok wire) {ω : Type} (w : World ω) (x : ω) :
    (∃ e ∈ exchanges (turns w d x), ∃ items, c.PostsItems (call.path c) e.1.request items ∧
        call.ceiling c < items.length) ↔
      (∃ limit, call.ownLimit? = some limit ∧ call.ceiling c < limit) ∧
        call.ceiling c < wire.length := by
  constructor
  · rintro ⟨e, he, items, hposts, hmore⟩
    obtain ⟨part, hpart, hposts'⟩ := h.exists_part hextra he
    obtain rfl := hposts.unique hposts'
    obtain ⟨-, -, hle⟩ := length_of_mem_parts hpart
    refine ⟨?_, lt_of_lt_of_le hmore (hle wire hwire)⟩
    -- a call with no limit of its own above the ceiling would keep to it
    by_contra hnone
    push Not at hnone
    obtain ⟨items', hposts'', -, hwithin⟩ := h.within_ceiling hextra hceiling hnone he
    rw [hposts''.unique hposts] at hwithin
    omega
  · rintro ⟨⟨limit, hown, hlimit⟩, hmany⟩
    have hitems : wire ≠ [] := List.ne_nil_of_length_pos (by omega)
    obtain ⟨part, hpart, hlength⟩ := exists_mem_parts hworkers hwire hitems
    obtain ⟨e, he, hposts⟩ := h.exists_exchange hextra hreach hpart w x
    refine ⟨e, he, part, hposts, ?_⟩
    rw [hlength, call.limit_eq c, hown, Option.getD_some]
    omega

end BulkCall.IsMadeBy

/-! ## Pages -/

/-- A request asks for a page of a listing with no more items than the limits
    of the collection allow. -/
def AsksWithin (c : Collection) (r : ListRequest) (sent : Http.Request) : Prop :=
  ∃ limit cursor, 1 ≤ limit ∧ limit ≤ c.limits.list ∧ c.AsksForPage r sent limit cursor

/-- The calls that read a listing. -/
inductive IsListing (c : Collection) (r : ListRequest) : {ρ : Type} → Dialogue ρ → Prop where
  | list {α : Type} (decode : Decoder α) (budget : Nat) : IsListing c r (c.list decode budget r)
  | listItems {α : Type} (decode : Decoder α) (budget : Nat) (count : Option Nat) :
    IsListing c r (c.listItems decode budget r count)
  | listChunks {α : Type} (decode : Decoder α) (budget size : Nat) (count : Option Nat) :
    IsListing c r (c.listChunks decode budget r size count)

variable {c : Collection} {r : ListRequest}

theorem sendsOnly_fetchPage (c : Collection) (r : ListRequest) (limit : Nat)
    (cursor : Option String) :
    (c.fetchPage r limit cursor).SendsOnly fun sent =>
      c.AsksForPage r sent.request limit cursor := by
  refine .of_total (c.total_fetchPage r limit cursor) fun turns page hruns e he => ?_
  obtain ⟨outcome, hhistory, -⟩ := history_of_runs_fetchPage hruns
  exact asksForPage_of_isSentFor (hhistory.isSentFor e he)

/-- A step of the page feed keeps to the limit, however far the listing was
    read. -/
theorem sendsOnly_step_pages (c : Collection) (r : ListRequest) (p : Paging) :
    ((c.pages r).step p).SendsOnly fun sent => c.AsksWithin r sent.request := by
  simp only [pages]
  split
  · exact sendsOnly_done _
  · next hopen =>
    have hpos : 1 ≤ r.pageLimit c.limits.list p.fetched := by
      simp only [Bool.or_eq_true, beq_iff_eq, not_or] at hopen
      omega
    have hle := r.pageLimit_le_listLimit c.limits.list p.fetched
    have hfetch := c.sendsOnly_fetchPage r (r.pageLimit c.limits.list p.fetched) p.cursor
    refine SendsOnly.bind (hfetch.mono fun sent hasks => ⟨_, _, hpos, hle, hasks⟩) fun page => ?_
    cases page <;> exact sendsOnly_done _

/-- Whatever chunk size and number of items the caller gives, the page
    requests of a listing keep to the limit. -/
theorem IsListing.sendsOnly {ρ : Type} {d : Dialogue ρ} (h : c.IsListing r d) :
    d.SendsOnly fun sent => c.AsksWithin r sent.request := by
  have hP := isSequential_sendsOnly fun sent => c.AsksWithin r sent.request
  cases h with
  | list decode budget =>
    exact Feed.sends_collect hP
      (Feed.sends_step_items hP (c.sendsOnly_step_pages r)) decode budget _
  | listItems decode budget count =>
    exact Feed.sends_take hP (Feed.sends_step_items hP (c.sendsOnly_step_pages r)) decode budget _ _
  | listChunks decode budget size count =>
    -- the size of the chunks is no part of what is asked for
    have hpages := c.sendsOnly_step_pages { r with chunkSize := some size }
    exact Feed.sends_take hP (Feed.sends_step_regrouped hP size hpages) decode.list budget _ _

/-- The requests of the partitions are those of their listings. -/
theorem sendsOnly_listPartitioned_of_list {α : Type} {Q : String → Outgoing → Prop}
    {budget partitions : Nat}
    (h : ∀ label ∈ partitionLabels partitions,
      (c.list .json budget { r with partitionLabel := some label }).SendsOnly (Q label))
    (decode : Decoder α) :
    (c.listPartitioned decode budget r partitions).SendsOnly fun sent =>
      ∃ label ∈ partitionLabels partitions, Q label sent := by
  unfold listPartitioned
  split
  · exact sendsOnly_done _
  · refine SendsOnly.bind ?_ fun outcome => ?_
    · refine Bulk.sendsOnly_execute _ fun label hlabel => ?_
      exact (h label hlabel).mono fun sent hsent => ⟨label, hlabel, hsent⟩
    · cases outcome <;> exact sendsOnly_done _

/-- So the page requests of the partitions keep to the limit. -/
theorem sendsOnly_listPartitioned {α : Type} (c : Collection) (decode : Decoder α) (budget : Nat)
    (r : ListRequest) (partitions : Nat) :
    (c.listPartitioned decode budget r partitions).SendsOnly fun sent =>
      ∃ label ∈ partitionLabels partitions,
        c.AsksWithin { r with partitionLabel := some label } sent.request := by
  refine sendsOnly_listPartitioned_of_list (fun label _ => ?_) decode
  exact IsListing.sendsOnly (.list .json budget)

/-! ## All requests -/

/-- **The sizes of requests.**  A call on many items, whose caller puts nothing
    in the place of the items, posts between one item and the ceiling of its
    operation with each request, in every world, if it has no limit of its own
    that is above the ceiling.  If all its inputs can be encoded and its
    requests can be sent, then a request goes over the ceiling exactly if the
    call has such a limit and more items than the ceiling.

    A page request of a listing asks for between one item and the ceiling for
    pages, whatever its caller gives, and so does one of a partition. -/
theorem request_sizes (c : Collection) :
    (∀ {call : BulkCall} {ρ : Type} {d : Dialogue (Result ρ)}, call.IsMadeBy c d →
      call.extra.get? "items" = none → 1 ≤ call.ceiling c →
      ((∀ limit, call.ownLimit? = some limit → limit ≤ call.ceiling c) →
        ∀ {ω : Type} (w : World ω) (x : ω), ∀ e ∈ exchanges (turns w d x),
          ∃ items, c.PostsItems (call.path c) e.1.request items ∧ 1 ≤ items.length ∧
            items.length ≤ call.ceiling c) ∧
      (1 ≤ c.client.config.maxWorkers →
        Client.IsReachable (c.client.config.projectUrl ++ call.path c) →
        ∀ wire, call.wire = .ok wire → ∀ {ω : Type} (w : World ω) (x : ω),
          (∃ e ∈ exchanges (turns w d x), ∃ items,
              c.PostsItems (call.path c) e.1.request items ∧ call.ceiling c < items.length) ↔
            (∃ limit, call.ownLimit? = some limit ∧ call.ceiling c < limit) ∧
              call.ceiling c < wire.length)) ∧
    (∀ {r : ListRequest} {ρ : Type} {d : Dialogue ρ}, c.IsListing r d →
      ∀ {ω : Type} (w : World ω) (x : ω), ∀ e ∈ exchanges (turns w d x),
        c.AsksWithin r e.1.request) ∧
    ∀ {α : Type} (decode : Decoder α) (budget : Nat) (r : ListRequest) (partitions : Nat)
      {ω : Type} (w : World ω) (x : ω),
      ∀ e ∈ exchanges (turns w (c.listPartitioned decode budget r partitions) x),
        ∃ label ∈ partitionLabels partitions,
          c.AsksWithin { r with partitionLabel := some label } e.1.request := by
  refine ⟨fun hcall hextra hceiling => ⟨?_, ?_⟩, ?_, ?_⟩
  · intro hlimit ω w x e he
    exact hcall.within_ceiling hextra hceiling hlimit he
  · intro hworkers hreach wire hwire ω w x
    exact hcall.exceeds_iff hextra hceiling hworkers hreach hwire w x
  · intro r ρ d hlisting ω w x
    exact hlisting.sendsOnly w x
  · intro α decode budget r partitions ω w x
    exact c.sendsOnly_listPartitioned decode budget r partitions w x

/-- Two items are created where a request may carry one.  With a limit of two
    they are sent in one request, and without a limit in two. -/
theorem create_two_above_ceiling :
    let items : List WriteItem := [.raw (named "a"), .raw (named "b")]
    let path := assetsOneByOne.path
    assetsOneByOne.limits.create = 1 ∧
      ∀ {ω : Type} (w : World ω) (x : ω),
        (∃ e ∈ exchanges (turns w (assetsOneByOne.createMultiple .json items (some 2) .empty) x),
          ∃ posted, assetsOneByOne.PostsItems path e.1.request posted ∧ 1 < posted.length) ∧
        ∀ e ∈ exchanges (turns w (assetsOneByOne.createMultiple .json items none .empty) x),
          ∃ posted, assetsOneByOne.PostsItems path e.1.request posted ∧ 1 ≤ posted.length ∧
            posted.length ≤ 1 := by
  intro items path
  have hreach : Client.IsReachable (assetsOneByOne.client.config.projectUrl ++ path) := by
    decide +kernel
  obtain ⟨hsizes, -⟩ := request_sizes assetsOneByOne
  refine ⟨rfl, fun {ω} w x => ⟨?_, ?_⟩⟩
  · have hcall := hsizes (.createMultiple .json items (some 2) .empty) rfl le_rfl
    have hiff := hcall.2 (by decide) hreach [.ofFields (named "a"), .ofFields (named "b")] rfl w x
    exact hiff.2 ⟨⟨2, rfl, Nat.one_lt_two⟩, Nat.one_lt_two⟩
  · have hcall := hsizes (.createMultiple .json items none .empty) rfl le_rfl
    exact hcall.1 (fun limit hlimit => by cases hlimit) w x

end Collection

end ResourceClient
