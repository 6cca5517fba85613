import Mathlib
import ResourceClient.Collection.Listing
import ResourceClient.Proofs.Listing.Receipt
import ResourceClient.Proofs.Listing.Refinement

/-! # Pages that are regrouped into chunks

    Chunks of one size are made from pages of any lengths: what is left over
    from a page waits for the next one.  `IsRegrouping` says which chunks the
    pages come to, without the loop that makes them.  If the pages end, the
    chunks hold all of their values, and only the last one may be smaller.
    If the pages fail, there are the chunks that could be filled before, and
    what waited for the next one is lost.

    There is one such way to regroup (`IsRegrouping.eq_chunksUntil`), and it
    is what the feed of chunks hands out (`listChunks_regroups`). -/

namespace ResourceClient

open Dialogue

/-! ## What chunks are to be -/

/-- The chunks that values from pages are regrouped into, where the pages end
    or fail. -/
def IsRegrouping {α : Type} (size : Nat) (values : List α) :
    (fault : Option Error) → (groups : List (List α)) → Prop
  | none, groups =>
    groups.flatten = values ∧ ∀ i group, groups[i]? = some group →
      1 ≤ group.length ∧ group.length ≤ size ∧ (i + 1 < groups.length → group.length = size)
  | some _, groups =>
    groups.length = values.length / size ∧ (∀ group ∈ groups, group.length = size) ∧
      groups.flatten = values.take (size * (values.length / size))

section regrouping

variable {α : Type} {size : Nat} {values : List α} {fault : Option Error}
  {groups : List (List α)}

theorem isRegrouping_chunksUntil (hsize : 0 < size) (values : List α) (fault : Option Error) :
    IsRegrouping size values fault (Feed.chunksUntil size values fault) := by
  cases fault with
  | none =>
    exact ⟨flatten_chunks size values, fun i group hgroup => length_getElem?_chunks hsize hgroup⟩
  | some e =>
    have hlength : (values.take (size * (values.length / size))).length =
        size * (values.length / size) := by
      rw [List.length_take, min_eq_left (Nat.mul_div_le _ _)]
    have hdvd : size ∣ (values.take (size * (values.length / size))).length := by
      rw [hlength]
      exact dvd_mul_right _ _
    refine ⟨?_, length_of_mem_chunks_of_dvd hsize hdvd, flatten_chunks size _⟩
    have hround : size * (values.length / size) + size - 1 =
        size * (values.length / size) + (size - 1) := Nat.add_sub_assoc hsize _
    have hrest : (size - 1) / size = 0 := Nat.div_eq_of_lt (by omega)
    rw [Feed.chunksUntil, length_chunks hsize, hlength, hround, Nat.mul_add_div hsize, hrest,
      Nat.add_zero]

/-- The description leaves no choice. -/
theorem IsRegrouping.eq_chunksUntil (hsize : 0 < size)
    (h : IsRegrouping size values fault groups) :
    groups = Feed.chunksUntil size values fault := by
  cases fault with
  | none => exact eq_chunks h.1 h.2
  | some e =>
    obtain ⟨-, hfull, hflatten⟩ := h
    refine eq_chunks hflatten fun i group hgroup => ?_
    have hlength := hfull group (List.mem_of_getElem? hgroup)
    exact ⟨hlength ▸ hsize, hlength.le, fun _ => hlength⟩

end regrouping

/-! ## The feed of chunks -/

/-- The chunks that are handed out, and behind them the error if there is
    one. -/
def chunkResults (groups : List (List Json)) (fault : Option Error) :
    List (Result (List Json)) := groups.map .ok ++ fault.toList.map .error

namespace Feed

variable {ω σ : Type} {w : World ω}

/-- With enough budget, the chunks drawn from a feed of pages are those that
    its values are regrouped into, and the error of the pages comes after
    them. -/
theorem Yields.take_regrouped {size : Nat} (hsize : 0 < size) {pages : Feed σ (List Json)}
    {s : σ} {x : ω} {values : List (List Json)} {fault : Option Error}
    (h : pages.Yields w s x values fault) :
    ∃ groups, IsRegrouping size values.flatten fault groups ∧
      ∃ enough, ∀ budget ≥ enough, ∀ count, ∃ x',
        ((pages.regrouped size).take Decoder.json.list budget count { source := some s }).run w x =
          some ((chunkResults groups fault).take count, x') := by
  have hread : (Decoder.json.list : List Json → Result (List Json)) = .ok :=
    funext Decoder.list_json
  refine ⟨_, isRegrouping_chunksUntil hsize values.flatten fault, ?_⟩
  have hchunks := h.regrouped hsize []
  rw [List.nil_append] at hchunks
  rw [hread]
  exact hchunks.take .ok

/-- Chunks of no size are an error, and nothing is asked. -/
theorem take_regrouped_zero {α β : Type} (w : World ω) (pages : Feed σ (List α))
    (read : List α → Result β) (budget count : Nat) (t : Regrouping σ α) (x : ω) :
    ((pages.regrouped 0).take read (budget + 1) count t).run w x =
        some (([.error noChunkSize] : List (Result β)).take count, x) ∧
      turns w ((pages.regrouped 0).take read (budget + 1) count t) x = [] := by
  cases count with
  | zero => exact ⟨rfl, rfl⟩
  | succ count => exact ⟨by rw [List.take_succ_cons, List.take_nil]; rfl, rfl⟩

end Feed

namespace Collection

variable {ω : Type}

/-- **Pages are regrouped into chunks.**  Whatever the lengths of the pages
    are, the values of a feed that ends or fails come in the chunks that they
    are regrouped into, and then the error if there is one, and nothing more.
    This is so for every feed of pages, and for a listing in chunks.  With
    chunks of no size, a listing is an error, and nothing is sent. -/
theorem listChunks_regroups (w : World ω) (x : ω) (size : Nat) :
    (1 ≤ size →
      (∀ {σ : Type} (feed : Feed σ (List Json)) (s : σ) (pages : List (List Json))
        (fault : Option Error), feed.Yields w s x pages fault →
          ∃ groups, IsRegrouping size pages.flatten fault groups ∧
            ∃ enough, ∀ budget ≥ enough, ∀ count, ∃ x',
              ((feed.regrouped size).take Decoder.json.list budget count
                { source := some s }).run w x =
                  some ((chunkResults groups fault).take count, x')) ∧
      ∀ (c : Collection) (r : ListRequest) (pages : List (List Json)) (fault : Option Error),
        (c.pages { r with chunkSize := some size }).Yields w {} x pages fault →
          ∃ groups, IsRegrouping size pages.flatten fault groups ∧
            ∃ enough, ∀ budget ≥ enough,
              (∃ x', (c.listChunks .json budget r size).run w x =
                some (chunkResults groups fault, x')) ∧
              ∀ count, ∃ x', (c.listChunks .json budget r size (some count)).run w x =
                some ((chunkResults groups fault).take count, x')) ∧
    (size = 0 → ∀ (c : Collection) (r : ListRequest) (budget : Nat),
      (c.listChunks .json (budget + 1) r size).run w x = some ([.error Feed.noChunkSize], x) ∧
        ∀ count, exchanges (turns w (c.listChunks .json (budget + 1) r size count) x) = []) := by
  refine ⟨fun hsize => ⟨fun feed s pages fault hpages => hpages.take_regrouped hsize, ?_⟩, ?_⟩
  · intro c r pages fault hpages
    obtain ⟨groups, hgroups, enough, hdrawn⟩ := hpages.take_regrouped hsize
    -- the budget also bounds how many chunks are drawn if all are wanted
    refine ⟨groups, hgroups, max enough (chunkResults groups fault).length, ?_⟩
    intro budget hbudget
    refine ⟨?_, fun count => hdrawn budget (by omega) count⟩
    obtain ⟨x', hrun⟩ := hdrawn budget (by omega) (budget + 1)
    rw [List.take_of_length_le (by omega)] at hrun
    exact ⟨x', hrun⟩
  · rintro rfl c r budget
    refine ⟨(Feed.take_regrouped_zero w _ _ budget _ _ x).1, fun count => ?_⟩
    unfold listChunks
    rw [(Feed.take_regrouped_zero w _ _ budget _ _ x).2]
    rfl

/-- Three pages of three items come in a chunk of five and one of four. -/
theorem listChunks_three_pages :
    ∃ enough, ∀ budget ≥ enough, ∃ x',
      ((assetsWithin {}).listChunks .json budget (.new .post none none none) 5).run inTurn
        [pageReply ⟨[.string "1", .string "2", .string "3"], some "b"⟩,
          pageReply ⟨[.string "4", .string "5", .string "6"], some "c"⟩,
          pageReply ⟨[.string "7", .string "8", .string "9"], none⟩] =
        some ([.ok [.string "1", .string "2", .string "3", .string "4", .string "5"],
          .ok [.string "6", .string "7", .string "8", .string "9"]], x') := by
  have hplain (s₁ s₂ s₃ : String) :
      ∀ v ∈ [Json.string s₁, .string s₂, .string s₃], Json.Plain 125 v := by
    simp [Json.Plain]
  let r : ListRequest := { ListRequest.new .post none none none with chunkSize := some 5 }
  obtain ⟨sent₁, hfirst⟩ := exists_isVisitIn_pageReply {} r (p := {}) rfl (by decide)
    ⟨[.string "1", .string "2", .string "3"], some "b"⟩ (hplain "1" "2" "3")
    [pageReply ⟨[.string "4", .string "5", .string "6"], some "c"⟩,
      pageReply ⟨[.string "7", .string "8", .string "9"], none⟩]
  obtain ⟨sent₂, hsecond⟩ := exists_isVisitIn_pageReply {} r
    (p := { cursor := some "b", fetched := 3 }) rfl (by decide)
    ⟨[.string "4", .string "5", .string "6"], some "c"⟩ (hplain "4" "5" "6")
    [pageReply ⟨[.string "7", .string "8", .string "9"], none⟩]
  obtain ⟨sent₃, hthird⟩ := exists_isVisitIn_pageReply {} r
    (p := { cursor := some "c", fetched := 6 }) rfl (by decide)
    ⟨[.string "7", .string "8", .string "9"], none⟩ (hplain "7" "8" "9") []
  have hreceives := Receives.page hfirst rfl <| .page hsecond rfl <| .page hthird rfl <| .stop _ _
  have hpages := hreceives.yields (.finished (run_step_pages_of_end inTurn (Or.inl rfl) []))
  obtain ⟨hregroups, -⟩ := listChunks_regroups inTurn _ 5
  obtain ⟨groups, hgroups, enough, hdrawn⟩ := (hregroups (by decide)).2 _ _ _ _ hpages
  refine ⟨enough, fun budget hbudget => ?_⟩
  obtain ⟨⟨x', hrun⟩, -⟩ := hdrawn budget hbudget
  refine ⟨x', hrun.trans ?_⟩
  rw [hgroups.eq_chunksUntil (by decide)]
  simp [chunkResults, Feed.chunksUntil, chunks, chunksOfSucc_cons, PageVisit.kept, r,
    ListRequest.pageLimit, ListRequest.new]

end Collection

end ResourceClient
