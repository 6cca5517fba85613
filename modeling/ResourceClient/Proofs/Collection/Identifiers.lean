import Mathlib
import ResourceClient.Proofs.Collection.Calls
import ResourceClient.Proofs.Collection.NotFound

/-! # Identifiers survive the wire

    A sequence of identifiers is sent as a list of values, in chunks.  What a
    server reads from the requests are the identifiers that the caller gave,
    in their order and of their kind (`identifiers_survive_wire`): each value
    reads back to its identifier, and the chunks put together are the list.

    The bare form is the exception.  A text has none, so that one text among
    the identifiers keeps all of them from being sent
    (`IdentifierSequence.wire_bare_cases`). -/

namespace ResourceClient

open Dialogue

/-- The text of a wrapped form is read as the form. -/
theorem Identifier.parse_render_wrapped (i : Identifier) :
    Json.parse i.wrapped.render = .ok i.wrapped := by
  apply Json.parse_render
  cases i with
  | id n =>
    have hlt := n.toInt_lt
    exact ⟨List.pairwise_singleton _ _, ⟨n.le_toInt, by omega⟩, trivial⟩
  | externalId s => exact ⟨List.pairwise_singleton _ _, trivial, trivial⟩

/-! ## Making a sequence -/

namespace IdentifierSequence

variable {ids : List Int64} {externalIds : List String} {s : IdentifierSequence}

/-- Only of nothing at all there is no sequence. -/
theorem new_eq_error_iff :
    (∃ e, new ids externalIds = .error e) ↔ ids = [] ∧ externalIds = [] := by
  simp only [new]
  split
  · next hnone => simpa using hnone
  · next hsome => simpa using hsome

/-- Numbers stand before texts. -/
theorem identifiers_of_new (h : new ids externalIds = .ok s) :
    s.identifiers = ids.map .id ++ externalIds.map .externalId := by
  simp only [new] at h
  split at h
  · cases h
  · exact (Except.ok.inj h) ▸ rfl

/-! ## Their wire forms -/

/-- The wrapped forms read back, one by one. -/
theorem map_ofWire?_wrapped (s : IdentifierSequence) :
    (s.identifiers.map Identifier.wrapped).map Identifier.ofWire? = s.identifiers.map some := by
  rw [List.map_map]
  exact List.map_congr_left fun i _ => i.ofWire?_wrapped

theorem mapM_bare_ids (ids : List Int64) :
    (ids.map Identifier.id).mapM Identifier.bare = .ok (ids.map Json.ofInt64) := by
  induction ids with
  | nil => rfl
  | cons n ids ih =>
    rw [List.map_cons, List.mapM_cons, ih]
    rfl

/-- Without texts the bare forms are the numbers, and a single text leaves
    none. -/
theorem wire_bare_cases (h : s.identifiers = ids.map .id ++ externalIds.map .externalId) :
    (externalIds = [] ∧ s.wire false = .ok (ids.map Json.ofInt64)) ∨
      externalIds ≠ [] ∧ s.wire false = .error Identifier.mustBeWrapped := by
  cases externalIds with
  | nil =>
    left
    rw [List.map_nil, List.append_nil] at h
    refine ⟨rfl, ?_⟩
    show s.identifiers.mapM Identifier.bare = _
    rw [h, mapM_bare_ids]
  | cons text rest =>
    right
    have hmem : Identifier.externalId text ∈ s.identifiers := by simp [h]
    have hbare : ∃ e, (Identifier.externalId text).bare = .error e := ⟨_, rfl⟩
    obtain ⟨e, he⟩ := exists_mapM_eq_error_iff.2 ⟨_, hmem, hbare⟩
    have hwire : s.wire false = .error e := he
    exact ⟨List.cons_ne_nil _ _, error_of_wire_eq_error hwire ▸ hwire⟩

end IdentifierSequence

namespace Collection

/-! ## Requests that carry them -/

/-- What is sent are the requests for the chunks of a list.  Each of them
    posts its chunk whenever it is sent, at least once if the URL of the
    requests can be used, and the chunks in order make up the list. -/
def CarriesInOrder (c : Collection) (call : BulkCall) (sent : List (Outgoing × Http.Reply))
    (items : List Json) : Prop :=
  ∃ deliveries, call.Delivers c (chunks (call.limit c) items) sent deliveries ∧
    deliveries.flatMap (·.items) = items ∧
    ∀ d ∈ deliveries, (∀ e ∈ d.sent, c.PostsItems (call.path c) e.1.request d.items) ∧
      (Client.IsReachable (c.client.config.projectUrl ++ call.path c) → d.sent ≠ [])

/-- Every form of a call sends its wire forms so. -/
theorem BulkCall.IsMadeBy.carriesInOrder {c : Collection} {call : BulkCall} {ρ : Type}
    {d : Dialogue (Result ρ)} (h : call.IsMadeBy c d) (hextra : call.extra.get? "items" = none)
    (hworkers : 1 ≤ c.client.config.maxWorkers) {wire : List Json} (hwire : call.wire = .ok wire)
    {ω : Type} (w : World ω) (x : ω) : c.CarriesInOrder call (exchanges (turns w d x)) wire := by
  obtain ⟨deliveries, hdelivers⟩ := h.exists_delivers w x
  rw [BulkCall.parts_eq hworkers hwire] at hdelivers
  refine ⟨deliveries, hdelivers, hdelivers.flatMap_items, fun delivery hmem => ?_⟩
  have hdelivery := hdelivers.isDelivery delivery hmem
  exact ⟨hdelivery.postsItems hextra, hdelivery.sent_ne_nil⟩

/-- The calls that name the resources of a sequence. -/
inductive BulkCall.Names (s : IdentifierSequence) (wrap : Bool) : BulkCall → Prop where
  | retrieve (ignoreUnknown : Bool) : Names s wrap (.retrieve s wrap ignoreUnknown)
  | delete (extra : Fields) : Names s wrap (.delete s wrap extra)

theorem BulkCall.Names.wire_eq {s : IdentifierSequence} {wrap : Bool} {call : BulkCall}
    (h : call.Names s wrap) : call.wire = s.wire wrap := by
  cases h <;> rfl

/-- **Identifiers survive the wire.**  There is a sequence of numbers and
    texts unless there are none of both.  In every world, whatever the limits
    are, the requests that retrieve or delete the resources of a sequence
    carry values that read back, in the order of the chunks, to the numbers
    and then the texts, and the texts of these values are read as the values.
    The bare forms are the numbers themselves; there are
    some only if there are no texts, and otherwise the calls fail before
    their first request. -/
theorem identifiers_survive_wire (ids : List Int64) (externalIds : List String) :
    ((∃ e, IdentifierSequence.new ids externalIds = .error e) ↔ ids = [] ∧ externalIds = []) ∧
    ∀ s, IdentifierSequence.new ids externalIds = .ok s →
      (∀ {c : Collection} {call : BulkCall} {ρ : Type} {d : Dialogue (Result ρ)},
        call.Names s true → call.IsMadeBy c d → call.extra.get? "items" = none →
        1 ≤ c.client.config.maxWorkers → ∀ {ω : Type} (w : World ω) (x : ω),
          ∃ items, c.CarriesInOrder call (exchanges (turns w d x)) items ∧
            (∀ v ∈ items, Json.parse v.render = .ok v) ∧
            items.map Identifier.ofWire? =
              (ids.map Identifier.id ++ externalIds.map Identifier.externalId).map some) ∧
      ((∃ wire, s.wire false = .ok wire) ↔ externalIds = []) ∧
      (∀ wire, s.wire false = .ok wire → wire = ids.map fun n => Json.int n.toInt) ∧
      ∀ {c : Collection} {call : BulkCall} {ρ : Type} {d : Dialogue (Result ρ)},
        call.Names s false → call.IsMadeBy c d →
        (externalIds ≠ [] → d = .done (.error Identifier.mustBeWrapped)) ∧
        (externalIds = [] → call.extra.get? "items" = none → 1 ≤ c.client.config.maxWorkers →
          ∀ {ω : Type} (w : World ω) (x : ω), c.CarriesInOrder call (exchanges (turns w d x))
            (ids.map fun n => Json.int n.toInt)) := by
  refine ⟨IdentifierSequence.new_eq_error_iff, fun s hnew => ?_⟩
  have hidentifiers := IdentifierSequence.identifiers_of_new hnew
  have hbare := IdentifierSequence.wire_bare_cases hidentifiers
  refine ⟨?_, ?_, ?_, ?_⟩
  · intro c call ρ d hnames hcall hextra hworkers ω w x
    refine ⟨_, hcall.carriesInOrder hextra hworkers hnames.wire_eq w x, ?_, ?_⟩
    · intro v hv
      obtain ⟨i, -, rfl⟩ := List.mem_map.1 hv
      exact i.parse_render_wrapped
    · rw [IdentifierSequence.map_ofWire?_wrapped, hidentifiers]
  · rcases hbare with ⟨hnone, hwire⟩ | ⟨hsome, hwire⟩
    · simp [hnone, hwire]
    · simp [hsome, hwire]
  · intro wire hok
    rcases hbare with ⟨-, hwire⟩ | ⟨-, hwire⟩
    · exact Except.ok.inj (hok.symm.trans hwire)
    · cases hok.symm.trans hwire
  · intro c call ρ d hnames hcall
    rcases hbare with ⟨hnone, hwire⟩ | ⟨hsome, hwire⟩
    · refine ⟨fun hsome => absurd hnone hsome, fun _ hextra hworkers ω w x => ?_⟩
      exact hcall.carriesInOrder hextra hworkers (hnames.wire_eq.trans hwire) w x
    · refine ⟨fun _ => hcall.eq_of_wire_eq_error (hnames.wire_eq.trans hwire), fun hnone => ?_⟩
      exact absurd hnone hsome

/-- A number and the text of its digits, asked for one by one: they arrive as
    what they were, and cannot be sent bare. -/
theorem retrieve_number_and_text :
    ∃ s, IdentifierSequence.new [7] ["7"] = .ok s ∧
      s.wire false = .error Identifier.mustBeWrapped ∧
      Client.IsReachable (assetsOneByOne.client.config.projectUrl ++
        (BulkCall.retrieve s true false).path assetsOneByOne) ∧
      ∃ first second, assetsOneByOne.CarriesInOrder (.retrieve s true false)
          (exchanges (turns hasNothing (assetsOneByOne.retrieveMultiple .json s) ()))
          [first, second] ∧
        chunks assetsOneByOne.limits.retrieve [first, second] = [[first], [second]] ∧
        Identifier.ofWire? first = some (.id 7) ∧
        Identifier.ofWire? second = some (.externalId "7") := by
  have hreach : Client.IsReachable
      (assetsOneByOne.client.config.projectUrl ++ assetsOneByOne.endpoint "/byids") := by
    decide +kernel
  obtain ⟨-, hsurvive⟩ := identifiers_survive_wire [7] ["7"]
  obtain ⟨hwrapped, -⟩ := hsurvive _ rfl
  obtain ⟨items, hcarries, -, hread⟩ := hwrapped (c := assetsOneByOne) (.retrieve false)
    (.retrieveMultiple .json _ true false) rfl (by decide) hasNothing ()
  obtain ⟨first, rest, rfl, hfirst, hrest⟩ := List.map_eq_cons_iff.1 hread
  obtain ⟨second, nothing, rfl, hsecond, hnothing⟩ := List.map_eq_cons_iff.1 hrest
  obtain rfl := List.map_eq_nil_iff.1 hnothing
  exact ⟨_, rfl, rfl, hreach, first, second, hcarries,
    by simp [assetsOneByOne, RequestLimits.uniform, chunks, chunksOfSucc_cons], hfirst, hsecond⟩

end Collection

end ResourceClient
