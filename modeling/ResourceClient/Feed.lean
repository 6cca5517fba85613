import ResourceClient.Dialogue.Basic
import ResourceClient.Error

/-! # Feeds

    A feed hands out values one after the other and fetches on the way what
    it needs for them.  It is given by its steps: from a state, a step hands
    out a value, or goes on in silence, or fails, or finds the feed at its
    end.  A feed that failed is at its end.  Since a step is a dialogue,
    nothing is fetched before a value is asked for.

    `Feed.items` takes a feed of pages apart, and `Feed.regrouped` makes
    chunks of equal size from the pages.  `Feed.take` and `Feed.collect`
    draw values; they read every value on the way, so that a value that
    cannot be read is an error in its place.  Both have a budget of steps,
    because a server may hand out empty pages for ever. -/

namespace ResourceClient

/-- What a step of a feed comes to. -/
inductive FeedStep (σ α : Type) where
  /-- A value, and where the feed goes on. -/
  | value (a : α) (rest : σ)
  /-- No value yet. -/
  | silent (rest : σ)
  /-- The error that ends the feed. -/
  | failure (e : Error)
  /-- The end of the feed. -/
  | finished

/-- A feed of values, by its states. -/
structure Feed (σ α : Type) where
  /-- The step that is made from a state. -/
  step : σ → Dialogue (FeedStep σ α)

namespace Feed

variable {σ α β : Type}

/-! ## Drawing values -/

/-- The first `count` values, each read, and an error in the place of the end if
    the feed fails.  Nothing is fetched for later values. -/
def take (feed : Feed σ α) (read : α → Result β) :
    (budget count : Nat) → σ → Dialogue (List (Result β))
  | _, 0, _ => .done []
  | 0, _ + 1, _ => .abandoned
  | budget + 1, count + 1, s => do
    match ← feed.step s with
    | .value a rest => return read a :: (← take feed read budget count rest)
    | .silent rest => take feed read budget (count + 1) rest
    | .failure e => return [.error e]
    | .finished => return []

/-- All values, each read, or the first error.  Nothing is fetched after an error. -/
def collect (feed : Feed σ α) (read : α → Result β) :
    (budget : Nat) → σ → Dialogue (Result (List β))
  | 0, _ => .abandoned
  | budget + 1, s => do
    match ← feed.step s with
    | .value a rest =>
      match read a with
      | .ok b => return (← collect feed read budget rest).map (b :: ·)
      | .error e => return .error e
    | .silent rest => collect feed read budget rest
    | .failure e => return .error e
    | .finished => return .ok []

@[simp] theorem take_zero (feed : Feed σ α) (read : α → Result β) (budget : Nat) (s : σ) :
    feed.take read budget 0 s = .done [] := by
  cases budget <;> rfl

/-! ## Taking pages apart -/

/-- A page of a feed and what is left of an earlier one. -/
structure Remainder (σ α : Type) where
  /-- Where the pages go on. -/
  source : σ
  /-- The values of earlier pages that are still to be handed out. -/
  held : List α := []

/-- The values of the pages, one at a time.  A page is fetched when the one before it is used up. -/
def items (pages : Feed σ (List α)) : Feed (Remainder σ α) α where
  step r :=
    match r.held with
    | a :: held => .done (.value a { r with held })
    | [] => do
      match ← pages.step r.source with
      | .value page source => return .silent { source, held := page }
      | .silent source => return .silent { r with source }
      | .failure e => return .failure e
      | .finished => return .finished

/-! ## Making chunks -/

/-- Pages that are made into chunks. -/
structure Regrouping (σ α : Type) where
  /-- Where the pages go on, absent when they are at their end. -/
  source : Option σ
  /-- The values that are still to be handed out. -/
  held : List α := []

/-- A chunk cannot be empty. -/
def noChunkSize : Error :=
  .validation "chunk_size must be at least 1" (some "chunk_size") (some "0")

/-- The values of the pages in chunks of `size`, only the last of which may be
    smaller.  When a page fails, the values held back for the next chunk are
    lost. -/
def regrouped (size : Nat) (pages : Feed σ (List α)) : Feed (Regrouping σ α) (List α) where
  step r :=
    if size = 0 then .done (.failure noChunkSize)
    else if size ≤ r.held.length then
      .done (.value (r.held.take size) { r with held := r.held.drop size })
    else
      match r.source with
      | none =>
        .done (if r.held.isEmpty then .finished else .value r.held { r with held := [] })
      | some s => do
        match ← pages.step s with
        | .value page rest => return .silent { source := some rest, held := r.held ++ page }
        | .silent rest => return .silent { r with source := some rest }
        | .failure e => return .failure e
        | .finished => return .silent { r with source := none }

end Feed

end ResourceClient
