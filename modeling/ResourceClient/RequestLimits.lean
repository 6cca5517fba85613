/-! # Limits on the size of requests

    An operation on many items is split so that no request carries more of
    them than its limit. -/

namespace ResourceClient

/-- How many items a request may carry, by operation. -/
structure RequestLimits where
  /-- Items of a request that creates. -/
  create : Nat := 1000
  /-- Items that a page request asks for. -/
  list : Nat := 1000
  /-- Identifiers of a request that retrieves. -/
  retrieve : Nat := 1000
  /-- Items of a request that updates. -/
  update : Nat := 1000
  /-- Identifiers of a request that deletes. -/
  delete : Nat := 1000
  deriving DecidableEq, Repr

/-- The same limit for every operation. -/
def RequestLimits.uniform (limit : Nat) : RequestLimits := ⟨limit, limit, limit, limit, limit⟩

/-- Consecutive chunks of `size + 1` elements, the last one possibly shorter. -/
def chunksOfSucc {α : Type} (size : Nat) (items : List α) : List (List α) :=
  match items with
  | [] => []
  | a :: rest => (a :: rest.take size) :: chunksOfSucc size (rest.drop size)
termination_by items.length
decreasing_by simp only [List.length_drop, List.length_cons]; omega

/-- Consecutive chunks of at most `size` elements; a size of zero counts as one. -/
def chunks {α : Type} (size : Nat) (items : List α) : List (List α) :=
  chunksOfSucc (size - 1) items

@[simp] theorem chunksOfSucc_nil {α : Type} (size : Nat) :
    chunksOfSucc size ([] : List α) = [] := by rw [chunksOfSucc]

theorem chunksOfSucc_cons {α : Type} (size : Nat) (a : α) (rest : List α) :
    chunksOfSucc size (a :: rest)
      = (a :: rest.take size) :: chunksOfSucc size (rest.drop size) := by rw [chunksOfSucc]

theorem flatten_chunksOfSucc {α : Type} (size : Nat) (items : List α) :
    (chunksOfSucc size items).flatten = items := by
  fun_induction chunksOfSucc size items with
  | case1 => rfl
  | case2 a rest ih => simp [ih]

/-- Splitting loses nothing and keeps the order. -/
@[simp] theorem flatten_chunks {α : Type} (size : Nat) (items : List α) :
    (chunks size items).flatten = items := flatten_chunksOfSucc _ _

theorem length_le_of_mem_chunks {α : Type} {size : Nat} {items chunk : List α}
    (h : chunk ∈ chunks size items) : chunk.length ≤ max size 1 := by
  unfold chunks at h
  generalize hs : size - 1 = n at h
  have bound : chunk.length ≤ n + 1 := by
    fun_induction chunksOfSucc n items with
    | case1 => simp at h
    | case2 a rest ih =>
      rcases List.mem_cons.1 h with rfl | h
      · rw [List.length_cons, List.length_take]
        omega
      · exact ih h
  omega

theorem ne_nil_of_mem_chunks {α : Type} {size : Nat} {items chunk : List α}
    (h : chunk ∈ chunks size items) : chunk ≠ [] := by
  unfold chunks at h
  fun_induction chunksOfSucc (size - 1) items with
  | case1 => simp at h
  | case2 a rest ih =>
    rcases List.mem_cons.1 h with rfl | h
    · simp
    · exact ih h

end ResourceClient
