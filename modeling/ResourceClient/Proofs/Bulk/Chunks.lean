import Mathlib
import ResourceClient.RequestLimits

/-! # How a list is split into chunks

    Splitting takes full chunks from the front until the list is used up.
    So there are as many chunks as the size fits into the length, rounded
    up, and every chunk but the last is full. -/

namespace ResourceClient

variable {α : Type}

theorem chunks_nil (size : Nat) : chunks size ([] : List α) = [] := chunksOfSucc_nil _

theorem chunks_singleton (size : Nat) (a : α) : chunks size [a] = [[a]] := by
  simp [chunks, chunksOfSucc_cons]

theorem chunks_of_ne_nil {size : Nat} (hsize : 0 < size) {values : List α}
    (hvalues : values ≠ []) :
    chunks size values = values.take size :: chunks size (values.drop size) := by
  obtain ⟨a, rest, rfl⟩ := List.exists_cons_of_ne_nil hvalues
  obtain ⟨less, rfl⟩ := Nat.exists_eq_add_of_le' hsize
  simp [chunks, chunksOfSucc_cons]

/-- A size of zero counts as one. -/
theorem chunks_max_one (size : Nat) (values : List α) :
    chunks (max size 1) values = chunks size values := by
  have hsize : max size 1 - 1 = size - 1 := by omega
  rw [chunks, chunks, hsize]

/-- Induction along the splitting: what holds of a list when it holds of what
    is left after the first chunk holds of every list. -/
theorem chunks_induction {size : Nat} (hsize : 0 < size) {p : List α → Prop} (hnil : p [])
    (hcons : ∀ values : List α, values ≠ [] → p (values.drop size) → p values)
    (values : List α) : p values := by
  induction hlength : values.length using Nat.strong_induction_on generalizing values with
  | _ n ih =>
    by_cases hvalues : values = []
    · rw [hvalues]
      exact hnil
    · have hpos : 0 < values.length := List.length_pos_iff.2 hvalues
      refine hcons values hvalues (ih (values.drop size).length ?_ _ rfl)
      rw [List.length_drop]
      omega

/-- The number of chunks is the rounded-up quotient. -/
theorem length_chunks {size : Nat} (hsize : 0 < size) (values : List α) :
    (chunks size values).length = (values.length + size - 1) / size := by
  induction values using chunks_induction hsize with
  | hnil =>
    rw [chunks_nil, List.length_nil, List.length_nil, Nat.div_eq_of_lt]
    omega
  | hcons values hvalues ih =>
    have hpos : 0 < values.length := List.length_pos_iff.2 hvalues
    rw [chunks_of_ne_nil hsize hvalues, List.length_cons, ih, List.length_drop]
    by_cases hfits : values.length ≤ size
    · have hlast : values.length + size - 1 = values.length - 1 + size := by omega
      rw [hlast, Nat.add_div_right _ hsize, Nat.div_eq_of_lt (by omega),
        Nat.div_eq_of_lt (by omega)]
    · have hmore : values.length + size - 1 = values.length - size + size - 1 + size := by omega
      rw [hmore, Nat.add_div_right _ hsize]

/-- Every chunk but the last is full. -/
theorem length_getElem?_chunks {size : Nat} (hsize : 0 < size) {values chunk : List α} {i : Nat}
    (hchunk : (chunks size values)[i]? = some chunk) :
    1 ≤ chunk.length ∧ chunk.length ≤ size ∧
      (i + 1 < (chunks size values).length → chunk.length = size) := by
  induction values using chunks_induction hsize generalizing i with
  | hnil => simp [chunks_nil] at hchunk
  | hcons values hvalues ih =>
    have hpos : 0 < values.length := List.length_pos_iff.2 hvalues
    rw [chunks_of_ne_nil hsize hvalues] at hchunk ⊢
    cases i with
    | zero =>
      obtain rfl : values.take size = chunk := by simpa using hchunk
      rw [List.length_take]
      refine ⟨by omega, by omega, fun hnext => ?_⟩
      -- something is left for the next chunk
      have hleft : values.drop size ≠ [] := by
        rintro hnone
        simp [hnone, chunks_nil] at hnext
      rw [ne_eq, List.drop_eq_nil_iff] at hleft
      omega
    | succ i =>
      rw [List.getElem?_cons_succ] at hchunk
      obtain ⟨hone, hle, hfull⟩ := ih hchunk
      refine ⟨hone, hle, fun hnext => hfull ?_⟩
      rw [List.length_cons] at hnext
      omega

/-- Chunks of a list whose length is a multiple of their size are full. -/
theorem length_of_mem_chunks_of_dvd {size : Nat} (hsize : 0 < size) {values : List α}
    (hdvd : size ∣ values.length) : ∀ chunk ∈ chunks size values, chunk.length = size := by
  induction values using chunks_induction hsize with
  | hnil => simp [chunks_nil]
  | hcons values hvalues ih =>
    have hle : size ≤ values.length := Nat.le_of_dvd (List.length_pos_iff.2 hvalues) hdvd
    have hdrop : size ∣ (values.drop size).length := by
      rw [List.length_drop]
      exact Nat.dvd_sub hdvd dvd_rfl
    rw [chunks_of_ne_nil hsize hvalues]
    refine List.forall_mem_cons.2 ⟨?_, ih hdrop⟩
    rw [List.length_take, min_eq_left hle]

/-- Only the chunks of a list put it together again and are full up to the
    last one, which holds something. -/
theorem eq_chunks {size : Nat} {values : List α} {groups : List (List α)}
    (hflatten : groups.flatten = values)
    (hlength : ∀ i group, groups[i]? = some group →
      1 ≤ group.length ∧ group.length ≤ size ∧ (i + 1 < groups.length → group.length = size)) :
    groups = chunks size values := by
  induction groups generalizing values with
  | nil =>
    rw [← hflatten, List.flatten_nil, chunks_nil]
  | cons first later ih =>
    obtain ⟨hpos, hle, hfull⟩ := hlength 0 first rfl
    have hsize : 0 < size := by omega
    have hne : values ≠ [] := by
      rintro rfl
      rw [List.flatten_cons, List.append_eq_nil_iff] at hflatten
      rw [hflatten.1, List.length_nil] at hpos
      omega
    have hlater (i : Nat) (group : List α) (hgroup : later[i]? = some group) :
        1 ≤ group.length ∧ group.length ≤ size ∧
          (i + 1 < later.length → group.length = size) := by
      obtain ⟨hpos, hle, hfull⟩ := hlength (i + 1) group hgroup
      exact ⟨hpos, hle, fun hnext => hfull (by rw [List.length_cons]; omega)⟩
    rw [List.flatten_cons] at hflatten
    rw [chunks_of_ne_nil hsize hne, ← hflatten]
    cases hlast : later with
    | nil =>
      rw [List.flatten_nil, List.append_nil, List.take_of_length_le hle, List.drop_eq_nil_of_le hle,
        chunks_nil]
    | cons second rest =>
      have hfirst : first.length = size := hfull (by rw [hlast]; simp)
      rw [← hlast, List.take_left' hfirst, List.drop_left' hfirst, ← ih rfl hlater]

end ResourceClient
