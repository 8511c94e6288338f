import Mathlib.Data.List.Basic

/-!
# Filling a buffer by chunks

A buffer that is filled chunk by chunk until it holds exactly its capacity, which is tested before
each chunk and only for equality: it ends at the capacity or below if the chunks fit or some of the
first make it up exactly, and is overfilled otherwise.
-/

namespace Zss.Lib

variable {α : Type _}

/-- The elements of all chunks. -/
def chunksLength : List (List α) → Nat
  | [] => 0
  | chunk :: chunks => chunk.length + chunksLength chunks

/-- The buffer after the chunks that are taken. -/
def fillByChunks (capacity : Nat) (buffer : List α) : List (List α) → List α
  | [] => buffer
  | chunk :: chunks =>
    if buffer.length = capacity then buffer
    else fillByChunks capacity (buffer ++ chunk) chunks

@[simp] theorem chunksLength_nil : chunksLength ([] : List (List α)) = 0 := rfl

@[simp] theorem chunksLength_cons (chunk : List α) (chunks : List (List α)) :
    chunksLength (chunk :: chunks) = chunk.length + chunksLength chunks := rfl

theorem fillByChunks_cons (capacity : Nat) (buffer chunk : List α) (chunks : List (List α)) :
    fillByChunks capacity buffer (chunk :: chunks) =
      if buffer.length = capacity then buffer
      else fillByChunks capacity (buffer ++ chunk) chunks := rfl

theorem length_flatten_eq (chunks : List (List α)) : chunks.flatten.length = chunksLength chunks := by
  induction chunks with
  | nil => rfl
  | cons chunk chunks ih => rw [List.flatten_cons, List.length_append, ih, chunksLength_cons]

/-- A buffer that is full takes no chunk. -/
theorem fillByChunks_full {capacity : Nat} {buffer : List α} (h : buffer.length = capacity)
    (chunks : List (List α)) : fillByChunks capacity buffer chunks = buffer := by
  cases chunks with
  | nil => rfl
  | cons chunk chunks => rw [fillByChunks_cons, if_pos h]

/-- Chunks that fit are all taken. -/
theorem fillByChunks_fits {capacity : Nat} {buffer : List α} {chunks : List (List α)}
    (h : buffer.length + chunksLength chunks ≤ capacity) :
    fillByChunks capacity buffer chunks = buffer ++ chunks.flatten := by
  induction chunks generalizing buffer with
  | nil => exact (List.append_nil buffer).symm
  | cons chunk chunks ih =>
    rw [chunksLength_cons] at h
    rw [fillByChunks_cons]
    split
    next hfull =>
      -- the remaining chunks are empty
      have hempty : (chunk :: chunks).flatten = [] := by
        apply List.eq_nil_of_length_eq_zero
        rw [length_flatten_eq, chunksLength_cons]
        omega
      rw [hempty, List.append_nil]
    next =>
      rw [ih (by rw [List.length_append]; omega), List.flatten_cons, List.append_assoc]

/-- Chunks that make up the capacity exactly at some point end the filling there. -/
theorem length_fillByChunks_of_boundary {capacity : Nat} {buffer : List α}
    {chunks : List (List α)} {k : Nat}
    (h : buffer.length + chunksLength (chunks.take k) = capacity) :
    (fillByChunks capacity buffer chunks).length = capacity := by
  induction chunks generalizing buffer k with
  | nil =>
    rw [List.take_nil, chunksLength_nil, Nat.add_zero] at h
    exact h
  | cons chunk chunks ih =>
    rw [fillByChunks_cons]
    split
    next hfull => exact hfull
    next hfull =>
      cases k with
      | zero => exact absurd h hfull
      | succ k =>
        rw [List.take_succ_cons, chunksLength_cons] at h
        have hk : (buffer ++ chunk).length + chunksLength (chunks.take k) = capacity := by
          rw [List.length_append]
          omega
        exact ih hk

/-- Chunks that never make up the capacity are all taken. -/
theorem fillByChunks_of_no_boundary {capacity : Nat} {buffer : List α} {chunks : List (List α)}
    (h : ∀ k, buffer.length + chunksLength (chunks.take k) ≠ capacity) :
    fillByChunks capacity buffer chunks = buffer ++ chunks.flatten := by
  induction chunks generalizing buffer with
  | nil => exact (List.append_nil buffer).symm
  | cons chunk chunks ih =>
    have hroom : ¬ buffer.length = capacity := h 0
    rw [fillByChunks_cons, if_neg hroom, ih, List.flatten_cons, List.append_assoc]
    intro k hk
    apply h (k + 1)
    rw [List.take_succ_cons, chunksLength_cons, ← hk, List.length_append, Nat.add_assoc]

/-- What is taken are some of the first chunks. -/
theorem fillByChunks_eq_take (capacity : Nat) (buffer : List α) (chunks : List (List α)) :
    ∃ k, fillByChunks capacity buffer chunks = buffer ++ (chunks.take k).flatten := by
  induction chunks generalizing buffer with
  | nil => exact ⟨0, (List.append_nil buffer).symm⟩
  | cons chunk chunks ih =>
    rw [fillByChunks_cons]
    split
    next => exact ⟨0, (List.append_nil buffer).symm⟩
    next =>
      obtain ⟨k, hk⟩ := ih (buffer ++ chunk)
      exact ⟨k + 1, by rw [hk, List.take_succ_cons, List.flatten_cons, List.append_assoc]⟩

/-- **When a buffer is not overfilled.** The chunks fit, or some of the first fill it exactly. -/
theorem length_fillByChunks_le_iff (capacity : Nat) (chunks : List (List α)) :
    (fillByChunks capacity [] chunks).length ≤ capacity ↔
      chunksLength chunks ≤ capacity ∨ ∃ k, chunksLength (chunks.take k) = capacity := by
  constructor
  · intro h
    by_cases hboundary : ∃ k, chunksLength (chunks.take k) = capacity
    · exact .inr hboundary
    · left
      have hall : fillByChunks capacity [] chunks = [] ++ chunks.flatten :=
        fillByChunks_of_no_boundary fun k hk =>
          hboundary ⟨k, by rwa [List.length_nil, Nat.zero_add] at hk⟩
      rwa [hall, List.nil_append, length_flatten_eq] at h
  · rintro (h | ⟨k, hk⟩)
    · rw [fillByChunks_fits (by rwa [List.length_nil, Nat.zero_add]), List.nil_append,
        length_flatten_eq]
      exact h
    · exact Nat.le_of_eq (length_fillByChunks_of_boundary (by rwa [List.length_nil, Nat.zero_add]))

/-- How much a buffer that is not overfilled holds. -/
theorem length_fillByChunks_eq {capacity : Nat} {chunks : List (List α)}
    (h : (fillByChunks capacity [] chunks).length ≤ capacity) :
    (fillByChunks capacity [] chunks).length = min (chunksLength chunks) capacity := by
  by_cases hfits : chunksLength chunks ≤ capacity
  · rw [fillByChunks_fits (by rwa [List.length_nil, Nat.zero_add]), List.nil_append,
      length_flatten_eq, Nat.min_eq_left hfits]
  · rcases (length_fillByChunks_le_iff capacity chunks).mp h with hle | ⟨k, hk⟩
    · exact absurd hle hfits
    · rw [length_fillByChunks_of_boundary (by rwa [List.length_nil, Nat.zero_add]),
        Nat.min_eq_right (by omega)]

end Zss.Lib
