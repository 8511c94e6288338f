/-!
# Sparse tables

An array that is initialised at some of its indices has as many elements as its highest index
says, and the elements in between are null. What is read at an index is outside the array, null, or
the element.
-/

namespace Zss.Lib

/-- The elements with their indices, no index twice. -/
abbrev SparseTable (α : Type) := List (Nat × α)

namespace SparseTable

variable {α : Type}

/-- The indices that are initialised. -/
def indices (table : SparseTable α) : List Nat := table.map Prod.fst

/-- The number of elements. -/
def size (table : SparseTable α) : Nat := table.indices.foldl (fun n i => max n (i + 1)) 0

inductive Read (α : Type) where
  | outside
  | null
  | found (element : α)

/-- The element at an index of the language, which has a sign. -/
def read (table : SparseTable α) (index : Int) : Read α :=
  if index < 0 ∨ (table.size : Int) ≤ index then .outside
  else
    match table.find? (fun entry => entry.1 == index.toNat) with
    | none => .null
    | some entry => .found entry.2

theorem le_foldl_max (indices : List Nat) (n : Nat) :
    n ≤ indices.foldl (fun n i => max n (i + 1)) n := by
  induction indices generalizing n with
  | nil => exact Nat.le_refl _
  | cons i indices ih => exact Nat.le_trans (Nat.le_max_left _ _) (ih (max n (i + 1)))

theorem lt_foldl_max {indices : List Nat} {i : Nat} (h : i ∈ indices) (n : Nat) :
    i < indices.foldl (fun n i => max n (i + 1)) n := by
  induction indices generalizing n with
  | nil => cases h
  | cons j indices ih =>
    rcases List.mem_cons.mp h with rfl | h
    · exact Nat.lt_of_lt_of_le (Nat.lt_of_succ_le (Nat.le_max_right _ _))
        (le_foldl_max indices (max n (i + 1)))
    · exact ih h _

theorem lt_size {table : SparseTable α} {i : Nat} (h : i ∈ table.indices) : i < table.size :=
  lt_foldl_max h 0

/-- **Reading.** There is an element exactly at the indices that are initialised. -/
theorem read_found_iff (table : SparseTable α) (index : Int) :
    (∃ element, table.read index = .found element) ↔ ∃ i ∈ table.indices, (i : Int) = index := by
  constructor
  · intro ⟨element, h⟩
    unfold read at h
    split at h
    next => cases h
    next hinside =>
      split at h
      next => cases h
      next entry hentry =>
        have hmem := List.mem_of_find?_eq_some hentry
        have hkey := List.find?_some hentry
        have hindex : entry.1 = index.toNat := beq_iff_eq.mp hkey
        exact ⟨entry.1, List.mem_map_of_mem hmem, by omega⟩
  · intro ⟨i, hi, hindex⟩
    have hsize := lt_size hi
    have hinside : ¬(index < 0 ∨ (table.size : Int) ≤ index) := by omega
    obtain ⟨entry, hmem, hentry⟩ := List.mem_map.mp hi
    have hsome : (table.find? fun entry => entry.1 == index.toNat).isSome := by
      rw [List.find?_isSome]
      refine ⟨entry, hmem, ?_⟩
      rw [beq_iff_eq]
      omega
    obtain ⟨found, hfound⟩ := Option.isSome_iff_exists.mp hsome
    refine ⟨found.2, ?_⟩
    rw [read, if_neg hinside, hfound]

end SparseTable

end Zss.Lib
