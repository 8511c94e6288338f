import Mathlib.Algebra.Order.BigOperators.Group.List
import Mathlib.Algebra.Order.Ring.Canonical
import Mathlib.Algebra.Order.Ring.Nat

/-!
# Heaps of one kind of cell

Storage that is only ever obtained, never given back: an address is the number of cells obtained
before it, so an address stays valid for good. What remains to be said of it is how reading
composes with obtaining and with updating one cell or each of a chain of cells.
-/

namespace Zss.Lib

/-- The address of a cell. -/
abbrev Addr := Nat

/-- Cells of one type, in the order they were obtained. -/
structure Heap (α : Type) where
  cells : List α

namespace Heap

variable {α : Type}

/-- No cell at all. -/
def empty : Heap α := ⟨[]⟩

/-- The cell at an address. -/
def read (h : Heap α) (a : Addr) : Option α := h.cells[a]?

/-- The address the next cell gets. -/
def fresh (h : Heap α) : Addr := h.cells.length

/-- One more cell, at `fresh`. -/
def alloc (h : Heap α) (x : α) : Heap α := ⟨h.cells ++ [x]⟩

/-- One cell changed in place. -/
def update (h : Heap α) (a : Addr) (f : α → α) : Heap α := ⟨h.cells.modify a f⟩

/-- Each cell of a chain changed in place, in the chain's order. -/
def updateAll (h : Heap α) (as : List Addr) (f : α → α) : Heap α :=
  as.foldl (fun h a => h.update a f) h

@[simp] theorem read_empty (a : Addr) : (empty : Heap α).read a = none := by
  simp [empty, read]

@[simp] theorem read_update_self (h : Heap α) (a : Addr) (f : α → α) :
    (h.update a f).read a = (h.read a).map f := by
  simp [read, update]

theorem read_update_ne (h : Heap α) {a b : Addr} (f : α → α) (hne : a ≠ b) :
    (h.update a f).read b = h.read b := by
  simp [read, update, hne]

variable {a : Addr}

/-- A change leaves every cell where it is. -/
theorem exists_read_update {h : Heap α} {x : α} (hx : h.read a = some x) (b : Addr) (f : α → α) :
    ∃ y, (h.update b f).read a = some y := by
  by_cases hb : b = a
  · subst hb
    exact ⟨f x, by rw [read_update_self, hx, Option.map_some]⟩
  · exact ⟨x, by rw [read_update_ne h f hb, hx]⟩

/-- A cell that can be read stands below `fresh`. -/
theorem lt_fresh_of_read {h : Heap α} {x : α} (hx : h.read a = some x) : a < h.fresh :=
  (List.getElem?_eq_some_iff.mp hx).1

@[simp] theorem read_fresh (h : Heap α) : h.read h.fresh = none := by
  simp [read, fresh]

@[simp] theorem fresh_alloc (h : Heap α) (x : α) : (h.alloc x).fresh = h.fresh + 1 := by
  simp [fresh, alloc]

@[simp] theorem fresh_update (h : Heap α) (a : Addr) (f : α → α) :
    (h.update a f).fresh = h.fresh := by
  simp [fresh, update]

@[simp] theorem read_alloc_fresh (h : Heap α) (x : α) : (h.alloc x).read h.fresh = some x := by
  simp [read, alloc, fresh]

theorem read_alloc_ne (h : Heap α) (x : α) (hne : a ≠ h.fresh) : (h.alloc x).read a = h.read a := by
  unfold read alloc fresh at *
  rcases Nat.lt_trichotomy a h.cells.length with hlt | heq | hgt
  · exact List.getElem?_append_left hlt
  · exact absurd heq hne
  · rw [List.getElem?_eq_none_iff.mpr (by simp; omega), List.getElem?_eq_none_iff.mpr (by omega)]

/-- What could be read before a cell was obtained reads the same after. -/
theorem read_alloc_of_some {h : Heap α} {x y : α} (hx : h.read a = some x) :
    (h.alloc y).read a = some x := by
  rw [read_alloc_ne h y (Nat.ne_of_lt (lt_fresh_of_read hx))]
  exact hx

/-- A cell of a heap with one more cell is the new one or one of the old ones. -/
theorem read_alloc_cases {h : Heap α} {x y : α} (hx : (h.alloc y).read a = some x) :
    (a = h.fresh ∧ x = y) ∨ h.read a = some x := by
  by_cases ha : a = h.fresh
  · subst ha
    rw [read_alloc_fresh, Option.some.injEq] at hx
    exact .inl ⟨rfl, hx.symm⟩
  · rw [read_alloc_ne h y ha] at hx
    exact .inr hx

/-- A cell of an updated heap is the changed cell or an untouched one. -/
theorem read_update_cases {h : Heap α} {a b : Addr} {f : α → α} {x : α}
    (hx : (h.update a f).read b = some x) :
    (b = a ∧ ∃ y, h.read a = some y ∧ x = f y) ∨ (b ≠ a ∧ h.read b = some x) := by
  by_cases hb : b = a
  · subst hb
    rw [read_update_self, Option.map_eq_some_iff] at hx
    obtain ⟨y, hy, rfl⟩ := hx
    exact .inl ⟨rfl, y, hy, rfl⟩
  · rw [read_update_ne h f (Ne.symm hb)] at hx
    exact .inr ⟨hb, hx⟩

/-- A chain's update leaves a cell outside the chain alone. -/
theorem read_updateAll_of_not_mem {as : List Addr} (f : α → α) (hn : a ∉ as) (h : Heap α) :
    (h.updateAll as f).read a = h.read a := by
  induction as generalizing h with
  | nil => rfl
  | cons b as ih =>
    rw [updateAll, List.foldl_cons]
    have hb : b ≠ a := fun heq => hn (heq ▸ List.mem_cons_self)
    have := ih (fun hmem => hn (List.mem_cons_of_mem _ hmem)) (h.update b f)
    rw [updateAll] at this
    rw [this, read_update_ne h f hb]

/-- A change that repeats itself, made along a chain, is made once to each cell of it. -/
theorem read_updateAll_of_mem {as : List Addr} {f : α → α} (idem : ∀ x, f (f x) = f x)
    (hmem : a ∈ as) (h : Heap α) : (h.updateAll as f).read a = (h.read a).map f := by
  induction as generalizing h with
  | nil => cases hmem
  | cons b as ih =>
    rw [updateAll, List.foldl_cons]
    change ((h.update b f).updateAll as f).read a = _
    by_cases ha : a ∈ as
    · rw [ih ha]
      by_cases hb : b = a
      · subst hb
        rw [read_update_self, Option.map_map]
        congr 1
        funext x
        exact idem x
      · rw [read_update_ne h f hb]
    · rw [read_updateAll_of_not_mem f ha]
      rcases List.mem_cons.mp hmem with rfl | hin
      · exact read_update_self h a f
      · exact absurd hin ha

/-! ## Totals -/

/-- The sum of a weight over the cells. -/
def total (w : α → Nat) (h : Heap α) : Nat := (h.cells.map w).sum

theorem total_alloc (w : α → Nat) (h : Heap α) (x : α) : (h.alloc x).total w = h.total w + w x := by
  simp [total, alloc]

/-- One cell's change moves the total by that cell's weight. -/
theorem total_update (w : α → Nat) {h : Heap α} {x : α} (hx : h.read a = some x) (f : α → α) :
    (h.update a f).total w + w x = h.total w + w (f x) := by
  obtain ⟨cells⟩ := h
  unfold total update
  simp only [read] at hx ⊢
  induction cells generalizing a with
  | nil => simp at hx
  | cons y ys ih =>
    cases a with
    | zero =>
      simp only [List.getElem?_cons_zero, Option.some.injEq] at hx
      subst hx
      simp only [List.modify_zero_cons, List.map_cons, List.sum_cons]
      omega
    | succ a =>
      simp only [List.getElem?_cons_succ] at hx
      have := ih hx
      simp only [List.modify_succ_cons, List.map_cons, List.sum_cons]
      omega

/-- A cell's weight is part of the total. -/
theorem le_total (w : α → Nat) {h : Heap α} {x : α} (hx : h.read a = some x) : w x ≤ h.total w := by
  have hin : x ∈ h.cells := List.mem_of_getElem? hx
  exact List.le_sum_of_mem (List.mem_map_of_mem hin)

/-- A total that is zero is zero at every cell. -/
theorem total_eq_zero {w : α → Nat} {h : Heap α} (hz : h.total w = 0) {x : α}
    (hx : h.read a = some x) : w x = 0 := by
  have := le_total w hx
  omega

end Heap

end Zss.Lib
