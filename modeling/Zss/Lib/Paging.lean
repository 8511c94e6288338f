import Mathlib.Order.RelClasses
import Mathlib.Data.List.Basic

/-!
# Pages of an ordered list

A listing in an order without repetition, asked for its items from a name on. Where a page begins at
an item of what was listed before, it is the rest of that from this item on (`onwards_next`), so that
pages which overlap by one item make up the whole.
-/

namespace Zss.Lib

universe u v

section

variable {α : Type u} {κ : Type v} (before : κ → κ → Prop) [DecidableRel before] (key : α → κ)

/-- The items are in order, and none is there twice. -/
def InOrder (items : List α) : Prop := items.Pairwise fun a b => before (key a) (key b)

/-- The items that are not before a name. -/
def onwards (start : κ) (items : List α) : List α :=
  items.filter fun item => ¬ before (key item) start

/-- A page: so many of them at most. -/
def page (start : κ) (size : Nat) (items : List α) : List α :=
  (onwards before key start items).take size

variable {before key}

theorem InOrder.onwards {items : List α} (ordered : InOrder before key items) (start : κ) :
    InOrder before key (onwards before key start items) :=
  List.Pairwise.sublist List.filter_sublist ordered

variable [IsStrictTotalOrder κ before]

/-- From an item of the list on, the list goes on with it. -/
theorem onwards_get {items : List α} (ordered : InOrder before key items) {j : Nat} {item : α}
    (h : items[j]? = some item) : onwards before key (key item) items = items.drop j := by
  induction items generalizing j with
  | nil => cases h
  | cons first items ih =>
    obtain ⟨first_before, ordered⟩ := List.pairwise_cons.mp ordered
    cases j with
    | zero =>
      obtain rfl : first = item := Option.some.inj h
      refine List.filter_eq_self.mpr fun a ha => ?_
      rcases List.mem_cons.mp ha with rfl | ha
      · simp [irrefl_of before]
      · simpa using asymm_of before (first_before a ha)
    | succ j =>
      have hitem : items[j]? = some item := h
      rw [List.drop_succ_cons, ← ih ordered hitem, Zss.Lib.onwards, List.filter_cons, if_neg]
      · rfl
      · simpa using first_before item (List.mem_of_getElem? hitem)

/-- What is not before a later name is not before an earlier one. -/
theorem onwards_onwards {start next : κ} (later : ¬ before next start) (items : List α) :
    onwards before key next (onwards before key start items) = onwards before key next items := by
  unfold onwards
  rw [List.filter_filter]
  refine List.filter_congr fun a _ => ?_
  by_cases hnext : before (key a) next
  · simp [hnext]
  · have hstart : ¬ before (key a) start := by
      intro hstart
      rcases trichotomous_of before next (key a) with h | h | h
      · exact later (trans_of before h hstart)
      · exact later (h ▸ hstart)
      · exact hnext h
    simp [hnext, hstart]

/-- **The next page.** What follows from an item of a listing on is the rest of the listing. -/
theorem onwards_next {items : List α} (ordered : InOrder before key items) {start : κ} {j : Nat}
    {item : α} (h : (onwards before key start items)[j]? = some item) :
    onwards before key (key item) items = (onwards before key start items).drop j := by
  have later : ¬ before (key item) start := by
    have mem := List.mem_of_getElem? h
    simpa [onwards] using (List.mem_filter.mp mem).2
  rw [← onwards_get (ordered.onwards start) h, onwards_onwards later]

end

end Zss.Lib
