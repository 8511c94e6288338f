import Mathlib.Data.List.Basic

/-!
# Lists linked at their tail

Elements in storage, each with a pointer to the next one. A new element is put behind the last one; its
own pointer is what its storage happens to have. Such a list is as it was put together, but for its
end (`Chained.linked_iff`).
-/

namespace Zss.Lib

universe u

/-- A pointer to an element, by its number; `wild` is one to something else. -/
inductive Link where
  | null
  | node (i : Nat)
  | wild
deriving DecidableEq

structure Node (α : Type u) where
  value : α
  next : Link

/-- The elements that were made, the first one, and the number of the last one. -/
structure LinkedList (α : Type u) where
  nodes : List (Node α)
  head : Link
  tail : Option Nat

/-- The values from a pointer on, up to the null pointer. -/
inductive Linked {α : Type u} (nodes : List (Node α)) : Link → List α → Prop where
  | nil : Linked nodes .null []
  | cons {i : Nat} {node : Node α} {values : List α} (h : nodes[i]? = some node)
    (rest : Linked nodes node.next values) : Linked nodes (.node i) (node.value :: values)

namespace LinkedList

variable {α : Type u}

def empty : LinkedList α := ⟨[], .null, none⟩

/-- An element behind the last one, in storage that has some pointer already. -/
def append (fresh : Nat → Link) (l : LinkedList α) (a : α) : LinkedList α :=
  let i := l.nodes.length
  let nodes := l.nodes ++ [⟨a, fresh i⟩]
  match l.tail with
  | some last => ⟨nodes.modify last fun node => { node with next := .node i }, l.head, some i⟩
  | none => ⟨nodes, .node i, some i⟩

/-- What a list is that was put together from such values. -/
structure Chained (fresh : Nat → Link) (l : LinkedList α) (values : List α) : Prop where
  length : l.nodes.length = values.length
  head : l.head = if values.length = 0 then Link.null else Link.node 0
  tail : l.tail = if values.length = 0 then none else some (values.length - 1)
  node : ∀ i a, values[i]? = some a → l.nodes[i]? =
    some (Node.mk a (if i + 1 < values.length then .node (i + 1) else fresh i))

variable {fresh : Nat → Link} {l : LinkedList α} {values : List α}

theorem chained_empty : Chained fresh (empty : LinkedList α) [] :=
  ⟨rfl, rfl, rfl, fun _ _ h => nomatch h⟩

theorem Chained.append (h : Chained fresh l values) (a : α) :
    Chained fresh (l.append fresh a) (values ++ [a]) := by
  obtain ⟨hlength, hhead, htail, hnode⟩ := h
  have hlength' : (values ++ [a]).length = values.length + 1 := List.length_append
  have hnew : (l.nodes ++ [Node.mk a (fresh l.nodes.length)])[values.length]? =
      some (Node.mk a (fresh values.length)) := by
    rw [← hlength, List.getElem?_concat_length]
  rcases Nat.eq_zero_or_pos values.length with hzero | hpos
  · rw [if_pos hzero] at htail
    have happend : l.append fresh a =
        ⟨l.nodes ++ [⟨a, fresh l.nodes.length⟩], .node 0, some 0⟩ := by
      rw [LinkedList.append, htail, hlength, hzero]
    obtain rfl := List.length_eq_zero_iff.mp hzero
    rw [happend]
    refine ⟨?_, rfl, rfl, ?_⟩
    · rw [List.length_append, hlength]
      rfl
    · intro i b hb
      obtain ⟨rfl, rfl⟩ : i = 0 ∧ a = b := by
        cases i with
        | zero => exact ⟨rfl, Option.some.inj hb⟩
        | succ i => cases hb
      exact hnew
  · have hne : values.length ≠ 0 := Nat.ne_of_gt hpos
    rw [if_neg hne] at htail hhead
    have happend : l.append fresh a =
        ⟨(l.nodes ++ [Node.mk a (fresh values.length)]).modify (values.length - 1)
          fun node => { node with next := .node values.length }, .node 0, some values.length⟩ := by
      rw [LinkedList.append, htail, hlength, hhead]
    rw [hlength] at hnew
    rw [happend]
    refine ⟨?_, ?_, ?_, ?_⟩
    · rw [List.length_modify, List.length_append, hlength, hlength']
      rfl
    · rw [hlength', if_neg (Nat.succ_ne_zero _)]
    · rw [hlength', if_neg (Nat.succ_ne_zero _), Nat.add_sub_cancel]
    · intro i b hb
      rw [List.getElem?_modify, hlength']
      rcases Nat.lt_trichotomy i values.length with hlt | rfl | hgt
      · rw [List.getElem?_append_left hlt] at hb
        rw [List.getElem?_append_left (hlength ▸ hlt), hnode i b hb, if_pos (Nat.succ_lt_succ hlt)]
        by_cases hlast : values.length - 1 = i
        · have hnext : values.length = i + 1 := by omega
          simp only [Option.map_eq_map, Option.map_some, if_pos hlast]
          rw [hnext]
        · have hmore : i + 1 < values.length := by omega
          simp only [Option.map_eq_map, Option.map_some, if_neg hlast, if_pos hmore]
      · rw [List.getElem?_concat_length] at hb
        obtain rfl := Option.some.inj hb
        have hother : ¬ values.length - 1 = values.length := by omega
        rw [hnew, if_neg (Nat.lt_irrefl _)]
        simp only [Option.map_eq_map, Option.map_some, if_neg hother]
      · have hlt := (List.getElem?_eq_some_iff.mp hb).1
        omega

/-- From one element to the next. -/
theorem Chained.linked_node_iff (h : Chained fresh l values) {i : Nat} {a : α} {rest : List α}
    (hi : values[i]? = some a) : Linked l.nodes (.node i) (a :: rest) ↔
      Linked l.nodes (if i + 1 < values.length then .node (i + 1) else fresh i) rest := by
  constructor
  · intro linked
    generalize hvalues : a :: rest = all at linked
    cases linked with
    | cons hnode hrest =>
      rw [h.node i a hi] at hnode
      obtain rfl := Option.some.inj hnode
      rw [List.cons.injEq] at hvalues
      rw [hvalues.2]
      exact hrest
  · exact fun hrest => Linked.cons (h.node i a hi) hrest

theorem linked_nil_iff {nodes : List (Node α)} {link : Link} : Linked nodes link [] ↔ link = .null := by
  constructor
  · intro linked
    cases linked
    rfl
  · rintro rfl
    exact .nil

/-- From an element on, the list is linked to its end if the last element is. -/
theorem Chained.linked_drop_iff (h : Chained fresh l values) {k : Nat}
    (hlength : values.length = k + 1) {i : Nat} (hi : i ≤ k) :
    Linked l.nodes (.node i) (values.drop i) ↔ fresh k = .null := by
  induction hn : k - i generalizing i with
  | zero =>
    obtain rfl : i = k := by omega
    have hlt : i < values.length := by omega
    rw [List.drop_eq_getElem_cons hlt, h.linked_node_iff (List.getElem?_eq_getElem hlt),
      if_neg (by omega), List.drop_of_length_le (Nat.le_of_eq hlength), linked_nil_iff]
  | succ n ih =>
    have hlt : i < values.length := by omega
    rw [List.drop_eq_getElem_cons hlt, h.linked_node_iff (List.getElem?_eq_getElem hlt),
      if_pos (by omega)]
    exact ih (by omega) (by omega)

/-- A list that was put together is linked to its end if the last element's storage had the null
pointer. -/
theorem Chained.linked_iff (h : Chained fresh l values) :
    Linked l.nodes l.head values ↔ ∀ k, values.length = k + 1 → fresh k = .null := by
  rw [h.head]
  cases hvalues : values.length with
  | zero =>
    rw [List.length_eq_zero_iff.mp hvalues, if_pos rfl, linked_nil_iff]
    exact iff_of_true rfl nofun
  | succ k =>
    have hwhole := h.linked_drop_iff hvalues (Nat.zero_le k)
    rw [List.drop_zero] at hwhole
    rw [if_neg (Nat.succ_ne_zero k), hwhole]
    constructor
    · rintro hnull k' hk'
      rw [← Nat.succ.inj hk']
      exact hnull
    · exact fun hnull => hnull k rfl

end LinkedList

end Zss.Lib
