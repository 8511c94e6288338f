import Mathlib.Algebra.Order.Ring.Int
import Mathlib.Tactic.Ring

/-!
# Arithmetic of machine words

Integer expressions as a program computes them. Every operation has a type, and its result wraps
around to that type: `eval` is what is computed, `exact` what is meant. `Fits` says that each result
on the way is one of its type and that no divisor is zero; then the two are the same
(`eval_eq_exact`).
-/

namespace Zss.Lib

/-! ## Types -/

/-- A type of words, by its highest bit. -/
structure WordType where
  signed : Bool
  highBit : Nat

namespace WordType

variable {t : WordType} {n : Int}

def least (t : WordType) : Int := if t.signed then -2 ^ t.highBit else 0

/-- The first number that is too large. -/
def bound (t : WordType) : Int := if t.signed then 2 ^ t.highBit else 2 ^ (t.highBit + 1)

/-- The number is one of the type. -/
def Holds (t : WordType) (n : Int) : Prop := t.least ≤ n ∧ n < t.bound

instance (t : WordType) (n : Int) : Decidable (t.Holds n) :=
  inferInstanceAs (Decidable (_ ∧ _))

/-- The number of the type that a result wraps around to. -/
def wrap (t : WordType) (n : Int) : Int :=
  if t.signed then n.bmod (2 ^ (t.highBit + 1)) else n % 2 ^ (t.highBit + 1)

theorem wrap_of_holds (h : t.Holds n) : t.wrap n = n := by
  obtain ⟨hleast, hbound⟩ := h
  rw [wrap]
  cases hs : t.signed with
  | true =>
    rw [least, hs, if_pos rfl] at hleast
    rw [bound, hs, if_pos rfl] at hbound
    rw [if_pos rfl]
    refine Int.bmod_eq_of_le ?_ ?_
    · rw [Nat.pow_succ]
      push_cast
      omega
    · rw [Nat.pow_succ]
      push_cast
      omega
  | false =>
    rw [least, hs, if_neg Bool.false_ne_true] at hleast
    rw [bound, hs, if_neg Bool.false_ne_true] at hbound
    rw [if_neg Bool.false_ne_true]
    exact Int.emod_eq_of_lt hleast hbound

/-- A number between zero and one of the type is of the type. -/
theorem Holds.of_nonneg_of_le {m : Int} (h : t.Holds n) (hm : 0 ≤ m) (hmn : m ≤ n) : t.Holds m := by
  refine ⟨?_, hmn.trans_lt h.2⟩
  refine le_trans ?_ hm
  unfold least
  split
  · exact neg_nonpos.mpr (pow_nonneg (by norm_num) _)
  · exact le_rfl

end WordType

/-! ## Expressions -/

inductive WordOp where
  | add
  | sub
  | mul
  | div
  | shiftLeft
deriving DecidableEq

/-- The result of an operation on numbers without bounds. -/
def WordOp.apply : WordOp → Int → Int → Int
  | add, a, b => a + b
  | sub, a, b => a - b
  | mul, a, b => a * b
  | div, a, b => a.tdiv b
  | shiftLeft, a, b => a * 2 ^ b.toNat

inductive WordExpr where
  | value (n : Int)
  | op (t : WordType) (o : WordOp) (a b : WordExpr)

namespace WordExpr

/-- What is computed. -/
def eval : WordExpr → Int
  | value n => n
  | op t o a b => t.wrap (o.apply a.eval b.eval)

/-- What is meant. -/
def exact : WordExpr → Int
  | value n => n
  | op _ o a b => o.apply a.exact b.exact

/-- Each result is one of its type, and nothing is divided by zero. -/
def Fits : WordExpr → Prop
  | value _ => True
  | op t o a b => a.Fits ∧ b.Fits ∧ t.Holds (o.apply a.eval b.eval) ∧ (o = .div → b.eval ≠ 0)

variable {t : WordType} {o : WordOp} {a b e : WordExpr}

@[simp] theorem exact_value (n : Int) : (value n).exact = n := rfl

@[simp] theorem exact_op : (op t o a b).exact = o.apply a.exact b.exact := rfl

@[simp] theorem eval_value (n : Int) : (value n).eval = n := rfl

@[simp] theorem fits_value (n : Int) : (value n).Fits := trivial

/-- **What fits is computed as it is meant.** -/
theorem eval_eq_exact (h : e.Fits) : e.eval = e.exact := by
  induction e with
  | value n => rfl
  | op t o a b iha ihb =>
    obtain ⟨ha, hb, hholds, -⟩ := h
    rw [eval, WordType.wrap_of_holds hholds, iha ha, ihb hb, exact]

/-- What is meant decides whether it fits. -/
theorem fits_op_iff : (op t o a b).Fits ↔
    a.Fits ∧ b.Fits ∧ t.Holds (o.apply a.exact b.exact) ∧ (o = .div → b.exact ≠ 0) := by
  constructor
  · intro ⟨ha, hb, h⟩
    rw [eval_eq_exact ha, eval_eq_exact hb] at h
    exact ⟨ha, hb, h⟩
  · intro ⟨ha, hb, h⟩
    rw [← eval_eq_exact ha, ← eval_eq_exact hb] at h
    exact ⟨ha, hb, h⟩

theorem fits_of_not_div (h : o ≠ .div) : (op t o a b).Fits ↔
    a.Fits ∧ b.Fits ∧ t.Holds (o.apply a.exact b.exact) := by
  rw [fits_op_iff]
  constructor
  · intro ⟨ha, hb, hholds, _⟩
    exact ⟨ha, hb, hholds⟩
  · intro ⟨ha, hb, hholds⟩
    exact ⟨ha, hb, hholds, fun hdiv => absurd hdiv h⟩

/-- A quotient of numbers that are not negative fits where they do. -/
theorem fits_div_iff (hnonneg : 0 ≤ a.exact) (hpos : 0 ≤ b.exact) (hholds : t.Holds a.exact) :
    (op t .div a b).Fits ↔ a.Fits ∧ b.Fits ∧ b.exact ≠ 0 := by
  rw [fits_op_iff]
  constructor
  · intro ⟨ha, hb, _, hne⟩
    exact ⟨ha, hb, hne rfl⟩
  · intro ⟨ha, hb, hne⟩
    refine ⟨ha, hb, hholds.of_nonneg_of_le (Int.tdiv_nonneg hnonneg hpos) ?_, fun _ => hne⟩
    exact Int.tdiv_le_self _ hnonneg

end WordExpr

end Zss.Lib
