import Mathlib.Data.BitVec

/-!
# Flag words

A flag is tested by `and`ing a word with the flag's mask, raised by `or`ing it in and dropped by
`and`ing with its complement. Testing after each change is a fact about the two masks alone.
-/

namespace Zss.Lib

variable {w : Nat}

/-- The test `word & mask`. -/
def hasFlag (word mask : BitVec w) : Bool := word &&& mask != 0#w

/-- The word with a flag raised, `word | mask`. -/
def setFlag (word mask : BitVec w) : BitVec w := word ||| mask

/-- The word with a flag dropped, `word & ~mask`. -/
def clearFlag (word mask : BitVec w) : BitVec w := word &&& ~~~mask

/-- Two masks that share no bit. -/
def Apart (m n : BitVec w) : Prop := m &&& n = 0#w

instance (m n : BitVec w) : Decidable (Apart m n) := inferInstanceAs (Decidable (m &&& n = 0#w))

theorem hasFlag_zero (mask : BitVec w) : hasFlag 0#w mask = false := by
  simp [hasFlag]

theorem hasFlag_setFlag (word m n : BitVec w) :
    hasFlag (setFlag word m) n = (hasFlag word n || hasFlag m n) := by
  have split : (word ||| m) &&& n = (word &&& n) ||| (m &&& n) := by
    ext i hi
    simp only [BitVec.getElem_and, BitVec.getElem_or]
    cases word[i] <;> cases m[i] <;> cases n[i] <;> rfl
  unfold hasFlag setFlag
  rw [split]
  by_cases ha : word &&& n = 0#w
  · simp [ha]
  · have hne : (word &&& n) ||| (m &&& n) ≠ 0#w := by
      intro h
      apply ha
      ext i hi
      have hi' := congrArg (fun x : BitVec w => x[i]) h
      simp only [BitVec.getElem_or] at hi'
      simp only [BitVec.getElem_zero, Bool.or_eq_false_iff] at hi' ⊢
      exact hi'.1
    rw [bne_iff_ne.mpr hne, bne_iff_ne.mpr ha, Bool.true_or]

/-- A raised flag tests true. -/
theorem hasFlag_setFlag_self (word : BitVec w) {m : BitVec w} (hm : m ≠ 0#w) :
    hasFlag (setFlag word m) m = true := by
  rw [hasFlag_setFlag]
  have : hasFlag m m = true := by
    simp only [hasFlag, BitVec.and_self]
    exact bne_iff_ne.mpr hm
  rw [this, Bool.or_true]

/-- Raising one flag leaves a flag apart from it as it was. -/
theorem hasFlag_setFlag_apart (word : BitVec w) {m n : BitVec w} (h : Apart m n) :
    hasFlag (setFlag word m) n = hasFlag word n := by
  rw [hasFlag_setFlag]
  have : hasFlag m n = false := by
    simp only [hasFlag]
    rw [show m &&& n = 0#w from h]
    exact bne_self_eq_false (a := 0#w)
  rw [this, Bool.or_false]

/-- A dropped flag tests false. -/
theorem hasFlag_clearFlag_self (word m : BitVec w) : hasFlag (clearFlag word m) m = false := by
  have : word &&& ~~~m &&& m = 0#w := by
    ext i hi
    simp only [BitVec.getElem_and, BitVec.getElem_not, BitVec.getElem_zero]
    cases word[i] <;> cases m[i] <;> rfl
  simp only [hasFlag, clearFlag]
  rw [this]
  exact bne_self_eq_false (a := 0#w)

/-- Dropping a flag twice is dropping it once. -/
theorem clearFlag_idem (word m : BitVec w) : clearFlag (clearFlag word m) m = clearFlag word m := by
  simp only [clearFlag, BitVec.and_assoc, BitVec.and_self]

end Zss.Lib
