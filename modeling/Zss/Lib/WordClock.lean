import Mathlib.Algebra.Order.Ring.Nat

/-!
# Clock readings in a word

A clock counts seconds without end; a program keeps what it reads of it in an unsigned word and
takes the difference of two readings for the time that went by. The difference is that time modulo
the word: a wrap between the readings does no harm, and no age is overstated, as long as the reading
that is subtracted is the earlier one. With the later one subtracted the difference is next to the
largest word, so that whatever the program waits for seems long past.
-/

namespace Zss.Lib.WordClock

/-- What a program reads of the clock. -/
def reading (time : Nat) : UInt32 := UInt32.ofNat time

/-- The age of one reading at another, in words. -/
def age (now earlier : UInt32) : UInt32 := now - earlier

variable {now time limit : Nat}

theorem toNat_age (now time : Nat) :
    (age (reading now) (reading time)).toNat = (2 ^ 32 - time % 2 ^ 32 + now % 2 ^ 32) % 2 ^ 32 := by
  simp [age, reading, UInt32.toNat_sub, UInt32.toNat_ofNat']

/-- Between readings in their order the age is the time that went by, in the word. -/
theorem toNat_age_of_le (h : time ≤ now) :
    (age (reading now) (reading time)).toNat = (now - time) % 2 ^ 32 := by
  rw [toNat_age]
  omega

/-- An age that is no overstatement: what seems to have gone by has gone by. -/
theorem elapsed_of_age (h : time ≤ now) (hage : limit ≤ (age (reading now) (reading time)).toNat) :
    time + limit ≤ now := by
  rw [toNat_age_of_le h] at hage
  have hle := Nat.mod_le (now - time) (2 ^ 32)
  omega

end Zss.Lib.WordClock
