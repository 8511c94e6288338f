import Mathlib.Tactic.Linarith
import Zss.Datasets.Creation
import Zss.Lib.Arithmetic

/-!
# Figures of space

`getDSSizeValueFromType` turns a quantity of a space type into tracks or cylinders, and
`addDetailsFromDSCB` computes quantities from the bytes of a DSCB. Both do so in words of 32 bits,
and multiply before they divide. As expressions (`sizeExpr`, `Dscb.expressions`) they show what is
computed on the way; where that fits, and only there, the figures are the ones that are meant
(`convertsExactly_iff`, `figuresExact_iff`).

## What is not established

What is printed where a word overflows. A divisor of zero, on which the code ends, is one of the
cases that the conditions leave out.
-/

namespace Zss.Datasets

open Zss.Lib

/-- An `int`. -/
def int32 : WordType := ⟨true, 31⟩

/-- An `uint32_t`. -/
def uint32 : WordType := ⟨false, 31⟩

theorem holds_int32_iff {n : Int} : int32.Holds n ↔ -2147483648 ≤ n ∧ n < 2147483648 := Iff.rfl

theorem holds_uint32_iff {n : Int} : uint32.Holds n ↔ 0 ≤ n ∧ n < 4294967296 := Iff.rfl

/-! ## Conversion of quantities -/

/-- The expression that `getDSSizeValueFromType` computes. -/
def sizeExpr (quantity : Int) (spaceType : Text) : WordExpr :=
  if spaceType = "CYL".toList then .value quantity
  else if spaceType = "TRK".toList then .value quantity
  else if spaceType = "BYTE".toList then .op int32 .div (.value quantity) (.value bytesPerTrack)
  else if spaceType = "KB".toList then
    .op int32 .div (.op int32 .mul (.value quantity) (.value 1024)) (.value bytesPerTrack)
  else if spaceType = "MB".toList then
    .op int32 .div (.op int32 .mul (.value quantity) (.value 1048576)) (.value bytesPerCylinder)
  else .value quantity

/-- The bytes of one unit of a space type; a type that is not known counts for itself. -/
def unitSize (spaceType : Text) : Int :=
  if spaceType = "CYL".toList then bytesPerCylinder
  else if spaceType = "TRK".toList then bytesPerTrack
  else if spaceType = "BYTE".toList then 1
  else if spaceType = "KB".toList then 1024
  else if spaceType = "MB".toList then 1048576
  else 1

/-- The bytes of what a space type is allocated in. -/
def areaSize (spaceType : Text) : Int :=
  if spaceType = "CYL".toList then bytesPerCylinder
  else if spaceType = "TRK".toList then bytesPerTrack
  else if spaceType = "BYTE".toList then bytesPerTrack
  else if spaceType = "KB".toList then bytesPerTrack
  else if spaceType = "MB".toList then bytesPerCylinder
  else 1

/-- A quotient of a number of the type by a positive one is of the type. -/
theorem wrap_tdiv {n d : Int} (hd : 0 < d) : int32.wrap ((int32.wrap n).tdiv d) =
    (int32.wrap n).tdiv d := by
  apply WordType.wrap_of_holds
  have hlow : -2147483648 ≤ n.bmod 4294967296 := Int.le_bmod (by decide)
  have hhigh : n.bmod 4294967296 < 2147483648 := Int.bmod_lt (by decide)
  change int32.Holds ((n.bmod 4294967296).tdiv d)
  generalize n.bmod 4294967296 = m at hlow hhigh ⊢
  rw [holds_int32_iff]
  rcases Int.le_total 0 m with hm | hm
  · have := Int.tdiv_nonneg hm hd.le
    have := Int.tdiv_le_self d hm
    omega
  · have hneg : m.tdiv d = -(-m).tdiv d := by rw [Int.neg_tdiv, Int.neg_neg]
    have := Int.tdiv_nonneg (a := -m) (by omega) hd.le
    have := Int.tdiv_le_self (a := -m) d (by omega)
    omega

/-- The expression is what `getDSSizeValueFromType` computes of an `int`. -/
theorem eval_sizeExpr {quantity : Int} (spaceType : Text) (h : int32.Holds quantity) :
    (sizeExpr quantity spaceType).eval = getDSSizeValueFromType quantity spaceType := by
  unfold sizeExpr getDSSizeValueFromType
  split
  · rfl
  split
  · rfl
  split
  · change int32.wrap (quantity.tdiv bytesPerTrack) = _
    rw [← WordType.wrap_of_holds h]
    exact wrap_tdiv (by decide)
  split
  · exact wrap_tdiv (by decide)
  split
  · exact wrap_tdiv (by decide)
  · rfl

/-- What the expression means is the number of whole areas. -/
theorem exact_sizeExpr {quantity : Int} (spaceType : Text) (h : 0 ≤ quantity) :
    (sizeExpr quantity spaceType).exact = quantity * unitSize spaceType / areaSize spaceType := by
  unfold sizeExpr unitSize areaSize
  split
  · exact (Int.mul_ediv_cancel quantity (by decide)).symm
  split
  · exact (Int.mul_ediv_cancel quantity (by decide)).symm
  split
  · rw [Int.mul_one]
    exact Int.tdiv_eq_ediv_of_nonneg h
  split
  · exact Int.tdiv_eq_ediv_of_nonneg (a := quantity * 1024) (by omega)
  split
  · exact Int.tdiv_eq_ediv_of_nonneg (a := quantity * 1048576) (by omega)
  · rw [Int.mul_one, Int.ediv_one]
    rfl

/-- The quantities whose bytes an `int` holds. -/
def WithinInt (quantity : Int) (spaceType : Text) : Prop :=
  (spaceType = "KB".toList → quantity < 2097152) ∧ (spaceType = "MB".toList → quantity < 2048)

/-- A quantity that is scaled and then divided fits if the product does. -/
theorem fits_scaled_iff {quantity scale area : Int} (hquantity : 0 ≤ quantity) (hscale : 0 ≤ scale)
    (harea : 0 < area) :
    (WordExpr.op int32 .div (.op int32 .mul (.value quantity) (.value scale)) (.value area)).Fits ↔
      quantity * scale < 2147483648 := by
  have hnonneg : 0 ≤ quantity * scale := Int.mul_nonneg hquantity hscale
  constructor
  · intro h
    exact (holds_int32_iff.mp h.1.2.2.1).2
  · intro hlt
    have hmul : int32.Holds (quantity * scale) := holds_int32_iff.mpr ⟨by omega, hlt⟩
    apply (WordExpr.fits_div_iff (a := .op int32 .mul (.value quantity) (.value scale))
      (b := .value area) hnonneg harea.le hmul).mpr
    exact ⟨(WordExpr.fits_of_not_div (by decide)).mpr ⟨trivial, trivial, hmul⟩, trivial, harea.ne'⟩

/-- **What is computed on the way fits exactly if the bytes do.** -/
theorem fits_sizeExpr_iff {quantity : Int} (spaceType : Text) (hquantity : 0 ≤ quantity)
    (hmax : quantity ≤ 0xFFFFFF) :
    (sizeExpr quantity spaceType).Fits ↔ WithinInt quantity spaceType := by
  have hvalue : int32.Holds quantity := holds_int32_iff.mpr (by omega)
  have hother (hKB : spaceType ≠ "KB".toList) (hMB : spaceType ≠ "MB".toList) :
      WithinInt quantity spaceType := ⟨fun h => absurd h hKB, fun h => absurd h hMB⟩
  unfold sizeExpr
  split
  next heq => exact iff_of_true trivial (hother (by rw [heq]; decide) (by rw [heq]; decide))
  split
  next heq => exact iff_of_true trivial (hother (by rw [heq]; decide) (by rw [heq]; decide))
  split
  next heq =>
    refine iff_of_true ?_ (hother (by rw [heq]; decide) (by rw [heq]; decide))
    apply (WordExpr.fits_div_iff (a := .value quantity) hquantity (by decide) hvalue).mpr
    exact ⟨trivial, trivial, by decide⟩
  split
  next heq =>
    rw [fits_scaled_iff hquantity (by decide) (by decide), WithinInt, heq]
    constructor
    · intro h
      exact ⟨fun _ => by omega, fun h => absurd h (by decide)⟩
    · intro ⟨h, _⟩
      have := h rfl
      omega
  split
  next heq =>
    rw [fits_scaled_iff hquantity (by decide) (by decide), WithinInt, heq]
    constructor
    · intro h
      exact ⟨fun h => absurd h (by decide), fun _ => by omega⟩
    · intro ⟨_, h⟩
      have := h rfl
      omega
  next hKB hMB => exact iff_of_true trivial (hother hKB hMB)

/-- A quantity of a space type is converted as it should be: in `int` arithmetic that does not
overflow, to the number of whole areas, in order, and to what 24 bits hold. -/
structure ConvertsExactly (quantity : Int) (spaceType : Text) : Prop where
  fits : (sizeExpr quantity spaceType).Fits
  exact : getDSSizeValueFromType quantity spaceType =
    quantity * unitSize spaceType / areaSize spaceType
  monotone : ∀ less, 0 ≤ less → less ≤ quantity →
    getDSSizeValueFromType less spaceType ≤ getDSSizeValueFromType quantity spaceType
  int24 : 0 ≤ getDSSizeValueFromType quantity spaceType ∧
    getDSSizeValueFromType quantity spaceType ≤ 0xFFFFFF

theorem WithinInt.mono {quantity less : Int} {spaceType : Text} (h : WithinInt quantity spaceType)
    (hless : less ≤ quantity) : WithinInt less spaceType :=
  ⟨fun hKB => hless.trans_lt (h.1 hKB), fun hMB => hless.trans_lt (h.2 hMB)⟩

/-- A quantity whose bytes an `int` holds is converted to the number of whole areas. -/
theorem WithinInt.converts {quantity : Int} {spaceType : Text} (h : WithinInt quantity spaceType)
    (hquantity : 0 ≤ quantity) (hmax : quantity ≤ 0xFFFFFF) :
    getDSSizeValueFromType quantity spaceType =
      quantity * unitSize spaceType / areaSize spaceType := by
  rw [← eval_sizeExpr spaceType (holds_int32_iff.mpr (by omega)),
    WordExpr.eval_eq_exact ((fits_sizeExpr_iff spaceType hquantity hmax).mpr h),
    exact_sizeExpr spaceType hquantity]

theorem areaSize_pos (spaceType : Text) : 0 < areaSize spaceType := by
  unfold areaSize
  repeat' split
  all_goals decide

theorem unitSize_nonneg (spaceType : Text) : 0 ≤ unitSize spaceType := by
  unfold unitSize
  repeat' split
  all_goals decide

theorem unitSize_le_two_mul (spaceType : Text) : unitSize spaceType ≤ 2 * areaSize spaceType := by
  unfold unitSize areaSize
  repeat' split
  all_goals decide

/-- Only a megabyte is more than what it is allocated in. -/
theorem unitSize_le {spaceType : Text} (hMB : spaceType ≠ "MB".toList) :
    unitSize spaceType ≤ areaSize spaceType := by
  unfold unitSize areaSize
  repeat' split
  next => exact le_rfl
  next => exact le_rfl
  next => decide
  next => decide
  next => exact le_rfl

/-- **Quantities are converted as they should be exactly if an `int` holds their bytes.** -/
theorem convertsExactly_iff (spaceType : Text) (quantity : Int) (hquantity : 0 ≤ quantity)
    (hmax : quantity ≤ 0xFFFFFF) :
    ConvertsExactly quantity spaceType ↔ WithinInt quantity spaceType := by
  constructor
  · intro h
    exact (fits_sizeExpr_iff spaceType hquantity hmax).mp h.fits
  · intro h
    have harea := areaSize_pos spaceType
    have hunit := unitSize_nonneg spaceType
    have hvalue := h.converts hquantity hmax
    refine ⟨(fits_sizeExpr_iff spaceType hquantity hmax).mpr h, hvalue, ?_, ?_, ?_⟩
    · intro less hless hle
      rw [hvalue, (h.mono hle).converts hless (hle.trans hmax)]
      exact Int.ediv_le_ediv harea (Int.mul_le_mul_of_nonneg_right hle hunit)
    · rw [hvalue]
      exact Int.ediv_nonneg (Int.mul_nonneg hquantity hunit) harea.le
    · rw [hvalue]
      by_cases hMB : spaceType = "MB".toList
      · have hsmall := h.2 hMB
        calc quantity * unitSize spaceType / areaSize spaceType
            ≤ (quantity * 2) * areaSize spaceType / areaSize spaceType := by
              apply Int.ediv_le_ediv harea
              rw [Int.mul_assoc]
              exact Int.mul_le_mul_of_nonneg_left (unitSize_le_two_mul spaceType) hquantity
          _ = quantity * 2 := Int.mul_ediv_cancel _ harea.ne'
          _ ≤ 0xFFFFFF := by omega
      · calc quantity * unitSize spaceType / areaSize spaceType
            ≤ quantity * areaSize spaceType / areaSize spaceType := by
              apply Int.ediv_le_ediv harea
              exact Int.mul_le_mul_of_nonneg_left (unitSize_le hMB) hquantity
          _ = quantity := Int.mul_ediv_cancel _ harea.ne'
          _ ≤ 0xFFFFFF := hmax

/-- A megabyte is more than a cylinder. -/
theorem convertsExactly_iff_megabyte : ConvertsExactly 1 "MB".toList ↔ WithinInt 1 "MB".toList :=
  convertsExactly_iff "MB".toList 1 (by decide) (by decide)

/-- From two million kilobytes on the product is negative. -/
theorem kilobytes_not_converted :
    getDSSizeValueFromType 2097152 "KB".toList = -37898 ∧
      ¬ ConvertsExactly 2097152 "KB".toList := by
  refine ⟨by decide, ?_⟩
  intro h
  exact absurd h.int24.1 (by decide)

/-! ## Figures of a DSCB -/

/-- A byte that is shifted to the left. -/
def shifted (byte : UInt8) (n : Nat) : WordExpr :=
  .op int32 .shiftLeft (.value byte.toNat) (.value n)

namespace Dscb

variable (dscb : Dscb)

/-- The shifts of the fields of two and three bytes. -/
def fieldShifts : List WordExpr :=
  [shifted (dscb.at 86) 8, shifted (dscb.at 80) 8, shifted (dscb.at 95) 16, shifted (dscb.at 96) 8,
    shifted (dscb.at 90) 12, shifted (dscb.at 91) 8, shifted (dscb.at 88) 8]

/-- The shifts of a cylinder number, from the position of its four bytes. -/
def cylinderShifts (offset : Nat) : List WordExpr :=
  [shifted (dscb.at (offset + 2)) 24, shifted (dscb.at (offset + 3) &&& 0xf0) 16,
    shifted (dscb.at offset) 8]

def lowtrk : UInt32 := (dscb.at 110 &&& 0x0f).toUInt32

def hightrk : UInt32 := (dscb.at 114 &&& 0x0f).toUInt32

def diffcylExpr : WordExpr :=
  .op uint32 .sub (.value (dscb.cylinder 111).toNat) (.value (dscb.cylinder 107).toNat)

def difftrkExpr : WordExpr :=
  .op uint32 .add (.op uint32 .sub (.value dscb.hightrk.toNat) (.value dscb.lowtrk.toNat)) (.value 1)

/-- The size of the first extent. -/
def primarySizeExpr : WordExpr :=
  .op uint32 .add (.op uint32 .mul dscb.diffcylExpr (.value bytesPerCylinder))
    (.op uint32 .mul dscb.difftrkExpr (.value bytesPerTrack))

/-- The secondary quantity. -/
def secndExpr : WordExpr :=
  let type := dscb.spaceType
  if dscb.scxtv ≠ 0 then
    if type.sizeType = .block then
      if 0 < type.primarySizeDiv then
        .op int32 .div
          (.op int32 .mul (.op int32 .mul (.value type.scxtvMult) (.value dscb.scxtv))
            (.value dscb.scal3))
          (.value type.primarySizeDiv)
      else .value 0
    else .op int32 .mul (.value type.scxtvMult) (.value dscb.scxtv)
  else .value dscb.scal3

/-- The primary quantity where it is not that of the first extent. -/
def primeExpr : WordExpr :=
  let type := dscb.spaceType
  let size : WordExpr := .op int32 .mul (.value dscb.scal3) (.value dscb.blockSize)
  if dscb.scxtv ≠ 0 then
    if 0 < type.primarySizeDiv then
      if type.sizeType = .block then .op int32 .div size (.value type.primarySizeDiv)
      else
        .op int32 .div
          (.op int32 .mul size (.op int32 .div (.value bytesPerTrack) (.value dscb.blockSize)))
          (.value type.primarySizeDiv)
    else .value 0
  else .value dscb.scal3

/-- The primary quantity is that of the first extent. -/
def CountsExtent : Prop := dscb.spaceType.sizeType = .cyl ∨ dscb.spaceType.sizeType = .trk

instance : Decidable dscb.CountsExtent := inferInstanceAs (Decidable (_ ∨ _))

/-- What `addDetailsFromDSCB` computes in words of 32 bits. -/
def expressions : List WordExpr :=
  dscb.fieldShifts ++ dscb.cylinderShifts 107 ++ dscb.cylinderShifts 111 ++
    [dscb.primarySizeExpr, dscb.secndExpr] ++ if dscb.CountsExtent then [] else [dscb.primeExpr]

end Dscb

/-! ### What is computed -/

theorem toNat_sub_eq (a b : UInt32) : ((a - b).toNat : Int) = uint32.wrap (a.toNat - b.toNat) := by
  have ha := a.toNat_lt
  have hb := b.toNat_lt
  change ((a - b).toNat : Int) = ((a.toNat : Int) - b.toNat) % 4294967296
  rw [UInt32.toNat_sub]
  omega

theorem toNat_add_eq (a b : UInt32) : ((a + b).toNat : Int) = uint32.wrap (a.toNat + b.toNat) := by
  change ((a + b).toNat : Int) = ((a.toNat : Int) + b.toNat) % 4294967296
  rw [UInt32.toNat_add]
  omega

theorem toNat_mul_eq (a b : UInt32) : ((a * b).toNat : Int) = uint32.wrap (a.toNat * b.toNat) := by
  change ((a * b).toNat : Int) = ((a.toNat : Int) * b.toNat) % 4294967296
  rw [UInt32.toNat_mul]
  push_cast
  rfl

/-- The size of the first extent is what its expression computes. -/
theorem eval_primarySizeExpr (dscb : Dscb) :
    dscb.primarySizeExpr.eval = dscb.primarySizeBytes := by
  symm
  simp only [Dscb.primarySizeBytes, toNat_add_eq, toNat_mul_eq, toNat_sub_eq]
  rfl

/-! ### What is meant -/

namespace Dscb

variable (dscb : Dscb)

/-- The cylinder of an extent limit: its low 16 bits stand in the first halfword, its high 12 bits
before the track. -/
def trueCylinder (offset : Nat) : Nat :=
  ((dscb.at (offset + 2)).toNat * 256 + (dscb.at (offset + 3)).toNat) / 16 * 65536 +
    ((dscb.at offset).toNat * 256 + (dscb.at (offset + 1)).toNat)

def tracksPerCylinder : Int := 15

/-- The tracks of the first extent. -/
def extentTracks : Int :=
  ((dscb.trueCylinder 111 : Int) - dscb.trueCylinder 107) * tracksPerCylinder +
    ((dscb.hightrk.toNat : Int) - dscb.lowtrk.toNat) + 1

/-- The cylinders that the tracks of the first extent make. -/
def extentCylinders : Int := dscb.extentTracks / tracksPerCylinder

end Dscb

/-- Two fields of a number, the lower one of which fits below the other. -/
theorem mul_two_pow_or {a b n : Nat} (h : b < 2 ^ n) : a * 2 ^ n ||| b = a * 2 ^ n + b := by
  rw [Nat.mul_comm, ← Nat.two_pow_add_eq_or_of_lt h]

theorem and_highNibble : ∀ n < 256, n &&& 240 = n / 16 * 16 := by decide +kernel

theorem toNat_shiftLeft_toUInt32 (b : UInt8) {n : Nat} (h : n ≤ 24) :
    (b.toUInt32 <<< UInt32.ofNat n).toNat = b.toNat * 2 ^ n := by
  have hb := b.toNat_lt
  have hpow : 2 ^ n ≤ 2 ^ 24 := Nat.pow_le_pow_right (by decide) h
  have hle : b.toNat * 2 ^ n ≤ 255 * 2 ^ 24 := Nat.mul_le_mul (by omega) hpow
  rw [UInt32.toNat_shiftLeft, UInt8.toNat_toUInt32, Nat.shiftLeft_eq,
    UInt32.toNat_ofNat_of_lt' (by rw [UInt32.size]; omega), Nat.mod_eq_of_lt (a := n) (by omega)]
  exact Nat.mod_eq_of_lt (by omega)

/-- Four fields of a number, one after the other. -/
theorem or_fields {byte nibble high low : Nat} (hnibble : nibble < 256) (hhigh : high < 256)
    (hlow : low < 256) :
    byte * 2 ^ 24 ||| nibble / 16 * 16 * 2 ^ 16 ||| high * 2 ^ 8 ||| low =
      (byte * 256 + nibble) / 16 * 1048576 + (high * 256 + low) := by
  have hsum : ((byte * 2 ^ 8 + nibble / 16 * 16) * 2 ^ 8 + high) * 2 ^ 8 + low =
      (byte * 256 + nibble) / 16 * 1048576 + (high * 256 + low) := by
    simp only [Nat.reducePow]
    omega
  have hsecond : byte * 2 ^ 24 + nibble / 16 * 16 * 2 ^ 16 =
      (byte * 2 ^ 8 + nibble / 16 * 16) * 2 ^ 16 := by ring
  have hthird : (byte * 2 ^ 8 + nibble / 16 * 16) * 2 ^ 16 + high * 2 ^ 8 =
      ((byte * 2 ^ 8 + nibble / 16 * 16) * 2 ^ 8 + high) * 2 ^ 8 := by ring
  calc byte * 2 ^ 24 ||| nibble / 16 * 16 * 2 ^ 16 ||| high * 2 ^ 8 ||| low
      = (byte * 2 ^ 8 + nibble / 16 * 16) * 2 ^ 16 ||| high * 2 ^ 8 ||| low := by
        rw [mul_two_pow_or (by omega), hsecond]
    _ = ((byte * 2 ^ 8 + nibble / 16 * 16) * 2 ^ 8 + high) * 2 ^ 8 ||| low := by
        rw [mul_two_pow_or (b := high * 2 ^ 8) (by omega), hthird]
    _ = ((byte * 2 ^ 8 + nibble / 16 * 16) * 2 ^ 8 + high) * 2 ^ 8 + low := by
        rw [mul_two_pow_or (by omega)]
    _ = (byte * 256 + nibble) / 16 * 1048576 + (high * 256 + low) := hsum

/-- The cylinder number that the code puts together: the high bits are four places too far. -/
theorem toNat_cylinder (dscb : Dscb) (offset : Nat) : (dscb.cylinder offset).toNat =
    ((dscb.at (offset + 2)).toNat * 256 + (dscb.at (offset + 3)).toNat) / 16 * 1048576 +
      ((dscb.at offset).toNat * 256 + (dscb.at (offset + 1)).toNat) := by
  have hnibble := (dscb.at (offset + 3)).toNat_lt
  have hmask : (dscb.at (offset + 3) &&& 0xf0).toNat = (dscb.at (offset + 3)).toNat / 16 * 16 := by
    rw [UInt8.toNat_and]
    exact and_highNibble _ hnibble
  rw [Dscb.cylinder, UInt32.toNat_or, UInt32.toNat_or, UInt32.toNat_or,
    show (24 : UInt32) = UInt32.ofNat 24 from rfl, show (16 : UInt32) = UInt32.ofNat 16 from rfl,
    show (8 : UInt32) = UInt32.ofNat 8 from rfl, toNat_shiftLeft_toUInt32 _ (by decide),
    toNat_shiftLeft_toUInt32 _ (by decide), toNat_shiftLeft_toUInt32 _ (by decide), hmask,
    UInt8.toNat_toUInt32]
  exact or_fields hnibble (dscb.at offset).toNat_lt (dscb.at (offset + 1)).toNat_lt

/-- The cylinder number is right exactly if its high bits are zero. -/
theorem cylinder_right_iff (dscb : Dscb) (offset : Nat) :
    (dscb.cylinder offset).toNat = dscb.trueCylinder offset ↔ dscb.trueCylinder offset < 65536 := by
  have hlow := (dscb.at (offset + 1)).toNat_lt
  have hhigh := (dscb.at offset).toNat_lt
  rw [toNat_cylinder, Dscb.trueCylinder]
  omega

/-! ### What fits -/

/-- A shift of a byte by less than three of them fits. -/
theorem fits_shifted (byte : UInt8) {n : Nat} (h : n ≤ 16) : (shifted byte n).Fits := by
  have hbyte := byte.toNat_lt
  have hpow : (2 : Int) ^ n ≤ 2 ^ 16 := pow_le_pow_right₀ (by decide) h
  have hpos : (0 : Int) < 2 ^ n := pow_pos (by decide) n
  apply (WordExpr.fits_of_not_div (by decide)).mpr
  refine ⟨trivial, trivial, holds_int32_iff.mpr ?_⟩
  change -2147483648 ≤ (byte.toNat : Int) * 2 ^ n ∧ (byte.toNat : Int) * 2 ^ n < 2147483648
  constructor
  · have := Int.mul_nonneg (Int.natCast_nonneg byte.toNat) hpos.le
    omega
  · have := Int.mul_le_mul (by omega : (byte.toNat : Int) ≤ 255) hpow hpos.le (by decide)
    omega

/-- The highest byte of a cylinder number must leave the sign alone. -/
theorem fits_highShift (byte : UInt8) : (shifted byte 24).Fits ↔ byte.toNat < 128 := by
  rw [shifted, WordExpr.fits_of_not_div (by decide)]
  simp only [WordExpr.fits_value, true_and, WordExpr.exact_value, WordOp.apply, holds_int32_iff]
  rw [show ((2 : Int) ^ (Int.toNat ((24 : Nat) : Int))) = 16777216 from rfl]
  omega

theorem fits_cylinderShifts (dscb : Dscb) {offset : Nat}
    (h : dscb.trueCylinder offset < 65536) : ∀ e ∈ dscb.cylinderShifts offset, e.Fits := by
  intro e he
  simp only [Dscb.cylinderShifts, List.mem_cons, List.not_mem_nil, or_false] at he
  rcases he with rfl | rfl | rfl
  · rw [fits_highShift]
    rw [Dscb.trueCylinder] at h
    omega
  · exact fits_shifted _ (by decide)
  · exact fits_shifted _ (by decide)

theorem fits_fieldShifts (dscb : Dscb) : ∀ e ∈ dscb.fieldShifts, e.Fits := by
  intro e he
  simp only [Dscb.fieldShifts, List.mem_cons, List.not_mem_nil, or_false] at he
  rcases he with rfl | rfl | rfl | rfl | rfl | rfl | rfl
  all_goals exact fits_shifted _ (by decide)

/-- The sizes of the extent's cylinders and tracks fit if the differences are not negative and their
sum does. -/
theorem fits_primarySizeExpr_iff (dscb : Dscb) : dscb.primarySizeExpr.Fits ↔
    (dscb.cylinder 107).toNat ≤ (dscb.cylinder 111).toNat ∧
      dscb.lowtrk.toNat ≤ dscb.hightrk.toNat ∧
      ((dscb.cylinder 111).toNat - (dscb.cylinder 107).toNat : Int) * 849960 +
        (dscb.hightrk.toNat - dscb.lowtrk.toNat + 1 : Int) * 56664 < 4294967296 := by
  have hlow := dscb.lowtrk.toNat_lt
  have hhigh := dscb.hightrk.toNat_lt
  have hlowcyl := (dscb.cylinder 107).toNat_lt
  have hhighcyl := (dscb.cylinder 111).toNat_lt
  rw [Dscb.primarySizeExpr, Dscb.diffcylExpr, Dscb.difftrkExpr]
  simp only [WordExpr.fits_of_not_div (show WordOp.add ≠ .div by decide),
    WordExpr.fits_of_not_div (show WordOp.sub ≠ .div by decide),
    WordExpr.fits_of_not_div (show WordOp.mul ≠ .div by decide), WordExpr.fits_value, true_and,
    WordExpr.exact_op, WordExpr.exact_value, WordOp.apply, holds_uint32_iff,
    show ((bytesPerCylinder : Nat) : Int) = 849960 from rfl,
    show ((bytesPerTrack : Nat) : Int) = 56664 from rfl]
  omega

theorem fits_mul_iff (a b : Nat) :
    (WordExpr.op int32 .mul (.value a) (.value b)).Fits ↔ a * b < 2147483648 := by
  rw [WordExpr.fits_of_not_div (by decide)]
  simp only [WordExpr.fits_value, true_and, WordExpr.exact_value, WordOp.apply, holds_int32_iff]
  norm_cast
  omega

/-- A product of three factors fits if the first two fit, and all three do. -/
theorem fits_product_iff {e : WordExpr} (a b c : Nat) (he : e.Fits) (hexact : e.exact = c) :
    (WordExpr.op int32 .mul (.op int32 .mul (.value a) (.value b)) e).Fits ↔
      a * b < 2147483648 ∧ a * b * c < 2147483648 := by
  rw [WordExpr.fits_of_not_div (by decide), fits_mul_iff]
  simp only [WordExpr.exact_op, WordExpr.exact_value, WordOp.apply, holds_int32_iff, hexact, he,
    true_and]
  norm_cast
  omega

/-- A quotient by a number that is not zero fits where what is divided does. -/
theorem fits_quotient_iff {e : WordExpr} {n d : Nat} (hexact : e.exact = n)
    (hholds : e.Fits → int32.Holds e.exact) (hd : d ≠ 0) :
    (WordExpr.op int32 .div e (.value d)).Fits ↔ e.Fits := by
  constructor
  · intro h
    exact h.1
  · intro h
    have hnonneg : 0 ≤ e.exact := hexact ▸ Int.natCast_nonneg n
    apply (WordExpr.fits_div_iff (b := .value d) hnonneg (Int.natCast_nonneg d) (hholds h)).mpr
    exact ⟨h, trivial, Int.natCast_ne_zero.mpr hd⟩

/-- What an operation that fits comes to is of its type. -/
theorem holds_exact_of_fits {o : WordOp} {a b : WordExpr} (h : (WordExpr.op int32 o a b).Fits) :
    int32.Holds (WordExpr.op int32 o a b).exact := by
  rw [WordExpr.fits_op_iff] at h
  exact h.2.2.1

/-- Where a product is divided by a number that is not zero, the product has to fit. -/
theorem fits_product_div_iff {o : WordOp} {a b : WordExpr} {n d : Nat}
    (hexact : (WordExpr.op int32 o a b).exact = n) (hd : d ≠ 0) :
    (WordExpr.op int32 .div (.op int32 o a b) (.value d)).Fits ↔ (WordExpr.op int32 o a b).Fits :=
  fits_quotient_iff hexact holds_exact_of_fits hd

namespace Dscb

variable (dscb : Dscb)

/-- The products of the secondary quantity are those of an `int`. -/
def SecondaryWithinInt : Prop :=
  dscb.scxtv ≠ 0 →
    if dscb.spaceType.sizeType = .block then dscb.blockSize ≠ 0 → dscb.scxtv * dscb.scal3 < 2147483648
    else dscb.spaceType.scxtvMult * dscb.scxtv < 2147483648

/-- The products of the primary quantity are those of an `int`, and there are blocks to divide
by. -/
def PrimaryWithinInt : Prop :=
  dscb.scxtv ≠ 0 →
    if dscb.spaceType.sizeType = .block then dscb.scal3 * dscb.blockSize < 2147483648
    else dscb.blockSize ≠ 0 ∧ dscb.scal3 * dscb.blockSize < 2147483648 ∧
      dscb.scal3 * dscb.blockSize * (bytesPerTrack / dscb.blockSize) < 2147483648

end Dscb

theorem scxtv_lt (dscb : Dscb) : dscb.scxtv < 65536 := by
  have hhigh := (dscb.at 80).toNat_lt
  have hlow := (dscb.at 81).toNat_lt
  rw [Dscb.scxtv]
  omega

/-- Quantities in blocks are divided by the size of a block, others by a size that is not zero. -/
def SpaceType.DividesBy (type : SpaceType) (blockSize : Nat) : Prop :=
  if type.sizeType = .block then type.primarySizeDiv = blockSize ∧ type.scxtvMult = 1
  else 0 < type.primarySizeDiv

theorem spaceType_dividesBy (dscb : Dscb) : dscb.spaceType.DividesBy dscb.blockSize := by
  rw [Dscb.spaceType]
  dsimp only
  split
  · exact Nat.one_pos
  split
  · split
    · split
      · exact (by decide : 0 < 1048576)
      split
      · exact (by decide : 0 < 1024)
      split
      · exact Nat.one_pos
      · exact Nat.one_pos
    · exact Nat.one_pos
  split
  · exact ⟨rfl, rfl⟩
  · exact Nat.one_pos

theorem block_div {dscb : Dscb} (h : dscb.spaceType.sizeType = .block) :
    dscb.spaceType.primarySizeDiv = dscb.blockSize ∧ dscb.spaceType.scxtvMult = 1 := by
  have hdiv := spaceType_dividesBy dscb
  rwa [SpaceType.DividesBy, if_pos h] at hdiv

theorem primarySizeDiv_pos {dscb : Dscb} (h : dscb.spaceType.sizeType ≠ .block) :
    0 < dscb.spaceType.primarySizeDiv := by
  have hdiv := spaceType_dividesBy dscb
  rwa [SpaceType.DividesBy, if_neg h] at hdiv

theorem fits_secndExpr_iff (dscb : Dscb) : dscb.secndExpr.Fits ↔ dscb.SecondaryWithinInt := by
  unfold Dscb.secndExpr Dscb.SecondaryWithinInt
  dsimp only
  by_cases hscxtv : dscb.scxtv = 0
  · rw [if_neg (not_not.mpr hscxtv)]
    exact iff_of_true trivial fun hne => absurd hscxtv hne
  · rw [if_pos hscxtv]
    by_cases hblock : dscb.spaceType.sizeType = .block
    · rw [if_pos hblock, if_pos hblock, (block_div hblock).1, (block_div hblock).2]
      by_cases hdiv : dscb.blockSize = 0
      · rw [if_neg (by omega)]
        exact iff_of_true trivial fun _ hne => absurd hdiv hne
      · rw [if_pos (by omega), fits_product_div_iff (n := 1 * dscb.scxtv * dscb.scal3) (by
          simp only [WordExpr.exact_op, WordExpr.exact_value, WordOp.apply]
          push_cast
          rfl) hdiv, fits_product_iff (e := .value dscb.scal3) _ _ _ trivial rfl]
        have hlt := scxtv_lt dscb
        constructor
        · intro ⟨_, h⟩ _ _
          rwa [Nat.one_mul] at h
        · intro h
          rw [Nat.one_mul]
          exact ⟨by omega, h hscxtv hdiv⟩
    · rw [if_neg hblock, if_neg hblock, fits_mul_iff]
      constructor
      · intro h _
        exact h
      · intro h
        exact h hscxtv

theorem fits_primeExpr_iff (dscb : Dscb) : dscb.primeExpr.Fits ↔ dscb.PrimaryWithinInt := by
  unfold Dscb.primeExpr Dscb.PrimaryWithinInt
  dsimp only
  by_cases hscxtv : dscb.scxtv = 0
  · rw [if_neg (not_not.mpr hscxtv)]
    exact iff_of_true trivial fun hne => absurd hscxtv hne
  · rw [if_pos hscxtv]
    by_cases hblock : dscb.spaceType.sizeType = .block
    · rw [if_pos hblock, if_pos hblock, (block_div hblock).1]
      by_cases hdiv : dscb.blockSize = 0
      · rw [if_neg (by omega), hdiv]
        exact iff_of_true trivial fun _ => by omega
      · rw [if_pos (by omega), fits_product_div_iff (n := dscb.scal3 * dscb.blockSize) (by
          simp only [WordExpr.exact_op, WordExpr.exact_value, WordOp.apply]
          push_cast
          rfl) hdiv, fits_mul_iff]
        constructor
        · intro h _
          exact h
        · intro h
          exact h hscxtv
    · have hpos := primarySizeDiv_pos hblock
      rw [if_neg hblock, if_neg hblock, if_pos hpos]
      by_cases hdiv : dscb.blockSize = 0
      · -- the blocks on a track are a quotient by zero
        apply iff_of_false
        · intro h
          exact h.1.2.1.2.2.2 rfl (by rw [hdiv]; rfl)
        · intro h
          exact (h hscxtv).1 hdiv
      · have hblocks : (WordExpr.op int32 .div (.value bytesPerTrack) (.value dscb.blockSize)).Fits := by
          apply (WordExpr.fits_div_iff (a := .value bytesPerTrack) (b := .value dscb.blockSize)
            (Int.natCast_nonneg _) (Int.natCast_nonneg _) (by decide)).mpr
          exact ⟨trivial, trivial, Int.natCast_ne_zero.mpr hdiv⟩
        have hexact : (WordExpr.op int32 .div (.value bytesPerTrack)
            (.value dscb.blockSize)).exact = (bytesPerTrack / dscb.blockSize : Nat) :=
          Int.ofNat_tdiv _ _
        rw [fits_product_div_iff
          (n := dscb.scal3 * dscb.blockSize * (bytesPerTrack / dscb.blockSize)) (by
          rw [WordExpr.exact_op, hexact]
          simp only [WordExpr.exact_op, WordExpr.exact_value, WordOp.apply]
          push_cast
          rfl) hpos.ne', fits_product_iff _ _ _ hblocks hexact]
        constructor
        · intro h _
          exact ⟨hdiv, h⟩
        · intro h
          exact (h hscxtv).2

/-! ### The figures of the first extent -/

/-- The figures of a DSCB are what they should be: nothing overflows or is divided by zero on the
way, and the cylinders and the primary quantity are those of the extent. -/
structure FiguresExact (dscb : Dscb) : Prop where
  fits : ∀ e ∈ dscb.expressions, e.Fits
  lowcyl : (dscb.cylinder 107).toNat = dscb.trueCylinder 107
  highcyl : (dscb.cylinder 111).toNat = dscb.trueCylinder 111
  tracks : dscb.spaceType.sizeType = .trk → dscb.prime = dscb.extentTracks
  cylinders : dscb.spaceType.sizeType = .cyl → dscb.prime = dscb.extentCylinders

/-- A DSCB whose figures words of 32 bits can hold: its first extent lies below cylinder 65536, does
not end before it begins, by cylinder or by track, and has less than four gigabytes. -/
structure FiguresWithinWords (dscb : Dscb) : Prop where
  lowcyl : dscb.trueCylinder 107 < 65536
  highcyl : dscb.trueCylinder 111 < 65536
  cylinders : dscb.trueCylinder 107 ≤ dscb.trueCylinder 111
  tracks : dscb.lowtrk.toNat ≤ dscb.hightrk.toNat
  extent : dscb.extentTracks ≤ 75797
  secondary : dscb.SecondaryWithinInt
  primary : ¬ dscb.CountsExtent → dscb.PrimaryWithinInt

theorem fits_expressions_iff (dscb : Dscb) : (∀ e ∈ dscb.expressions, e.Fits) ↔
    (∀ e ∈ dscb.cylinderShifts 107, e.Fits) ∧ (∀ e ∈ dscb.cylinderShifts 111, e.Fits) ∧
      dscb.primarySizeExpr.Fits ∧ dscb.secndExpr.Fits ∧
        (¬ dscb.CountsExtent → dscb.primeExpr.Fits) := by
  simp only [Dscb.expressions, List.forall_mem_append, List.forall_mem_cons, List.not_mem_nil,
    IsEmpty.forall_iff, implies_true, and_true]
  have hlast : (∀ e ∈ if dscb.CountsExtent then [] else [dscb.primeExpr], e.Fits) ↔
      (¬ dscb.CountsExtent → dscb.primeExpr.Fits) := by
    split
    next h => exact iff_of_true (fun _ he => nomatch he) fun hne => absurd h hne
    next h => rw [List.forall_mem_singleton, imp_iff_right h]
  rw [hlast]
  constructor
  · intro ⟨⟨⟨⟨_, hlow⟩, hhigh⟩, hsize, hsecnd⟩, hprime⟩
    exact ⟨hlow, hhigh, hsize, hsecnd, hprime⟩
  · intro ⟨hlow, hhigh, hsize, hsecnd, hprime⟩
    exact ⟨⟨⟨⟨fits_fieldShifts dscb, hlow⟩, hhigh⟩, hsize, hsecnd⟩, hprime⟩

/-- The size of an extent that fits is that of its tracks. -/
theorem FiguresWithinWords.primarySize {dscb : Dscb} (h : FiguresWithinWords dscb) :
    dscb.primarySizeExpr.Fits ∧ (dscb.primarySizeBytes : Int) = dscb.extentTracks * bytesPerTrack := by
  have hlow := (cylinder_right_iff dscb 107).mpr h.lowcyl
  have hhigh := (cylinder_right_iff dscb 111).mpr h.highcyl
  have hcylinders := h.cylinders
  have htracks := h.tracks
  have hextent := h.extent
  rw [Dscb.extentTracks, Dscb.tracksPerCylinder] at hextent
  have hfits : dscb.primarySizeExpr.Fits := by
    rw [fits_primarySizeExpr_iff, hlow, hhigh]
    exact ⟨hcylinders, htracks, by omega⟩
  refine ⟨hfits, ?_⟩
  rw [← eval_primarySizeExpr, WordExpr.eval_eq_exact hfits, Dscb.primarySizeExpr, Dscb.diffcylExpr,
    Dscb.difftrkExpr, Dscb.extentTracks, Dscb.tracksPerCylinder]
  simp only [WordExpr.exact_op, WordExpr.exact_value, WordOp.apply, hlow, hhigh,
    show ((bytesPerCylinder : Nat) : Int) = 849960 from rfl,
    show ((bytesPerTrack : Nat) : Int) = 56664 from rfl]
  ring

/-- **The figures are what they should be exactly if words of 32 bits can hold them.** -/
theorem figuresExact_iff (dscb : Dscb) : FiguresExact dscb ↔ FiguresWithinWords dscb := by
  constructor
  · intro h
    obtain ⟨-, -, hsize, hsecnd, hprime⟩ := (fits_expressions_iff dscb).mp h.fits
    have hlow := h.lowcyl
    have hhigh := h.highcyl
    rw [fits_primarySizeExpr_iff, hlow, hhigh] at hsize
    obtain ⟨hcylinders, htracks, hextent⟩ := hsize
    refine ⟨(cylinder_right_iff dscb 107).mp hlow, (cylinder_right_iff dscb 111).mp hhigh,
      hcylinders, htracks, ?_, (fits_secndExpr_iff dscb).mp hsecnd,
      fun hcounts => (fits_primeExpr_iff dscb).mp (hprime hcounts)⟩
    rw [Dscb.extentTracks, Dscb.tracksPerCylinder]
    omega
  · intro h
    obtain ⟨hfits, hsize⟩ := h.primarySize
    have hpos : (0 : Int) < bytesPerTrack := by decide
    refine ⟨(fits_expressions_iff dscb).mpr ⟨fits_cylinderShifts dscb h.lowcyl,
        fits_cylinderShifts dscb h.highcyl, hfits, (fits_secndExpr_iff dscb).mpr h.secondary,
        fun hcounts => (fits_primeExpr_iff dscb).mpr (h.primary hcounts)⟩,
      (cylinder_right_iff dscb 107).mpr h.lowcyl, (cylinder_right_iff dscb 111).mpr h.highcyl, ?_, ?_⟩
    · intro htrk
      rw [Dscb.prime, if_neg (by rw [htrk]; decide), if_pos htrk, hsize]
      exact Int.mul_ediv_cancel _ hpos.ne'
    · intro hcyl
      rw [Dscb.prime, if_pos hcyl, hsize, Dscb.extentCylinders, Dscb.tracksPerCylinder,
        show ((bytesPerCylinder : Nat) : Int) = 15 * bytesPerTrack from rfl]
      exact Int.mul_ediv_mul_of_pos_left _ _ hpos

/-- A DSCB with an extent of one track on cylinder 65536, counted in tracks. -/
def extendedDscb : Dscb :=
  ⟨List.replicate 50 0 ++ [0x80] ++ List.replicate 12 0 ++ [0, 0, 0, 0x10, 0, 0, 0, 0x10] ++
    List.replicate 25 0⟩

theorem extendedDscb_not_exact : extendedDscb.bytes.length = 96 ∧
    extendedDscb.spaceType.sizeType = .trk ∧ (extendedDscb.cylinder 107).toNat = 1048576 ∧
    extendedDscb.trueCylinder 107 = 65536 ∧ ¬ FiguresExact extendedDscb := by
  refine ⟨by decide, by decide, by decide, by decide, ?_⟩
  intro h
  exact absurd h.lowcyl (by decide)

end Zss.Datasets
