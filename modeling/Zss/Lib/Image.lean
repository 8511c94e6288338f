import Mathlib.Data.BitVec

/-!
# Byte images

An image is a number of bytes in memory. Loads and stores outside it have no result. Records are
put into an image a member at a time, so what a store leaves alone is stated once, with
`ChangedWithin`, and every load past it follows from that.
-/

namespace Zss.Lib

abbrev Byte := BitVec 8

/-! ## Numbers -/

/-- The low bytes of a number, the first one the most significant. -/
def numberBytes : Nat → Nat → List Byte
  | 0, _ => []
  | width + 1, n => numberBytes width (n / 256) ++ [BitVec.ofNat 8 n]

/-- The number that bytes stand for. -/
def bytesNumber (bytes : List Byte) : Nat := bytes.foldl (fun n byte => 256 * n + byte.toNat) 0

@[simp] theorem length_numberBytes (width n : Nat) : (numberBytes width n).length = width := by
  induction width generalizing n with
  | zero => rfl
  | succ width ih => simp [numberBytes, ih]

theorem bytesNumber_append_singleton (bytes : List Byte) (byte : Byte) :
    bytesNumber (bytes ++ [byte]) = 256 * bytesNumber bytes + byte.toNat := by
  simp [bytesNumber]

/-- A number is read back as far as its width goes. -/
theorem bytesNumber_numberBytes (width n : Nat) :
    bytesNumber (numberBytes width n) = n % 256 ^ width := by
  induction width generalizing n with
  | zero =>
    show 0 = n % 1
    rw [Nat.mod_one]
  | succ width ih =>
    have hpow : 256 ^ (width + 1) = 256 * 256 ^ width := by rw [Nat.pow_succ, Nat.mul_comm]
    rw [numberBytes, bytesNumber_append_singleton, ih, hpow, Nat.mod_mul, BitVec.toNat_ofNat]
    omega

theorem bytesNumber_numberBytes_of_lt {width n : Nat} (h : n < 256 ^ width) :
    bytesNumber (numberBytes width n) = n := by
  rw [bytesNumber_numberBytes, Nat.mod_eq_of_lt h]

/-- A byte fits a number of any width but none. -/
theorem lt_pow_of_lt_byte {width n : Nat} (hwidth : 0 < width) (h : n < 256) :
    n < 256 ^ width := by
  have hle : 256 ^ 1 ≤ 256 ^ width := Nat.pow_le_pow_right (by decide) hwidth
  omega

/-- Bytes that are all the same are no zero, unless the byte is one. -/
theorem bytesNumber_replicate_ne_zero {width : Nat} {byte : Byte} (hwidth : 0 < width)
    (hbyte : byte ≠ 0) : bytesNumber (List.replicate width byte) ≠ 0 := by
  obtain ⟨width, rfl⟩ := Nat.exists_eq_succ_of_ne_zero (Nat.ne_of_gt hwidth)
  rw [List.replicate_succ', bytesNumber_append_singleton]
  have hpos : byte.toNat ≠ 0 := by
    intro h
    exact hbyte (BitVec.eq_of_toNat_eq h)
  omega

/-! ## Images -/

structure Image where
  size : Nat
  byte : Nat → Byte

namespace Image

/-- `memset`. -/
def filled (size : Nat) (byte : Byte) : Image := ⟨size, fun _ => byte⟩

def load (image : Image) (offset count : Nat) : Option (List Byte) :=
  if offset + count ≤ image.size then
    some ((List.range count).map fun i => image.byte (offset + i))
  else none

def store (image : Image) (offset : Nat) (bytes : List Byte) : Option Image :=
  if offset + bytes.length ≤ image.size then
    some { image with byte := fun i =>
      if offset ≤ i then (bytes[i - offset]?).getD (image.byte i) else image.byte i }
  else none

def loadNumber (image : Image) (offset width : Nat) : Option Nat :=
  (image.load offset width).map bytesNumber

def storeNumber (image : Image) (offset width n : Nat) : Option Image :=
  image.store offset (numberBytes width n)

/-- Bytes with a mask `or`ed in. -/
def orBytes (bytes mask : List Byte) : List Byte := List.zipWith (· ||| ·) bytes mask

/-- `|=` of as many bytes as a mask has. -/
def orInto (image : Image) (offset : Nat) (mask : List Byte) : Option Image := do
  let bytes ← image.load offset mask.length
  image.store offset (orBytes bytes mask)

/-- The second image differs from the first between two offsets at most. -/
structure ChangedWithin (image changed : Image) (first last : Nat) : Prop where
  size : changed.size = image.size
  byte : ∀ i, i < first ∨ last ≤ i → changed.byte i = image.byte i

/-- Everything from an offset on is one byte. -/
def FilledFrom (image : Image) (offset : Nat) (byte : Byte) : Prop :=
  ∀ i, offset ≤ i → image.byte i = byte

/-! ## What is left alone -/

namespace ChangedWithin

variable {image changed : Image} {first last offset : Nat}

theorem refl (image : Image) (first last : Nat) : ChangedWithin image image first last :=
  ⟨rfl, fun _ _ => rfl⟩

theorem trans {image next changed : Image} (h : ChangedWithin image next first last)
    (h' : ChangedWithin next changed first last) : ChangedWithin image changed first last := by
  refine ⟨h'.size.trans h.size, ?_⟩
  intro i hi
  rw [h'.byte i hi, h.byte i hi]

theorem mono {first' last' : Nat} (h : ChangedWithin image changed first last)
    (hfirst : first' ≤ first) (hlast : last ≤ last') :
    ChangedWithin image changed first' last' := by
  refine ⟨h.size, ?_⟩
  intro i hi
  apply h.byte
  omega

/-- **Frame.** A load apart from what is changed loads the same. -/
theorem load_eq (h : ChangedWithin image changed first last) {count : Nat}
    (hapart : offset + count ≤ first ∨ last ≤ offset) :
    changed.load offset count = image.load offset count := by
  unfold load
  rw [h.size]
  congr 2
  apply List.map_congr_left
  intro i hi
  rw [List.mem_range] at hi
  apply h.byte
  omega

theorem loadNumber_eq (h : ChangedWithin image changed first last) {width : Nat}
    (hapart : offset + width ≤ first ∨ last ≤ offset) :
    changed.loadNumber offset width = image.loadNumber offset width := by
  unfold loadNumber
  rw [h.load_eq hapart]

theorem filledFrom (h : ChangedWithin image changed first last) {byte : Byte}
    (hfilled : image.FilledFrom offset byte) (hlast : last ≤ offset) :
    changed.FilledFrom offset byte := by
  intro i hi
  rw [h.byte i (.inr (Nat.le_trans hlast hi)), hfilled i hi]

end ChangedWithin

theorem FilledFrom.mono {image : Image} {offset offset' : Nat} {byte : Byte}
    (h : image.FilledFrom offset byte) (hle : offset ≤ offset') : image.FilledFrom offset' byte :=
  fun i hi => h i (Nat.le_trans hle hi)

/-! ## Loads and stores -/

variable {image : Image} {offset : Nat}

theorem length_of_load {count : Nat} {bytes : List Byte}
    (h : image.load offset count = some bytes) : bytes.length = count := by
  unfold load at h
  split at h
  next =>
    cases h
    simp
  next => cases h

theorem load_filled {count : Nat} {byte : Byte} (h : image.FilledFrom offset byte)
    (hsize : offset + count ≤ image.size) :
    image.load offset count = some (List.replicate count byte) := by
  unfold load
  rw [if_pos hsize, Option.some.injEq, List.eq_replicate_iff]
  refine ⟨by simp, ?_⟩
  intro b hb
  obtain ⟨i, -, rfl⟩ := List.mem_map.mp hb
  exact h _ (Nat.le_add_right _ _)

/-- The first bytes of a load. -/
theorem load_take {count shorter : Nat} {bytes : List Byte}
    (h : image.load offset count = some bytes) (hle : shorter ≤ count) :
    image.load offset shorter = some (bytes.take shorter) := by
  unfold load at h ⊢
  split at h
  next hsize =>
    cases h
    rw [if_pos (by omega), ← List.map_take, List.take_range, Nat.min_eq_left hle]
  next => cases h

/-- **A store.** Inside the image it succeeds, its bytes are loaded back, and the others stay. -/
theorem store_spec (image : Image) (offset : Nat) (bytes : List Byte)
    (hsize : offset + bytes.length ≤ image.size) :
    ∃ stored, image.store offset bytes = some stored ∧
      stored.load offset bytes.length = some bytes ∧
      ChangedWithin image stored offset (offset + bytes.length) := by
  refine ⟨_, if_pos hsize, ?_, rfl, ?_⟩
  · unfold load
    rw [if_pos hsize, Option.some.injEq]
    apply List.ext_getElem
    · simp
    · intro i hi hi'
      simp [hi']
  · intro i hi
    show (if offset ≤ i then (bytes[i - offset]?).getD (image.byte i) else image.byte i) = _
    split
    next hle =>
      rw [List.getElem?_eq_none (by omega), Option.getD_none]
    next => rfl

theorem storeNumber_spec (image : Image) (offset : Nat) {width n : Nat}
    (hsize : offset + width ≤ image.size) (hn : n < 256 ^ width) :
    ∃ stored, image.storeNumber offset width n = some stored ∧
      stored.loadNumber offset width = some n ∧
      ChangedWithin image stored offset (offset + width) := by
  obtain ⟨stored, hstored, hload, hchanged⟩ :=
    store_spec image offset (numberBytes width n) (by rw [length_numberBytes]; exact hsize)
  rw [length_numberBytes] at hload hchanged
  refine ⟨stored, hstored, ?_, hchanged⟩
  rw [loadNumber, hload, Option.map_some, bytesNumber_numberBytes_of_lt hn]

theorem length_orBytes {bytes mask : List Byte} (h : bytes.length = mask.length) :
    (orBytes bytes mask).length = mask.length := by
  rw [orBytes, List.length_zipWith, h, Nat.min_self]

theorem orBytes_assoc (bytes mask mask' : List Byte) :
    orBytes (orBytes bytes mask) mask' = orBytes bytes (orBytes mask mask') := by
  induction bytes generalizing mask mask' with
  | nil => simp [orBytes]
  | cons byte bytes ih =>
    cases mask with
    | nil => simp [orBytes]
    | cons m mask =>
      cases mask' with
      | nil => simp [orBytes]
      | cons m' mask' =>
        show (byte ||| m ||| m') :: orBytes (orBytes bytes mask) mask' = _
        rw [ih, BitVec.or_assoc]
        rfl

/-- A mask that is raised stays raised. -/
theorem orBytes_raised (bytes mask mask' : List Byte) :
    orBytes (orBytes (orBytes bytes mask) mask') mask = orBytes (orBytes bytes mask) mask' := by
  induction bytes generalizing mask mask' with
  | nil => rfl
  | cons byte bytes ih =>
    cases mask with
    | nil => rfl
    | cons m mask =>
      cases mask' with
      | nil => rfl
      | cons m' mask' =>
        show (byte ||| m ||| m' ||| m) :: orBytes (orBytes (orBytes bytes mask) mask') mask =
          (byte ||| m ||| m') :: orBytes (orBytes bytes mask) mask'
        have raised : byte ||| m ||| m' ||| m = byte ||| m ||| m' := by
          ext i
          simp only [BitVec.getElem_or]
          cases byte[i] <;> cases m[i] <;> cases m'[i] <;> rfl
        rw [ih, raised]

/-- A mask is what it is over one byte everywhere exactly when its bytes have the byte's bits. -/
theorem orBytes_replicate_eq_iff (byte : Byte) (mask : List Byte) :
    orBytes (List.replicate mask.length byte) mask = mask ↔ ∀ m ∈ mask, byte ||| m = m := by
  induction mask with
  | nil => simp [orBytes]
  | cons m mask ih =>
    show (byte ||| m) :: orBytes (List.replicate mask.length byte) mask = m :: mask ↔ _
    rw [List.cons.injEq, ih, List.forall_mem_cons]

theorem orInto_spec {bytes mask : List Byte}
    (hload : image.load offset mask.length = some bytes) :
    ∃ stored, image.orInto offset mask = some stored ∧
      stored.load offset mask.length = some (orBytes bytes mask) ∧
      ChangedWithin image stored offset (offset + mask.length) := by
  have hlength := length_orBytes (length_of_load hload)
  have hsize : offset + mask.length ≤ image.size := by
    unfold load at hload
    split at hload
    next h => exact h
    next => cases hload
  obtain ⟨stored, hstored, hloaded, hchanged⟩ :=
    store_spec image offset (orBytes bytes mask) (by rw [hlength]; exact hsize)
  rw [hlength] at hloaded hchanged
  refine ⟨stored, ?_, hloaded, hchanged⟩
  rw [orInto, hload]
  exact hstored

end Image

end Zss.Lib
