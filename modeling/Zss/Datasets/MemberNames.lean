import Zss.Datasets.Calls
import Zss.Lib.EscapeCode

/-!
# Names of members as they are printed

A member of a partitioned data set may have any eight bytes for its name. `addMemberedDatasetMetadata`
prints those below the blank as a percent sign and two hexadecimal digits, `decodePercentByte` reads
them. The two are an escape code of `Zss.Lib` over EBCDIC (`percentCode`, `percentName_eq`,
`decodePercentByte_eq`), and agree on the names without a percent sign; the buffer of a name has room
for seven escapes and a byte (`touched_le_iff`).

## What is not established

That a name that is read was printed here: texts of other origin are read by the same rules.
-/

namespace Zss.Datasets

open Zss.Lib

/-! ## Printing -/

/-- `'%'`. -/
def percent : UInt8 := 0x6C

/-- A digit as `%2.2x` prints it. -/
def hexPrinted (n : Nat) : UInt8 := UInt8.ofNat (if n < 10 then 0xF0 + n else 0x81 + (n - 10))

/-- What `percentName` holds before `namePos`, how many of its bytes were written to, and whether an
unprintable byte was met. -/
structure PercentName where
  text : Bytes
  touched : Nat
  containsUnprintable : Bool

/-- The loop over the bytes of a name. The end that `sprintf` writes is one byte behind its text. -/
def percentNameLoop (includeUnprintable : Bool) : Bytes → PercentName → PercentName
  | [], printed => printed
  | c :: rest, printed =>
    if c < 0x40 then
      if !includeUnprintable then { printed with containsUnprintable := true }
      else percentNameLoop includeUnprintable rest
        { text := printed.text ++ [percent, hexPrinted (c.toNat / 16), hexPrinted (c.toNat % 16)]
          touched := max printed.touched (printed.text.length + 4)
          containsUnprintable := true }
    else percentNameLoop includeUnprintable rest
      { printed with
        text := printed.text ++ [c]
        touched := max printed.touched (printed.text.length + 1) }

/-- A name with the end behind it, if it is to be printed. -/
def percentName (includeUnprintable : Bool) (memberName : Bytes) : Option PercentName :=
  let printed := percentNameLoop includeUnprintable memberName ⟨[], 0, false⟩
  if !printed.containsUnprintable || includeUnprintable then
    some { printed with touched := max printed.touched (printed.text.length + 1) }
  else none

/-- `sizeof percentName`. -/
def percentNameSize : Nat := 24

/-! ## Reading -/

/-- What a hexadecimal digit stands for. -/
def digitValue (c : UInt8) : Option Nat :=
  if 0xF0 ≤ c ∧ c ≤ 0xF9 then some (c.toNat - 0xF0)
  else if 0x81 ≤ c ∧ c ≤ 0x86 then some (c.toNat - 0x81 + 10)
  else if 0xC1 ≤ c ∧ c ≤ 0xC6 then some (c.toNat - 0xC1 + 10)
  else none

/-- White space: blank, tab, new line, vertical tab, form feed, carriage return. -/
def isspace (c : UInt8) : Bool := [0x40, 0x05, 0x15, 0x0B, 0x0C, 0x0D].contains c

/-- The number that a text starts with. -/
def hexNumber (n : Nat) : Bytes → Nat
  | [] => n
  | c :: rest =>
    match digitValue c with
    | some d => hexNumber (16 * n + d) rest
    | none => n

/-- `strtol` to the base of 16. A text of two characters has no room for a digit behind `0x`. -/
def strtol16 (t : Bytes) : Int :=
  match t.dropWhile isspace with
  | [] => 0
  | c :: rest =>
    if c = 0x60 then -(hexNumber 0 rest : Int)
    else if c = 0x4E then hexNumber 0 rest
    else hexNumber 0 (c :: rest)

/-- The byte that two characters stand for: `(char)(0xff & strtol(hex, NULL, 16))`. -/
def hexChar (a b : UInt8) : UInt8 := UInt8.ofInt (strtol16 [a, b])

/-- `decodePercentByte`: what is read, or its return code. -/
def decodePercentByte : Bytes → Except Nat Bytes
  | [] => .ok []
  | c :: rest =>
    if c = percent then
      match rest with
      | a :: b :: rest => (decodePercentByte rest).map (hexChar a b :: ·)
      | _ => .error 2
    else (decodePercentByte rest).map (c :: ·)

/-! ## The escape code of the names -/

theorem digitValue_lt {c : UInt8} {d : Nat} (h : digitValue c = some d) : d < 16 := by
  unfold digitValue at h
  split at h
  next hc =>
    have hle : c.toNat ≤ 0xF9 := UInt8.le_iff_toNat_le.mp hc.2
    have hd := Option.some.inj h
    omega
  split at h
  next hc =>
    have hle : c.toNat ≤ 0x86 := UInt8.le_iff_toNat_le.mp hc.2
    have hd := Option.some.inj h
    omega
  split at h
  next hc =>
    have hle : c.toNat ≤ 0xC6 := UInt8.le_iff_toNat_le.mp hc.2
    have hd := Option.some.inj h
    omega
  · cases h

theorem digitValue_hexPrinted : ∀ n < 16, digitValue (hexPrinted n) = some n := by decide

theorem hexChar_hexPrinted {c : UInt8} (h : c < 0x40) :
    hexChar (hexPrinted (c.toNat / 16)) (hexPrinted (c.toNat % 16)) = c := by
  have hall : ∀ n < 64, hexChar (hexPrinted (n / 16)) (hexPrinted (n % 16)) = UInt8.ofNat n := by decide
  rw [hall _ (UInt8.lt_iff_toNat_lt.mp h), UInt8.ofNat_toNat]

/-- Without a digit behind it, a character stands for less than two digits do. -/
theorem strtol16_percent (a : UInt8) : ∃ d < 16, strtol16 [a, percent] = (d : Nat) := by
  have hzero : strtol16 [percent] = (0 : Nat) := by decide
  cases ha : isspace a with
  | true =>
    refine ⟨0, by decide, ?_⟩
    rw [← hzero, strtol16, List.dropWhile_cons_of_pos ha, ← strtol16]
  | false =>
    rw [strtol16, List.dropWhile_cons_of_neg (by simp [ha])]
    dsimp only
    split
    next => exact ⟨0, by decide, by decide⟩
    split
    next => exact ⟨0, by decide, by decide⟩
    next =>
      cases hd : digitValue a with
      | none => exact ⟨0, by decide, by simp [hexNumber, hd]⟩
      | some d =>
        refine ⟨d, digitValue_lt hd, ?_⟩
        have hpercent : digitValue percent = none := by decide
        simp [hexNumber, hd, hpercent]

/-- Only two digits stand for a percent sign. -/
theorem hexChar_eq_percent {a b : UInt8} (h : hexChar a b = percent) :
    a ≠ percent ∧ b ≠ percent := by
  constructor
  · rintro rfl
    have hzero : strtol16 [percent, b] = 0 := by rfl
    rw [hexChar, hzero] at h
    cases h
  · rintro rfl
    obtain ⟨d, hd, heq⟩ := strtol16_percent a
    rw [hexChar, heq] at h
    have hall : ∀ d < 16, UInt8.ofInt (d : Nat) ≠ percent := by decide
    exact hall d hd h

/-- The code that the names are printed in. -/
def percentCode : EscapeCode UInt8 where
  mark := percent
  escaped c := c < 0x40
  high c := hexPrinted (c.toNat / 16)
  low c := hexPrinted (c.toNat % 16)
  value := hexChar
  isDigit c := (digitValue c).isSome
  mark_plain := by decide
  mark_not_digit := by decide
  high_digit c h := by
    have hc : c.toNat < 64 := UInt8.lt_iff_toNat_lt.mp (of_decide_eq_true h)
    rw [digitValue_hexPrinted _ (by omega)]
    rfl
  low_digit c h := by
    rw [digitValue_hexPrinted _ (by omega)]
    rfl
  value_digits c h := hexChar_hexPrinted (of_decide_eq_true h)
  value_mark _ _ := hexChar_eq_percent

theorem decodePercentByte_eq (input : Bytes) :
    (decodePercentByte input).toOption = percentCode.decode input := by
  fun_induction decodePercentByte input with
  | case1 => rfl
  | case2 a b rest ih =>
    change _ = percentCode.decode (percentCode.mark :: a :: b :: rest)
    rw [EscapeCode.decode_mark, ← ih]
    cases decodePercentByte rest <;> rfl
  | case3 rest hshort =>
    exact (EscapeCode.decode_short (EscapeCode.length_lt_two hshort)).symm
  | case4 c rest hc ih =>
    rw [EscapeCode.decode_plain (show c ≠ percentCode.mark from hc), ← ih]
    cases decodePercentByte rest <;> rfl

/-- The loop over a name all of whose bytes are printed. The end behind the last escape is within what
is written to when the end of the name is. -/
theorem percentNameLoop_eq (name : Bytes) (printed : PercentName)
    (h : printed.touched ≤ printed.text.length + 1) :
    (percentNameLoop true name printed).text = printed.text ++ percentCode.encode name ∧
      (percentNameLoop true name printed).touched ≤
        (percentNameLoop true name printed).text.length + 1 := by
  induction name generalizing printed with
  | nil => exact ⟨by simp [percentNameLoop], h⟩
  | cons c name ih =>
    unfold percentNameLoop
    split
    next hc =>
      have hstep := ih
        { text := printed.text ++ [percent, hexPrinted (c.toNat / 16), hexPrinted (c.toNat % 16)]
          touched := max printed.touched (printed.text.length + 4)
          containsUnprintable := true }
        (by simp only [List.length_append, List.length_cons, List.length_nil]; omega)
      rw [EscapeCode.encode_escaped (show percentCode.escaped c = true from decide_eq_true hc)]
      rw [List.append_assoc] at hstep
      exact hstep
    next hc =>
      have hstep := ih
        { printed with
          text := printed.text ++ [c]
          touched := max printed.touched (printed.text.length + 1) }
        (by simp only [List.length_append, List.length_cons, List.length_nil]; omega)
      rw [EscapeCode.encode_plain (show percentCode.escaped c = false from decide_eq_false hc)]
      rw [List.append_assoc] at hstep
      exact hstep

/-- **What is printed of a name**, and how much of the buffer it takes with its end. -/
theorem percentName_eq (name : Bytes) : ∃ printed, percentName true name = some printed ∧
    printed.text = percentCode.encode name ∧ printed.touched = printed.text.length + 1 := by
  obtain ⟨htext, htouched⟩ := percentNameLoop_eq name ⟨[], 0, false⟩ (Nat.zero_le _)
  refine ⟨_, if_pos (Bool.or_true _), htext, ?_⟩
  exact Nat.max_eq_right htouched

/-! ## The names of a data set -/

/-- The name of a member, padded with blanks. -/
structure MemberName where
  bytes : Bytes
  length_eq : bytes.length = 8

theorem MemberName.ext {name name' : MemberName} (h : name.bytes = name'.bytes) : name = name' := by
  cases name
  cases name'
  cases h
  rfl

/-- The buffer is large enough unless all eight bytes are escaped. -/
theorem touched_le_iff (name : MemberName) :
    (percentCode.encode name.bytes).length + 1 ≤ percentNameSize ↔ ∃ c ∈ name.bytes, ¬ c < 0x40 := by
  have hle : name.bytes.countP percentCode.escaped ≤ 8 :=
    Nat.le_trans List.countP_le_length (Nat.le_of_eq name.length_eq)
  rw [EscapeCode.length_encode, name.length_eq, percentNameSize]
  constructor
  · intro h
    by_contra hnone
    have hall : name.bytes.countP percentCode.escaped = name.bytes.length :=
      List.countP_eq_length.mpr fun c hc => by
        by_contra hplain
        exact hnone ⟨c, hc, fun hlt => hplain (decide_eq_true hlt)⟩
    rw [name.length_eq] at hall
    omega
  · rintro ⟨c, hc, hplain⟩
    have hne : name.bytes.countP percentCode.escaped ≠ name.bytes.length := by
      intro heq
      exact hplain (of_decide_eq_true (List.countP_eq_length.mp heq c hc))
    rw [name.length_eq] at hne
    omega

/-- A name is printed within its buffer, read back as it was, and no other name is printed like it. -/
def PrintedFaithfully (name : MemberName) : Prop :=
  ∃ printed, percentName true name.bytes = some printed ∧
    printed.touched ≤ percentNameSize ∧
    decodePercentByte printed.text = .ok name.bytes ∧
    ∀ (other : MemberName) (printed' : PercentName), percentName true other.bytes = some printed' →
      printed'.text = printed.text → other = name

theorem decodePercentByte_eq_ok {input output : Bytes} :
    decodePercentByte input = .ok output ↔ percentCode.decode input = some output := by
  rw [← decodePercentByte_eq]
  cases decodePercentByte input <;> simp [Except.toOption]

/-- **Which names are printed faithfully**: those without a percent sign that have a printable byte. -/
theorem printedFaithfully_iff (name : MemberName) : PrintedFaithfully name ↔
    percent ∉ name.bytes ∧ ∃ c ∈ name.bytes, ¬ c < 0x40 := by
  obtain ⟨printed, hprinted, htext, htouched⟩ := percentName_eq name.bytes
  rw [htext] at htouched
  constructor
  · rintro ⟨_, heq, hfits, hread, _⟩
    obtain rfl := Option.some.inj (hprinted.symm.trans heq)
    rw [htext, decodePercentByte_eq_ok] at hread
    rw [htouched, touched_le_iff] at hfits
    exact ⟨EscapeCode.decode_encode_iff.mp hread, hfits⟩
  · rintro ⟨hpercent, hplain⟩
    refine ⟨printed, hprinted, ?_, ?_, ?_⟩
    · rw [htouched, touched_le_iff]
      exact hplain
    · rw [htext, decodePercentByte_eq_ok]
      exact EscapeCode.decode_encode hpercent
    · intro other printed' hprinted' hsame
      obtain ⟨_, heq, htext', _⟩ := percentName_eq other.bytes
      obtain rfl := Option.some.inj (hprinted'.symm.trans heq)
      rw [htext, htext'] at hsame
      have hlength : other.bytes.length = name.bytes.length :=
        other.length_eq.trans name.length_eq.symm
      exact MemberName.ext (EscapeCode.encode_unique hpercent hlength hsame)

/-- A text is read exactly if two digits stand behind every percent sign in it. -/
def ReadIfWellFormed (input : Bytes) : Prop :=
  (∃ output, decodePercentByte input = .ok output) ↔ percentCode.WellEscaped input

/-- What stands behind the percent signs that the loop comes to is two digits, unless the text is cut
short there. -/
def DigitsRead (input : Bytes) : Prop :=
  ∀ pairs, percentCode.escapes input = some pairs →
    ∀ p ∈ pairs, (digitValue p.1).isSome = true ∧ (digitValue p.2).isSome = true

theorem readIfWellFormed_iff (input : Bytes) : ReadIfWellFormed input ↔ DigitsRead input := by
  have hread : (∃ output, decodePercentByte input = .ok output) ↔
      (percentCode.escapes input).isSome = true := by
    rw [← EscapeCode.isSome_decode, Option.isSome_iff_exists]
    exact exists_congr fun output => decodePercentByte_eq_ok
  rw [ReadIfWellFormed, hread, EscapeCode.wellEscaped_iff, Option.isSome_iff_exists]
  constructor
  · rintro h pairs hpairs
    obtain ⟨pairs', heq, hdigits⟩ := h.mp ⟨pairs, hpairs⟩
    obtain rfl := Option.some.inj (hpairs.symm.trans heq)
    exact hdigits
  · intro h
    exact ⟨fun ⟨pairs, hpairs⟩ => ⟨pairs, hpairs, h pairs hpairs⟩,
      fun ⟨pairs, hpairs, _⟩ => ⟨pairs, hpairs⟩⟩

/-- **Which names are printed faithfully, and which texts are read as they should be.** -/
theorem memberNames_encoded_iff (name : MemberName) (input : Bytes) :
    (PrintedFaithfully name ↔ percent ∉ name.bytes ∧ ∃ c ∈ name.bytes, ¬ c < 0x40) ∧
    (ReadIfWellFormed input ↔ DigitsRead input) :=
  ⟨printedFaithfully_iff name, readIfWellFormed_iff input⟩

/-- Eight bytes below the blank take 25 bytes, `%C1A` is read as `AA`, and `%zz` as a zero. -/
theorem memberNames_not_encoded :
    ¬ PrintedFaithfully ⟨List.replicate 8 0, rfl⟩ ∧
    ¬ PrintedFaithfully ⟨[percent, 0xC3, 0xF1, 0xC1, 0x40, 0x40, 0x40, 0x40], rfl⟩ ∧
    ¬ ReadIfWellFormed [percent, 0xA9, 0xA9] := by
  refine ⟨?_, ?_, ?_⟩
  · rintro ⟨printed, hprinted, hfits, _⟩
    cases hprinted
    exact absurd hfits (by decide)
  · rintro ⟨printed, hprinted, _, hread, _⟩
    cases hprinted
    revert hread
    decide
  · intro h
    obtain ⟨a, b, rest, hbehind, ha, _⟩ := h.mp ⟨[0], by rfl⟩ [] [0xA9, 0xA9] rfl
    simp only [List.cons.injEq] at hbehind
    obtain ⟨rfl, _, _⟩ := hbehind
    revert ha
    decide

end Zss.Datasets
