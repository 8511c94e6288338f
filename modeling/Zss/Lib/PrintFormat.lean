import Mathlib.Algebra.Order.Ring.Int

/-!
# Printed formats

Formats of text and directives, as `sprintf` reads them: `%d` and `%s` with a width and a precision,
`%X` with leading zeros. `printed` is the text that a format comes to with its arguments, if they
agree; `printedLength` computes its length from the lengths of the arguments alone
(`length_printed`), so that a buffer is compared with a sum and not with a text.
-/

namespace Zss.Lib

inductive Conversion where
  | decimal
  | hexadecimal
  | string

structure Directive where
  zeros : Bool
  width : Nat
  precision : Option Nat
  conversion : Conversion

inductive FormatPiece where
  | literal (text : List Char)
  | directive (d : Directive)

inductive PrintArg where
  | number (n : Int)
  | string (text : List Char)

/-! ## Reading a format -/

namespace Directive

/-- What stands behind the percent sign at first. -/
def start : Directive := ⟨false, 0, none, .decimal⟩

/-- One digit more. A zero in front of the width asks for leading zeros. -/
def digit (d : Directive) (n : Nat) : Directive :=
  match d.precision with
  | some p => { d with precision := some (10 * p + n) }
  | none =>
    if n = 0 ∧ d.width = 0 then { d with zeros := true } else { d with width := 10 * d.width + n }

end Directive

/-- A character in front of what follows. -/
def consLiteral (c : Char) : List FormatPiece → List FormatPiece
  | .literal text :: pieces => .literal (c :: text) :: pieces
  | pieces => .literal [c] :: pieces

/-- The pieces of a format, from within a directive or from outside of one. Leading zeros are read for
hexadecimal numbers only. -/
def parseFormat : Option Directive → List Char → Option (List FormatPiece)
  | none, [] => some []
  | some _, [] => none
  | none, c :: rest =>
    if c = '%' then parseFormat (some .start) rest else (parseFormat none rest).map (consLiteral c)
  | some d, c :: rest =>
    if c = 'd' ∧ d.zeros = false then
      (parseFormat none rest).map (.directive { d with conversion := .decimal } :: ·)
    else if c = 's' ∧ d.zeros = false then
      (parseFormat none rest).map (.directive { d with conversion := .string } :: ·)
    else if c = 'X' then
      (parseFormat none rest).map (.directive { d with conversion := .hexadecimal } :: ·)
    else if c = '.' then parseFormat (some { d with precision := some 0 }) rest
    else if c.isDigit then parseFormat (some (d.digit (c.toNat - '0'.toNat))) rest
    else none

/-! ## Printing -/

/-- A number in decimal digits. -/
def decimalDigits (n : Int) : List Char :=
  (if n < 0 then ['-'] else []) ++ Nat.toDigits 10 n.natAbs

/-- A number of 32 bits in hexadecimal digits. -/
def hexDigits (n : Int) : List Char :=
  (Nat.toDigits 16 (n % 2 ^ 32).toNat).map Char.toUpper

/-- A text filled up on the left. -/
def Directive.pad (d : Directive) (text : List Char) : List Char :=
  List.replicate (d.width - text.length) (if d.zeros then '0' else ' ') ++ text

/-- A text cut to the precision. -/
def Directive.cut (d : Directive) (text : List Char) : List Char :=
  match d.precision with
  | some p => text.take p
  | none => text

def Directive.print (d : Directive) : PrintArg → Option (List Char)
  | .number n =>
    match d.conversion with
    | .decimal => some (d.pad (decimalDigits n))
    | .hexadecimal => some (d.pad (hexDigits n))
    | .string => none
  | .string text =>
    match d.conversion with
    | .string => some (d.pad (d.cut text))
    | _ => none

/-- What pieces come to with their arguments. -/
def printPieces : List FormatPiece → List PrintArg → Option (List Char)
  | [], _ => some []
  | .literal text :: pieces, args => (printPieces pieces args).map (text ++ ·)
  | .directive _ :: _, [] => none
  | .directive d :: pieces, arg :: args =>
    (d.print arg).bind fun text => (printPieces pieces args).map (text ++ ·)

/-- The text that a format comes to with its arguments. -/
def printed (format : String) (args : List PrintArg) : Option (List Char) :=
  (parseFormat none format.toList).bind fun pieces => printPieces pieces args

/-! ## Lengths -/

/-- The length that an argument is printed in. -/
def Directive.printLength (d : Directive) : PrintArg → Option Nat
  | .number n =>
    match d.conversion with
    | .decimal => some (max d.width (decimalDigits n).length)
    | .hexadecimal => some (max d.width (hexDigits n).length)
    | .string => none
  | .string text =>
    match d.conversion, d.precision with
    | .string, some p => some (max d.width (min p text.length))
    | .string, none => some (max d.width text.length)
    | _, _ => none

/-- The length of what pieces come to. -/
def piecesLength : List FormatPiece → List PrintArg → Option Nat
  | [], _ => some 0
  | .literal text :: pieces, args => (piecesLength pieces args).map (text.length + ·)
  | .directive _ :: _, [] => none
  | .directive d :: pieces, arg :: args =>
    (d.printLength arg).bind fun n => (piecesLength pieces args).map (n + ·)

/-- The length of the text that a format comes to. -/
def printedLength (format : String) (args : List PrintArg) : Option Nat :=
  (parseFormat none format.toList).bind fun pieces => piecesLength pieces args

theorem length_pad (d : Directive) (text : List Char) :
    (d.pad text).length = max d.width text.length := by
  rw [Directive.pad, List.length_append, List.length_replicate]
  omega

theorem length_print (d : Directive) (arg : PrintArg) :
    (d.print arg).map List.length = d.printLength arg := by
  obtain ⟨zeros, width, precision, conversion⟩ := d
  cases arg with
  | number n => cases conversion <;> simp [Directive.print, Directive.printLength, length_pad]
  | string text =>
    cases conversion with
    | decimal => rfl
    | hexadecimal => rfl
    | string =>
      cases precision <;>
        simp [Directive.print, Directive.printLength, Directive.cut, length_pad]

theorem length_printPieces (pieces : List FormatPiece) (args : List PrintArg) :
    (printPieces pieces args).map List.length = piecesLength pieces args := by
  induction pieces generalizing args with
  | nil => rfl
  | cons piece pieces ih =>
    cases piece with
    | literal text =>
      rw [printPieces, piecesLength, ← ih args]
      cases printPieces pieces args <;> simp
    | directive d =>
      cases args with
      | nil => rfl
      | cons arg args =>
        rw [printPieces, piecesLength, ← ih args, ← length_print d arg]
        cases d.print arg <;> cases printPieces pieces args <;> simp

/-- **The length of what is printed.** -/
theorem length_printed (format : String) (args : List PrintArg) :
    (printed format args).map List.length = printedLength format args := by
  unfold printed printedLength
  cases parseFormat none format.toList with
  | none => rfl
  | some pieces => exact length_printPieces pieces args

/-- The length, once the format is taken apart. -/
theorem printedLength_of_parse {format : String} {pieces : List FormatPiece} {args : List PrintArg}
    {n : Nat} (hparse : parseFormat none format.toList = some pieces)
    (h : piecesLength pieces args = some n) : printedLength format args = some n := by
  rw [printedLength, hparse]
  exact h

/-! ## Numbers -/

theorem length_decimalDigits_pos (n : Int) : 0 < (decimalDigits n).length := by
  rw [decimalDigits, List.length_append]
  exact Nat.lt_of_lt_of_le Nat.length_toDigits_pos (Nat.le_add_left _ _)

/-- A number below a power of ten has no more digits, and a sign. -/
theorem length_decimalDigits_le {n : Int} {k : Nat} (hk : 0 < k) (h : n.natAbs < 10 ^ k) :
    (decimalDigits n).length ≤ k + 1 := by
  have hdigits := (Nat.length_toDigits_le_iff (by decide) hk).mpr h
  rw [decimalDigits, List.length_append]
  split
  next => rw [List.length_singleton]; omega
  next => rw [List.length_nil]; omega

end Zss.Lib
