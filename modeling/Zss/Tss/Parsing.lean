import Mathlib.Data.List.Basic

/-!
# Parsing Top Secret output

`tssparsing.c`: a line of a command's output holds one or two keys, each before its delimiter, and
their values. A line is the list of its characters; a position is an index into it. Lengths are
unsigned and positions signed as in the source, and where it mixes them, a number goes through
`u32` or `i32`.

The three functions of the common library that the parser rests on are an argument (`Utils`), with
what their names and comments promise of them (`Utils.Documented`). A text that ends before a copy
does is copied as far as it goes.
-/

namespace Zss.Tss

abbrev Text := List Char

def nul : Char := Char.ofNat 0

/-- An integer in an unsigned word. -/
def u32 (i : Int) : Nat := (i % 4294967296).toNat

/-- An unsigned word in a signed one. -/
def i32 (n : Nat) : Int := if n < 2147483648 then n else n - 4294967296

/-! ## Constants -/

def tssKeyDelimiter : Text := [' ', '=', ' ']
def tssKeyDelimiterLen : Nat := 3
def tssMaxKeyLength : Nat := 10
def tssFunctionEnd : Text := ['T', 'S', 'S']
def tssMessageIdMaxLen : Nat := 8
def tssCommandSuccess : Text := ['T', 'S', 'S', '0', '3', '0', '0', 'I']
def tssMaxValueLen : Nat := 255

def tssAccessorIdKey : Text := ['A', 'C', 'C', 'E', 'S', 'S', 'O', 'R', 'I', 'D']
def tssNameKey : Text := ['N', 'A', 'M', 'E']
def tssOwnerKey : Text := ['O', 'W', 'N', 'E', 'R', '(']
def tssXauthKey : Text := ['X', 'A', 'U', 'T', 'H']
def tssAcidKey : Text := ['A', 'C', 'I', 'D', '(']
def tssAccessKey : Text := ['A', 'C', 'C', 'E', 'S', 'S']

/-! ## The common library -/

/-- The pattern is at this position of the text. -/
def occursAt (pattern text : Text) (i : Nat) : Bool := (text.drop i).take pattern.length == pattern

/-- Functions of the common library: a position is none where they return -1. -/
structure Utils where
  indexOfString : Text → Text → Option Nat
  lastIndexOfString : Text → Text → Option Nat
  padWithSpaces : Text → Text

/-- What the functions of the common library are documented to do: find the first and the last
occurrence of a pattern, and fill the rest of a buffer that a text ends in with blanks. -/
structure Utils.Documented (utils : Utils) : Prop where
  indexOfString : ∀ text pattern i, pattern ≠ [] →
    (utils.indexOfString text pattern = some i ↔
      occursAt pattern text i = true ∧ ∀ j < i, occursAt pattern text j = false)
  lastIndexOfString : ∀ text pattern i, pattern ≠ [] →
    (utils.lastIndexOfString text pattern = some i ↔
      occursAt pattern text i = true ∧ ∀ j, i < j → occursAt pattern text j = false)
  padWithSpaces : ∀ text n, nul ∉ text →
    utils.padWithSpaces (text ++ List.replicate n nul) = text ++ List.replicate n ' '

/-- The last position up to a bound at which a predicate holds. -/
def lastUpTo (p : Nat → Bool) : Nat → Option Nat
  | 0 => if p 0 then some 0 else none
  | n + 1 => if p (n + 1) then some (n + 1) else lastUpTo p n

/-- Functions that do what is documented. -/
def Utils.plain : Utils where
  indexOfString text pattern := (List.range (text.length + 1)).find? (occursAt pattern text)
  lastIndexOfString text pattern := lastUpTo (occursAt pattern text) text.length
  padWithSpaces text :=
    let value := text.takeWhile (· ≠ nul)
    value ++ List.replicate (text.length - value.length) ' '

/-! ## Lines -/

/-- `tssIsErrorDetected`. -/
def tssIsErrorDetected (str : Text) : Bool :=
  if str.length < tssMessageIdMaxLen then false
  else tssFunctionEnd.isPrefixOf str && !tssCommandSuccess.isPrefixOf str

/-- `tssIsOutputDone`. -/
def tssIsOutputDone (str : Text) : Bool := tssFunctionEnd.isPrefixOf str

/-- `tssIsLineBlank`. -/
def tssIsLineBlank (str : Text) : Bool := str.all (· = ' ')

/-- A blank line does not end the output. -/
theorem tssIsOutputDone_of_blank {line : Text} (h : tssIsLineBlank line = true) :
    tssIsOutputDone line = false := by
  cases line with
  | nil => rfl
  | cons c line =>
    have hc : c = ' ' := by
      simp only [tssIsLineBlank, List.all_cons, Bool.and_eq_true, decide_eq_true_eq] at h
      exact h.1
    rw [hc]
    rfl

/-- `tssGetActualValueLength`; none for -1. -/
def tssGetActualValueLength (str : Text) : Option Nat :=
  match (str.reverse.dropWhile fun c => c = ' ' ∨ c = nul).length with
  | 0 => none
  | n + 1 => some (n + 1)

/-! ## Keys -/

/-- `TSSKeyData`. -/
structure TssKeyData where
  startPos : Nat
  endPos : Nat
  delimPos : Nat
  keyName : Text
  keyLength : Int
deriving DecidableEq

/-- A key of zeros. -/
def TssKeyData.zero : TssKeyData := ⟨0, 0, 0, [], 0⟩

/-- The array of the two keys of a line. -/
structure TssKeys where
  first : TssKeyData
  second : TssKeyData
deriving DecidableEq

def TssKeys.zero : TssKeys := ⟨.zero, .zero⟩

/-- The key at an index, and with `tssGetOtherKeyIndex` the other one. -/
def TssKeys.key (keys : TssKeys) (keyIndex : Nat) : TssKeyData :=
  if keyIndex = 0 then keys.first else keys.second

/-- `tssFindDesiredKey`; none for -1. -/
def tssFindDesiredKey (searchStr : Text) (keys : TssKeys) : Option Nat :=
  if keys.first.keyLength = searchStr.length ∧ keys.first.keyName = searchStr then some 0
  else if keys.second.keyLength = searchStr.length ∧ keys.second.keyName = searchStr then some 1
  else none

/-- `tssFindNumberOfKeys`, from the start of the line. -/
def tssFindNumberOfKeys (str : Text) : Nat :=
  (List.range (str.length + 1 - tssKeyDelimiterLen)).countP (occursAt tssKeyDelimiter str)

/-- `tssFindStartOfKeyReverse`; none for -1. -/
def tssFindStartOfKeyReverse (str : Text) : Nat → Option Nat
  | 0 | 1 => none
  | n + 2 =>
    if str[n + 1]? = some ' ' ∧ str[n]? = some ' ' then some (n + 2)
    else tssFindStartOfKeyReverse str (n + 1)

/-- `tssFindEndOfKeyReverse`; none for -1. -/
def tssFindEndOfKeyReverse (str : Text) : Nat → Option Nat
  | 0 => if str[0]? ≠ some ' ' then some 0 else none
  | n + 1 => if str[n + 1]? ≠ some ' ' then some (n + 1) else tssFindEndOfKeyReverse str n

/-- A key at its positions, with its name; none where it is too long. -/
def makeKey (str : Text) (startPos endPos delimPos : Nat) : Option TssKeyData :=
  let keyLen : Int := (endPos : Int) - startPos + 1
  if keyLen > tssMaxKeyLength then none
  else some ⟨startPos, endPos, delimPos, (str.drop startPos).take keyLen.toNat, keyLen⟩

/-- Where the first key of a line starts; 0, as the array is cleared, where the search of
`tssFindSingleKey` finds nothing. -/
def firstKeyStartPos (str : Text) : Nat :=
  if str.head? ≠ some ' ' then 0 else (str.dropLast.findIdx? (· ≠ ' ')).getD 0

section

variable (utils : Utils)

/-- `tssFindSingleKey`; none for -1. -/
def tssFindSingleKey (str : Text) : Option TssKeyData :=
  match utils.indexOfString str tssKeyDelimiter with
  | none => none
  | some delimPos =>
    match tssFindEndOfKeyReverse str delimPos with
    | none => none
    | some endPos => makeKey str (firstKeyStartPos str) endPos delimPos

/-- `tssFindDoubleKey`; none for -1. -/
def tssFindDoubleKey (str : Text) : Option TssKeys :=
  match tssFindSingleKey utils str with
  | none => none
  | some first =>
    match utils.lastIndexOfString str tssKeyDelimiter with
    | none => none
    | some delimPos =>
      match tssFindEndOfKeyReverse str delimPos with
      | none => none
      | some endPos =>
        match tssFindStartOfKeyReverse str endPos with
        | none => none
        | some startPos => (makeKey str startPos endPos delimPos).map (⟨first, ·⟩)

/-- `tssParseLineForKeys`: the number of keys and the keys; none for -1. -/
def tssParseLineForKeys (str : Text) : Option (Nat × TssKeys) :=
  if tssIsLineBlank str then some (0, .zero)
  else
    match tssFindNumberOfKeys str with
    | 1 => (tssFindSingleKey utils str).map fun key => (1, ⟨key, .zero⟩)
    | 2 => (tssFindDoubleKey utils str).map (2, ·)
    | _ => none

/-! ## Values -/

/-- Where a value ends that nothing follows; the sum is unsigned. -/
def valueEnd (len valStartPos valueBufferSize : Nat) : Int :=
  if u32 (valStartPos + valueBufferSize) ≥ u32 (len - 1) then i32 (u32 (len - 1))
  else i32 (u32 (valStartPos + valueBufferSize - 1))

/-- A value copied into its buffer; none where it is longer. -/
def copyValue (str : Text) (valStartPos : Nat) (valEndPos : Int) (valueBuffer : Text) :
    Option Text :=
  let valLen := u32 (valEndPos - valStartPos + 1)
  if valLen > valueBuffer.length then none
  else
    some (utils.padWithSpaces
      ((str.drop valStartPos).take valLen ++ valueBuffer.drop valLen))

/-- `tssFindValueSingleKey`; the size of the buffer is its length. -/
def tssFindValueSingleKey (str : Text) (len : Nat) (keys : TssKeys) (keyIndex : Nat)
    (valueBuffer : Text) : Option Text :=
  let valStartPos := (keys.key keyIndex).delimPos + tssKeyDelimiterLen
  copyValue utils str valStartPos (valueEnd len valStartPos valueBuffer.length) valueBuffer

/-- `tssFindValueDoubleKey`. -/
def tssFindValueDoubleKey (str : Text) (len : Nat) (keys : TssKeys) (keyIndex : Nat)
    (valueBuffer : Text) : Option Text :=
  let other := keys.key (1 - keyIndex)
  let valStartPos := (keys.key keyIndex).delimPos + tssKeyDelimiterLen
  let valEndPos := valueEnd len valStartPos valueBuffer.length
  let valEndPos :=
    if other.startPos ≤ u32 valEndPos ∧ u32 valEndPos ≤ other.endPos then
      (other.startPos : Int) - 3
    else valEndPos
  copyValue utils str valStartPos valEndPos valueBuffer

/-- `tssFindValueForKey`: the buffer with the value; none for -1. -/
def tssFindValueForKey (str : Text) (len : Nat) (keys : TssKeys) (keyIndex numberOfKeys : Nat)
    (valueBuffer : Text) : Option Text :=
  match numberOfKeys with
  | 1 => tssFindValueSingleKey utils str len keys keyIndex valueBuffer
  | 2 => tssFindValueDoubleKey utils str len keys keyIndex valueBuffer
  | _ => none

end

/-- A buffer of zeros. -/
def zeroBuffer (size : Nat) : Text := List.replicate size nul

/-! ## The output of a command -/

/-- `RadminCommandOutput` without its link: a block of lines. Two bytes of length precede each line,
and the first begins at offset 16. -/
structure RadminCommandOutput where
  lines : List Text
  /-- The length of a line is a halfword. -/
  short : ∀ line ∈ lines, line.length < 65536

def firstLineOffset : Nat := 16

/-- The bytes lines take in a block. -/
def linesSize (lines : List Text) : Nat := (lines.map (·.length + 2)).foldr (· + ·) 0

/-- The offset at which the lines of a block end. -/
def RadminCommandOutput.lastByteOffset (block : RadminCommandOutput) : Nat :=
  firstLineOffset + linesSize block.lines

/-- The lines of all blocks. -/
def outputLines (blocks : List RadminCommandOutput) : List Text := blocks.flatMap (·.lines)

end Zss.Tss
