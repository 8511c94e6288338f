import Zss.Datasets.Copy
import Zss.Datasets.Update
import Zss.Lib.PrintFormat

/-!
# The texts of responses

The messages that the data set services print with `sprintf`, each with the local array that it is
printed into. `ResponseText` has a constructor for each place; `fits_iff` says of which values spliced
in there the array is large enough for the text and its end. Three of the places take values that
nothing bounds, and the text about the codes of a failed allocation is always too long.
-/

namespace Zss.Datasets

open Zss.Lib

/-! ## Printing -/

/-- The number of a return code; that of a failed SVC 99 is the header's. -/
def DynallocRC.number (svc99Failed : Int) : DynallocRC → Int
  | .ok => 0
  | .svc99Failed => svc99Failed
  | .other rc => wrap32 rc

/-- An argument as `sprintf` gets it. -/
def Arg.printArg (svc99Failed : Int) : Arg → PrintArg
  | .int n => .number (wrap32 n)
  | .text t => .string t
  | .bytes b => .string (b.map fun c => Char.ofNat c.toNat)
  | .dynalloc rc => .number (rc.number svc99Failed)

/-- A message, and the length of the array that it is printed into. -/
structure Formatted where
  capacity : Nat
  message : Message

/-- The text of a message. -/
def Message.printed (svc99Failed : Int) (message : Message) : Option Text :=
  Zss.Lib.printed message.format (message.args.map (Arg.printArg svc99Failed))

/-- The array takes the text with its end. -/
def Formatted.Fits (svc99Failed : Int) (formatted : Formatted) : Prop :=
  ∃ text, formatted.message.printed svc99Failed = some text ∧ text.length + 1 ≤ formatted.capacity

/-! ## The places -/

/-- A place where a message is printed, with what is spliced in. -/
inductive ResponseText where
  | dynalloc (da : Dynalloc) (name : DatasetAndMember) (site : Char)
  | tooLong (i : Int) (record : Bytes) (maxRecordLength : Int)
  | notString (i : Int)
  | updated (dsn : Text) (recordsWritten : Int)
  | noDscb (name : Text)
  | doesNotExist (name : DatasetAndMember)
  | vsamDetected
  | notOpened
  | noMember
  | noStorage
  | notDeleted (memberName : Text)
  | memberDeleted (memberName : Text)
  | deleted (dsName : Text)
  | pasted (targetDataset : Text) (recordsWritten : Int)
  | pastedAll (targetDataset : Text)

namespace ResponseText

def message : ResponseText → Message
  | dynalloc da name site => (getDYNALLOCErrorCodeAndMsg da name [site]).2
  | tooLong i record maxRecordLength =>
    ⟨"Record #%d with contents \"%s\" is longer than the max record length of %d",
      [.int i, .bytes record, .int maxRecordLength]⟩
  | notString i => ⟨"Array position %d is not a string, but must be for record updating", [.int i]⟩
  | updated dsn recordsWritten =>
    ⟨"Updated dataset %s with %d records", [.text dsn, .int recordsWritten]⟩
  | noDscb name => ⟨"Type 1 or 8 DSCB for dataset %s not found", [.text name]⟩
  | doesNotExist name =>
    ⟨"Dataset or member does not exist '%44.44s(%8.8s)' (%s)",
      [.text name.dsn, .text name.memberName, .text ['r']]⟩
  | vsamDetected => "VSAM dataset detected. Please use regular dataset route"
  | notOpened => "Data set could not be opened"
  | noMember => "Data set member does not exist"
  | noStorage => "Could not allocate member name"
  | notDeleted memberName => ⟨"Member %8.8s could not be deleted\n", [.text memberName]⟩
  | memberDeleted memberName =>
    ⟨"Data set member %8.8s was deleted successfully", [.text memberName]⟩
  | deleted dsName => ⟨"Data set %s was deleted successfully", [.text dsName]⟩
  | pasted targetDataset recordsWritten => copyMessage targetDataset recordsWritten
  | pastedAll targetDataset => ⟨"Pasted dataset %s", [.text targetDataset]⟩

def capacity : ResponseText → Nat
  | tooLong .. => 1024
  | notString _ => 1024
  | updated .. => 1024
  | pasted .. => 128
  | pastedAll _ => 128
  | _ => 100

def formatted (text : ResponseText) : Formatted := ⟨text.capacity, text.message⟩

/-- What the services see to: the paths that are spliced in are those of accepted names, or made of
one and the name of a member. -/
def Accepted : ResponseText → Prop
  | deleted dsName => dsName.length ≤ 64
  | pasted targetDataset _ => targetDataset.length ≤ 68
  | pastedAll targetDataset => targetDataset.length ≤ 68
  | _ => True

end ResponseText

/-- The codes of a failed allocation are told apart. -/
def Dynalloc.Known (da : Dynalloc) : Prop :=
  da.rc = .svc99Failed ∧ da.sysRC = 4 ∧
    (da.sysRSN = 0x020C0000 ∨ da.sysRSN = 0x02100000 ∨ da.sysRSN = 0x02180000 ∨
      da.sysRSN = 0x023C0000)

/-- The digits of a number of 32 bits, with its sign. -/
def digitsOf (n : Int) : Nat := (decimalDigits (wrap32 n)).length

/-- What is spliced in is short enough. -/
def ResponseText.Short : ResponseText → Prop
  | dynalloc da _ _ => da.Known
  | tooLong i record maxRecordLength =>
    digitsOf i + record.length + digitsOf maxRecordLength ≤ 957
  | updated dsn recordsWritten => dsn.length + digitsOf recordsWritten ≤ 993
  | noDscb name => name.length ≤ 60
  | _ => True

/-! ## Lengths -/

theorem digitsOf_pos (n : Int) : 0 < digitsOf n := length_decimalDigits_pos _

theorem digitsOf_le (n : Int) : digitsOf n ≤ 11 := by
  have hlow : -2147483648 ≤ wrap32 n := Int.le_bmod (by decide)
  have hhigh : wrap32 n < 2147483648 := Int.bmod_lt (by decide)
  refine length_decimalDigits_le (by decide) ?_
  omega

/-- A message fits by its length. -/
theorem fits_iff_of_length {svc99Failed : Int} {capacity n : Nat} {message : Message}
    (h : printedLength message.format (message.args.map (Arg.printArg svc99Failed)) = some n) :
    (Formatted.mk capacity message).Fits svc99Failed ↔ n + 1 ≤ capacity := by
  rw [← length_printed] at h
  obtain ⟨text, htext, hn⟩ := Option.map_eq_some_iff.mp h
  rw [← hn]
  constructor
  · rintro ⟨text', htext', hle⟩
    obtain rfl := Option.some.inj (htext.symm.trans htext')
    exact hle
  · intro hle
    exact ⟨text, htext, hle⟩

/-- The length that a message is printed in. -/
def Message.length (svc99Failed : Int) (message : Message) : Option Nat :=
  printedLength message.format (message.args.map (Arg.printArg svc99Failed))

variable {svc99Failed : Int}

/-- The length, once the format is taken apart. -/
theorem length_of_parse {format : String} {args : List Arg} {pieces : List FormatPiece} {n : Nat}
    (hparse : parseFormat none format.toList = some pieces)
    (h : piecesLength pieces (args.map (Arg.printArg svc99Failed)) = some n) :
    (Message.mk format args).length svc99Failed = some n :=
  printedLength_of_parse hparse h

namespace ResponseText

/-- A place fits by the length of its message. -/
theorem fits_iff_of_message {text : ResponseText} {n : Nat}
    (h : text.message.length svc99Failed = some n) :
    text.formatted.Fits svc99Failed ↔ n + 1 ≤ text.capacity :=
  fits_iff_of_length h

/-- The values of a text about a name. -/
def nameArgs (name : DatasetAndMember) (site : Char) : List Arg :=
  [.text name.dsn, .text name.memberName, .text [site]]

/-- The text about codes that are told apart is one of three. -/
theorem message_known {da : Dynalloc} (h : da.Known) (name : DatasetAndMember) (site : Char) :
    (dynalloc da name site).message = ⟨"Dataset '%44.44s(%8.8s)' busy (%s)", nameArgs name site⟩ ∨
    (dynalloc da name site).message =
      ⟨"Device not available for dataset '%44.44s(%8.8s)' (%s)", nameArgs name site⟩ ∨
    (dynalloc da name site).message =
      ⟨"Catalog not available for dataset '%44.44s(%8.8s)' (%s)", nameArgs name site⟩ := by
  obtain ⟨hrc, hsysRC, hrsn⟩ := h
  simp only [message, getDYNALLOCErrorCodeAndMsg, hrc, hsysRC]
  rcases hrsn with hrsn | hrsn | hrsn | hrsn <;> simp [hrsn, nameArgs]

theorem message_unknown {da : Dynalloc} (h : ¬ da.Known) (name : DatasetAndMember) (site : Char) :
    (dynalloc da name site).message =
      ⟨"DYNALLOC failed with RC = %d, DYN RC = %d, RSN = 0x%08X, dsn='%44.44s(%8.8s)', (%s)",
        [.dynalloc da.rc, .int da.sysRC, .int da.sysRSN] ++ nameArgs name site⟩ := by
  simp only [message, getDYNALLOCErrorCodeAndMsg]
  rw [if_neg fun hbusy => h ⟨hbusy.1, hbusy.2.1, by tauto⟩,
    if_neg fun hdevice => h ⟨hdevice.1, hdevice.2.1, by tauto⟩,
    if_neg fun hcatalog => h ⟨hcatalog.1, hcatalog.2.1, by tauto⟩]
  rfl

theorem length_known (svc99Failed : Int) {da : Dynalloc} (h : da.Known) (name : DatasetAndMember)
    (site : Char) :
    ∃ n ≤ 94, (dynalloc da name site).message.length svc99Failed = some n := by
  rcases message_known h name site with hmessage | hmessage | hmessage
  · refine ⟨9 + (max 44 (min 44 name.dsn.length) + (1 + (max 8 (min 8 name.memberName.length) +
      (9 + (max 0 1 + (1 + 0)))))), by omega, ?_⟩
    rw [hmessage]
    exact length_of_parse rfl rfl
  · refine ⟨34 + (max 44 (min 44 name.dsn.length) + (1 + (max 8 (min 8 name.memberName.length) +
      (4 + (max 0 1 + (1 + 0)))))), by omega, ?_⟩
    rw [hmessage]
    exact length_of_parse rfl rfl
  · refine ⟨35 + (max 44 (min 44 name.dsn.length) + (1 + (max 8 (min 8 name.memberName.length) +
      (4 + (max 0 1 + (1 + 0)))))), by omega, ?_⟩
    rw [hmessage]
    exact length_of_parse rfl rfl

/-- Each number is a digit at least. -/
theorem length_unknown (svc99Failed : Int) {da : Dynalloc} (h : ¬ da.Known)
    (name : DatasetAndMember) (site : Char) :
    ∃ n ≥ 124, (dynalloc da name site).message.length svc99Failed = some n := by
  have hrc := length_decimalDigits_pos (da.rc.number svc99Failed)
  have hsysRC := digitsOf_pos da.sysRC
  refine ⟨26 + (max 0 (decimalDigits (da.rc.number svc99Failed)).length + (11 +
    (max 0 (digitsOf da.sysRC) + (10 + (max 8 (hexDigits (wrap32 da.sysRSN)).length + (7 +
    (max 44 (min 44 name.dsn.length) + (1 + (max 8 (min 8 name.memberName.length) + (5 +
    (max 0 1 + (1 + 0)))))))))))), by omega, ?_⟩
  rw [message_unknown h]
  exact length_of_parse rfl rfl

/-- **Where a message fits.** -/
theorem fits_iff {text : ResponseText} (h : text.Accepted) :
    text.formatted.Fits svc99Failed ↔ text.Short := by
  cases text with
  | dynalloc da name site =>
    by_cases hknown : da.Known
    · obtain ⟨n, hn, hlength⟩ := length_known svc99Failed hknown name site
      exact (fits_iff_of_message hlength).trans (iff_of_true (by change _ ≤ 100; omega) hknown)
    · obtain ⟨n, hn, hlength⟩ := length_unknown svc99Failed hknown name site
      exact (fits_iff_of_message hlength).trans (iff_of_false (by change ¬ _ ≤ 100; omega) hknown)
  | tooLong i record maxRecordLength =>
    have hlength : (tooLong i record maxRecordLength).message.length svc99Failed = some
        (8 + (max 0 (digitsOf i) + (16 + (max 0 (record.map fun c => Char.ofNat c.toNat).length +
          (42 + (max 0 (digitsOf maxRecordLength) + 0)))))) := length_of_parse rfl rfl
    rw [fits_iff_of_message hlength, List.length_map, Short, capacity]
    omega
  | notString i =>
    have hi := digitsOf_le i
    have hlength : (notString i).message.length svc99Failed = some
        (15 + (max 0 (digitsOf i) + (49 + 0))) := length_of_parse rfl rfl
    exact (fits_iff_of_message hlength).trans (iff_of_true (by change _ ≤ 1024; omega) trivial)
  | updated dsn recordsWritten =>
    have hlength : (updated dsn recordsWritten).message.length svc99Failed = some
        (16 + (max 0 dsn.length + (6 + (max 0 (digitsOf recordsWritten) + (8 + 0))))) :=
      length_of_parse rfl rfl
    rw [fits_iff_of_message hlength, Short, capacity]
    omega
  | noDscb name =>
    have hlength : (noDscb name).message.length svc99Failed = some
        (29 + (max 0 name.length + (10 + 0))) := length_of_parse rfl rfl
    refine (fits_iff_of_message hlength).trans ?_
    change _ ≤ 100 ↔ name.length ≤ 60
    omega
  | doesNotExist name =>
    have hlength : (doesNotExist name).message.length svc99Failed = some
        (34 + (max 44 (min 44 name.dsn.length) + (1 + (max 8 (min 8 name.memberName.length) +
          (4 + (max 0 1 + (1 + 0))))))) := length_of_parse rfl rfl
    exact (fits_iff_of_message hlength).trans (iff_of_true (by change _ ≤ 100; omega) trivial)
  | vsamDetected =>
    have hlength : vsamDetected.message.length svc99Failed = some 55 := length_of_parse rfl rfl
    exact (fits_iff_of_message hlength).trans (iff_of_true (by decide) trivial)
  | notOpened =>
    have hlength : notOpened.message.length svc99Failed = some 28 := length_of_parse rfl rfl
    exact (fits_iff_of_message hlength).trans (iff_of_true (by decide) trivial)
  | noMember =>
    have hlength : noMember.message.length svc99Failed = some 30 := length_of_parse rfl rfl
    exact (fits_iff_of_message hlength).trans (iff_of_true (by decide) trivial)
  | noStorage =>
    have hlength : noStorage.message.length svc99Failed = some 30 := length_of_parse rfl rfl
    exact (fits_iff_of_message hlength).trans (iff_of_true (by decide) trivial)
  | notDeleted memberName =>
    have hlength : (notDeleted memberName).message.length svc99Failed = some
        (7 + (max 8 (min 8 memberName.length) + (22 + 0))) := length_of_parse rfl rfl
    exact (fits_iff_of_message hlength).trans (iff_of_true (by change _ ≤ 100; omega) trivial)
  | memberDeleted memberName =>
    have hlength : (memberDeleted memberName).message.length svc99Failed = some
        (16 + (max 8 (min 8 memberName.length) + (25 + 0))) := length_of_parse rfl rfl
    exact (fits_iff_of_message hlength).trans (iff_of_true (by change _ ≤ 100; omega) trivial)
  | deleted dsName =>
    change dsName.length ≤ 64 at h
    have hlength : (deleted dsName).message.length svc99Failed = some
        (9 + (max 0 dsName.length + (25 + 0))) := length_of_parse rfl rfl
    exact (fits_iff_of_message hlength).trans (iff_of_true (by change _ ≤ 100; omega) trivial)
  | pasted targetDataset recordsWritten =>
    change targetDataset.length ≤ 68 at h
    have hrecords := digitsOf_le recordsWritten
    have hlength : (pasted targetDataset recordsWritten).message.length svc99Failed = some
        (15 + (max 0 targetDataset.length + (6 + (max 0 (digitsOf recordsWritten) + (8 + 0))))) :=
      length_of_parse rfl rfl
    exact (fits_iff_of_message hlength).trans (iff_of_true (by change _ ≤ 128; omega) trivial)
  | pastedAll targetDataset =>
    change targetDataset.length ≤ 68 at h
    have hlength : (pastedAll targetDataset).message.length svc99Failed = some
        (15 + (max 0 targetDataset.length + 0)) := length_of_parse rfl rfl
    exact (fits_iff_of_message hlength).trans (iff_of_true (by change _ ≤ 128; omega) trivial)

end ResponseText

end Zss.Datasets
