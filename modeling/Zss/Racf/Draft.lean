import Zss.Racf.ParmList

/-!
# Parm lists in the making

A parm list is read by its counts: `walk` goes from its header through its segments and from the
first field of each through its fields, and has no result where it would leave the buffer. `Draft`
says how far a list is made, and each statement of a constructor takes one draft to the next. What
lies past a draft is still blank, so a flag raised in it has the bits of the blank as well.
-/

namespace Zss.Racf

open Zss.Lib (Byte Image lt_pow_of_lt_byte bytesNumber)
open Zss.Lib.Image (ChangedWithin FilledFrom orBytes)
open Zss.Tss (Text)

/-! ## Reading a list -/

structure FieldValue where
  name : List Byte
  flag : List Byte
  value : List Byte

structure SegmentValue where
  name : List Byte
  flag : List Byte
  fields : List FieldValue

structure ListValue where
  name : List Byte
  flags : List Byte
  segments : List SegmentValue

section

variable (radmin : RadminLayout) (image : Image)

/-- As many fields as a count says, from an offset on, and where they end. -/
def walkFields : Nat → Nat → Option (List FieldValue × Nat)
  | 0, offset => some ([], offset)
  | count + 1, offset => do
    let name ← image.load (offset + radmin.field.name.offset) radmin.field.name.size
    let flag ← image.load (offset + radmin.field.flag.offset) radmin.field.flag.size
    let length ← radmin.field.loadCount offset image
    let value ← image.load (offset + radmin.field.size) length
    let (fields, last) ← walkFields count (offset + radmin.field.size + length)
    some (⟨name, flag, value⟩ :: fields, last)

/-- As many segments as a count says, each with the fields its own count says. -/
def walkSegments : Nat → Nat → Option (List SegmentValue)
  | 0, _ => some []
  | count + 1, offset => do
    let name ← image.load (offset + radmin.segment.name.offset) radmin.segment.name.size
    let flag ← image.load (offset + radmin.segment.flag.offset) radmin.segment.flag.size
    let fieldCount ← radmin.segment.loadCount offset image
    let (fields, last) ← walkFields radmin image fieldCount (offset + radmin.segment.size)
    let segments ← walkSegments count last
    some (⟨name, flag, fields⟩ :: segments)

def walk (header : HeaderLayout) : Option ListValue := do
  let nameLength ← image.loadNumber header.nameLength.offset header.nameLength.size
  let name ← image.load header.name.offset nameLength
  let flags ← image.load header.flags.offset header.flags.size
  let segmentCount ← image.loadNumber header.segmentCount.offset header.segmentCount.size
  let segments ← walkSegments radmin image segmentCount header.size
  some ⟨name, flags, segments⟩

end

variable {radmin : RadminLayout} {image changed : Image}

theorem length_walkSegments {count offset : Nat} {segments : List SegmentValue}
    (h : walkSegments radmin image count offset = some segments) : segments.length = count := by
  induction count generalizing offset segments with
  | zero =>
    cases h
    rfl
  | succ count ih =>
    simp only [walkSegments, bind, Option.bind_eq_some_iff] at h
    obtain ⟨_, -, _, -, _, -, ⟨_, last⟩, -, rest, hrest, h⟩ := h
    cases h
    rw [List.length_cons, ih hrest]

/-! ## Flags over blanks -/

/-- A mask raised in blanks. -/
def RadminLayout.onBlanks (radmin : RadminLayout) (mask : List Byte) : List Byte :=
  orBytes (List.replicate mask.length radmin.blank) mask

/-- A mask that has the bits of the blank in each of its bytes. -/
def RadminLayout.Covers (radmin : RadminLayout) (mask : List Byte) : Prop :=
  ∀ byte ∈ mask, radmin.blank ||| byte = byte

theorem onBlanks_eq_iff (mask : List Byte) : radmin.onBlanks mask = mask ↔ radmin.Covers mask :=
  Image.orBytes_replicate_eq_iff radmin.blank mask

/-! ## Records in place -/

/-- A segment or a field at an offset, without what comes after it. -/
structure EntryAt (entry : EntryLayout) (image : Image) (offset : Nat) (name flag : List Byte)
    (count : Nat) : Prop where
  name : image.load (offset + entry.name.offset) entry.name.size = some name
  flag : image.load (offset + entry.flag.offset) entry.flag.size = some flag
  count : entry.loadCount offset image = some count

/-- The name and the flags of a list. -/
structure HeaderAt (header : HeaderLayout) (image : Image) (text flags : List Byte) : Prop where
  nameLength : image.loadNumber header.nameLength.offset header.nameLength.size = some text.length
  name : image.load header.name.offset text.length = some text
  name_le : text.length ≤ header.name.size
  flags : image.load header.flags.offset header.flags.size = some flags

/-- A field with its data. -/
structure FieldAt (radmin : RadminLayout) (image : Image) (offset : Nat) (field : FieldValue) :
    Prop where
  entry : EntryAt radmin.field image offset field.name field.flag field.value.length
  value : image.load (offset + radmin.field.size) field.value.length = some field.value

/-- Where the fields that begin at an offset end. -/
def fieldsEnd (radmin : RadminLayout) (offset : Nat) (fields : List FieldValue) : Nat :=
  fields.foldl (fun offset field => offset + radmin.field.size + field.value.length) offset

/-- Fields one after the other from an offset on. -/
def FieldsAt (radmin : RadminLayout) (image : Image) : Nat → List FieldValue → Prop
  | _, [] => True
  | offset, field :: fields =>
    FieldAt radmin image offset field ∧
      FieldsAt radmin image (offset + radmin.field.size + field.value.length) fields

theorem fieldsEnd_nil (offset : Nat) : fieldsEnd radmin offset [] = offset := rfl

theorem le_fieldsEnd (offset : Nat) (fields : List FieldValue) :
    offset ≤ fieldsEnd radmin offset fields := by
  induction fields generalizing offset with
  | nil => exact Nat.le_refl _
  | cons field fields ih =>
    have := ih (offset + radmin.field.size + field.value.length)
    show offset ≤ fieldsEnd radmin (offset + radmin.field.size + field.value.length) fields
    omega

theorem fieldsEnd_append (offset : Nat) (fields : List FieldValue) (field : FieldValue) :
    fieldsEnd radmin offset (fields ++ [field]) =
      fieldsEnd radmin offset fields + radmin.field.size + field.value.length := by
  simp [fieldsEnd]

theorem FieldsAt.append {offset : Nat} {fields : List FieldValue} {field : FieldValue}
    (h : FieldsAt radmin image offset fields)
    (hfield : FieldAt radmin image (fieldsEnd radmin offset fields) field) :
    FieldsAt radmin image offset (fields ++ [field]) := by
  induction fields generalizing offset with
  | nil => exact ⟨hfield, trivial⟩
  | cons first fields ih => exact ⟨h.1, ih h.2 hfield⟩

/-! ## What a change leaves in place -/

section

variable {first last : Nat} (hchanged : ChangedWithin image changed first last)

include hchanged

theorem EntryAt.frame {entry : EntryLayout} {offset count : Nat} {name flag : List Byte}
    (h : EntryAt entry image offset name flag count)
    (hapart : offset + entry.size ≤ first ∨ last ≤ offset) :
    EntryAt entry changed offset name flag count := by
  have hname : entry.name.offset + entry.name.size ≤ entry.size := entry.name_inside
  have hflag : entry.flag.offset + entry.flag.size ≤ entry.size := entry.flag_inside
  have hcount : entry.count.offset + entry.count.size ≤ entry.size := entry.count_inside
  constructor
  · rw [hchanged.load_eq (by omega), h.name]
  · rw [hchanged.load_eq (by omega), h.flag]
  · rw [← h.count]
    exact hchanged.loadNumber_eq (by omega)

theorem HeaderAt.frame {header : HeaderLayout} {text flags : List Byte}
    (h : HeaderAt header image text flags) (hapart : header.size ≤ first) :
    HeaderAt header changed text flags := by
  have hlength : header.nameLength.offset + header.nameLength.size ≤ header.size :=
    header.nameLength_inside
  have hname : header.name.offset + header.name.size ≤ header.size := header.name_inside
  have hflags : header.flags.offset + header.flags.size ≤ header.size := header.flags_inside
  have hle := h.name_le
  constructor
  · rw [hchanged.loadNumber_eq (by omega), h.nameLength]
  · rw [hchanged.load_eq (by omega), h.name]
  · exact hle
  · rw [hchanged.load_eq (by omega), h.flags]

theorem FieldAt.frame {offset : Nat} {field : FieldValue} (h : FieldAt radmin image offset field)
    (hapart : offset + radmin.field.size + field.value.length ≤ first ∨ last ≤ offset) :
    FieldAt radmin changed offset field := by
  constructor
  · exact h.entry.frame hchanged (by omega)
  · rw [hchanged.load_eq (by omega), h.value]

theorem FieldsAt.frame {offset : Nat} {fields : List FieldValue}
    (h : FieldsAt radmin image offset fields)
    (hapart : fieldsEnd radmin offset fields ≤ first ∨ last ≤ offset) :
    FieldsAt radmin changed offset fields := by
  induction fields generalizing offset with
  | nil => trivial
  | cons field fields ih =>
    have hle : offset + radmin.field.size + field.value.length ≤
        fieldsEnd radmin offset (field :: fields) :=
      le_fieldsEnd (offset + radmin.field.size + field.value.length) fields
    refine ⟨h.1.frame hchanged (by omega), ih h.2 ?_⟩
    rcases hapart with hapart | hapart
    · exact .inl hapart
    · exact .inr (by omega)

end

/-! ## Statements -/

theorem length_code (text : Text) : (radmin.code text).length = text.length :=
  List.length_map _

theorem copied_eq {source : Text} {count : Nat} (h : count ≤ source.length) :
    radmin.copied source count = some (radmin.code (source.take count)) := if_pos h

theorem storeCount_spec (entry : EntryLayout) (image : Image) (offset : Nat) {count : Nat}
    (hsize : offset + entry.size ≤ image.size) (hcount : count < 256) :
    ∃ stored, entry.storeCount offset count image = some stored ∧
      entry.loadCount offset stored = some count ∧
      ChangedWithin image stored (offset + entry.count.offset)
        (offset + entry.count.offset + entry.count.size) := by
  have hinside : entry.count.offset + entry.count.size ≤ entry.size := entry.count_inside
  exact Image.storeNumber_spec _ _ (by omega) (lt_pow_of_lt_byte entry.count_pos hcount)

/-- The name and the flag of a record that is blank. -/
theorem putEntry_spec (entry : EntryLayout) {offset : Nat} {name : Text}
    (hblank : image.FilledFrom offset radmin.blank) (hsize : offset + entry.size ≤ image.size)
    (hname : name.length = 8) :
    ∃ stored, putEntry radmin entry offset name image = some stored ∧
      stored.load (offset + entry.name.offset) entry.name.size = some (radmin.code name) ∧
      stored.load (offset + entry.flag.offset) entry.flag.size =
        some (radmin.onBlanks entry.flagY) ∧
      ChangedWithin image stored offset (offset + entry.size) := by
  have hnameInside : entry.name.offset + entry.name.size ≤ entry.size := entry.name_inside
  have hflagInside : entry.flag.offset + entry.flag.size ≤ entry.size := entry.flag_inside
  have hnameSize : (radmin.code name).length = entry.name.size := by
    rw [length_code, hname, entry.name_size]
  have hapart : entry.name.offset + entry.name.size ≤ entry.flag.offset ∨
    entry.flag.offset + entry.flag.size ≤ entry.name.offset := entry.name_flag
  obtain ⟨named, hstore, hload, hnamed⟩ :=
    Image.store_spec image (offset + entry.name.offset) (radmin.code name) (by omega)
  rw [hnameSize] at hload hnamed
  have hflag : named.load (offset + entry.flag.offset) entry.flagY.length =
      some (List.replicate entry.flagY.length radmin.blank) := by
    rw [← entry.flag_size, hnamed.load_eq (by omega)]
    exact Image.load_filled (hblank.mono (Nat.le_add_right _ _)) (by omega)
  obtain ⟨flagged, hor, hflagged, hchanged⟩ := Image.orInto_spec hflag
  rw [← entry.flag_size] at hchanged
  refine ⟨flagged, ?_, ?_, ?_, ?_⟩
  · rw [putEntry, hstore]
    exact hor
  · rw [hchanged.load_eq (by omega), hload]
  · rw [entry.flag_size]
    exact hflagged
  · exact (hnamed.mono (by omega) (by omega)).trans (hchanged.mono (by omega) (by omega))

/-- A record with its count. -/
theorem putEntry_storeCount (entry : EntryLayout) (name : Text) {offset count : Nat}
    (hblank : image.FilledFrom offset radmin.blank) (hsize : offset + entry.size ≤ image.size)
    (hname : name.length = 8) (hcount : count < 256) :
    ∃ named stored, putEntry radmin entry offset name image = some named ∧
      entry.storeCount offset count named = some stored ∧
      EntryAt entry stored offset (radmin.code name) (radmin.onBlanks entry.flagY) count ∧
      ChangedWithin image stored offset (offset + entry.size) := by
  have hinside : entry.count.offset + entry.count.size ≤ entry.size := entry.count_inside
  have hnameCount : entry.name.offset + entry.name.size ≤ entry.count.offset ∨
    entry.count.offset + entry.count.size ≤ entry.name.offset := entry.name_count
  have hflagCount : entry.flag.offset + entry.flag.size ≤ entry.count.offset ∨
    entry.count.offset + entry.count.size ≤ entry.flag.offset := entry.flag_count
  obtain ⟨named, hput, hnamed, hflag, hfirst⟩ := putEntry_spec entry hblank hsize hname
  obtain ⟨stored, hstore, hload, hsecond⟩ :=
    storeCount_spec entry named offset (by rw [hfirst.size]; exact hsize) hcount
  refine ⟨named, stored, hput, hstore, ⟨?_, ?_, hload⟩, ?_⟩
  · rw [hsecond.load_eq (by omega), hnamed]
  · rw [hsecond.load_eq (by omega), hflag]
  · exact hfirst.trans (hsecond.mono (by omega) (by omega))

/-- The field with a name and a value as a constructor leaves it. -/
def RadminLayout.blankField (radmin : RadminLayout) (name value : Text) : FieldValue :=
  ⟨radmin.code name, radmin.onBlanks radmin.field.flagY, radmin.code value⟩

theorem putField_spec {offset dataLength : Nat} {name source : Text}
    (hblank : image.FilledFrom offset radmin.blank)
    (hsize : offset + radmin.field.size + dataLength ≤ image.size)
    (hname : name.length = 8) (hsource : dataLength ≤ source.length) (hlength : dataLength < 256) :
    ∃ stored, putField radmin offset name source dataLength image = some stored ∧
      FieldAt radmin stored offset (radmin.blankField name (source.take dataLength)) ∧
      ChangedWithin image stored offset (offset + radmin.field.size + dataLength) := by
  have htake : (radmin.code (source.take dataLength)).length = dataLength := by
    rw [length_code, List.length_take_of_le hsource]
  obtain ⟨named, counted, hput, hcount, hentry, hfirst⟩ :=
    putEntry_storeCount radmin.field name hblank (by omega) hname hlength
  obtain ⟨stored, hstore, hload, hsecond⟩ :=
    Image.store_spec counted (offset + radmin.field.size)
      (radmin.code (source.take dataLength)) (by rw [hfirst.size, htake]; exact hsize)
  rw [htake] at hsecond
  refine ⟨stored, ?_, ⟨?_, hload⟩, ?_⟩
  · rw [putField, hput]
    simp only [bind, Option.bind_some, hcount, hentry.count, copied_eq hsource]
    exact hstore
  · show EntryAt radmin.field stored offset _ _ (radmin.code (source.take dataLength)).length
    rw [htake]
    exact hentry.frame hsecond (.inl (Nat.le_refl _))
  · exact (hfirst.mono (Nat.le_refl _) (by omega)).trans
      (hsecond.mono (by omega) (Nat.le_refl _))

theorem putEmptyField_spec {offset : Nat} {name : Text}
    (hblank : image.FilledFrom offset radmin.blank)
    (hsize : offset + radmin.field.size ≤ image.size) (hname : name.length = 8) :
    ∃ stored, putEmptyField radmin offset name image = some stored ∧
      FieldAt radmin stored offset (radmin.blankField name []) ∧
      ChangedWithin image stored offset (offset + radmin.field.size) := by
  obtain ⟨named, stored, hput, hcount, hentry, hchanged⟩ :=
    putEntry_storeCount radmin.field name hblank hsize hname (by decide : 0 < 256)
  refine ⟨stored, ?_, ⟨hentry, ?_⟩, hchanged⟩
  · rw [putEmptyField, hput]
    exact hcount
  · show stored.load (offset + radmin.field.size) 0 = some []
    unfold Image.load
    rw [if_pos (by rw [hchanged.size]; omega)]
    rfl

/-- The flags of a header as a constructor leaves them. -/
def HeaderLayout.blankFlags (header : HeaderLayout) (radmin : RadminLayout) (isDryRun : Bool) :
    List Byte :=
  let blanks := List.replicate header.flags.size radmin.blank
  if isDryRun then orBytes (orBytes blanks header.norun) header.retcmd else blanks

/-- The flags, raised in blanks on a dry run. -/
theorem flags_spec (header : HeaderLayout) (isDryRun : Bool)
    (hload : image.load header.flags.offset header.flags.size =
      some (List.replicate header.flags.size radmin.blank)) :
    ∃ stored,
      (if isDryRun then do
        let image ← image.orInto header.flags.offset header.norun
        image.orInto header.flags.offset header.retcmd
      else some image) = some stored ∧
      stored.load header.flags.offset header.flags.size =
        some (header.blankFlags radmin isDryRun) ∧
      ChangedWithin image stored header.flags.offset
        (header.flags.offset + header.flags.size) := by
  cases isDryRun with
  | false => exact ⟨image, rfl, hload, .refl _ _ _⟩
  | true =>
    rw [header.norun_size] at hload
    obtain ⟨raised, hraised, hload, hfirst⟩ := Image.orInto_spec hload
    rw [← header.norun_size, header.retcmd_size] at hload
    obtain ⟨stored, hstored, hload, hsecond⟩ := Image.orInto_spec hload
    rw [← header.norun_size] at hfirst
    rw [← header.retcmd_size] at hload hsecond
    refine ⟨stored, ?_, ?_, hfirst.trans hsecond⟩
    · show (image.orInto header.flags.offset header.norun).bind _ = _
      rw [hraised]
      exact hstored
    · rw [hload]
      show _ = some (orBytes (orBytes (List.replicate header.flags.size _) _) _)
      rw [header.norun_size]

/-- A header in a blank buffer. The count of its segments stays blank. -/
theorem putHeader_spec (header : HeaderLayout) (isDryRun : Bool) {source : Text}
    {copySize length : Nat} (hblank : image.FilledFrom 0 radmin.blank)
    (hsize : header.size ≤ image.size) (hsource : copySize ≤ source.length)
    (hcopy : copySize ≤ 8) (hlength : length ≤ copySize) :
    ∃ stored, putHeader radmin header isDryRun source copySize length image = some stored ∧
      HeaderAt header stored (radmin.code (source.take length))
        (header.blankFlags radmin isDryRun) ∧
      stored.load header.segmentCount.offset header.segmentCount.size =
        some (List.replicate header.segmentCount.size radmin.blank) ∧
      ChangedWithin image stored 0 header.size := by
  have hlengthInside : header.nameLength.offset + header.nameLength.size ≤ header.size :=
    header.nameLength_inside
  have hnameInside : header.name.offset + header.name.size ≤ header.size := header.name_inside
  have hflagsInside : header.flags.offset + header.flags.size ≤ header.size := header.flags_inside
  have hcountInside : header.segmentCount.offset + header.segmentCount.size ≤ header.size :=
    header.segmentCount_inside
  have hnameSize := header.name_size
  have hlengthName := header.nameLength_name
  have hlengthFlags := header.nameLength_flags
  have hlengthCount := header.nameLength_segmentCount
  have hnameFlags := header.name_flags
  have hnameCount := header.name_segmentCount
  have hflagsCount := header.flags_segmentCount
  unfold Member.Apart at hlengthName hlengthFlags hlengthCount hnameFlags hnameCount hflagsCount
  have hcopied : (radmin.code (source.take copySize)).length = copySize := by
    rw [length_code, List.length_take_of_le hsource]
  have htaken : (radmin.code (source.take length)).length = length := by
    rw [length_code, List.length_take_of_le (Nat.le_trans hlength hsource)]
  obtain ⟨counted, hcounted, hnumber, hfirst⟩ :=
    Image.storeNumber_spec image header.nameLength.offset (by omega)
       (lt_pow_of_lt_byte header.nameLength_pos (by omega : length < 256))
  obtain ⟨named, hnamed, hname, hsecond⟩ :=
    Image.store_spec counted header.name.offset (radmin.code (source.take copySize))
      (by rw [hfirst.size, hcopied]; omega)
  rw [hcopied] at hname hsecond
  have hflags : named.load header.flags.offset header.flags.size =
      some (List.replicate header.flags.size radmin.blank) := by
    rw [hsecond.load_eq (by omega), hfirst.load_eq (by omega)]
    exact Image.load_filled (hblank.mono (Nat.zero_le _)) (by omega)
  obtain ⟨stored, hstored, hraised, hthird⟩ := flags_spec header isDryRun hflags
  refine ⟨stored, ?_, ⟨?_, ?_, ?_, hraised⟩, ?_, ?_⟩
  · rw [putHeader, hcounted]
    simp only [bind, Option.bind_some, copied_eq hsource, hnamed]
    exact hstored
  · rw [hthird.loadNumber_eq (by omega), hsecond.loadNumber_eq (by omega), hnumber, htaken]
  · rw [htaken, hthird.load_eq (by omega), Image.load_take hname hlength]
    simp only [RadminLayout.code, ← List.map_take, List.take_take, Nat.min_eq_left hlength]
  · rw [htaken]
    omega
  · rw [hthird.load_eq (by omega), hsecond.load_eq (by omega), hfirst.load_eq (by omega)]
    exact Image.load_filled (hblank.mono (Nat.zero_le _)) (by omega)
  · exact ((hfirst.mono (Nat.zero_le _) (by omega)).trans
      (hsecond.mono (Nat.zero_le _) (by omega))).trans (hthird.mono (Nat.zero_le _) (by omega))

/-! ## Drafts -/

/-- A list with its header, its segment with a count, and some of the fields of the segment, which
take at most 319 bytes each. -/
structure Draft (radmin : RadminLayout) (header : HeaderLayout) (text flags : List Byte)
    (fieldCount : Nat) (fields : List FieldValue) (image : Image) : Prop where
  size : image.size = parmListBufferSize
  headed : HeaderAt header image text flags
  segmentCount : image.loadNumber header.segmentCount.offset header.segmentCount.size = some 1
  segment : EntryAt radmin.segment image header.size (radmin.code baseName)
    (radmin.onBlanks radmin.segment.flagY) fieldCount
  placed : FieldsAt radmin image (header.firstField radmin) fields
  rest : image.FilledFrom (fieldsEnd radmin (header.firstField radmin) fields) radmin.blank
  room : fieldsEnd radmin (header.firstField radmin) fields ≤ 128 + 319 * fields.length

variable {header : HeaderLayout} {text flags : List Byte} {fieldCount : Nat}
  {fields : List FieldValue}

theorem putSegment_spec (fieldCount : Nat) (hheader : HeaderAt header image text flags)
    (hblank : image.FilledFrom header.size radmin.blank)
    (hsize : image.size = parmListBufferSize) (hcount : fieldCount < 256) :
    ∃ stored, putSegment radmin header fieldCount image = some stored ∧
      Draft radmin header text flags fieldCount [] stored := by
  have hheaderSize := header.size_le
  have hsegmentSize := radmin.segment.size_le
  have hbuffer : image.size = 2048 := hsize
  have hcountInside : header.segmentCount.offset + header.segmentCount.size ≤ header.size :=
    header.segmentCount_inside
  have hlengthCount := header.nameLength_segmentCount
  have hnameCount := header.name_segmentCount
  have hflagsCount := header.flags_segmentCount
  unfold Member.Apart at hlengthCount hnameCount hflagsCount
  obtain ⟨counted, hcounted, hnumber, hfirst⟩ :=
    Image.storeNumber_spec image header.segmentCount.offset (by omega)
       (lt_pow_of_lt_byte header.segmentCount_pos (by decide : 1 < 256))
  obtain ⟨named, stored, hput, hstored, hentry, hsecond⟩ :=
    putEntry_storeCount radmin.segment baseName
      (hfirst.filledFrom hblank (by omega)) (by rw [hfirst.size]; omega) rfl hcount
  have hheader' : HeaderAt header counted text flags := by
    have hle := hheader.name_le
    constructor
    · rw [hfirst.loadNumber_eq (by omega), hheader.nameLength]
    · rw [hfirst.load_eq (by omega), hheader.name]
    · exact hle
    · rw [hfirst.load_eq (by omega), hheader.flags]
  refine ⟨stored, ?_, ?_, ?_, ?_, hentry, trivial, ?_, ?_⟩
  · rw [putSegment, hcounted]
    simp only [bind, Option.bind_some, hput]
    exact hstored
  · rw [hsecond.size, hfirst.size, hsize]
  · exact hheader'.frame hsecond (Nat.le_refl _)
  · rw [hsecond.loadNumber_eq (by omega), hnumber]
  · exact hsecond.filledFrom
      ((hfirst.filledFrom hblank (by omega)).mono (Nat.le_add_right _ _)) (Nat.le_refl _)
  · show header.size + radmin.segment.size ≤ _
    omega

namespace Draft

variable (h : Draft radmin header text flags fieldCount fields image)

include h

/-- A change past the fields, with one more field in it. -/
theorem addField {field : FieldValue} (hvalue : field.value.length < 256)
    (hchanged : ChangedWithin image changed (fieldsEnd radmin (header.firstField radmin) fields)
      (fieldsEnd radmin (header.firstField radmin) fields + radmin.field.size +
        field.value.length))
    (hfield : FieldAt radmin changed (fieldsEnd radmin (header.firstField radmin) fields) field) :
    Draft radmin header text flags fieldCount (fields ++ [field]) changed := by
  have hle : header.size + radmin.segment.size ≤
      fieldsEnd radmin (header.firstField radmin) fields := le_fieldsEnd _ _
  have hcountInside : header.segmentCount.offset + header.segmentCount.size ≤ header.size :=
    header.segmentCount_inside
  constructor
  · rw [hchanged.size, h.size]
  · exact h.headed.frame hchanged (by omega)
  · rw [hchanged.loadNumber_eq (by omega), h.segmentCount]
  · exact h.segment.frame hchanged (.inl hle)
  · exact (h.placed.frame hchanged (.inl (Nat.le_refl _))).append hfield
  · rw [fieldsEnd_append]
    exact hchanged.filledFrom (h.rest.mono (by omega)) (Nat.le_refl _)
  · have hroom := h.room
    have hfieldSize := radmin.field.size_le
    rw [fieldsEnd_append, List.length_append, List.length_singleton]
    omega

/-- There is room for a fifth field. -/
theorem fits {dataLength : Nat} (hfields : fields.length ≤ 4) (hlength : dataLength < 256) :
    fieldsEnd radmin (header.firstField radmin) fields + radmin.field.size + dataLength ≤
      image.size := by
  have hroom := h.room
  have hfieldSize := radmin.field.size_le
  have hbuffer : image.size = 2048 := h.size
  omega

/-- **A field.** Put where the fields end, it is one more of them. -/
theorem putField (name : Text) {source : Text} {dataLength : Nat} (hfields : fields.length ≤ 4)
    (hname : name.length = 8) (hsource : dataLength ≤ source.length)
    (hlength : dataLength < 256) :
    ∃ stored,
      putField radmin (fieldsEnd radmin (header.firstField radmin) fields) name source dataLength
        image = some stored ∧
      Draft radmin header text flags fieldCount
        (fields ++ [radmin.blankField name (source.take dataLength)]) stored := by
  have htake : (radmin.blankField name (source.take dataLength)).value.length = dataLength := by
    show (radmin.code (source.take dataLength)).length = dataLength
    rw [length_code, List.length_take_of_le hsource]
  obtain ⟨stored, hput, hfield, hchanged⟩ :=
    putField_spec h.rest (h.fits hfields hlength) hname hsource hlength
  refine ⟨stored, hput, h.addField ?_ ?_ hfield⟩
  · rw [htake]
    exact hlength
  · rw [htake]
    exact hchanged

theorem putEmptyField (name : Text) (hfields : fields.length ≤ 4) (hname : name.length = 8) :
    ∃ stored,
      putEmptyField radmin (fieldsEnd radmin (header.firstField radmin) fields) name image =
        some stored ∧
      Draft radmin header text flags fieldCount (fields ++ [radmin.blankField name []])
        stored := by
  obtain ⟨stored, hput, hfield, hchanged⟩ :=
    putEmptyField_spec h.rest (h.fits hfields (by decide : 0 < 256)) hname
  exact ⟨stored, hput, h.addField (by decide : 0 < 256) hchanged hfield⟩

/-- The count of the fields goes up, and nothing else changes. -/
theorem incrementFieldCount (hcount : fieldCount + 1 < 256) :
    ∃ stored, incrementFieldCount radmin header.size image = some stored ∧
      Draft radmin header text flags (fieldCount + 1) fields stored := by
  have hinside : radmin.segment.count.offset + radmin.segment.count.size ≤ radmin.segment.size :=
    radmin.segment.count_inside
  have hnameCount := radmin.segment.name_count
  have hflagCount := radmin.segment.flag_count
  unfold Member.Apart at hnameCount hflagCount
  have hcountInside : header.segmentCount.offset + header.segmentCount.size ≤ header.size :=
    header.segmentCount_inside
  have hle : header.size + radmin.segment.size ≤
      fieldsEnd radmin (header.firstField radmin) fields := le_fieldsEnd _ _
  have hheaderSize := header.size_le
  have hsegmentSize := radmin.segment.size_le
  have hbuffer : image.size = 2048 := h.size
  obtain ⟨stored, hstored, hload, hchanged⟩ :=
    storeCount_spec radmin.segment image header.size (by omega) hcount
  refine ⟨stored, ?_, ?_, ?_, ?_, ⟨?_, ?_, hload⟩, ?_, ?_, h.room⟩
  · rw [Racf.incrementFieldCount, h.segment.count]
    exact hstored
  · rw [hchanged.size, h.size]
  · exact h.headed.frame hchanged (by omega)
  · rw [hchanged.loadNumber_eq (by omega), h.segmentCount]
  · rw [hchanged.load_eq (by omega), h.segment.name]
  · rw [hchanged.load_eq (by omega), h.segment.flag]
  · apply h.placed.frame hchanged
    right
    show _ ≤ header.size + radmin.segment.size
    omega
  · exact hchanged.filledFrom h.rest (by omega)

end Draft

theorem FieldsAt.last {offset : Nat} {field : FieldValue}
    (h : FieldsAt radmin image offset (fields ++ [field])) :
    FieldAt radmin image (fieldsEnd radmin offset fields) field := by
  induction fields generalizing offset with
  | nil => exact h.1
  | cons first fields ih => exact ih h.2

/-- **The next field.** It is where the fields end, and it is counted before it is there. -/
theorem Draft.advance {field : FieldValue}
    (h : Draft radmin header text flags fieldCount (fields ++ [field]) image)
    (hcount : fieldCount + 1 < 256) :
    ∃ stored, Racf.incrementFieldCount radmin header.size image = some stored ∧
      nextField radmin (fieldsEnd radmin (header.firstField radmin) fields) stored =
        some (fieldsEnd radmin (header.firstField radmin) (fields ++ [field])) ∧
      Draft radmin header text flags (fieldCount + 1) (fields ++ [field]) stored := by
  obtain ⟨stored, hstored, hdraft⟩ := h.incrementFieldCount hcount
  refine ⟨stored, hstored, ?_, hdraft⟩
  rw [nextField, hdraft.placed.last.entry.count, fieldsEnd_append]
  rfl

/-! ## Reading a draft -/

theorem walkFields_eq {offset : Nat} (h : FieldsAt radmin image offset fields) :
    walkFields radmin image fields.length offset =
      some (fields, fieldsEnd radmin offset fields) := by
  induction fields generalizing offset with
  | nil => rfl
  | cons field fields ih =>
    rw [List.length_cons, walkFields]
    simp only [bind, Option.bind_some, h.1.entry.name, h.1.entry.flag, h.1.entry.count, h.1.value,
      ih h.2]
    rfl

/-- **Reading.** A draft whose count is that of its fields is read as its header and its
fields. -/
theorem Draft.walk (h : Draft radmin header text flags fields.length fields image) :
    walk radmin image header =
      some ⟨text, flags, [⟨radmin.code baseName, radmin.onBlanks radmin.segment.flagY,
        fields⟩]⟩ := by
  have hfields : walkFields radmin image fields.length (header.size + radmin.segment.size) =
      some (fields, fieldsEnd radmin (header.firstField radmin) fields) := walkFields_eq h.placed
  simp only [Racf.walk, bind, Option.bind_some, h.headed.nameLength, h.headed.name,
    h.headed.flags, h.segmentCount, walkSegments, h.segment.name, h.segment.flag, h.segment.count,
    hfields]

end Zss.Racf
