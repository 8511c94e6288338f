import Mathlib.Data.List.TakeWhile
import Zss.Lib.Records
import Zss.Tss.Admin
import Zss.Tss.StartLine

/-!
# The groups of a system

`groupProfilesHandler` of `secmgmttss.c` reads the groups from the output of
`TSS LIST(ACIDS) TYPE(PROFILE)`: a group begins with the line of its ACID, and a blank line ends it.
A caller that has some of them names the one to start from.

A line of the output is taken with what it says (`GroupLine`); the groups are the records that the
lines tell.

## What is not established

Nothing is said of an output that is not a listing as TSS prints it, nor of a caller that names a
group that is not in it.
-/

namespace Zss.Tss

open Zss.Lib

/-! ## The handler -/

def tssDepartmentKey : Text := ['D', 'E', 'P', 'T', ' ', 'A', 'C', 'I', 'D']

/-- `ZISGroupProfileEntry`. -/
structure ZisGroupProfileEntry where
  group : Text
  superiorGroup : Text
  owner : Text
deriving DecidableEq

def ZisGroupProfileEntry.zero : ZisGroupProfileEntry :=
  ⟨zeroBuffer zisSecurityGroupMaxLength, zeroBuffer zisSecurityGroupMaxLength,
    zeroBuffer zisUserIdMaxLength⟩

/-- The input of `TSSGroupProfileParms`; a null pointer is none. -/
structure TssGroupProfileParms where
  profilesToExtract : Nat
  startGroupProfile : Option Text

/-- The fields that the handler sets in its parms. -/
structure TssGroupProfiles where
  tmpResultBuffer : List ZisGroupProfileEntry
  profilesExtracted : Nat
deriving DecidableEq

/-- What the handler keeps from line to line: the entries stored, and the one it is in. -/
structure GroupProfileWalk where
  buffer : List ZisGroupProfileEntry
  entry : ZisGroupProfileEntry

section

variable (utils : Utils)

/-- The value of a key, where the line has it; none for -1. -/
def readField (line : Text) (keys : TssKeys) (numberOfKeys : Nat) (key buffer : Text) :
    Option Text :=
  match tssFindDesiredKey key keys with
  | none => some buffer
  | some keyIndex => tssFindValueForKey utils line line.length keys keyIndex numberOfKeys buffer

/-- A line of the handler; none for -1. -/
def groupProfileLine (walk : GroupProfileWalk) (line : Text) : Option GroupProfileWalk :=
  match tssParseLineForKeys utils line with
  | none => none
  | some (0, _) => some ⟨walk.buffer ++ [walk.entry], .zero⟩
  | some (n + 1, keys) =>
    match readField utils line keys (n + 1) tssAccessorIdKey walk.entry.group with
    | none => none
    | some group =>
      match readField utils line keys (n + 1) tssDepartmentKey walk.entry.owner with
      | none => none
      | some owner =>
        let superiorGroup :=
          if (tssFindDesiredKey tssDepartmentKey keys).isSome then owner
          else walk.entry.superiorGroup
        some ⟨walk.buffer, ⟨group, superiorGroup, owner⟩⟩

/-- The handler returns at a line with as many entries as are asked for, or with the output done. -/
def stopsGroups (profilesToExtract : Nat) (walk : GroupProfileWalk) (line : Text) : Bool :=
  walk.buffer.length = profilesToExtract ∨ tssIsOutputDone line

/-- The line that the handler starts from: the first one, or that of the group. -/
def groupStart (parms : TssGroupProfileParms) (block : RadminCommandOutput)
    (blocks : List RadminCommandOutput) : Option (Option StartPlace) :=
  match parms.startGroupProfile with
  | none => some (some ⟨block.lastByteOffset, firstLineOffset, block.lines, blocks⟩)
  | some startGroupProfile =>
    findStart utils tssAccessorIdKey startGroupProfile zisSecurityGroupMaxLength firstLineOffset
      (block :: blocks)

/-- The loop of the handler from a place on. -/
def extractGroupProfiles (profilesToExtract : Nat) (place : StartPlace) :
    Option (Int × TssGroupProfiles) :=
  match walkFrom (stopsGroups profilesToExtract) (groupProfileLine utils) ⟨[], .zero⟩ place with
  | none => none
  | some .failed => some (-1, ⟨[], 0⟩)
  | some (.stopped walk) => some (0, ⟨walk.buffer, walk.buffer.length⟩)
  | some (.passed walk) => some (0, ⟨walk.buffer, 0⟩)

/-- `groupProfilesHandler`: its return code, and what it set; none where it reads past a block. The
buffer of a failed pass is left out. -/
def groupProfilesHandler (parms : TssGroupProfileParms) (status : RadminApiStatus)
    (result : List RadminCommandOutput) : Option (Int × TssGroupProfiles) :=
  if status.racfRC ≠ 0 then some (status.racfRC, ⟨[], 0⟩)
  else
    match result with
    | [] => some (0, ⟨[], 0⟩)
    | block :: blocks =>
      match block.lines with
      | [] => none
      | line :: _ =>
        if tssIsErrorDetected line then some (-1, ⟨[], 0⟩)
        else
          match groupStart utils parms block blocks with
          | none => none
          | some none => some (0, ⟨[], 0⟩)
          | some (some place) => extractGroupProfiles utils parms.profilesToExtract place

end

/-! ## Lines and what they say -/

/-- An ACID. -/
@[ext] structure AcidName where
  value : Text
  ne_nil : value ≠ []
  length_le : value.length ≤ 8
  last_ne : value.getLast? ≠ some ' '
  no_nul : nul ∉ value
deriving DecidableEq

/-- What a line says under a key: it does not have it, or an ACID stands there in a field of eight
characters or more, and where nothing follows the field not of nine. -/
def TellsField (line : Text) (n : Nat) (keys : TssKeys) (key : Text) : Option AcidName → Prop
  | none => tssFindDesiredKey key keys = none
  | some acid => ∃ i < n, ∃ pad, tssFindDesiredKey key keys = some i ∧
      IsKeyValue line n keys i (acid.value ++ blanks pad) ∧ 8 ≤ acid.value.length + pad ∧
        (acid.value.length + pad = 9 → n = 2 ∧ i = 0)

/-- A line with keys, and the ACIDs under those of a group and its owner. -/
structure Tells (utils : Utils) (line : Text) (group owner : Option AcidName) : Prop where
  goes_on : tssIsOutputDone line = false
  keys : ∃ n keys, tssParseLineForKeys utils line = some (n + 1, keys) ∧
    TellsField line (n + 1) keys tssAccessorIdKey group ∧
      TellsField line (n + 1) keys tssDepartmentKey owner

/-- What a line says of its group. -/
abbrev GroupMark := Mark AcidName AcidName

/-- A line is what it says. -/
def IsLine (utils : Utils) (line : Text) : GroupMark → Prop
  | .name group => Tells utils line (some group) none
  | .detail owner => Tells utils line none (some owner)
  | .idle => Tells utils line none none
  | .close => tssIsLineBlank line = true
  | .last => tssIsOutputDone line = true

/-- A line of the output with what it says. -/
structure GroupLine (utils : Utils) where
  text : Text
  mark : GroupMark
  short : text.length < 65536
  no_nul : nul ∉ text
  printed : IsLine utils text mark

section

variable {utils : Utils}

def texts (lines : List (GroupLine utils)) : List Text := lines.map GroupLine.text

def marks (lines : List (GroupLine utils)) : List GroupMark := lines.map GroupLine.mark

/-- The output lists groups that differ, each from its line on to a blank one. -/
structure GroupsListing (output : List RadminCommandOutput)
    (blocks : List (List (GroupLine utils))) : Prop where
  lines : output.map (·.lines) = blocks.map texts
  begins : ∃ line lines others, blocks = (line :: lines) :: others
  listed : Listed .empty (marks blocks.flatten)
  distinct : (names (marks blocks.flatten)).Nodup

/-- The groups of the listing. -/
def groupsOf (blocks : List (List (GroupLine utils))) : List (Draft AcidName AcidName) :=
  records .empty (marks blocks.flatten)

end

/-- A field with an ACID, or of zeros. -/
def acidField (size : Nat) : Option AcidName → Text
  | none => zeroBuffer size
  | some acid => fieldOf size acid.value

/-- The entry of a group. -/
def groupEntry (group : Draft AcidName AcidName) : ZisGroupProfileEntry :=
  ⟨acidField 8 group.name, acidField 8 group.detail, acidField 8 group.detail⟩

/-! ## Reading a line -/

section

variable {utils : Utils}

/-- A copy as long as its buffer leaves nothing of what was in it. -/
theorem copyValue_whole (hutils : utils.Documented) {line buffer : Text} {start : Nat}
    (hnul : nul ∉ line) {valEndPos : Int} (hend : valEndPos = (start : Int) + buffer.length - 1)
    (hshort : buffer.length < 65536) :
    copyValue utils line start valEndPos buffer = some ((line.drop start).take buffer.length) := by
  have hval : u32 (valEndPos - start + 1) = buffer.length := by
    rw [hend, show (start : Int) + buffer.length - 1 - start + 1 = buffer.length by omega]
    exact u32_natCast (by omega)
  have hpad := hutils.padWithSpaces ((line.drop start).take buffer.length) 0 fun h =>
    hnul (List.mem_of_mem_drop (List.mem_of_mem_take h))
  simp only [List.replicate_zero, List.append_nil] at hpad
  rw [copyValue, hval]
  simp only [Nat.lt_irrefl, gt_iff_lt, if_false, List.drop_length, List.append_nil, hpad]

/-- The last of eight characters. -/
theorem u32_lastOfEight {start : Nat} (h : start < 65536) :
    u32 ((start : Int) + (8 : Nat) - 1) = start + 7 := by
  rw [show (start : Int) + (8 : Nat) - 1 = ((start + 7 : Nat) : Int) by omega]
  exact u32_natCast (by omega)

variable {line : Text}

/-- A field of eight characters or more fills a buffer of eight. -/
theorem tssFindValueForKey_wide (hutils : utils.Documented) (hnul : nul ∉ line)
    (hshort : line.length < 65536) {n i : Nat} {keys : TssKeys}
    (hparse : tssParseLineForKeys utils line = some (n, keys)) (hi : i < n) {region : Text}
    (hvalue : IsKeyValue line n keys i region) (hwide : 8 ≤ region.length)
    (hnine : region.length = 9 → n = 2 ∧ i = 0) {buffer : Text} (hbuffer : buffer.length = 8) :
    tssFindValueForKey utils line line.length keys i n buffer = some (region.take 8) := by
  have hdelim : tssKeyDelimiterLen = 3 := rfl
  -- the value ends with its buffer
  have last {key : TssKeyData} (hroom : key.delimPos + tssKeyDelimiterLen ≤ line.length)
      (hregion : region = line.drop (key.delimPos + tssKeyDelimiterLen))
      (hnot : region.length ≠ 9) :
      valueEnd line.length (key.delimPos + tssKeyDelimiterLen) buffer.length =
        ((key.delimPos + tssKeyDelimiterLen : Nat) : Int) + buffer.length - 1 := by
    rw [hregion, List.length_drop] at hwide hnot
    rw [hbuffer]
    by_cases height : line.length = key.delimPos + tssKeyDelimiterLen + 8
    · rw [valueEnd_line (by omega) (by omega) (by omega) (by omega)]
      omega
    · exact valueEnd_buffer (by omega) (by omega) (by omega)
  rcases tssParseLineForKeys_cases hparse with ⟨rfl, -⟩ | ⟨rfl, -, hsingle⟩ | ⟨rfl, -⟩
  · exact absurd hi (Nat.not_lt_zero i)
  · obtain rfl : i = 0 := by omega
    have hroom := delimiter_room (tssFindSingleKey_found hutils hsingle).1.delimiter
    have hregion := (isKeyValue_last (by omega)).mp hvalue
    have hend := @last keys.first hroom hregion fun h => by cases (hnine h).1
    simp only [tssFindValueForKey, tssFindValueSingleKey, TssKeys.key, if_true]
    rw [copyValue_whole hutils hnul hend (by omega), hregion, hbuffer]
    rfl
  · have found := tssParseLineForKeys_two hutils hparse
    have hfirst := found.first.end_lt_delim
    have hlt := found.lt
    have hstart := found.second.start_le_end
    have hsecond := found.second.end_lt_delim
    have hroom := delimiter_room found.second.delimiter
    obtain rfl | rfl : i = 0 ∨ i = 1 := by omega
    · obtain ⟨htake, hle⟩ := hvalue
      change keys.first.delimPos + tssKeyDelimiterLen ≤ keys.second.startPos at hle
      change line.take keys.second.startPos =
        line.take (keys.first.delimPos + tssKeyDelimiterLen) ++ region at htake
      have hlen := congrArg List.length htake
      rw [List.length_append, List.length_take, List.length_take, Nat.min_eq_left (by omega),
        Nat.min_eq_left (by omega)] at hlen
      have hend : valueEnd line.length (keys.first.delimPos + tssKeyDelimiterLen) buffer.length =
          ((keys.first.delimPos + tssKeyDelimiterLen : Nat) : Int) + buffer.length - 1 := by
        rw [hbuffer]
        exact valueEnd_buffer (by omega) (by omega) (by omega)
      have hregion : (line.drop (keys.first.delimPos + tssKeyDelimiterLen)).take 8 =
          region.take 8 := by
        have h := congrArg (List.drop (keys.first.delimPos + tssKeyDelimiterLen)) htake
        rw [List.drop_take, List.drop_left' (by rw [List.length_take]; omega)] at h
        rw [← h, List.take_take, Nat.min_eq_left (by omega)]
      have hbefore : ¬ (keys.second.startPos ≤ u32 (valueEnd line.length
          (keys.first.delimPos + tssKeyDelimiterLen) buffer.length) ∧
          u32 (valueEnd line.length (keys.first.delimPos + tssKeyDelimiterLen) buffer.length) ≤
            keys.second.endPos) := by
        rw [hend, hbuffer, u32_lastOfEight (by omega)]
        omega
      simp only [tssFindValueForKey, tssFindValueDoubleKey, TssKeys.key, if_true,
        show ¬ (1 - 0 = 0) by decide, if_false, if_neg hbefore]
      rw [copyValue_whole hutils hnul hend (by omega), hbuffer, hregion]
    · have hregion := (isKeyValue_last (by omega)).mp hvalue
      have hend := @last keys.second hroom hregion fun h => by cases (hnine h).2
      have hbefore : ¬ (keys.first.startPos ≤ u32 (valueEnd line.length
          (keys.second.delimPos + tssKeyDelimiterLen) buffer.length) ∧
          u32 (valueEnd line.length (keys.second.delimPos + tssKeyDelimiterLen) buffer.length) ≤
            keys.first.endPos) := by
        rw [hend, hbuffer, u32_lastOfEight (by omega)]
        omega
      simp only [tssFindValueForKey, tssFindValueDoubleKey, TssKeys.key,
        show ¬ (1 = 0) by decide, if_false, Nat.sub_self, if_true, if_neg hbefore]
      rw [copyValue_whole hutils hnul hend (by omega), hbuffer, hregion]
      rfl

theorem fieldOf_acid (acid : AcidName) (pad : Nat) (h : 8 ≤ acid.value.length + pad) :
    (acid.value ++ blanks pad).take 8 = fieldOf 8 acid.value := by
  have hlen := acid.length_le
  rw [fieldOf, List.take_append, List.take_append, blanks, blanks, List.take_replicate,
    List.take_replicate, Nat.min_eq_left (by omega), Nat.min_eq_left (by omega)]

/-- A field is read from its line, whatever was in its buffer. -/
theorem TellsField.reads (hutils : utils.Documented) (hnul : nul ∉ line)
    (hshort : line.length < 65536) {n : Nat} {keys : TssKeys}
    (hparse : tssParseLineForKeys utils line = some (n, keys)) {key : Text} {acid : AcidName}
    (h : TellsField line n keys key (some acid)) :
    ∃ i, tssFindDesiredKey key keys = some i ∧ ∀ buffer : Text, buffer.length = 8 →
      tssFindValueForKey utils line line.length keys i n buffer =
        some (fieldOf 8 acid.value) := by
  obtain ⟨i, hi, pad, hfind, hvalue, hwide, hnine⟩ := h
  have hlen : (acid.value ++ blanks pad).length = acid.value.length + pad := by
    rw [List.length_append, length_blanks]
  refine ⟨i, hfind, fun buffer hbuffer => ?_⟩
  rw [tssFindValueForKey_wide hutils hnul hshort hparse hi hvalue (by omega)
    (fun h => hnine (by omega)) hbuffer, fieldOf_acid acid pad hwide]

theorem length_acidField (acid : Option AcidName) : (acidField 8 acid).length = 8 := by
  cases acid with
  | none => rfl
  | some acid => exact length_fieldOf 8 acid.value

/-- The entry behind a line with keys. -/
theorem Tells.step (hutils : utils.Documented) (hnul : nul ∉ line) (hshort : line.length < 65536)
    {group owner : Option AcidName} (h : Tells utils line group owner)
    (buffer : List ZisGroupProfileEntry) (draft : Draft AcidName AcidName) :
    groupProfileLine utils ⟨buffer, groupEntry draft⟩ line =
      some ⟨buffer, groupEntry ⟨group.or draft.name, owner.or draft.detail⟩⟩ := by
  obtain ⟨n, keys, hparse, hgroup, howner⟩ := h.keys
  have hread : readField utils line keys (n + 1) tssAccessorIdKey (acidField 8 draft.name) =
      some (acidField 8 (group.or draft.name)) := by
    cases group with
    | none =>
      have hnone : tssFindDesiredKey tssAccessorIdKey keys = none := hgroup
      rw [readField, hnone]
      rfl
    | some acid =>
      obtain ⟨i, hfind, hvalue⟩ := hgroup.reads hutils hnul hshort hparse
      rw [readField, hfind]
      exact hvalue _ (length_acidField _)
  cases owner with
  | none =>
    have hnone : tssFindDesiredKey tssDepartmentKey keys = none := howner
    have hreadOwner : readField utils line keys (n + 1) tssDepartmentKey
        (acidField 8 draft.detail) = some (acidField 8 draft.detail) := by
      rw [readField, hnone]
    simp only [groupProfileLine, hparse, groupEntry, hread, hreadOwner, hnone]
    rfl
  | some acid =>
    obtain ⟨i, hfind, hvalue⟩ := howner.reads hutils hnul hshort hparse
    have hreadOwner : readField utils line keys (n + 1) tssDepartmentKey
        (acidField 8 draft.detail) = some (fieldOf 8 acid.value) := by
      rw [readField, hfind]
      exact hvalue _ (length_acidField _)
    simp only [groupProfileLine, hparse, groupEntry, hread, hreadOwner, hfind]
    rfl

/-- Behind an ACID blanks and nulls do not count. -/
theorem AcidName.actualLength (acid : AcidName) {tail : Text}
    (htail : ∀ c ∈ tail, c = ' ' ∨ c = nul) :
    tssGetActualValueLength (acid.value ++ tail) = some acid.value.length := by
  have hblank : acid.value.getLast acid.ne_nil ≠ ' ' := fun h =>
    acid.last_ne (by rw [List.getLast?_eq_some_getLast acid.ne_nil, h])
  have hnull : acid.value.getLast acid.ne_nil ≠ nul := fun h =>
    acid.no_nul (h ▸ List.getLast_mem acid.ne_nil)
  have hlen := @tssGetActualValueLength_append acid.value.dropLast tail _ hblank hnull htail
  rwa [List.dropLast_concat_getLast] at hlen

/-- A line with keys is gone past by the search, unless it has the group. -/
theorem Tells.start (hutils : utils.Documented) (hnul : nul ∉ line) (hshort : line.length < 65536)
    {group owner : Option AcidName} (h : Tells utils line group owner) (acid : AcidName) :
    startLine utils tssAccessorIdKey acid.value zisSecurityGroupMaxLength line =
      some (decide (group = some acid)) := by
  obtain ⟨n, keys, hparse, hgroup, -⟩ := h.keys
  cases group with
  | none =>
    have hnone : tssFindDesiredKey tssAccessorIdKey keys = none := hgroup
    simp only [startLine, h.goes_on, Bool.false_eq_true, if_false, hparse, hnone]
    rfl
  | some other =>
    obtain ⟨i, hfind, hvalue⟩ := hgroup.reads hutils hnul hshort hparse
    have hread : tssFindValueForKey utils line line.length keys i (n + 1)
        (zeroBuffer zisSecurityGroupMaxLength) = some (fieldOf 8 other.value) := hvalue _ rfl
    obtain ⟨tail, htail, htmp⟩ : ∃ tail : Text, (∀ c ∈ tail, c = ' ' ∨ c = nul) ∧
        fieldOf 8 other.value ++ zeroBuffer (tssMaxValueLen - zisSecurityGroupMaxLength) =
          other.value ++ tail := by
      refine ⟨blanks (8 - other.value.length) ++
        zeroBuffer (tssMaxValueLen - zisSecurityGroupMaxLength), ?_, ?_⟩
      · intro c hc
        rcases List.mem_append.mp hc with hc | hc
        · exact .inl (eq_blank_of_mem hc)
        · exact .inr (List.eq_of_mem_replicate hc)
      · rw [fieldOf_short other.length_le, List.append_assoc]
    have hlen := other.actualLength htail
    simp only [startLine, h.goes_on, Bool.false_eq_true, if_false, hparse, hfind, hread, htmp, hlen]
    refine congrArg some (decide_eq_decide.mpr ?_)
    constructor
    · rintro ⟨hlength, htake⟩
      rw [← hlength, List.take_left] at htake
      exact congrArg some (AcidName.ext htake)
    · intro hsame
      obtain rfl := Option.some.inj hsame
      exact ⟨rfl, List.take_left⟩

/-- The end of the output is the last line and no other. -/
theorem GroupLine.done_iff (line : GroupLine utils) :
    tssIsOutputDone line.text = true ↔ line.mark = .last := by
  have hprinted := line.printed
  cases hmark : line.mark with
  | last =>
    rw [hmark] at hprinted
    exact iff_of_true hprinted rfl
  | close =>
    rw [hmark] at hprinted
    exact iff_of_false (by rw [tssIsOutputDone_of_blank hprinted]; exact Bool.false_ne_true) nofun
  | name group =>
    rw [hmark] at hprinted
    exact iff_of_false (by rw [hprinted.goes_on]; exact Bool.false_ne_true) nofun
  | detail owner =>
    rw [hmark] at hprinted
    exact iff_of_false (by rw [hprinted.goes_on]; exact Bool.false_ne_true) nofun
  | idle =>
    rw [hmark] at hprinted
    exact iff_of_false (by rw [hprinted.goes_on]; exact Bool.false_ne_true) nofun

/-- A blank line stores the entry. -/
theorem groupProfileLine_close (h : tssIsLineBlank line = true) (walk : GroupProfileWalk) :
    groupProfileLine utils walk line = some ⟨walk.buffer ++ [walk.entry], .zero⟩ := by
  rw [groupProfileLine, tssParseLineForKeys, if_pos h]

/-- Any other line is noted in it. -/
theorem GroupLine.step (hutils : utils.Documented) (line : GroupLine utils)
    (hlast : line.mark ≠ .last) (hclose : line.mark ≠ .close) (buffer : List ZisGroupProfileEntry)
    (draft : Draft AcidName AcidName) :
    groupProfileLine utils ⟨buffer, groupEntry draft⟩ line.text =
      some ⟨buffer, groupEntry (draft.note line.mark)⟩ := by
  have hprinted := line.printed
  cases hmark : line.mark with
  | last => exact absurd hmark hlast
  | close => exact absurd hmark hclose
  | name group =>
    rw [hmark] at hprinted
    exact hprinted.step hutils line.no_nul line.short buffer draft
  | detail owner =>
    rw [hmark] at hprinted
    exact hprinted.step hutils line.no_nul line.short buffer draft
  | idle =>
    rw [hmark] at hprinted
    exact hprinted.step hutils line.no_nul line.short buffer draft

/-- What the search makes of a line. -/
theorem GroupLine.start (hutils : utils.Documented) (line : GroupLine utils) (acid : AcidName)
    (hlast : line.mark ≠ .last) :
    startLine utils tssAccessorIdKey acid.value zisSecurityGroupMaxLength line.text =
      some (decide (line.mark = .name acid)) := by
  have hprinted := line.printed
  cases hmark : line.mark with
  | last => exact absurd hmark hlast
  | close =>
    rw [hmark] at hprinted
    rw [startLine, tssIsOutputDone_of_blank hprinted, tssParseLineForKeys,
      if_pos (show tssIsLineBlank line.text = true from hprinted)]
    rfl
  | name group =>
    rw [hmark] at hprinted
    rw [hprinted.start hutils line.no_nul line.short acid]
    exact congrArg some (decide_eq_decide.mpr ⟨fun h => congrArg Mark.name (Option.some.inj h),
      fun h => by cases h; rfl⟩)
  | detail owner =>
    rw [hmark] at hprinted
    exact hprinted.start hutils line.no_nul line.short acid
  | idle =>
    rw [hmark] at hprinted
    exact hprinted.start hutils line.no_nul line.short acid

/-! ## Reading the lines -/

/-- What the handler sets after lines. -/
def groupsSet (profilesToExtract : Nat) (lines : List (GroupLine utils)) : TssGroupProfiles :=
  let stored := ((records .empty (marks lines)).take profilesToExtract).map groupEntry
  ⟨stored, if seesEnd profilesToExtract (marks lines) then stored.length else 0⟩

/-- The walk takes down the records of its lines, as far as there is room, and is stopped where a
reader sees that it is done. -/
theorem plainWalk_groups (hutils : utils.Documented) (room : Nat)
    (lines : List (GroupLine utils)) (buffer : List ZisGroupProfileEntry)
    (draft : Draft AcidName AcidName) :
    ∃ entry, plainWalk (stopsGroups (buffer.length + room)) (groupProfileLine utils)
        ⟨buffer, groupEntry draft⟩ (texts lines) =
      if seesEnd room (marks lines) then
        .stopped ⟨buffer ++ ((records draft (marks lines)).take room).map groupEntry, entry⟩
      else .passed ⟨buffer ++ ((records draft (marks lines)).take room).map groupEntry, entry⟩ := by
  induction lines generalizing room buffer draft with
  | nil =>
    refine ⟨groupEntry draft, ?_⟩
    rw [texts, marks, List.map_nil, List.map_nil, plainWalk, records, List.take_nil, List.map_nil,
      List.append_nil]
    cases room <;> rfl
  | cons line lines ih =>
    rw [texts, marks, List.map_cons, List.map_cons]
    cases room with
    | zero =>
      refine ⟨groupEntry draft, ?_⟩
      rw [plainWalk_stop (decide_eq_true (.inl rfl)), List.take_zero, List.map_nil,
        List.append_nil, seesEnd, if_pos rfl]
    | succ room =>
      have hroom : ¬ buffer.length = buffer.length + (room + 1) := by omega
      by_cases hlast : line.mark = .last
      · refine ⟨groupEntry draft, ?_⟩
        have hdone := line.done_iff.mpr hlast
        rw [plainWalk_stop (decide_eq_true (.inr hdone)), hlast, records, List.take_nil,
          List.map_nil, List.append_nil, seesEnd, if_pos rfl]
      · have hgo : stopsGroups (buffer.length + (room + 1)) ⟨buffer, groupEntry draft⟩ line.text =
            false := by
          apply decide_eq_false
          rintro (h | h)
          · exact hroom h
          · exact hlast (line.done_iff.mp h)
        by_cases hclose : line.mark = .close
        · have hblank : tssIsLineBlank line.text = true := by
            have hprinted := line.printed
            rwa [hclose] at hprinted
          obtain ⟨entry, hwalk⟩ := ih room (buffer ++ [groupEntry draft]) .empty
          rw [List.length_append, List.length_singleton, Nat.add_right_comm, Nat.add_assoc]
            at hwalk
          refine ⟨entry, ?_⟩
          rw [plainWalk_step hgo (groupProfileLine_close hblank _), hclose, records, seesEnd,
            List.take_succ_cons, List.map_cons]
          simp only [List.append_assoc, List.singleton_append] at hwalk
          exact hwalk
        · obtain ⟨entry, hwalk⟩ := ih (room + 1) buffer (draft.note line.mark)
          refine ⟨entry, ?_⟩
          rw [plainWalk_step hgo (line.step hutils hlast hclose buffer draft)]
          cases hmark : line.mark with
          | last => exact absurd hmark hlast
          | close => exact absurd hmark hclose
          | name group =>
            rw [hmark] at hwalk
            exact hwalk
          | detail owner =>
            rw [hmark] at hwalk
            exact hwalk
          | idle =>
            rw [hmark] at hwalk
            exact hwalk

/-! ## The start -/

/-- Where the line of a group is. -/
structure StartAt (blocks : List (List (GroupLine utils))) (group : AcidName) where
  before : List (List (GroupLine utils))
  lines : List (GroupLine utils)
  head : GroupLine utils
  rest : List (GroupLine utils)
  after : List (List (GroupLine utils))
  blocks_eq : blocks = before ++ (lines ++ head :: rest) :: after
  mark_eq : head.mark = .name group

namespace StartAt

variable {blocks : List (List (GroupLine utils))} {group : AcidName} (start : StartAt blocks group)

/-- The end of its block. -/
def lastByteOffset : Nat :=
  firstLineOffset + linesSize (texts (start.lines ++ start.head :: start.rest))

/-- The offset that the search has come to at the line. -/
def offset : Nat :=
  carriedOffset firstLineOffset (start.before.map texts) + linesSize (texts start.lines)

/-- The number of lines behind it in its block that the offset leaves. -/
def within : Nat :=
  linesWithin start.lastByteOffset (start.offset + start.head.text.length + 2) (texts start.rest)

/-- The line, and those behind it that the offset leaves. -/
def shown : List (GroupLine utils) := start.head :: start.rest.take start.within

/-- The lines of the block that the offset hides. -/
def hidden : List (GroupLine utils) := start.rest.drop start.within

end StartAt

/-- The groups from one on are read right in a buffer for so many: the offset carried to the block
of the group leaves its line; the lines of the block that it hides come when the buffer is full, say
nothing of a group, or say what is said again; and the end of the output is visited, or a line
behind the last group there is room for. -/
def PageSuits (profilesToExtract : Nat) (group : AcidName)
    (blocks : List (List (GroupLine utils))) : Prop :=
  ∃ start : StartAt blocks group, start.offset < start.lastByteOffset ∧
    MayMiss profilesToExtract (marks start.shown) (marks start.hidden)
        (marks start.after.flatten) ∧
      seesEnd profilesToExtract (marks (start.shown ++ start.after.flatten)) = true

theorem texts_append (before after : List (GroupLine utils)) :
    texts (before ++ after) = texts before ++ texts after := List.map_append

theorem marks_append (before after : List (GroupLine utils)) :
    marks (before ++ after) = marks before ++ marks after := List.map_append

section

variable {output : List RadminCommandOutput} {blocks : List (List (GroupLine utils))}
  {status : RadminApiStatus}

theorem outputLines_texts (h : output.map (·.lines) = blocks.map texts) :
    outputLines output = texts blocks.flatten := by
  have hflat : outputLines output = (output.map (·.lines)).flatten := List.flatMap_def
  rw [hflat, h]
  exact List.map_flatten.symm

/-- The loop visits the lines that an offset ahead leaves. -/
theorem extractGroupProfiles_ahead (hutils : utils.Documented) (profilesToExtract : Nat)
    {place : StartPlace} {visited : List (GroupLine utils)}
    (hahead : place.lastByteOffset ≤ place.offsetInBlock + linesSize place.lines)
    (hvisited : place.lines.take
        (linesWithin place.lastByteOffset place.offsetInBlock place.lines) ++
      outputLines place.blocks = texts visited) :
    extractGroupProfiles utils profilesToExtract place =
      some (0, groupsSet profilesToExtract visited) := by
  obtain ⟨entry, hwalk⟩ := plainWalk_groups hutils profilesToExtract visited [] .empty
  rw [List.length_nil, Nat.zero_add, List.nil_append,
    show groupEntry .empty = ZisGroupProfileEntry.zero from rfl] at hwalk
  rw [extractGroupProfiles, walkFrom_ahead hahead, hvisited, hwalk, groupsSet]
  cases seesEnd profilesToExtract (marks visited) with
  | true => rfl
  | false => rfl

/-- What the handler does with its start. -/
theorem groupProfilesHandler_eq (hlisting : GroupsListing output blocks)
    (hgroups : groupsOf blocks ≠ []) (hstatus : status.racfRC = 0)
    (parms : TssGroupProfileParms) :
    ∃ block others, output = block :: others ∧ ∀ start,
      groupStart utils parms block others = some start →
        groupProfilesHandler utils parms status output =
          start.elim (some (0, ⟨[], 0⟩)) (extractGroupProfiles utils parms.profilesToExtract) := by
  obtain ⟨first, lines, tail, hblocks⟩ := hlisting.begins
  have hlines := hlisting.lines
  rw [hblocks, List.map_cons] at hlines
  obtain ⟨block, others, rfl, hblock, -⟩ := List.map_eq_cons_iff.mp hlines
  have hblockLines : block.lines = first.text :: texts lines := hblock
  have herror : tssIsErrorDetected first.text = false := by
    by_contra herror
    rw [Bool.not_eq_false] at herror
    have hlast := first.done_iff.mp (tssIsErrorDetected_done herror)
    apply hgroups
    rw [groupsOf, hblocks, List.flatten_cons, List.cons_append, marks, List.map_cons, hlast,
      records]
  refine ⟨block, others, rfl, fun start hstart => ?_⟩
  unfold groupProfilesHandler
  rw [if_neg (not_not_intro hstatus)]
  simp only [hblockLines, herror, Bool.false_eq_true, if_false, hstart]
  cases start with
  | none => rfl
  | some place => rfl

/-- Without a start all groups are read. -/
theorem groupProfilesHandler_whole (hutils : utils.Documented)
    (hlisting : GroupsListing output blocks) (hgroups : groupsOf blocks ≠ [])
    (hstatus : status.racfRC = 0) (capacity : Nat) :
    groupProfilesHandler utils ⟨capacity, none⟩ status output =
      some (0, groupsSet capacity blocks.flatten) := by
  obtain ⟨block, others, houtput, hrun⟩ :=
    groupProfilesHandler_eq hlisting hgroups hstatus ⟨capacity, none⟩
  have hall : linesWithin block.lastByteOffset firstLineOffset block.lines = block.lines.length :=
    linesWithin_eq (Nat.le_refl _)
  rw [hrun _ rfl]
  refine extractGroupProfiles_ahead hutils capacity (Nat.le_refl _) ?_
  rw [hall, List.take_length, ← outputLines_texts hlisting.lines, houtput, outputLines, outputLines,
    List.flatMap_cons]

/-- The marks of a listing around the line of a group. -/
theorem StartAt.marks_eq {group : AcidName} (start : StartAt blocks group) :
    marks blocks.flatten = marks (start.before.flatten ++ start.lines) ++
      .name group :: marks (start.rest ++ start.after.flatten) := by
  have hcons : marks (start.head :: (start.rest ++ start.after.flatten)) =
      .name group :: marks (start.rest ++ start.after.flatten) :=
    congrArg (· :: marks (start.rest ++ start.after.flatten)) start.mark_eq
  rw [← hcons, ← marks_append]
  conv_lhs => rw [start.blocks_eq]
  simp only [List.flatten_append, List.flatten_cons, List.append_assoc, List.cons_append]

theorem goesPast_texts (hutils : utils.Documented) {lines : List (GroupLine utils)}
    {acid : AcidName} (hlast : Mark.last ∉ marks lines) (hname : Mark.name acid ∉ marks lines) :
    GoesPast utils tssAccessorIdKey acid.value zisSecurityGroupMaxLength (texts lines) := by
  intro text htext
  obtain ⟨line, hline, rfl⟩ := List.mem_map.mp htext
  have hmark : line.mark ∈ marks lines := List.mem_map_of_mem hline
  rw [line.start hutils acid fun h => hlast (h ▸ hmark)]
  exact congrArg some (decide_eq_false fun h => hname (h ▸ hmark))

theorem nowhereIn_texts (hutils : utils.Documented) {lines : List (GroupLine utils)}
    {acid : AcidName} (hname : Mark.name acid ∉ marks lines) :
    NowhereIn utils tssAccessorIdKey acid.value zisSecurityGroupMaxLength (texts lines) := by
  intro text htext
  obtain ⟨line, hline, rfl⟩ := List.mem_map.mp htext
  have hmark : line.mark ∈ marks lines := List.mem_map_of_mem hline
  by_cases hlast : line.mark = .last
  · rw [startLine, line.done_iff.mpr hlast, if_pos rfl]
    exact nofun
  · rw [line.start hutils acid hlast,
      decide_eq_false fun h : line.mark = .name acid => hname (h ▸ hmark)]
    exact nofun

/-- From a group on its line and those behind it are read that the offset leaves. -/
theorem groupProfilesHandler_start (hutils : utils.Documented)
    (hlisting : GroupsListing output blocks) (hgroups : groupsOf blocks ≠ [])
    (hstatus : status.racfRC = 0) (profilesToExtract : Nat) {group : AcidName}
    (start : StartAt blocks group) :
    groupProfilesHandler utils ⟨profilesToExtract, some group.value⟩ status output =
      some (0, if start.offset < start.lastByteOffset then
        groupsSet profilesToExtract (start.shown ++ start.after.flatten) else ⟨[], 0⟩) := by
  obtain ⟨first, others, houtput, hrun⟩ :=
    groupProfilesHandler_eq hlisting hgroups hstatus ⟨profilesToExtract, some group.value⟩
  have hlisted := hlisting.listed
  have hdistinct := hlisting.distinct
  rw [start.marks_eq] at hlisted hdistinct
  have hnameFirst : group ∈ names (Mark.name group ::
      marks (start.rest ++ start.after.flatten)) := mem_names.mpr List.mem_cons_self
  have hlast : Mark.last ∉ marks (start.before.flatten ++ start.lines) := fun hin => by
    cases hlisted.nothing_after hin
  have hbefore : Mark.name group ∉ marks (start.before.flatten ++ start.lines) := fun hin =>
    not_mem_names_right hdistinct (mem_names.mpr hin) hnameFirst
  have hbehind : Mark.name group ∉ marks (start.rest ++ start.after.flatten) := by
    intro hin
    rw [names_append] at hdistinct
    exact (List.nodup_cons.mp (List.nodup_append.mp hdistinct).2.1).1 (mem_names.mpr hin)
  rw [marks_append, List.mem_append, not_or] at hlast hbefore hbehind
  -- the output splits as its blocks do
  have hmap := hlisting.lines
  rw [start.blocks_eq, List.map_append, List.map_cons] at hmap
  obtain ⟨front, back, hsplit, hfront, hback⟩ := List.map_eq_append_iff.mp hmap
  obtain ⟨block, after, rfl, hblock, hafter⟩ := List.map_eq_cons_iff.mp hback
  have hhead : startLine utils tssAccessorIdKey group.value zisSecurityGroupMaxLength
      start.head.text = some true := by
    rw [start.head.start hutils group (by rw [start.mark_eq]; exact nofun)]
    exact congrArg some (decide_eq_true start.mark_eq)
  have hlines : block.lines = texts start.lines ++ start.head.text :: texts start.rest := by
    rw [hblock, texts_append]
    rfl
  have hlastByte : block.lastByteOffset = start.lastByteOffset := by
    rw [RadminCommandOutput.lastByteOffset, hblock, StartAt.lastByteOffset]
  have hcarried := le_carriedOffset firstLineOffset (start.before.map texts)
  have hsearch := findStart_eq (show zisSecurityGroupMaxLength ≤ tssMaxValueLen by decide) hlines
    (outputLines_texts hfront ▸ goesPast_texts hutils hlast.1 hbefore.1)
    (goesPast_texts hutils hlast.2 hbefore.2) hhead
    (outputLines_texts hafter ▸ nowhereIn_texts hutils hbehind.2)
  rw [hfront, hlastByte] at hsearch
  change findStart _ _ _ _ _ _ = some (if start.offset < start.lastByteOffset then _ else none)
    at hsearch
  have hstart : groupStart utils ⟨profilesToExtract, some group.value⟩ first others =
      findStart utils tssAccessorIdKey group.value zisSecurityGroupMaxLength firstLineOffset
        output := by
    rw [houtput]
    rfl
  rw [hsplit] at hstart
  rw [hrun _ (hstart.trans hsearch)]
  by_cases hshown : start.offset < start.lastByteOffset
  · rw [if_pos hshown, if_pos hshown]
    refine extractGroupProfiles_ahead hutils profilesToExtract ?_ ?_
    · have hsize : start.lastByteOffset = firstLineOffset + (linesSize (texts start.lines) +
          linesSize (start.head.text :: texts start.rest)) := by
        rw [← hlastByte, RadminCommandOutput.lastByteOffset, hlines, linesSize_append]
      change start.lastByteOffset ≤
        start.offset + linesSize (start.head.text :: texts start.rest)
      rw [hsize, StartAt.offset]
      omega
    · change (start.head.text :: texts start.rest).take (linesWithin start.lastByteOffset
        start.offset (start.head.text :: texts start.rest)) ++ outputLines after = _
      rw [linesWithin, if_pos hshown, List.take_succ_cons, outputLines_texts hafter, texts_append]
      refine congrArg (· ++ texts start.after.flatten) ?_
      exact congrArg (start.head.text :: ·) List.map_take.symm
  · rw [if_neg hshown, if_neg hshown]
    rfl

end

/-! ## Entries -/

theorem acidField_injective : Function.Injective (acidField 8) := by
  have zeros (acid : AcidName) : zeroBuffer 8 ≠ fieldOf 8 acid.value := by
    intro h
    obtain ⟨first, rest, hvalue⟩ := List.exists_cons_of_ne_nil acid.ne_nil
    have hhead := congrArg List.head? h
    rw [hvalue] at hhead
    have hnul : nul = first := Option.some.inj hhead
    apply acid.no_nul
    rw [hvalue, hnul]
    exact List.mem_cons_self
  intro acid other h
  cases acid with
  | none =>
    cases other with
    | none => rfl
    | some other => exact absurd h (zeros other)
  | some acid =>
    cases other with
    | none => exact absurd h.symm (zeros acid)
    | some other =>
      have hfields : acid.value ++ blanks (8 - acid.value.length) =
          other.value ++ blanks (8 - other.value.length) := by
        rw [← fieldOf_short acid.length_le, ← fieldOf_short other.length_le]
        exact h
      have hlen := congrArg tssGetActualValueLength hfields
      rw [acid.actualLength fun c hc => .inl (eq_blank_of_mem hc),
        other.actualLength fun c hc => .inl (eq_blank_of_mem hc)] at hlen
      have hvalue := (List.append_inj hfields (Option.some.inj hlen)).1
      exact congrArg some (AcidName.ext hvalue)

theorem groupEntry_injective : Function.Injective groupEntry := by
  intro group other h
  ext1
  · exact acidField_injective (congrArg ZisGroupProfileEntry.group h)
  · exact acidField_injective (congrArg ZisGroupProfileEntry.owner h)

/-! ## Paging -/

/-- From a group on, as many groups are read as there is room for of those that are read from the
first one with room for all, each with the owner printed for it, and they are counted. -/
def PagesGroups (status : RadminApiStatus) (output : List RadminCommandOutput)
    (blocks : List (List (GroupLine utils))) (profilesToExtract : Nat) (group : AcidName) : Prop :=
  ∃ page, groupProfilesHandler utils ⟨profilesToExtract, some group.value⟩ status output =
      some (0, page) ∧
    (∀ capacity, (groupsOf blocks).length ≤ capacity → ∃ whole,
      groupProfilesHandler utils ⟨capacity, none⟩ status output = some (0, whole) ∧
        page.tmpResultBuffer = (whole.tmpResultBuffer.dropWhile fun entry =>
          entry.group ≠ fieldOf 8 group.value).take profilesToExtract) ∧
    (∀ entry ∈ page.tmpResultBuffer, ∃ group ∈ groupsOf blocks, entry = groupEntry group) ∧
    page.profilesExtracted = page.tmpResultBuffer.length

section

variable {output : List RadminCommandOutput} {blocks : List (List (GroupLine utils))}
  {status : RadminApiStatus} {group : AcidName}

/-- The lines from that of a group on. -/
theorem StartAt.marks_from (start : StartAt blocks group) :
    marks start.shown ++ (marks start.hidden ++ marks start.after.flatten) =
      .name group :: marks (start.rest ++ start.after.flatten) := by
  rw [← List.append_assoc, ← marks_append, StartAt.shown, StartAt.hidden, List.cons_append,
    List.take_append_drop, ← marks_append, List.cons_append]
  exact congrArg (· :: marks (start.rest ++ start.after.flatten)) start.mark_eq

/-- The groups from one on. -/
theorem StartAt.dropWhile_groups (hlisting : GroupsListing output blocks)
    (start : StartAt blocks group) :
    (groupsOf blocks).dropWhile (fun record => record.name ≠ some group) =
      records .empty (marks start.shown ++ (marks start.hidden ++ marks start.after.flatten)) := by
  have hlisted := hlisting.listed
  have hdistinct := hlisting.distinct
  rw [start.marks_from, groupsOf, start.marks_eq]
  rw [start.marks_eq] at hlisted hdistinct
  exact dropWhile_records hlisted hdistinct

/-- The suffix of the entries that begins at a group. -/
theorem dropWhile_groupEntry (groups : List (Draft AcidName AcidName)) (group : AcidName) :
    (groups.map groupEntry).dropWhile (fun entry => entry.group ≠ fieldOf 8 group.value) =
      (groups.dropWhile fun record => record.name ≠ some group).map groupEntry := by
  have hsame : (fun entry : ZisGroupProfileEntry => decide (entry.group ≠ fieldOf 8 group.value)) ∘
      groupEntry = fun record => decide (record.name ≠ some group) := by
    funext record
    exact decide_eq_decide.mpr
      (not_congr (acidField_injective.eq_iff (a := record.name) (b := some group)))
  rw [List.dropWhile_map, hsame]

/-- A group of the listing has its line somewhere. -/
theorem exists_startAt (hgroup : ∃ record ∈ groupsOf blocks, record.name = some group) :
    Nonempty (StartAt blocks group) := by
  obtain ⟨record, hrecord, hname⟩ := hgroup
  rcases mem_names_of_mem_records hrecord hname with hmem | hnone
  · obtain ⟨head, hhead, hmark⟩ := List.mem_map.mp (mem_names.mp hmem)
    obtain ⟨block, hblock, hin⟩ := List.mem_flatten.mp hhead
    obtain ⟨before, after, rfl⟩ := List.append_of_mem hblock
    obtain ⟨lines, rest, rfl⟩ := List.append_of_mem hin
    exact ⟨⟨before, lines, head, rest, after, rfl, hmark⟩⟩
  · cases hnone

theorem StartAt.listed (hlisting : GroupsListing output blocks) (start : StartAt blocks group) :
    Listed .empty (marks start.shown ++ (marks start.hidden ++ marks start.after.flatten)) ∧
      (names (marks start.shown ++ (marks start.hidden ++ marks start.after.flatten))).Nodup := by
  have hlisted := hlisting.listed
  have hdistinct := hlisting.distinct
  rw [start.marks_eq] at hlisted hdistinct
  have hlast : Mark.last ∉ marks (start.before.flatten ++ start.lines) := fun hin => by
    cases hlisted.nothing_after hin
  rw [start.marks_from]
  refine ⟨⟨rfl, (hlisted.right hlast).2⟩, ?_⟩
  rw [names_append] at hdistinct
  exact (List.nodup_append.mp hdistinct).2.1

/-- What a page is to be, and its count. -/
theorem pagesGroups_iff_page (hutils : utils.Documented) (hlisting : GroupsListing output blocks)
    (hgroups : groupsOf blocks ≠ []) (hstatus : status.racfRC = 0) {profilesToExtract : Nat}
    {page : TssGroupProfiles}
    (hpage : groupProfilesHandler utils ⟨profilesToExtract, some group.value⟩ status output =
      some (0, page)) :
    PagesGroups status output blocks profilesToExtract group ↔
      page.tmpResultBuffer = (((groupsOf blocks).dropWhile fun record =>
          record.name ≠ some group).take profilesToExtract).map groupEntry ∧
        page.profilesExtracted = page.tmpResultBuffer.length := by
  have hwhole (capacity : Nat) (hcapacity : (groupsOf blocks).length ≤ capacity) :
      (groupsSet capacity blocks.flatten).tmpResultBuffer = (groupsOf blocks).map groupEntry := by
    change ((groupsOf blocks).take capacity).map groupEntry = _
    rw [List.take_of_length_le hcapacity]
  constructor
  · rintro ⟨page', hpage', hsuffix, -, hcount⟩
    cases hpage.symm.trans hpage'
    obtain ⟨whole, hrun, hbuffer⟩ := hsuffix _ (Nat.le_refl _)
    rw [groupProfilesHandler_whole hutils hlisting hgroups hstatus] at hrun
    cases hrun
    rw [hwhole _ (Nat.le_refl _), dropWhile_groupEntry, ← List.map_take] at hbuffer
    exact ⟨hbuffer, hcount⟩
  · rintro ⟨hbuffer, hcount⟩
    refine ⟨page, hpage, fun capacity hcapacity => ?_, fun entry hentry => ?_, hcount⟩
    · refine ⟨_, groupProfilesHandler_whole hutils hlisting hgroups hstatus capacity, ?_⟩
      rw [hwhole capacity hcapacity, dropWhile_groupEntry, ← List.map_take]
      exact hbuffer
    · rw [hbuffer] at hentry
      obtain ⟨record, hrecord, rfl⟩ := List.mem_map.mp hentry
      exact ⟨record, (List.dropWhile_sublist _).subset (List.mem_of_mem_take hrecord), rfl⟩

/-- From a line of the group its page is read right exactly when it suits. -/
theorem pagesGroups_iff_start (hutils : utils.Documented) (hlisting : GroupsListing output blocks)
    (hstatus : status.racfRC = 0) {profilesToExtract : Nat} (hpos : 0 < profilesToExtract)
    (hgroup : ∃ record ∈ groupsOf blocks, record.name = some group)
    (start : StartAt blocks group) :
    PagesGroups status output blocks profilesToExtract group ↔
      start.offset < start.lastByteOffset ∧
        MayMiss profilesToExtract (marks start.shown) (marks start.hidden)
          (marks start.after.flatten) ∧
        seesEnd profilesToExtract (marks (start.shown ++ start.after.flatten)) = true := by
  obtain ⟨record, hrecord, hname⟩ := hgroup
  have hgroups : groupsOf blocks ≠ [] := List.ne_nil_of_mem hrecord
  obtain ⟨hlisted, hdistinct⟩ := start.listed hlisting
  have hsome : (((groupsOf blocks).dropWhile fun record =>
      record.name ≠ some group).take profilesToExtract).map groupEntry ≠ [] := by
    intro hnil
    rcases List.take_eq_nil_iff.mp (List.map_eq_nil_iff.mp hnil) with hzero | hdrop
    · omega
    · have hall := List.dropWhile_eq_nil_iff.mp hdrop record hrecord
      exact of_decide_eq_true hall hname
  have hpage := groupProfilesHandler_start hutils hlisting hgroups hstatus profilesToExtract start
  rw [pagesGroups_iff_page hutils hlisting hgroups hstatus hpage]
  by_cases hshown : start.offset < start.lastByteOffset
  · rw [if_pos hshown, start.dropWhile_groups hlisting]
    rw [start.dropWhile_groups hlisting] at hsome
    simp only [groupsSet, marks_append, hshown, true_and,
      (List.map_injective_iff.mpr groupEntry_injective).eq_iff]
    constructor
    · rintro ⟨hrecords, hcount⟩
      have hsees : seesEnd profilesToExtract
          (marks start.shown ++ marks start.after.flatten) = true := by
        by_contra hnot
        rw [if_neg hnot, hrecords] at hcount
        exact hsome (List.length_eq_zero_iff.mp hcount.symm)
      exact ⟨(records_take_iff_mayMiss hlisted hdistinct hsees).mp hrecords, hsees⟩
    · rintro ⟨hmiss, hsees⟩
      rw [if_pos hsees]
      exact ⟨records_take_of_mayMiss hlisted hmiss, rfl⟩
  · rw [if_neg hshown]
    refine iff_of_false ?_ fun h => hshown h.1
    rintro ⟨hnil, -⟩
    exact hsome hnil.symm

/-- **Groups are paged** exactly from a group whose page suits. -/
theorem groupProfilesHandler_pages (hutils : utils.Documented)
    (hlisting : GroupsListing output blocks) (hstatus : status.racfRC = 0)
    {profilesToExtract : Nat} (hpos : 0 < profilesToExtract)
    (hgroup : ∃ record ∈ groupsOf blocks, record.name = some group) :
    PagesGroups status output blocks profilesToExtract group ↔
      PageSuits profilesToExtract group blocks := by
  obtain ⟨start⟩ := exists_startAt hgroup
  constructor
  · intro h
    exact ⟨start, (pagesGroups_iff_start hutils hlisting hstatus hpos hgroup start).mp h⟩
  · rintro ⟨start, h⟩
    exact (pagesGroups_iff_start hutils hlisting hstatus hpos hgroup start).mpr h

end

end

/-! ## Samples -/

def grpA : AcidName := ⟨['G', 'R', 'P', 'A'], by decide, by decide, by decide, by decide⟩

def grpB : AcidName := ⟨['G', 'R', 'P', 'B'], by decide, by decide, by decide, by decide⟩

def dept1 : AcidName := ⟨['D', 'E', 'P', 'T', '1'], by decide, by decide, by decide, by decide⟩

def accessorKeys : TssKeys :=
  ⟨⟨0, 9, 10, tssAccessorIdKey, 10⟩, ⟨23, 26, 33, tssNameKey, 4⟩⟩

def departmentKeys : TssKeys :=
  ⟨⟨0, 8, 10, tssDepartmentKey, 9⟩, ⟨23, 32, 33, "DEPARTMENT".toList, 10⟩⟩

def grpALine : GroupLine .plain where
  text := "ACCESSORID = GRPA      NAME       = GROUP A".toList
  mark := .name grpA
  short := by decide
  no_nul := by decide
  printed := ⟨by decide, 1, accessorKeys, by decide +kernel,
    ⟨0, by decide, 6, by decide, ⟨by decide +kernel, by decide⟩, by decide, by decide⟩, rfl⟩

def grpBLine : GroupLine .plain where
  text := "ACCESSORID = GRPB      NAME       = GROUP B".toList
  mark := .name grpB
  short := by decide
  no_nul := by decide
  printed := ⟨by decide, 1, accessorKeys, by decide +kernel,
    ⟨0, by decide, 6, by decide, ⟨by decide +kernel, by decide⟩, by decide, by decide⟩, rfl⟩

def dept1Line : GroupLine .plain where
  text := "DEPT ACID  = DEPT1     DEPARTMENT = DEPARTMENT 1".toList
  mark := .detail dept1
  short := by decide
  no_nul := by decide
  printed := ⟨by decide, 1, departmentKeys, by decide +kernel, rfl,
    ⟨0, by decide, 5, by decide, ⟨by decide +kernel, by decide⟩, by decide, by decide⟩⟩

def blankLine : GroupLine .plain := ⟨[' '], .close, by decide, by decide, rfl⟩

def endLine : GroupLine .plain := ⟨tssCommandSuccess, .last, by decide, by decide, rfl⟩

/-- Two groups in blocks, and their output. -/
def groupBlocks (split : Bool) : List (List (GroupLine .plain)) :=
  if split then
    [[grpALine, dept1Line, blankLine], [grpBLine, dept1Line, blankLine, endLine]]
  else [[grpALine, dept1Line, blankLine, grpBLine, dept1Line, blankLine, endLine]]

def groupsOutput (split : Bool) : List RadminCommandOutput :=
  (groupBlocks split).map fun lines => ⟨texts lines, fun text htext => by
    obtain ⟨line, -, rfl⟩ := List.mem_map.mp htext
    exact line.short⟩

theorem groupsOutput_listing (split : Bool) :
    GroupsListing (groupsOutput split) (groupBlocks split) where
  lines := by
    rw [groupsOutput, List.map_map]
    rfl
  begins := by
    cases split
    · exact ⟨_, _, _, rfl⟩
    · exact ⟨_, _, _, rfl⟩
  listed := by
    have hmarks : marks (groupBlocks split).flatten =
        [.name grpA, .detail dept1, .close, .name grpB, .detail dept1, .close, .last] := by
      cases split <;> rfl
    rw [hmarks]
    exact ⟨rfl, nofun, rfl, nofun, rfl, nofun, rfl, nofun, rfl, rfl⟩
  distinct := by
    cases split
    · decide
    · decide

theorem groupsOf_groupBlocks (split : Bool) :
    groupsOf (groupBlocks split) = [⟨some grpA, some dept1⟩, ⟨some grpB, some dept1⟩] := by
  cases split <;> rfl

/-- From a group of the first block on. -/
theorem groupProfilesHandler_pages_sample :
    PagesGroups ⟨0, 0, 0⟩ (groupsOutput false) (groupBlocks false) 1 grpB :=
  (groupProfilesHandler_pages Utils.plain_documented (groupsOutput_listing false) rfl
    Nat.one_pos ⟨⟨some grpB, some dept1⟩, by rw [groupsOf_groupBlocks]; decide, rfl⟩).mpr
      ⟨⟨[], [grpALine, dept1Line, blankLine], grpBLine, [dept1Line, blankLine, endLine], [], rfl,
        rfl⟩, by decide +kernel, .inl (by decide +kernel), by decide +kernel⟩

/-- A group of the second block, in a listing as long as the first, is not read from; and a listing
without its end is read, but nothing of it is counted. -/
theorem second_block_lost :
    ¬ PagesGroups ⟨0, 0, 0⟩ (groupsOutput true) (groupBlocks true) 2 grpB ∧
      groupProfilesHandler .plain ⟨2, some grpB.value⟩ ⟨0, 0, 0⟩ (groupsOutput true) =
        some (0, ⟨[], 0⟩) ∧
      groupProfilesHandler .plain ⟨2, none⟩ ⟨0, 0, 0⟩
          [⟨texts [grpALine, dept1Line, blankLine], by decide⟩] =
        some (0, ⟨[groupEntry ⟨some grpA, some dept1⟩], 0⟩) := by
  have hstart : groupProfilesHandler .plain ⟨2, some grpB.value⟩ ⟨0, 0, 0⟩ (groupsOutput true) =
      some (0, ⟨[], 0⟩) := by
    decide +kernel
  have hwhole : groupProfilesHandler .plain ⟨2, none⟩ ⟨0, 0, 0⟩ (groupsOutput true) =
      some (0, ⟨[groupEntry ⟨some grpA, some dept1⟩, groupEntry ⟨some grpB, some dept1⟩], 2⟩) := by
    decide +kernel
  refine ⟨?_, hstart, by decide +kernel⟩
  rintro ⟨page, hpage, hsuffix, -⟩
  cases hstart.symm.trans hpage
  obtain ⟨whole, hrun, hbuffer⟩ := hsuffix 2 (by rw [groupsOf_groupBlocks]; decide)
  cases hwhole.symm.trans hrun
  revert hbuffer
  decide +kernel

end Zss.Tss
