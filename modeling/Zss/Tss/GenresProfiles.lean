import Zss.Lib.Loop
import Zss.Tss.Admin
import Zss.Tss.CallerProfiles

/-!
# The profiles of a class

`zisGenresProfilesServiceFunctionTSS` in `secmgmttss.c`: a command lists the class, a handler reads
from its output as many profiles as the caller's buffer holds, and where the caller names a profile
to start from, a loop reads one bufferful after the other until that profile is in one, moves the
buffer so that it comes first and fills the rest.

The handler notes where it stopped and goes on from there in the next round, over the same output:
the command is issued again, and its output is taken to be what it was. An index beyond the buffer
is not written to.
-/

namespace Zss.Tss

open Zss.Lib

/-! ## Constants -/

def rcZisGrprfsrvOk : Int := 0
def rcZisGrprfsrvParmlistNull : Int := 8
def rcZisGrprfsrvBadEyecatcher : Int := 9
def rcZisGrprfsrvClassTooLong : Int := 10
def rcZisGrprfsrvProfileTooLong : Int := 11
def rcZisGrprfsrvResultBuffNull : Int := 12
def rcZisGrprfsrvImpersonationMissing : Int := 15
def rcZisGrprfsrvInternalServiceFailed : Int := 16
def rcZisGrprfsrvAllocFailed : Int := 17
def rcZisGrprfsrvUserClassNotRead : Int := 18

def zisGresprofServiceParmlistEyecatcher : Text := ['R', 'S', 'G', 'P', 'R', 'O', 'F', 'S']

/-- `sizeof(ZISGenresProfileEntry)`. -/
def zisGenresProfileEntrySize : Nat := 263

def tssExtractPrefixProfileCmdMaxLen : Nat := 289
def tssExtractProfileCmdMaxLen : Nat := 33
def tssPrfExtrCallerMaxLen : Nat := 30

/-! ## The window -/

/-- An entry of zeros. -/
def ZisGenresProfileEntry.zero : ZisGenresProfileEntry :=
  ⟨zeroBuffer zisSecurityProfileMaxLength, zeroBuffer zisUserIdMaxLength⟩

/-- A field against a text of so many characters; a length of -1 takes in all of the field. -/
def sameText (length : Option Nat) (text field : Text) : Bool :=
  match length with
  | some n => tssGetActualValueLength field = some n && field.take n = text.take n
  | none => tssGetActualValueLength field = none && field = text

/-- `isDuplicateProfile`. -/
def isDuplicateProfile (buffer : List ZisGenresProfileEntry) (searchString : Text)
    (stopSearch : Nat) : Bool :=
  (buffer.take stopSearch).any fun entry =>
    sameText (tssGetActualValueLength searchString) searchString entry.profile

/-- `findStartProfile`; none where it answers false. -/
def findStartProfile (buffer : List ZisGenresProfileEntry) (numberOfProfiles : Nat)
    (searchProfile : Text) : Option Nat :=
  (buffer.take numberOfProfiles).findIdx? fun entry =>
    sameText (some searchProfile.length) searchProfile entry.profile

/-- `shiftProfileBufferLeft`, for an index that is not zero. -/
def shiftProfileBufferLeft (buffer : List ZisGenresProfileEntry) (numberOfProfiles foundAt : Nat) :
    List ZisGenresProfileEntry :=
  (List.range numberOfProfiles).foldl
    (fun buffer i =>
      (buffer.set i (buffer.getD (foundAt + i) .zero)).set (foundAt + i) .zero) buffer

/-! ## The handler -/

/-- `TSSLineData`: the rest of a block from a line on, and the blocks behind it. -/
structure TssLineData where
  lastByteOffset : Nat
  offsetInBlock : Nat
  lines : List Text
  blocks : List RadminCommandOutput

/-- The input of `TSSGenresProfileParms`. -/
structure GenresSearch where
  profilesToExtract : Nat
  className : Text
  extractGeneric : Bool

/-- The fields of `TSSGenresProfileParms` that are set on the way. -/
structure TssGenresProfileParms where
  tmpResultBuffer : List ZisGenresProfileEntry
  profilesExtracted : Nat
  lineData : Option TssLineData
  startIndex : Nat
  reachedEndOfOutput : Bool

/-- What the handler keeps from line to line: of its entry only the profile is ever set. -/
structure GenresWalk where
  buffer : List ZisGenresProfileEntry
  numExtracted : Nat
  entryProfile : Text
  currOwner : Text

/-- How the handler leaves the lines. -/
inductive GenresStop where
  | failed (walk : GenresWalk)
  | endOfOutput (walk : GenresWalk)
  | full (walk : GenresWalk) (lineData : TssLineData)
  | passed (walk : GenresWalk)

section

variable (utils : Utils) (search : GenresSearch)

/-- The profile of the entry in its slot, unless it is there already. -/
def storeGenresProfile (walk : GenresWalk) (profile : Text) : GenresWalk :=
  if isDuplicateProfile walk.buffer profile walk.numExtracted then
    { walk with entryProfile := profile }
  else
    { walk with
      buffer := walk.buffer.set walk.numExtracted ⟨profile, walk.currOwner⟩
      numExtracted := walk.numExtracted + 1
      entryProfile := zeroBuffer zisSecurityProfileMaxLength }

/-- The owner on a line of the class, from the position of its key. -/
def lineOwner (line : Text) (ownerIndex : Nat) : Text :=
  utils.padWithSpaces (((line.drop (ownerIndex + 6)).take 8 ++ zeroBuffer 8).take 8)

/-- A line with a key that ends before another one: the position of that one and the value, read
into a buffer. None for -1. -/
def valueBefore (line : Text) (keys : TssKeys) (keyIndex numberOfKeys : Nat) (before : Text)
    (buffer : Text) : Option (Nat × Text) :=
  match utils.lastIndexOfString line before with
  | none => none
  | some index =>
    (tssFindValueForKey utils line (u32 ((index : Int) - 1)) keys keyIndex numberOfKeys buffer).map
      fun value => (index, value)

/-- A line; none for -1. -/
def genresLine (walk : GenresWalk) (line : Text) : Option GenresWalk :=
  match tssParseLineForKeys utils line with
  | none | some (0, _) => none
  | some (numberOfKeys, keys) =>
    match tssFindDesiredKey search.className keys with
    | some keyIndex =>
      match valueBefore utils line keys keyIndex numberOfKeys tssOwnerKey walk.entryProfile with
      | none => none
      | some (ownerIndex, profile) =>
        let walk := { walk with currOwner := lineOwner utils line ownerIndex }
        some (if search.extractGeneric then storeGenresProfile walk profile
          else { walk with entryProfile := profile })
    | none =>
      match tssFindDesiredKey tssXauthKey keys with
      | some keyIndex =>
        (valueBefore utils line keys keyIndex numberOfKeys tssAcidKey walk.entryProfile).map
          fun value => storeGenresProfile walk value.2
      | none => some walk

/-- The lines of a block, by the offset. -/
def genresLines (lastByteOffset : Nat) (blocks : List RadminCommandOutput) :
    Nat → GenresWalk → List Text → Option GenresStop
  | offsetInBlock, walk, [] =>
    if offsetInBlock < lastByteOffset then none else some (.passed walk)
  | offsetInBlock, walk, line :: lines =>
    if offsetInBlock < lastByteOffset then
      if tssIsOutputDone line then some (.endOfOutput walk)
      else if walk.numExtracted = search.profilesToExtract then
        some (.full walk ⟨lastByteOffset, offsetInBlock, line :: lines, blocks⟩)
      else
        match genresLine utils search walk line with
        | none => some (.failed walk)
        | some walk => genresLines lastByteOffset blocks (offsetInBlock + line.length + 2) walk lines
    else some (.passed walk)

/-- The owner of a block that has not named one. -/
def GenresWalk.newBlock (walk : GenresWalk) : GenresWalk :=
  { walk with currOwner := zeroBuffer zisUserIdMaxLength }

/-- The blocks, each from its first line and with no owner. -/
def genresBlocks (walk : GenresWalk) : List RadminCommandOutput → Option GenresStop
  | [] => some (.passed walk)
  | block :: blocks =>
    match genresLines utils search block.lastByteOffset blocks firstLineOffset walk.newBlock
      block.lines with
    | some (.passed walk) => genresBlocks walk blocks
    | result => result

/-- The lines from where the handler goes on. -/
def genresFrom (walk : GenresWalk) (lineData : TssLineData) : Option GenresStop :=
  match genresLines utils search lineData.lastByteOffset lineData.blocks lineData.offsetInBlock
    walk.newBlock lineData.lines with
  | some (.passed walk) => genresBlocks utils search walk lineData.blocks
  | result => result

/-- The walk a call of the handler begins with. -/
def TssGenresProfileParms.walk (parms : TssGenresProfileParms) : GenresWalk :=
  ⟨parms.tmpResultBuffer, parms.startIndex, zeroBuffer zisSecurityProfileMaxLength,
    zeroBuffer zisUserIdMaxLength⟩

/-- What the handler sets on its way out. -/
def TssGenresProfileParms.after (parms : TssGenresProfileParms) :
    GenresStop → Int × TssGenresProfileParms
  | .failed walk => (-1, { parms with tmpResultBuffer := walk.buffer })
  | .endOfOutput walk =>
    (0, { parms with
      tmpResultBuffer := walk.buffer
      profilesExtracted := walk.numExtracted
      reachedEndOfOutput := true })
  | .full walk lineData =>
    (0, { parms with
      tmpResultBuffer := walk.buffer
      profilesExtracted := walk.numExtracted
      lineData := some lineData })
  | .passed walk => (0, { parms with tmpResultBuffer := walk.buffer })

/-- `genresProfileHandler`: its return code, and its parms; none where it reads beyond a block. -/
def genresProfileHandler (status : RadminApiStatus) (result : List RadminCommandOutput)
    (parms : TssGenresProfileParms) : Option (Int × TssGenresProfileParms) :=
  if status.racfRC ≠ 0 then some (status.racfRC, parms)
  else
    match result with
    | [] => some (0, parms)
    | block :: blocks =>
      if tssIsErrorDetected (block.lines.headD []) then some (-1, parms)
      else
        (match parms.lineData with
        | some lineData => genresFrom utils search parms.walk lineData
        | none => genresBlocks utils search parms.walk (block :: blocks)).map parms.after

end

/-! ## The loop -/

/-- What the loop keeps: the parms of the handler, and whether the start profile was found and where
it is. -/
structure GenresLoop where
  parms : TssGenresProfileParms
  foundAt : Option Nat

/-- A round of the loop from the search on: it goes on, or it is left. -/
def searchRound (search : GenresSearch) (startProfile : Text) (loop : GenresLoop)
    (parms : TssGenresProfileParms) : GenresLoop ⊕ TssGenresProfileParms :=
  let foundAt :=
    match loop.foundAt with
    | some foundAt => some foundAt
    | none => findStartProfile parms.tmpResultBuffer parms.profilesExtracted startProfile
  match foundAt with
  | none =>
    let parms :=
      { parms with
        tmpResultBuffer := List.replicate search.profilesToExtract ZisGenresProfileEntry.zero }
    if parms.reachedEndOfOutput then .inr { parms with profilesExtracted := 0 }
    else .inl ⟨parms, none⟩
  | some foundAt =>
    if loop.foundAt.isNone && foundAt == 0 then .inr parms
    else
      let validExtractedProfiles := parms.profilesExtracted - foundAt
      let parms :=
        if foundAt = 0 then parms
        else
          { parms with
            tmpResultBuffer :=
              shiftProfileBufferLeft parms.tmpResultBuffer validExtractedProfiles foundAt }
      if parms.reachedEndOfOutput ∨ validExtractedProfiles ≥ search.profilesToExtract then
        .inr { parms with profilesExtracted := validExtractedProfiles }
      else .inl ⟨{ parms with startIndex := validExtractedProfiles }, some 0⟩

/-- A round of the loop. It is left with the return code of the command and the parms; with none
where the handler reads beyond a block. -/
def genresRound (utils : Utils) (search : GenresSearch) (startProfile : Option Text)
    (run : RadminRun) (loop : GenresLoop) : GenresLoop ⊕ Option (Int × TssGenresProfileParms) :=
  match genresProfileHandler utils search run.apiStatus run.output loop.parms with
  | none => .inr none
  | some (handlerRC, parms) =>
    let radminExtractRC := run.rc handlerRC
    if radminExtractRC ≠ rcRadminOk then .inr (some (radminExtractRC, parms))
    else
      match startProfile with
      | none => .inr (some (radminExtractRC, parms))
      | some startProfile =>
        match searchRound search startProfile loop parms with
        | .inl loop => .inl loop
        | .inr parms => .inr (some (radminExtractRC, parms))

/-- The parms before the first round. -/
def TssGenresProfileParms.start (profilesToExtract : Nat) : TssGenresProfileParms :=
  ⟨List.replicate profilesToExtract .zero, 0, none, 0, false⟩

/-- The loop before its first round. -/
def GenresLoop.start (profilesToExtract : Nat) : GenresLoop :=
  ⟨.start profilesToExtract, none⟩

/-! ## Owners -/

def whooCommand (className profile : Text) : Text :=
  ("TSS WHOO ".toList ++ className ++ ['('] ++ profile.takeWhile (· ≠ nul) ++ [')']).take
    tssPrfOwnerExtrMaxLen

/-- `assignCorrectProfileOwners`: its return code and the entries; those behind one that fails are
left as they are. -/
def assignCorrectProfileOwners (utils : Utils) (radminRunRACFCommand : Text → RadminRun)
    (className : Text) : List ZisGenresProfileEntry → Int × List ZisGenresProfileEntry
  | [] => (rcRadminOk, [])
  | entry :: entries =>
    if entry.owner.head? = some nul then
      let run := radminRunRACFCommand (whooCommand className entry.profile)
      let (handlerRC, owner) := getGenresProfileOwnerHandler utils run.apiStatus run.output
      if run.rc handlerRC ≠ rcRadminOk then (run.rc handlerRC, entry :: entries)
      else
        let rest := assignCorrectProfileOwners utils radminRunRACFCommand className entries
        (rest.1, { entry with owner := owner } :: rest.2)
    else
      let rest := assignCorrectProfileOwners utils radminRunRACFCommand className entries
      (rest.1, entry :: rest.2)

/-! ## The service -/

/-- `ZISGenresProfileServiceParmList`; of the buffer, whether there is one. -/
structure GenresProfileParmList where
  eyecatcher : Text
  classLength : Nat
  startProfileLength : Nat
  startProfileValue : Text
  profilesToExtract : Nat
  resultBuffer : Bool

/-- What a call writes to its caller where its command is accepted. -/
structure GenresProfileReply where
  resultBuffer : List ZisGenresProfileEntry
  profilesExtracted : Nat

/-- What the service asks of its surroundings. -/
structure GenresProfileEnv where
  secmgmtGetCallerUserID : Option Text
  userClass : Except Int Text
  safeMalloc : Nat → Bool
  radminRunRACFCommand : Text → RadminRun

/-- `validateGenresProfileParmList`. -/
def validateGenresProfileParmList (parm : GenresProfileParmList) : Int :=
  if parm.eyecatcher ≠ zisGresprofServiceParmlistEyecatcher then rcZisGrprfsrvBadEyecatcher
  else if parm.classLength > zisSecurityClassMaxLength then rcZisGrprfsrvClassTooLong
  else if parm.startProfileLength > zisSecurityProfileMaxLength then rcZisGrprfsrvProfileTooLong
  else if !parm.resultBuffer then rcZisGrprfsrvResultBuffNull
  else rcZisGrprfsrvOk

/-- The start profile, as far as a null-terminated copy goes; none for a length of zero. -/
def GenresProfileParmList.startProfile (parm : GenresProfileParmList) : Option Text :=
  if parm.startProfileLength > 0 then
    some ((parm.startProfileValue.take parm.startProfileLength).takeWhile (· ≠ nul))
  else none

/-- Whether a start profile is a prefix, by its last character. -/
def isPrefixSearch (startProfile : Option Text) : Bool :=
  startProfile.any fun startProfile => startProfile.getLast? = some '.'

def prefixCommand (className startProfile : Text) : Text :=
  ("TSS WHOH ".toList ++ className ++ ['('] ++ startProfile ++ ") DATA(NOPREFIX)".toList).take
    tssExtractPrefixProfileCmdMaxLen

def profilesCommand (className : Text) : Text :=
  ("TSS WHOH ".toList ++ className ++ "(*) DATA(MASK)".toList).take tssExtractProfileCmdMaxLen

def listXauthCommand (caller : Text) : Text :=
  ("TSS LIST(".toList ++ caller ++ ") DATA(XAUTH)".toList).take tssPrfExtrCallerMaxLen

section

variable (utils : Utils) (env : GenresProfileEnv) (className : Text)
  (parm : GenresProfileParmList)

/-- The commands of a privileged caller, with so many rounds of the loop: the return code and the
parms. None where the loop goes on, or the handler reads beyond a block. -/
def extractProfiles (rounds : Nat) : Option (Int × TssGenresProfileParms) :=
  let startProfile := parm.startProfile
  if isPrefixSearch startProfile then
    let run := env.radminRunRACFCommand (prefixCommand className (startProfile.getD []))
    (genresProfileHandler utils ⟨parm.profilesToExtract, className, false⟩ run.apiStatus run.output
      (.start parm.profilesToExtract)).map fun (handlerRC, parms) => (run.rc handlerRC, parms)
  else
    (loop (genresRound utils ⟨parm.profilesToExtract, className, true⟩ startProfile
      (env.radminRunRACFCommand (profilesCommand className))) rounds
      (.start parm.profilesToExtract)).join

/-- The entries of a privileged caller with their owners. -/
def extractWithOwners (rounds : Nat) : Option (Int × List ZisGenresProfileEntry) :=
  (extractProfiles utils env className parm rounds).map fun (radminExtractRC, parms) =>
    let entries := parms.tmpResultBuffer.take parms.profilesExtracted
    if radminExtractRC = rcRadminOk ∧ parm.startProfile.isSome then
      assignCorrectProfileOwners utils env.radminRunRACFCommand className entries
    else (radminExtractRC, entries)

/-- The entries a caller may see of its own. -/
def extractOwnProfiles (caller : Text) : Int × List ZisGenresProfileEntry :=
  let startProfile := parm.startProfile
  let isPrefix := isPrefixSearch startProfile
  let run := env.radminRunRACFCommand (listXauthCommand caller)
  let (handlerRC, callerParms) := callerProfileHandler utils
    { extractGroups := false
      searchGroup := []
      extractProfiles := true
      searchClass := className
      profilesToExtract := parm.profilesToExtract
      filterByPrefix := if isPrefix then startProfile else none
      filterByProfile := if isPrefix then none else startProfile }
    run.apiStatus run.output
  (run.rc handlerRC, callerParms.profiles.take callerParms.profilesExtracted)

/-- `zisGenresProfilesServiceFunctionTSS` with so many rounds of its loop: the return code, and the
reply where there is one. None where the loop goes on, or a handler reads beyond a block. -/
def zisGenresProfilesServiceFunctionTSS (rounds : Nat) (env : GenresProfileEnv)
    (parm : Option GenresProfileParmList) : Option (Int × Option GenresProfileReply) :=
  match parm with
  | none => some (rcZisGrprfsrvParmlistNull, none)
  | some parm =>
    let parmValidateRC := validateGenresProfileParmList parm
    if parmValidateRC ≠ rcZisGrprfsrvOk then some (parmValidateRC, none)
    else
      match env.secmgmtGetCallerUserID, env.userClass with
      | none, _ => some (rcZisGrprfsrvImpersonationMissing, none)
      | _, .error _ => some (rcZisGrprfsrvUserClassNotRead, none)
      | some caller, .ok className =>
        if className.length > zisSecurityClassMaxLength then some (rcZisGrprfsrvClassTooLong, none)
        else if !env.safeMalloc (zisGenresProfileEntrySize * parm.profilesToExtract) then
          some (rcZisGrprfsrvAllocFailed, none)
        else
          (extractWithOwners utils env className parm rounds).map fun (radminExtractRC, entries) =>
            let (radminExtractRC, entries) :=
              if radminExtractRC ≠ rcRadminOk then extractOwnProfiles utils env className parm caller
              else (radminExtractRC, entries)
            if radminExtractRC = rcRadminOk then
              (rcZisGrprfsrvOk, some ⟨entries, entries.length⟩)
            else (rcZisGrprfsrvInternalServiceFailed, none)

end

end Zss.Tss
