import Zss.Tss.KeyLine

/-!
# The access list of a profile

`zisGenresAccessListServiceFunctionTSS` and its handler in `secmgmttss.c`. The handler goes through
the output of `TSS WHOH` twice, once to count the lines of the profile and once to extract: an
`XAUTH` line gives the profile and the user ID, and the next `ACCESS` line the level. Both passes
begin each block at its first line, so that a position in a block is not kept.
-/

namespace Zss.Tss

/-! ## Constants -/

def rcZisAcslsrvOk : Int := 0
def rcZisAcslsrvParmlistNull : Int := 8
def rcZisAcslsrvBadEyecatcher : Int := 9
def rcZisAcslsrvClassTooLong : Int := 10
def rcZisAcslsrvProfileTooLong : Int := 11
def rcZisAcslsrvResultBuffNull : Int := 12
def rcZisAcslsrvImpersonationMissing : Int := 13
def rcZisAcslsrvAllocFailed : Int := 14
def rcZisAcslsrvInternalServiceFailed : Int := 15
def rcZisAcslsrvInsufficientSpace : Int := 16
def rcZisAcslsrvUserClassNotRead : Int := 17

def rcRadminOk : Int := 0

def zisAclistServiceParmlistEyecatcher : Text := ['R', 'S', 'A', 'C', 'S', 'L', 'S', 'T']
def zisSecurityClassMaxLength : Nat := 8
def zisSecurityProfileMaxLength : Nat := 255
def tssPrfAccessListExtrMaxLen : Nat := 274

/-! ## Data -/

/-- `ZISGenresAccessEntry`. -/
structure ZisGenresAccessEntry where
  id : Text
  accessType : Text
deriving DecidableEq

/-- An entry of zeros. -/
def ZisGenresAccessEntry.zero : ZisGenresAccessEntry := ⟨zeroBuffer 8, zeroBuffer 8⟩

/-- `RadminAPIStatus`. -/
structure RadminApiStatus where
  safRC : Int
  racfRC : Int
  racfRSN : Int
deriving DecidableEq

/-- What `radminRunRACFCommand` makes of a command: the status and the output its handler sees, and
its own return code for the one of the handler. -/
structure RadminRun where
  apiStatus : RadminApiStatus
  reasonCode : Int
  output : List RadminCommandOutput
  rc : Int → Int

/-- The fields the handler sets in `TSSGenresProfileAccessListParms`. -/
structure TssGenresProfileAccessListParms where
  tmpResultBuffer : List ZisGenresAccessEntry
  entriesExtracted : Nat
  entriesFound : Nat

/-- The output fields of `ZISGenresAccessListServiceParmList`. -/
structure AccessListOutput where
  entriesExtracted : Nat
  entriesFound : Nat
  internalServiceRC : Int
  internalServiceRSN : Int
  safStatus : RadminApiStatus
deriving DecidableEq

/-- `ZISGenresAccessListServiceParmList`; of the buffer, whether there is one. -/
structure AccessListParmList where
  eyecatcher : Text
  classLength : Nat
  profileLength : Nat
  profileValue : Text
  resultBuffer : Bool
  resultBufferCapacity : Nat
  output : AccessListOutput

/-- What a call writes to its caller: the entries in the buffer, and the output fields. -/
structure AccessListReply where
  resultBuffer : List ZisGenresAccessEntry
  output : AccessListOutput
deriving DecidableEq

/-- What the service asks of its surroundings: whether it runs for a caller, the class parameter or
the code it is not read with, storage, and commands. -/
structure AccessListEnv where
  secmgmtGetCallerUserID : Bool
  userClass : Except Int Text
  safeMalloc : Nat → Bool
  radminRunRACFCommand : Text → RadminRun

/-! ## The handler -/

section

variable (utils : Utils) (searchProfile : Text)

/-- What both passes read of an `XAUTH` line: the position of the user ID's key, and whether the
profile is the one searched. None where the line has no such key or no value. -/
def readXauthLine (str : Text) (keys : TssKeys) (keyIndex numberOfKeys : Nat) :
    Option (Nat × Bool) :=
  match utils.lastIndexOfString str tssAcidKey with
  | none => none
  | some acidIndex =>
    match tssFindValueForKey utils str (u32 ((acidIndex : Int) - 1)) keys keyIndex numberOfKeys
      (zeroBuffer zisSecurityProfileMaxLength) with
    | none => none
    | some tmpBuffer =>
      some (acidIndex, tssGetActualValueLength tmpBuffer = some searchProfile.length ∧
        tmpBuffer.take searchProfile.length = searchProfile)

/-- `findNumberOfValidGenreEntries` over the lines of a block; none for -1. -/
def findNumberOfValidGenreEntries (numberOfEntries : Nat) : List Text → Option Nat
  | [] => some numberOfEntries
  | line :: lines =>
    if tssIsOutputDone line then some numberOfEntries
    else
      match tssParseLineForKeys utils line with
      | none => none
      | some (numberOfKeys, keys) =>
        match tssFindDesiredKey tssXauthKey keys with
        | none => findNumberOfValidGenreEntries numberOfEntries lines
        | some keyIndex =>
          match readXauthLine utils searchProfile line keys keyIndex numberOfKeys with
          | none => none
          | some (_, found) =>
            findNumberOfValidGenreEntries (if found then numberOfEntries + 1 else numberOfEntries)
              lines

/-- What the extracting pass keeps from line to line. -/
structure AccessListWalk where
  buffer : List ZisGenresAccessEntry
  entry : ZisGenresAccessEntry
  foundProfile : Bool

/-- An access type as it is reported: `ALL` by the name it has elsewhere. -/
def reportedAccessType (accessType : Text) : Text :=
  if accessType.take 3 = ['A', 'L', 'L'] then
    utils.padWithSpaces (['A', 'L', 'T', 'E', 'R'] ++ zeroBuffer 3)
  else accessType

/-- What the extracting pass does with a line; none for -1. -/
def extractLine (walk : AccessListWalk) (line : Text) : Option AccessListWalk :=
  match tssParseLineForKeys utils line with
  | none | some (0, _) => none
  | some (numberOfKeys + 1, keys) =>
    match tssFindDesiredKey tssXauthKey keys with
    | some keyIndex =>
      match readXauthLine utils searchProfile line keys keyIndex (numberOfKeys + 1) with
      | none => none
      | some (acidIndex, found) =>
        if found then
          some { walk with
            entry := { walk.entry with id := (line.drop (acidIndex + 5)).take 8 }
            foundProfile := true }
        else some walk
    | none =>
      if walk.foundProfile then
        match tssFindDesiredKey tssAccessKey keys with
        | none => some walk
        | some keyIndex =>
          match tssFindValueForKey utils line line.length keys keyIndex (numberOfKeys + 1)
            walk.entry.accessType with
          | none => none
          | some accessType =>
            some
              { buffer := walk.buffer ++ [⟨walk.entry.id, reportedAccessType utils accessType⟩]
                entry := .zero
                foundProfile := false }
      else some walk

/-- How the extracting pass leaves the lines: with an error, by its return, or past the last. -/
inductive WalkResult where
  | failed
  | stopped (buffer : List ZisGenresAccessEntry)
  | passed (walk : AccessListWalk)

/-- The lines of a block. -/
def extractLines (entriesToExtract : Nat) (walk : AccessListWalk) : List Text → WalkResult
  | [] => .passed walk
  | line :: lines =>
    if walk.buffer.length = entriesToExtract ∨ tssIsOutputDone line then .stopped walk.buffer
    else
      match extractLine utils searchProfile walk line with
      | none => .failed
      | some walk => extractLines entriesToExtract walk lines

/-- The blocks of the output, each from its first line. -/
def extractBlocks (entriesToExtract : Nat) (walk : AccessListWalk) :
    List RadminCommandOutput → WalkResult
  | [] => .passed walk
  | block :: blocks =>
    match extractLines utils searchProfile entriesToExtract walk block.lines with
    | .passed walk => extractBlocks entriesToExtract walk blocks
    | result => result

/-- `genresProfileAccessListHandler`: its return code, and what it set. The first line of a block
without any is taken as empty; the buffer of a failed pass is freed unread and left out. -/
def genresProfileAccessListHandler (entriesToExtract : Nat) (status : RadminApiStatus)
    (result : List RadminCommandOutput) : Int × TssGenresProfileAccessListParms :=
  if status.racfRC ≠ 0 then (status.racfRC, ⟨[], 0, 0⟩)
  else
    match result with
    | [] => (0, ⟨[], 0, 0⟩)
    | block :: _ =>
      if tssIsErrorDetected (block.lines.headD []) then (-1, ⟨[], 0, 0⟩)
      else
        match result.foldlM
          (fun n block => findNumberOfValidGenreEntries utils searchProfile n block.lines) 0 with
        | none | some 0 => (-1, ⟨[], 0, 0⟩)
        | some (entriesFound + 1) =>
          match extractBlocks utils searchProfile entriesToExtract ⟨[], .zero, false⟩ result with
          | .failed => (-1, ⟨[], 0, entriesFound + 1⟩)
          | .stopped buffer => (0, ⟨buffer, buffer.length, entriesFound + 1⟩)
          | .passed walk => (0, ⟨walk.buffer, 0, entriesFound + 1⟩)

end

/-! ## The service -/

/-- `validateGenresAccessListParmList`. -/
def validateGenresAccessListParmList (parm : AccessListParmList) : Int :=
  if parm.eyecatcher ≠ zisAclistServiceParmlistEyecatcher then rcZisAcslsrvBadEyecatcher
  else if parm.classLength > zisSecurityClassMaxLength then rcZisAcslsrvClassTooLong
  else if parm.profileLength > zisSecurityProfileMaxLength then rcZisAcslsrvProfileTooLong
  else if !parm.resultBuffer then rcZisAcslsrvResultBuffNull
  else rcZisAcslsrvOk

/-- The profile of a parm list, as far as a null-terminated copy goes. -/
def AccessListParmList.searchProfile (parm : AccessListParmList) : Text :=
  (parm.profileValue.take parm.profileLength).takeWhile (· ≠ nul)

/-- The command of a call. -/
def whohasCommand (className profile : Text) : Text :=
  (['T', 'S', 'S', ' ', 'W', 'H', 'O', 'H', ' '] ++ className ++ ['('] ++ profile ++ [')']).take
    tssPrfAccessListExtrMaxLen

/-- The call from its command on. -/
def runWhohas (utils : Utils) (run : RadminRun) (parm : AccessListParmList) :
    Int × AccessListReply :=
  let (handlerRC, parms) := genresProfileAccessListHandler utils parm.searchProfile
    parm.resultBufferCapacity run.apiStatus run.output
  let radminExtractRC := run.rc handlerRC
  if radminExtractRC = rcRadminOk then
    (rcZisAcslsrvOk,
      { resultBuffer := parms.tmpResultBuffer.take parms.entriesExtracted
        output := { parm.output with
          entriesExtracted := parms.entriesExtracted
          entriesFound := parms.entriesExtracted } })
  else if radminExtractRC = rcRadminOk ∧ parms.entriesExtracted < parms.entriesFound then
    (rcZisAcslsrvInsufficientSpace,
      { resultBuffer := []
        output := { parm.output with entriesExtracted := 0, entriesFound := parms.entriesFound } })
  else
    (rcZisAcslsrvInternalServiceFailed,
      { resultBuffer := []
        output := { parm.output with
          internalServiceRC := radminExtractRC
          internalServiceRSN := run.reasonCode
          safStatus := run.apiStatus } })

/-- `zisGenresAccessListServiceFunctionTSS`: the return code, and the reply unless the call ends
before its command. -/
def zisGenresAccessListServiceFunctionTSS (utils : Utils) (env : AccessListEnv)
    (parm : Option AccessListParmList) : Int × Option AccessListReply :=
  match parm with
  | none => (rcZisAcslsrvParmlistNull, none)
  | some parm =>
    let parmValidateRC := validateGenresAccessListParmList parm
    if parmValidateRC ≠ rcZisAcslsrvOk then (parmValidateRC, none)
    else if !env.secmgmtGetCallerUserID then (rcZisAcslsrvImpersonationMissing, none)
    else
      match env.userClass with
      | .error _ => (rcZisAcslsrvUserClassNotRead, none)
      | .ok className =>
        if className.length > zisSecurityClassMaxLength then (rcZisAcslsrvClassTooLong, none)
        else if !env.safeMalloc (16 * parm.resultBufferCapacity) then
          (rcZisAcslsrvAllocFailed, none)
        else
          let run := env.radminRunRACFCommand (whohasCommand className parm.searchProfile)
          (runWhohas utils run parm).map id some

end Zss.Tss
