import Zss.Tss.CallerProfiles

/-!
# The access list of a group

`zisGroupAccessListServiceFunctionTSS` and its handler in `secmgmttss.c`. The listing of a group has
its ACIDs on its second line, after the key, and on the lines that follow. The handler counts the
lines, takes four entries for each, and then extracts the ACIDs of each line.

Both passes begin at the second line of the first block with the offset of the first, so that in
this block the offset lags behind the line. Where a pass reads past the block for it, the model has
no result.

`getAcidsInLine` has two loops with an index of the same name. The flag of an administrator is set in
the inner one, so it goes to the entry with the number of the indicator that was found, whichever
column it was found in. For the fifth and the sixth of the indicators there is no such entry in the
array of four that the handler has: the flag is written behind it, and the model has no result.
-/

namespace Zss.Tss

/-! ## Constants -/

def rcZisGrpalsrvOk : Int := 0
def rcZisGrpalsrvParmlistNull : Int := 8
def rcZisGrpalsrvBadEyecatcher : Int := 9
def rcZisGrpalsrvGroupTooLong : Int := 10
def rcZisGrpalsrvResultBuffNull : Int := 11
def rcZisGrpalsrvImpersonationMissing : Int := 12
def rcZisGrpalsrvAllocFailed : Int := 13
def rcZisGrpalsrvInternalServiceFailed : Int := 14
def rcZisGrpalsrvInsufficientSpace : Int := 15

/-- The first 8 bytes of the eyecatcher, which are those compared. -/
def zisGrpalstServiceParmlistEyecatcher : Text := ['R', 'S', 'G', 'R', 'P', 'A', 'L', 'S']
def zisSecurityGroupMaxLength : Nat := 8
def tssGrpAccessListExtrMaxLen : Nat := 30
def tssGrpAccessListExtrCallerMaxLen : Nat := 28

def tssAcidsKey : Text := ['A', 'C', 'I', 'D', 'S']
def acidOffset : Nat := 12

def tssAdminIndicators : List Text :=
  [['-', 'M', 'S'], ['-', 'S', 'C'], ['-', 'L', 'C'], ['-', 'Z', 'C'], ['-', 'V', 'C'],
    ['-', 'D', 'C']]

/-! ## Data -/

/-- `TSSAcidData`. -/
structure TssAcidData where
  acid : Text
  isAdmin : Bool

/-- `ZISGroupAccessEntry`; of the access type, the text before its null. -/
structure ZisGroupAccessEntry where
  id : Text
  accessType : Text

def TssAcidData.entry (data : TssAcidData) : ZisGroupAccessEntry :=
  ⟨data.acid, if data.isAdmin then ['J', 'O', 'I', 'N'] else ['U', 'S', 'E']⟩

/-- The fields the handler sets in `TSSGroupAccessListParms`. -/
structure TssGroupAccessListParms where
  tmpResultBuffer : List ZisGroupAccessEntry
  entriesExtracted : Int
  entriesFound : Int

/-- `ZISGroupAccessListServiceParmList`; of the buffer, whether there is one. -/
structure GroupListParmList where
  eyecatcher : Text
  groupLength : Nat
  groupValue : Text
  resultBuffer : Bool
  resultBufferCapacity : Nat
  /-- The capacity is an unsigned word. -/
  capacity_lt : resultBufferCapacity < 4294967296
  output : AccessListOutput

/-- What a call writes to its caller: the entries in the buffer, and the output fields. -/
structure GroupListReply where
  resultBuffer : List ZisGroupAccessEntry
  output : AccessListOutput

/-- What the service asks of its surroundings: the 8 bytes of the caller's ID where it runs for one,
storage, and commands. -/
structure GroupListEnv where
  secmgmtGetCallerUserID : Option Text
  safeMalloc : Nat → Bool
  radminRunRACFCommand : Text → RadminRun

/-! ## The handler -/

section

variable (utils : Utils)

/-- The indicator that is found first in what was copied of a column, by its number. -/
def adminIndicatorIn (tmpBuffer : Text) : Option Nat :=
  tssAdminIndicators.findIdx? fun indicator => (utils.lastIndexOfString tmpBuffer indicator).isSome

/-- The flag for an indicator. The loop over the indicators has an `i` of its own, so that the entry
that is flagged is the one with the number of the indicator, not the one of the column; none where it
is outside of the array. -/
def setAdmin (data : List TssAcidData) : Option Nat → Option (List TssAcidData)
  | none => some data
  | some i =>
    if i < data.length then some (data.modify i fun acid => { acid with isAdmin := true }) else none

/-- `getAcidsInLine` from a position, with so many turns to go: the array of the caller, and how many
ACIDs are in it; none where it writes outside of the array. -/
def acidsInLineFrom (text : Text) :
    Nat → Nat → List TssAcidData → Nat → Option (List TssAcidData × Nat)
  | 0, _, data, acidCounter => some (data, acidCounter)
  | left + 1, startPos, data, acidCounter =>
    let startPos := startPos + ((text.drop startPos).findIdx? (· ≠ ' ')).getD 0
    let tmpBuffer := (text.drop startPos).take 11
    if tmpBuffer = [] then some (data, acidCounter)
    else
      let acid := utils.padWithSpaces ((tmpBuffer ++ zeroBuffer 8).take 8)
      (setAdmin (data.set acidCounter ⟨acid, false⟩) (adminIndicatorIn utils tmpBuffer)).bind
        fun data => acidsInLineFrom text left (startPos + acidOffset) data (acidCounter + 1)

/-- `getAcidsInLine`. -/
def getAcidsInLine (text : Text) (data : List TssAcidData) (startPos : Nat) :
    Option (List TssAcidData × Nat) :=
  acidsInLineFrom utils text 4 startPos data 0

/-- The array that the extracting pass has for a line. -/
def acidsOfLine : List TssAcidData := List.replicate 4 ⟨zeroBuffer 8, false⟩

/-- What the extracting pass keeps: the entries, where the next line that is not blank starts, and
whether something was written outside of the array for a line. -/
structure GroupWalk where
  buffer : List ZisGroupAccessEntry
  startPos : Nat
  overrun : Bool

/-- A line of the extracting pass; none for -1. -/
def extractAcids (walk : GroupWalk) (line : Text) : Option GroupWalk :=
  if tssIsLineBlank line then some walk
  else
    match getAcidsInLine utils line acidsOfLine walk.startPos with
    | none => some { walk with overrun := true }
    | some (acids, acidsFound) =>
      if acidsFound = 0 ∨ acidsFound > 4 then none
      else some ⟨walk.buffer ++ (acids.take acidsFound).map TssAcidData.entry, 0, false⟩

/-- The extracting pass returns at a line with the buffer full or the output done. What it does after
a write outside of the array is not modelled. -/
def stopsExtracting (entriesToExtract : Nat) (walk : GroupWalk) (line : Text) : Bool :=
  walk.overrun ∨ walk.buffer.length = entriesToExtract ∨ tssIsOutputDone line

/-- What the handler returns where the extracting pass comes to an end; none after a write outside of
the array. -/
def GroupWalk.result (walk : GroupWalk) (entriesExtracted entriesFound : Int) :
    Option (Int × TssGroupAccessListParms) :=
  if walk.overrun then none else some (0, ⟨walk.buffer, entriesExtracted, entriesFound⟩)

/-- The counting pass ends at the end of the output. -/
def stopsCounting (_numberOfLines : Nat) (line : Text) : Bool := tssIsOutputDone line

/-- A line of the counting pass. -/
def countLine (numberOfLines : Nat) (line : Text) : Option Nat :=
  some (if tssIsLineBlank line then numberOfLines else numberOfLines + 1)

/-- A pass over the lines after the first of the first block and over the other blocks. -/
def laggingWalk {σ : Type} (stops : σ → Text → Bool) (step : σ → Text → Option σ)
    (lastByteOffset : Nat) (state : σ) (lines : List Text) (blocks : List RadminCommandOutput) :
    Option (LineWalk σ) :=
  match lineWalk stops step lastByteOffset firstLineOffset state lines with
  | some (.passed state) => blockWalk stops step state blocks
  | result => result

/-- The number of lines that `getNumberOfLinesOfData` counts in all blocks. -/
def numberOfLinesOfData (lastByteOffset : Nat) (lines : List Text)
    (blocks : List RadminCommandOutput) : Option Nat :=
  match laggingWalk stopsCounting countLine lastByteOffset 0 lines blocks with
  | some (.stopped numberOfLines) | some (.passed numberOfLines) => some numberOfLines
  | some .failed | none => none

/-- Four entries for each line, as an integer. -/
def entriesEstimated (numberOfLines : Nat) : Int := i32 (u32 (numberOfLines * 4 : Nat))

/-- `groupAccessListHandler`: its return code, and what it set; none where it reads past a block or
writes outside of the array of a line. The buffer of a failed pass is left out. -/
def groupAccessListHandler (entriesToExtract : Nat) (status : RadminApiStatus)
    (result : List RadminCommandOutput) : Option (Int × TssGroupAccessListParms) :=
  if status.racfRC ≠ 0 then some (status.racfRC, ⟨[], 0, 0⟩)
  else
    match result with
    | [] => some (0, ⟨[], 0, 0⟩)
    | block :: blocks =>
      match block.lines with
      | [] => none
      | header :: lines =>
        if tssIsErrorDetected header then some (-1, ⟨[], 0, 0⟩)
        else
          match numberOfLinesOfData block.lastByteOffset lines blocks, lines with
          | some numberOfLines, line :: _ =>
            let entriesFound := entriesEstimated numberOfLines
            match utils.indexOfString line tssAcidsKey, utils.indexOfString line tssKeyDelimiter with
            | some _, some delimIndex =>
              match laggingWalk (stopsExtracting entriesToExtract) (extractAcids utils)
                block.lastByteOffset ⟨[], delimIndex + tssKeyDelimiterLen, false⟩ lines blocks with
              | none => none
              | some .failed => some (-1, ⟨[], 0, entriesFound⟩)
              | some (.stopped walk) => walk.result (i32 walk.buffer.length) entriesFound
              | some (.passed walk) => walk.result 0 entriesFound
            | _, _ => some (-1, ⟨[], 0, entriesFound⟩)
          | _, _ => none

/-! ## The service -/

/-- `validateGroupAccessListParmList`. -/
def validateGroupAccessListParmList (parm : GroupListParmList) : Int :=
  if parm.eyecatcher ≠ zisGrpalstServiceParmlistEyecatcher then rcZisGrpalsrvBadEyecatcher
  else if parm.groupLength > zisSecurityGroupMaxLength then rcZisGrpalsrvGroupTooLong
  else if !parm.resultBuffer then rcZisGrpalsrvResultBuffNull
  else rcZisGrpalsrvOk

/-- The group of a parm list, as far as a null-terminated copy goes. -/
def GroupListParmList.group (parm : GroupListParmList) : Text :=
  (parm.groupValue.take parm.groupLength).takeWhile (· ≠ nul)

def groupListCommand (group : Text) : Text :=
  (['T', 'S', 'S', ' ', 'L', 'I', 'S', 'T', '('] ++ group ++
    [')', ' ', 'D', 'A', 'T', 'A', '(', 'A', 'C', 'I', 'D', 'S', ')']).take
      tssGrpAccessListExtrMaxLen

def callerListCommand (caller : Text) : Text :=
  (['T', 'S', 'S', ' ', 'L', 'I', 'S', 'T', '('] ++ (caller.take 8).takeWhile (· ≠ nul) ++
    [')']).take tssGrpAccessListExtrCallerMaxLen

/-- The second command, with the privileges of the caller: what `radminRunRACFCommand` returns for
it, and the parms it leaves. -/
def listCaller (run : RadminRun) (parm : GroupListParmList) (caller : Text)
    (parms : TssGroupAccessListParms) : Int × TssGroupAccessListParms :=
  let callerParms : TssCallerProfileParms :=
    { extractGroups := true, searchGroup := parm.group, extractProfiles := false,
      searchClass := [], profilesToExtract := parm.resultBufferCapacity,
      filterByPrefix := none, filterByProfile := none }
  let (handlerRC, profiles) := callerProfileHandler utils callerParms run.apiStatus run.output
  let radminExtractRC := run.rc handlerRC
  if radminExtractRC = rcRadminOk ∧ profiles.isInGroup then
    (radminExtractRC, ⟨[⟨caller, ['U', 'S', 'E']⟩], 1, 1⟩)
  else (radminExtractRC, parms)

/-- How many more entries were found than extracted, as an integer. -/
def entryDifference (entriesFound entriesExtracted : Int) : Int :=
  i32 (u32 (entriesFound - entriesExtracted))

/-- What the service makes of the last command. -/
def replyOfGroupList (run : RadminRun) (parm : GroupListParmList) (radminExtractRC : Int)
    (parms : TssGroupAccessListParms) : Int × GroupListReply :=
  if radminExtractRC = rcRadminOk ∧
      4 < entryDifference parms.entriesFound parms.entriesExtracted then
    (rcZisGrpalsrvInsufficientSpace,
      { resultBuffer := []
        output := { parm.output with
          entriesExtracted := 0
          entriesFound := u32 parms.entriesFound } })
  else if radminExtractRC = rcRadminOk ∧
      entryDifference parms.entriesFound parms.entriesExtracted ≤ 4 then
    (rcZisGrpalsrvOk,
      { resultBuffer := parms.tmpResultBuffer.take (u32 parms.entriesExtracted)
        output := { parm.output with
          entriesExtracted := u32 parms.entriesExtracted
          entriesFound := u32 parms.entriesExtracted } })
  else
    (rcZisGrpalsrvInternalServiceFailed,
      { resultBuffer := []
        output := { parm.output with
          internalServiceRC := radminExtractRC
          internalServiceRSN := run.reasonCode
          safStatus := run.apiStatus } })

/-- `zisGroupAccessListServiceFunctionTSS`: the return code, and the reply unless the call ends
before its command; none where the handler has no result. -/
def zisGroupAccessListServiceFunctionTSS (env : GroupListEnv) (parm : Option GroupListParmList) :
    Option (Int × Option GroupListReply) :=
  match parm with
  | none => some (rcZisGrpalsrvParmlistNull, none)
  | some parm =>
    let parmValidateRC := validateGroupAccessListParmList parm
    if parmValidateRC ≠ rcZisGrpalsrvOk then some (parmValidateRC, none)
    else
      match env.secmgmtGetCallerUserID with
      | none => some (rcZisGrpalsrvImpersonationMissing, none)
      | some caller =>
        if !env.safeMalloc (16 * parm.resultBufferCapacity) then
          some (rcZisGrpalsrvAllocFailed, none)
        else
          let run := env.radminRunRACFCommand (groupListCommand parm.group)
          match groupAccessListHandler utils parm.resultBufferCapacity run.apiStatus run.output with
          | none => none
          | some (handlerRC, parms) =>
            if run.rc handlerRC = rcRadminOk then
              some ((replyOfGroupList run parm rcRadminOk parms).map id some)
            else
              let callerRun := env.radminRunRACFCommand (callerListCommand caller)
              let (radminExtractRC, parms) := listCaller utils callerRun parm caller parms
              some ((replyOfGroupList callerRun parm radminExtractRC parms).map id some)

end

end Zss.Tss
