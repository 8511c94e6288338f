import Zss.Lib.Machine
import Zss.Lib.Program
import Zss.Tss.Admin
import Zss.Tss.GroupProfiles

/-!
# The extraction services on RACF

The five services of `secmgmt.c` that list users, general resources, groups and the access lists of
the latter two. They are one program, `extractionService`: it has R_admin store what it finds in
storage of its own and copies that to its caller, entry by entry. What differs from service to
service is an `ExtractionService`. The copies that make up an entry are a `ResultCopy`, which carries
the proof that an entry is complete once all are made.

The parm list is there as it was copied from the caller. The copies from and to the caller's storage
use the caller's key and may abend, and no service of `secmgmt.c` recovers from that: their abends
are left out, as is the copy of the parm list itself.
-/

namespace Zss.Racf

open Zss.Lib Program
open Zss.Tss (Text CountedText RadminApiStatus RadminStatus ZisGenresAccessEntry
  ZisGenresProfileEntry ZisGroupAccessEntry ZisGroupProfileEntry zeroBuffer printedString rcRadminOk
  zisUserIdMaxLength zisSecurityClassMaxLength zisSecurityProfileMaxLength
  zisSecurityGroupMaxLength)

/-! ## Parm lists -/

/-- The output fields of the parm lists. Only those of access lists have `entriesFound`. -/
structure ExtractionOutput where
  entriesExtracted : BitVec 32
  entriesFound : BitVec 32
  internalServiceRC : Int
  internalServiceRSN : Int
  safStatus : RadminApiStatus

/-- The parm lists: the class is there in those of general resources, the name is the one to start
with or the one whose list is asked for, and the capacity is how many entries the buffer holds. -/
structure ExtractionParmList where
  eyecatcher : Text
  className : Option CountedText
  name : CountedText
  capacity : BitVec 32
  resultBuffer : Option Nat
  output : ExtractionOutput

/-! ## Services -/

/-- How an entry of R_admin comes to the caller: by copies, each into a part of the caller's entry. -/
structure ResultCopy (Info Entry : Type) where
  Write : Type
  apply : Entry → Write → Entry
  writes : Info → List Write
  entry : Info → Entry
  complete : ∀ info old, (writes info).foldl apply old = entry info

/-- The codes of a service that reads the class parameter. -/
structure ClassCodes where
  classTooLong : Int
  userClassNotRead : Int

/-- The return codes of a service. -/
structure ExtractionCodes where
  parmlistNull : Int
  badEyecatcher : Int
  userClass : Option ClassCodes
  nameTooLong : Int
  resultBuffNull : Int
  impersonationMissing : Int
  internalServiceFailed : Int
  allocFailed : Int
  insufficientSpace : Option Int

/-- The codes of a service that did not ask R_admin. -/
def ExtractionCodes.refusals (codes : ExtractionCodes) : List Int :=
  [codes.parmlistNull, codes.badEyecatcher, codes.nameTooLong, codes.resultBuffNull,
    codes.impersonationMissing, codes.allocFailed] ++
    codes.userClass.toList.flatMap fun codes => [codes.classTooLong, codes.userClassNotRead]

/-- A service: what it looks for in its parm list, whether an empty name is none at all, the size of
an entry of R_admin, and how such an entry comes to the caller. Success has the code zero, and a
buffer that is too small a code of its own. -/
structure ExtractionService (Info Entry : Type) extends ResultCopy Info Entry where
  eyecatcher : Text
  maxNameLength : Nat
  emptyIsNull : Bool
  infoSize : Nat
  codes : ExtractionCodes
  failing : ∀ rc ∈ codes.internalServiceFailed :: codes.refusals,
    rc ≠ 0 ∧ codes.insufficientSpace ≠ some rc
  insufficient_ne : codes.insufficientSpace ≠ some 0

/-- What R_admin answers: its return code, its status, and the entries it stored. -/
structure RadminAnswer (Info : Type) (capacity : Nat) where
  rc : Int
  status : RadminStatus
  entries : List Info
  /-- R_admin stores no more than there is room for. -/
  entries_le : entries.length ≤ capacity

/-- What R_admin is asked: for whom, in which class, from which name on or for which name, for how
many entries, and where these are to be stored. -/
structure RadminRequest where
  userID : CountedText
  className : Option Text
  name : Option Text
  capacity : Nat
  buffer : Nat

/-- The common library: the sizes of R_admin's entries, and its code for a buffer that is too
small. -/
structure RadminExtraction where
  userInfoSize : Nat
  genresInfoSize : Nat
  groupInfoSize : Nat
  accessEntrySize : Nat
  insuffSpace : Int
  insuffSpace_ne : insuffSpace ≠ rcRadminOk

def zisParmlibParmSecmgmtUserClass : Text :=
  ['Z', 'W', 'E', 'S', '.', 'S', 'E', 'C', 'M', 'G', 'M', 'T', '.', 'C', 'L', 'A', 'S', 'S']

/-! ## Calls -/

inductive ExtractionCall (Write : Type) where
  | secmgmtGetCallerUserID
  | cmsGetConfigParm (name : Text)
  | safeMalloc64v3 (size : Nat)
  | radminExtract (request : RadminRequest)
  | cmCopyToSecondary (index : Nat) (write : Write)
  | safeFree64v3 (buffer size : Nat)

abbrev ExtractionCall.Answer (Info : Type) {Write : Type} : ExtractionCall Write → Type
  | .secmgmtGetCallerUserID => Option CountedText
  | .cmsGetConfigParm _ => Except Int CountedText
  | .safeMalloc64v3 _ => Option Nat
  | .radminExtract request => RadminAnswer Info request.capacity
  | .cmCopyToSecondary _ _ => Unit
  | .safeFree64v3 _ _ => Int

@[reducible] def extractionCalls (Info Write : Type) : Interface :=
  ⟨ExtractionCall Write, ExtractionCall.Answer Info⟩

section

variable {Info Write : Type}

def secmgmtGetCallerUserID : Program (extractionCalls Info Write) (Option CountedText) :=
  ask (I := extractionCalls Info Write) .secmgmtGetCallerUserID

def cmsGetConfigParm (name : Text) : Program (extractionCalls Info Write) (Except Int CountedText) :=
  ask (I := extractionCalls Info Write) (.cmsGetConfigParm name)

def safeMalloc64v3 (size : Nat) : Program (extractionCalls Info Write) (Option Nat) :=
  ask (I := extractionCalls Info Write) (.safeMalloc64v3 size)

def radminExtract (request : RadminRequest) :
    Program (extractionCalls Info Write) (RadminAnswer Info request.capacity) :=
  ask (I := extractionCalls Info Write) (.radminExtract request)

def cmCopyToSecondary (index : Nat) (write : Write) : Program (extractionCalls Info Write) Unit :=
  ask (I := extractionCalls Info Write) (.cmCopyToSecondary index write)

def safeFree64v3 (buffer size : Nat) : Program (extractionCalls Info Write) Int :=
  ask (I := extractionCalls Info Write) (.safeFree64v3 buffer size)

/-! ## The program -/

/-- The copies of one entry. -/
def copyEntry (index : Nat) : List Write → Program (extractionCalls Info Write) Unit
  | [] => pure ()
  | write :: writes => do
    cmCopyToSecondary index write
    copyEntry index writes

/-- The loop that copies, from an entry on. -/
def copyEntries (writes : Info → List Write) :
    Nat → List Info → Program (extractionCalls Info Write) Unit
  | _, [] => pure ()
  | index, info :: src => do
    copyEntry index (writes info)
    copyEntries writes (index + 1) src

end

section

variable {Info Entry : Type} (radmin : RadminExtraction) (service : ExtractionService Info Entry)

/-- The class of a parm list that is too long. -/
def refusedClass (parm : ExtractionParmList) : Option Int := do
  let codes ← service.codes.userClass
  let className ← parm.className
  if className.length > zisSecurityClassMaxLength then some codes.classTooLong else none

/-- The validators. -/
def validateParmList (parm : ExtractionParmList) : Int :=
  if parm.eyecatcher ≠ service.eyecatcher.take 8 then service.codes.badEyecatcher
  else
    match refusedClass service parm with
    | some rc => rc
    | none =>
      if parm.name.length > service.maxNameLength then service.codes.nameTooLong
      else if parm.resultBuffer.isNone then service.codes.resultBuffNull
      else 0

/-- The name R_admin gets. -/
def startName (name : CountedText) : Option Text :=
  if service.emptyIsNull ∧ ¬ name.length > 0 then none else some name.printed

/-- The class R_admin gets, where the service asks for one; or how the service ends. -/
def readUserClass (output : ExtractionOutput) :
    Program (extractionCalls Info service.Write) (Except (Int × ExtractionOutput) (Option Text)) :=
  match service.codes.userClass with
  | none => pure (.ok none)
  | some codes => do
    match ← cmsGetConfigParm zisParmlibParmSecmgmtUserClass with
    | .error getParmRC =>
      pure (.error (codes.userClassNotRead, { output with internalServiceRC := getParmRC }))
    | .ok userClassParm =>
      if userClassParm.length > zisSecurityClassMaxLength then
        pure (.error (codes.classTooLong, output))
      else pure (.ok (some (printedString userClassParm.value)))

/-- The output fields where R_admin fails. -/
def ExtractionOutput.failed {capacity : Nat} (output : ExtractionOutput)
    (answer : RadminAnswer Info capacity) : ExtractionOutput :=
  { output with
    internalServiceRC := answer.rc
    internalServiceRSN := answer.status.reasonCode
    safStatus := answer.status.apiStatus }

/-- What becomes of the answer of R_admin. Only the services for access lists count the entries that
there are, and tell a buffer that is too small from other failures. -/
def takeAnswer {capacity : Nat} (answer : RadminAnswer Info capacity) (output : ExtractionOutput) :
    Program (extractionCalls Info service.Write) (Int × ExtractionOutput) := do
  if answer.rc = rcRadminOk then
    let extracted := BitVec.ofNat 32 answer.entries.length
    copyEntries service.writes 0 (answer.entries.take extracted.toNat)
    match service.codes.insufficientSpace with
    | some _ => pure (0, { output with entriesExtracted := extracted, entriesFound := extracted })
    | none => pure (0, { output with entriesExtracted := extracted })
  else
    match service.codes.insufficientSpace with
    | some insufficientSpace =>
      if answer.rc = radmin.insuffSpace then
        pure (insufficientSpace, { output with
          entriesExtracted := 0#32
          entriesFound := BitVec.ofInt 32 answer.status.reasonCode })
      else pure (service.codes.internalServiceFailed, output.failed answer)
    | none => pure (service.codes.internalServiceFailed, output.failed answer)

/-- What a service does with a valid parm list: its status, and the output fields. -/
def extract (parm : ExtractionParmList) :
    Program (extractionCalls Info service.Write) (Int × ExtractionOutput) := do
  match ← secmgmtGetCallerUserID with
  | none => pure (service.codes.impersonationMissing, parm.output)
  | some caller =>
    match ← readUserClass service parm.output with
    | .error ended => pure ended
    | .ok className =>
      let tmpResultBufferSize := service.infoSize * parm.capacity.toNat
      match ← safeMalloc64v3 tmpResultBufferSize with
      | none => pure (service.codes.allocFailed, parm.output)
      | some tmpResultBuffer => do
        let answer ← radminExtract ⟨caller, className, startName service parm.name,
          parm.capacity.toNat, tmpResultBuffer⟩
        let result ← takeAnswer radmin service answer parm.output
        let _ ← safeFree64v3 tmpResultBuffer tmpResultBufferSize
        pure result

/-- A service: its status, and the parm list where it is copied back. -/
def extractionService (parm : Option ExtractionParmList) :
    Program (extractionCalls Info service.Write) (Int × Option ExtractionParmList) :=
  match parm with
  | none => pure (service.codes.parmlistNull, none)
  | some parm =>
    let parmValidateRC := validateParmList service parm
    if parmValidateRC ≠ 0 then pure (parmValidateRC, none)
    else do
      let (status, output) ← extract radmin service parm
      pure (status, some { parm with output := output })

end

/-! ## The services -/

/-- The bytes of a field, with zeros behind them where the caller's field is longer. -/
def zeroFilled (size : Nat) (field : Text) : Text :=
  (field ++ zeroBuffer (size - field.length)).take size

/-- Entries that are copied at once. -/
def ResultCopy.whole {Info Entry : Type} (entry : Info → Entry) : ResultCopy Info Entry where
  Write := Entry
  apply _ write := write
  writes info := [entry info]
  entry := entry
  complete _ _ := rfl

/-- `RadminBasicUserPofileInfo`. -/
structure RadminBasicUserProfileInfo where
  userID : Text
  defaultGroup : Text
  name : Text

/-- `RadminBasicGenresPofileInfo`. -/
structure RadminBasicGenresProfileInfo where
  profile : Text
  owner : Text

structure RadminAccessListEntry where
  id : Text
  accessType : Text

/-- `RadminBasicGroupPofileInfo`. -/
structure RadminBasicGroupProfileInfo where
  group : Text
  owner : Text
  superiorGroup : Text

/-- `ZISUserProfileEntry`. -/
structure ZisUserProfileEntry where
  userID : Text
  defaultGroup : Text
  name : Text

/-- `copyUserProfiles`. -/
def copyUserProfiles : ResultCopy RadminBasicUserProfileInfo ZisUserProfileEntry :=
  .whole fun src => ⟨zeroFilled 8 src.userID, zeroFilled 8 src.defaultGroup, zeroFilled 32 src.name⟩

/-- `copyGenresProfiles`. -/
def copyGenresProfiles : ResultCopy RadminBasicGenresProfileInfo ZisGenresProfileEntry :=
  .whole fun src =>
    ⟨zeroFilled zisSecurityProfileMaxLength src.profile, zeroFilled 8 src.owner⟩

/-- The copies of an entry of an access list. -/
inductive AccessWrite where
  | id (id : Text)
  | accessType (accessType : Text)

/-- `copyGenresAccessList`. -/
def copyGenresAccessList : ResultCopy RadminAccessListEntry ZisGenresAccessEntry where
  Write := AccessWrite
  apply dest
    | .id id => { dest with id := id }
    | .accessType accessType => { dest with accessType := accessType }
  writes src := [.id (src.id.take 8), .accessType (src.accessType.take 8)]
  entry src := ⟨src.id.take 8, src.accessType.take 8⟩
  complete _ _ := rfl

/-- `copyGroupAccessList`. -/
def copyGroupAccessList : ResultCopy RadminAccessListEntry ZisGroupAccessEntry where
  Write := AccessWrite
  apply dest
    | .id id => { dest with id := id }
    | .accessType accessType => { dest with accessType := accessType }
  writes src := [.id (src.id.take 8), .accessType (src.accessType.take 8)]
  entry src := ⟨src.id.take 8, src.accessType.take 8⟩
  complete _ _ := rfl

/-- The copies of a group. -/
inductive GroupWrite where
  | group (group : Text)
  | owner (owner : Text)
  | superiorGroup (superiorGroup : Text)

/-- `copyGroupProfiles`. -/
def copyGroupProfiles : ResultCopy RadminBasicGroupProfileInfo ZisGroupProfileEntry where
  Write := GroupWrite
  apply dest
    | .group group => { dest with group := group }
    | .owner owner => { dest with owner := owner }
    | .superiorGroup superiorGroup => { dest with superiorGroup := superiorGroup }
  writes src :=
    [.group (src.group.take zisSecurityGroupMaxLength), .owner (src.owner.take 8),
      .superiorGroup (src.superiorGroup.take zisSecurityGroupMaxLength)]
  entry src :=
    ⟨src.group.take zisSecurityGroupMaxLength, src.superiorGroup.take zisSecurityGroupMaxLength,
      src.owner.take 8⟩
  complete _ _ := rfl

section

variable (radmin : RadminExtraction)

def userProfilesService : ExtractionService RadminBasicUserProfileInfo ZisUserProfileEntry where
  toResultCopy := copyUserProfiles
  eyecatcher := ['R', 'S', 'U', 'P', 'R', 'O', 'F', 'S']
  maxNameLength := zisUserIdMaxLength
  emptyIsNull := true
  infoSize := radmin.userInfoSize
  codes :=
    { parmlistNull := 8
      badEyecatcher := 9
      userClass := none
      nameTooLong := 10
      resultBuffNull := 11
      impersonationMissing := 13
      internalServiceFailed := 14
      allocFailed := 15
      insufficientSpace := none }
  failing := by decide
  insufficient_ne := by decide

def genresProfilesService :
    ExtractionService RadminBasicGenresProfileInfo ZisGenresProfileEntry where
  toResultCopy := copyGenresProfiles
  eyecatcher := ['R', 'S', 'G', 'P', 'R', 'O', 'F', 'S']
  maxNameLength := zisSecurityProfileMaxLength
  emptyIsNull := true
  infoSize := radmin.genresInfoSize
  codes :=
    { parmlistNull := 8
      badEyecatcher := 9
      userClass := some ⟨10, 18⟩
      nameTooLong := 11
      resultBuffNull := 12
      impersonationMissing := 15
      internalServiceFailed := 16
      allocFailed := 17
      insufficientSpace := none }
  failing := by decide
  insufficient_ne := by decide

def genresAccessListService : ExtractionService RadminAccessListEntry ZisGenresAccessEntry where
  toResultCopy := copyGenresAccessList
  eyecatcher := ['R', 'S', 'A', 'C', 'S', 'L', 'S', 'T']
  maxNameLength := zisSecurityProfileMaxLength
  emptyIsNull := false
  infoSize := radmin.accessEntrySize
  codes :=
    { parmlistNull := 8
      badEyecatcher := 9
      userClass := some ⟨10, 17⟩
      nameTooLong := 11
      resultBuffNull := 12
      impersonationMissing := 13
      internalServiceFailed := 15
      allocFailed := 14
      insufficientSpace := some 16 }
  failing := by decide
  insufficient_ne := by decide

def groupProfilesService : ExtractionService RadminBasicGroupProfileInfo ZisGroupProfileEntry where
  toResultCopy := copyGroupProfiles
  eyecatcher := ['R', 'S', 'G', 'R', 'P', 'P', 'R', 'F']
  maxNameLength := zisSecurityGroupMaxLength
  emptyIsNull := true
  infoSize := radmin.groupInfoSize
  codes :=
    { parmlistNull := 8
      badEyecatcher := 9
      userClass := none
      nameTooLong := 10
      resultBuffNull := 11
      impersonationMissing := 13
      internalServiceFailed := 14
      allocFailed := 15
      insufficientSpace := none }
  failing := by decide
  insufficient_ne := by decide

/-- The eyecatcher has nine characters, of which eight are compared. -/
def groupAccessListService : ExtractionService RadminAccessListEntry ZisGroupAccessEntry where
  toResultCopy := copyGroupAccessList
  eyecatcher := ['R', 'S', 'G', 'R', 'P', 'A', 'L', 'S', 'T']
  maxNameLength := zisSecurityGroupMaxLength
  emptyIsNull := false
  infoSize := radmin.accessEntrySize
  codes :=
    { parmlistNull := 8
      badEyecatcher := 9
      userClass := none
      nameTooLong := 10
      resultBuffNull := 11
      impersonationMissing := 12
      internalServiceFailed := 14
      allocFailed := 13
      insufficientSpace := some 15 }
  failing := by decide
  insufficient_ne := by decide

def zisUserProfilesServiceFunctionRACF := extractionService radmin (userProfilesService radmin)

def zisGenresProfilesServiceFunctionRACF := extractionService radmin (genresProfilesService radmin)

def zisGenresAccessListServiceFunctionRACF :=
  extractionService radmin (genresAccessListService radmin)

def zisGroupProfilesServiceFunctionRACF := extractionService radmin (groupProfilesService radmin)

def zisGroupAccessListServiceFunctionRACF :=
  extractionService radmin (groupAccessListService radmin)

end

end Zss.Racf
