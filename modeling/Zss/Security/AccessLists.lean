import Zss.Lib.Machine
import Zss.Lib.Program
import Zss.Zis.Router

/-!
# Access lists with one retry

The three functions of `securityService.c` that fetch an access list: into a buffer of a default
size, and where the service answers that it is too small, once more into one of the size that is
answered. They are programs by the calls they make, for storage, to the service and to respond;
what the service answers is the world's.

`accessRules` are the rules of these calls: a list is shown only from a buffer that is held, after a
last extraction that returned OK and stored as many entries in this buffer as are shown.

## What is not established

That the list is the one of the profile or the group: the service may answer anything here
(`Zss.Security.ShownLists` has RACF's).
-/

namespace Zss.Security

open Zss.Lib Program
open Zss.Zis (rcZisSrvcOk rcZisSrvcServiceFailed rcZisSrvcCmsFailed)

abbrev Text := List Char

/-! ## Constants -/

def rcCmsOk : Int := 0
def zisMaxGenSrvcRc : Int := 32

def zisSecurityClassMaxLength : Nat := 8
def zisSecurityProfileMaxLength : Nat := 255
def zisSecurityGroupMaxLength : Nat := 8

def rcZisAcslsrvInsufficientSpace : Int := 16
def rcZisGrpalsrvInsufficientSpace : Int := 15
/-- `RC_ZIS_ACSLSRV_OK`, `RC_ZIS_GRPALSRV_OK`. -/
def rcAccessListOk : Int := 0

def rcZisSrvcAcslsrvClassTooLong : Int := zisMaxGenSrvcRc + 1
def rcZisSrvcAcslsrvProfileNull : Int := zisMaxGenSrvcRc + 2
def rcZisSrvcAcslsrvProfileTooLong : Int := zisMaxGenSrvcRc + 3
def rcZisSrvcAcslsrvResultBuffNull : Int := zisMaxGenSrvcRc + 4
def rcZisSrvcAcslsrvInsufficientBuffer : Int := zisMaxGenSrvcRc + 6

def rcZisSrvcGrpalsrvGroupNull : Int := zisMaxGenSrvcRc + 1
def rcZisSrvcGrpalsrvGroupTooLong : Int := zisMaxGenSrvcRc + 2
def rcZisSrvcGrpalsrvResultBuffNull : Int := zisMaxGenSrvcRc + 3
def rcZisSrvcGrpalsrvInsufficientBuffer : Int := zisMaxGenSrvcRc + 5

def classMgmtAccessListDefaultSize : Nat := 128
def classMgmtAccessListMaxSize : Nat := 8192
def groupMgmtAccessListDefaultSize : Nat := 128
def groupMgmtAccessListMaxSize : Nat := 8192

def httpStatusForbidden : Nat := 403
def httpStatusInternalServerError : Nat := 500
def httpStatusNotImplemented : Nat := 501

/-! ## The extraction -/

/-- The two kinds of access lists. -/
inductive AccessKind where
  | profile
  | group
deriving DecidableEq

/-- The sizes of `ZISGenresAccessEntry` and `ZISGroupAccessEntry`. -/
def AccessKind.entrySize : AccessKind → Nat
  | .profile => 16
  | .group => 16

def AccessKind.insufficientSpace : AccessKind → Int
  | .profile => rcZisAcslsrvInsufficientSpace
  | .group => rcZisGrpalsrvInsufficientSpace

def AccessKind.insufficientBuffer : AccessKind → Int
  | .profile => rcZisSrvcAcslsrvInsufficientBuffer
  | .group => rcZisSrvcGrpalsrvInsufficientBuffer

/-- What a list is asked for by. -/
inductive AccessRequest : AccessKind → Type where
  | profile (className profileName : Option Text) : AccessRequest .profile
  | group (groupName : Option Text) : AccessRequest .group
deriving DecidableEq

/-- The status that a failing extraction leaves. -/
structure AccessListStatus where
  cmsRC : Int
  serviceRC : Int
  internalServiceRC : Int
  internalServiceRSN : Int
  safStatus : Int × Int × Int
deriving DecidableEq

def AccessListStatus.zero : AccessListStatus := ⟨0, 0, 0, 0, (0, 0, 0)⟩

/-- What the service answers to a call with a buffer for so many entries, and the entries it stores
there. -/
structure ServiceAnswer (α : Type) (capacity : Nat) where
  cmsCallRC : Int
  serviceRC : Int
  entriesExtracted : Nat
  entriesFound : Nat
  internalServiceRC : Int
  internalServiceRSN : Int
  safStatus : Int × Int × Int
  entries : List α
  /-- The service stores no more than there is room for. -/
  entries_le : entries.length ≤ capacity
  /-- A service that is OK counts what it stored. -/
  counted : cmsCallRC = rcCmsOk → serviceRC = rcAccessListOk → entriesExtracted = entries.length

/-- The variables that an extraction changes. -/
structure AccessVars where
  entriesExtracted : Nat
  status : AccessListStatus

def AccessVars.zero : AccessVars := ⟨0, .zero⟩

/-- A name that is there and too long. -/
def tooLong (name : Option Text) (maxLength : Nat) : Bool := name.any fun name =>
  name.length > maxLength

/-- The return code of an extraction that comes to no call of the service. -/
def AccessRequest.refusal : {kind : AccessKind} → AccessRequest kind → Option Nat → Option Int
  | _, .profile className profileName, resultBuffer =>
    if tooLong className zisSecurityClassMaxLength then some rcZisSrvcAcslsrvClassTooLong
    else if profileName.isNone then some rcZisSrvcAcslsrvProfileNull
    else if tooLong profileName zisSecurityProfileMaxLength then
      some rcZisSrvcAcslsrvProfileTooLong
    else if resultBuffer.isNone then some rcZisSrvcAcslsrvResultBuffNull
    else none
  | _, .group groupName, resultBuffer =>
    if groupName.isNone then some rcZisSrvcGrpalsrvGroupNull
    else if tooLong groupName zisSecurityGroupMaxLength then some rcZisSrvcGrpalsrvGroupTooLong
    else if resultBuffer.isNone then some rcZisSrvcGrpalsrvResultBuffNull
    else none

section

variable {α : Type} {kind : AccessKind}

/-- What an extraction makes of the answer of the service: its return code, and the variables. -/
def extractAccessList (request : AccessRequest kind) (resultBuffer : Option Nat) {capacity : Nat}
    (answer : ServiceAnswer α capacity) (vars : AccessVars) : Int × AccessVars :=
  match request.refusal resultBuffer with
  | some rc => (rc, vars)
  | none =>
    if answer.cmsCallRC ≠ rcCmsOk then
      (rcZisSrvcCmsFailed, { vars with
        status := { vars.status with cmsRC := answer.cmsCallRC } })
    else if answer.serviceRC = kind.insufficientSpace then
      (kind.insufficientBuffer, { vars with entriesExtracted := answer.entriesFound })
    else if answer.serviceRC ≠ rcAccessListOk then
      (rcZisSrvcServiceFailed, { vars with
        status := { vars.status with
          serviceRC := answer.serviceRC
          internalServiceRC := answer.internalServiceRC
          internalServiceRSN := answer.internalServiceRSN
          safStatus := answer.safStatus } })
    else (rcZisSrvcOk, { vars with entriesExtracted := answer.entriesExtracted })

/-! ## The calls -/

/-- The calls. The answer to an extraction is that of the service, where it is called. -/
inductive AccessCall where
  | safeMalloc (size : Nat)
  | slhAlloc (size : Nat)
  | zisExtractAccessList (kind : AccessKind) (request : AccessRequest kind)
      (resultBuffer : Option Nat) (resultBufferCapacity : Nat)
  | safeFree (resultBuffer : Option Nat)
  | respondWithError (status : Nat) (message : String)
  | respondWithZISError (kind : AccessKind) (zisRC : Int) (status : AccessListStatus)
  | respondWithAccessList (kind : AccessKind) (resultBuffer : Option Nat) (entries : Nat)
deriving DecidableEq

abbrev AccessCall.Answer (α : Type) : AccessCall → Type
  | .safeMalloc _ => Option Nat
  | .slhAlloc _ => Option Nat
  | .zisExtractAccessList _ _ _ capacity => ServiceAnswer α capacity
  | .safeFree _ => Unit
  | .respondWithError .. => Unit
  | .respondWithZISError .. => Unit
  | .respondWithAccessList .. => Unit

@[reducible] def accessCalls (α : Type) : Interface := ⟨AccessCall, AccessCall.Answer α⟩

def safeMalloc (size : Nat) : Program (accessCalls α) (Option Nat) :=
  ask (I := accessCalls α) (.safeMalloc size)

def slhAlloc (size : Nat) : Program (accessCalls α) (Option Nat) :=
  ask (I := accessCalls α) (.slhAlloc size)

def safeFree (resultBuffer : Option Nat) : Program (accessCalls α) Unit :=
  ask (I := accessCalls α) (.safeFree resultBuffer)

def respondWithError (status : Nat) (message : String) : Program (accessCalls α) Unit :=
  ask (I := accessCalls α) (.respondWithError status message)

def respondWithZISError (kind : AccessKind) (zisRC : Int) (status : AccessListStatus) :
    Program (accessCalls α) Unit :=
  ask (I := accessCalls α) (.respondWithZISError kind zisRC status)

def respondWithAccessList (kind : AccessKind) (resultBuffer : Option Nat) (entries : Nat) :
    Program (accessCalls α) Unit :=
  ask (I := accessCalls α) (.respondWithAccessList kind resultBuffer entries)

/-- `zisExtractGenresAccessList`, `zisExtractGroupAccessList`. -/
def zisExtractAccessList (request : AccessRequest kind) (resultBuffer : Option Nat)
    (resultBufferCapacity : Nat) (vars : AccessVars) :
    Program (accessCalls α) (Int × AccessVars) := do
  let answer ← ask (I := accessCalls α)
    (.zisExtractAccessList kind request resultBuffer resultBufferCapacity)
  pure (extractAccessList request resultBuffer answer vars)

/-! ## The handlers -/

/-- The size that a full buffer is answered with is none to retry with. -/
def outOfRange (maxSize entriesExtracted : Nat) : Bool :=
  entriesExtracted = 0 ∨ maxSize < entriesExtracted

/-- The loop of a handler with its turns left: the buffer, the return code and the variables it ends
with; none where it has responded. -/
def fetchLoop (request : AccessRequest kind) (maxSize : Nat) :
    Nat → Nat → Int → AccessVars → Program (accessCalls α) (Option (Option Nat × Int × AccessVars))
  | 0, _, zisRC, vars => pure (some (none, zisRC, vars))
  | turns + 1, capacity, _, vars => do
    match ← safeMalloc (kind.entrySize * capacity) with
    | none =>
      respondWithError httpStatusInternalServerError "out of memory"
      pure none
    | some resultBuffer =>
      let (zisRC, vars) ← zisExtractAccessList request (some resultBuffer) capacity vars
      if zisRC = kind.insufficientBuffer then do
        safeFree (some resultBuffer)
        if outOfRange maxSize vars.entriesExtracted then do
          respondWithError httpStatusInternalServerError "access list size our of range"
          pure none
        else fetchLoop request maxSize turns vars.entriesExtracted zisRC vars
      else pure (some (some resultBuffer, zisRC, vars))

/-- What a handler does once its request is admitted. -/
def fetchAndRespond (request : AccessRequest kind) (defaultSize maxSize : Nat) :
    Program (accessCalls α) Unit := do
  match ← fetchLoop request maxSize 2 defaultSize rcZisSrvcOk .zero with
  | none => pure ()
  | some (resultBuffer, zisRC, vars) =>
    if zisRC = rcZisSrvcOk then respondWithAccessList kind resultBuffer vars.entriesExtracted
    else respondWithZISError kind zisRC vars.status
    safeFree resultBuffer

/-- `ClassMgmtCommonParms`. -/
structure ClassMgmtCommonParms where
  className : Text
  profileName : Text
  accessListEntryID : Text

/-- `GroupMgmtCommonParms`. -/
structure GroupMgmtCommonParms where
  groupName : Text
  accessListEntryID : Text

def respondToProfileAccessListGET (commonParms : ClassMgmtCommonParms) :
    Program (accessCalls α) Unit :=
  if commonParms.className.length > 0 then respondWithError httpStatusForbidden "forbidden"
  else if commonParms.accessListEntryID.length > 0 then
    respondWithError httpStatusNotImplemented
      "specific user access status retrieval not implemented"
  else
    fetchAndRespond (.profile (some commonParms.className) (some commonParms.profileName))
      classMgmtAccessListDefaultSize classMgmtAccessListMaxSize

def respondToGroupAccessListGET (commonParms : GroupMgmtCommonParms) :
    Program (accessCalls α) Unit :=
  if commonParms.accessListEntryID.length > 0 then
    respondWithError httpStatusNotImplemented
      "specific user access status retrieval not implemented"
  else
    fetchAndRespond (.group (some commonParms.groupName)) groupMgmtAccessListDefaultSize
      groupMgmtAccessListMaxSize

/-- The loop of `getAccessListByGroupOrFail` with its turns left. A turn whose extraction is OK is
followed by the next one. -/
def groupLoop (group : Text) :
    Nat → Nat → Option Nat → AccessVars → Program (accessCalls α) (Option Nat × Nat)
  | 0, _, resultBuffer, vars => pure (resultBuffer, vars.entriesExtracted)
  | turns + 1, capacity, _, vars => do
    let resultBuffer ← slhAlloc (AccessKind.group.entrySize * capacity)
    let (zisRC, vars) ← zisExtractAccessList (.group (some group)) resultBuffer capacity vars
    if zisRC = rcZisSrvcGrpalsrvInsufficientBuffer then
      if outOfRange groupMgmtAccessListMaxSize vars.entriesExtracted then do
        respondWithError httpStatusInternalServerError "access list size our of range"
        pure (none, 0)
      else groupLoop group turns vars.entriesExtracted resultBuffer vars
    else if zisRC ≠ rcZisSrvcOk then do
      respondWithZISError .group zisRC vars.status
      pure (none, 0)
    else groupLoop group turns capacity resultBuffer vars

/-- `getAccessListByGroupOrFail`: the list, and `entryCount`. -/
def getAccessListByGroupOrFail (group : Text) : Program (accessCalls α) (Option Nat × Nat) :=
  groupLoop group 2 groupMgmtAccessListDefaultSize none .zero

/-! ## The rules of the calls -/

/-- A response. -/
inductive Response (α : Type) where
  | error (status : Nat) (message : String)
  | zisError (kind : AccessKind) (zisRC : Int) (status : AccessListStatus)
  | list (entries : List α)

def Response.isError : Response α → Bool
  | .list _ => false
  | _ => true

/-- The last extraction: the buffer it was given, its return code, and the entries it stored. -/
structure Extraction (α : Type) where
  resultBuffer : Option Nat
  zisRC : Int
  entries : List α

/-- The buffers that are held with their sizes, the last extraction, and the responses. -/
structure AccessUse (α : Type) where
  buffers : List (Nat × Nat)
  last : Option (Extraction α)
  responses : List (Response α)

def AccessUse.unused : AccessUse α := ⟨[], none, []⟩

/-- A buffer is held that has room for so many bytes. -/
def AccessUse.hasRoom (use : AccessUse α) (buffer size : Nat) : Bool :=
  use.buffers.any fun held => held.1 = buffer ∧ size ≤ held.2

/-- The entries that the last extraction stored, where it returned OK. -/
def AccessUse.stored (use : AccessUse α) : Option (List α) :=
  use.last.bind fun extraction =>
    if extraction.zisRC = rcZisSrvcOk then some extraction.entries else none

/-- The entries of a buffer that may be read: those that the last extraction stored there, and no
others. -/
def AccessUse.readable (use : AccessUse α) (kind : AccessKind) (buffer : Option Nat)
    (count : Nat) : Option (List α) :=
  match buffer, use.last with
  | some buffer, some extraction =>
    if extraction.resultBuffer = some buffer ∧ extraction.zisRC = rcZisSrvcOk ∧
        count = extraction.entries.length ∧ use.hasRoom buffer (kind.entrySize * count) then
      some extraction.entries
    else none
  | _, _ => none

/-- The rules. -/
def accessRules (α : Type) : Machine (AccessUse α) (Event (accessCalls α)) where
  step use
    | ⟨.safeMalloc size, (buffer : Option Nat)⟩ | ⟨.slhAlloc size, (buffer : Option Nat)⟩ =>
      some { use with buffers := buffer.toList.map (·, size) ++ use.buffers }
    | ⟨.zisExtractAccessList kind request buffer capacity,
        (answer : ServiceAnswer α capacity)⟩ =>
      if buffer.all fun buffer => use.hasRoom buffer (kind.entrySize * capacity) then
        some { use with
          last := some ⟨buffer, (extractAccessList request buffer answer .zero).1,
            answer.entries⟩ }
      else none
    | ⟨.safeFree none, _⟩ => some use
    | ⟨.safeFree (some buffer), _⟩ =>
      if use.hasRoom buffer 0 then
        some { use with buffers := use.buffers.eraseP fun held => held.1 = buffer }
      else none
    | ⟨.respondWithError status message, _⟩ =>
      some { use with responses := use.responses ++ [.error status message] }
    | ⟨.respondWithZISError kind zisRC status, _⟩ =>
      some { use with responses := use.responses ++ [.zisError kind zisRC status] }
    | ⟨.respondWithAccessList kind buffer count, _⟩ =>
      (use.readable kind buffer count).map fun entries =>
        { use with responses := use.responses ++ [.list entries] }

/-- One response, which shows what the last extraction stored where it returned OK, and is an error
else. -/
def AccessUse.RespondedWell (use : AccessUse α) : Prop :=
  match use.stored with
  | some entries => use.responses = [.list entries]
  | none => ∃ response, use.responses = [response] ∧ response.isError = true

/-- The calls of a handler go by the rules, every buffer is freed, and it responds once and well. -/
def Served (events : List (Event (accessCalls α))) : Prop :=
  ∃ use, (accessRules α).run .unused events = some use ∧ use.buffers = [] ∧ use.RespondedWell

def IsFree : Event (accessCalls α) → Bool
  | ⟨.safeFree _, _⟩ => true
  | _ => false

/-- A list that is given is what the last extraction stored, where this returned OK; else there is
none, and one error is the response. -/
def AccessUse.Gives (use : AccessUse α) (result : Option Nat × Nat) : Prop :=
  match use.stored with
  | some entries => use.responses = [] ∧ use.readable .group result.1 result.2 = some entries
  | none => result = (none, 0) ∧ ∃ response, use.responses = [response] ∧ response.isError = true

/-- The calls go by the rules and come to what is given; the buffers are left to the heap they are
from. -/
def FetchedFrom (use : AccessUse α) (events : List (Event (accessCalls α)))
    (result : Option Nat × Nat) : Prop :=
  ∃ use', (accessRules α).run use events = some use' ∧ (∀ e ∈ events, IsFree e = false) ∧
    use'.Gives result

/-- An extraction: its return code, and the number of entries found. -/
def extracted : Event (accessCalls α) → Option (Int × Nat)
  | ⟨.zisExtractAccessList _ request buffer _, (answer : ServiceAnswer α _)⟩ =>
    some ((extractAccessList request buffer answer .zero).1, answer.entriesFound)
  | _ => none

/-- An extraction with a full buffer, for a list of a size to retry with. -/
def RetryAsked (outcome : Int × Nat) : Prop :=
  outcome.1 = rcZisSrvcGrpalsrvInsufficientBuffer ∧
    outOfRange groupMgmtAccessListMaxSize outcome.2 = false

/-- The extraction of the last turn asks for a retry. -/
def FullAtLast (turns : Nat) (events : List (Event (accessCalls α))) : Prop :=
  ∃ outcome, (events.filterMap extracted)[turns]? = some outcome ∧ RetryAsked outcome

/-! ## Extractions -/

/-- What an extraction comes to. -/
inductive ExtractOutcome (kind : AccessKind) (resultBuffer : Option Nat) {capacity : Nat}
    (answer : ServiceAnswer α capacity) (vars : AccessVars) : Int × AccessVars → Prop
  | ok {buffer : Nat} (given : resultBuffer = some buffer) :
      ExtractOutcome kind resultBuffer answer vars
        (rcZisSrvcOk, { vars with entriesExtracted := answer.entries.length })
  | full {buffer : Nat} (given : resultBuffer = some buffer) :
      ExtractOutcome kind resultBuffer answer vars
        (kind.insufficientBuffer, { vars with entriesExtracted := answer.entriesFound })
  | failed {zisRC : Int} {vars' : AccessVars} (bad : zisRC ≠ rcZisSrvcOk)
      (other : zisRC ≠ kind.insufficientBuffer) :
      ExtractOutcome kind resultBuffer answer vars (zisRC, vars')

theorem AccessRequest.refusal_none {request : AccessRequest kind} {resultBuffer : Option Nat}
    (h : request.refusal resultBuffer = none) : ∃ buffer, resultBuffer = some buffer := by
  cases resultBuffer with
  | some buffer => exact ⟨buffer, rfl⟩
  | none =>
    cases request <;> (unfold refusal at h; repeat' split at h) <;> simp at *

theorem AccessRequest.refusal_some {request : AccessRequest kind} {resultBuffer : Option Nat}
    {rc : Int} (h : request.refusal resultBuffer = some rc) :
    rc ≠ rcZisSrvcOk ∧ rc ≠ kind.insufficientBuffer := by
  cases request with
  | profile className profileName =>
    unfold refusal at h
    repeat' split at h
    all_goals cases h
    all_goals decide
  | group groupName =>
    unfold refusal at h
    repeat' split at h
    all_goals cases h
    all_goals decide

theorem AccessKind.insufficientBuffer_ne (kind : AccessKind) :
    kind.insufficientBuffer ≠ rcZisSrvcOk := by
  cases kind <;> decide

theorem extractAccessList_outcome (request : AccessRequest kind) (resultBuffer : Option Nat)
    {capacity : Nat} (answer : ServiceAnswer α capacity) (vars : AccessVars) :
    ExtractOutcome kind resultBuffer answer vars
      (extractAccessList request resultBuffer answer vars) := by
  unfold extractAccessList
  split
  next rc hrefused =>
    obtain ⟨bad, other⟩ := AccessRequest.refusal_some hrefused
    exact .failed bad other
  next hadmitted =>
  obtain ⟨buffer, given⟩ := AccessRequest.refusal_none hadmitted
  split
  next =>
    have other : rcZisSrvcCmsFailed ≠ kind.insufficientBuffer := by cases kind <;> decide
    exact .failed (by decide) other
  next hcms =>
  split
  next => exact .full given
  split
  next =>
    have other : rcZisSrvcServiceFailed ≠ kind.insufficientBuffer := by cases kind <;> decide
    exact .failed (by decide) other
  next hservice =>
    rw [answer.counted (not_not.mp hcms) (not_not.mp hservice)]
    exact .ok given

/-- The return code of an extraction does not depend on the variables before it. -/
theorem extractAccessList_rc (request : AccessRequest kind) (resultBuffer : Option Nat)
    {capacity : Nat} (answer : ServiceAnswer α capacity) (vars vars' : AccessVars) :
    (extractAccessList request resultBuffer answer vars).1 =
      (extractAccessList request resultBuffer answer vars').1 := by
  unfold extractAccessList
  split
  next => rfl
  next => simp only [apply_ite Prod.fst]

/-! ## The handlers -/

/-- What the loop of a handler leaves: it has responded; or a buffer and a return code; or, where
both buffers were full, none. -/
inductive FetchLeft (kind : AccessKind) (use : AccessUse α) :
    Option (Option Nat × Int × AccessVars) → Prop
  | responded (buffers : use.buffers = []) (well : use.RespondedWell) : FetchLeft kind use none
  | fetched {buffer size : Nat} {zisRC : Int} {vars : AccessVars}
      (buffers : use.buffers = [(buffer, size)]) (responses : use.responses = [])
      (ok : zisRC = rcZisSrvcOk → ∃ entries, use.stored = some entries ∧
        use.readable kind (some buffer) vars.entriesExtracted = some entries)
      (bad : zisRC ≠ rcZisSrvcOk → use.stored = none) :
      FetchLeft kind use (some (some buffer, zisRC, vars))
  | full {zisRC : Int} {vars : AccessVars} (buffers : use.buffers = [])
      (responses : use.responses = []) (none_stored : use.stored = none)
      (bad : zisRC ≠ rcZisSrvcOk) : FetchLeft kind use (some (none, zisRC, vars))

theorem AccessUse.respondedWell_error {use : AccessUse α} {response : Response α}
    (none_stored : use.stored = none) (responses : use.responses = [response])
    (error : response.isError = true) : use.RespondedWell := by
  rw [RespondedWell, none_stored]
  exact ⟨response, responses, error⟩

/-- The rules after an extraction. -/
def AccessUse.after (use : AccessUse α) (request : AccessRequest kind) (buffer : Option Nat)
    {capacity : Nat} (answer : ServiceAnswer α capacity) : AccessUse α :=
  { use with
    last := some ⟨buffer, (extractAccessList request buffer answer .zero).1, answer.entries⟩ }

section

variable (use : AccessUse α) (request : AccessRequest kind) (buffer : Option Nat) {capacity : Nat}
  (answer : ServiceAnswer α capacity) (vars : AccessVars)

theorem after_stored_none
    (bad : (extractAccessList request buffer answer vars).1 ≠ rcZisSrvcOk) :
    (use.after request buffer answer).stored = none := by
  rw [extractAccessList_rc request buffer answer vars .zero] at bad
  simp [AccessUse.after, AccessUse.stored, bad]

theorem after_stored
    (ok : (extractAccessList request buffer answer vars).1 = rcZisSrvcOk) :
    (use.after request buffer answer).stored = some answer.entries := by
  rw [extractAccessList_rc request buffer answer vars .zero] at ok
  simp [AccessUse.after, AccessUse.stored, ok]

theorem after_readable (buffer : Nat)
    (ok : (extractAccessList request (some buffer) answer vars).1 = rcZisSrvcOk)
    (room : use.hasRoom buffer (kind.entrySize * capacity) = true) :
    (use.after request (some buffer) answer).readable kind (some buffer)
      answer.entries.length = some answer.entries := by
  rw [extractAccessList_rc request (some buffer) answer vars .zero] at ok
  have small : use.hasRoom buffer (kind.entrySize * answer.entries.length) = true := by
    obtain ⟨held, mem, hheld⟩ := List.any_eq_true.mp room
    have le := Nat.mul_le_mul_left kind.entrySize answer.entries_le
    refine List.any_eq_true.mpr ⟨held, mem, ?_⟩
    simp at hheld ⊢
    exact ⟨hheld.1, le.trans hheld.2⟩
  have small' : (use.after request (some buffer) answer).hasRoom buffer
      (kind.entrySize * answer.entries.length) = true := small
  unfold AccessUse.readable
  rw [AccessUse.after]
  exact if_pos ⟨rfl, ok, rfl, small'⟩

end

theorem fetchLoop_ensures {request : AccessRequest kind} {maxSize turns capacity : Nat}
    {zisRC : Int} {vars : AccessVars} {use : AccessUse α} (buffers : use.buffers = [])
    (responses : use.responses = []) (none_stored : use.stored = none)
    (bad : turns = 0 → zisRC ≠ rcZisSrvcOk) :
    (fetchLoop request maxSize turns capacity zisRC vars).Ensures (fun _ => True)
      fun events left => ∃ use', (accessRules α).run use events = some use' ∧
        FetchLeft kind use' left := by
  induction turns generalizing capacity zisRC vars use with
  | zero => exact .ret ⟨use, rfl, .full buffers responses none_stored (bad rfl)⟩
  | succ turns ih =>
    rw [fetchLoop]
    refine .ask_bind fun buffer _ => ?_
    cases buffer with
    | none =>
      refine .ask_bind fun _ _ => .ret ⟨_, rfl, .responded (by simp [buffers]) ?_⟩
      exact AccessUse.respondedWell_error none_stored (congrArg (· ++ [_]) responses) rfl
    | some buffer =>
      let held : AccessUse α := { use with buffers := [(buffer, kind.entrySize * capacity)] }
      have room : held.hasRoom buffer (kind.entrySize * capacity) = true := by
        simp [held, AccessUse.hasRoom]
      refine .ask_bind fun answer _ => ?_
      -- the buffer is held, and the extraction is noted
      have reached (events : List (Event (accessCalls α))) :
          (accessRules α).run use (⟨.safeMalloc (kind.entrySize * capacity), some buffer⟩ ::
            ⟨.zisExtractAccessList kind request (some buffer) capacity, answer⟩ :: events) =
          (accessRules α).run (held.after request (some buffer) answer) events := by
        simp [Machine.run_cons, accessRules, AccessUse.hasRoom, buffers, held, AccessUse.after]
      have outcome := extractAccessList_outcome request (some buffer) answer vars
      have none_after := after_stored_none held request (some buffer) answer vars
      have ok_after := after_stored held request (some buffer) answer vars
      have readable_after := after_readable held request answer vars buffer
      generalize hresult : extractAccessList request (some buffer) answer vars = result
        at outcome none_after ok_after readable_after
      cases outcome with
      | ok given =>
        dsimp only
        rw [if_neg kind.insufficientBuffer_ne.symm]
        refine .ret ⟨_, reached [], .fetched rfl responses (fun _ => ?_) (absurd rfl)⟩
        exact ⟨answer.entries, ok_after rfl, readable_after rfl room⟩
      | failed bad other =>
        dsimp only
        rw [if_neg other]
        exact .ret ⟨_, reached [], .fetched rfl responses (absurd · bad) fun _ => none_after bad⟩
      | full given =>
        dsimp only
        rw [if_pos rfl]
        refine .ask_bind fun _ _ => ?_
        let freed : AccessUse α := { held.after request (some buffer) answer with buffers := [] }
        have none_freed : freed.stored = none := none_after kind.insufficientBuffer_ne
        have released (events : List (Event (accessCalls α))) :
            (accessRules α).run use (⟨.safeMalloc (kind.entrySize * capacity), some buffer⟩ ::
              ⟨.zisExtractAccessList kind request (some buffer) capacity, answer⟩ ::
              ⟨.safeFree (some buffer), ()⟩ :: events) = (accessRules α).run freed events := by
          rw [reached, Machine.run_cons]
          simp [accessRules, AccessUse.hasRoom, AccessUse.after, held, freed]
        split
        · refine .ask_bind fun _ _ => .ret ⟨_, released [⟨.respondWithError _ _, ()⟩], ?_⟩
          refine .responded rfl ?_
          exact AccessUse.respondedWell_error none_freed (congrArg (· ++ [_]) responses) rfl
        · have next := @ih answer.entriesFound kind.insufficientBuffer
            { vars with entriesExtracted := answer.entriesFound } freed rfl responses none_freed
            fun _ => kind.insufficientBuffer_ne
          refine next.mono fun events left h => ?_
          rw [released]
          exact h

theorem fetchAndRespond_served (request : AccessRequest kind) (defaultSize maxSize : Nat) :
    (fetchAndRespond (α := α) request defaultSize maxSize).Ensures (fun _ => True)
      fun events _ => Served events := by
  unfold fetchAndRespond
  have fetched := @fetchLoop_ensures α kind request maxSize 2 defaultSize rcZisSrvcOk .zero .unused
    rfl rfl rfl (by simp)
  refine fetched.bind_of ?_
  rintro events left ⟨use, hrun, hleft⟩
  have served {events' : List (Event (accessCalls α))} (use' : AccessUse α)
      (hrun' : (accessRules α).run use events' = some use') (buffers : use'.buffers = [])
      (well : use'.RespondedWell) : Served (events ++ events') :=
    ⟨use', by rw [Machine.run_append, hrun, Option.bind_some, hrun'], buffers, well⟩
  cases hleft with
  | responded buffers well => exact .ret (served use rfl buffers well)
  | @fetched buffer size zisRC vars buffers responses ok bad =>
    dsimp only
    by_cases hok : zisRC = rcZisSrvcOk
    · rw [if_pos hok]
      refine .ask_bind fun _ _ => .ask fun _ _ => ?_
      obtain ⟨entries, stored, readable⟩ := ok hok
      refine served { use with buffers := [], responses := [.list entries] } ?_ rfl ?_
      · simp [Machine.run_cons, accessRules, readable, responses, buffers, AccessUse.hasRoom]
      · have stored' : AccessUse.stored { use with
            buffers := [], responses := [Response.list entries] } = some entries := stored
        rw [AccessUse.RespondedWell, stored']
    · rw [if_neg hok]
      refine .ask_bind fun _ _ => .ask fun _ _ => ?_
      refine served { use with
        buffers := [], responses := [.zisError kind zisRC vars.status] } ?_ rfl ?_
      · simp [Machine.run_cons, accessRules, responses, buffers, AccessUse.hasRoom]
      · exact AccessUse.respondedWell_error (bad hok) rfl rfl
  | @full zisRC vars buffers responses none_stored bad =>
    dsimp only
    rw [if_neg bad]
    refine .ask_bind fun _ _ => .ask fun _ _ => ?_
    refine served { use with
      responses := [.zisError kind zisRC vars.status] } ?_ buffers ?_
    · simp [Machine.run_cons, accessRules, responses]
    · exact AccessUse.respondedWell_error none_stored rfl rfl

/-- A request that is not admitted. -/
theorem refused_served (status : Nat) (message : String) :
    (respondWithError (α := α) status message).Ensures (fun _ => True)
      fun events _ => Served events :=
  .ask fun _ _ => ⟨_, rfl, rfl, AccessUse.respondedWell_error rfl rfl rfl⟩

theorem respondToProfileAccessListGET_served (commonParms : ClassMgmtCommonParms) :
    (respondToProfileAccessListGET (α := α) commonParms).Ensures (fun _ => True)
      fun events _ => Served events := by
  unfold respondToProfileAccessListGET
  split
  · exact refused_served _ _
  split
  · exact refused_served _ _
  · exact fetchAndRespond_served _ _ _

theorem respondToGroupAccessListGET_served (commonParms : GroupMgmtCommonParms) :
    (respondToGroupAccessListGET (α := α) commonParms).Ensures (fun _ => True)
      fun events _ => Served events := by
  unfold respondToGroupAccessListGET
  split
  · exact refused_served _ _
  · exact fetchAndRespond_served _ _ _

/-! ## The list of a group -/

theorem fetchedFrom_append {use use' : AccessUse α} {events events' : List (Event (accessCalls α))}
    {result : Option Nat × Nat} (hrun : (accessRules α).run use events = some use')
    (kept : ∀ e ∈ events, IsFree e = false) :
    FetchedFrom use (events ++ events') result ↔ FetchedFrom use' events' result := by
  unfold FetchedFrom
  rw [Machine.run_append, hrun, Option.bind_some]
  simp only [List.forall_mem_append, and_iff_right kept]

/-- The extractions of a turn and of those that follow it. -/
theorem fullAtLast_cons {turns capacity size : Nat} {request : AccessRequest kind}
    {allocated buffer : Option Nat} {answer : ServiceAnswer α capacity}
    {events : List (Event (accessCalls α))} :
    FullAtLast (turns + 1) (⟨.slhAlloc size, allocated⟩ ::
        ⟨.zisExtractAccessList kind request buffer capacity, answer⟩ :: events) ↔
      FullAtLast turns events :=
  Iff.rfl

/-- A turn that is followed by none. -/
theorem fullAtLast_single {turns capacity size : Nat} {request : AccessRequest kind}
    {allocated buffer : Option Nat} {answer : ServiceAnswer α capacity}
    {events : List (Event (accessCalls α))} (rest : events.filterMap extracted = []) :
    FullAtLast turns (⟨.slhAlloc size, allocated⟩ ::
        ⟨.zisExtractAccessList kind request buffer capacity, answer⟩ :: events) ↔
      turns = 0 ∧
        RetryAsked ((extractAccessList request buffer answer .zero).1, answer.entriesFound) := by
  have outcomes : (⟨.slhAlloc size, allocated⟩ ::
      ⟨.zisExtractAccessList kind request buffer capacity, answer⟩ :: events :
        List (Event (accessCalls α))).filterMap extracted =
      [((extractAccessList request buffer answer .zero).1, answer.entriesFound)] :=
    congrArg (_ :: ·) rest
  unfold FullAtLast
  rw [outcomes]
  cases turns with
  | zero => simp
  | succ turns => simp

/-- An error after an extraction that was not OK. -/
theorem fetchedFrom_error {use : AccessUse α} {event : Event (accessCalls α)}
    {response : Response α} (none_stored : use.stored = none) (responses : use.responses = [])
    (responds : (accessRules α).step use event =
      some { use with responses := use.responses ++ [response] })
    (error : response.isError = true) (kept : IsFree event = false) :
    FetchedFrom use [event] (none, 0) := by
  have none_after : AccessUse.stored { use with responses := use.responses ++ [response] } =
      none := none_stored
  refine ⟨{ use with responses := use.responses ++ [response] }, ?_, by simpa using kept, ?_⟩
  · rw [Machine.run_cons, responds, Option.bind_some, Machine.run_nil]
  · rw [AccessUse.Gives, none_after]
    exact ⟨rfl, response, by rw [responses]; rfl, error⟩

/-- The end of the loop after an extraction. -/
theorem fetchedFrom_end {use : AccessUse α} {result : Option Nat × Nat} :
    FetchedFrom use [] result ↔ use.Gives result :=
  ⟨fun ⟨_, hrun, _, gives⟩ => Option.some.inj hrun ▸ gives, fun gives => ⟨use, rfl, by simp, gives⟩⟩

theorem groupLoop_ensures {group : Text} {turns capacity : Nat} {buffer : Option Nat}
    {vars : AccessVars} (use : AccessUse α) (responses : use.responses = []) :
    (groupLoop group (turns + 1) capacity buffer vars).Ensures (fun _ => True)
      fun events result => FetchedFrom use events result ↔ ¬ FullAtLast turns events := by
  induction turns using Nat.strong_induction_on generalizing capacity buffer vars use with
  | _ turns ih =>
  rw [groupLoop]
  refine .ask_bind fun buffer _ => .ask_bind fun answer _ => ?_
  let size := AccessKind.group.entrySize * capacity
  let request : AccessRequest .group := .group (some group)
  let held : AccessUse α := { use with buffers := buffer.toList.map (·, size) ++ use.buffers }
  have room : ∀ id, buffer = some id → held.hasRoom id size = true := by
    rintro id rfl
    simp [held, AccessUse.hasRoom]
  have admitted : buffer.all (fun id => held.hasRoom id size) = true := by
    cases buffer with
    | none => rfl
    | some id => exact room id rfl
  have taken : (accessRules α).step use ⟨.slhAlloc size, buffer⟩ = some held := rfl
  have noted : (accessRules α).step held
      ⟨.zisExtractAccessList .group request buffer capacity, answer⟩ =
        some (held.after request buffer answer) := if_pos admitted
  have reached : (accessRules α).run use [⟨.slhAlloc size, buffer⟩,
      ⟨.zisExtractAccessList .group request buffer capacity, answer⟩] =
        some (held.after request buffer answer) := by
    rw [Machine.run_cons, taken, Option.bind_some, Machine.run_cons, noted]
    rfl
  have went (events : List (Event (accessCalls α))) (result : Option Nat × Nat) :
      FetchedFrom use (⟨.slhAlloc size, buffer⟩ ::
        ⟨.zisExtractAccessList .group request buffer capacity, answer⟩ :: events) result ↔
      FetchedFrom (held.after request buffer answer) events result :=
    fetchedFrom_append reached (by simp [IsFree])
  have none_after := after_stored_none held request buffer answer vars
  have ok_after := after_stored held request buffer answer vars
  have readable_after := after_readable held request answer vars
  have rc := extractAccessList_rc request buffer answer vars .zero
  have outcome := extractAccessList_outcome request buffer answer vars
  generalize hresult : extractAccessList request buffer answer vars = result
    at outcome none_after ok_after rc
  cases outcome with
  | failed bad other =>
    dsimp only
    rw [if_neg (by exact other), if_pos bad]
    refine .ask_bind fun _ _ => .ret ?_
    rw [went, fullAtLast_single rfl]
    have unasked : ¬ RetryAsked ((extractAccessList request buffer answer .zero).1,
        answer.entriesFound) := fun asked => other (rc.trans asked.1)
    exact iff_of_true (fetchedFrom_error (none_after bad) responses rfl rfl rfl)
      fun asked => unasked asked.2
  | @full id given =>
    dsimp only
    have full : AccessKind.group.insufficientBuffer = rcZisSrvcGrpalsrvInsufficientBuffer := rfl
    rw [if_pos full]
    have bad := AccessKind.group.insufficientBuffer_ne
    by_cases range : outOfRange groupMgmtAccessListMaxSize answer.entriesFound = true
    · rw [if_pos range]
      refine .ask_bind fun _ _ => .ret ?_
      rw [went, fullAtLast_single rfl]
      have unasked : ¬ RetryAsked ((extractAccessList request buffer answer .zero).1,
          answer.entriesFound) := fun asked => by simp [asked.2] at range
      exact iff_of_true (fetchedFrom_error (none_after bad) responses rfl rfl rfl)
        fun asked => unasked asked.2
    · rw [if_neg range]
      cases turns with
      | zero =>
        -- the loop ends with a buffer that is too small and the size that was asked for
        refine .ret ?_
        rw [went, fullAtLast_single rfl, fetchedFrom_end]
        have asked : RetryAsked ((extractAccessList request buffer answer .zero).1,
          answer.entriesFound) := ⟨rc.symm, by simpa using range⟩
        refine iff_of_false (fun gives => ?_) (fun unasked => unasked ⟨rfl, asked⟩)
        subst given
        rw [AccessUse.Gives, none_after bad] at gives
        cases gives.1
      | succ turns =>
        have next := @ih turns (Nat.lt_succ_self turns) answer.entriesFound buffer
          { vars with entriesExtracted := answer.entriesFound } (held.after request buffer answer)
          responses
        refine next.mono fun events result h => ?_
        rw [went, h]
        exact not_congr fullAtLast_cons.symm
  | @ok id given =>
    dsimp only
    have other := AccessKind.group.insufficientBuffer_ne.symm
    rw [if_neg (by exact other), if_neg (not_not.mpr rfl)]
    cases turns with
    | zero =>
      refine .ret ?_
      rw [went, fullAtLast_single rfl, fetchedFrom_end]
      have unasked : ¬ RetryAsked ((extractAccessList request buffer answer .zero).1,
          answer.entriesFound) := fun asked => other (rc.trans asked.1)
      refine iff_of_true ?_ fun asked => unasked asked.2
      rw [AccessUse.Gives, ok_after rfl]
      subst given
      exact ⟨responses, readable_after id (by rw [hresult]) (room id rfl)⟩
    | succ turns =>
      have next := @ih turns (Nat.lt_succ_self turns) capacity buffer
        { vars with entriesExtracted := answer.entries.length } (held.after request buffer answer)
        responses
      refine next.mono fun events result h => ?_
      rw [went, h]
      exact not_congr fullAtLast_cons.symm

end

/-- **Access lists are fetched as they should be, but for a group's list that is full twice.** In
every run, whatever the service and the storage answer: each handler responds once, with the list
exactly if its last extraction returned OK, and then with the entries this one stored; it reads no
others, and frees each buffer once. The function for a group does so exactly if its second
extraction does not ask for a retry, which it is not given. -/
theorem access_lists_fetched (α : Type) (classParms : ClassMgmtCommonParms)
    (groupParms : GroupMgmtCommonParms) (group : Text) :
    (respondToProfileAccessListGET (α := α) classParms).Ensures (fun _ => True)
        (fun events _ => Served events) ∧
      (respondToGroupAccessListGET (α := α) groupParms).Ensures (fun _ => True)
        (fun events _ => Served events) ∧
      (getAccessListByGroupOrFail (α := α) group).Ensures (fun _ => True) fun events result =>
        FetchedFrom .unused events result ↔ ¬ FullAtLast 1 events :=
  ⟨respondToProfileAccessListGET_served classParms, respondToGroupAccessListGET_served groupParms,
    groupLoop_ensures .unused rfl⟩

/-- Answers of a service whose list grows from call to call. -/
def growingAnswers : (c : AccessCall) → c.Answer Unit
  | .safeMalloc _ => (some 0 : Option Nat)
  | .slhAlloc _ => (some 0 : Option Nat)
  | .zisExtractAccessList _ _ _ capacity =>
    { cmsCallRC := rcCmsOk
      serviceRC := rcZisGrpalsrvInsufficientSpace
      entriesExtracted := 0
      entriesFound := capacity + 72
      internalServiceRC := 0
      internalServiceRSN := 0
      safStatus := (0, 0, 0)
      entries := []
      entries_le := Nat.zero_le _
      counted := fun _ h => absurd h (by decide) }
  | .safeFree _ => ()
  | .respondWithError .. => ()
  | .respondWithZISError .. => ()
  | .respondWithAccessList .. => ()

/-- A list that grows between the two calls is given with 272 entries in a buffer for 200. -/
theorem grown_list_given :
    let run := (getAccessListByGroupOrFail "ADMINS".toList).exec growingAnswers
    run.2 = (some 0, 272) ∧ AccessCall.slhAlloc 3200 ∈ run.1.map Event.call ∧
      ¬ FetchedFrom .unused run.1 run.2 := by
  refine ⟨by decide, by decide, ?_⟩
  rintro ⟨use, hrun, -, gives⟩
  obtain rfl := Option.some.inj hrun
  have impossible : ((some 0, 272) : Option Nat × Nat) = (none, 0) := gives.1
  cases impossible

end Zss.Security
