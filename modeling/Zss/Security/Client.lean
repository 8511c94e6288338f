import Zss.Security.AccessLists

/-!
# The client of the security services

The functions of `client.c` that `securityService.c` calls: each looks at its arguments, calls its
service across memory, and returns a code of its own with a status. The cross-memory call is an
answer, `CmsAnswer`.
-/

namespace Zss.Security

open Zss.Zis (rcZisSrvcOk rcZisSrvcStatusNull rcZisSrvcServiceFailed rcZisSrvcCmsFailed)

/-! ## Codes -/

def zisUserIdMaxLength : Nat := 8

def rcZisSrvcUprfsrvUserIdTooLong : Int := zisMaxGenSrvcRc + 1
def rcZisSrvcUprfsrvResultBuffNull : Int := zisMaxGenSrvcRc + 2
def rcZisSrvcUprfsrvProfileCountNull : Int := zisMaxGenSrvcRc + 3
def rcZisSrvcUprfsrvMaxRc : Int := zisMaxGenSrvcRc + 3

def rcZisSrvcGrprfsrvClassTooLong : Int := zisMaxGenSrvcRc + 1
def rcZisSrvcGrprfsrvProfileTooLong : Int := zisMaxGenSrvcRc + 2
def rcZisSrvcGrprfsrvResultBuffNull : Int := zisMaxGenSrvcRc + 3
def rcZisSrvcGrprfsrvProfileCountNull : Int := zisMaxGenSrvcRc + 4
def rcZisSrvcGrprfsrvMaxRc : Int := zisMaxGenSrvcRc + 4

def rcZisSrvcAcslsrvEntryCountNull : Int := zisMaxGenSrvcRc + 5
def rcZisSrvcAcslsrvMaxRc : Int := zisMaxGenSrvcRc + 6

def rcZisSrvcPadminUseridNull : Int := zisMaxGenSrvcRc + 1
def rcZisSrvcPadminUseridTooLong : Int := zisMaxGenSrvcRc + 2
def rcZisSrvcPadminProfileNull : Int := zisMaxGenSrvcRc + 3
def rcZisSrvcPadminProfileTooLong : Int := zisMaxGenSrvcRc + 4
def rcZisSrvcPadminOwnerTooLong : Int := zisMaxGenSrvcRc + 6
def rcZisSrvcPadminOperCmdNull : Int := zisMaxGenSrvcRc + 7
def rcZisSrvcPadminMaxRc : Int := zisMaxGenSrvcRc + 7

def rcZisSrvcGpprfsrvGroupTooLong : Int := zisMaxGenSrvcRc + 2
def rcZisSrvcGpprfsrvResultBuffNull : Int := zisMaxGenSrvcRc + 3
def rcZisSrvcGpprfsrvProfileCountNull : Int := zisMaxGenSrvcRc + 4

def rcZisSrvcGrpalsrvEntryCountNull : Int := zisMaxGenSrvcRc + 4

def rcZisSrvcGadminGroupNull : Int := zisMaxGenSrvcRc + 1
def rcZisSrvcGadminGroupTooLong : Int := zisMaxGenSrvcRc + 2
def rcZisSrvcGadminSupgroupTooLong : Int := zisMaxGenSrvcRc + 4
def rcZisSrvcGadminUseridNull : Int := zisMaxGenSrvcRc + 5
def rcZisSrvcGadminUseridTooLong : Int := zisMaxGenSrvcRc + 6
def rcZisSrvcGadminOperCmdNull : Int := zisMaxGenSrvcRc + 7

/-! ## Data -/

/-- `SAFStatus`. -/
structure SafStatus where
  safRC : Int
  racfRC : Int
  racfRSN : Int

/-- The status blocks of the services: `ZISServiceStatus` with what the services add to it. The
message is there in the two of the administration services. -/
structure ZisServiceStatus where
  serviceRC : Int
  serviceRSN : Int
  cmsRC : Int
  cmsRSN : Int
  internalServiceRC : Int
  internalServiceRSN : Int
  safStatus : SafStatus
  message : String

/-- The status block a caller passes. -/
def ZisServiceStatus.zero : ZisServiceStatus := ⟨0, 0, 0, 0, 0, 0, ⟨0, 0, 0⟩, ""⟩

/-- What `cmsCallService` returns, and what the service left in the parm list. -/
structure CmsAnswer where
  cmsRC : Int
  serviceRC : Int
  internalServiceRC : Int
  internalServiceRSN : Int
  safStatus : SafStatus
  message : String

/-- The code and the status a function of the client returns. -/
abbrev ClientResult := Int × ZisServiceStatus

/-! ## After the call -/

/-- The part of a status that a service fills. -/
def CmsAnswer.failedStatus (answer : CmsAnswer) : ZisServiceStatus :=
  { ZisServiceStatus.zero with
    serviceRC := answer.serviceRC
    internalServiceRC := answer.internalServiceRC
    internalServiceRSN := answer.internalServiceRSN
    safStatus := answer.safStatus }

/-- The end of a function that extracts. The answer for a buffer that is too small, in those that
have a code for it, is one of their own. -/
def finishExtraction (answer : CmsAnswer) (insufficient : Option (Int × Int)) : ClientResult :=
  if answer.cmsRC ≠ rcCmsOk then
    (rcZisSrvcCmsFailed, { ZisServiceStatus.zero with cmsRC := answer.cmsRC })
  else
    match insufficient with
    | some (serviceRC, rc) =>
      if answer.serviceRC = serviceRC then (rc, .zero)
      else if answer.serviceRC ≠ 0 then (rcZisSrvcServiceFailed, answer.failedStatus)
      else (rcZisSrvcOk, .zero)
    | none =>
      if answer.serviceRC ≠ 0 then (rcZisSrvcServiceFailed, answer.failedStatus)
      else (rcZisSrvcOk, .zero)

/-- The end of a function that administrates. -/
def finishAdministration (answer : CmsAnswer) : ClientResult :=
  if answer.cmsRC ≠ rcCmsOk then
    (rcZisSrvcCmsFailed, { ZisServiceStatus.zero with cmsRC := answer.cmsRC })
  else if answer.serviceRC ≠ 0 then
    (rcZisSrvcServiceFailed, { answer.failedStatus with message := answer.message })
  else (rcZisSrvcOk, .zero)

/-! ## The functions -/

def zisExtractUserProfiles (startProfile : Option Text) (resultBuffer profilesExtracted : Bool)
    (answer : CmsAnswer) : ClientResult :=
  if tooLong startProfile zisUserIdMaxLength then (rcZisSrvcUprfsrvUserIdTooLong, .zero)
  else if !resultBuffer then (rcZisSrvcUprfsrvResultBuffNull, .zero)
  else if !profilesExtracted then (rcZisSrvcUprfsrvProfileCountNull, .zero)
  else finishExtraction answer none

def zisExtractGenresProfiles (className startProfile : Option Text)
    (resultBuffer profilesExtracted : Bool) (answer : CmsAnswer) : ClientResult :=
  if tooLong className zisSecurityClassMaxLength then (rcZisSrvcGrprfsrvClassTooLong, .zero)
  else if tooLong startProfile zisSecurityProfileMaxLength then
    (rcZisSrvcGrprfsrvProfileTooLong, .zero)
  else if !resultBuffer then (rcZisSrvcGrprfsrvResultBuffNull, .zero)
  else if !profilesExtracted then (rcZisSrvcGrprfsrvProfileCountNull, .zero)
  else finishExtraction answer none

/-- `zisExtractGenresAccessList` and `zisExtractGroupAccessList`, by a refusal of their names and
their buffer. -/
def extractList {kind : AccessKind} (request : AccessRequest kind)
    (resultBuffer entriesExtracted : Bool) (entryCountNull : Int) (answer : CmsAnswer) :
    ClientResult :=
  match request.refusal (if resultBuffer then some 0 else none) with
  | some rc => (rc, .zero)
  | none =>
    if !entriesExtracted then (entryCountNull, .zero)
    else finishExtraction answer (some (kind.insufficientSpace, kind.insufficientBuffer))

def zisExtractGenresAccessList (className profile : Option Text)
    (resultBuffer entriesExtracted : Bool) : CmsAnswer → ClientResult :=
  extractList (.profile className profile) resultBuffer entriesExtracted
    rcZisSrvcAcslsrvEntryCountNull

def zisExtractGroupProfiles (startGroup : Option Text) (resultBuffer profilesExtracted : Bool)
    (answer : CmsAnswer) : ClientResult :=
  if tooLong startGroup zisSecurityGroupMaxLength then (rcZisSrvcGpprfsrvGroupTooLong, .zero)
  else if !resultBuffer then (rcZisSrvcGpprfsrvResultBuffNull, .zero)
  else if !profilesExtracted then (rcZisSrvcGpprfsrvProfileCountNull, .zero)
  else finishExtraction answer none

def zisExtractGroupAccessList (group : Option Text) (resultBuffer entriesExtracted : Bool) :
    CmsAnswer → ClientResult :=
  extractList (.group group) resultBuffer entriesExtracted rcZisSrvcGrpalsrvEntryCountNull

def handleProfileFunction (userID profileName owner : Option Text)
    (isDryRun operatorCommand status : Bool) (answer : CmsAnswer) : ClientResult :=
  if !status then (rcZisSrvcStatusNull, .zero)
  else if userID.isNone then (rcZisSrvcPadminUseridNull, .zero)
  else if tooLong userID zisUserIdMaxLength then (rcZisSrvcPadminUseridTooLong, .zero)
  else if profileName.isNone then (rcZisSrvcPadminProfileNull, .zero)
  else if tooLong profileName zisSecurityProfileMaxLength then
    (rcZisSrvcPadminProfileTooLong, .zero)
  else if tooLong owner zisUserIdMaxLength then (rcZisSrvcPadminOwnerTooLong, .zero)
  else if isDryRun && !operatorCommand then (rcZisSrvcPadminOperCmdNull, .zero)
  else finishAdministration answer

def handleGroupAdminFunction (group superiorGroup userID : Option Text)
    (isDryRun operatorCommand status : Bool) (answer : CmsAnswer) : ClientResult :=
  if !status then (rcZisSrvcStatusNull, .zero)
  else if group.isNone then (rcZisSrvcGadminGroupNull, .zero)
  else if tooLong group zisSecurityGroupMaxLength then (rcZisSrvcGadminGroupTooLong, .zero)
  else if superiorGroup.isNone then (rcZisSrvcGadminGroupNull, .zero)
  else if tooLong superiorGroup zisSecurityGroupMaxLength then
    (rcZisSrvcGadminSupgroupTooLong, .zero)
  else if userID.isNone then (rcZisSrvcGadminUseridNull, .zero)
  else if tooLong userID zisUserIdMaxLength then (rcZisSrvcGadminUseridTooLong, .zero)
  else if isDryRun && !operatorCommand then (rcZisSrvcGadminOperCmdNull, .zero)
  else finishAdministration answer

def zisDefineProfile (profileName owner : Option Text) (isDryRun operatorCommand status : Bool) :
    CmsAnswer → ClientResult :=
  handleProfileFunction (some []) profileName owner isDryRun operatorCommand status

def zisDeleteProfile (profileName : Option Text) (isDryRun operatorCommand status : Bool) :
    CmsAnswer → ClientResult :=
  handleProfileFunction (some []) profileName (some []) isDryRun operatorCommand status

def zisGiveAccessToProfile (userID profileName : Option Text)
    (isDryRun operatorCommand status : Bool) : CmsAnswer → ClientResult :=
  handleProfileFunction userID profileName (some []) isDryRun operatorCommand status

def zisRevokeAccessToProfile (userID profileName : Option Text)
    (isDryRun operatorCommand status : Bool) : CmsAnswer → ClientResult :=
  handleProfileFunction userID profileName (some []) isDryRun operatorCommand status

def zisAddGroup (groupName superiorGroupName : Option Text)
    (isDryRun operatorCommand status : Bool) : CmsAnswer → ClientResult :=
  handleGroupAdminFunction groupName superiorGroupName (some []) isDryRun operatorCommand status

def zisDeleteGroup (groupName : Option Text) (isDryRun operatorCommand status : Bool) :
    CmsAnswer → ClientResult :=
  handleGroupAdminFunction groupName (some []) (some []) isDryRun operatorCommand status

def zisConnectToGroup (userID groupName : Option Text)
    (isDryRun operatorCommand status : Bool) : CmsAnswer → ClientResult :=
  handleGroupAdminFunction groupName (some []) userID isDryRun operatorCommand status

def zisRemoveFromGroup (userID groupName : Option Text)
    (isDryRun operatorCommand status : Bool) : CmsAnswer → ClientResult :=
  handleGroupAdminFunction groupName (some []) userID isDryRun operatorCommand status

end Zss.Security
