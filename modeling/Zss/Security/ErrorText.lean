import Zss.Lib.SparseTable
import Zss.Security.Client

/-!
# Texts for errors of the security services

`formatZISErrorMessage` of `securityService.c` and the formatters of the seven services. A formatter
compares a code with a maximum and reads a description from a table, of the service's codes or of
the client's. The maximum is not always the table's own, and the tables have holes:
`error_texts_iff` says for which codes, and after which calls, there is a description to print.

## What is not established

That a description fits its error: only that there is one to print.
-/

namespace Zss.Security

open Zss.Lib (SparseTable)
open Zss.Lib.SparseTable (Read)
open Zss.Zis (rcZisSrvcOk rcZisSrvcStatusNull rcZisSrvcServiceFailed rcZisSrvcCmsFailed)

/-! ## Constants -/

def rcZisUprfsrvMaxRc : Int := 16
def rcZisGrprfsrvMaxRc : Int := 19
def rcZisAcslsrvMaxRc : Int := 18
def rcZisGsadmnsrvMaxRc : Int := 23

def rcZisUprfsrvInternalServiceFailed : Int := 14
def rcZisGrprfsrvInternalServiceFailed : Int := 16
def rcZisAcslsrvInternalServiceFailed : Int := 15
def rcZisGsadmnsrvInternalServiceFailed : Int := 17
def rcZisGpprfsrvInternalServiceFailed : Int := 14
def rcZisGrpalsrvInternalServiceFailed : Int := 14
def rcZisGrpasrvInternalServiceFailed : Int := 17

/-- What the cross-memory server's header says: the name of the product, and a description for some
of the codes up to the highest one. -/
structure CmsHeader where
  cmsProdId : String
  rcCmsMaxRc : Int
  cmsRcDescription : SparseTable String
  size_gt : rcCmsMaxRc < cmsRcDescription.size

/-! ## The tables -/

section

variable (cms : CmsHeader)

def zisUprfsrvServiceRcDescription : SparseTable String :=
  [(0, "Ok"), (8, "Parm list is null"), (9, "Bad eyecatcher"), (10, "User ID is too long"),
    (11, "Result buffer is null"), (12, "Profile count is null"),
    (13, "Impersonation is required"), (14, "R_admin service failed"),
    (15, "Alloc function failed"), (16, "ESM not supported")]

def zisUprfsrvWrapperRcDescription : SparseTable String :=
  [(33, "User ID is too long"), (34, "Result buffer is null"), (35, "Profile count is null")]

def zisGrprfsrvServiceRcDescription : SparseTable String :=
  [(0, "Ok"), (8, "Parm list is null"), (9, "Bad eyecatcher"), (10, "Class is too long"),
    (11, "Profile is too long"), (12, "Result buffer is null"), (14, "Profile count is null"),
    (15, "Impersonation is required"), (16, "R_admin failed"), (17, "Alloc function failed"),
    (18, cms.cmsProdId ++ " class is not read"), (19, "ESM not supported")]

def zisGrprfsrvWrapperRcDescription : SparseTable String :=
  [(33, "Class is too long"), (34, "Profile is too long"), (35, "Result buffer is null"),
    (36, "Profile count is null")]

def zisAcslsrvServiceRcDescription : SparseTable String :=
  [(0, "Ok"), (8, "Parm list is null"), (9, "Bad eyecatcher"), (10, "Class is too long"),
    (11, "Profile is too long"), (12, "Result buffer is null"), (13, "Impersonation is required"),
    (14, "Alloc function failed"), (15, "R_admin failed"), (16, "Provided buffer is too small"),
    (17, cms.cmsProdId ++ " class is not read"), (18, "ESM not supported")]

def zisAcslsrvWrapperRcDescription : SparseTable String :=
  [(33, "Class is too long"), (34, "Profile is null"), (35, "Profile is too long"),
    (36, "Result buffer is null"), (37, "Entry count is null"),
    (38, "Provided buffer is too small")]

def zisGsadmnsrvServiceRcDescription : SparseTable String :=
  [(0, "Ok"), (8, "Parm list is null"), (9, "Bad eyecatcher"), (10, "Profile is too long"),
    (11, "Unsupported product"), (12, "User ID is null"), (13, "User ID is too long"),
    (14, "Impersonation is required"), (15, "Bad function"), (16, "Bad access type"),
    (17, "R_admin failed"), (18, "Parm list creation failed"),
    (19, cms.cmsProdId ++ " class is too long"), (20, cms.cmsProdId ++ " class read failed"),
    (21, "Auto refresh option read failed"), (22, "Owner name is too long"),
    (23, "ESM not supported")]

/-- The owner has a code, 38, and no description. -/
def zisGsadmnsrvWrapperRcDescription : SparseTable String :=
  [(33, "User ID is null"), (34, "User ID is too long"), (35, "Profile is null"),
    (36, "Profile is too long"), (39, "Operator command is null")]

def zisGpprfsrvServiceRcDescription : SparseTable String :=
  [(0, "Ok"), (8, "Parm list is null"), (9, "Bad eyecatcher"), (10, "Group is too long"),
    (11, "Result buffer is null"), (12, "Profile count is null"),
    (13, "Impersonation is required"), (14, "R_admin failed"), (15, "Alloc function failed"),
    (16, "ESM not supported")]

def zisGpprfsrvWrapperRcDescription : SparseTable String :=
  [(33, "Class is too long"), (34, "Group is too long"), (35, "Result buffer is null"),
    (36, "Profile count is null")]

def zisGrpalsrvServiceRcDescription : SparseTable String :=
  [(0, "Ok"), (8, "Parm list is null"), (9, "Bad eyecatcher"), (10, "Group is too long"),
    (11, "Result buffer is null"), (12, "Impersonation is required"),
    (13, "Alloc function failed"), (14, "R_admin failed"), (15, "Provided buffer is too small"),
    (16, "ESM not supported")]

def zisGrpalsrvWrapperRcDescription : SparseTable String :=
  [(33, "Group is null"), (34, "Group is too long"), (35, "Result buffer is null"),
    (36, "Entry count is null"), (37, "Provided buffer is too small")]

def zisGrpasrvServiceRcDescription : SparseTable String :=
  [(0, "Ok"), (8, "Parm list is null"), (9, "Bad eyecatcher"), (10, "Group is too long"),
    (11, "Superior group is too long"), (12, "Unsupported product"), (13, "User ID is too long"),
    (14, "Impersonation is required"), (15, "Bad function"), (16, "Bad access type"),
    (17, "R_admin failed"), (18, "Parm list creation failed"),
    (19, cms.cmsProdId ++ " class is too long"), (20, cms.cmsProdId ++ " class read failed"),
    (21, "Auto refresh option read failed"), (22, "ESM not supported")]

/-- The user has two codes, 37 and 38, and no description. -/
def zisGrpasrvWrapperRcDescription : SparseTable String :=
  [(33, "Group is null"), (34, "Group is too long"), (35, "Superior group is null"),
    (36, "Superior group is too long"), (39, "Operator command is null")]

end

/-! ## The formatters -/

/-- What goes wrong: an index outside its table, or a null string printed. -/
inductive FormatFault where
  | outsideTable
  | nullString

/-- What a formatter has to itself. Those of the administration services print the message. -/
structure ServiceFormatter where
  serviceMaxRc : Int
  serviceRcDescription : SparseTable String
  internalServiceFailed : Int
  printsMessage : Bool
  wrapperMaxRc : Int
  wrapperRcDescription : SparseTable String

/-- `%d` of the codes of R_admin, and what it says. -/
def radminText (printsMessage : Bool) (status : ZisServiceStatus) : String :=
  "R_admin failed (RC = " ++ toString status.internalServiceRC ++
    ", SAF RC = " ++ toString status.safStatus.safRC ++
    ", RACF RC = " ++ toString status.safStatus.racfRC ++
    ", RSN = " ++ toString status.safStatus.racfRSN ++ ")" ++
    (if printsMessage then
      " - '" ++ (if status.message = "" then "no additional info" else status.message) ++ "'"
    else "")

def unknownServiceText (status : ZisServiceStatus) : String :=
  "Unknown ZIS service error (RC = " ++ toString status.serviceRC ++ ", RSN = " ++
    toString status.serviceRSN ++ ")"

def unknownText (zisCallRC : Int) : String :=
  "Unknown ZIS error (RC = " ++ toString zisCallRC ++ ")"

/-- What is printed of an element of a table. -/
def describe (printed : String → String) : Read String → Except FormatFault String
  | .outside => .error .outsideTable
  | .null => .error .nullString
  | .found description => .ok (printed description)

/-- What a formatter prints. -/
def formatServiceError (formatter : ServiceFormatter) (zisCallRC : Int)
    (status : ZisServiceStatus) : Except FormatFault String :=
  if zisCallRC = rcZisSrvcServiceFailed then
    if status.serviceRC > formatter.serviceMaxRc then .ok (unknownServiceText status)
    else
      let description := formatter.serviceRcDescription.read status.serviceRC
      if status.serviceRC = formatter.internalServiceFailed then
        -- the description is read here too, and not printed
        match description with
        | .outside => .error .outsideTable
        | _ => .ok (radminText formatter.printsMessage status)
      else
        describe (fun description => "ZIS service failed (RC = " ++ toString status.serviceRC ++
          ", RSN = " ++ toString status.serviceRSN ++ ") - " ++ description) description
  else if zisCallRC > formatter.wrapperMaxRc then .ok (unknownText zisCallRC)
  else
    describe (fun description => "ZIS failed (RC = " ++ toString zisCallRC ++ ") - " ++ description)
      (formatter.wrapperRcDescription.read zisCallRC)

section

variable (cms : CmsHeader)

def userProfileErrors : ServiceFormatter where
  serviceMaxRc := rcZisUprfsrvMaxRc
  serviceRcDescription := zisUprfsrvServiceRcDescription
  internalServiceFailed := rcZisUprfsrvInternalServiceFailed
  printsMessage := false
  wrapperMaxRc := rcZisSrvcUprfsrvMaxRc
  wrapperRcDescription := zisUprfsrvWrapperRcDescription

def formatZISUserProfileServiceError : Int → ZisServiceStatus → Except FormatFault String :=
  formatServiceError userProfileErrors

def genresProfileErrors : ServiceFormatter where
  serviceMaxRc := rcZisGrprfsrvMaxRc
  serviceRcDescription := zisGrprfsrvServiceRcDescription cms
  internalServiceFailed := rcZisGrprfsrvInternalServiceFailed
  printsMessage := false
  wrapperMaxRc := rcZisSrvcGrprfsrvMaxRc
  wrapperRcDescription := zisGrprfsrvWrapperRcDescription

def formatZISGenresProfileServiceError : Int → ZisServiceStatus → Except FormatFault String :=
  formatServiceError (genresProfileErrors cms)

def genresAccessListErrors : ServiceFormatter where
  serviceMaxRc := rcZisAcslsrvMaxRc
  serviceRcDescription := zisAcslsrvServiceRcDescription cms
  internalServiceFailed := rcZisAcslsrvInternalServiceFailed
  printsMessage := false
  wrapperMaxRc := rcZisSrvcAcslsrvMaxRc
  wrapperRcDescription := zisAcslsrvWrapperRcDescription

def formatZISGenresAccessListServiceError : Int → ZisServiceStatus → Except FormatFault String :=
  formatServiceError (genresAccessListErrors cms)

def genresAdminErrors : ServiceFormatter where
  serviceMaxRc := rcZisGsadmnsrvMaxRc
  serviceRcDescription := zisGsadmnsrvServiceRcDescription cms
  internalServiceFailed := rcZisGsadmnsrvInternalServiceFailed
  printsMessage := true
  wrapperMaxRc := rcZisSrvcPadminMaxRc
  wrapperRcDescription := zisGsadmnsrvWrapperRcDescription

def formatZISGenresAdminServiceError : Int → ZisServiceStatus → Except FormatFault String :=
  formatServiceError (genresAdminErrors cms)

/-- Its maxima are those of the resource profiles. -/
def groupProfileErrors : ServiceFormatter where
  serviceMaxRc := rcZisGrprfsrvMaxRc
  serviceRcDescription := zisGpprfsrvServiceRcDescription
  internalServiceFailed := rcZisGpprfsrvInternalServiceFailed
  printsMessage := false
  wrapperMaxRc := rcZisSrvcGrprfsrvMaxRc
  wrapperRcDescription := zisGpprfsrvWrapperRcDescription

def formatZISGroupProfileServiceError : Int → ZisServiceStatus → Except FormatFault String :=
  formatServiceError groupProfileErrors

/-- Its maxima are those of the resources' access lists. -/
def groupAccessListErrors : ServiceFormatter where
  serviceMaxRc := rcZisAcslsrvMaxRc
  serviceRcDescription := zisGrpalsrvServiceRcDescription
  internalServiceFailed := rcZisGrpalsrvInternalServiceFailed
  printsMessage := false
  wrapperMaxRc := rcZisSrvcAcslsrvMaxRc
  wrapperRcDescription := zisGrpalsrvWrapperRcDescription

def formatZISGroupAccessListServiceError : Int → ZisServiceStatus → Except FormatFault String :=
  formatServiceError groupAccessListErrors

/-- Its maxima are those of the resources' administration. -/
def groupAdminErrors : ServiceFormatter where
  serviceMaxRc := rcZisGsadmnsrvMaxRc
  serviceRcDescription := zisGrpasrvServiceRcDescription cms
  internalServiceFailed := rcZisGrpasrvInternalServiceFailed
  printsMessage := true
  wrapperMaxRc := rcZisSrvcPadminMaxRc
  wrapperRcDescription := zisGrpasrvWrapperRcDescription

def formatZISGroupAdminServiceError : Int → ZisServiceStatus → Except FormatFault String :=
  formatServiceError (groupAdminErrors cms)

/-- `formatZISErrorMessage`, for a formatter that is given. No text is printed for a call that is
OK. -/
def formatZISErrorMessage (zisCallRC : Int) (status : ZisServiceStatus)
    (formatter : Int → ZisServiceStatus → Except FormatFault String) :
    Except FormatFault String :=
  if zisCallRC = rcZisSrvcOk then .ok ""
  else if zisCallRC = rcZisSrvcStatusNull then .ok "ZIS status block not provided"
  else if zisCallRC = rcZisSrvcCmsFailed then
    let text := "Cross-Memory server failure (RC = " ++ toString status.cmsRC ++ ", RSN = " ++
      toString status.cmsRSN ++ ")"
    if 0 ≤ status.cmsRC ∧ status.cmsRC ≤ cms.rcCmsMaxRc then
      match cms.cmsRcDescription.read status.cmsRC with
      | .outside => .error .outsideTable
      | .null => .ok text
      | .found description => .ok (text ++ " - " ++ description)
    else .ok text
  else if zisCallRC < 0 then .ok (unknownText zisCallRC)
  else if zisCallRC = rcZisSrvcServiceFailed ∧ status.serviceRC < 0 then
    .ok (unknownServiceText status)
  else formatter zisCallRC status

/-- The seven services, with their formatters. -/
inductive SecurityService where
  | userProfile
  | genresProfile
  | genresAccessList
  | genresAdmin
  | groupProfile
  | groupAccessList
  | groupAdmin

def SecurityService.errors : SecurityService → ServiceFormatter
  | .userProfile => userProfileErrors
  | .genresProfile => genresProfileErrors cms
  | .genresAccessList => genresAccessListErrors cms
  | .genresAdmin => genresAdminErrors cms
  | .groupProfile => groupProfileErrors
  | .groupAccessList => groupAccessListErrors
  | .groupAdmin => groupAdminErrors cms

def SecurityService.formatter : SecurityService → Int → ZisServiceStatus →
    Except FormatFault String
  | .userProfile => formatZISUserProfileServiceError
  | .genresProfile => formatZISGenresProfileServiceError cms
  | .genresAccessList => formatZISGenresAccessListServiceError cms
  | .genresAdmin => formatZISGenresAdminServiceError cms
  | .groupProfile => formatZISGroupProfileServiceError
  | .groupAccessList => formatZISGroupAccessListServiceError
  | .groupAdmin => formatZISGroupAdminServiceError cms

/-- The text for an error of a service, of which the buffer takes as much as it has room for. -/
def SecurityService.errorText (service : SecurityService) (zisCallRC : Int)
    (status : ZisServiceStatus) : Except FormatFault String :=
  formatZISErrorMessage cms zisCallRC status (service.formatter cms)

end

/-! ## The codes that are described -/

/-- The codes of a service. -/
def SecurityService.codes : SecurityService → List Nat
  | .userProfile => [0, 8, 9, 10, 11, 12, 13, 14, 15, 16]
  | .genresProfile => [0, 8, 9, 10, 11, 12, 14, 15, 16, 17, 18, 19]
  | .genresAccessList => [0, 8, 9, 10, 11, 12, 13, 14, 15, 16, 17, 18]
  | .genresAdmin => [0, 8, 9, 10, 11, 12, 13, 14, 15, 16, 17, 18, 19, 20, 21, 22, 23]
  | .groupProfile => [0, 8, 9, 10, 11, 12, 13, 14, 15, 16]
  | .groupAccessList => [0, 8, 9, 10, 11, 12, 13, 14, 15, 16]
  | .groupAdmin => [0, 8, 9, 10, 11, 12, 13, 14, 15, 16, 17, 18, 19, 20, 21, 22]

/-- The codes of the client with a description. -/
def SecurityService.wrapperCodes : SecurityService → List Nat
  | .userProfile => [33, 34, 35]
  | .genresProfile | .groupProfile => [33, 34, 35, 36]
  | .genresAccessList => [33, 34, 35, 36, 37, 38]
  | .groupAccessList => [33, 34, 35, 36, 37]
  | .genresAdmin | .groupAdmin => [33, 34, 35, 36, 39]

/-- The codes of a service that are refused without a description, or have one. -/
def SecurityService.ServiceRcDescribed (service : SecurityService) (serviceRC : Int) : Prop :=
  serviceRC ≤ 0 ∨ 8 ≤ serviceRC ∧
    match service with
    | .userProfile | .genresAccessList | .genresAdmin => True
    | .genresProfile => serviceRC ≠ 13
    | .groupProfile => ¬(17 ≤ serviceRC ∧ serviceRC ≤ 19)
    | .groupAccessList => ¬(17 ≤ serviceRC ∧ serviceRC ≤ 18)
    | .groupAdmin => serviceRC ≠ 23

/-- The codes of the client that are refused without a description, or have one. -/
def SecurityService.WrapperRcDescribed (service : SecurityService) (zisCallRC : Int) : Prop :=
  zisCallRC ≤ 0 ∨ zisCallRC = rcZisSrvcStatusNull ∨ zisCallRC = rcZisSrvcCmsFailed ∨
    33 ≤ zisCallRC ∧
      match service with
      | .userProfile | .genresProfile | .genresAccessList | .groupProfile => True
      | .genresAdmin | .groupAdmin => ¬(37 ≤ zisCallRC ∧ zisCallRC ≤ 38)
      | .groupAccessList => zisCallRC ≠ 38

/-- The codes for which there is a text. -/
def SecurityService.Described (service : SecurityService) (zisCallRC serviceRC : Int) : Prop :=
  (zisCallRC = rcZisSrvcServiceFailed ∧ service.ServiceRcDescribed serviceRC) ∨
    (zisCallRC ≠ rcZisSrvcServiceFailed ∧ service.WrapperRcDescribed zisCallRC)

/-! ## Which codes are described -/

/-- A formatter that prints. -/
def Prints (result : Except FormatFault String) : Prop := ∃ text, result = .ok text

theorem prints_ok (text : String) : Prints (.ok text) := ⟨text, rfl⟩

theorem not_prints_error (fault : FormatFault) : ¬Prints (.error fault) := by
  intro ⟨text, h⟩
  cases h

theorem prints_describe_iff (printed : String → String) (read : Read String) :
    Prints (describe printed read) ↔ ∃ description, read = .found description := by
  cases read with
  | outside | null => exact ⟨fun h => absurd h (not_prints_error _), fun ⟨_, h⟩ => nomatch h⟩
  | found description => exact ⟨fun _ => ⟨description, rfl⟩, fun _ => prints_ok _⟩

/-- **One formatter.** It prints where a code passes its maximum or has an element in the table. -/
theorem formatServiceError_prints_iff {formatter : ServiceFormatter} (zisCallRC : Int)
    (status : ZisServiceStatus)
    (hinternal : ∃ i ∈ formatter.serviceRcDescription.indices,
      (i : Int) = formatter.internalServiceFailed) :
    Prints (formatServiceError formatter zisCallRC status) ↔
      (zisCallRC = rcZisSrvcServiceFailed ∧ (formatter.serviceMaxRc < status.serviceRC ∨
        ∃ i ∈ formatter.serviceRcDescription.indices, (i : Int) = status.serviceRC)) ∨
      (zisCallRC ≠ rcZisSrvcServiceFailed ∧ (formatter.wrapperMaxRc < zisCallRC ∨
        ∃ i ∈ formatter.wrapperRcDescription.indices, (i : Int) = zisCallRC)) := by
  unfold formatServiceError
  split
  next hfailed =>
    simp only [hfailed, true_and, ne_eq, not_true_eq_false, false_and, or_false]
    split
    next hmax => exact ⟨fun _ => .inl hmax, fun _ => prints_ok _⟩
    next hmax =>
      split
      next hsame =>
        have hfound := (SparseTable.read_found_iff formatter.serviceRcDescription
          formatter.internalServiceFailed).mpr hinternal
        obtain ⟨description, hread⟩ := hfound
        rw [hsame, hread]
        exact ⟨fun _ => .inr hinternal, fun _ => prints_ok _⟩
      next =>
        rw [prints_describe_iff, SparseTable.read_found_iff]
        exact ⟨.inr, fun h => h.resolve_left hmax⟩
  next hfailed =>
    simp only [hfailed, false_and, ne_eq, not_false_eq_true, true_and, false_or]
    split
    next hmax => exact ⟨fun _ => .inl hmax, fun _ => prints_ok _⟩
    next hmax =>
      rw [prints_describe_iff, SparseTable.read_found_iff]
      exact ⟨.inr, fun h => h.resolve_left hmax⟩

/-- A description of the cross-memory server's is never read outside its table. -/
theorem cms_prints (cms : CmsHeader) (zisCallRC : Int) (status : ZisServiceStatus)
    (formatter : Int → ZisServiceStatus → Except FormatFault String) :
    Prints (formatZISErrorMessage cms zisCallRC status formatter) ↔
      zisCallRC ≤ 0 ∨ zisCallRC = rcZisSrvcStatusNull ∨ zisCallRC = rcZisSrvcCmsFailed ∨
        (zisCallRC = rcZisSrvcServiceFailed ∧ status.serviceRC < 0) ∨
        Prints (formatter zisCallRC status) := by
  unfold formatZISErrorMessage
  split
  next h => exact ⟨fun _ => .inl (Int.le_of_eq h), fun _ => prints_ok _⟩
  next hok =>
    split
    next h => exact ⟨fun _ => .inr (.inl h), fun _ => prints_ok _⟩
    next hnull =>
      split
      next h =>
        refine ⟨fun _ => .inr (.inr (.inl h)), fun _ => ?_⟩
        dsimp only
        split
        next hbounds =>
          split
          next houtside =>
            have hsize := cms.size_gt
            unfold SparseTable.read at houtside
            split at houtside
            next hout => omega
            next =>
              split at houtside
              next => cases houtside
              next => cases houtside
          next => exact prints_ok _
          next => exact prints_ok _
        next => exact prints_ok _
      next hcms =>
        split
        next h => exact ⟨fun _ => .inl (Int.le_of_lt h), fun _ => prints_ok _⟩
        next hnonneg =>
          split
          next h => exact ⟨fun _ => .inr (.inr (.inr (.inl h))), fun _ => prints_ok _⟩
          next hservice =>
            have hpositive : ¬zisCallRC ≤ 0 := by
              have : zisCallRC ≠ 0 := hok
              omega
            simp only [hpositive, hnull, hcms, hservice, false_or]

theorem formatter_eq (cms : CmsHeader) (service : SecurityService) :
    service.formatter cms = formatServiceError (service.errors cms) := by
  cases service <;> rfl

theorem indices_eq (cms : CmsHeader) (service : SecurityService) :
    (service.errors cms).serviceRcDescription.indices = service.codes ∧
      (service.errors cms).wrapperRcDescription.indices = service.wrapperCodes := by
  cases service <;> exact ⟨rfl, rfl⟩

/-- The code for R_admin is one of each service's. -/
theorem internal_described (cms : CmsHeader) (service : SecurityService) :
    ∃ i ∈ service.codes, (i : Int) = (service.errors cms).internalServiceFailed := by
  cases service with
  | userProfile => exact ⟨14, by decide, rfl⟩
  | genresProfile => exact ⟨16, by decide, rfl⟩
  | genresAccessList => exact ⟨15, by decide, rfl⟩
  | genresAdmin => exact ⟨17, by decide, rfl⟩
  | groupProfile => exact ⟨14, by decide, rfl⟩
  | groupAccessList => exact ⟨14, by decide, rfl⟩
  | groupAdmin => exact ⟨17, by decide, rfl⟩

/-- What a service's maximum and table let through. -/
theorem serviceRcDescribed_iff (cms : CmsHeader) (service : SecurityService) {serviceRC : Int}
    (hnonneg : 0 ≤ serviceRC) :
    ((service.errors cms).serviceMaxRc < serviceRC ∨ ∃ i ∈ service.codes, (i : Int) = serviceRC) ↔
      service.ServiceRcDescribed serviceRC := by
  cases service
  all_goals
    simp [SecurityService.errors, SecurityService.codes, SecurityService.ServiceRcDescribed,
      userProfileErrors, genresProfileErrors, genresAccessListErrors, genresAdminErrors,
      groupProfileErrors, groupAccessListErrors, groupAdminErrors, rcZisUprfsrvMaxRc,
      rcZisGrprfsrvMaxRc, rcZisAcslsrvMaxRc, rcZisGsadmnsrvMaxRc]
    omega

/-- What the client's maximum and table let through. -/
theorem wrapperRcDescribed_iff (cms : CmsHeader) (service : SecurityService) {zisCallRC : Int}
    (hpositive : 0 < zisCallRC) (hnull : zisCallRC ≠ 2) (hcms : zisCallRC ≠ 8) :
    ((service.errors cms).wrapperMaxRc < zisCallRC ∨
        ∃ i ∈ service.wrapperCodes, (i : Int) = zisCallRC) ↔
      service.WrapperRcDescribed zisCallRC := by
  cases service
  all_goals
    simp [SecurityService.errors, SecurityService.wrapperCodes,
      SecurityService.WrapperRcDescribed, userProfileErrors, genresProfileErrors,
      genresAccessListErrors, genresAdminErrors, groupProfileErrors, groupAccessListErrors,
      groupAdminErrors, rcZisSrvcUprfsrvMaxRc, rcZisSrvcGrprfsrvMaxRc, rcZisSrvcAcslsrvMaxRc,
      rcZisSrvcPadminMaxRc, zisMaxGenSrvcRc, rcZisSrvcStatusNull, rcZisSrvcCmsFailed]
    omega

/-- **Codes.** There is a text exactly for the codes that are described. -/
theorem errorText_prints_iff (cms : CmsHeader) (service : SecurityService) (zisCallRC : Int)
    (status : ZisServiceStatus) :
    Prints (service.errorText cms zisCallRC status) ↔
      service.Described zisCallRC status.serviceRC := by
  obtain ⟨hservice, hwrapper⟩ := indices_eq cms service
  have hinternal := internal_described cms service
  rw [← hservice] at hinternal
  have hformat := formatServiceError_prints_iff zisCallRC status hinternal
  rw [hservice, hwrapper] at hformat
  unfold SecurityService.errorText
  rw [cms_prints, formatter_eq, hformat]
  unfold SecurityService.Described
  have hfailed : rcZisSrvcServiceFailed = 4 := rfl
  have hnull : rcZisSrvcStatusNull = 2 := rfl
  have hcms : rcZisSrvcCmsFailed = 8 := rfl
  by_cases hcall : zisCallRC = rcZisSrvcServiceFailed
  · by_cases hneg : status.serviceRC < 0
    · have hdescribed : service.ServiceRcDescribed status.serviceRC := .inl (Int.le_of_lt hneg)
      simp [hcall, hneg, hdescribed]
    · have hiff := serviceRcDescribed_iff cms service (Int.not_lt.mp hneg)
      rw [hiff]
      simp [hcall, hneg, hfailed, hnull, hcms]
  · by_cases hplain : zisCallRC ≤ 0 ∨ zisCallRC = rcZisSrvcStatusNull ∨
        zisCallRC = rcZisSrvcCmsFailed
    · have hdescribed : service.WrapperRcDescribed zisCallRC := by
        rcases hplain with h | h | h
        · exact .inl h
        · exact .inr (.inl h)
        · exact .inr (.inr (.inl h))
      simp only [hcall, hdescribed, false_and, ne_eq, not_false_eq_true, true_and, false_or,
        iff_true, or_true]
      rcases hplain with h | h | h
      · exact .inl h
      · exact .inr (.inl h)
      · exact .inr (.inr (.inl h))
    · rw [not_or, not_or] at hplain
      have hiff := wrapperRcDescribed_iff cms service (Int.not_le.mp hplain.1) hplain.2.1
        hplain.2.2
      rw [hiff]
      simp only [hcall, hplain, false_and, ne_eq, not_false_eq_true, true_and, false_or]

/-! ## Calls -/

/-- The functions of the client, with arguments: names, and whether the pointers are given. -/
inductive SecurityCall where
  | extractUserProfiles (startProfile : Option Text) (resultBuffer profilesExtracted : Bool)
  | extractGenresProfiles (className startProfile : Option Text)
      (resultBuffer profilesExtracted : Bool)
  | extractGenresAccessList (className profile : Option Text)
      (resultBuffer entriesExtracted : Bool)
  | defineProfile (profileName owner : Option Text) (isDryRun operatorCommand status : Bool)
  | deleteProfile (profileName : Option Text) (isDryRun operatorCommand status : Bool)
  | giveAccessToProfile (userID profileName : Option Text)
      (isDryRun operatorCommand status : Bool)
  | revokeAccessToProfile (userID profileName : Option Text)
      (isDryRun operatorCommand status : Bool)
  | extractGroupProfiles (startGroup : Option Text) (resultBuffer profilesExtracted : Bool)
  | extractGroupAccessList (group : Option Text) (resultBuffer entriesExtracted : Bool)
  | addGroup (groupName superiorGroupName : Option Text)
      (isDryRun operatorCommand status : Bool)
  | deleteGroup (groupName : Option Text) (isDryRun operatorCommand status : Bool)
  | connectToGroup (userID groupName : Option Text) (isDryRun operatorCommand status : Bool)
  | removeFromGroup (userID groupName : Option Text) (isDryRun operatorCommand status : Bool)

/-- The service a function calls, whose formatter is used for its code. -/
def SecurityCall.service : SecurityCall → SecurityService
  | .extractUserProfiles .. => .userProfile
  | .extractGenresProfiles .. => .genresProfile
  | .extractGenresAccessList .. => .genresAccessList
  | .defineProfile .. | .deleteProfile .. | .giveAccessToProfile .. | .revokeAccessToProfile .. =>
    .genresAdmin
  | .extractGroupProfiles .. => .groupProfile
  | .extractGroupAccessList .. => .groupAccessList
  | .addGroup .. | .deleteGroup .. | .connectToGroup .. | .removeFromGroup .. => .groupAdmin

def SecurityCall.run : SecurityCall → CmsAnswer → ClientResult
  | .extractUserProfiles startProfile buffer count =>
    zisExtractUserProfiles startProfile buffer count
  | .extractGenresProfiles className startProfile buffer count =>
    zisExtractGenresProfiles className startProfile buffer count
  | .extractGenresAccessList className profile buffer count =>
    zisExtractGenresAccessList className profile buffer count
  | .defineProfile profileName owner isDryRun command status =>
    zisDefineProfile profileName owner isDryRun command status
  | .deleteProfile profileName isDryRun command status =>
    zisDeleteProfile profileName isDryRun command status
  | .giveAccessToProfile userID profileName isDryRun command status =>
    zisGiveAccessToProfile userID profileName isDryRun command status
  | .revokeAccessToProfile userID profileName isDryRun command status =>
    zisRevokeAccessToProfile userID profileName isDryRun command status
  | .extractGroupProfiles startGroup buffer count =>
    zisExtractGroupProfiles startGroup buffer count
  | .extractGroupAccessList group buffer count => zisExtractGroupAccessList group buffer count
  | .addGroup groupName superiorGroupName isDryRun command status =>
    zisAddGroup groupName superiorGroupName isDryRun command status
  | .deleteGroup groupName isDryRun command status =>
    zisDeleteGroup groupName isDryRun command status
  | .connectToGroup userID groupName isDryRun command status =>
    zisConnectToGroup userID groupName isDryRun command status
  | .removeFromGroup userID groupName isDryRun command status =>
    zisRemoveFromGroup userID groupName isDryRun command status

/-- A name that is given and not too long. -/
def Fits (name : Option Text) (maxLength : Nat) : Prop :=
  name.isSome ∧ tooLong name maxLength = false

/-- The arguments a client gets to whose code has no description: an owner that is too long, and a
user of a group that is not given or is too long, where what is looked at before is right. -/
def SecurityCall.Undescribed : SecurityCall → Prop
  | .defineProfile profileName owner _ _ status =>
    status ∧ Fits profileName zisSecurityProfileMaxLength ∧ tooLong owner zisUserIdMaxLength
  | .connectToGroup userID groupName _ _ status | .removeFromGroup userID groupName _ _ status =>
    status ∧ Fits groupName zisSecurityGroupMaxLength ∧ ¬Fits userID zisUserIdMaxLength
  | _ => False

/-- The service of a kind of access lists. -/
def AccessKind.service : AccessKind → SecurityService
  | .profile => .genresAccessList
  | .group => .groupAccessList

/-- The code of an answer is one of the service's. -/
def CmsAnswer.From (answer : CmsAnswer) (service : SecurityService) : Prop :=
  ∃ i ∈ service.codes, (i : Int) = answer.serviceRC

section

variable {service : SecurityService} {answer : CmsAnswer}

theorem codes_described (h : answer.From service) :
    service.ServiceRcDescribed answer.serviceRC := by
  obtain ⟨i, hi, hcode⟩ := h
  rw [← hcode]
  cases service
  all_goals
    simp [SecurityService.codes] at hi
    simp [SecurityService.ServiceRcDescribed]
    omega

/-- A code the client has a description for. -/
theorem listed_described (i : Nat) (h : i ∈ service.wrapperCodes) (serviceRC : Int) :
    service.Described i serviceRC := by
  right
  cases service
  all_goals
    simp [SecurityService.wrapperCodes] at h
    simp [SecurityService.WrapperRcDescribed, rcZisSrvcServiceFailed]
    omega

theorem statusNull_described (serviceRC : Int) :
    service.Described rcZisSrvcStatusNull serviceRC :=
  .inr ⟨by decide, .inr (.inl rfl)⟩

theorem cms_described (serviceRC : Int) : service.Described rcZisSrvcCmsFailed serviceRC :=
  .inr ⟨by decide, .inr (.inr (.inl rfl))⟩

theorem ok_described (serviceRC : Int) : service.Described rcZisSrvcOk serviceRC :=
  .inr ⟨by decide, .inl (Int.le_refl _)⟩

theorem finishExtraction_described (h : answer.From service) {insufficient : Option (Int × Int)}
    (hinsufficient : ∀ serviceRC rc, insufficient = some (serviceRC, rc) →
      service.Described rc ZisServiceStatus.zero.serviceRC) :
    service.Described (finishExtraction answer insufficient).1
      (finishExtraction answer insufficient).2.serviceRC := by
  unfold finishExtraction
  split
  next => exact cms_described _
  next =>
    split
    next serviceRC rc =>
      split
      next => exact hinsufficient serviceRC rc rfl
      next =>
        split
        next => exact .inl ⟨rfl, codes_described h⟩
        next => exact ok_described _
    next =>
      split
      next => exact .inl ⟨rfl, codes_described h⟩
      next => exact ok_described _

theorem finishAdministration_described (h : answer.From service) :
    service.Described (finishAdministration answer).1
      (finishAdministration answer).2.serviceRC := by
  unfold finishAdministration
  split
  next => exact cms_described _
  next =>
    split
    next => exact .inl ⟨rfl, codes_described h⟩
    next => exact ok_described _

theorem zisExtractUserProfiles_described (h : answer.From .userProfile)
    (startProfile : Option Text) (resultBuffer profilesExtracted : Bool) :
    SecurityService.userProfile.Described
      (zisExtractUserProfiles startProfile resultBuffer profilesExtracted answer).1
      (zisExtractUserProfiles startProfile resultBuffer profilesExtracted answer).2.serviceRC := by
  unfold zisExtractUserProfiles
  split
  next => exact listed_described 33 (by decide) _
  next =>
    split
    next => exact listed_described 34 (by decide) _
    next =>
      split
      next => exact listed_described 35 (by decide) _
      next => exact finishExtraction_described h nofun

theorem zisExtractGenresProfiles_described (h : answer.From .genresProfile)
    (className startProfile : Option Text) (resultBuffer profilesExtracted : Bool) :
    SecurityService.genresProfile.Described
      (zisExtractGenresProfiles className startProfile resultBuffer profilesExtracted answer).1
      (zisExtractGenresProfiles className startProfile resultBuffer profilesExtracted
        answer).2.serviceRC := by
  unfold zisExtractGenresProfiles
  split
  next => exact listed_described 33 (by decide) _
  next =>
    split
    next => exact listed_described 34 (by decide) _
    next =>
      split
      next => exact listed_described 35 (by decide) _
      next =>
        split
        next => exact listed_described 36 (by decide) _
        next => exact finishExtraction_described h nofun

theorem zisExtractGroupProfiles_described (h : answer.From .groupProfile)
    (startGroup : Option Text) (resultBuffer profilesExtracted : Bool) :
    SecurityService.groupProfile.Described
      (zisExtractGroupProfiles startGroup resultBuffer profilesExtracted answer).1
      (zisExtractGroupProfiles startGroup resultBuffer profilesExtracted answer).2.serviceRC := by
  unfold zisExtractGroupProfiles
  split
  next => exact listed_described 34 (by decide) _
  next =>
    split
    next => exact listed_described 35 (by decide) _
    next =>
      split
      next => exact listed_described 36 (by decide) _
      next => exact finishExtraction_described h nofun

theorem refusal_described {kind : AccessKind} {request : AccessRequest kind}
    {resultBuffer : Option Nat} {rc : Int} (h : request.refusal resultBuffer = some rc)
    (serviceRC : Int) : kind.service.Described rc serviceRC := by
  cases request with
  | profile className profileName =>
    simp only [AccessRequest.refusal] at h
    split at h
    next => cases h; exact listed_described 33 (by decide) _
    next =>
      split at h
      next => cases h; exact listed_described 34 (by decide) _
      next =>
        split at h
        next => cases h; exact listed_described 35 (by decide) _
        next =>
          split at h
          next => cases h; exact listed_described 36 (by decide) _
          next => cases h
  | group groupName =>
    simp only [AccessRequest.refusal] at h
    split at h
    next => cases h; exact listed_described 33 (by decide) _
    next =>
      split at h
      next => cases h; exact listed_described 34 (by decide) _
      next =>
        split at h
        next => cases h; exact listed_described 35 (by decide) _
        next => cases h

/-- Both extractions of access lists. The code for a buffer that is too small has a description. -/
theorem extractList_described (kind : AccessKind) (h : answer.From kind.service)
    (request : AccessRequest kind) (resultBuffer entriesExtracted : Bool) {entryCountNull : Int}
    (hcount : ∀ serviceRC, kind.service.Described entryCountNull serviceRC) :
    kind.service.Described
      (extractList request resultBuffer entriesExtracted entryCountNull answer).1
      (extractList request resultBuffer entriesExtracted entryCountNull answer).2.serviceRC := by
  unfold extractList
  split
  next rc hrefusal => exact refusal_described hrefusal _
  next =>
    split
    next => exact hcount _
    next =>
      apply finishExtraction_described h
      intro serviceRC rc hsome
      cases hsome
      cases kind with
      | profile => exact listed_described 38 (by decide) _
      | group => exact listed_described 37 (by decide) _

theorem owner_undescribed (serviceRC : Int) :
    ¬SecurityService.genresAdmin.Described rcZisSrvcPadminOwnerTooLong serviceRC := by
  simp [SecurityService.Described, SecurityService.WrapperRcDescribed,
    rcZisSrvcPadminOwnerTooLong, rcZisSrvcServiceFailed, rcZisSrvcStatusNull, rcZisSrvcCmsFailed,
    zisMaxGenSrvcRc]

theorem user_undescribed (rc : Int) (h : rc = 37 ∨ rc = 38) (serviceRC : Int) :
    ¬SecurityService.groupAdmin.Described rc serviceRC := by
  simp [SecurityService.Described, SecurityService.WrapperRcDescribed, rcZisSrvcServiceFailed,
    rcZisSrvcStatusNull, rcZisSrvcCmsFailed]
  omega

/-- **The administration of resources.** An owner that is too long has no description. -/
theorem handleProfileFunction_described_iff (h : answer.From .genresAdmin)
    (userID profileName owner : Option Text) (isDryRun operatorCommand status : Bool) :
    SecurityService.genresAdmin.Described
        (handleProfileFunction userID profileName owner isDryRun operatorCommand status answer).1
        (handleProfileFunction userID profileName owner isDryRun operatorCommand status
          answer).2.serviceRC ↔
      ¬(status ∧ Fits userID zisUserIdMaxLength ∧ Fits profileName zisSecurityProfileMaxLength ∧
        tooLong owner zisUserIdMaxLength) := by
  unfold handleProfileFunction Fits
  split
  next hstatus =>
    refine ⟨fun _ hall => ?_, fun _ => statusNull_described _⟩
    simp [hall.1] at hstatus
  next hstatus =>
    split
    next huser =>
      refine ⟨fun _ hall => ?_, fun _ => listed_described 33 (by decide) _⟩
      simp [Option.isNone_iff_eq_none.mp huser] at hall
    next huser =>
      split
      next hlong =>
        refine ⟨fun _ hall => ?_, fun _ => listed_described 34 (by decide) _⟩
        simp [hlong] at hall
      next hshort =>
        split
        next hprofile =>
          refine ⟨fun _ hall => ?_, fun _ => listed_described 35 (by decide) _⟩
          simp [Option.isNone_iff_eq_none.mp hprofile] at hall
        next hprofile =>
          split
          next hlong =>
            refine ⟨fun _ hall => ?_, fun _ => listed_described 36 (by decide) _⟩
            simp [hlong] at hall
          next hprofileShort =>
            split
            next howner =>
              constructor
              · intro hdescribed
                exact absurd hdescribed (owner_undescribed _)
              · intro hnot
                refine absurd ⟨?_, ⟨?_, ?_⟩, ⟨?_, ?_⟩, howner⟩ hnot
                · simpa using hstatus
                · simpa [Option.isSome_iff_ne_none] using huser
                · simpa using hshort
                · simpa [Option.isSome_iff_ne_none] using hprofile
                · simpa using hprofileShort
            next howner =>
              refine ⟨fun _ hall => howner hall.2.2.2, fun _ => ?_⟩
              split
              next => exact listed_described 39 (by decide) _
              next => exact finishAdministration_described h

/-- **The administration of groups.** A user that is not given, or is too long, has no
description. -/
theorem handleGroupAdminFunction_described_iff (h : answer.From .groupAdmin)
    (group superiorGroup userID : Option Text) (isDryRun operatorCommand status : Bool) :
    SecurityService.groupAdmin.Described
        (handleGroupAdminFunction group superiorGroup userID isDryRun operatorCommand status
          answer).1
        (handleGroupAdminFunction group superiorGroup userID isDryRun operatorCommand status
          answer).2.serviceRC ↔
      ¬(status ∧ Fits group zisSecurityGroupMaxLength ∧
        Fits superiorGroup zisSecurityGroupMaxLength ∧ ¬Fits userID zisUserIdMaxLength) := by
  unfold handleGroupAdminFunction Fits
  split
  next hstatus =>
    refine ⟨fun _ hall => ?_, fun _ => statusNull_described _⟩
    simp [hall.1] at hstatus
  next hstatus =>
    split
    next hgroup =>
      refine ⟨fun _ hall => ?_, fun _ => listed_described 33 (by decide) _⟩
      simp [Option.isNone_iff_eq_none.mp hgroup] at hall
    next hgroup =>
      split
      next hlong =>
        refine ⟨fun _ hall => ?_, fun _ => listed_described 34 (by decide) _⟩
        simp [hlong] at hall
      next hgroupShort =>
        split
        next hsuperior =>
          refine ⟨fun _ hall => ?_, fun _ => listed_described 33 (by decide) _⟩
          simp [Option.isNone_iff_eq_none.mp hsuperior] at hall
        next hsuperior =>
          split
          next hlong =>
            refine ⟨fun _ hall => ?_, fun _ => listed_described 36 (by decide) _⟩
            simp [hlong] at hall
          next hsuperiorShort =>
            have hrest (hnot : ¬(userID.isSome ∧ tooLong userID zisUserIdMaxLength = false)) :
                (status = true) ∧ (group.isSome ∧ tooLong group zisSecurityGroupMaxLength = false) ∧
                  (superiorGroup.isSome ∧
                    tooLong superiorGroup zisSecurityGroupMaxLength = false) ∧
                  ¬(userID.isSome ∧ tooLong userID zisUserIdMaxLength = false) := by
              refine ⟨?_, ⟨?_, ?_⟩, ⟨?_, ?_⟩, hnot⟩
              · simpa using hstatus
              · simpa [Option.isSome_iff_ne_none] using hgroup
              · simpa using hgroupShort
              · simpa [Option.isSome_iff_ne_none] using hsuperior
              · simpa using hsuperiorShort
            split
            next huser =>
              constructor
              · intro hdescribed
                exact absurd hdescribed (user_undescribed 37 (.inl rfl) _)
              · intro hnot
                refine absurd (hrest ?_) hnot
                simp [Option.isNone_iff_eq_none.mp huser]
            next huser =>
              split
              next hlong =>
                constructor
                · intro hdescribed
                  exact absurd hdescribed (user_undescribed 38 (.inr rfl) _)
                · intro hnot
                  refine absurd (hrest ?_) hnot
                  simp [hlong]
              next hshort =>
                constructor
                · intro _ hall
                  refine hall.2.2.2 ⟨?_, ?_⟩
                  · simpa [Option.isSome_iff_ne_none] using huser
                  · simpa using hshort
                · intro _
                  split
                  next => exact listed_described 39 (by decide) _
                  next => exact finishAdministration_described h

end

theorem fits_empty (maxLength : Nat) : Fits (some []) maxLength := by
  refine ⟨rfl, ?_⟩
  simp [tooLong]

theorem not_tooLong_empty (maxLength : Nat) : ¬tooLong (some []) maxLength := by
  simp [tooLong]

/-- **Calls.** After a call there is a text unless its arguments have none. -/
theorem call_prints_iff (cms : CmsHeader) (call : SecurityCall) {answer : CmsAnswer}
    (h : answer.From call.service) :
    Prints (call.service.errorText cms (call.run answer).1 (call.run answer).2) ↔
      ¬call.Undescribed := by
  rw [errorText_prints_iff]
  cases call with
  | extractUserProfiles startProfile buffer count =>
    exact ⟨fun _ => id, fun _ => zisExtractUserProfiles_described h _ _ _⟩
  | extractGenresProfiles className startProfile buffer count =>
    exact ⟨fun _ => id, fun _ => zisExtractGenresProfiles_described h _ _ _ _⟩
  | extractGenresAccessList className profile buffer count =>
    refine ⟨fun _ => id, fun _ => ?_⟩
    exact extractList_described .profile h _ _ _ fun _ =>
      listed_described 37 (by decide) _
  | defineProfile profileName owner isDryRun command status =>
    refine (handleProfileFunction_described_iff h _ _ _ _ _ _).trans (not_congr ?_)
    exact ⟨fun ⟨hs, _, hp, ho⟩ => ⟨hs, hp, ho⟩, fun ⟨hs, hp, ho⟩ => ⟨hs, fits_empty _, hp, ho⟩⟩
  | deleteProfile profileName isDryRun command status =>
    refine (handleProfileFunction_described_iff h _ _ _ _ _ _).trans (not_congr ?_)
    exact ⟨fun hall => not_tooLong_empty _ hall.2.2.2, False.elim⟩
  | giveAccessToProfile userID profileName isDryRun command status =>
    refine (handleProfileFunction_described_iff h _ _ _ _ _ _).trans (not_congr ?_)
    exact ⟨fun hall => not_tooLong_empty _ hall.2.2.2, False.elim⟩
  | revokeAccessToProfile userID profileName isDryRun command status =>
    refine (handleProfileFunction_described_iff h _ _ _ _ _ _).trans (not_congr ?_)
    exact ⟨fun hall => not_tooLong_empty _ hall.2.2.2, False.elim⟩
  | extractGroupProfiles startGroup buffer count =>
    exact ⟨fun _ => id, fun _ => zisExtractGroupProfiles_described h _ _ _⟩
  | extractGroupAccessList group buffer count =>
    refine ⟨fun _ => id, fun _ => ?_⟩
    exact extractList_described .group h _ _ _ fun _ =>
      listed_described 36 (by decide) _
  | addGroup groupName superiorGroupName isDryRun command status =>
    refine (handleGroupAdminFunction_described_iff h _ _ _ _ _ _).trans (not_congr ?_)
    exact ⟨fun hall => hall.2.2.2 (fits_empty _), False.elim⟩
  | deleteGroup groupName isDryRun command status =>
    refine (handleGroupAdminFunction_described_iff h _ _ _ _ _ _).trans (not_congr ?_)
    exact ⟨fun hall => hall.2.2.2 (fits_empty _), False.elim⟩
  | connectToGroup userID groupName isDryRun command status =>
    refine (handleGroupAdminFunction_described_iff h _ _ _ _ _ _).trans (not_congr ?_)
    exact ⟨fun ⟨hs, hg, _, hu⟩ => ⟨hs, hg, hu⟩, fun ⟨hs, hg, hu⟩ => ⟨hs, hg, fits_empty _, hu⟩⟩
  | removeFromGroup userID groupName isDryRun command status =>
    refine (handleGroupAdminFunction_described_iff h _ _ _ _ _ _).trans (not_congr ?_)
    exact ⟨fun ⟨hs, hg, _, hu⟩ => ⟨hs, hg, hu⟩, fun ⟨hs, hg, hu⟩ => ⟨hs, hg, fits_empty _, hu⟩⟩

/-- **Texts.** For each service and any codes there is a text exactly when the codes are described.
After a call whose service answers with one of its codes there is a text, unless the call was given
an owner that is too long, or for a group no user or one that is too long. -/
theorem error_texts_iff (cms : CmsHeader) :
    (∀ (service : SecurityService) (zisCallRC : Int) (status : ZisServiceStatus),
      Prints (service.errorText cms zisCallRC status) ↔
        service.Described zisCallRC status.serviceRC) ∧
    ∀ (call : SecurityCall) (answer : CmsAnswer), answer.From call.service →
      (Prints (call.service.errorText cms (call.run answer).1 (call.run answer).2) ↔
        ¬call.Undescribed) :=
  ⟨errorText_prints_iff cms, fun call _ h => call_prints_iff cms call h⟩

def sampleCmsHeader : CmsHeader where
  cmsProdId := "ZWES"
  rcCmsMaxRc := 1
  cmsRcDescription := [(0, "OK"), (1, "Server is not ready")]
  size_gt := by decide

/-- A service that is not there. -/
def sampleCmsAnswer : CmsAnswer := ⟨0, 16, 0, 0, ⟨0, 0, 0⟩, ""⟩

/-- A profile with an owner of nine characters. -/
def sampleDefinition : SecurityCall :=
  .defineProfile (some ['Z', 'O', 'W', 'E', '.', 'A'])
    (some ['L', 'O', 'N', 'G', 'O', 'W', 'N', 'E', 'R']) true true true

theorem error_texts_iff_sample :
    Prints (SecurityService.userProfile.errorText sampleCmsHeader
        ((SecurityCall.extractUserProfiles none true true).run sampleCmsAnswer).1
        ((SecurityCall.extractUserProfiles none true true).run sampleCmsAnswer).2) ↔
      ¬(SecurityCall.extractUserProfiles none true true).Undescribed :=
  (error_texts_iff sampleCmsHeader).2 (.extractUserProfiles none true true) sampleCmsAnswer
    ⟨16, by decide, rfl⟩

/-- The definition of a profile with an owner that is too long prints a null string, and a code of
the administration of groups that passes the maximum of resources is outside its table. -/
theorem owner_prints_null :
    (sampleDefinition.run sampleCmsAnswer).1 = rcZisSrvcPadminOwnerTooLong ∧
      sampleDefinition.service.errorText sampleCmsHeader (sampleDefinition.run sampleCmsAnswer).1
          (sampleDefinition.run sampleCmsAnswer).2 = .error .nullString ∧
      SecurityService.groupAdmin.errorText sampleCmsHeader rcZisSrvcServiceFailed
        { ZisServiceStatus.zero with serviceRC := 23 } = .error .outsideTable := by
  refine ⟨by decide, ?_, ?_⟩
  · rfl
  · rfl

end Zss.Security
