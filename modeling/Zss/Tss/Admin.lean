import Zss.Lib.Flags
import Zss.Lib.KeywordText
import Zss.Tss.GroupList

/-!
# The administration services

`zisGenresProfileAdminServiceFunctionTSS` and `zisGroupAdminServiceFunctionTSS` in `secmgmttss.c`,
with their validators in `secmgmt.c`. A call prints the fields of its request into the fixed buffer
of a command and has the command run, or copies it to its caller on a dry run. `issued` records
each command at that point.

A call has no result where it reads the output of a command that has none.
-/

namespace Zss.Tss

open Zss.Lib (hasFlag)

/-! ## Constants -/

def rcZisGsadmnsrvOk : Int := 0
def rcZisGsadmnsrvParmlistNull : Int := 8
def rcZisGsadmnsrvBadEyecatcher : Int := 9
def rcZisGsadmnsrvProfTooLong : Int := 10
def rcZisGsadmnsrvUnsupportedProduct : Int := 11
def rcZisGsadmnsrvUserIdTooLong : Int := 13
def rcZisGsadmnsrvImpersonationMissing : Int := 14
def rcZisGsadmnsrvBadFunction : Int := 15
def rcZisGsadmnsrvBadAccessType : Int := 16
def rcZisGsadmnsrvInternalServiceFailed : Int := 17
def rcZisGsadmnsrvUserClassTooLong : Int := 19
def rcZisGsadmnsrvUserClassNotRead : Int := 20
def rcZisGsadmnsrvOwnerTooLong : Int := 22

def rcZisGrpasrvOk : Int := 0
def rcZisGrpasrvParmlistNull : Int := 8
def rcZisGrpasrvBadEyecatcher : Int := 9
def rcZisGrpasrvGroupTooLong : Int := 10
def rcZisGrpasrvSupgroupTooLong : Int := 11
def rcZisGrpasrvUnsupportedProduct : Int := 12
def rcZisGrpasrvUserIdTooLong : Int := 13
def rcZisGrpasrvImpersonationMissing : Int := 14
def rcZisGrpasrvBadFunction : Int := 15
def rcZisGrpasrvBadAccessType : Int := 16
def rcZisGrpasrvInternalServiceFailed : Int := 17

def zisGenresAdminSrvFcDefine : Int := 0
def zisGenresAdminSrvFcDelete : Int := 1
def zisGenresAdminSrvFcGiveAccess : Int := 2
def zisGenresAdminSrvFcRevokeAccess : Int := 3

def zisGenresAdminAccessTypeRead : Int := 0
def zisGenresAdminAccessTypeUpdate : Int := 1
def zisGenresAdminAccessTypeAlter : Int := 2
def zisGenresAdminAccessTypeAll : Int := 3

def zisGroupAdminSrvFcAdd : Int := 0
def zisGroupAdminSrvFcDelete : Int := 1
def zisGroupAdminSrvFcConnectUser : Int := 2
def zisGroupAdminSrvFcRemoveUser : Int := 3

def zisGenresAdminServiceParmlistEyecatcher : Text := ['R', 'S', 'G', 'R', 'A', 'D', 'M', 'N']
def zisGroupAdminServiceParmlistEyecatcher : Text := ['R', 'S', 'G', 'P', 'A', 'D', 'M', 'N']
def zisGroupAdminFlagDryrun : BitVec 32 := 1#32

def zisUserIdMaxLength : Nat := 8
def zisServiceMessageTextSize : Nat := 510

def zisGenresProducts : List Text := [['Z', 'O', 'W', 'E']]

def zisGroupProducts : List Text :=
  [['Z', 'W', 'E'], ['Z', 'O', 'W', 'E'], ['M', 'V', 'D'], ['Z', 'I', 'S']]

def tssServiceMsgMaxLen : Nat := 17
def tssCommandFailure : Text := ['T', 'S', 'S', '0', '3', '0', '1', 'I']

def tssPrfAccessListAdminRevokeMaxLen : Nat := 302
def tssPrfAccessListAdminPermitMaxLen : Nat := 302
def tssPrfAdminDelMaxLen : Nat := 286
def tssPrfAdminAddMaxLen : Nat := 285
def tssGrpAdminAddMaxLen : Nat := 94
def tssGrpAdminDelMaxLen : Nat := 20
def tssGrpAdminAddConMaxLen : Nat := 37
def tssGrpAdminRemConMaxLen : Nat := 38
def tssPrfPermitExtrMaxLen : Nat := 30
def tssPrfOwnerExtrMaxLen : Nat := 274

/-! ## Data -/

/-- `ZISSecurityProfile`, `ZISSecurityGroup`, `ZISUserID`: bytes and how many of them count. -/
structure CountedText where
  length : Nat
  value : Text
deriving DecidableEq

/-- The field itself. -/
def CountedText.text (field : CountedText) : Text := field.value.take field.length

/-- What `%.*s` prints of the field. -/
def CountedText.printed (field : CountedText) : Text := field.text.takeWhile (· ≠ nul)

/-- What `%s` prints of a string. -/
def printedString (value : Text) : Text := value.takeWhile (· ≠ nul)

/-- `snprintf` into an array of a size, without its null. -/
def snprintf (size : Nat) (text : Text) : Text := text.take (size - 1)

/-- `ZISGenresAdminServiceMessage` and `ZISGroupAdminServiceMessage`. -/
structure AdminServiceMessage where
  length : Nat
  text : Text

/-- The message with bytes copied to its text. -/
def AdminServiceMessage.set (message : AdminServiceMessage) (bytes : Text) : AdminServiceMessage :=
  ⟨bytes.length, bytes ++ message.text.drop bytes.length⟩

/-- The output fields of both parm lists. -/
structure AdminOutput where
  internalServiceRC : Int
  internalServiceRSN : Int
  safStatus : RadminApiStatus
  serviceMessage : AdminServiceMessage
  operatorCommand : AdminServiceMessage

/-- `ZISGenresAdminServiceParmList`. -/
structure GenresAdminParmList where
  eyecatcher : Text
  flags : BitVec 32
  function : Int
  profile : CountedText
  owner : CountedText
  user : CountedText
  accessType : Int
  output : AdminOutput

/-- `ZISGroupAdminServiceParmList`. -/
structure GroupAdminParmList where
  eyecatcher : Text
  flags : BitVec 32
  function : Int
  group : CountedText
  superiorGroup : CountedText
  user : CountedText
  accessType : Int
  output : AdminOutput

/-- What the services ask of their surroundings: the caller where there is one, the class parameter
or the code it is not read with, the common library's `nullTerminate`, what the stack holds where
an array begins that is not cleared, and commands. -/
structure AdminEnv where
  secmgmtGetCallerUserID : Option CountedText
  userClass : Except Int Text
  nullTerminate : Text → Text
  stack : Text
  radminRunRACFCommand : Text → RadminRun

/-- The commands of the services. -/
inductive AdminCommand where
  | permit
  | revoke
  | define
  | delete
  | createGroup
  | deleteGroup
  | connectUser
  | removeUser
deriving DecidableEq

/-- `RadminStatus`. -/
structure RadminStatus where
  reasonCode : Int
  apiStatus : RadminApiStatus

def RadminStatus.zero : RadminStatus := ⟨0, ⟨0, 0, 0⟩⟩

def RadminRun.status (run : RadminRun) : RadminStatus := ⟨run.reasonCode, run.apiStatus⟩

/-- The variables of a call that its commands change, and the commands issued. -/
structure AdminLocals where
  output : AdminOutput
  serviceMessage : Text
  radminStatus : RadminStatus
  issued : List (AdminCommand × Text)

/-- What a call did: the commands issued, and its return code with what is copied to the caller. -/
structure AdminOutcome (α : Type) where
  issued : List (AdminCommand × Text)
  result : Option (Int × Option α)

/-- A call that ends before its commands. -/
def AdminOutcome.refused {α : Type} (rc : Int) : AdminOutcome α := ⟨[], some (rc, none)⟩

/-! ## Commands -/

section

variable (utils : Utils) (env : AdminEnv)

/-- `TSSCommandOutput`. -/
structure TssCommandOutput where
  returnCode : Nat
  reasonMessageID : Text

/-- The one or two digits after the equal sign of a message that a command failed. -/
def returnCodeOf (line : Text) : Option Nat :=
  let retCodeIndex := (utils.lastIndexOfString line
    ['R', 'E', 'T', 'U', 'R', 'N', ' ', 'C', 'O', 'D', 'E']).getD 0
  match utils.indexOfString (line.drop retCodeIndex) ['='] with
  | none => none
  | some equalSignIndex =>
    match (line.drop (retCodeIndex + equalSignIndex)).dropWhile (!·.isDigit) with
    | [] => none
    | [c] => some (c.toNat - 48)
    | c :: d :: _ =>
      if d.isDigit then some ((c.toNat - 48) * 10 + (d.toNat - 48)) else some (c.toNat - 48)

/-- The lines `didCommandFail` goes through: whether one reports a failure, the return code, and
whether a line that reports success ends the function. -/
def scanCommandOutput (commandFailure : Bool) (returnCode : Nat) : List Text → Bool × Nat × Bool
  | [] => (commandFailure, returnCode, false)
  | line :: lines =>
    if tssCommandSuccess.isPrefixOf line then (commandFailure, 0, true)
    else if tssCommandFailure.isPrefixOf line then
      scanCommandOutput true ((returnCodeOf utils line).getD returnCode) lines
    else scanCommandOutput commandFailure returnCode lines

/-- `didCommandFail`. The first line of a block without any is taken as empty. -/
def didCommandFail (status : RadminApiStatus) (result : List RadminCommandOutput) :
    Option (Bool × TssCommandOutput) :=
  if status.racfRC ≠ 0 then some (true, ⟨0, zeroBuffer tssMessageIdMaxLen⟩)
  else
    match result with
    | [] => none
    | block :: _ =>
      let (commandFailure, returnCode, ended) :=
        scanCommandOutput utils false 0 (outputLines result)
      let line := block.lines.headD []
      if !ended && tssMessageIdMaxLen ≤ line.length && tssFunctionEnd.isPrefixOf line then
        some (commandFailure, ⟨returnCode, line.take tssMessageIdMaxLen⟩)
      else some (commandFailure, ⟨returnCode, zeroBuffer tssMessageIdMaxLen⟩)

/-- The message for a command that failed. -/
def failureMessage (output : TssCommandOutput) : Text :=
  snprintf (tssServiceMsgMaxLen + 1) (printedString output.reasonMessageID ++
    [',', ' ', 'R', 'C', ' ', '=', ' '] ++ (toString output.returnCode).toList)

/-- `executeAdminCommand`: the return code, none where it has none, and the variables. -/
def executeAdminCommand (operatorCommand : Text) (locals : AdminLocals) :
    Option Int × AdminLocals :=
  let run := env.radminRunRACFCommand operatorCommand
  match didCommandFail utils run.apiStatus run.output with
  | none => (none, locals)
  | some (commandFailure, output) =>
    let radminActionRC := run.rc (if commandFailure then 1 else 0)
    let locals := { locals with radminStatus := run.status }
    if radminActionRC ≠ rcRadminOk then
      (some radminActionRC, { locals with serviceMessage := failureMessage output })
    else (some radminActionRC, locals)

/-- A command printed into its buffer, and run or, on a dry run, copied with the whole buffer. -/
def issueCommand (isDryRun : Bool) (command : AdminCommand) (size : Nat) (text : Text)
    (locals : AdminLocals) : Option Int × AdminLocals :=
  let operatorCommand := snprintf size text
  let locals := { locals with issued := locals.issued ++ [(command, operatorCommand)] }
  if isDryRun then
    let buffer := operatorCommand ++ zeroBuffer (size - operatorCommand.length)
    (some rcRadminOk,
      { locals with output := { locals.output with
          operatorCommand := locals.output.operatorCommand.set buffer } })
  else executeAdminCommand utils env operatorCommand locals

/-- What both services do with the return code of their last command. -/
def AdminLocals.finish (locals : AdminLocals) (radminActionRC : Int) : AdminOutput :=
  if radminActionRC ≠ rcRadminOk then
    { locals.output with
      internalServiceRC := radminActionRC
      internalServiceRSN := locals.radminStatus.reasonCode
      safStatus := locals.radminStatus.apiStatus
      serviceMessage := locals.output.serviceMessage.set
        ((printedString locals.serviceMessage).take zisServiceMessageTextSize) }
  else locals.output

/-! ## Profiles -/

/-- `getGenresProfileOwnerHandler`: its return code, and the owner. -/
def getGenresProfileOwnerHandler (status : RadminApiStatus) (result : List RadminCommandOutput) :
    Int × Text :=
  if status.racfRC ≠ 0 then (status.racfRC, zeroBuffer zisUserIdMaxLength)
  else
    match result with
    | [] => (0, zeroBuffer zisUserIdMaxLength)
    | block :: _ =>
      let line := block.lines.headD []
      if tssIsErrorDetected line then (-1, zeroBuffer zisUserIdMaxLength)
      else if zisUserIdMaxLength ≤ line.length then
        (0, utils.padWithSpaces (line.take zisUserIdMaxLength))
      else (0, zeroBuffer zisUserIdMaxLength)

/-- What `isUserAlreadyPermitted` finds in a line under its key, and zeros where the line does not
have the key; none for -1. -/
def permittedValue (searchKey line : Text) (keys : TssKeys) (numberOfKeys : Nat) : Option Text :=
  match tssFindDesiredKey searchKey keys with
  | none => some (zeroBuffer zisSecurityProfileMaxLength)
  | some keyIndex =>
    match utils.lastIndexOfString line tssOwnerKey with
    | none => none
    | some ownerIndex =>
      tssFindValueForKey utils line (u32 ((ownerIndex : Int) - 1)) keys keyIndex numberOfKeys
        (zeroBuffer zisSecurityProfileMaxLength)

/-- The lines `isUserAlreadyPermitted` goes through: its return code, and whether the profile is
among them. -/
def scanPermitted (searchKey profileName : Text) : List Text → Int × Bool
  | [] => (0, false)
  | line :: lines =>
    if tssIsOutputDone line then (0, false)
    else
      match tssParseLineForKeys utils line with
      | none => (-1, false)
      | some (numberOfKeys, keys) =>
        match permittedValue utils searchKey line keys numberOfKeys with
        | none => (-1, false)
        | some tmpBuffer =>
          if tssGetActualValueLength tmpBuffer = some profileName.length ∧
              tmpBuffer.take profileName.length = profileName then (0, true)
          else scanPermitted searchKey profileName lines

/-- `isUserAlreadyPermitted`. -/
def isUserAlreadyPermitted (className profileName : Text) (status : RadminApiStatus)
    (result : List RadminCommandOutput) : Int × Bool :=
  if status.racfRC ≠ 0 then (status.racfRC, false)
  else
    match result with
    | [] => (0, false)
    | block :: _ =>
      if tssIsErrorDetected (block.lines.headD []) then (-1, false)
      else
        let searchKey := printedString
          (env.nullTerminate (snprintf 12 (['X', 'A', ' '] ++ printedString className)))
        scanPermitted utils searchKey profileName (outputLines result)

/-- `getAccessString`. -/
def getAccessString (type : Int) : Option Text :=
  if type = zisGenresAdminAccessTypeRead then some ['R', 'E', 'A', 'D']
  else if type = zisGenresAdminAccessTypeUpdate then some ['U', 'P', 'D', 'A', 'T', 'E']
  else if type = zisGenresAdminAccessTypeAlter then some ['A', 'L', 'T', 'E', 'R']
  else if type = zisGenresAdminAccessTypeAll then some ['A', 'L', 'L']
  else none

/-- The access type that `handlePermitAccess` asks for. -/
def tssAccessType (accessType : Int) : Int :=
  if accessType = zisGenresAdminAccessTypeAlter then zisGenresAdminAccessTypeAll else accessType

/-- The text `handleRevokeAccess` prints. -/
def revokeCommand (parm : GenresAdminParmList) (className : Text) : Text :=
  ['T', 'S', 'S', ' ', 'R', 'E', 'V', 'O', 'K', 'E', '('] ++ parm.user.printed ++ [')', ' '] ++
    printedString className ++ ['('] ++ parm.profile.printed ++ [')']

/-- `handleRevokeAccess`. -/
def handleRevokeAccess (parm : GenresAdminParmList) (className : Text) (isDryRun : Bool)
    (locals : AdminLocals) : Option Int × AdminLocals :=
  issueCommand utils env isDryRun .revoke tssPrfAccessListAdminRevokeMaxLen
    (revokeCommand parm className) locals

/-- The name of the access type `handlePermitAccess` asks for; empty for one without a name. -/
def accessString (accessType : Int) : Text := (getAccessString (tssAccessType accessType)).getD []

/-- The text `handlePermitAccess` prints. -/
def permitCommand (parm : GenresAdminParmList) (className : Text) : Text :=
  ['T', 'S', 'S', ' ', 'P', 'E', 'R', 'M', 'I', 'T', '('] ++ parm.user.printed ++ [')', ' '] ++
    printedString className ++ ['('] ++ parm.profile.printed ++
    [')', ' ', 'A', 'C', 'C', 'E', 'S', 'S', '('] ++ accessString parm.accessType ++ [')']

/-- `handlePermitAccess`. -/
def handlePermitAccess (parm : GenresAdminParmList) (className : Text) (isDryRun : Bool)
    (locals : AdminLocals) : Option Int × AdminLocals :=
  issueCommand utils env isDryRun .permit tssPrfAccessListAdminPermitMaxLen
    (permitCommand parm className) locals

/-- The text `handleDeleteProfile` prints. -/
def deleteCommand (parm : GenresAdminParmList) (className ownerName : Text) : Text :=
  ['T', 'S', 'S', ' ', 'R', 'E', 'M', 'O', 'V', 'E', '('] ++ printedString ownerName ++
    [')', ' '] ++ printedString className ++ ['('] ++ parm.profile.printed ++ [')']

/-- `handleDeleteProfile`. -/
def handleDeleteProfile (parm : GenresAdminParmList) (className ownerName : Text)
    (isDryRun : Bool) (locals : AdminLocals) : Option Int × AdminLocals :=
  issueCommand utils env isDryRun .delete tssPrfAdminDelMaxLen
    (deleteCommand parm className ownerName) locals

/-- The text `handleDefineProfile` prints. -/
def defineCommand (parm : GenresAdminParmList) (className : Text) : Text :=
  ['T', 'S', 'S', ' ', 'A', 'D', 'D', 'T', 'O', '('] ++ parm.owner.printed ++ [')', ' '] ++
    printedString className ++ ['('] ++ parm.profile.printed ++ [')']

/-- `handleDefineProfile`. -/
def handleDefineProfile (parm : GenresAdminParmList) (className : Text) (isDryRun : Bool)
    (locals : AdminLocals) : Option Int × AdminLocals :=
  issueCommand utils env isDryRun .define tssPrfAdminAddMaxLen (defineCommand parm className)
    locals

/-- The product a profile belongs to is supported: its name is the first qualifier. -/
def isProfileProductSupported (profile : CountedText) : Bool :=
  zisGenresProducts.any fun name =>
    name.length ≤ profile.length && profile.value.take name.length = name &&
      profile.value[name.length]? = some '.'

/-- `validateGenresParmList`. -/
def validateGenresParmList (parm : GenresAdminParmList) : Int :=
  if parm.eyecatcher ≠ zisGenresAdminServiceParmlistEyecatcher then rcZisGsadmnsrvBadEyecatcher
  else if parm.function < 0 ∨ 3 < parm.function then rcZisGsadmnsrvBadFunction
  else if parm.profile.length > zisSecurityProfileMaxLength then rcZisGsadmnsrvProfTooLong
  else if parm.owner.length > zisUserIdMaxLength then rcZisGsadmnsrvOwnerTooLong
  else if !isProfileProductSupported parm.profile then rcZisGsadmnsrvUnsupportedProduct
  else if parm.user.length > zisUserIdMaxLength then rcZisGsadmnsrvUserIdTooLong
  else if parm.function = zisGenresAdminSrvFcGiveAccess ∧
      (parm.accessType < 0 ∨ 3 < parm.accessType) then
    rcZisGsadmnsrvBadAccessType
  else rcZisGsadmnsrvOk

/-- The command that lists what a user has access to. -/
def userListCommand (user : CountedText) : Text :=
  snprintf (tssPrfPermitExtrMaxLen + 1) (['T', 'S', 'S', ' ', 'L', 'I', 'S', 'T', '('] ++
    user.printed ++ [')', ' ', 'D', 'A', 'T', 'A', '(', 'X', 'A', 'U', 'T', 'H', ')'])

/-- The command that tells who owns a profile. -/
def whoownsCommand (className : Text) (profile : CountedText) : Text :=
  snprintf (tssPrfOwnerExtrMaxLen + 1) (['T', 'S', 'S', ' ', 'W', 'H', 'O', 'O', ' '] ++
    printedString className ++ ['('] ++ profile.printed ++ [')'])

/-- The name of the owner in what the handler returned. -/
def ownerNameOf (owner : Text) : Text := printedString (env.nullTerminate owner)

/-- The branch of a call that gives access. -/
def giveAccess (parm : GenresAdminParmList) (className : Text) (isDryRun : Bool)
    (locals : AdminLocals) : Option Int × AdminLocals :=
  let run := env.radminRunRACFCommand (userListCommand parm.user)
  let (handlerRC, isPermitted) := isUserAlreadyPermitted utils env className parm.profile.printed
    run.apiStatus run.output
  let locals := { locals with radminStatus := run.status }
  if run.rc handlerRC ≠ rcRadminOk then (some (run.rc handlerRC), locals)
  else if !isPermitted || isDryRun then
    handlePermitAccess utils env parm className isDryRun locals
  else
    match handleRevokeAccess utils env parm className isDryRun locals with
    | (some radminActionRC, locals) =>
      if radminActionRC = rcRadminOk then
        handlePermitAccess utils env parm className isDryRun locals
      else (some radminActionRC, locals)
    | (none, locals) => (none, locals)

/-- The branch of a call that deletes a profile. -/
def deleteProfile (parm : GenresAdminParmList) (className : Text) (isDryRun : Bool)
    (locals : AdminLocals) : Option Int × AdminLocals :=
  let run := env.radminRunRACFCommand (whoownsCommand className parm.profile)
  let (handlerRC, owner) := getGenresProfileOwnerHandler utils run.apiStatus run.output
  let locals := { locals with radminStatus := run.status }
  if run.rc handlerRC ≠ rcRadminOk then (some (run.rc handlerRC), locals)
  else handleDeleteProfile utils env parm className (ownerNameOf env owner) isDryRun locals

/-- What a call does for its function; none where it has no such. -/
def runGenresAdmin (parm : GenresAdminParmList) (className : Text) (isDryRun : Bool)
    (locals : AdminLocals) : Option (Option Int × AdminLocals) :=
  if parm.function = zisGenresAdminSrvFcGiveAccess then
    some (giveAccess utils env parm className isDryRun locals)
  else if parm.function = zisGenresAdminSrvFcRevokeAccess then
    some (handleRevokeAccess utils env parm className isDryRun locals)
  else if parm.function = zisGenresAdminSrvFcDefine then
    some (handleDefineProfile utils env parm className isDryRun locals)
  else if parm.function = zisGenresAdminSrvFcDelete then
    some (deleteProfile utils env parm className isDryRun locals)
  else none

/-- The parm list with the caller as the owner where it has none. -/
def GenresAdminParmList.withOwner (parm : GenresAdminParmList) (caller : CountedText) :
    GenresAdminParmList :=
  if parm.owner.length = 0 then { parm with owner := caller } else parm

/-- The access type a call leaves in its parm list. -/
def accessTypeLeft (parm : GenresAdminParmList) (issued : List (AdminCommand × Text)) : Int :=
  if issued.any (·.1 = .permit) then tssAccessType parm.accessType else parm.accessType

/-- `zisGenresProfileAdminServiceFunctionTSS`. -/
def zisGenresProfileAdminServiceFunctionTSS (parm : Option GenresAdminParmList) :
    AdminOutcome GenresAdminParmList :=
  match parm with
  | none => .refused rcZisGsadmnsrvParmlistNull
  | some parm =>
    let parmValidateRC := validateGenresParmList parm
    if parmValidateRC ≠ rcZisGsadmnsrvOk then .refused parmValidateRC
    else
      match env.secmgmtGetCallerUserID with
      | none => .refused rcZisGsadmnsrvImpersonationMissing
      | some caller =>
        let parm := parm.withOwner caller
        match env.userClass with
        | .error _ => .refused rcZisGsadmnsrvUserClassNotRead
        | .ok className =>
          if className.length > zisSecurityClassMaxLength then
            .refused rcZisGsadmnsrvUserClassTooLong
          else
            let isDryRun := hasFlag parm.flags zisGroupAdminFlagDryrun
            match runGenresAdmin utils env parm className isDryRun
              ⟨parm.output, env.stack, .zero, []⟩ with
            | none => .refused rcZisGsadmnsrvBadFunction
            | some (none, locals) => ⟨locals.issued, none⟩
            | some (some radminActionRC, locals) =>
              ⟨locals.issued, some
                (if radminActionRC ≠ rcRadminOk then rcZisGsadmnsrvInternalServiceFailed
                  else rcZisGsadmnsrvOk,
                some { parm with
                  accessType := accessTypeLeft parm locals.issued
                  output := locals.finish radminActionRC })⟩

/-! ## Groups -/

/-- The product a group belongs to is supported: its name begins the group's. -/
def isGroupProductSupported (group : CountedText) : Bool :=
  zisGroupProducts.any fun name =>
    name.length ≤ group.length && group.value.take name.length = name

/-- `validateGroupParmList`. -/
def validateGroupParmList (parm : GroupAdminParmList) : Int :=
  if parm.eyecatcher ≠ zisGroupAdminServiceParmlistEyecatcher then rcZisGrpasrvBadEyecatcher
  else if parm.function < 0 ∨ 3 < parm.function then rcZisGrpasrvBadFunction
  else if parm.group.length > zisSecurityGroupMaxLength then rcZisGrpasrvGroupTooLong
  else if parm.superiorGroup.length > zisSecurityGroupMaxLength then rcZisGrpasrvSupgroupTooLong
  else if !isGroupProductSupported parm.group then rcZisGrpasrvUnsupportedProduct
  else if parm.user.length > zisUserIdMaxLength then rcZisGrpasrvUserIdTooLong
  else if parm.function = zisGroupAdminSrvFcConnectUser ∧
      (parm.accessType < 0 ∨ 3 < parm.accessType) then
    rcZisGrpasrvBadAccessType
  else rcZisGrpasrvOk

def createGroupCommand (parm : GroupAdminParmList) : Text :=
  ['T', 'S', 'S', ' ', 'C', 'R', 'E', 'A', 'T', 'E', '('] ++ parm.group.printed ++
    [')', ' ', 'N', 'A', 'M', 'E', '(', Char.ofNat 39] ++ parm.group.printed ++
    [Char.ofNat 39, ')', ' ', 'T', 'Y', 'P', 'E', '(', 'P', 'R', 'O', 'F', 'I', 'L', 'E', ')', ' ',
      'D', 'E', 'P', 'A', 'R', 'T', 'M', 'E', 'N', 'T', '('] ++ parm.superiorGroup.printed ++ [')']

def deleteGroupCommand (parm : GroupAdminParmList) : Text :=
  ['T', 'S', 'S', ' ', 'D', 'E', 'L', 'E', 'T', 'E', '('] ++ parm.group.printed ++ [')']

def connectUserCommand (parm : GroupAdminParmList) : Text :=
  ['T', 'S', 'S', ' ', 'A', 'D', 'D', 'T', 'O', '('] ++ parm.user.printed ++
    [')', ' ', 'G', 'R', 'O', 'U', 'P', '('] ++ parm.group.printed ++ [')']

def removeUserCommand (parm : GroupAdminParmList) : Text :=
  ['T', 'S', 'S', ' ', 'R', 'E', 'M', 'O', 'V', 'E', '('] ++ parm.user.printed ++
    [')', ' ', 'G', 'R', 'O', 'U', 'P', '('] ++ parm.group.printed ++ [')']

/-- What a call does for its function; none where it has no such. -/
def runGroupAdmin (parm : GroupAdminParmList) (isDryRun : Bool) (locals : AdminLocals) :
    Option (Option Int × AdminLocals) :=
  if parm.function = zisGroupAdminSrvFcAdd then
    some (issueCommand utils env isDryRun .createGroup (tssGrpAdminAddMaxLen + 1)
      (createGroupCommand parm) locals)
  else if parm.function = zisGroupAdminSrvFcDelete then
    some (issueCommand utils env isDryRun .deleteGroup (tssGrpAdminDelMaxLen + 1)
      (deleteGroupCommand parm) locals)
  else if parm.function = zisGroupAdminSrvFcConnectUser then
    some (issueCommand utils env isDryRun .connectUser (tssGrpAdminAddConMaxLen + 1)
      (connectUserCommand parm) locals)
  else if parm.function = zisGroupAdminSrvFcRemoveUser then
    some (issueCommand utils env isDryRun .removeUser (tssGrpAdminRemConMaxLen + 1)
      (removeUserCommand parm) locals)
  else none

/-- `zisGroupAdminServiceFunctionTSS`. -/
def zisGroupAdminServiceFunctionTSS (parm : Option GroupAdminParmList) :
    AdminOutcome GroupAdminParmList :=
  match parm with
  | none => .refused rcZisGrpasrvParmlistNull
  | some parm =>
    let parmValidateRC := validateGroupParmList parm
    if parmValidateRC ≠ rcZisGrpasrvOk then .refused parmValidateRC
    else
      match env.secmgmtGetCallerUserID with
      | none => .refused rcZisGrpasrvImpersonationMissing
      | some _ =>
        let isDryRun := hasFlag parm.flags zisGroupAdminFlagDryrun
        match runGroupAdmin utils env parm isDryRun
          ⟨parm.output, zeroBuffer (tssServiceMsgMaxLen + 1), .zero, []⟩ with
        | none => .refused rcZisGrpasrvBadFunction
        | some (none, locals) => ⟨locals.issued, none⟩
        | some (some radminActionRC, locals) =>
          ⟨locals.issued, some
            (if radminActionRC ≠ rcRadminOk then rcZisGrpasrvInternalServiceFailed
              else rcZisGrpasrvOk,
            some { parm with output := locals.finish radminActionRC })⟩

end

end Zss.Tss
