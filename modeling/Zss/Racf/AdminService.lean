import Zss.Lib.Machine
import Zss.Lib.Program
import Zss.Racf.Encoding
import Zss.Racf.Extraction

/-!
# The administration services on RACF

`zisGenresProfileAdminServiceFunctionRACF` and `zisGroupAdminServiceFunctionRACF` in `secmgmt.c`, from
the parm list of the caller to what is copied back: the action that R_admin performs, the refresh of
a class after it, and the message and the command that are taken from the output of R_admin. The parm
lists of R_admin are those of its constructors.

A service that reads a string that is not there ends abnormally, and has no result.
-/

namespace Zss.Racf

open Zss.Lib Program
open Zss.Tss (Text CountedText RadminStatus AdminServiceMessage AdminOutput GenresAdminParmList
  GroupAdminParmList snprintf validateGenresParmList validateGroupParmList rcRadminOk
  printedString zisServiceMessageTextSize rcZisGsadmnsrvOk rcZisGsadmnsrvParmlistNull
  rcZisGsadmnsrvBadFunction rcZisGsadmnsrvImpersonationMissing
  rcZisGsadmnsrvInternalServiceFailed rcZisGsadmnsrvUserClassTooLong
  rcZisGsadmnsrvUserClassNotRead rcZisGrpasrvOk rcZisGrpasrvParmlistNull
  rcZisGrpasrvBadFunction rcZisGrpasrvImpersonationMissing rcZisGrpasrvInternalServiceFailed
  zisUserIdMaxLength zisSecurityClassMaxLength zisGroupAdminFlagDryrun zisGroupAdminSrvFcAdd
  zisGroupAdminSrvFcDelete)

/-! ## The output of R_admin -/

def rcZisGsadmnsrvAutorefreshNotRead : Int := 21

def radminOutMaxNodeCount : Nat := 16
def rcGetMsgHandlerOk : Int := 0
def rcGetMsgHandlerLoop : Int := 8

/-- What the eyecatcher of an output says it is. -/
inductive OutputKind where
  | command
  | message
  | other
deriving DecidableEq

/-- `RadminCommandOutput`, with the text of its first message entry. -/
structure OutputNode where
  kind : OutputKind
  text : Text
  next : Option Nat

/-- `GenresOutputHandlerData` and `GroupOutputHandlerData`. -/
structure OutputHandlerData where
  message : AdminServiceMessage
  command : AdminServiceMessage
  fullMessageLength : Nat
  fullCommandLength : Nat

def emptyMessage : AdminServiceMessage := ⟨0, Zss.Tss.zeroBuffer zisServiceMessageTextSize⟩

def OutputHandlerData.empty : OutputHandlerData := ⟨emptyMessage, emptyMessage, 0, 0⟩

/-- A node whose text is copied. -/
def OutputHandlerData.take (data : OutputHandlerData) (node : OutputNode) : OutputHandlerData :=
  match node.kind with
  | .command => { data with
      command := data.command.set (node.text.take zisServiceMessageTextSize)
      fullCommandLength := node.text.length }
  | .message => { data with
      message := data.message.set (node.text.take zisServiceMessageTextSize)
      fullMessageLength := node.text.length }
  | .other => data

/-- The loop of `getMsgAndOperatorCommand` with the nodes it may take left. -/
def outputLoop (nodes : Nat → OutputNode) :
    Nat → Option Nat → Bool → Bool → OutputHandlerData → Int × OutputHandlerData
  | _, none, _, _, data => (rcGetMsgHandlerOk, data)
  | 0, some _, messageCopied, commandCopied, data =>
    if commandCopied && messageCopied then (rcGetMsgHandlerOk, data) else (rcGetMsgHandlerLoop, data)
  | left + 1, some next, messageCopied, commandCopied, data =>
    if commandCopied && messageCopied then (rcGetMsgHandlerOk, data)
    else
      outputLoop nodes left (nodes next).next (messageCopied || (nodes next).kind = .message)
        (commandCopied || (nodes next).kind = .command) (data.take (nodes next))

/-- `getMsgAndOperatorCommand` and `getGroupMsgAndOperatorCommand`. -/
def getMsgAndOperatorCommand (nodes : Nat → OutputNode) (out : Option Nat)
    (data : OutputHandlerData) : Int × OutputHandlerData :=
  outputLoop nodes (radminOutMaxNodeCount + 1) out false false data

/-- What R_admin makes of an action or a command: its status, the output that the handler is called
with, if it is, and its return code for the one of the handler. -/
structure RadminAction where
  status : RadminStatus
  output : Option ((Nat → OutputNode) × Option Nat)
  returned : Int → Int

/-- The return code of the handler, and what it leaves. -/
def RadminAction.handled (action : RadminAction) : Int × OutputHandlerData :=
  match action.output with
  | none => (rcGetMsgHandlerOk, .empty)
  | some (nodes, out) => getMsgAndOperatorCommand nodes out .empty

def RadminAction.rc (action : RadminAction) : Int := action.returned action.handled.1

/-! ## Calls -/

/-- `RadminUserID`. -/
abbrev CallerID :=
  { caller : CountedText // caller.length ≤ zisUserIdMaxLength ∧
    caller.value.length = zisUserIdMaxLength }

/-- `CrossMemoryServerConfigParm`. -/
abbrev ConfigParm := { parm : CountedText // zisSecurityClassMaxLength ≤ parm.value.length }

/-- `ZIS_PARMLIB_PARM_SECMGMT_AUTORESFRESH`. -/
def zisParmlibParmSecmgmtAutorefresh : Text :=
  ['Z', 'W', 'E', 'S', '.', 'S', 'E', 'C', 'M', 'G', 'M', 'T', '.', 'A', 'U', 'T', 'O', 'R', 'E',
    'F', 'R', 'E', 'S', 'H']

inductive AdminCall where
  | secmgmtGetCallerUserID
  | cmsGetConfigParm (name : Text)
  | radminPerformResAction (userID : CallerID) (action : RadminResAction) (parmList : Image)
  | radminPerformGroupAction (userID : CallerID) (action : RadminGroupAction) (parmList : Image)
  | radminPerformConnectionAction (userID : CallerID) (action : RadminConnectionAction)
      (parmList : Image)
  | radminRunRACFCommand (userID : CallerID) (command : Text)

abbrev AdminCall.Answer : AdminCall → Type
  | .secmgmtGetCallerUserID => Option CallerID
  | .cmsGetConfigParm _ => Except Int ConfigParm
  | .radminPerformResAction .. => RadminAction
  | .radminPerformGroupAction .. => RadminAction
  | .radminPerformConnectionAction .. => RadminAction
  | .radminRunRACFCommand .. => RadminAction

@[reducible] def adminCalls : Interface := ⟨AdminCall, AdminCall.Answer⟩

/-- The common library: the longest command, and the code for a parameter that is not there. -/
structure RadminCommands where
  cmdMaxCommandLength : Nat
  configParmNotFound : Int

/-! ## The services -/

/-- What is copied back where an action or a command fails. -/
def adminFailed (output : AdminOutput) (action : RadminAction) : AdminOutput :=
  { output with
    internalServiceRC := action.rc
    internalServiceRSN := action.status.reasonCode
    safStatus := action.status.apiStatus }

section

variable (radmin : RadminLayout) (commands : RadminCommands)

def refreshCommand (className : Text) : Text :=
  snprintf (commands.cmdMaxCommandLength + 1)
    (['S', 'E', 'T', 'R', 'O', 'P', 'T', 'S', ' ', 'R', 'E', 'F', 'R', 'E', 'S', 'H', ' ', 'R',
      'A', 'C', 'L', 'I', 'S', 'T', '('] ++ printedString className ++ [')'])

/-- `performRefreshIfNeeded`: its status, and the output fields. -/
def performRefreshIfNeeded (caller : CallerID) (className : Text) (output : AdminOutput) :
    Program adminCalls (Int × AdminOutput) := do
  match ← ask (I := adminCalls) (.cmsGetConfigParm zisParmlibParmSecmgmtAutorefresh) with
  | .error getParmRC =>
    if getParmRC ≠ commands.configParmNotFound then
      pure (rcZisGsadmnsrvAutorefreshNotRead, { output with internalServiceRC := getParmRC })
    else pure (rcZisGsadmnsrvOk, output)
  | .ok refreshParm =>
    if printedString refreshParm.1.value ≠ ['Y', 'E', 'S'] then pure (rcZisGsadmnsrvOk, output)
    else do
      let refresh ← ask (I := adminCalls)
        (.radminRunRACFCommand caller (refreshCommand commands className))
      let output := { output with serviceMessage := refresh.handled.2.message }
      if refresh.rc ≠ rcRadminOk then
        pure (rcZisGsadmnsrvInternalServiceFailed, adminFailed output refresh)
      else pure (rcZisGsadmnsrvOk, output)

/-- What a service does with an action that R_admin performed. -/
def afterAction (internalServiceFailed : Int) (action : RadminAction) (output : AdminOutput)
    (next : AdminOutput → Program adminCalls (Int × AdminOutput)) :
    Program adminCalls (Int × AdminOutput) :=
  let output := { output with
    serviceMessage := action.handled.2.message
    operatorCommand := action.handled.2.command }
  if action.rc ≠ rcRadminOk then pure (internalServiceFailed, adminFailed output action)
  else next output

/-- What the services do with a parm list that is constructed, or is not. -/
def performAction (parmInternalError internalServiceFailed : Int)
    (constructed : Option (Option Image)) (perform : Image → Program adminCalls RadminAction)
    (output : AdminOutput) (next : AdminOutput → Program adminCalls (Int × AdminOutput)) :
    Program adminCalls (Option (Int × AdminOutput)) :=
  match constructed with
  | none => pure none
  | some none => pure (some (parmInternalError, output))
  | some (some parmList) => do
    let action ← perform parmList
    let done ← afterAction internalServiceFailed action output next
    pure (some done)

/-- What is copied back, with the output of a service. -/
def copiedBack {Parm : Type} (withOutput : AdminOutput → Parm) (done : Option (Int × AdminOutput)) :
    Option (Int × Option Parm) :=
  done.map fun done => (done.1, some (withOutput done.2))

/-- `zisGenresProfileAdminServiceFunctionRACF`. -/
def zisGenresProfileAdminServiceFunctionRACF (parm : Option GenresAdminParmList) :
    Program adminCalls (Option (Int × Option GenresAdminParmList)) :=
  match parm with
  | none => pure (some (rcZisGsadmnsrvParmlistNull, none))
  | some parm =>
    let parmValidateRC := validateGenresParmList parm
    if parmValidateRC ≠ rcZisGsadmnsrvOk then pure (some (parmValidateRC, none))
    else do
      match ← ask (I := adminCalls) .secmgmtGetCallerUserID with
      | none => pure (some (rcZisGsadmnsrvImpersonationMissing, some parm))
      | some caller =>
        let parm := parm.withOwner caller.1
        match ← ask (I := adminCalls) (.cmsGetConfigParm zisParmlibParmSecmgmtUserClass) with
        | .error getParmRC =>
          pure (some (rcZisGsadmnsrvUserClassNotRead,
            some { parm with output := { parm.output with internalServiceRC := getParmRC } }))
        | .ok userClassParm =>
          if userClassParm.1.length > zisSecurityClassMaxLength then
            pure (some (rcZisGsadmnsrvUserClassTooLong, some parm))
          else
            let action := mapZisToRadminResAction parm.function
            if action = .na then pure (some (rcZisGsadmnsrvBadFunction, some parm))
            else do
              let isDryRun := hasFlag parm.flags zisGenresAdminFlagDryrun
              let done ← performAction rcZisGsadmnsrvParmInternalError
                rcZisGsadmnsrvInternalServiceFailed
                (constructResAdminParmList radmin parmListBufferSize action isDryRun
                  userClassParm.1.value userClassParm.1.length parm.profile.value
                  parm.profile.length parm.owner.value parm.owner.length parm.user.value
                  parm.user.length parm.accessType)
                (fun parmList => ask (I := adminCalls)
                  (.radminPerformResAction caller action parmList))
                parm.output fun output =>
                  if isDryRun then pure (rcZisGsadmnsrvOk, output)
                  else performRefreshIfNeeded commands caller userClassParm.1.value output
              pure (copiedBack (fun output => { parm with output := output }) done)

/-- `zisGroupAdminServiceFunctionRACF`. -/
def zisGroupAdminServiceFunctionRACF (parm : Option GroupAdminParmList) :
    Program adminCalls (Option (Int × Option GroupAdminParmList)) :=
  match parm with
  | none => pure (some (rcZisGrpasrvParmlistNull, none))
  | some parm =>
    let parmValidateRC := validateGroupParmList parm
    if parmValidateRC ≠ rcZisGrpasrvOk then pure (some (parmValidateRC, none))
    else do
      match ← ask (I := adminCalls) .secmgmtGetCallerUserID with
      | none => pure (some (rcZisGrpasrvImpersonationMissing, some parm))
      | some caller =>
        let isDryRun := hasFlag parm.flags zisGroupAdminFlagDryrun
        if parm.function = zisGroupAdminSrvFcAdd ∨ parm.function = zisGroupAdminSrvFcDelete then
          let action := mapZisToRadminGroupAction parm.function
          if action = .na then pure (some (rcZisGrpasrvBadFunction, some parm))
          else do
            let done ← performAction rcZisGrpasrvParmInternalError
              rcZisGrpasrvInternalServiceFailed
              (constructGroupAdminParmList radmin parmListBufferSize action isDryRun
                parm.group.value parm.group.length parm.superiorGroup.value
                parm.superiorGroup.length)
              (fun parmList => ask (I := adminCalls)
                (.radminPerformGroupAction caller action parmList))
              parm.output fun output => pure (rcZisGrpasrvOk, output)
            pure (copiedBack (fun output => { parm with output := output }) done)
        else
          let action := mapZisToRadminConnectionAction parm.function
          if action = .na then pure (some (rcZisGrpasrvBadFunction, some parm))
          else do
            let done ← performAction rcZisGrpasrvParmInternalError
              rcZisGrpasrvInternalServiceFailed
              (constructConnectionAdminParmList radmin parmListBufferSize action isDryRun
                parm.user.value parm.user.length parm.group.value parm.group.length
                parm.accessType)
              (fun parmList => ask (I := adminCalls)
                (.radminPerformConnectionAction caller action parmList))
              parm.output fun output => pure (rcZisGrpasrvOk, output)
            pure (copiedBack (fun output => { parm with output := output }) done)

end

end Zss.Racf
