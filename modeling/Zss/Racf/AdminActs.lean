import Zss.Lib.Rules
import Zss.Racf.AdminService

/-!
# What the administration services do

`adminRules` are the rules of the calls: R_admin performs one action, for the caller the service runs
for; it is told not to run on a dry run; and a command is only the refresh of the class that was read,
after an action that was performed, where the parameter for it says so, and on no dry run.

`adminService_acts` says of every request and every run that it keeps these rules, which parm list
R_admin gets, and what the caller is told.

## What is not established

What R_admin does to its database, and that the description of an error is the right one
(`Zss.Security.ErrorText`).
-/

namespace Zss.Racf

open Zss.Lib Program
open Zss.Lib.Image (orBytes orBytes_raised)
open Zss.Tss (Text CountedText AdminOutput GenresAdminParmList GroupAdminParmList AdminRequest
  GenresAccepted GroupAccepted printedString validateGenresParmList validateGroupParmList
  validateGenresParmList_ok validateGroupParmList_ok rcRadminOk zisUserIdMaxLength
  zisSecurityClassMaxLength zisSecurityProfileMaxLength zisSecurityGroupMaxLength
  zisGroupAdminFlagDryrun zisGroupAdminSrvFcAdd zisGroupAdminSrvFcDelete rcZisGsadmnsrvOk
  rcZisGrpasrvOk rcZisGsadmnsrvInternalServiceFailed rcZisGrpasrvInternalServiceFailed)

/-! ## Flags -/

/-- R_admin is told not to run. -/
def notRun (header : HeaderLayout) (image : Image) : Bool :=
  ((image.load header.flags.offset header.flags.size).map fun flags =>
    decide (orBytes flags header.norun = flags)).getD false

section

variable {radmin : RadminLayout} {header : HeaderLayout} {env : RacfEnv} {image : Image}

theorem notRun_of_load
    (h : image.load header.flags.offset header.flags.size = some (header.blankFlags radmin true)) :
    notRun header image = true := by
  have raised : orBytes (header.blankFlags radmin true) header.norun =
      header.blankFlags radmin true := orBytes_raised ..
  simp [notRun, h, raised]

/-- The flags of a list that is read back. -/
theorem ReadsAs.load_flags {constructed : Option (Option Image)} {value : ListValue}
    (h : ReadsAs radmin header constructed value) (built : constructed = some (some image)) :
    image.load header.flags.offset header.flags.size = some value.flags := by
  obtain ⟨image', built', -, hwalk⟩ := h
  obtain rfl : image' = image := by
    rw [built] at built'
    cases built'
    rfl
  simp only [walk, Option.bind_eq_bind, Option.bind_eq_some_iff] at hwalk
  obtain ⟨_, -, _, -, flags, hflags, _, -, _, -, hvalue⟩ := hwalk
  cases hvalue
  exact hflags

theorem eq_some_getD {text : Option Text} (h : text ≠ none) : text = some (text.getD []) := by
  cases text with
  | none => exact absurd rfl h
  | some text => rfl

variable {parm : GenresAdminParmList} {isDryRun : Bool}

theorem genres_told {caller : CallerID} {userClassParm : ConfigParm}
    (htyped : RequestTyped (.genres parm))
    (accepted : validateGenresParmList parm = rcZisGsadmnsrvOk)
    (short : userClassParm.1.length ≤ zisSecurityClassMaxLength)
    (built : constructResAdminParmList radmin parmListBufferSize
      (mapZisToRadminResAction parm.function) isDryRun userClassParm.1.value
      userClassParm.1.length parm.profile.value parm.profile.length
      (parm.withOwner caller.1).owner.value (parm.withOwner caller.1).owner.length
      parm.user.value parm.user.length parm.accessType = some (some image)) :
    isDryRun = true → notRun radmin.res image = true := by
  rintro rfl
  obtain ⟨hprofileSize, hownerSize, huserSize⟩ := htyped
  have hbounds : GenresAccepted parm := validateGenresParmList_ok accepted
  obtain ⟨howner, hownerSize⟩ := withOwner_owner hbounds.owner hownerSize caller.2
  have hprofile := hbounds.profile
  have huser := hbounds.user
  unfold HasSize zisSecurityProfileMaxLength at hprofileSize
  unfold HasSize zisUserIdMaxLength at hownerSize huserSize
  have access (hpermit : mapZisToRadminResAction parm.function = .permit) :
      getAccessString parm.accessType ≠ none := by
    intro hnone
    rw [hpermit, constructResAdminParmList_none hnone] at built
    cases built
  have hlength : ((getAccessString parm.accessType).getD []).length < 256 := by
    cases hstring : getAccessString parm.accessType with
    | none => decide
    | some accessString => exact length_getAccessString hstring
  exact notRun_of_load ((constructResAdminParmList_reads radmin true userClassParm.2 short
    (by omega : parm.profile.length ≤ parm.profile.value.length) (by omega)
    (by omega : (parm.withOwner caller.1).owner.length ≤
      (parm.withOwner caller.1).owner.value.length) (by omega)
    (by omega : parm.user.length ≤ parm.user.value.length) (by omega)
    (fun hpermit => eq_some_getD (access hpermit)) hlength).load_flags built)

/-- The list for a group that is deleted has a header alone. -/
theorem group_told {parm : GroupAdminParmList} (htyped : RequestTyped (.group parm))
    (accepted : validateGroupParmList parm = rcZisGrpasrvOk)
    (changed : parm.function = zisGroupAdminSrvFcAdd ∨ parm.function = zisGroupAdminSrvFcDelete)
    (built : constructGroupAdminParmList radmin parmListBufferSize
      (mapZisToRadminGroupAction parm.function) isDryRun parm.group.value parm.group.length
      parm.superiorGroup.value parm.superiorGroup.length = some (some image)) :
    isDryRun = true → notRun radmin.group image = true := by
  rintro rfl
  obtain ⟨hgroupSize, hsuperiorSize, -⟩ := htyped
  have hbounds : GroupAccepted parm := validateGroupParmList_ok accepted
  have hgroup := hbounds.group
  have hsuperior := hbounds.superiorGroup
  unfold HasSize zisSecurityGroupMaxLength at hgroupSize hsuperiorSize
  have groupFits : parm.group.length ≤ parm.group.value.length := by omega
  rcases changed with add | delete
  · rw [add] at built
    exact notRun_of_load ((constructGroupAdminParmList_reads radmin true groupFits (by omega)
      (by omega : parm.superiorGroup.length ≤ parm.superiorGroup.value.length)
      (by omega)).load_flags built)
  · rw [delete] at built
    obtain ⟨headed, hput, -, hheaded, -, -⟩ :=
      filled_spec radmin radmin.group true groupFits (by omega) (Nat.le_refl parm.group.length)
    have hnotSmall : ¬parmListBufferSize < groupParmlistMinSize := by decide
    have action : mapZisToRadminGroupAction zisGroupAdminSrvFcDelete = .deleteGroup := by decide
    unfold constructGroupAdminParmList at built
    simp only [if_neg hnotSmall, Option.bind_eq_bind, Option.bind_some, action, reduceCtorEq,
      reduceIte, hput, Option.some.injEq] at built
    exact notRun_of_load (built ▸ hheaded.flags)

theorem connection_told {parm : GroupAdminParmList} (htyped : RequestTyped (.group parm))
    (accepted : validateGroupParmList parm = rcZisGrpasrvOk)
    (built : constructConnectionAdminParmList radmin parmListBufferSize
      (mapZisToRadminConnectionAction parm.function) isDryRun parm.user.value parm.user.length
      parm.group.value parm.group.length parm.accessType = some (some image)) :
    isDryRun = true → notRun radmin.connection image = true := by
  rintro rfl
  obtain ⟨hgroupSize, -, huserSize⟩ := htyped
  have hbounds : GroupAccepted parm := validateGroupParmList_ok accepted
  have hgroup := hbounds.group
  have huser := hbounds.user
  unfold HasSize zisSecurityGroupMaxLength at hgroupSize
  unfold HasSize zisUserIdMaxLength at huserSize
  have access (hadd : mapZisToRadminConnectionAction parm.function = .addConnection) :
      getGroupAccessString parm.accessType ≠ none := by
    intro hnone
    have hnotSmall : ¬parmListBufferSize < groupParmlistMinSize := by decide
    simp [constructConnectionAdminParmList, hnotSmall, hadd, hnone] at built
  have hlength : ((getGroupAccessString parm.accessType).getD []).length < 256 := by
    cases hstring : getGroupAccessString parm.accessType with
    | none => decide
    | some accessString => exact length_getGroupAccessString hstring
  exact notRun_of_load ((constructConnectionAdminParmList_reads radmin true
    (by omega : parm.user.length ≤ parm.user.value.length) (by omega)
    (by omega : parm.group.length ≤ parm.group.value.length) (by omega)
    (fun hadd => eq_some_getD (access hadd)) hlength).load_flags built)

end

/-! ## The rules of the calls -/

/-- The caller the service runs for, the parameters it read, what R_admin performed of which parm
list, and the command for a refresh. -/
structure AdminUse where
  caller : Option CallerID
  userClass : Except Int ConfigParm
  autorefresh : Except Int ConfigParm
  acted : Option (Image × RadminAction)
  refreshed : Option RadminAction

def isYes : Except Int ConfigParm → Bool
  | .ok parm => printedString parm.1.value = ['Y', 'E', 'S']
  | .error _ => false

/-- What the caller and the class that were read are to a service. -/
def AdminUse.env (use : AdminUse) : RacfEnv where
  secmgmtGetCallerUserID := use.caller.map (·.1)
  userClass := use.userClass.map (·.1)
  caller_length := by
    intro caller h
    obtain ⟨noted, -, rfl⟩ := Option.map_eq_some_iff.mp h
    exact noted.2
  userClass_length := by
    intro parm h
    cases noted : use.userClass with
    | error getParmRC =>
      rw [noted] at h
      cases h
    | ok userClassParm =>
      rw [noted] at h
      cases h
      exact userClassParm.2

/-- R_admin performs one action, for the caller, and is told not to run it on a dry run. -/
def AdminUse.mayAct (use : AdminUse) (isDryRun : Bool) (header : HeaderLayout) (userID : CallerID)
    (parmList : Image) : Bool :=
  use.acted.isNone && use.caller = some userID && (!isDryRun || notRun header parmList)

def AdminUse.act (use : AdminUse) (isDryRun : Bool) (header : HeaderLayout) (userID : CallerID)
    (parmList : Image) (action : RadminAction) : Option AdminUse :=
  if use.mayAct isDryRun header userID parmList then
    some { use with acted := some (parmList, action) }
  else none

section

variable (radmin : RadminLayout) (commands : RadminCommands)

/-- Nothing is read yet. -/
def AdminUse.start : AdminUse :=
  ⟨none, .error commands.configParmNotFound, .error commands.configParmNotFound, none, none⟩

/-- The class that was read is refreshed by this command. -/
def AdminUse.refreshesClass (use : AdminUse) (command : Text) : Bool :=
  match use.userClass with
  | .ok parm => command = refreshCommand commands parm.1.value
  | .error _ => false

/-- A command is run once, for the caller, after an action that was performed and on no dry run. -/
def AdminUse.mayRefresh (use : AdminUse) (isDryRun : Bool) (userID : CallerID) (command : Text) :
    Bool :=
  use.refreshed.isNone && use.caller = some userID && !isDryRun &&
    use.acted.any (·.2.rc = rcRadminOk) && isYes use.autorefresh &&
    use.refreshesClass commands command

/-- The rules, for a request that is a dry run or none. -/
def adminRules (isDryRun : Bool) : Machine AdminUse (Event adminCalls) where
  step use
    | ⟨.secmgmtGetCallerUserID, (caller : Option CallerID)⟩ => some { use with caller := caller }
    | ⟨.cmsGetConfigParm name, (parm : Except Int ConfigParm)⟩ =>
      if name = zisParmlibParmSecmgmtUserClass then some { use with userClass := parm }
      else if name = zisParmlibParmSecmgmtAutorefresh then some { use with autorefresh := parm }
      else none
    | ⟨.radminPerformResAction userID _ parmList, (action : RadminAction)⟩ =>
      use.act isDryRun radmin.res userID parmList action
    | ⟨.radminPerformGroupAction userID _ parmList, (action : RadminAction)⟩ =>
      use.act isDryRun radmin.group userID parmList action
    | ⟨.radminPerformConnectionAction userID _ parmList, (action : RadminAction)⟩ =>
      use.act isDryRun radmin.connection userID parmList action
    | ⟨.radminRunRACFCommand userID command, (refresh : RadminAction)⟩ =>
      if use.mayRefresh commands isDryRun userID command then
        some { use with refreshed := some refresh }
      else none

/-- A reply with the parm list that is copied back as a request. -/
def replied {Parm : Type} (request : Parm → AdminRequest) (reply : Option (Int × Option Parm)) :
    Option (Int × Option AdminRequest) :=
  reply.map fun reply => (reply.1, reply.2.map request)

/-- The service of a request. -/
def adminService : AdminRequest → Program adminCalls (Option (Int × Option AdminRequest))
  | .genres parm => do
    let reply ← zisGenresProfileAdminServiceFunctionRACF radmin commands (some parm)
    pure (replied .genres reply)
  | .group parm => do
    let reply ← zisGroupAdminServiceFunctionRACF radmin (some parm)
    pure (replied .group reply)

/-! ## What a service comes to -/

def outputOf : AdminRequest → AdminOutput
  | .genres parm => parm.output
  | .group parm => parm.output

def failedCode : AdminRequest → Int
  | .genres _ => rcZisGsadmnsrvInternalServiceFailed
  | .group _ => rcZisGrpasrvInternalServiceFailed

/-- A request that is copied back: with its output, and with the owner that it did not give. -/
def AdminUse.back (use : AdminUse) (output : AdminOutput) : AdminRequest → AdminRequest
  | .genres parm =>
    match use.caller with
    | none => .genres { parm with output := output }
    | some caller => .genres { parm.withOwner caller.1 with output := output }
  | .group parm => .group { parm with output := output }

/-- A refresh is due for a resource, where the parameter says so, and on no dry run. -/
def AdminUse.refreshDue (use : AdminUse) : AdminRequest → Bool
  | .genres parm => !requestIsDryRun (.genres parm) && isYes use.autorefresh
  | .group _ => false

/-- What R_admin performed last. -/
def AdminUse.last (use : AdminUse) (action : RadminAction) : RadminAction :=
  use.refreshed.getD action

/-- The command of the action, and the message of what was performed last. -/
def AdminUse.told (use : AdminUse) (action : RadminAction) (output : AdminOutput) : AdminOutput :=
  { output with
    serviceMessage := (use.last action).handled.2.message
    operatorCommand := action.handled.2.command }

/-- The return code and the output after an action. -/
inductive Reported (use : AdminUse) (request : AdminRequest) (action : RadminAction) :
    Int → AdminOutput → Prop
  | ok (ok : (use.last action).rc = rcRadminOk) :
      Reported use request action 0 (use.told action (outputOf request))
  | failed (bad : (use.last action).rc ≠ rcRadminOk) :
      Reported use request action (failedCode request)
        (adminFailed (use.told action (outputOf request)) (use.last action))
  | notRead {getParmRC : Int} (ok : action.rc = rcRadminOk)
      (error : use.autorefresh = .error getParmRC)
      (other : getParmRC ≠ commands.configParmNotFound) :
      Reported use request action rcZisGsadmnsrvAutorefreshNotRead
        { use.told action (outputOf request) with internalServiceRC := getParmRC }

/-- What a service comes to, by the parm list that is built of its request. -/
inductive AdminOutcome (request : AdminRequest) :
    AdminUse → Option (Int × Option AdminRequest) → Prop
  | refused {use : AdminUse} {rc : Int} {back : Option AdminRequest}
      (list : requestParmList radmin use.env request = .refused rc)
      (idle : use.acted = none ∧ use.refreshed = none)
      (told : ∀ request' ∈ back, ∃ internalServiceRC,
        request' = use.back { outputOf request with internalServiceRC := internalServiceRC }
          request) :
      AdminOutcome request use (some (rc, back))
  | abended {use : AdminUse} (list : requestParmList radmin use.env request = .abended)
      (idle : use.acted = none ∧ use.refreshed = none) :
      AdminOutcome request use none
  | acted {use : AdminUse} {image : Image} {action : RadminAction} {rc : Int} {output : AdminOutput}
      (list : requestParmList radmin use.env request = .built image)
      (acted : use.acted = some (image, action))
      (refreshed : use.refreshed.isSome = (action.rc = rcRadminOk && use.refreshDue request))
      (reported : Reported commands use request action rc output) :
      AdminOutcome request use (some (rc, some (use.back output request)))

/-- What follows an action leaves: the parm list that was built still, and a report. -/
structure Performed (request : AdminRequest) (use : AdminUse) (action : RadminAction)
    (use' : AdminUse) (result : Int × AdminOutput) : Prop where
  env : use'.env = use.env
  caller : use'.caller = use.caller
  acted : use'.acted = use.acted
  refreshed : use'.refreshed.isSome = (action.rc = rcRadminOk && use'.refreshDue request)
  reported : Reported commands use' request action result.1 result.2

variable {radmin commands}

/-- A service that performed an action comes to what is reported. -/
theorem Performed.outcome {request : AdminRequest} {use use' : AdminUse} {image : Image}
    {action : RadminAction} {result : Int × AdminOutput}
    (performed : Performed commands request use action use' result)
    (list : requestParmList radmin use.env request = .built image)
    (acted : use.acted = some (image, action)) :
    AdminOutcome radmin commands request use'
      (some (result.1, some (use'.back result.2 request))) :=
  .acted (performed.env ▸ list) (performed.acted.trans acted) performed.refreshed performed.reported

theorem performRefreshIfNeeded_keeps {use : AdminUse} {image : Image} {action : RadminAction}
    {caller : CallerID} {userClassParm : ConfigParm}
    (dry : hasFlag parm.flags zisGenresAdminFlagDryrun = false)
    (noted : use = ⟨some caller, .ok userClassParm, .error commands.configParmNotFound,
      some (image, action), none⟩) (ok : action.rc = rcRadminOk) :
    Keeps (adminRules radmin commands (requestIsDryRun (.genres parm))) (fun _ => True) use
      (performRefreshIfNeeded commands caller userClassParm.1.value
        (use.told action parm.output))
      (Performed commands (.genres parm) use action) := by
  subst noted
  refine .ask_bind fun refreshParm _ => ⟨_, rfl, ?_⟩
  cases refreshParm with
  | error getParmRC =>
    dsimp only
    by_cases other : getParmRC ≠ commands.configParmNotFound
    · rw [if_pos other]
      exact .ret ⟨rfl, rfl, rfl, by simp [AdminUse.refreshDue, isYes], .notRead ok rfl other⟩
    · rw [if_neg other]
      exact .ret ⟨rfl, rfl, rfl, by simp [AdminUse.refreshDue, isYes], .ok ok⟩
  | ok refreshParm =>
    dsimp only
    by_cases no : printedString refreshParm.1.value ≠ ['Y', 'E', 'S']
    · rw [if_pos no]
      exact .ret ⟨rfl, rfl, rfl, by simp [AdminUse.refreshDue, isYes, no], .ok ok⟩
    · rw [if_neg no]
      refine .ask_bind fun refresh _ => ⟨_, if_pos ?_, ?_⟩
      · simp [AdminUse.mayRefresh, AdminUse.refreshesClass, isYes, requestIsDryRun, dry, ok,
          not_not.mp no]
      · dsimp only
        have due (use : AdminUse) (h : use.autorefresh = .ok refreshParm) :
            use.refreshDue (.genres parm) = true := by
          simp [AdminUse.refreshDue, requestIsDryRun, dry, h, isYes, not_not.mp no]
        by_cases bad : refresh.rc ≠ rcRadminOk
        · rw [if_pos bad]
          exact .ret ⟨rfl, rfl, rfl, by simp [ok, due], .failed bad⟩
        · rw [if_neg bad]
          exact .ret ⟨rfl, rfl, rfl, by simp [ok, due], .ok (not_not.mp bad)⟩

/-- An action that fails ends its service. -/
theorem afterAction_keeps {isDryRun : Bool} {request : AdminRequest} {use : AdminUse}
    {action : RadminAction} {next : AdminOutput → Program adminCalls (Int × AdminOutput)}
    (idle : use.refreshed = none)
    (goes : action.rc = rcRadminOk →
      Keeps (adminRules radmin commands isDryRun) (fun _ => True) use
        (next (use.told action (outputOf request))) (Performed commands request use action)) :
    Keeps (adminRules radmin commands isDryRun) (fun _ => True) use
      (afterAction (failedCode request) action (outputOf request) next)
      (Performed commands request use action) := by
  have last : use.last action = action := by simp [AdminUse.last, idle]
  have told : use.told action (outputOf request) = { outputOf request with
      serviceMessage := action.handled.2.message
      operatorCommand := action.handled.2.command } := by
    rw [AdminUse.told, last]
  unfold afterAction
  dsimp only
  rw [← told]
  by_cases bad : action.rc ≠ rcRadminOk
  · rw [if_pos bad]
    have reported := @Reported.failed commands use request action (last.symm ▸ bad)
    rw [last] at reported
    exact .ret ⟨rfl, rfl, rfl, by simp [idle, bad], reported⟩
  · rw [if_neg bad]
    exact goes (not_not.mp bad)

/-- The rules allow an action, where a dry run is told to R_admin. -/
theorem AdminUse.act_eq {header : HeaderLayout} {use : AdminUse} {caller : CallerID}
    {image : Image} (action : RadminAction) (first : use.acted = none)
    (noted : use.caller = some caller) (told : isDryRun = true → notRun header image = true) :
    use.act isDryRun header caller image action =
      some { use with acted := some (image, action) } := by
  refine if_pos ?_
  cases isDryRun with
  | false => simp [AdminUse.mayAct, first, noted]
  | true => simp [AdminUse.mayAct, first, noted, told rfl]

/-- An action is performed on the parm list of its request, and what follows is reported. -/
theorem performAction_keeps {request : AdminRequest} {parmInternalError : Int}
    {constructed : Option (Option Image)} {perform : Image → Program adminCalls RadminAction}
    {next : AdminOutput → Program adminCalls (Int × AdminOutput)} {use : AdminUse}
    (list : requestParmList radmin use.env request = .ofConstructed parmInternalError constructed)
    (idle : use.acted = none ∧ use.refreshed = none)
    (performs : ∀ image, constructed = some (some image) →
      Keeps (adminRules radmin commands (requestIsDryRun request)) (fun _ => True) use
        (perform image) fun use' action => use' = { use with acted := some (image, action) })
    (goes : ∀ (use' : AdminUse) image (action : RadminAction),
      use' = { use with acted := some (image, action) } → action.rc = rcRadminOk →
      Keeps (adminRules radmin commands (requestIsDryRun request)) (fun _ => True) use'
        (next (use'.told action (outputOf request))) (Performed commands request use' action)) :
    Keeps (adminRules radmin commands (requestIsDryRun request)) (fun _ => True) use
      (performAction parmInternalError (failedCode request) constructed perform
        (outputOf request) next)
      fun use' done => use'.caller = use.caller ∧
        AdminOutcome radmin commands request use'
          (copiedBack (fun output => use'.back output request) done) := by
  unfold performAction
  split
  next => exact .ret ⟨rfl, .abended list idle⟩
  next => exact .ret ⟨rfl, .refused list idle fun _ back => ⟨_, by cases back; rfl⟩⟩
  next image =>
    refine (performs image rfl).bind ?_
    rintro _ action rfl
    let acted : AdminUse := { use with acted := some (image, action) }
    have goes := @afterAction_keeps radmin commands _ request acted action next idle.2
      (goes acted image action rfl)
    refine goes.bind fun use' done performed => .ret ⟨performed.caller, ?_⟩
    exact performed.outcome list rfl

@[simp] theorem withOwner_output (parm : GenresAdminParmList) (caller : CountedText) :
    (parm.withOwner caller).output = parm.output := by
  unfold GenresAdminParmList.withOwner
  split <;> rfl

/-- What is copied back where R_admin is not asked. -/
theorem back_genres {use : AdminUse} {caller : CallerID} (noted : use.caller = some caller) :
    AdminRequest.genres (parm.withOwner caller.1) =
      use.back (outputOf (.genres parm)) (.genres parm) := by
  have same : parm.withOwner caller.1 = { parm.withOwner caller.1 with output := parm.output } := by
    rw [← withOwner_output parm caller.1]
  rw [AdminUse.back, noted]
  exact congrArg AdminRequest.genres same

theorem replied_copiedBack {Parm : Type} (request : Parm → AdminRequest)
    (withOutput : AdminOutput → Parm) (done : Option (Int × AdminOutput)) :
    replied request (copiedBack withOutput done) = copiedBack (request ∘ withOutput) done := by
  cases done <;> rfl

theorem genresService_keeps (htyped : RequestTyped (.genres parm)) :
    Keeps (adminRules radmin commands (requestIsDryRun (.genres parm))) (fun _ => True)
      (.start commands) (zisGenresProfileAdminServiceFunctionRACF radmin commands (some parm))
      fun use reply => AdminOutcome radmin commands (.genres parm) use (replied .genres reply) := by
  unfold zisGenresProfileAdminServiceFunctionRACF
  dsimp only
  by_cases refused : validateGenresParmList parm ≠ rcZisGsadmnsrvOk
  · rw [if_pos refused]
    have list (use : AdminUse) : requestParmList radmin use.env (.genres parm) =
        .refused (validateGenresParmList parm) := if_pos refused
    exact .ret (.refused (list _) ⟨rfl, rfl⟩ (by simp))
  rw [if_neg refused]
  refine .ask_bind fun caller _ => ⟨_, rfl, ?_⟩
  cases caller with
  | none =>
    refine .ret (.refused ?_ ⟨rfl, rfl⟩ fun _ back => ⟨_, by cases back; rfl⟩)
    simp [requestParmList, genresRadminParmList, refused, AdminUse.env]
  | some caller =>
    refine .ask_bind fun userClassParm _ => ⟨_, rfl, ?_⟩
    cases userClassParm with
    | error getParmRC =>
      refine .ret (.refused ?_ ⟨rfl, rfl⟩ fun _ back => ⟨getParmRC, ?_⟩)
      · simp [requestParmList, genresRadminParmList, refused, AdminUse.env, Except.map]
      · cases back
        simp [AdminUse.back, outputOf, withOwner_output]
    | ok userClassParm =>
      dsimp only
      by_cases long : userClassParm.1.length > zisSecurityClassMaxLength
      · rw [if_pos long]
        refine .ret (.refused ?_ ⟨rfl, rfl⟩ fun _ back => ⟨_, by cases back; exact back_genres rfl⟩)
        simp [requestParmList, genresRadminParmList, refused, AdminUse.env, Except.map, long]
      rw [if_neg long]
      by_cases na : mapZisToRadminResAction parm.function = .na
      · rw [withOwner_function, if_pos na]
        refine .ret (.refused ?_ ⟨rfl, rfl⟩ fun _ back => ⟨_, by cases back; exact back_genres rfl⟩)
        simp [requestParmList, genresRadminParmList, refused, AdminUse.env, Except.map, long,
          withOwner_function, na]
      let use : AdminUse := ⟨some caller, .ok userClassParm, .error commands.configParmNotFound,
        none, none⟩
      have list := @genresRadminParmList_eq radmin use.env parm caller.1 userClassParm.1
        (not_not.mp refused) rfl rfl (Nat.not_lt.mp long) na
      simp only [withOwner_function, withOwner_flags, withOwner_accessType,
        Zss.Tss.withOwner_profile, Zss.Tss.withOwner_user, withOwner_output, if_neg na]
      refine (performAction_keeps list ⟨rfl, rfl⟩ (fun image built => .ask fun action _ =>
        ⟨{ use with acted := some (image, action) },
          AdminUse.act_eq action rfl rfl
            (genres_told htyped (not_not.mp refused) (Nat.not_lt.mp long) built), rfl⟩)
        fun use' image action noted ok => ?_).bind fun use' done outcome => .ret ?_
      · cases dry : hasFlag parm.flags zisGenresAdminFlagDryrun with
        | false => exact performRefreshIfNeeded_keeps dry noted ok
        | true =>
          have due : use'.refreshDue (.genres parm) = false := by
            simp [AdminUse.refreshDue, requestIsDryRun, dry]
          have idle : use'.refreshed = none := by rw [noted]
          exact .ret ⟨rfl, rfl, rfl, by simp [idle, due],
            .ok (by simpa [AdminUse.last, idle] using ok)⟩
      · have noted : use'.caller = some caller := outcome.1
        have same : AdminRequest.genres ∘ (fun output =>
            { parm.withOwner caller.1 with output := output }) =
              fun output => use'.back output (.genres parm) := by
          funext output
          rw [AdminUse.back, noted]
          rfl
        rw [← same] at outcome
        simpa [replied_copiedBack, Function.comp_def, withOwner_function, withOwner_flags,
          withOwner_accessType] using outcome.2

theorem groupService_keeps {parm : GroupAdminParmList} (htyped : RequestTyped (.group parm)) :
    Keeps (adminRules radmin commands (requestIsDryRun (.group parm))) (fun _ => True)
      (.start commands) (zisGroupAdminServiceFunctionRACF radmin (some parm))
      fun use reply => AdminOutcome radmin commands (.group parm) use (replied .group reply) := by
  unfold zisGroupAdminServiceFunctionRACF
  dsimp only
  by_cases refused : validateGroupParmList parm ≠ rcZisGrpasrvOk
  · rw [if_pos refused]
    have list (use : AdminUse) : requestParmList radmin use.env (.group parm) =
        .refused (validateGroupParmList parm) := if_pos refused
    exact .ret (.refused (list _) ⟨rfl, rfl⟩ (by simp))
  rw [if_neg refused]
  refine .ask_bind fun caller _ => ⟨_, rfl, ?_⟩
  cases caller with
  | none =>
    refine .ret (.refused ?_ ⟨rfl, rfl⟩ fun _ back => ⟨_, by cases back; rfl⟩)
    simp [requestParmList, groupRadminParmList, refused, AdminUse.env]
  | some caller =>
    let use : AdminUse := { AdminUse.start commands with caller := some caller }
    -- nothing is done after an action
    have goes (use' : AdminUse) (image : Image) (action : RadminAction)
        (noted : use' = { use with acted := some (image, action) }) (ok : action.rc = rcRadminOk) :
        Keeps (adminRules radmin commands (requestIsDryRun (.group parm))) (fun _ => True) use'
          (.ret (rcZisGrpasrvOk, use'.told action parm.output))
          (Performed commands (.group parm) use' action) := by
      have idle : use'.refreshed = none := by
        rw [noted]
        rfl
      exact .ret ⟨rfl, rfl, rfl, by simp [idle, AdminUse.refreshDue],
        .ok (by simpa [AdminUse.last, idle] using ok)⟩
    dsimp only
    by_cases changed : parm.function = zisGroupAdminSrvFcAdd ∨
        parm.function = zisGroupAdminSrvFcDelete
    · rw [if_pos changed]
      by_cases na : mapZisToRadminGroupAction parm.function = .na
      · rw [if_pos na]
        refine .ret (.refused ?_ ⟨rfl, rfl⟩ fun _ back => ⟨_, by cases back; rfl⟩)
        simp [requestParmList, groupRadminParmList, refused, AdminUse.env, changed, na]
      rw [if_neg na]
      have list : requestParmList radmin use.env (.group parm) =
          .ofConstructed rcZisGrpasrvParmInternalError
            (constructGroupAdminParmList radmin parmListBufferSize
              (mapZisToRadminGroupAction parm.function)
              (hasFlag parm.flags zisGroupAdminFlagDryrun) parm.group.value parm.group.length
              parm.superiorGroup.value parm.superiorGroup.length) := by
        simp [requestParmList, groupRadminParmList, refused, AdminUse.env, use, changed, na]
      refine (performAction_keeps list ⟨rfl, rfl⟩ (fun image built => .ask fun action _ =>
        ⟨{ use with acted := some (image, action) },
          AdminUse.act_eq action rfl rfl (group_told htyped (not_not.mp refused) changed built),
          rfl⟩) goes).bind fun use' done outcome => .ret ?_
      exact replied_copiedBack .. ▸ outcome.2
    · rw [if_neg changed]
      by_cases na : mapZisToRadminConnectionAction parm.function = .na
      · rw [if_pos na]
        refine .ret (.refused ?_ ⟨rfl, rfl⟩ fun _ back => ⟨_, by cases back; rfl⟩)
        simp [requestParmList, groupRadminParmList, refused, AdminUse.env, changed, na]
      rw [if_neg na]
      have list : requestParmList radmin use.env (.group parm) =
          .ofConstructed rcZisGrpasrvParmInternalError
            (constructConnectionAdminParmList radmin parmListBufferSize
              (mapZisToRadminConnectionAction parm.function)
              (hasFlag parm.flags zisGroupAdminFlagDryrun) parm.user.value parm.user.length
              parm.group.value parm.group.length parm.accessType) := by
        simp [requestParmList, groupRadminParmList, refused, AdminUse.env, use, changed, na]
      refine (performAction_keeps list ⟨rfl, rfl⟩ (fun image built => .ask fun action _ =>
        ⟨{ use with acted := some (image, action) },
          AdminUse.act_eq action rfl rfl (connection_told htyped (not_not.mp refused) built),
          rfl⟩) goes).bind fun use' done outcome => .ret ?_
      exact replied_copiedBack .. ▸ outcome.2

end

/-- **The administration services act as they are asked.** In every run, whatever the answers, the
service of a request keeps the rules of its calls, and comes to what the parm list of the request
decides: it is refused, ends abnormally, or has R_admin perform its action and reports what was
performed last. -/
theorem adminService_acts (radmin : RadminLayout) (commands : RadminCommands)
    (request : AdminRequest) (htyped : RequestTyped request) :
    Keeps (adminRules radmin commands (requestIsDryRun request)) (fun _ => True) (.start commands)
      (adminService radmin commands request) (AdminOutcome radmin commands request) := by
  cases request with
  | genres parm => exact (genresService_keeps htyped).bind fun use reply outcome => .ret outcome
  | group parm => exact (groupService_keeps htyped).bind fun use reply outcome => .ret outcome

theorem adminService_acts_sample :
    Keeps (adminRules sampleRadmin ⟨255, 28⟩
        (requestIsDryRun (sampleRequest zisGenresAdminFlagDryrun 2 0)))
      (fun _ => True) (.start ⟨255, 28⟩)
      (adminService sampleRadmin ⟨255, 28⟩ (sampleRequest zisGenresAdminFlagDryrun 2 0))
      (AdminOutcome sampleRadmin ⟨255, 28⟩ (sampleRequest zisGenresAdminFlagDryrun 2 0)) :=
  adminService_acts sampleRadmin ⟨255, 28⟩ (sampleRequest zisGenresAdminFlagDryrun 2 0)
    ⟨by unfold HasSize; decide +kernel, by unfold HasSize; decide +kernel,
      by unfold HasSize; decide +kernel⟩

end Zss.Racf
