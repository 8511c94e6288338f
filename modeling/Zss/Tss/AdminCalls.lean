import Zss.Lib.Program
import Zss.Tss.AdminCommands

/-!
# The commands that the administration services run

The services of `Admin` as programs that have commands run, so that a run says which. The commands
that change the database are, on a dry run, none, and else those that the service issues.

A dry run is compared with the run of the same request without the flag where the database answers
alike.

## What is not established

Both runs are on a database that answers alike. That a command changes what it names, and nothing
else, is TSS's affair.
-/

namespace Zss.Tss

open Zss.Lib Program
open Zss.Lib.KeywordText

/-! ## The services by the commands they run -/

@[reducible] def radmin : Interface := ⟨Text, fun _ => RadminRun⟩

def radminRunRACFCommand (command : Text) : Program radmin RadminRun := ask (I := radmin) command

/-- Surroundings that answer the next command so. -/
def AdminEnv.answering (env : AdminEnv) (run : RadminRun) : AdminEnv :=
  { env with radminRunRACFCommand := fun _ => run }

section

variable (utils : Utils) (env : AdminEnv)

/-- `issueCommand` by its commands. -/
def issueCommandCalls (isDryRun : Bool) (command : AdminCommand) (size : Nat) (text : Text)
    (locals : AdminLocals) : Program radmin (Option Int × AdminLocals) :=
  if isDryRun then pure (issueCommand utils env true command size text locals)
  else do
    let run ← radminRunRACFCommand (snprintf size text)
    pure (issueCommand utils (env.answering run) false command size text locals)

def handleRevokeAccessCalls (parm : GenresAdminParmList) (className : Text) (isDryRun : Bool)
    (locals : AdminLocals) : Program radmin (Option Int × AdminLocals) :=
  issueCommandCalls utils env isDryRun .revoke tssPrfAccessListAdminRevokeMaxLen
    (revokeCommand parm className) locals

def handlePermitAccessCalls (parm : GenresAdminParmList) (className : Text) (isDryRun : Bool)
    (locals : AdminLocals) : Program radmin (Option Int × AdminLocals) :=
  issueCommandCalls utils env isDryRun .permit tssPrfAccessListAdminPermitMaxLen
    (permitCommand parm className) locals

/-- The branch of a call that gives access, by its commands. -/
def giveAccessCalls (parm : GenresAdminParmList) (className : Text) (isDryRun : Bool)
    (locals : AdminLocals) : Program radmin (Option Int × AdminLocals) := do
  let run ← radminRunRACFCommand (userListCommand parm.user)
  let permitted := isUserAlreadyPermitted utils env className parm.profile.printed run.apiStatus
    run.output
  let locals := { locals with radminStatus := run.status }
  if run.rc permitted.1 ≠ rcRadminOk then pure (some (run.rc permitted.1), locals)
  else if !permitted.2 || isDryRun then
    handlePermitAccessCalls utils env parm className isDryRun locals
  else do
    let revoked ← handleRevokeAccessCalls utils env parm className isDryRun locals
    match revoked with
    | (some radminActionRC, locals) =>
      if radminActionRC = rcRadminOk then
        handlePermitAccessCalls utils env parm className isDryRun locals
      else pure (some radminActionRC, locals)
    | (none, locals) => pure (none, locals)

/-- The branch of a call that deletes a profile, by its commands. -/
def deleteProfileCalls (parm : GenresAdminParmList) (className : Text) (isDryRun : Bool)
    (locals : AdminLocals) : Program radmin (Option Int × AdminLocals) := do
  let run ← radminRunRACFCommand (whoownsCommand className parm.profile)
  let owned := getGenresProfileOwnerHandler utils run.apiStatus run.output
  let locals := { locals with radminStatus := run.status }
  if run.rc owned.1 ≠ rcRadminOk then pure (some (run.rc owned.1), locals)
  else
    issueCommandCalls utils env isDryRun .delete tssPrfAdminDelMaxLen
      (deleteCommand parm className (ownerNameOf env owned.2)) locals

/-- What a call about a profile does for its function, by its commands. -/
def runGenresAdminCalls (parm : GenresAdminParmList) (className : Text) (isDryRun : Bool)
    (locals : AdminLocals) : Program radmin (Option (Option Int × AdminLocals)) :=
  if parm.function = zisGenresAdminSrvFcGiveAccess then do
    let result ← giveAccessCalls utils env parm className isDryRun locals
    pure (some result)
  else if parm.function = zisGenresAdminSrvFcRevokeAccess then do
    let result ← handleRevokeAccessCalls utils env parm className isDryRun locals
    pure (some result)
  else if parm.function = zisGenresAdminSrvFcDefine then do
    let result ← issueCommandCalls utils env isDryRun .define tssPrfAdminAddMaxLen
      (defineCommand parm className) locals
    pure (some result)
  else if parm.function = zisGenresAdminSrvFcDelete then do
    let result ← deleteProfileCalls utils env parm className isDryRun locals
    pure (some result)
  else pure none

/-- What a call about a group does for its function, by its commands. -/
def runGroupAdminCalls (parm : GroupAdminParmList) (isDryRun : Bool) (locals : AdminLocals) :
    Program radmin (Option (Option Int × AdminLocals)) :=
  if parm.function = zisGroupAdminSrvFcAdd then do
    let result ← issueCommandCalls utils env isDryRun .createGroup (tssGrpAdminAddMaxLen + 1)
      (createGroupCommand parm) locals
    pure (some result)
  else if parm.function = zisGroupAdminSrvFcDelete then do
    let result ← issueCommandCalls utils env isDryRun .deleteGroup (tssGrpAdminDelMaxLen + 1)
      (deleteGroupCommand parm) locals
    pure (some result)
  else if parm.function = zisGroupAdminSrvFcConnectUser then do
    let result ← issueCommandCalls utils env isDryRun .connectUser (tssGrpAdminAddConMaxLen + 1)
      (connectUserCommand parm) locals
    pure (some result)
  else if parm.function = zisGroupAdminSrvFcRemoveUser then do
    let result ← issueCommandCalls utils env isDryRun .removeUser (tssGrpAdminRemConMaxLen + 1)
      (removeUserCommand parm) locals
    pure (some result)
  else pure none

/-- What a call about a profile answers. -/
def genresOutcome (parm : GenresAdminParmList) :
    Option (Option Int × AdminLocals) → AdminOutcome GenresAdminParmList
  | none => .refused rcZisGsadmnsrvBadFunction
  | some (none, locals) => ⟨locals.issued, none⟩
  | some (some radminActionRC, locals) =>
    ⟨locals.issued, some
      (if radminActionRC ≠ rcRadminOk then rcZisGsadmnsrvInternalServiceFailed
        else rcZisGsadmnsrvOk,
      some { parm with
        accessType := accessTypeLeft parm locals.issued
        output := locals.finish radminActionRC })⟩

/-- `zisGenresProfileAdminServiceFunctionTSS` by its commands. -/
def genresAdminCalls (parm : GenresAdminParmList) :
    Program radmin (AdminOutcome GenresAdminParmList) :=
  if validateGenresParmList parm ≠ rcZisGsadmnsrvOk then
    pure (.refused (validateGenresParmList parm))
  else
    match env.secmgmtGetCallerUserID, env.userClass with
    | none, _ => pure (.refused rcZisGsadmnsrvImpersonationMissing)
    | some _, .error _ => pure (.refused rcZisGsadmnsrvUserClassNotRead)
    | some caller, .ok className =>
      if className.length > zisSecurityClassMaxLength then
        pure (.refused rcZisGsadmnsrvUserClassTooLong)
      else do
        let parm := parm.withOwner caller
        let result ← runGenresAdminCalls utils env parm className
          (hasFlag parm.flags zisGroupAdminFlagDryrun) ⟨parm.output, env.stack, .zero, []⟩
        pure (genresOutcome parm result)

/-- What a call about a group answers. -/
def groupOutcome (parm : GroupAdminParmList) :
    Option (Option Int × AdminLocals) → AdminOutcome GroupAdminParmList
  | none => .refused rcZisGrpasrvBadFunction
  | some (none, locals) => ⟨locals.issued, none⟩
  | some (some radminActionRC, locals) =>
    ⟨locals.issued, some
      (if radminActionRC ≠ rcRadminOk then rcZisGrpasrvInternalServiceFailed
        else rcZisGrpasrvOk,
      some { parm with output := locals.finish radminActionRC })⟩

/-- `zisGroupAdminServiceFunctionTSS` by its commands. -/
def groupAdminCalls (parm : GroupAdminParmList) :
    Program radmin (AdminOutcome GroupAdminParmList) :=
  if validateGroupParmList parm ≠ rcZisGrpasrvOk then
    pure (.refused (validateGroupParmList parm))
  else
    match env.secmgmtGetCallerUserID with
    | none => pure (.refused rcZisGrpasrvImpersonationMissing)
    | some _ => do
      let result ← runGroupAdminCalls utils env parm
        (hasFlag parm.flags zisGroupAdminFlagDryrun)
        ⟨parm.output, zeroBuffer (tssServiceMsgMaxLen + 1), .zero, []⟩
      pure (groupOutcome parm result)

/-! ## The run of a command -/

@[simp] theorem issueCommandCalls_eval (isDryRun : Bool) (command : AdminCommand) (size : Nat)
    (text : Text) (locals : AdminLocals) :
    (issueCommandCalls utils env isDryRun command size text locals).eval
        env.radminRunRACFCommand =
      issueCommand utils env isDryRun command size text locals := by
  cases isDryRun <;> rfl

@[simp] theorem issueCommandCalls_asked (isDryRun : Bool) (command : AdminCommand) (size : Nat)
    (text : Text) (locals : AdminLocals) :
    (issueCommandCalls utils env isDryRun command size text locals).asked
        env.radminRunRACFCommand = if isDryRun then [] else [snprintf size text] := by
  cases isDryRun <;> rfl

/-! ## The commands that change the database -/

/-- A command that only lists. -/
def isListing (command : Text) : Bool :=
  ['T', 'S', 'S', ' ', 'L', 'I', 'S', 'T', '('].isPrefixOf command ||
    ['T', 'S', 'S', ' ', 'W', 'H', 'O', 'O', ' '].isPrefixOf command

/-- The commands that change the database. -/
def changing (commands : List Text) : List Text := commands.filter fun command => !isListing command

/-- The text of a command that changes the database, as it is printed. -/
structure Change (size : Nat) (text : Text) : Prop where
  changes : isListing (snprintf size text) = false
  printed : nul ∉ snprintf size text

theorem nul_not_mem_printed (field : CountedText) : nul ∉ field.printed := by
  intro h
  have := List.mem_takeWhile_imp h
  simp at this

theorem nul_not_mem_printedString (value : Text) : nul ∉ printedString value := by
  intro h
  have := List.mem_takeWhile_imp h
  simp at this

/-- A command that is printed from clean parts and does not begin like a listing changes the
database. -/
theorem Change.of {size : Nat} {text : Text} (changes : isListing (snprintf size text) = false)
    (clean : nul ∉ text) : Change size text :=
  ⟨changes, fun h => clean (List.mem_of_mem_take h)⟩

theorem nul_not_mem_accessString (accessType : Int) : nul ∉ accessString accessType := by
  unfold accessString getAccessString
  repeat' split
  all_goals decide

theorem change_permit (parm : GenresAdminParmList) (className : Text) :
    Change tssPrfAccessListAdminPermitMaxLen (permitCommand parm className) := by
  refine .of rfl ?_
  simp only [permitCommand, List.mem_append, nul_not_mem_printed, nul_not_mem_printedString,
    nul_not_mem_accessString]
  decide

theorem change_revoke (parm : GenresAdminParmList) (className : Text) :
    Change tssPrfAccessListAdminRevokeMaxLen (revokeCommand parm className) := by
  refine .of rfl ?_
  simp only [revokeCommand, List.mem_append, nul_not_mem_printed, nul_not_mem_printedString]
  decide

theorem change_delete (parm : GenresAdminParmList) (className ownerName : Text) :
    Change tssPrfAdminDelMaxLen (deleteCommand parm className ownerName) := by
  refine .of rfl ?_
  simp only [deleteCommand, List.mem_append, nul_not_mem_printed, nul_not_mem_printedString]
  decide

theorem change_define (parm : GenresAdminParmList) (className : Text) :
    Change tssPrfAdminAddMaxLen (defineCommand parm className) := by
  refine .of rfl ?_
  simp only [defineCommand, List.mem_append, nul_not_mem_printed, nul_not_mem_printedString]
  decide

theorem change_createGroup (parm : GroupAdminParmList) :
    Change (tssGrpAdminAddMaxLen + 1) (createGroupCommand parm) := by
  refine .of rfl ?_
  simp only [createGroupCommand, List.mem_append, nul_not_mem_printed]
  decide

theorem change_deleteGroup (parm : GroupAdminParmList) :
    Change (tssGrpAdminDelMaxLen + 1) (deleteGroupCommand parm) := by
  refine .of rfl ?_
  simp only [deleteGroupCommand, List.mem_append, nul_not_mem_printed]
  decide

theorem change_connectUser (parm : GroupAdminParmList) :
    Change (tssGrpAdminAddConMaxLen + 1) (connectUserCommand parm) := by
  refine .of rfl ?_
  simp only [connectUserCommand, List.mem_append, nul_not_mem_printed]
  decide

theorem change_removeUser (parm : GroupAdminParmList) :
    Change (tssGrpAdminRemConMaxLen + 1) (removeUserCommand parm) := by
  refine .of rfl ?_
  simp only [removeUserCommand, List.mem_append, nul_not_mem_printed]
  decide

/-! ## A dry run and the run itself -/

/-- The command a dry run leaves in its message. -/
def reportedCommand (message : AdminServiceMessage) : Text :=
  printedString (message.text.take message.length)

/-- A dry run reports the command and has none run. -/
theorem issueCommand_dry (command : AdminCommand) {size : Nat} {text : Text}
    (change : Change size text) (locals : AdminLocals) :
    ∃ locals', issueCommand utils env true command size text locals = (some rcRadminOk, locals') ∧
      reportedCommand locals'.output.operatorCommand = snprintf size text := by
  refine ⟨_, rfl, ?_⟩
  have clean : ∀ c ∈ snprintf size text, decide (c ≠ nul) = true := by
    intro c hc
    have hne : c ≠ nul := fun heq => change.printed (heq ▸ hc)
    simpa using hne
  simp only [reportedCommand, AdminServiceMessage.set, List.take_left, printedString]
  rw [List.takeWhile_append_of_pos clean, zeroBuffer, List.takeWhile_replicate]
  simp

/-- A command of the services succeeds. -/
def succeeds (command : Text) : Bool :=
  (executeAdminCommand utils env command ⟨⟨0, 0, ⟨0, 0, 0⟩, ⟨0, []⟩, ⟨0, []⟩⟩, [], .zero, []⟩).1 =
    some rcRadminOk

/-- The return code of a command is that of the command. -/
theorem executeAdminCommand_rc (command : Text) (locals locals' : AdminLocals) :
    (executeAdminCommand utils env command locals).1 =
      (executeAdminCommand utils env command locals').1 := by
  unfold executeAdminCommand
  dsimp only
  generalize didCommandFail utils (env.radminRunRACFCommand command).apiStatus
    (env.radminRunRACFCommand command).output = failed
  obtain _ | ⟨failure, output⟩ := failed
  · rfl
  · simp [apply_ite Prod.fst]

theorem succeeds_iff (command : Text) (locals : AdminLocals) :
    succeeds utils env command = true ↔
      (executeAdminCommand utils env command locals).1 = some rcRadminOk := by
  rw [succeeds, decide_eq_true_iff, executeAdminCommand_rc]

/-- The user has the profile already, by what Top Secret lists for them. -/
def alreadyPermitted (parm : GenresAdminParmList) (className : Text) : Bool :=
  let run := env.radminRunRACFCommand (userListCommand parm.user)
  parm.function = zisGenresAdminSrvFcGiveAccess ∧
    (isUserAlreadyPermitted utils env className parm.profile.printed run.apiStatus
      run.output).2 = true

/-- The commands that change the database for a request whose last command is given: it alone or,
where the user has the profile already, a revocation and, if that succeeds, the command. -/
def expectedChanges (parm : GenresAdminParmList) (className command : Text) : List Text :=
  let revoke := snprintf tssPrfAccessListAdminRevokeMaxLen (revokeCommand parm className)
  if alreadyPermitted utils env parm className then
    revoke :: if succeeds utils env revoke then [command] else []
  else [command]

/-- How a dry run compares with the run itself: neither changes anything, or the dry run reports a
command and the run makes the changes that end in it. -/
inductive Compares (expected : Text → List Text) (changes : List Text) :
    Option (Option Int × AdminLocals) → Prop
  | unknown (none_made : changes = []) : Compares expected changes none
  | failed {rc : Int} {locals : AdminLocals} (bad : rc ≠ rcRadminOk) (none_made : changes = []) :
      Compares expected changes (some (some rc, locals))
  | reported {locals : AdminLocals} (command : Text)
      (reports : reportedCommand locals.output.operatorCommand = command)
      (made : changes = expected command) :
      Compares expected changes (some (some rcRadminOk, locals))

/-- A command on its own. -/
theorem compares_issue {command : AdminCommand} {size : Nat} {text : Text}
    (change : Change size text) (locals locals' : AdminLocals) {expected : Text → List Text}
    (alone : ∀ command, expected command = [command]) :
    changing ((issueCommandCalls utils env true command size text locals).asked
        env.radminRunRACFCommand) = [] ∧
      Compares expected (changing ((issueCommandCalls utils env false command size text
          locals').asked env.radminRunRACFCommand))
        (some ((issueCommandCalls utils env true command size text locals).eval
          env.radminRunRACFCommand)) := by
  rw [issueCommandCalls_asked, issueCommandCalls_asked, issueCommandCalls_eval]
  obtain ⟨after, heq, hreported⟩ := issueCommand_dry utils env command change locals
  refine ⟨rfl, ?_⟩
  rw [heq]
  refine .reported _ hreported ?_
  rw [alone]
  simp [changing, change.changes]

theorem compares_giveAccess {parm : GenresAdminParmList} {className : Text}
    (give : parm.function = zisGenresAdminSrvFcGiveAccess) (locals : AdminLocals) :
    changing ((giveAccessCalls utils env parm className true locals).asked
        env.radminRunRACFCommand) = [] ∧
      Compares (expectedChanges utils env parm className)
        (changing ((giveAccessCalls utils env parm className false locals).asked
          env.radminRunRACFCommand))
        (some ((giveAccessCalls utils env parm className true locals).eval
          env.radminRunRACFCommand)) := by
  have listing : isListing (userListCommand parm.user) = true := rfl
  have permit := change_permit parm className
  have revoke := change_revoke parm className
  have already : alreadyPermitted utils env parm className =
      (isUserAlreadyPermitted utils env className parm.profile.printed
        (env.radminRunRACFCommand (userListCommand parm.user)).apiStatus
        (env.radminRunRACFCommand (userListCommand parm.user)).output).2 := by
    simp [alreadyPermitted, give]
  unfold giveAccessCalls radminRunRACFCommand
  rw [asked_bind, asked_bind, eval_bind, eval_ask, asked_ask]
  dsimp only
  by_cases hlisted : (env.radminRunRACFCommand (userListCommand parm.user)).rc
      (isUserAlreadyPermitted utils env className parm.profile.printed
        (env.radminRunRACFCommand (userListCommand parm.user)).apiStatus
        (env.radminRunRACFCommand (userListCommand parm.user)).output).1 ≠ rcRadminOk
  · rw [if_pos hlisted, if_pos hlisted]
    exact ⟨by simp [changing, listing], .failed hlisted (by simp [changing, listing])⟩
  rw [if_neg hlisted, if_neg hlisted, Bool.or_true, if_pos rfl, Bool.or_false, ← already]
  have listed (commands : List Text) :
      changing ([userListCommand parm.user] ++ commands) = changing commands := by
    simp [changing, listing]
  rw [listed, listed]
  cases hpermitted : alreadyPermitted utils env parm className with
  | false =>
    exact compares_issue utils env permit _ _ fun command => by simp [expectedChanges, hpermitted]
  | true =>
    unfold handlePermitAccessCalls handleRevokeAccessCalls
    rw [issueCommandCalls_asked, issueCommandCalls_eval]
    obtain ⟨after, heq, hreported⟩ := issueCommand_dry utils env .permit permit
      { locals with radminStatus := (env.radminRunRACFCommand (userListCommand parm.user)).status }
    refine ⟨rfl, ?_⟩
    rw [heq]
    refine .reported _ hreported ?_
    have real (locals : AdminLocals) : (issueCommand utils env false .revoke
        tssPrfAccessListAdminRevokeMaxLen (revokeCommand parm className) locals).1 =
          some rcRadminOk ↔
        succeeds utils env
          (snprintf tssPrfAccessListAdminRevokeMaxLen (revokeCommand parm className)) = true :=
      (succeeds_iff utils env _ _).symm
    rw [if_neg (by simp), asked_bind, issueCommandCalls_asked, issueCommandCalls_eval]
    have real := real { locals with
      radminStatus := (env.radminRunRACFCommand (userListCommand parm.user)).status }
    generalize issueCommand utils env false .revoke tssPrfAccessListAdminRevokeMaxLen
      (revokeCommand parm className) _ = revoked at real ⊢
    obtain ⟨_ | rc, locals'⟩ := revoked
    · have failed := mt real.mpr (by simp)
      simp [changing, expectedChanges, hpermitted, revoke.changes, failed]
    · by_cases hrc : rc = rcRadminOk
      · have succeeded := real.mp (by simp [hrc])
        simp [changing, expectedChanges, hpermitted, revoke.changes, permit.changes, succeeded, hrc]
      · have failed := mt real.mpr (by simpa using hrc)
        simp [changing, expectedChanges, hpermitted, revoke.changes, failed, hrc]

theorem compares_deleteProfile (parm : GenresAdminParmList) {className : Text}
    {expected : Text → List Text} (alone : ∀ command, expected command = [command])
    (locals : AdminLocals) :
    changing ((deleteProfileCalls utils env parm className true locals).asked
        env.radminRunRACFCommand) = [] ∧
      Compares expected
        (changing ((deleteProfileCalls utils env parm className false locals).asked
          env.radminRunRACFCommand))
        (some ((deleteProfileCalls utils env parm className true locals).eval
          env.radminRunRACFCommand)) := by
  have listing : isListing (whoownsCommand className parm.profile) = true := rfl
  have listed (commands : List Text) :
      changing ([whoownsCommand className parm.profile] ++ commands) = changing commands := by
    simp [changing, listing]
  unfold deleteProfileCalls radminRunRACFCommand
  rw [asked_bind, asked_bind, eval_bind, eval_ask, asked_ask, listed, listed]
  dsimp only
  by_cases hlisted : (env.radminRunRACFCommand (whoownsCommand className parm.profile)).rc
      (getGenresProfileOwnerHandler utils
        (env.radminRunRACFCommand (whoownsCommand className parm.profile)).apiStatus
        (env.radminRunRACFCommand (whoownsCommand className parm.profile)).output).1 ≠ rcRadminOk
  · rw [if_pos hlisted, if_pos hlisted]
    exact ⟨rfl, .failed hlisted rfl⟩
  · rw [if_neg hlisted, if_neg hlisted]
    exact compares_issue utils env (change_delete parm className _) _ _ alone

/-- **A function on a profile, dry and not.** -/
theorem compares_genres (parm : GenresAdminParmList) (className : Text) (locals : AdminLocals) :
    changing ((runGenresAdminCalls utils env parm className true locals).asked
        env.radminRunRACFCommand) = [] ∧
      Compares (expectedChanges utils env parm className)
        (changing ((runGenresAdminCalls utils env parm className false locals).asked
          env.radminRunRACFCommand))
        ((runGenresAdminCalls utils env parm className true locals).eval
          env.radminRunRACFCommand) := by
  have alone (other : parm.function ≠ zisGenresAdminSrvFcGiveAccess) (command : Text) :
      expectedChanges utils env parm className command = [command] := by
    simp [expectedChanges, alreadyPermitted, other]
  unfold runGenresAdminCalls
  by_cases give : parm.function = zisGenresAdminSrvFcGiveAccess
  · rw [if_pos give, if_pos give]
    simpa using compares_giveAccess utils env give locals
  rw [if_neg give, if_neg give]
  have alone := alone give
  by_cases revoke : parm.function = zisGenresAdminSrvFcRevokeAccess
  · rw [if_pos revoke, if_pos revoke]
    simpa [handleRevokeAccessCalls] using
      compares_issue utils env (change_revoke parm className) locals locals alone
  rw [if_neg revoke, if_neg revoke]
  by_cases define : parm.function = zisGenresAdminSrvFcDefine
  · rw [if_pos define, if_pos define]
    simpa using compares_issue utils env (change_define parm className) locals locals alone
  rw [if_neg define, if_neg define]
  by_cases delete : parm.function = zisGenresAdminSrvFcDelete
  · rw [if_pos delete, if_pos delete]
    simpa using compares_deleteProfile utils env parm alone locals
  · rw [if_neg delete, if_neg delete]
    exact ⟨rfl, .unknown rfl⟩

/-- **A function on a group, dry and not.** -/
theorem compares_group (parm : GroupAdminParmList) (locals : AdminLocals) :
    changing ((runGroupAdminCalls utils env parm true locals).asked
        env.radminRunRACFCommand) = [] ∧
      Compares (fun command => [command])
        (changing ((runGroupAdminCalls utils env parm false locals).asked
          env.radminRunRACFCommand))
        ((runGroupAdminCalls utils env parm true locals).eval env.radminRunRACFCommand) := by
  unfold runGroupAdminCalls
  by_cases add : parm.function = zisGroupAdminSrvFcAdd
  · rw [if_pos add, if_pos add]
    simpa using compares_issue utils env (change_createGroup parm) locals locals fun _ => rfl
  rw [if_neg add, if_neg add]
  by_cases delete : parm.function = zisGroupAdminSrvFcDelete
  · rw [if_pos delete, if_pos delete]
    simpa using compares_issue utils env (change_deleteGroup parm) locals locals fun _ => rfl
  rw [if_neg delete, if_neg delete]
  by_cases connect : parm.function = zisGroupAdminSrvFcConnectUser
  · rw [if_pos connect, if_pos connect]
    simpa using compares_issue utils env (change_connectUser parm) locals locals fun _ => rfl
  rw [if_neg connect, if_neg connect]
  by_cases remove : parm.function = zisGroupAdminSrvFcRemoveUser
  · rw [if_pos remove, if_pos remove]
    simpa using compares_issue utils env (change_removeUser parm) locals locals fun _ => rfl
  · rw [if_neg remove, if_neg remove]
    exact ⟨rfl, .unknown rfl⟩

/-! ## Requests -/

/-- What a service copies back of its output, with its return code. -/
def AdminOutcome.reply {α : Type} (outcome : AdminOutcome α) (output : α → AdminOutput) :
    Option (Int × Option AdminOutput) :=
  outcome.result.map fun result => (result.1, result.2.map output)

/-- A request served by its commands. -/
def AdminRequest.serve : AdminRequest → Program radmin (Option (Int × Option AdminOutput))
  | .genres parm => do
    let outcome ← genresAdminCalls utils env parm
    pure (outcome.reply GenresAdminParmList.output)
  | .group parm => do
    let outcome ← groupAdminCalls utils env parm
    pure (outcome.reply GroupAdminParmList.output)

/-- The request with other flags. -/
def AdminRequest.withFlags (flags : BitVec 32) : AdminRequest → AdminRequest
  | .genres parm => .genres { parm with flags := flags }
  | .group parm => .group { parm with flags := flags }

/-- The changes for a request whose last command is given. -/
def AdminRequest.expectedChanges (command : Text) : AdminRequest → List Text
  | .genres parm =>
    Zss.Tss.expectedChanges utils env (parm.withOwner env.caller) env.className command
  | .group _ => [command]

/-- A dry run of a request changes nothing. Where it succeeds the run itself makes the changes that
end in the command it reports; else the run itself changes nothing. -/
structure DryRunFaithful (request : AdminRequest) (dryFlags realFlags : BitVec 32) : Prop where
  unchanged : changing (((request.withFlags dryFlags).serve utils env).asked
    env.radminRunRACFCommand) = []
  reported : ∀ output, ((request.withFlags dryFlags).serve utils env).eval
      env.radminRunRACFCommand = some (0, some output) →
    changing (((request.withFlags realFlags).serve utils env).asked env.radminRunRACFCommand) =
      request.expectedChanges utils env (reportedCommand output.operatorCommand)
  silent : (∀ output, ((request.withFlags dryFlags).serve utils env).eval
      env.radminRunRACFCommand ≠ some (0, some output)) →
    changing (((request.withFlags realFlags).serve utils env).asked env.radminRunRACFCommand) = []

/-- The flags of a request decide nothing but whether its commands are run: it is refused with any
flags, or comes to its function. -/
theorem genresAdminCalls_flags (parm : GenresAdminParmList) :
    (∃ rc, ∀ flags, genresAdminCalls utils env { parm with flags := flags } =
      pure (.refused rc)) ∨
    ∃ className, env.className = className ∧
      ∀ flags, genresAdminCalls utils env { parm with flags := flags } =
        runGenresAdminCalls utils env (parm.withOwner env.caller) className
          (hasFlag flags zisGroupAdminFlagDryrun)
          ⟨(parm.withOwner env.caller).output, env.stack, .zero, []⟩ >>=
            fun result => pure (genresOutcome
              { parm.withOwner env.caller with flags := flags } result) := by
  by_cases valid : validateGenresParmList parm ≠ rcZisGsadmnsrvOk
  · refine .inl ⟨validateGenresParmList parm, fun flags => ?_⟩
    have valid' : validateGenresParmList { parm with flags := flags } ≠ rcZisGsadmnsrvOk := valid
    rw [genresAdminCalls, if_pos valid']
    rfl
  have valid' (flags : BitVec 32) :
      ¬ validateGenresParmList { parm with flags := flags } ≠ rcZisGsadmnsrvOk := valid
  unfold genresAdminCalls
  simp only [if_neg (valid' _)]
  cases hcaller : env.secmgmtGetCallerUserID with
  | none => exact .inl ⟨_, fun flags => rfl⟩
  | some caller =>
    cases hclass : env.userClass with
    | error rc => exact .inl ⟨_, fun flags => rfl⟩
    | ok className =>
      dsimp only
      by_cases long : className.length > zisSecurityClassMaxLength
      · simp only [if_pos long]
        exact .inl ⟨_, fun flags => rfl⟩
      · simp only [if_neg long]
        refine .inr ⟨className, by simp [AdminEnv.className, hclass], fun flags => ?_⟩
        have caller' : env.caller = caller := by simp [AdminEnv.caller, hcaller]
        have owned : ({ parm with flags := flags } : GenresAdminParmList).withOwner caller =
            { parm.withOwner caller with flags := flags } := by
          unfold GenresAdminParmList.withOwner
          split <;> rfl
        rw [caller', owned]
        rfl

theorem groupAdminCalls_flags (parm : GroupAdminParmList) :
    (∃ rc, ∀ flags, groupAdminCalls utils env { parm with flags := flags } =
      pure (.refused rc)) ∨
    ∀ flags, groupAdminCalls utils env { parm with flags := flags } =
      runGroupAdminCalls utils env parm (hasFlag flags zisGroupAdminFlagDryrun)
        ⟨parm.output, zeroBuffer (tssServiceMsgMaxLen + 1), .zero, []⟩ >>=
          fun result => pure (groupOutcome { parm with flags := flags } result) := by
  by_cases valid : validateGroupParmList parm ≠ rcZisGrpasrvOk
  · refine .inl ⟨validateGroupParmList parm, fun flags => ?_⟩
    have valid' : validateGroupParmList { parm with flags := flags } ≠ rcZisGrpasrvOk := valid
    rw [groupAdminCalls, if_pos valid']
    rfl
  have valid' (flags : BitVec 32) :
      ¬ validateGroupParmList { parm with flags := flags } ≠ rcZisGrpasrvOk := valid
  unfold groupAdminCalls
  simp only [if_neg (valid' _)]
  cases hcaller : env.secmgmtGetCallerUserID with
  | none => exact .inl ⟨_, fun flags => rfl⟩
  | some caller => exact .inr fun flags => rfl

/-- Where a service refuses a request, both runs do nothing. -/
theorem faithful_of_refused {request : AdminRequest} {dryFlags realFlags : BitVec 32} {rc : Int}
    (dry : (request.withFlags dryFlags).serve utils env = pure (some (rc, none)))
    (real : (request.withFlags realFlags).serve utils env = pure (some (rc, none))) :
    DryRunFaithful utils env request dryFlags realFlags := by
  refine ⟨by rw [dry]; rfl, fun output h => ?_, fun _ => by rw [real]; rfl⟩
  rw [dry] at h
  cases h

/-- Where both runs come to their function, they compare as the functions do. -/
theorem faithful_of_compares {request : AdminRequest} {dryFlags realFlags : BitVec 32}
    {dryRun realRun : Program radmin (Option (Option Int × AdminLocals))}
    {dryReply realReply : Option (Option Int × AdminLocals) → Option (Int × Option AdminOutput)}
    {badFunction failed : Int} (isFailure : failed ≠ 0)
    (dry : (request.withFlags dryFlags).serve utils env =
      dryRun >>= fun result => pure (dryReply result))
    (real : (request.withFlags realFlags).serve utils env =
      realRun >>= fun result => pure (realReply result))
    (unknown : dryReply none = some (badFunction, none))
    (known : ∀ rc locals, dryReply (some (some rc, locals)) =
      some (if rc ≠ rcRadminOk then failed else 0, some (locals.finish rc)))
    (compares : changing (dryRun.asked env.radminRunRACFCommand) = [] ∧
      Compares (request.expectedChanges utils env · )
        (changing (realRun.asked env.radminRunRACFCommand))
        (dryRun.eval env.radminRunRACFCommand)) :
    DryRunFaithful utils env request dryFlags realFlags := by
  obtain ⟨unchanged, compares⟩ := compares
  have dryAsked : ((request.withFlags dryFlags).serve utils env).asked env.radminRunRACFCommand =
      dryRun.asked env.radminRunRACFCommand := by
    rw [dry]
    simp
  have realAsked : ((request.withFlags realFlags).serve utils env).asked
      env.radminRunRACFCommand = realRun.asked env.radminRunRACFCommand := by
    rw [real]
    simp
  have replied : ((request.withFlags dryFlags).serve utils env).eval env.radminRunRACFCommand =
      dryReply (dryRun.eval env.radminRunRACFCommand) := by
    rw [dry]
    simp
  refine ⟨by rw [dryAsked, unchanged], fun output h => ?_, fun h => ?_⟩
  · rw [replied] at h
    rw [realAsked]
    generalize dryRun.eval env.radminRunRACFCommand = result at compares h
    cases compares with
    | unknown none_made =>
      rw [unknown] at h
      cases h
    | failed bad none_made =>
      rw [known, if_pos bad] at h
      simp [isFailure] at h
    | reported command reports made =>
      rw [known, if_neg (not_not.mpr rfl)] at h
      obtain rfl : AdminLocals.finish _ rcRadminOk = output := by simpa using h
      rw [made]
      simp [AdminLocals.finish, reports]
  · rw [realAsked]
    have h (output : AdminOutput) : dryReply (dryRun.eval env.radminRunRACFCommand) ≠
        some (0, some output) := fun heq => h output (replied.trans heq)
    generalize dryRun.eval env.radminRunRACFCommand = result at compares h
    cases compares with
    | unknown none_made => exact none_made
    | failed bad none_made => exact none_made
    | @reported locals command reports made =>
      refine absurd ?_ (h (locals.finish rcRadminOk))
      rw [known, if_neg (not_not.mpr rfl)]

end

/-- **A dry run is the run it stands for, but for a revocation.** For every request and whatever the
database answers: a dry run changes nothing; the command it reports is the last change that the run
itself makes, and the only one unless the user has the profile already and is given access to it:
the run then first revokes, and makes the change reported only if that succeeds. -/
theorem dry_run_faithful (utils : Utils) (env : AdminEnv) (request : AdminRequest)
    {dryFlags realFlags : BitVec 32} (dry : hasFlag dryFlags zisGroupAdminFlagDryrun = true)
    (real : hasFlag realFlags zisGroupAdminFlagDryrun = false) :
    DryRunFaithful utils env request dryFlags realFlags := by
  cases request with
  | genres parm =>
    rcases genresAdminCalls_flags utils env parm with ⟨rc, refused⟩ | ⟨className, hclass, served⟩
    · have serves (flags : BitVec 32) : ((AdminRequest.genres parm).withFlags flags).serve utils
          env = pure (some (rc, none)) := by
        show (genresAdminCalls utils env { parm with flags := flags } >>= _) = _
        rw [refused]
        rfl
      exact faithful_of_refused utils env (serves dryFlags) (serves realFlags)
    · have serves (flags : BitVec 32) : ((AdminRequest.genres parm).withFlags flags).serve utils
          env = runGenresAdminCalls utils env (parm.withOwner env.caller) className
            (hasFlag flags zisGroupAdminFlagDryrun)
            ⟨(parm.withOwner env.caller).output, env.stack, .zero, []⟩ >>= fun result =>
              pure ((genresOutcome { parm.withOwner env.caller with flags := flags } result).reply
                GenresAdminParmList.output) := by
        show (genresAdminCalls utils env { parm with flags := flags } >>= _) = _
        rw [served, Program.bind_assoc]
        rfl
      have failed : rcZisGsadmnsrvInternalServiceFailed ≠ 0 := by decide
      refine faithful_of_compares utils env failed (serves dryFlags) (serves realFlags) rfl
        (fun rc locals => rfl) ?_
      rw [dry, real, ← hclass]
      exact compares_genres utils env (parm.withOwner env.caller) env.className _
  | group parm =>
    rcases groupAdminCalls_flags utils env parm with ⟨rc, refused⟩ | served
    · have serves (flags : BitVec 32) : ((AdminRequest.group parm).withFlags flags).serve utils
          env = pure (some (rc, none)) := by
        show (groupAdminCalls utils env { parm with flags := flags } >>= _) = _
        rw [refused]
        rfl
      exact faithful_of_refused utils env (serves dryFlags) (serves realFlags)
    · have serves (flags : BitVec 32) : ((AdminRequest.group parm).withFlags flags).serve utils
          env = runGroupAdminCalls utils env parm (hasFlag flags zisGroupAdminFlagDryrun)
            ⟨parm.output, zeroBuffer (tssServiceMsgMaxLen + 1), .zero, []⟩ >>= fun result =>
              pure ((groupOutcome { parm with flags := flags } result).reply
                GroupAdminParmList.output) := by
        show (groupAdminCalls utils env { parm with flags := flags } >>= _) = _
        rw [served, Program.bind_assoc]
        rfl
      have failed : rcZisGrpasrvInternalServiceFailed ≠ 0 := by decide
      refine faithful_of_compares utils env failed (serves dryFlags) (serves realFlags) rfl
        (fun rc locals => rfl) ?_
      rw [dry, real]
      exact compares_group utils env parm _

/-- Surroundings in which the user has the profile already, and every command succeeds. -/
def permittedAdminEnv : AdminEnv where
  secmgmtGetCallerUserID := some ⟨5, ['A', 'D', 'M', 'I', 'N', ' ', ' ', ' ']⟩
  userClass := .ok ['Z', 'O', 'W', 'E', 'C', 'L', 'S']
  nullTerminate text := text
  stack := []
  radminRunRACFCommand command :=
    if command = userListCommand ⟨4, ['U', 'S', 'E', 'R']⟩ then
      ⟨⟨0, 0, 0⟩, 0,
        [⟨[['X', 'A', ' ', 'Z', 'O', 'W', 'E', 'C', 'L', 'S', ' ', '=', ' ', 'Z', 'O', 'W', 'E',
          '.', 'A', ' ', ' ', 'O', 'W', 'N', 'E', 'R', '(', 'J', 'O', 'E', ')']], by decide⟩], id⟩
    else
      ⟨⟨0, 0, 0⟩, 0, [⟨[['T', 'S', 'S', '0', '3', '0', '0', 'I', ' ', ' ']], by decide⟩], id⟩

theorem dry_run_faithful_sample :
    DryRunFaithful .plain permittedAdminEnv
      (sampleAdminRequest 2 ['Z', 'O', 'W', 'E', '.', 'A']) 1#32 0#32 :=
  dry_run_faithful .plain permittedAdminEnv _ (by decide) (by decide)

/-- A user who has the profile already is given access to it: the dry run reports the permission
alone, and the run itself first revokes. -/
theorem dry_run_without_revoke :
    let request := sampleAdminRequest 2 ['Z', 'O', 'W', 'E', '.', 'A']
    let run := permittedAdminEnv.radminRunRACFCommand
    (((request.withFlags 1#32).serve .plain permittedAdminEnv).eval run).map
        (fun reply => (reply.1, reply.2.map fun output => reportedCommand output.operatorCommand)) =
      some (0, some
        ['T', 'S', 'S', ' ', 'P', 'E', 'R', 'M', 'I', 'T', '(', 'U', 'S', 'E', 'R', ')', ' ', 'Z',
          'O', 'W', 'E', 'C', 'L', 'S', '(', 'Z', 'O', 'W', 'E', '.', 'A', ')', ' ', 'A', 'C', 'C',
          'E', 'S', 'S', '(', 'R', 'E', 'A', 'D', ')']) ∧
      changing (((request.withFlags 0#32).serve .plain permittedAdminEnv).asked run) =
        [['T', 'S', 'S', ' ', 'R', 'E', 'V', 'O', 'K', 'E', '(', 'U', 'S', 'E', 'R', ')', ' ', 'Z',
            'O', 'W', 'E', 'C', 'L', 'S', '(', 'Z', 'O', 'W', 'E', '.', 'A', ')'],
          ['T', 'S', 'S', ' ', 'P', 'E', 'R', 'M', 'I', 'T', '(', 'U', 'S', 'E', 'R', ')', ' ', 'Z',
            'O', 'W', 'E', 'C', 'L', 'S', '(', 'Z', 'O', 'W', 'E', '.', 'A', ')', ' ', 'A', 'C',
            'C', 'E', 'S', 'S', '(', 'R', 'E', 'A', 'D', ')']] := by
  decide +kernel

end Zss.Tss
