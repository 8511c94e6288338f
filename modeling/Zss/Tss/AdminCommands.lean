import Mathlib.Data.List.TakeWhile
import Zss.Tss.Admin

/-!
# The commands of the administration services

A command is to have the clauses of its request: `AdminRequest.clauses`. `issued_parsed_iff` says
of every command issued when its text is read as these clauses: when no field ends an operand early,
and when, in a definition or a deletion, the fields leave room for the closing parenthesis. The
other buffers have room for every request that is validated.

## What is not established

What TSS does with a command: `parseCommand` is the grammar it is read by, and there the development
ends. A command that is not issued is not judged.
-/

namespace Zss.Tss

open Zss.Lib (hasFlag)
open Zss.Lib.KeywordText

/-! ## What a request asks for -/

inductive AdminRequest where
  | genres (parm : GenresAdminParmList)
  | group (parm : GroupAdminParmList)

def tssName : Text := ['T', 'S', 'S']

/-- A clause with one operand. -/
def clause (word value : Text) : Clause := ⟨word, .operands [value]⟩

def genresClauses (parm : GenresAdminParmList) (className ownerName : Text) :
    AdminCommand → List Clause
  | .permit =>
    [clause ['P', 'E', 'R', 'M', 'I', 'T'] parm.user.text, clause className parm.profile.text,
      clause ['A', 'C', 'C', 'E', 'S', 'S'] (accessString parm.accessType)]
  | .revoke =>
    [clause ['R', 'E', 'V', 'O', 'K', 'E'] parm.user.text, clause className parm.profile.text]
  | .define => [clause ['A', 'D', 'D', 'T', 'O'] parm.owner.text, clause className parm.profile.text]
  | .delete => [clause ['R', 'E', 'M', 'O', 'V', 'E'] ownerName, clause className parm.profile.text]
  | _ => []

def groupClauses (parm : GroupAdminParmList) : AdminCommand → List Clause
  | .createGroup =>
    [clause ['C', 'R', 'E', 'A', 'T', 'E'] parm.group.text,
      ⟨['N', 'A', 'M', 'E'], .quoted parm.group.text⟩,
      clause ['T', 'Y', 'P', 'E'] ['P', 'R', 'O', 'F', 'I', 'L', 'E'],
      clause ['D', 'E', 'P', 'A', 'R', 'T', 'M', 'E', 'N', 'T'] parm.superiorGroup.text]
  | .deleteGroup => [clause ['D', 'E', 'L', 'E', 'T', 'E'] parm.group.text]
  | .connectUser =>
    [clause ['A', 'D', 'D', 'T', 'O'] parm.user.text,
      clause ['G', 'R', 'O', 'U', 'P'] parm.group.text]
  | .removeUser =>
    [clause ['R', 'E', 'M', 'O', 'V', 'E'] parm.user.text,
      clause ['G', 'R', 'O', 'U', 'P'] parm.group.text]
  | _ => []

/-- The fields that a command about a profile takes. -/
def genresFields (parm : GenresAdminParmList) (className ownerName : Text) :
    AdminCommand → List Text
  | .permit | .revoke => [parm.user.text, className, parm.profile.text]
  | .define => [parm.owner.text, className, parm.profile.text]
  | .delete => [ownerName, className, parm.profile.text]
  | _ => []

/-- The fields that a command about a group takes. -/
def groupFields (parm : GroupAdminParmList) : AdminCommand → List Text
  | .createGroup => [parm.group.text, parm.superiorGroup.text]
  | .deleteGroup => [parm.group.text]
  | .connectUser | .removeUser => [parm.user.text, parm.group.text]
  | _ => []

section

variable (utils : Utils) (env : AdminEnv)

def AdminEnv.caller : CountedText := env.secmgmtGetCallerUserID.getD ⟨0, []⟩

def AdminEnv.className : Text :=
  match env.userClass with
  | .ok className => className
  | .error _ => []

/-- The owner that Top Secret lists for a profile. -/
def listedOwner (parm : GenresAdminParmList) : Text :=
  let run := env.radminRunRACFCommand (whoownsCommand env.className parm.profile)
  ownerNameOf env (getGenresProfileOwnerHandler utils run.apiStatus run.output).2

/-- The commands a request has issued. -/
def AdminRequest.issued : AdminRequest → List (AdminCommand × Text)
  | .genres parm => (zisGenresProfileAdminServiceFunctionTSS utils env (some parm)).issued
  | .group parm => (zisGroupAdminServiceFunctionTSS utils env (some parm)).issued

/-- The clauses a command is to have for a request. -/
def AdminRequest.clauses (command : AdminCommand) : AdminRequest → List Clause
  | .genres parm =>
    genresClauses (parm.withOwner env.caller) env.className (listedOwner utils env parm) command
  | .group parm => groupClauses parm command

/-- The fields of a request that a command takes. -/
def AdminRequest.fields (command : AdminCommand) : AdminRequest → List Text
  | .genres parm =>
    genresFields (parm.withOwner env.caller) env.className (listedOwner utils env parm) command
  | .group parm => groupFields parm command

end

/-- The buffer of a definition or a deletion holds fields of 270 characters together, one less than
a request may have. -/
def HasRoom (command : AdminCommand) (fields : List Text) : Prop :=
  command = .define ∨ command = .delete → fields.flatten.length ≤ 270

/-! ## What the handlers print -/

theorem takeWhile_of_clean {word : Text} (h : CleanWord word) :
    word.takeWhile (· ≠ nul) = word := by
  apply List.takeWhile_eq_self_iff.mpr
  intro c hc
  have hclean := h c hc
  apply decide_eq_true
  rintro rfl
  revert hclean
  decide

theorem printed_of_clean {field : CountedText} (h : CleanWord field.text) :
    field.printed = field.text :=
  takeWhile_of_clean h

theorem printedString_of_clean {word : Text} (h : CleanWord word) : printedString word = word :=
  takeWhile_of_clean h

theorem isQuotable_of_clean {word : Text} (h : CleanWord word) :
    ∀ c ∈ word, isQuotable c = true := by
  intro c hc
  have hclean := h c hc
  simp only [isDelimiter, Bool.or_eq_false_iff, decide_eq_false_iff_not] at hclean
  exact decide_eq_true ⟨hclean.1.2, hclean.2⟩

theorem clause_clean {word value : Text} :
    (clause word value).Clean ↔ CleanWord word ∧ CleanWord value := by
  simp [clause, Clause.Clean, Value.Clean]

/-- The access types have names without delimiters. -/
theorem accessString_clean (accessType : Int) : CleanWord (accessString accessType) := by
  unfold accessString getAccessString
  split
  next => decide
  next =>
    split
    next => decide
    next =>
      split
      next => decide
      next =>
        split
        next => decide
        next => decide

theorem length_accessString_le (accessType : Int) : (accessString accessType).length ≤ 6 := by
  unfold accessString getAccessString
  split
  next => decide
  next =>
    split
    next => decide
    next =>
      split
      next => decide
      next =>
        split
        next => decide
        next => decide

/-- The size of the buffer of a command about a profile, and the text printed into it. -/
def genresPrinted (parm : GenresAdminParmList) (className ownerName : Text) :
    AdminCommand → Option (Nat × Text)
  | .permit => some (tssPrfAccessListAdminPermitMaxLen, permitCommand parm className)
  | .revoke => some (tssPrfAccessListAdminRevokeMaxLen, revokeCommand parm className)
  | .define => some (tssPrfAdminAddMaxLen, defineCommand parm className)
  | .delete => some (tssPrfAdminDelMaxLen, deleteCommand parm className ownerName)
  | _ => none

/-- The same of a command about a group. -/
def groupPrinted (parm : GroupAdminParmList) : AdminCommand → Option (Nat × Text)
  | .createGroup => some (tssGrpAdminAddMaxLen + 1, createGroupCommand parm)
  | .deleteGroup => some (tssGrpAdminDelMaxLen + 1, deleteGroupCommand parm)
  | .connectUser => some (tssGrpAdminAddConMaxLen + 1, connectUserCommand parm)
  | .removeUser => some (tssGrpAdminRemConMaxLen + 1, removeUserCommand parm)
  | _ => none

section

variable {parm : GenresAdminParmList} {groupParm : GroupAdminParmList}
  {className ownerName text : Text} {command : AdminCommand} {size : Nat}

theorem genresClauses_clean (hprinted : genresPrinted parm className ownerName command =
    some (size, text)) :
    (∀ clause ∈ genresClauses parm className ownerName command, clause.Clean) ↔
      ∀ field ∈ genresFields parm className ownerName command, CleanWord field := by
  have haccess := accessString_clean parm.accessType
  have hpermit : CleanWord ['P', 'E', 'R', 'M', 'I', 'T'] := by decide
  have hrevoke : CleanWord ['R', 'E', 'V', 'O', 'K', 'E'] := by decide
  have haddto : CleanWord ['A', 'D', 'D', 'T', 'O'] := by decide
  have hremove : CleanWord ['R', 'E', 'M', 'O', 'V', 'E'] := by decide
  have hword : CleanWord ['A', 'C', 'C', 'E', 'S', 'S'] := by decide
  cases command <;> cases hprinted <;>
    simp only [genresClauses, genresFields, List.forall_mem_cons, clause_clean, List.not_mem_nil,
      false_implies, implies_true, and_true, true_and, haccess, hpermit, hrevoke, haddto, hremove,
      hword]

theorem groupClauses_clean (hprinted : groupPrinted groupParm command = some (size, text)) :
    (∀ clause ∈ groupClauses groupParm command, clause.Clean) ↔
      ∀ field ∈ groupFields groupParm command, CleanWord field := by
  have hcreate : CleanWord ['C', 'R', 'E', 'A', 'T', 'E'] := by decide
  have hname : CleanWord ['N', 'A', 'M', 'E'] := by decide
  have htype : CleanWord ['T', 'Y', 'P', 'E'] := by decide
  have hprofile : CleanWord ['P', 'R', 'O', 'F', 'I', 'L', 'E'] := by decide
  have hdepartment : CleanWord ['D', 'E', 'P', 'A', 'R', 'T', 'M', 'E', 'N', 'T'] := by decide
  have hdelete : CleanWord ['D', 'E', 'L', 'E', 'T', 'E'] := by decide
  have haddto : CleanWord ['A', 'D', 'D', 'T', 'O'] := by decide
  have hremove : CleanWord ['R', 'E', 'M', 'O', 'V', 'E'] := by decide
  have hgroup : CleanWord ['G', 'R', 'O', 'U', 'P'] := by decide
  have hquoted : CleanWord groupParm.group.text → ∀ c ∈ groupParm.group.text, isQuotable c = true :=
    isQuotable_of_clean
  cases command <;> cases hprinted <;>
    simp only [groupClauses, groupFields, List.forall_mem_cons, clause_clean, List.not_mem_nil,
      false_implies, implies_true, and_true, true_and, hcreate, htype, hprofile, hdepartment,
      hdelete, haddto, hremove, hgroup]
  case createGroup =>
    constructor
    · rintro ⟨h, -, hsuperior⟩
      exact ⟨h, hsuperior⟩
    · rintro ⟨h, hsuperior⟩
      exact ⟨h, ⟨hname, hquoted h⟩, hsuperior⟩

/-- Clean fields are printed as the clauses. -/
theorem genresPrinted_eq (hprinted : genresPrinted parm className ownerName command =
    some (size, text))
    (h : ∀ field ∈ genresFields parm className ownerName command, CleanWord field) :
    text = tssName ++ clausesText (genresClauses parm className ownerName command) := by
  cases command <;> cases hprinted <;>
    simp only [genresFields, List.forall_mem_cons, List.not_mem_nil, false_implies, implies_true,
      and_true] at h <;>
    simp [permitCommand, revokeCommand, defineCommand, deleteCommand, genresClauses, clause,
      clausesText, Clause.text, Value.text, joinWords, tssName, h, printed_of_clean,
      printedString_of_clean]

theorem groupPrinted_eq (hprinted : groupPrinted groupParm command = some (size, text))
    (h : ∀ field ∈ groupFields groupParm command, CleanWord field) :
    text = tssName ++ clausesText (groupClauses groupParm command) := by
  cases command <;> cases hprinted <;>
    simp only [groupFields, List.forall_mem_cons, List.not_mem_nil, false_implies, implies_true,
      and_true] at h <;>
    simp [createGroupCommand, deleteGroupCommand, connectUserCommand, removeUserCommand,
      groupClauses, clause, clausesText, Clause.text, Value.text, joinWords, tssName, quote, h,
      printed_of_clean]

/-- **Room.** The clauses of a validated request fit the buffer of their command when it has room
for the fields. -/
theorem genresPrinted_fits (hprinted : genresPrinted parm className ownerName command =
    some (size, text))
    (huser : parm.user.text.length ≤ 8) (hclass : className.length ≤ 8)
    (hprofile : parm.profile.text.length ≤ 255) :
    (tssName ++ clausesText (genresClauses parm className ownerName command)).length ≤ size - 1 ↔
      HasRoom command (genresFields parm className ownerName command) := by
  have haccess := length_accessString_le parm.accessType
  cases command <;> cases hprinted <;>
    simp [genresClauses, genresFields, clause, clausesText, Clause.text, Value.text, joinWords,
      tssName, HasRoom, tssPrfAccessListAdminPermitMaxLen, tssPrfAccessListAdminRevokeMaxLen,
      tssPrfAdminAddMaxLen, tssPrfAdminDelMaxLen] <;>
    omega

theorem groupPrinted_fits (hprinted : groupPrinted groupParm command = some (size, text))
    (hgroup : groupParm.group.text.length ≤ 8) (huser : groupParm.user.text.length ≤ 8)
    (hsuperior : groupParm.superiorGroup.text.length ≤ 8) :
    (tssName ++ clausesText (groupClauses groupParm command)).length ≤ size - 1 ↔
      HasRoom command (groupFields groupParm command) := by
  cases command <;> cases hprinted <;>
    simp [groupClauses, clause, clausesText, Clause.text, Value.text, joinWords, tssName, HasRoom,
      tssGrpAdminAddMaxLen, tssGrpAdminDelMaxLen, tssGrpAdminAddConMaxLen,
      tssGrpAdminRemConMaxLen] <;>
    omega

end

/-- A text printed into its buffer is read as clauses when their fields are clean and they fit. -/
theorem parse_snprintf_iff (size : Nat) {text : Text} {clauses : List Clause} {fields : List Text}
    (hclean : (∀ clause ∈ clauses, clause.Clean) ↔ ∀ field ∈ fields, CleanWord field)
    (hprint : (∀ field ∈ fields, CleanWord field) → text = tssName ++ clausesText clauses) :
    parseCommand tssName (snprintf size text) = some clauses ↔
      (∀ field ∈ fields, CleanWord field) ∧
        (tssName ++ clausesText clauses).length ≤ size - 1 := by
  constructor
  · intro h
    have hfields := hclean.mp (parseCommand_sound h).1
    rw [snprintf, hprint hfields] at h
    exact ⟨hfields, (parseCommand_take_iff tssName _ (hclean.mpr hfields)).mp h⟩
  · rintro ⟨hfields, hsize⟩
    rw [snprintf, hprint hfields]
    exact (parseCommand_take_iff tssName _ (hclean.mpr hfields)).mpr hsize

/-! ## What is issued -/

section

variable {utils : Utils} {env : AdminEnv} {parm : GenresAdminParmList}
  {groupParm : GroupAdminParmList} {isDryRun : Bool} {locals locals' : AdminLocals}
  {command : AdminCommand} {className text : Text}

/-- A text is what a buffer takes of what is printed into it. -/
def IsPrinted (printed : Option (Nat × Text)) (text : Text) : Prop :=
  ∃ size whole, printed = some (size, whole) ∧ text = snprintf size whole

@[simp] theorem executeAdminCommand_issued (operatorCommand : Text) :
    (executeAdminCommand utils env operatorCommand locals).2.issued = locals.issued := by
  unfold executeAdminCommand
  dsimp only
  split
  next => rfl
  next => split <;> split <;> rfl

@[simp] theorem issueCommand_issued (size : Nat) (whole : Text) :
    (issueCommand utils env isDryRun command size whole locals).2.issued =
      locals.issued ++ [(command, snprintf size whole)] := by
  unfold issueCommand
  dsimp only
  split
  next => rfl
  next => exact executeAdminCommand_issued _

/-- Giving access issues a permission, after a revocation or alone. -/
theorem giveAccess_issued (hlocals : locals.issued = [])
    (h : (command, text) ∈ (giveAccess utils env parm className isDryRun locals).2.issued)
    (ownerName : Text) : IsPrinted (genresPrinted parm className ownerName command) text := by
  have hpermit : IsPrinted (genresPrinted parm className ownerName .permit)
      (snprintf tssPrfAccessListAdminPermitMaxLen (permitCommand parm className)) :=
    ⟨_, _, rfl, rfl⟩
  have hrevoke : IsPrinted (genresPrinted parm className ownerName .revoke)
      (snprintf tssPrfAccessListAdminRevokeMaxLen (revokeCommand parm className)) :=
    ⟨_, _, rfl, rfl⟩
  unfold giveAccess at h
  dsimp only at h
  split at h
  next => simp [hlocals] at h
  next =>
    split at h
    next =>
      rw [handlePermitAccess, issueCommand_issued, hlocals, List.nil_append,
        List.mem_singleton] at h
      cases h
      exact hpermit
    next =>
      split at h
      next rc after hrevoked =>
        have hissued : after.issued = _ := (congrArg (·.2.issued) hrevoked).symm
        rw [handleRevokeAccess, issueCommand_issued, hlocals, List.nil_append] at hissued
        split at h
        next =>
          rw [handlePermitAccess, issueCommand_issued, hissued, List.singleton_append,
            List.mem_cons, List.mem_singleton] at h
          rcases h with h | h
          · cases h
            exact hrevoke
          · cases h
            exact hpermit
        next =>
          rw [hissued, List.mem_singleton] at h
          cases h
          exact hrevoke
      next after hrevoked =>
        have hissued : after.issued = _ := (congrArg (·.2.issued) hrevoked).symm
        rw [handleRevokeAccess, issueCommand_issued, hlocals, List.nil_append] at hissued
        rw [hissued, List.mem_singleton] at h
        cases h
        exact hrevoke

theorem deleteProfile_issued (hlocals : locals.issued = [])
    (h : (command, text) ∈ (deleteProfile utils env parm className isDryRun locals).2.issued) :
    IsPrinted (genresPrinted parm className
      (ownerNameOf env (getGenresProfileOwnerHandler utils
        (env.radminRunRACFCommand (whoownsCommand className parm.profile)).apiStatus
        (env.radminRunRACFCommand (whoownsCommand className parm.profile)).output).2) command)
      text := by
  unfold deleteProfile at h
  dsimp only at h
  split at h
  next => simp [hlocals] at h
  next =>
    rw [handleDeleteProfile, issueCommand_issued, hlocals, List.nil_append,
      List.mem_singleton] at h
    cases h
    exact ⟨_, _, rfl, rfl⟩

theorem runGenresAdmin_issued {rc : Option Int} (hlocals : locals.issued = [])
    (hrun : runGenresAdmin utils env parm className isDryRun locals = some (rc, locals'))
    (h : (command, text) ∈ locals'.issued) :
    IsPrinted (genresPrinted parm className
      (ownerNameOf env (getGenresProfileOwnerHandler utils
        (env.radminRunRACFCommand (whoownsCommand className parm.profile)).apiStatus
        (env.radminRunRACFCommand (whoownsCommand className parm.profile)).output).2) command)
      text := by
  unfold runGenresAdmin at hrun
  split at hrun
  next =>
    have hissued := congrArg (·.2.issued) (Option.some.inj hrun)
    exact giveAccess_issued hlocals (hissued ▸ h) _
  next =>
    split at hrun
    next =>
      have hissued := congrArg (·.2.issued) (Option.some.inj hrun)
      rw [← hissued, handleRevokeAccess, issueCommand_issued, hlocals, List.nil_append,
        List.mem_singleton] at h
      cases h
      exact ⟨_, _, rfl, rfl⟩
    next =>
      split at hrun
      next =>
        have hissued := congrArg (·.2.issued) (Option.some.inj hrun)
        rw [← hissued, handleDefineProfile, issueCommand_issued, hlocals, List.nil_append,
          List.mem_singleton] at h
        cases h
        exact ⟨_, _, rfl, rfl⟩
      next =>
        split at hrun
        next =>
          have hissued := congrArg (·.2.issued) (Option.some.inj hrun)
          exact deleteProfile_issued hlocals (hissued ▸ h)
        next => cases hrun

theorem runGroupAdmin_issued {rc : Option Int} (hlocals : locals.issued = [])
    (hrun : runGroupAdmin utils env groupParm isDryRun locals = some (rc, locals'))
    (h : (command, text) ∈ locals'.issued) : IsPrinted (groupPrinted groupParm command) text := by
  unfold runGroupAdmin at hrun
  have hone {c : AdminCommand} {size : Nat} {whole : Text}
      (hrun : some (issueCommand utils env isDryRun c size whole locals) = some (rc, locals'))
      (hprinted : groupPrinted groupParm c = some (size, whole)) :
      IsPrinted (groupPrinted groupParm command) text := by
    have hissued := congrArg (·.2.issued) (Option.some.inj hrun)
    rw [← hissued, issueCommand_issued, hlocals, List.nil_append, List.mem_singleton] at h
    cases h
    exact ⟨_, _, hprinted, rfl⟩
  split at hrun
  next => exact hone hrun rfl
  next =>
    split at hrun
    next => exact hone hrun rfl
    next =>
      split at hrun
      next => exact hone hrun rfl
      next =>
        split at hrun
        next => exact hone hrun rfl
        next => cases hrun

theorem length_text_le (field : CountedText) : field.text.length ≤ field.length :=
  List.length_take_le _ _

/-- What the validator says of a parm list it accepts. -/
structure GenresAccepted (parm : GenresAdminParmList) : Prop where
  function : 0 ≤ parm.function ∧ parm.function ≤ 3
  profile : parm.profile.length ≤ 255
  owner : parm.owner.length ≤ 8
  user : parm.user.length ≤ 8
  accessType : parm.function = zisGenresAdminSrvFcGiveAccess →
    0 ≤ parm.accessType ∧ parm.accessType ≤ 3

theorem validateGenresParmList_ok (h : validateGenresParmList parm = rcZisGsadmnsrvOk) :
    GenresAccepted parm := by
  unfold validateGenresParmList at h
  split at h
  next => cases h
  next =>
    split at h
    next => cases h
    next hfunction =>
      split at h
      next => cases h
      next hprofile =>
        split at h
        next => cases h
        next howner =>
          split at h
          next => cases h
          next =>
            split at h
            next => cases h
            next huser =>
              split at h
              next => cases h
              next haccess =>
                refine ⟨by omega, Nat.le_of_not_gt hprofile, Nat.le_of_not_gt howner,
                  Nat.le_of_not_gt huser, ?_⟩
                intro hgive
                have := not_and.mp haccess hgive
                omega

/-- What the validator says of a parm list it accepts. -/
structure GroupAccepted (parm : GroupAdminParmList) : Prop where
  function : 0 ≤ parm.function ∧ parm.function ≤ 3
  group : parm.group.length ≤ 8
  superiorGroup : parm.superiorGroup.length ≤ 8
  user : parm.user.length ≤ 8
  accessType : parm.function = zisGroupAdminSrvFcConnectUser →
    0 ≤ parm.accessType ∧ parm.accessType ≤ 3

theorem validateGroupParmList_ok (h : validateGroupParmList groupParm = rcZisGrpasrvOk) :
    GroupAccepted groupParm := by
  unfold validateGroupParmList at h
  split at h
  next => cases h
  next =>
    split at h
    next => cases h
    next hfunction =>
      split at h
      next => cases h
      next hgroup =>
        split at h
        next => cases h
        next hsuperior =>
          split at h
          next => cases h
          next =>
            split at h
            next => cases h
            next huser =>
              split at h
              next => cases h
              next haccess =>
                refine ⟨by omega, Nat.le_of_not_gt hgroup, Nat.le_of_not_gt hsuperior,
                  Nat.le_of_not_gt huser, ?_⟩
                intro hconnect
                have := not_and.mp haccess hconnect
                omega

@[simp] theorem withOwner_profile (caller : CountedText) :
    (parm.withOwner caller).profile = parm.profile := by
  unfold GenresAdminParmList.withOwner
  split <;> rfl

@[simp] theorem withOwner_user (caller : CountedText) :
    (parm.withOwner caller).user = parm.user := by
  unfold GenresAdminParmList.withOwner
  split <;> rfl

/-- What a call about a profile issues it prints, for a request that is validated. -/
theorem genres_issued
    (h : (command, text) ∈ (zisGenresProfileAdminServiceFunctionTSS utils env (some parm)).issued) :
    IsPrinted (genresPrinted (parm.withOwner env.caller) env.className
        (listedOwner utils env parm) command) text ∧
      parm.profile.length ≤ 255 ∧ parm.user.length ≤ 8 ∧ env.className.length ≤ 8 := by
  unfold zisGenresProfileAdminServiceFunctionTSS at h
  dsimp only at h
  split at h
  next => cases h
  next hvalid =>
    split at h
    next => cases h
    next caller hcaller =>
      split at h
      next => cases h
      next className hclass =>
        split at h
        next => cases h
        next hlength =>
          have hbounds := validateGenresParmList_ok (not_not.mp hvalid)
          have hcallerEq : env.caller = caller := by rw [AdminEnv.caller, hcaller]; rfl
          have hclassEq : env.className = className := by rw [AdminEnv.className, hclass]
          have hle : env.className.length ≤ 8 := by
            rw [hclassEq]
            exact Nat.le_of_not_gt hlength
          have hprinted {rc : Option Int} {locals : AdminLocals}
              (hrun : runGenresAdmin utils env (parm.withOwner caller) className
                (hasFlag (parm.withOwner caller).flags zisGroupAdminFlagDryrun)
                ⟨(parm.withOwner caller).output, env.stack, .zero, []⟩ = some (rc, locals))
              (h : (command, text) ∈ locals.issued) :
              IsPrinted (genresPrinted (parm.withOwner env.caller) env.className
                (listedOwner utils env parm) command) text := by
            have hissued := runGenresAdmin_issued rfl hrun h
            rwa [withOwner_profile, ← hclassEq, ← hcallerEq] at hissued
          split at h
          next => cases h
          next locals hrun => exact ⟨hprinted hrun h, hbounds.profile, hbounds.user, hle⟩
          next rc locals hrun => exact ⟨hprinted hrun h, hbounds.profile, hbounds.user, hle⟩

theorem group_issued
    (h : (command, text) ∈ (zisGroupAdminServiceFunctionTSS utils env (some groupParm)).issued) :
    IsPrinted (groupPrinted groupParm command) text ∧ groupParm.group.length ≤ 8 ∧
      groupParm.superiorGroup.length ≤ 8 ∧ groupParm.user.length ≤ 8 := by
  unfold zisGroupAdminServiceFunctionTSS at h
  dsimp only at h
  split at h
  next => cases h
  next hvalid =>
    have hbounds := validateGroupParmList_ok (not_not.mp hvalid)
    split at h
    next => cases h
    next =>
      split at h
      next => cases h
      next hrun =>
        exact ⟨runGroupAdmin_issued rfl hrun h, hbounds.group, hbounds.superiorGroup, hbounds.user⟩
      next hrun =>
        exact ⟨runGroupAdmin_issued rfl hrun h, hbounds.group, hbounds.superiorGroup, hbounds.user⟩

end

/-- **Commands are read as asked.** A command issued is read as the clauses of its request exactly
when no field it takes contains a delimiter and, in a definition or a deletion, the fields have at
most 270 characters together. -/
theorem issued_parsed_iff (utils : Utils) (env : AdminEnv) (request : AdminRequest)
    {command : AdminCommand} {text : Text} (h : (command, text) ∈ request.issued utils env) :
    parseCommand tssName text = some (request.clauses utils env command) ↔
      (∀ field ∈ request.fields utils env command, CleanWord field) ∧
        HasRoom command (request.fields utils env command) := by
  cases request with
  | genres parm =>
    obtain ⟨⟨size, whole, hprinted, rfl⟩, hprofile, huser, hclass⟩ := genres_issued h
    have hfits := genresPrinted_fits hprinted
      (by rw [withOwner_user]; exact Nat.le_trans (length_text_le _) huser) hclass
      (by rw [withOwner_profile]; exact Nat.le_trans (length_text_le _) hprofile)
    have hparse := parse_snprintf_iff size (genresClauses_clean hprinted)
      (genresPrinted_eq hprinted)
    rw [hfits] at hparse
    exact hparse
  | group parm =>
    obtain ⟨⟨size, whole, hprinted, rfl⟩, hgroup, hsuperior, huser⟩ := group_issued h
    have hfits := groupPrinted_fits hprinted (Nat.le_trans (length_text_le _) hgroup)
      (Nat.le_trans (length_text_le _) huser) (Nat.le_trans (length_text_le _) hsuperior)
    have hparse := parse_snprintf_iff size (groupClauses_clean hprinted)
      (groupPrinted_eq hprinted)
    rw [hfits] at hparse
    exact hparse

/-- Surroundings in which no command of a dry run is run. -/
def sampleAdminEnv : AdminEnv where
  secmgmtGetCallerUserID := some ⟨5, ['A', 'D', 'M', 'I', 'N', ' ', ' ', ' ']⟩
  userClass := .ok ['Z', 'O', 'W', 'E', 'C', 'L', 'A', 'S']
  nullTerminate text := text
  stack := []
  radminRunRACFCommand _ := ⟨⟨0, 0, 0⟩, 0, [], id⟩

def zeroAdminOutput : AdminOutput := ⟨0, 0, ⟨0, 0, 0⟩, ⟨0, []⟩, ⟨0, []⟩⟩

/-- A dry run for a profile, with an owner of eight characters. -/
def sampleAdminRequest (function : Int) (profile : Text) : AdminRequest :=
  .genres
    { eyecatcher := zisGenresAdminServiceParmlistEyecatcher
      flags := zisGroupAdminFlagDryrun
      function := function
      profile := ⟨profile.length, profile⟩
      owner := ⟨8, ['O', 'W', 'N', 'E', 'R', 'A', 'B', 'C']⟩
      user := ⟨4, ['U', 'S', 'E', 'R']⟩
      accessType := 0
      output := zeroAdminOutput }

theorem issued_parsed_iff_sample :
    (parseCommand tssName ['T', 'S', 'S', ' ', 'R', 'E', 'V', 'O', 'K', 'E', '(', 'U', 'S', 'E',
        'R', ')', ' ', 'Z', 'O', 'W', 'E', 'C', 'L', 'A', 'S', '(', 'Z', 'O', 'W', 'E', '.', 'A',
        ')'] =
      some ((sampleAdminRequest 3 ['Z', 'O', 'W', 'E', '.', 'A']).clauses .plain sampleAdminEnv
        .revoke)) ↔
      (∀ field ∈ (sampleAdminRequest 3 ['Z', 'O', 'W', 'E', '.', 'A']).fields .plain
        sampleAdminEnv .revoke, CleanWord field) ∧
        HasRoom .revoke ((sampleAdminRequest 3 ['Z', 'O', 'W', 'E', '.', 'A']).fields .plain
          sampleAdminEnv .revoke) :=
  issued_parsed_iff .plain sampleAdminEnv _ (by decide +kernel)

/-- A parenthesis in a profile adds a clause to a permission that is revoked, and the longest
definition loses its last parenthesis. -/
theorem spliced_and_cut_commands :
    (∃ issue ∈ (sampleAdminRequest 3 ['Z', 'O', 'W', 'E', '.', 'A', ')', ' ', 'D', 'A', 'T', 'A',
        'S', 'E', 'T', '(', 'S', 'Y', 'S', '1']).issued .plain sampleAdminEnv,
      parseCommand tssName issue.2 =
          some [clause ['R', 'E', 'V', 'O', 'K', 'E'] ['U', 'S', 'E', 'R'],
            clause ['Z', 'O', 'W', 'E', 'C', 'L', 'A', 'S'] ['Z', 'O', 'W', 'E', '.', 'A'],
            clause ['D', 'A', 'T', 'A', 'S', 'E', 'T'] ['S', 'Y', 'S', '1']] ∧
        parseCommand tssName issue.2 ≠
          some ((sampleAdminRequest 3 ['Z', 'O', 'W', 'E', '.', 'A', ')', ' ', 'D', 'A', 'T', 'A',
            'S', 'E', 'T', '(', 'S', 'Y', 'S', '1']).clauses .plain sampleAdminEnv issue.1)) ∧
      ∃ issue ∈ (sampleAdminRequest 0 (['Z', 'O', 'W', 'E', '.'] ++
        List.replicate 250 'A')).issued .plain sampleAdminEnv,
        issue.2.getLast? = some 'A' ∧ parseCommand tssName issue.2 = none := by
  decide +kernel

end Zss.Tss
