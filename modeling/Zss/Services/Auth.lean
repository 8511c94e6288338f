import Zss.Lib.Recovery

/-!
# The decisions of the authorization service

The entity check and the access retrieval of `auth.c`: the class configured for the installation is
read, an environment for the user is created, the security product is asked under recovery, and the
environment is deleted. The reading, the calls of the security product and their abends are the
world's; every one of them can abend.

`handleEntityCheck_decided` and `handleAccessRetrieval_decided` say what a run that comes back with
OK has asked, that no run leaves an entry of the recovery stack behind, and that the deletion of each
environment is called once.

## What is not established

That an environment is gone after each run. The handlers take their entry off before the deletion, so
an abend of the deletion leaves them, and is left to the recovery of whoever called them; whether the
environment is still there is then up to the security product. `Decided.deletedOnce` says that this is
the only run in which a created environment is not deleted. A deletion that comes back with an error
counts as one; the code of the run tells of it. What the recovery services do is taken from their
contract (`Zss.Lib.Recovery`).
-/

namespace Zss.Services.Auth

open Zss.Lib Zss.Lib.Recovery

/-- Null-terminated texts are their characters. -/
abbrev Text := List Char

/-! ## Codes -/

def rcCmsOk : Int := 0

def rcZisAuthsrvOk : Int := 0
def rcZisAuthsrvDeleteFailed : Int := 10
def rcZisAuthsrvCreateFailed : Int := 11
def rcZisAuthsrvInstallRecoveryFailed : Int := 14
def rcZisAuthsrvSafAbended : Int := 15
def rcZisAuthsrvSafError : Int := 16
def rcZisAuthsrvUserClassNotRead : Int := 18
def rcZisAuthsrvUserClassTooLong : Int := 19
def rcZisAuthsrvCustomClassNotAllowed : Int := 20

def zisAuthServiceClassMaxLength : Nat := 8

/-! ## Data -/

/-- `SAFAuthStatus`. -/
structure SafAuthStatus where
  safRC : Int
  racfRC : Int
  racfRSN : Int

/-- The union of the parm list, by what was put in it last. -/
inductive StatusInfo where
  | safStatus (status : SafAuthStatus)
  | abendInfo (info : Abend)

/-- What the handlers read of an `AuthServiceParmList`. -/
structure AuthServiceParmList where
  userIDNullTerm : Text
  classNullTerm : Text
  entityNullTerm : Text
  access : Int

/-- What the handlers write of it. -/
structure AuthOutput where
  access : Int
  status : StatusInfo

/-- A `CrossMemoryServerConfigParm` with the code it was read with. -/
structure ConfigParm where
  rc : Int
  charValueNullTerm : Text

/-- What `safVerify` comes back with: the environment is there where the code is zero. -/
structure Verified where
  status : SafAuthStatus
  acee : Nat

inductive AuthCall where
  | cmsGetConfigParm
  | verifyCreate (userID : Text) (withoutLog : Bool)
  | safAuth (className entity : Text) (access : Int) (acee : Nat)
  | safAuthStatus (className entity : Text) (acee : Nat)
  | verifyDelete (acee : Nat) (withoutLog : Bool)

abbrev AuthCall.Answer : AuthCall → Type
  | .cmsGetConfigParm => ConfigParm
  | .verifyCreate .. => Verified
  | .safAuth .. | .verifyDelete .. => SafAuthStatus
  | .safAuthStatus .. => SafAuthStatus × Int

@[reducible] def authCalls : Interface := ⟨AuthCall, AuthCall.Answer⟩

abbrev AuthTask := Task authCalls AuthOutput

/-! ## The handlers -/

/-- `FILL_SAF_STATUS`. -/
def fillSafStatus (status : SafAuthStatus) : AuthTask Unit :=
  .modify fun output => { output with status := .safStatus status }

def fillAbendInfo (abend : Abend) (output : AuthOutput) : AuthOutput :=
  { output with status := .abendInfo abend }

/-- The entry both handlers push. -/
def safAuthEntry : Entry AuthOutput where
  name := "safAuth()"
  retry := true
  deleteOnRetry := true
  analysis := fillAbendInfo

def cmsGetConfigParm : AuthTask ConfigParm := .ask (I := authCalls) .cmsGetConfigParm

def verifyCreate (userID : Text) (withoutLog : Bool) : AuthTask Verified :=
  .ask (I := authCalls) (.verifyCreate userID withoutLog)

def safAuth (className entity : Text) (access : Int) (acee : Nat) : AuthTask SafAuthStatus :=
  .ask (I := authCalls) (.safAuth className entity access acee)

def safAuthStatus (className entity : Text) (acee : Nat) : AuthTask (SafAuthStatus × Int) :=
  .ask (I := authCalls) (.safAuthStatus className entity acee)

def verifyDelete (acee : Nat) (withoutLog : Bool) : AuthTask SafAuthStatus :=
  .ask (I := authCalls) (.verifyDelete acee withoutLog)

def getDefaultClassValue : AuthTask (Except Int Text) := do
  let userClassParm ← cmsGetConfigParm
  if userClassParm.rc ≠ rcCmsOk then return .error rcZisAuthsrvUserClassNotRead
  if userClassParm.charValueNullTerm.length > zisAuthServiceClassMaxLength then
    return .error rcZisAuthsrvUserClassTooLong
  return .ok userClassParm.charValueNullTerm

/-- The class of a request, which must be the configured one if it is given. -/
def classNotAllowed (parmList : AuthServiceParmList) (defaultClass : Text) : Bool :=
  parmList.classNullTerm.length != 0 && parmList.classNullTerm != defaultClass

def handleEntityCheck (parmList : AuthServiceParmList) : AuthTask Int := do
  match ← getDefaultClassValue with
  | .error getClassRC => return getClassRC
  | .ok defaultClass =>
    if classNotAllowed parmList defaultClass then return rcZisAuthsrvCustomClassNotAllowed
    let created ← verifyCreate parmList.userIDNullTerm false
    if created.status.safRC ≠ 0 then
      fillSafStatus created.status
      return rcZisAuthsrvCreateFailed
    let rc ← do
      match ← Task.recoveryPush safAuthEntry with
      | .ok =>
        let status ← safAuth defaultClass parmList.entityNullTerm parmList.access created.acee
        fillSafStatus status
        Task.recoveryPop
        pure (if status.safRC ≠ 0 then rcZisAuthsrvSafError else rcZisAuthsrvOk)
      | .abended => pure rcZisAuthsrvSafAbended
      | .failed _ => pure rcZisAuthsrvInstallRecoveryFailed
    let deleted ← verifyDelete created.acee false
    return if deleted.safRC ≠ 0 then rcZisAuthsrvDeleteFailed else rc

def getAccessType (className : Text) (parmList : AuthServiceParmList) : AuthTask Int := do
  let created ← verifyCreate parmList.userIDNullTerm true
  fillSafStatus created.status
  if created.status.safRC ≠ 0 then return rcZisAuthsrvCreateFailed
  let (rc, accessTypeInternal) ← do
    match ← Task.recoveryPush safAuthEntry with
    | .ok =>
      let (status, accessTypeInternal) ←
        safAuthStatus className parmList.entityNullTerm created.acee
      fillSafStatus status
      Task.recoveryPop
      pure (if status.safRC ≠ 0 then rcZisAuthsrvSafError else rcZisAuthsrvOk,
        accessTypeInternal)
    | .abended => pure (rcZisAuthsrvSafAbended, 0)
    | .failed _ => pure (rcZisAuthsrvInstallRecoveryFailed, 0)
  let deleted ← verifyDelete created.acee true
  let failed : Bool := deleted.safRC != 0 && rc == rcZisAuthsrvOk
  Task.modify fun output =>
    { access := accessTypeInternal
      status := if failed then .safStatus deleted else output.status }
  return if failed then rcZisAuthsrvDeleteFailed else rc

def handleAccessRetrieval (parmList : AuthServiceParmList) : AuthTask Int := do
  match ← getDefaultClassValue with
  | .error getClassRC => return getClassRC
  | .ok defaultClass =>
    if classNotAllowed parmList defaultClass then return rcZisAuthsrvCustomClassNotAllowed
    getAccessType defaultClass parmList

/-! ## What a run asks -/

/-- The environment a mark creates. -/
def createdBy : Mark authCalls → Option Nat
  | .answered (.verifyCreate ..) (answer : Verified) =>
    if answer.status.safRC = 0 then some answer.acee else none
  | _ => none

/-- The environment whose deletion a mark is the call of. -/
def deletionAsked : Mark authCalls → Option Nat
  | .answered (.verifyDelete acee _) _ | .abended (.verifyDelete acee _) _ => some acee
  | _ => none

/-- The environment a mark is the deletion of: the call of it came back. -/
def deletedBy : Mark authCalls → Option Nat
  | .answered (.verifyDelete acee _) _ => some acee
  | _ => none

/-- A deletion that abends. -/
def abandonsDeletion : Mark authCalls → Bool
  | .abended (.verifyDelete ..) _ => true
  | _ => false

/-- **A decision's evidence.** The class of the request is empty or the configured one; an
environment was created for the user, the question was asked of that class, the entity and that
environment, its answer was zero, and the environment was deleted without error. -/
def Granted (parmList : AuthServiceParmList) (question : Text → Nat → AuthCall)
    (isZero : (c : AuthCall) → c.Answer → Prop) (marks : List (Mark authCalls)) : Prop :=
  ∃ defaultClass created withoutLog answer deleted,
    (parmList.classNullTerm = [] ∨ parmList.classNullTerm = defaultClass) ∧
    created.status.safRC = 0 ∧ isZero (question defaultClass created.acee) answer ∧
    deleted.safRC = 0 ∧
    marks =
      [.answered .cmsGetConfigParm (⟨rcCmsOk, defaultClass⟩ : ConfigParm),
        .answered (.verifyCreate parmList.userIDNullTerm withoutLog) created,
        .pushed safAuthEntry.name,
        .answered (question defaultClass created.acee) answer,
        .answered (.verifyDelete created.acee withoutLog) deleted]

/-- The code an answer of the security product carries is zero. -/
def AnsweredZero : (c : AuthCall) → c.Answer → Prop
  | .cmsGetConfigParm, answer => ConfigParm.rc answer = 0
  | .verifyCreate .., answer => (Verified.status answer).safRC = 0
  | .safAuth .., answer | .verifyDelete .., answer => SafAuthStatus.safRC answer = 0
  | .safAuthStatus .., answer => (Prod.fst answer : SafAuthStatus).safRC = 0

/-- What a handler's run comes to: OK only with its evidence, the stack as it was, and the call of a
deletion for each environment created, in the order of their creation, which comes back unless it
abends. -/
structure Decided (parmList : AuthServiceParmList) (question : Text → Nat → AuthCall)
    (stack : List (Frame authCalls AuthOutput Int)) (marks : List (Mark authCalls))
    (ending : Ending authCalls AuthOutput Int) : Prop where
  granted : ∀ stack' output, ending = .returned rcZisAuthsrvOk stack' output →
    Granted parmList question AnsweredZero marks
  balanced : ending.stack = stack
  asked : marks.filterMap deletionAsked = marks.filterMap createdBy
  deletedOnce : marks.filterMap deletedBy = marks.filterMap createdBy ↔
    ∀ mark ∈ marks, abandonsDeletion mark = false

/-! ## The decisions -/

/-- The deletions that come back are those that are called but the ones that abend. -/
theorem length_deletedBy (marks : List (Mark authCalls)) :
    (marks.filterMap deletedBy).length + marks.countP abandonsDeletion =
      (marks.filterMap deletionAsked).length := by
  induction marks with
  | nil => rfl
  | cons mark marks ih =>
    cases hasked : deletionAsked mark with
    | none =>
      have hnone : deletedBy mark = none ∧ abandonsDeletion mark = false := by
        cases mark with
        | answered c answer => cases c <;> first | exact ⟨rfl, rfl⟩ | cases hasked
        | abended c abend => cases c <;> first | exact ⟨rfl, rfl⟩ | cases hasked
        | pushed name => exact ⟨rfl, rfl⟩
        | refused name rc => exact ⟨rfl, rfl⟩
      rw [List.filterMap_cons_none hasked, List.filterMap_cons_none hnone.1,
        List.countP_cons_of_neg (by rw [hnone.2]; exact Bool.false_ne_true), ih]
    | some acee =>
      rw [List.filterMap_cons_some hasked, List.length_cons, ← ih]
      cases mark with
      | answered c answer =>
        cases c with
        | verifyDelete acee withoutLog =>
          have hdeleted : deletedBy (.answered (.verifyDelete acee withoutLog) answer) = some acee :=
            rfl
          rw [List.filterMap_cons_some hdeleted, List.countP_cons_of_neg Bool.false_ne_true,
            List.length_cons]
          omega
        | _ => cases hasked
      | abended c abend =>
        cases c with
        | verifyDelete =>
          rw [List.filterMap_cons_none rfl, List.countP_cons_of_pos rfl]
          omega
        | _ => cases hasked
      | pushed name => cases hasked
      | refused name rc => cases hasked

theorem deletedBy_eq {mark : Mark authCalls} (h : abandonsDeletion mark = false) :
    deletedBy mark = deletionAsked mark := by
  cases mark with
  | answered c answer => cases c <;> rfl
  | abended c abend => cases c <;> first | rfl | cases h
  | pushed name => rfl
  | refused name rc => rfl

/-- Where the deletion of each environment is called, each is deleted exactly if none abends. -/
theorem deletedOnce_iff {marks : List (Mark authCalls)}
    (asked : marks.filterMap deletionAsked = marks.filterMap createdBy) :
    marks.filterMap deletedBy = marks.filterMap createdBy ↔
      ∀ mark ∈ marks, abandonsDeletion mark = false := by
  rw [← asked]
  constructor
  · intro same
    have hlength := length_deletedBy marks
    rw [same, Nat.add_eq_left, List.countP_eq_zero] at hlength
    exact fun mark hmark => Bool.eq_false_iff.mpr (hlength mark hmark)
  · intro h
    exact List.filterMap_congr fun mark hmark => deletedBy_eq (h mark hmark)

section
variable {parmList : AuthServiceParmList} {question : Text → Nat → AuthCall}
  {stack : List (Frame authCalls AuthOutput Int)} {marks : List (Mark authCalls)}

/-- A run that is refused has its stack and its deletions to show. -/
theorem Decided.refused {rc : Int} {output : AuthOutput} (refused : rc ≠ rcZisAuthsrvOk)
    (asked : marks.filterMap deletionAsked = marks.filterMap createdBy) :
    Decided parmList question stack marks (.returned rc stack output) where
  granted _ _ same := by
    injection same with isOk
    exact absurd isOk refused
  balanced := rfl
  asked := asked
  deletedOnce := deletedOnce_iff asked

/-- So has a run that is left by an abend. -/
theorem Decided.left {abend : Abend} {output : AuthOutput}
    (asked : marks.filterMap deletionAsked = marks.filterMap createdBy) :
    Decided parmList question stack marks (.percolated abend stack output) where
  granted _ _ same := nomatch same
  balanced := rfl
  asked := asked
  deletedOnce := deletedOnce_iff asked

/-- The class is read, or the handler's code is not OK. -/
theorem getDefaultClassValue_safe {α : Type} {stack : List (Frame authCalls AuthOutput α)}
    {output : AuthOutput} {post : List (Mark authCalls) → Ending authCalls AuthOutput α → Prop}
    {k : Except Int Text → AuthTask α}
    (isRead : ∀ defaultClass, Safe (k (.ok defaultClass)) stack output fun marks =>
      post (.answered .cmsGetConfigParm (⟨rcCmsOk, defaultClass⟩ : ConfigParm) :: marks))
    (notRead : ∀ (answer : ConfigParm) (rc : Int), rc ≠ rcZisAuthsrvOk →
      Safe (k (.error rc)) stack output fun marks =>
        post (.answered .cmsGetConfigParm answer :: marks))
    (abended : ∀ abend, SafeAbend (I := authCalls) .cmsGetConfigParm abend stack output post) :
    Safe (getDefaultClassValue >>= k) stack output post := by
  unfold getDefaultClassValue
  rw [Task.bind_assoc]
  refine .ask_bind (I := authCalls) (c := .cmsGetConfigParm) (fun answer => ?_) abended
  obtain ⟨rc, value⟩ := answer
  by_cases given : rc = rcCmsOk
  · subst given
    by_cases long : value.length > zisAuthServiceClassMaxLength
    · simp only [ne_eq, not_true_eq_false, if_false, if_pos long, Task.pure_bind]
      exact notRead _ _ (by decide)
    · simp only [ne_eq, not_true_eq_false, if_false, if_neg long, Task.pure_bind]
      exact isRead value
  · simp only [ne_eq, given, not_false_eq_true, if_true, Task.pure_bind]
    exact notRead _ _ (by decide)

end

theorem classNotAllowed_false {parmList : AuthServiceParmList} {defaultClass : Text}
    (h : classNotAllowed parmList defaultClass = false) :
    parmList.classNullTerm = [] ∨ parmList.classNullTerm = defaultClass := by
  unfold classNotAllowed at h
  cases hclass : parmList.classNullTerm with
  | nil => exact .inl rfl
  | cons first rest =>
    rw [hclass] at h
    right
    simpa using h

theorem createdBy_ok {userID : Text} {withoutLog : Bool} {created : Verified}
    (ok : created.status.safRC = 0) :
    createdBy (.answered (.verifyCreate userID withoutLog) created) = some created.acee :=
  if_pos ok

theorem createdBy_failed {userID : Text} {withoutLog : Bool} {created : Verified}
    (failed : created.status.safRC ≠ 0) :
    createdBy (.answered (.verifyCreate userID withoutLog) created) = none :=
  if_neg failed

/-- The marks of a run up to its deletion: one environment was created. -/
structure OneCreated (acee : Nat) (marks : List (Mark authCalls)) : Prop where
  created : marks.filterMap createdBy = [acee]
  noneAsked : marks.filterMap deletionAsked = []

theorem OneCreated.push {acee : Nat} {marks : List (Mark authCalls)} {mark : Mark authCalls}
    (one : OneCreated acee marks) (notCreated : createdBy mark = none)
    (notAsked : deletionAsked mark = none) : OneCreated acee (marks ++ [mark]) where
  created := by
    rw [List.filterMap_append, one.created, List.filterMap_cons_none notCreated]
    rfl
  noneAsked := by
    rw [List.filterMap_append, one.noneAsked, List.filterMap_cons_none notAsked]
    rfl

/-- The marks of a run that asks for the class and creates an environment. -/
theorem oneCreated_start (config : ConfigParm) (userID : Text) (withoutLog : Bool)
    {created : Verified} (ok : created.status.safRC = 0) :
    OneCreated created.acee
      [.answered .cmsGetConfigParm config, .answered (.verifyCreate userID withoutLog) created] where
  created := by
    rw [List.filterMap_cons_none rfl, List.filterMap_cons_some (createdBy_ok ok)]
    rfl
  noneAsked := rfl

theorem OneCreated.asked {acee : Nat} {marks : List (Mark authCalls)} {mark : Mark authCalls}
    (one : OneCreated acee marks) (deletes : deletionAsked mark = some acee)
    (notCreated : createdBy mark = none) :
    (marks ++ [mark]).filterMap deletionAsked = (marks ++ [mark]).filterMap createdBy := by
  rw [List.filterMap_append, List.filterMap_append, one.created, one.noneAsked,
    List.filterMap_cons_some deletes, List.filterMap_cons_none notCreated]
  rfl

section
variable {parmList : AuthServiceParmList} {question : Text → Nat → AuthCall} {ids : List Nat}
  {output : AuthOutput} {acee : Nat} {withoutLog : Bool} {marks : List (Mark authCalls)}

/-- The deletion, and what is returned after it. -/
theorem deletion_safe {k : SafAuthStatus → AuthTask Int} (one : OneCreated acee marks)
    (after : ∀ deleted, Safe (k deleted) (callers ids) output fun marks' =>
      Decided parmList question (callers ids)
        (marks ++ .answered (.verifyDelete acee withoutLog) deleted :: marks')) :
    Safe (verifyDelete acee withoutLog >>= k) (callers ids) output fun marks' =>
      Decided parmList question (callers ids) (marks ++ marks') :=
  .ask_bind (I := authCalls) (c := .verifyDelete ..) after
    fun _ => .leave (.left (one.asked rfl rfl))

/-- A refusal after the deletion. -/
theorem refused_deleted {rc : Int} {deleted : SafAuthStatus} (one : OneCreated acee marks)
    (refused : rc ≠ rcZisAuthsrvOk) :
    Decided parmList question (callers ids)
      (marks ++ [.answered (.verifyDelete acee withoutLog) deleted])
      (.returned rc (callers ids) output) :=
  .refused refused (one.asked rfl rfl)

end

section
variable (parmList : AuthServiceParmList) (ids : List Nat) (output : AuthOutput)

/-- The end of the entity check. -/
theorem entityCheck_deletion {question : Text → Nat → AuthCall} {output : AuthOutput} {acee : Nat}
    {marks : List (Mark authCalls)} {rc : Int} (one : OneCreated acee marks)
    (ok : rc = rcZisAuthsrvOk → ∀ deleted : SafAuthStatus, deleted.safRC = 0 →
      Granted parmList question AnsweredZero
        (marks ++ [.answered (.verifyDelete acee false) deleted])) :
    Safe (do
        let deleted ← verifyDelete acee false
        pure (if deleted.safRC ≠ 0 then rcZisAuthsrvDeleteFailed else rc))
      (callers ids) output fun marks' =>
        Decided parmList question (callers ids) (marks ++ marks') := by
  refine deletion_safe one (fun deleted => .ret ?_)
  split
  next => exact refused_deleted one (by decide)
  next deleted_ok =>
    by_cases isOk : rc = rcZisAuthsrvOk
    · exact
        { granted := fun _ _ _ => ok isOk deleted (not_not.mp deleted_ok)
          balanced := rfl
          asked := one.asked rfl rfl
          deletedOnce := deletedOnce_iff (one.asked rfl rfl) }
    · exact refused_deleted one isOk

/-- **Entity check.** For every parameter list and every outcome, also with abends, the check comes
back with OK only with its evidence, leaves no entry, and calls the deletion of what it creates. -/
theorem handleEntityCheck_decided :
    Safe (handleEntityCheck parmList) (callers ids) output
      (Decided parmList (fun cls acee => .safAuth cls parmList.entityNullTerm parmList.access acee)
        (callers ids)) := by
  unfold handleEntityCheck
  refine getDefaultClassValue_safe (fun defaultClass => ?_)
    (fun _ _ notOk => .ret (.refused notOk rfl)) (fun _ => .leave (.left rfl))
  dsimp only
  cases hclass : classNotAllowed parmList defaultClass with
  | true => exact .ret (.refused (by decide) rfl)
  | false =>
  refine .ask_bind (I := authCalls) (c := .verifyCreate ..) (fun created => ?_)
    (fun _ => .leave (.left rfl))
  by_cases created_ok : created.status.safRC = 0
  · rw [if_neg (not_not.mpr created_ok)]
    have one := oneCreated_start ⟨rcCmsOk, defaultClass⟩ parmList.userIDNullTerm false created_ok
    refine .push_bind ?_ (fun rc => ?_)
    · have one := @OneCreated.push _ _ (.pushed safAuthEntry.name) one rfl rfl
      refine .ask_bind (I := authCalls) (c := .safAuth ..) (fun status => ?_) (fun abend => ?_)
      · refine .modify_bind (.pop_bind ?_)
        refine entityCheck_deletion parmList ids (one.push rfl rfl) ?_
        intro isOk deleted deleted_ok
        have status_ok : status.safRC = 0 := by
          by_contra failed
          rw [if_pos failed] at isOk
          exact absurd isOk (by decide)
        exact ⟨defaultClass, created, false, status, deleted, classNotAllowed_false hclass,
          created_ok, status_ok, deleted_ok, rfl⟩
      · -- the abend comes back to the push, without the entry
        refine .retryOnce rfl rfl ?_
        exact entityCheck_deletion parmList ids (one.push rfl rfl)
          (fun isOk => absurd isOk (by decide))
    · exact entityCheck_deletion parmList ids (one.push rfl rfl)
        (fun isOk => absurd isOk (by decide))
  · rw [if_pos created_ok]
    refine .modify_bind (.ret (.refused (by decide) ?_))
    rw [List.filterMap_cons_none rfl, List.filterMap_cons_none rfl, List.filterMap_cons_none rfl,
      List.filterMap_cons_none (createdBy_failed created_ok)]
    rfl

/-- The end of the access retrieval. A failed deletion changes the code only of a run that was OK
so far. -/
theorem accessType_deletion {question : Text → Nat → AuthCall} {output : AuthOutput} {acee : Nat}
    {marks : List (Mark authCalls)} {rc accessType : Int} (one : OneCreated acee marks)
    (ok : rc = rcZisAuthsrvOk → ∀ deleted : SafAuthStatus, deleted.safRC = 0 →
      Granted parmList question AnsweredZero
        (marks ++ [.answered (.verifyDelete acee true) deleted])) :
    Safe (do
        let deleted ← verifyDelete acee true
        let failed : Bool := deleted.safRC != 0 && rc == rcZisAuthsrvOk
        Task.modify fun output =>
          { access := accessType
            status := if failed then .safStatus deleted else output.status }
        pure (if failed then rcZisAuthsrvDeleteFailed else rc))
      (callers ids) output fun marks' =>
        Decided parmList question (callers ids) (marks ++ marks') := by
  refine deletion_safe one (fun deleted => .modify_bind (.ret ?_))
  by_cases isOk : rc = rcZisAuthsrvOk
  · by_cases deleted_ok : deleted.safRC = 0
    · exact
        { granted := fun _ _ _ => ok isOk deleted deleted_ok
          balanced := rfl
          asked := one.asked rfl rfl
          deletedOnce := deletedOnce_iff (one.asked rfl rfl) }
    · have failed : (deleted.safRC != 0 && rc == rcZisAuthsrvOk) = true := by
        rw [isOk, beq_self_eq_true, Bool.and_true]
        exact bne_iff_ne.mpr deleted_ok
      rw [failed, if_pos rfl]
      exact refused_deleted one (by decide)
  · have kept : (deleted.safRC != 0 && rc == rcZisAuthsrvOk) = false := by
      rw [beq_eq_false_iff_ne.mpr isOk, Bool.and_false]
    rw [kept]
    exact refused_deleted one isOk

/-- **Access retrieval.** So does the retrieval of the user's access to the entity. -/
theorem handleAccessRetrieval_decided :
    Safe (handleAccessRetrieval parmList) (callers ids) output
      (Decided parmList (fun cls acee => .safAuthStatus cls parmList.entityNullTerm acee)
        (callers ids)) := by
  unfold handleAccessRetrieval
  refine getDefaultClassValue_safe (fun defaultClass => ?_)
    (fun _ _ notOk => .ret (.refused notOk rfl)) (fun _ => .leave (.left rfl))
  dsimp only
  cases hclass : classNotAllowed parmList defaultClass with
  | true => exact .ret (.refused (by decide) rfl)
  | false =>
  unfold getAccessType
  refine .ask_bind (I := authCalls) (c := .verifyCreate ..) (fun created => ?_)
    (fun _ => .leave (.left rfl))
  refine .modify_bind ?_
  by_cases created_ok : created.status.safRC = 0
  · rw [if_neg (not_not.mpr created_ok)]
    have one := oneCreated_start ⟨rcCmsOk, defaultClass⟩ parmList.userIDNullTerm true created_ok
    refine .push_bind ?_ (fun rc => ?_)
    · have one := @OneCreated.push _ _ (.pushed safAuthEntry.name) one rfl rfl
      refine .ask_bind (I := authCalls) (c := .safAuthStatus ..) (fun answer => ?_)
        (fun abend => ?_)
      · refine .modify_bind (.pop_bind ?_)
        refine accessType_deletion parmList ids (one.push rfl rfl) ?_
        intro isOk deleted deleted_ok
        have status_ok : answer.1.safRC = 0 := by
          by_contra failed
          rw [if_pos failed] at isOk
          exact absurd isOk (by decide)
        exact ⟨defaultClass, created, true, answer, deleted, classNotAllowed_false hclass,
          created_ok, status_ok, deleted_ok, rfl⟩
      · refine .retryOnce rfl rfl ?_
        exact accessType_deletion parmList ids (one.push rfl rfl)
          (fun isOk => absurd isOk (by decide))
    · exact accessType_deletion parmList ids (one.push rfl rfl)
        (fun isOk => absurd isOk (by decide))
  · rw [if_pos created_ok]
    refine .ret (.refused (by decide) ?_)
    rw [List.filterMap_cons_none rfl, List.filterMap_cons_none rfl, List.filterMap_cons_none rfl,
      List.filterMap_cons_none (createdBy_failed created_ok)]
    rfl

/-- **The decisions of the service.** Whatever is read and answered, and wherever an abend occurs, an
entity check or an access retrieval comes back with OK only with its evidence, leaves the recovery
stack as it was, and calls the deletion of each environment it creates once; the environment is
deleted unless this call abends. -/
theorem auth_service_decides :
    Safe (handleEntityCheck parmList) (callers ids) output
        (Decided parmList
          (fun cls acee => .safAuth cls parmList.entityNullTerm parmList.access acee)
          (callers ids)) ∧
      Safe (handleAccessRetrieval parmList) (callers ids) output
        (Decided parmList (fun cls acee => .safAuthStatus cls parmList.entityNullTerm acee)
          (callers ids)) :=
  ⟨handleEntityCheck_decided parmList ids output, handleAccessRetrieval_decided parmList ids output⟩

end

/-- A request without a class. -/
def sampleRequest : AuthServiceParmList := ⟨['U'], [], ['E'], 2⟩

/-- The marks of its check up to the deletion, which abends. -/
def abandonedMarks : List (Mark authCalls) :=
  [.answered .cmsGetConfigParm (⟨0, ['C']⟩ : ConfigParm),
    .answered (.verifyCreate ['U'] false) (⟨⟨0, 0, 0⟩, 1⟩ : Verified), .pushed "safAuth()",
    .answered (.safAuth ['C'] ['E'] 2 1) (⟨0, 0, 0⟩ : SafAuthStatus),
    .abended (.verifyDelete 1 false) ⟨0, 0⟩]

/-- The environment of a check whose deletion abends is not deleted. -/
theorem abandoned_environment :
    ¬ Safe (handleEntityCheck sampleRequest) (callers []) ⟨0, .safStatus ⟨0, 0, 0⟩⟩
      fun marks _ => marks.filterMap deletedBy = marks.filterMap createdBy := by
  intro safe
  have run : Exec (handleEntityCheck sampleRequest) (callers []) ⟨0, .safStatus ⟨0, 0, 0⟩⟩
      abandonedMarks (.percolated ⟨0, 0⟩ [] ⟨0, .safStatus ⟨0, 0, 0⟩⟩) :=
    .answered _ (.answered _ (.pushed (.answered _ (.get (.set (.pop (.percolated _ rfl)))))))
  exact absurd (safe _ _ run) (by decide)

end Zss.Services.Auth
