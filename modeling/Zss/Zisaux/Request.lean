import Mathlib.Data.List.Basic

/-!
# One request to the AUX host

The parts of `aux-host.c` that are functions of one request: the checks its PC routine makes, the
copy of the service parameter list and its cleanup, the dispatch to the guest's handlers, and the
mapping of a release code to the status a requester returns.

A character field is a list of characters, a data area of shared storage is whether the list has a
pointer to it, and a return code of the operating system or of common-c is an argument.
-/

namespace Zss.Zisaux

/-- A token of a command. -/
abbrev Text := List Char

/-! ## Constants -/

def rcZisauxOk : Int := 0
def rcZisauxPcEnvNotEstablished : Int := 17
def rcZisauxPcAbendDetected : Int := 18
def rcZisauxPcRecoveryEnvFailed : Int := 19
def rcZisauxPcEnvNotTerminated : Int := 20
def rcZisauxPcParmInvalid : Int := 21
def rcZisauxCommAreaInvalid : Int := 22
def rcZisauxAllocFailed : Int := 23
def rcZisauxCommSrvcParmInvalid : Int := 24
def rcZisauxUnsupportedVersion : Int := 25
def rcZisauxRequestLimitReached : Int := 26
def rcZisauxAuxTermination : Int := 27
def rcZisauxRequestTcbAbend : Int := 28
def rcZisauxBadPet : Int := 29
def rcZisauxHandlerError : Int := 33
def rcZisauxUserHandlerError : Int := 34
def rcZisauxBadFunctionCode : Int := 35
def rcZisauxHandlerNotScheduled : Int := 36
def rcZisauxHostAbended : Int := 38
def rcZisauxBadCallerKey : Int := 39
def rcZisauxShr64Error : Int := 40
def rcZisauxCallerNotRecognized : Int := 45

def zisauxMaxRequestCount : Nat := 16

def zisauxPeOk : Nat := 0
def zisauxPeRcScheduleError : Nat := 8
def zisauxPeRcTerm : Nat := 9
def zisauxPeRcCancel : Nat := 10
def zisauxPeRcWorkerAbend : Nat := 11
def zisauxPeRcEnvError : Nat := 12
def zisauxPeRcHostAbend : Nat := 13

/-- Every code a pause element is released with. -/
def releaseCodes : List Nat :=
  [zisauxPeOk, zisauxPeRcScheduleError, zisauxPeRcTerm, zisauxPeRcCancel, zisauxPeRcWorkerAbend,
    zisauxPeRcEnvError, zisauxPeRcHostAbend]

def zisauxCallerKey : Nat := 4

def zisauxCommServiceParmVersion : Nat := 1
def zisauxCommServiceFuncCommand : Nat := 1
def zisauxCommServiceFuncWork : Nat := 2
def zisauxCommServiceFuncTerm : Nat := 3

/-! ## The service parameter list -/

/-- `ZISAUXCommServiceParmList`; of payload and response, whether they have a data area in shared
storage. -/
structure CommServiceParmList where
  eyecatcherValid : Bool
  version : Nat
  function : Nat
  payloadData : Bool
  responseData : Bool
  auxRC : Int
  auxRSN : Int

/-- A list of zeros. -/
def CommServiceParmList.zero : CommServiceParmList := ⟨false, 0, 0, false, false, 0, 0⟩

/-- What `copyServiceParmList` leaves: its return code, and whether it holds any access. -/
structure CopyResult where
  rc : Int
  obtained : Bool

/-- `copyServiceParmList`; the arguments are whether `shrmem64GetAccess` succeeds. -/
def copyServiceParmList (payloadAccess responseAccess : Bool) (parm : CommServiceParmList) :
    CopyResult :=
  if parm.payloadData && !payloadAccess then ⟨rcZisauxShr64Error, false⟩
  else if parm.responseData && !responseAccess then ⟨rcZisauxShr64Error, parm.payloadData⟩
  else ⟨rcZisauxOk, true⟩

/-- `cleanServiceParmListCopy`, as its return code; the arguments are whether
`shrmem64RemoveAccess` succeeds. -/
def cleanServiceParmListCopy (payloadRemoved responseRemoved : Bool) (copy : CommServiceParmList) :
    Int :=
  let status := rcZisauxOk
  let status := if copy.payloadData && !payloadRemoved then rcZisauxShr64Error else status
  if copy.responseData && !responseRemoved then
    if status ≠ rcZisauxOk then status else rcZisauxShr64Error
  else status

/-! ## The PC routine -/

/-- What a program call meets before its request is scheduled. -/
structure PcCall where
  callersKey : Nat
  environmentEstablished : Bool
  recoveryEstablished : Bool
  parmListEyecatcher : Bool
  latentParmList : Bool
  serviceParmList : Bool
  contextValid : Bool
  callerParentServer : Bool

/-- The PC routine gets as far as `handleUnsafePCSS`. -/
structure PcCall.Entered (call : PcCall) : Prop where
  key : call.callersKey = zisauxCallerKey
  environment : call.environmentEstablished = true
  recovery : call.recoveryEstablished = true

/-- `isAUXPCParmListValid`. -/
def isAuxPcParmListValid (call : PcCall) : Bool :=
  if !call.parmListEyecatcher then false
  else if !call.latentParmList then false
  else if !call.serviceParmList then false
  else true

/-- `isCommServiceParmListValid`. -/
def isCommServiceParmListValid (parm : CommServiceParmList) : Bool :=
  if !parm.eyecatcherValid then false
  else if !(parm.function = zisauxCommServiceFuncCommand ∨
      parm.function = zisauxCommServiceFuncWork ∨
      parm.function = zisauxCommServiceFuncTerm) then false
  else true

/-- The checks of `handleUnsafePCSS` before it fetches the service parameter list. -/
def checksBeforeFetch (call : PcCall) : Option Int :=
  if !isAuxPcParmListValid call then some rcZisauxPcParmInvalid
  else if !call.contextValid then some rcZisauxCommAreaInvalid
  else if !call.callerParentServer then some rcZisauxCallerNotRecognized
  else none

/-- The checks of `handleUnsafePCSS`: a return code, or the request is scheduled. -/
def handleUnsafePcss (call : PcCall) (parm : CommServiceParmList) : Option Int :=
  if !isAuxPcParmListValid call then some rcZisauxPcParmInvalid
  else if !call.contextValid then some rcZisauxCommAreaInvalid
  else if !call.callerParentServer then some rcZisauxCallerNotRecognized
  else if !isCommServiceParmListValid parm then some rcZisauxCommSrvcParmInvalid
  else if parm.version > zisauxCommServiceParmVersion then some rcZisauxUnsupportedVersion
  else none

/-- `handleCommunicationPCSS`; `unsafeRC` is what `handleUnsafePCSS` returned, nothing where it
abended, and `terminated` whether the PC environment was terminated without an error. -/
def handleCommunicationPcss (call : PcCall) (unsafeRC : Option Int) (terminated : Bool) : Int :=
  if call.callersKey ≠ zisauxCallerKey then rcZisauxBadCallerKey
  else if !call.environmentEstablished then rcZisauxPcEnvNotEstablished
  else
    let returnCode :=
      if call.recoveryEstablished then unsafeRC.getD rcZisauxPcAbendDetected
      else rcZisauxPcRecoveryEnvFailed
    if !terminated then
      if returnCode ≠ rcZisauxOk then rcZisauxPcEnvNotTerminated else returnCode
    else returnCode

/-! ## The dispatch to the guest -/

/-- How the guest's function for a request went: the guest has none, it returned a code, or the call
failed with a code of its own (an abend, no recovery environment). -/
inductive GuestCall where
  | absent
  | returned (rc : Int)
  | failed (rc : Int)
deriving DecidableEq

/-- The body of the two wrappers of the guest's functions: return and reason code. -/
def callUserModule (guest : GuestCall) : Int × Int :=
  match guest with
  | .absent => (rcZisauxOk, 0)
  | .returned rc => if rc ≠ rcZisauxOk then (rcZisauxUserHandlerError, rc) else (rcZisauxOk, 0)
  | .failed rc => (rcZisauxHandlerError, rc)

def callUserModuleCommandHandler (guest : GuestCall) : Int × Int := callUserModule guest

def callUserModuleWorkHandler (guest : GuestCall) : Int × Int := callUserModule guest

/-- What the dispatch of a request meets. `verb` is the first token of a command, if any. -/
structure HandlerEnv where
  heap : Bool
  tokenizeRC : Int
  verb : Option Text
  guest : GuestCall

/-- The guest is called for a command that was split, has a verb and is not the host's own. -/
def commandReachesGuest (env : HandlerEnv) : Bool :=
  env.heap && env.tokenizeRC == 0 && env.verb.isSome && env.guest != .absent &&
    env.verb != some ['L', 'O', 'G']

/-- `handleAUXCommand`: the return code, and the reason code where it sets one, which is always
zero. -/
def handleAuxCommand (env : HandlerEnv) : Int × Option Int :=
  if !env.heap then (rcZisauxAllocFailed, none)
  else if commandReachesGuest env then ((callUserModuleCommandHandler env.guest).1, some 0)
  else (rcZisauxOk, some 0)

/-- A finished dispatch: the return code it left, whether the guest has a function for the request,
and the guest call it made, if any. -/
structure Handled where
  auxRC : Int
  present : Bool
  guest : Option GuestCall
deriving DecidableEq

/-- The guest has a function for the request and the dispatch did not call it: a command that was not
split into tokens, has none, or is the host's own. -/
def Handled.bypassed (handled : Handled) : Bool := handled.present && handled.guest.isNone

/-- The switch of `handleCommRequest`, on the copy of the parameter list. -/
def handleCommRequest (env : HandlerEnv) (copy : CommServiceParmList) :
    CommServiceParmList × Handled :=
  if copy.function = zisauxCommServiceFuncCommand then
    let (rc, rsn) := handleAuxCommand env
    ({ copy with auxRC := rc, auxRSN := rsn.getD copy.auxRSN },
      ⟨rc, env.guest != .absent, if commandReachesGuest env then some env.guest else none⟩)
  else if copy.function = zisauxCommServiceFuncWork then
    let (rc, rsn) := callUserModuleWorkHandler env.guest
    ({ copy with auxRC := rc, auxRSN := rsn },
      ⟨rc, env.guest != .absent, if env.guest = .absent then none else some env.guest⟩)
  else if copy.function = zisauxCommServiceFuncTerm then
    -- the guest has no function for this one
    ({ copy with auxRC := rcZisauxOk }, ⟨rcZisauxOk, false, none⟩)
  else
    ({ copy with auxRC := rcZisauxBadFunctionCode, auxRSN := copy.function },
      ⟨rcZisauxBadFunctionCode, false, none⟩)

/-! ## The status of a request -/

/-- The branch of `scheduleCommRequestProcessing` on the code its pause returned. The codes of the
cancel path and of a worker without a recovery environment have no branch. -/
def statusOfRelease (releaseCode : Nat) (copy : CommServiceParmList) : Int :=
  if releaseCode = zisauxPeOk then copy.auxRC
  else if releaseCode = zisauxPeRcTerm then rcZisauxAuxTermination
  else if releaseCode = zisauxPeRcWorkerAbend then rcZisauxRequestTcbAbend
  else if releaseCode = zisauxPeRcScheduleError then rcZisauxHandlerNotScheduled
  else if releaseCode = zisauxPeRcHostAbend then rcZisauxHostAbended
  else rcZisauxOk

/-- The last lines of `scheduleCommRequestProcessing`. -/
def statusAfterClean (status cleanRC : Int) : Int :=
  if cleanRC ≠ rcZisauxOk then (if status ≠ rcZisauxOk then status else cleanRC) else status

/-! ## What the codes say -/

/-- The copy carries the return code of its dispatch. -/
theorem handleCommRequest_auxRC (env : HandlerEnv) (copy : CommServiceParmList) :
    (handleCommRequest env copy).1.auxRC = (handleCommRequest env copy).2.auxRC := by
  unfold handleCommRequest
  split
  · rfl
  split
  · rfl
  split <;> rfl

/-- A wrapper returns OK only where the guest has no function or its function returned OK. -/
theorem callUserModule_ok {guest : GuestCall} (h : (callUserModule guest).1 = rcZisauxOk) :
    guest = .absent ∨ guest = .returned rcZisauxOk := by
  cases guest with
  | absent => exact .inl rfl
  | returned rc =>
    by_cases hrc : rc = rcZisauxOk
    · exact .inr (by rw [hrc])
    · rw [callUserModule, if_pos hrc] at h
      have hcode : rcZisauxUserHandlerError = rcZisauxOk := h
      exact absurd hcode (by decide)
  | failed rc =>
    have hcode : rcZisauxHandlerError = rcZisauxOk := h
    exact absurd hcode (by decide)

/-- **A dispatch that leaves OK made no guest call but one that returned OK.** -/
theorem handleCommRequest_ok {env : HandlerEnv} {copy : CommServiceParmList}
    (h : (handleCommRequest env copy).2.auxRC = rcZisauxOk) :
    ∀ call, (handleCommRequest env copy).2.guest = some call → call = .returned rcZisauxOk := by
  intro call hcall
  unfold handleCommRequest at h hcall
  split at h
  · next hcommand =>
    rw [if_pos hcommand] at hcall
    simp only [Option.ite_none_right_eq_some, Option.some.injEq] at hcall
    obtain ⟨hreach, rfl⟩ := hcall
    have hheap : env.heap = true := by
      simp only [commandReachesGuest, Bool.and_eq_true] at hreach
      exact hreach.1.1.1.1
    simp only [handleAuxCommand, hheap, hreach, Bool.not_true, Bool.false_eq_true, ↓reduceIte] at h
    rcases callUserModule_ok h with habsent | hok
    · simp [commandReachesGuest, habsent] at hreach
    · exact hok
  · next hcommand =>
    rw [if_neg hcommand] at hcall
    split at h
    · next hwork =>
      rw [if_pos hwork] at hcall
      simp only [Option.ite_none_left_eq_some, Option.some.injEq] at hcall
      obtain ⟨hpresent, rfl⟩ := hcall
      rcases callUserModule_ok h with habsent | hok
      · exact absurd habsent hpresent
      · exact hok
    · next hwork =>
      rw [if_neg hwork] at hcall
      split at hcall <;> cases hcall

/-- **The termination of the PC environment is not reported.** Where `handleUnsafePCSS` was called,
the PC routine returns OK exactly if it did, whatever became of the environment. -/
theorem handleCommunicationPcss_ok_iff {call : PcCall} (entered : call.Entered)
    (unsafeRC : Option Int) (terminated : Bool) :
    handleCommunicationPcss call unsafeRC terminated = rcZisauxOk ↔
      unsafeRC = some rcZisauxOk := by
  have abend : (rcZisauxPcAbendDetected : Int) ≠ rcZisauxOk := by decide
  have notTerminated : (rcZisauxPcEnvNotTerminated : Int) ≠ rcZisauxOk := by decide
  simp only [handleCommunicationPcss, entered.key, entered.environment, entered.recovery, ne_eq,
    not_true_eq_false, ↓reduceIte, Bool.not_true, Bool.false_eq_true]
  cases unsafeRC with
  | none => cases terminated <;> simp [abend, notTerminated]
  | some rc =>
    by_cases hrc : rc = rcZisauxOk
    · cases terminated <;> simp [hrc]
    · cases terminated <;> simp [hrc, notTerminated]

/-- The PC routine returns OK only if `handleUnsafePCSS` did. -/
theorem handleCommunicationPcss_ok {call : PcCall} {unsafeRC : Option Int} {terminated : Bool}
    (h : handleCommunicationPcss call unsafeRC terminated = rcZisauxOk) :
    unsafeRC = some rcZisauxOk := by
  by_cases entered : call.Entered
  · exact (handleCommunicationPcss_ok_iff entered unsafeRC terminated).mp h
  · refine absurd ?_ entered
    unfold handleCommunicationPcss at h
    split at h
    · exact absurd h (by decide)
    next hkey =>
    split at h
    · exact absurd h (by decide)
    next henv =>
    by_cases hrec : call.recoveryEstablished = true
    · exact ⟨not_not.mp hkey, by simpa using henv, hrec⟩
    · cases terminated <;> simp [hrec] at h <;> exact absurd h (by decide)

/-- A status is OK after the cleanup only if both are OK. -/
theorem statusAfterClean_ok {status cleanRC : Int}
    (h : statusAfterClean status cleanRC = rcZisauxOk) :
    status = rcZisauxOk ∧ cleanRC = rcZisauxOk := by
  unfold statusAfterClean at h
  split at h
  · next hclean =>
    split at h
    · next hstatus => exact absurd h hstatus
    · exact absurd h hclean
  · next hclean => exact ⟨h, not_not.mp hclean⟩

/-- **The codes that have no branch.** A release code other than OK is reported as OK exactly by
those two of the host's codes. -/
theorem statusOfRelease_ok_iff {code : Nat} (copy : CommServiceParmList)
    (known : code ∈ releaseCodes) :
    statusOfRelease code copy = rcZisauxOk ↔
      (code = zisauxPeOk ∧ copy.auxRC = rcZisauxOk) ∨ code = zisauxPeRcCancel ∨
        code = zisauxPeRcEnvError := by
  simp only [releaseCodes, List.mem_cons, List.not_mem_nil, or_false] at known
  rcases known with rfl | rfl | rfl | rfl | rfl | rfl | rfl <;>
    simp [statusOfRelease, zisauxPeOk, zisauxPeRcScheduleError, zisauxPeRcTerm, zisauxPeRcCancel,
      zisauxPeRcWorkerAbend, zisauxPeRcEnvError, zisauxPeRcHostAbend, rcZisauxOk,
      rcZisauxHandlerNotScheduled, rcZisauxAuxTermination, rcZisauxRequestTcbAbend,
      rcZisauxHostAbended]

end Zss.Zisaux
