import Zss.Lib.Recovery

/-!
# The snarfer's recovery

`zisSnarferServiceFunction` of `snarfer.c` reads another address space: it looks up the source's
ASSB, allocates a transfer buffer in common storage, schedules an SRB that fills it, and copies it to
the caller. Three recovery environments are pushed on the stack of the PC routine, one for the whole
function and one each around the lookup and the SRB. The two inner ones are popped whether their push
was accepted or not.

`snarfer_balanced_iff` says of every run, with abends at every call, when it leaves the stack and the
storage as it should.

## What is not established

That the bytes copied are the source's, which is the SRB's matter (`Zss.Services.SrbSnarfer`). What
the recovery services do is their contract's (`Zss.Lib.Recovery`).
-/

namespace Zss.Services.Snarfer

open Zss.Lib Zss.Lib.Recovery

/-! ## Codes -/

def rcZisSnrfsrvOk : Int := 0
def rcZisSnrfsrvParmlistNull : Int := 8
def rcZisSnrfsrvBadEyecatcher : Int := 9
def rcZisSnrfsrvBadDest : Int := 10
def rcZisSnrfsrvBadAscb : Int := 11
def rcZisSnrfsrvBadSize : Int := 12
def rcZisSnrfsrvEcsaAllocFailed : Int := 13
def rcZisSnrfsrvRecoveryError : Int := 14
def rcZisSnrfsrvSrcAssbAbend : Int := 15
def rcZisSnrfsrvSrcIeamschdAbend : Int := 16
def rcZisSnrfsrvSrcIeamschdFailed : Int := 17

def zisSnarferServiceParmlistEyecatcher : String := "RSSNRFSR"

/-- The size of a `TransferBuffer` without its data. -/
def sizeofTransferBuffer : Nat := 32

/-! ## Data -/

/-- A `SnarferServiceParmList`. -/
structure SnarferServiceParmList where
  eyecatcher : String
  destinationAddress : Nat
  sourceAddress : Nat
  sourceASCB : Nat
  sourceKey : Nat
  size : Nat

/-- A `TransferBuffer`, without what the SRB puts in it. -/
structure TransferBuffer where
  copySize : Nat
  sourceKey : Nat
  sourceAddress : Nat

/-- The context's buffer pointer, and what was done with common storage: the buffers allocated and
freed, and the uses of a null buffer pointer. -/
structure SnarferState where
  transferBuffer : Option TransferBuffer
  allocated : Nat
  freed : Nat
  faults : Nat

/-- The context the function begins with. -/
def SnarferState.start : SnarferState := ⟨none, 0, 0, 0⟩

/-- The common storage services, which are not part of the repository: the largest block, and what a
pointer is after the storage is freed through it. -/
structure EcsaServices where
  maxBlockSize : Nat
  afterFree : Option TransferBuffer → Option TransferBuffer

inductive SnarferCall where
  | copyFromSecondary (clientParmAddr : Nat)
  | getASSB (srcASCB : Nat)
  | allocateECSA (size : Nat)
  | scheduleSynchSRB (stoken : Nat)
  | copyToSecondary (destinationAddress size : Nat)

abbrev SnarferCall.Answer : SnarferCall → Type
  | .copyFromSecondary _ => SnarferServiceParmList
  | .getASSB _ => Nat
  | .allocateECSA _ => Bool
  | .scheduleSynchSRB _ => Int
  | .copyToSecondary .. => Unit

@[reducible] def snarferCalls : Interface := ⟨SnarferCall, SnarferCall.Answer⟩

abbrev SnarferTask := Task snarferCalls SnarferState

/-! ## The transfer buffer -/

/-- A use of the buffer through the context's pointer. -/
def SnarferState.dereference (s : SnarferState) : SnarferState :=
  if s.transferBuffer.isSome then s else { s with faults := s.faults + 1 }

def freeTransferBuffer (ecsa : EcsaServices) (s : SnarferState) : SnarferState :=
  let s := s.dereference
  { s with transferBuffer := ecsa.afterFree s.transferBuffer, freed := s.freed + 1 }

/-- The context is filled in where there is a buffer. -/
def allocateTransferBuffer (copySize : Nat) : SnarferTask Int := do
  let obtained ← .ask (I := snarferCalls) (.allocateECSA (sizeofTransferBuffer + copySize))
  if obtained then
    Task.modify fun s => { s with
      transferBuffer := some ⟨copySize, 0, 0⟩
      allocated := s.allocated + 1 }
    return rcZisSnrfsrvOk
  else
    Task.modify fun s => { s with transferBuffer := none }
    return rcZisSnrfsrvEcsaAllocFailed

/-- The completion codes of a cancel. -/
def isCancel (abend : Abend) : Bool :=
  abend.completionCode == 0x222 || abend.completionCode == 0x522

/-- The exit of the three environments: only a cancel frees the buffer. -/
def cleanupSnarfer (ecsa : EcsaServices) (abend : Abend) (s : SnarferState) : SnarferState :=
  if !isCancel abend then s
  else if s.transferBuffer.isSome then freeTransferBuffer ecsa s
  else s

/-! ## The function -/

def snarferEntry (ecsa : EcsaServices) : Entry SnarferState where
  name := "snarferServiceFunction"
  retry := false
  deleteOnRetry := false
  analysis := cleanupSnarfer ecsa

def assbEntry (ecsa : EcsaServices) : Entry SnarferState where
  name := "snarferServiceFunction->getASSB"
  retry := true
  deleteOnRetry := false
  analysis := cleanupSnarfer ecsa

def srbEntry (ecsa : EcsaServices) : Entry SnarferState where
  name := "snarferServiceFunction->SRB"
  retry := true
  deleteOnRetry := false
  analysis := cleanupSnarfer ecsa

/-- A step under an environment of its own, which is popped at the end in any case. -/
def underRecovery {α : Type} (entry : Entry SnarferState) (step : SnarferTask α)
    (abended refused : α) : SnarferTask α := do
  let result ← do
    match ← Task.recoveryPush entry with
    | .ok => step
    | .abended => pure abended
    | .failed _ => pure refused
  Task.recoveryPop
  return result

/-- The lookup, with the space token of the ASSB found. -/
def lookUpAssb (ecsa : EcsaServices) (srcASCB : Nat) : SnarferTask (Int × Nat) :=
  underRecovery (assbEntry ecsa)
    (do
      let assbstkn ← .ask (I := snarferCalls) (.getASSB srcASCB)
      return (rcZisSnrfsrvOk, assbstkn))
    (rcZisSnrfsrvSrcAssbAbend, 0) (rcZisSnrfsrvRecoveryError, 0)

def scheduleSnarfer (ecsa : EcsaServices) (stoken : Nat) : SnarferTask Int :=
  underRecovery (srbEntry ecsa)
    (do
      let ieamschdRC ← .ask (I := snarferCalls) (.scheduleSynchSRB stoken)
      return if ieamschdRC ≠ 0 then rcZisSnrfsrvSrcIeamschdFailed else rcZisSnrfsrvOk)
    rcZisSnrfsrvSrcIeamschdAbend rcZisSnrfsrvRecoveryError

/-- The checks of the parm list before anything is pushed. -/
def parmListRefusal (ecsa : EcsaServices) (parmList : SnarferServiceParmList) : Option Int :=
  if parmList.eyecatcher ≠ zisSnarferServiceParmlistEyecatcher then some rcZisSnrfsrvBadEyecatcher
  else if parmList.destinationAddress < 0x6000 then some rcZisSnrfsrvBadDest
  else if parmList.sourceASCB = 0 then some rcZisSnrfsrvBadAscb
  else if parmList.size > ecsa.maxBlockSize then some rcZisSnrfsrvBadSize
  else none

/-- A step that is taken where the steps before it went well. -/
def whenOk (status : Int) (step : SnarferTask Int) : SnarferTask Int :=
  if status = rcZisSnrfsrvOk then step else pure status

/-- The buffer, with the source to read. -/
def prepareTransferBuffer (parmList : SnarferServiceParmList) : SnarferTask Int := do
  let allocTransferBufRC ← allocateTransferBuffer parmList.size
  whenOk allocTransferBufRC do
    Task.modify fun s => { s.dereference with
      transferBuffer := s.transferBuffer.map fun buffer => { buffer with
        sourceAddress := parmList.sourceAddress
        sourceKey := parmList.sourceKey } }
    return rcZisSnrfsrvOk

/-- The transfer: buffer, SRB, copy to the caller. -/
def transfer (ecsa : EcsaServices) (parmList : SnarferServiceParmList) (status : Int)
    (stoken : Nat) : SnarferTask Int := do
  let status ← whenOk status (prepareTransferBuffer parmList)
  let status ← whenOk status (scheduleSnarfer ecsa stoken)
  whenOk status do
    Task.modify SnarferState.dereference
    Task.ask (I := snarferCalls) (.copyToSecondary parmList.destinationAddress parmList.size)
    return rcZisSnrfsrvOk

def zisSnarferServiceFunction (ecsa : EcsaServices) (clientParmAddr : Option Nat) :
    SnarferTask Int := do
  match clientParmAddr with
  | none => return rcZisSnrfsrvParmlistNull
  | some clientParmAddr =>
    let parmList ← .ask (I := snarferCalls) (.copyFromSecondary clientParmAddr)
    match parmListRefusal ecsa parmList with
    | some rc => return rc
    | none =>
      match ← Task.recoveryPush (snarferEntry ecsa) with
      | .ok =>
        let (status, stoken) ← lookUpAssb ecsa parmList.sourceASCB
        let status ← transfer ecsa parmList status stoken
        Task.modify fun s => if s.transferBuffer.isSome then freeTransferBuffer ecsa s else s
        Task.recoveryPop
        return status
      | _ => return rcZisSnrfsrvRecoveryError

/-! ## What a run should do -/

/-- A mark of the copy to the caller, also where it abends. -/
def isCopy : Mark snarferCalls → Bool
  | .answered (.copyToSecondary ..) _ | .abended (.copyToSecondary ..) _ => true
  | _ => false

/-- The marks of the steps before the copy, all of which went well. -/
def stepsBefore (ecsa : EcsaServices) (clientParmAddr : Nat) (parmList : SnarferServiceParmList)
    (stoken : Nat) : List (Mark snarferCalls) :=
  [.answered (.copyFromSecondary clientParmAddr) parmList, .pushed (snarferEntry ecsa).name,
    .pushed (assbEntry ecsa).name, .answered (.getASSB parmList.sourceASCB) stoken,
    .answered (.allocateECSA (sizeofTransferBuffer + parmList.size)) true,
    .pushed (srbEntry ecsa).name, .answered (.scheduleSynchSRB stoken) (0 : Int)]

/-- **What the function owes.** However a run ends, the recovery stack is as it was, the buffer was
freed once if it was allocated, no null pointer was used for it, and data was copied to the caller
only after every step. -/
structure Balanced (ecsa : EcsaServices) (ids : List Nat) (marks : List (Mark snarferCalls))
    (ending : Ending snarferCalls SnarferState Int) : Prop where
  stack : ending.stack = callers ids
  storage : ending.variables.freed = ending.variables.allocated ∧ ending.variables.allocated ≤ 1
  noFault : ending.variables.faults = 0
  copiedLast : ∀ mark ∈ marks, isCopy mark = true → ∃ clientParmAddr parmList stoken,
    marks = stepsBefore ecsa clientParmAddr parmList stoken ++ [mark]

/-- What goes wrong: the push of an inner environment is refused, or the copy to the caller abends
and it is not a cancel. -/
def slips : Mark snarferCalls → Bool
  | .refused name _ => name != "snarferServiceFunction"
  | .abended (.copyToSecondary ..) abend => !isCancel abend
  | _ => false

/-! ## The steps -/

section
variable {ecsa : EcsaServices} {stack : List (Frame snarferCalls SnarferState Int)}
  {s : SnarferState} {post : List (Mark snarferCalls) → Ending snarferCalls SnarferState Int → Prop}

/-- **A step under recovery.** The stack is as it was, unless the push is refused: then an entry less
is on it. -/
theorem underRecovery_safe {α : Type} {entry : Entry SnarferState} {c : SnarferCall}
    {f : c.Answer → α} {onAbend onRefusal : α} {k : α → SnarferTask Int}
    (retry : entry.retry = true) (kept : entry.deleteOnRetry = false)
    (answered : ∀ answer, Safe (k (f answer)) stack s fun marks =>
      post (.pushed entry.name :: .answered c answer :: marks))
    (abended : ∀ abend, Safe (k onAbend) stack (entry.analysis abend s) fun marks =>
      post (.pushed entry.name :: .abended c abend :: marks))
    (refused : ∀ rc, Safe (k onRefusal) stack.tail s fun marks =>
      post (.refused entry.name rc :: marks)) :
    Safe (underRecovery entry (do
        let answer ← .ask (I := snarferCalls) c
        return f answer) onAbend onRefusal >>= k) stack s post := by
  unfold underRecovery
  rw [Task.bind_assoc]
  refine .push_bind ?_ (fun rc => ?_)
  · refine .ask_bind (I := snarferCalls) (c := c) (fun answer => ?_) (fun abend => ?_)
    · show Safe (Task.recoveryPop >>= fun _ => k (f answer)) _ _ _
      exact .pop_bind (answered answer)
    · refine .retry retry kept ?_
      show Safe (Task.recoveryPop >>= fun _ => k onAbend) _ _ _
      exact .pop_bind (abended abend)
  · show Safe (Task.recoveryPop >>= fun _ => k onRefusal) _ _ _
    exact .pop_bind (refused rc)

end

/-! ## The balance -/

section
variable {ecsa : EcsaServices} {ids : List Nat} {marks : List (Mark snarferCalls)}
  {ending : Ending snarferCalls SnarferState Int}

/-- A run that copies nothing and slips nowhere, and ends as it should. -/
theorem balanced_iff_of_ok (stack : ending.stack = callers ids)
    (storage : ending.variables.freed = ending.variables.allocated ∧
      ending.variables.allocated ≤ 1)
    (noFault : ending.variables.faults = 0) (noCopy : marks.any isCopy = false)
    (noSlip : marks.any slips = false) :
    Balanced ecsa ids marks ending ↔ marks.any slips = false := by
  refine iff_of_true ⟨stack, storage, noFault, ?_⟩ noSlip
  intro mark hmark copies
  exact absurd (List.any_eq_true.mpr ⟨mark, hmark, copies⟩) (Bool.eq_false_iff.mp noCopy)

/-- A run that loses an entry of its caller. -/
theorem balanced_iff_of_lost {id : Nat} (stack : ending.stack = callers ids)
    (slip : marks.any slips = true) :
    Balanced ecsa (id :: ids) marks ending ↔ marks.any slips = false := by
  refine iff_of_false ?_ (fun noSlip => Bool.noConfusion (slip.symm.trans noSlip))
  intro balanced
  have lengths := congrArg List.length (stack.symm.trans balanced.stack)
  simp [callers] at lengths

/-- The state of a run whose buffer is there, and after it is freed. -/
def withBuffer (buffer : TransferBuffer) : SnarferState := ⟨some buffer, 1, 0, 0⟩

def afterBuffer : SnarferState := ⟨none, 1, 1, 0⟩

theorem free_withBuffer (nulls : ∀ buffer, ecsa.afterFree buffer = none) (buffer : TransferBuffer) :
    freeTransferBuffer ecsa (withBuffer buffer) = afterBuffer := by
  show (⟨ecsa.afterFree (some buffer), 1, 1, 0⟩ : SnarferState) = afterBuffer
  rw [nulls]
  rfl

/-- Without a buffer the exit does nothing. -/
theorem cleanup_start (abend : Abend) :
    cleanupSnarfer ecsa abend SnarferState.start = SnarferState.start := by
  unfold cleanupSnarfer
  split
  · rfl
  · rfl

theorem cleanup_withBuffer (nulls : ∀ buffer, ecsa.afterFree buffer = none) (abend : Abend)
    (buffer : TransferBuffer) :
    cleanupSnarfer ecsa abend (withBuffer buffer) =
      if isCancel abend then afterBuffer else withBuffer buffer := by
  unfold cleanupSnarfer
  cases isCancel abend with
  | false => rfl
  | true => exact free_withBuffer nulls buffer

/-- The end of the function: the buffer is freed where it is still there, and the function's own
entry is popped. -/
theorem finish_safe {status : Int} {stack : List (Frame snarferCalls SnarferState Int)}
    {s : SnarferState} {post : List (Mark snarferCalls) → Ending snarferCalls SnarferState Int → Prop}
    (h : post [] (.returned status stack.tail
      (if s.transferBuffer.isSome then freeTransferBuffer ecsa s else s))) :
    Safe (do
        Task.modify fun s => if s.transferBuffer.isSome then freeTransferBuffer ecsa s else s
        Task.recoveryPop
        pure status : SnarferTask Int) stack s post :=
  .modify_bind (.pop_bind (.ret h))

theorem whenOk_failed {status : Int} (failed : status ≠ rcZisSnrfsrvOk) (step : SnarferTask Int) :
    whenOk status step = pure status := if_neg failed

theorem whenOk_ok (step : SnarferTask Int) : whenOk rcZisSnrfsrvOk step = step := if_pos rfl

theorem transfer_failed {status : Int} (failed : status ≠ rcZisSnrfsrvOk)
    (parmList : SnarferServiceParmList) (stoken : Nat) :
    transfer ecsa parmList status stoken = pure status := by
  unfold transfer
  rw [whenOk_failed failed, Task.pure_bind, whenOk_failed failed, Task.pure_bind,
    whenOk_failed failed]

/-- The buffer is there and points at the source, or there is none. -/
theorem prepare_safe {parmList : SnarferServiceParmList} {k : Int → SnarferTask Int}
    {stack : List (Frame snarferCalls SnarferState Int)}
    {post : List (Mark snarferCalls) → Ending snarferCalls SnarferState Int → Prop}
    (obtained : Safe (k rcZisSnrfsrvOk) stack
      (withBuffer ⟨parmList.size, parmList.sourceKey, parmList.sourceAddress⟩) fun marks =>
        post (.answered (.allocateECSA (sizeofTransferBuffer + parmList.size)) true :: marks))
    (notObtained : Safe (k rcZisSnrfsrvEcsaAllocFailed) stack .start fun marks =>
      post (.answered (.allocateECSA (sizeofTransferBuffer + parmList.size)) false :: marks))
    (abended : ∀ abend, SafeAbend (I := snarferCalls)
      (.allocateECSA (sizeofTransferBuffer + parmList.size)) abend stack .start post) :
    Safe (prepareTransferBuffer parmList >>= k) stack .start post := by
  unfold prepareTransferBuffer allocateTransferBuffer
  rw [Task.bind_assoc, Task.bind_assoc]
  refine .ask_bind (I := snarferCalls) (c := .allocateECSA _) (fun answer => ?_) abended
  cases answer with
  | true =>
    rw [if_pos rfl, Task.bind_assoc]
    refine .modify_bind ?_
    rw [Task.pure_bind, whenOk_ok, Task.bind_assoc]
    exact .modify_bind obtained
  | false =>
    rw [if_neg Bool.false_ne_true, Task.bind_assoc]
    refine .modify_bind ?_
    rw [Task.pure_bind, whenOk_failed (by decide), Task.pure_bind]
    exact notObtained

/-- Where only the last mark is of the copy, it comes after every step. -/
theorem copied_last (clientParmAddr : Nat) (parmList : SnarferServiceParmList) (stoken : Nat)
    (last : Mark snarferCalls) :
    ∀ mark ∈ stepsBefore ecsa clientParmAddr parmList stoken ++ [last], isCopy mark = true →
      ∃ clientParmAddr' parmList' stoken',
        stepsBefore ecsa clientParmAddr parmList stoken ++ [last] =
          stepsBefore ecsa clientParmAddr' parmList' stoken' ++ [mark] := by
  have noCopy : (stepsBefore ecsa clientParmAddr parmList stoken).any isCopy = false := rfl
  intro mark hmark copies
  rcases List.mem_append.mp hmark with early | late
  · exact absurd (List.any_eq_true.mpr ⟨mark, early, copies⟩) (Bool.eq_false_iff.mp noCopy)
  · cases List.mem_singleton.mp late
    exact ⟨clientParmAddr, parmList, stoken, rfl⟩

/-- **The transfer.** What the run comes to from the allocation on, with the function's own entry on
the stack. -/
theorem transfer_safe (nulls : ∀ buffer, ecsa.afterFree buffer = none) (id : Nat)
    (clientParmAddr : Nat) (parmList : SnarferServiceParmList) (stoken : Nat)
    (resume : SnarferTask Int) :
    Safe (do
        let status ← transfer ecsa parmList rcZisSnrfsrvOk stoken
        Task.modify fun s => if s.transferBuffer.isSome then freeTransferBuffer ecsa s else s
        Task.recoveryPop
        pure status : SnarferTask Int)
      (.own (snarferEntry ecsa) resume :: callers (id :: ids)) .start fun marks ending =>
        let before : List (Mark snarferCalls) :=
          [.answered (.copyFromSecondary clientParmAddr) parmList, .pushed (snarferEntry ecsa).name,
            .pushed (assbEntry ecsa).name, .answered (.getASSB parmList.sourceASCB) stoken]
        Balanced ecsa (id :: ids) (before ++ marks) ending ↔
          (before ++ marks).any slips = false := by
  have freed (buffer : TransferBuffer) :
      (if (withBuffer buffer).transferBuffer.isSome then freeTransferBuffer ecsa (withBuffer buffer)
        else withBuffer buffer) = afterBuffer := free_withBuffer nulls buffer
  unfold transfer
  rw [whenOk_ok, Task.bind_assoc]
  refine prepare_safe ?_ ?_ (fun abend => ?_)
  · rw [whenOk_ok, Task.bind_assoc]
    unfold scheduleSnarfer
    refine underRecovery_safe rfl rfl (fun ieamschdRC => ?_) (fun abend => ?_) (fun rc => ?_)
    · by_cases scheduled : ieamschdRC = 0
      · rw [if_neg (not_not.mpr scheduled), whenOk_ok, Task.bind_assoc]
        subst scheduled
        refine .modify_bind ?_
        rw [Task.bind_assoc]
        refine .ask_bind (I := snarferCalls) (c := .copyToSecondary ..)
          (fun copied => ?_) (fun abend => ?_)
        · refine finish_safe ?_
          refine iff_of_true ⟨rfl, ?_, ?_, copied_last clientParmAddr parmList stoken _⟩ rfl
          · exact (freed _).symm ▸ ⟨rfl, Nat.le_refl 1⟩
          · exact (freed _).symm ▸ rfl
        · -- only the function's own entry is there, and it percolates
          refine .percolate rfl (.leave ?_)
          show Balanced _ _ _
            (.percolated abend _ (cleanupSnarfer ecsa abend (withBuffer _))) ↔ _
          rw [cleanup_withBuffer nulls]
          cases cancel : isCancel abend with
          | true =>
            refine iff_of_true
              ⟨rfl, ⟨rfl, Nat.le_refl 1⟩, rfl, copied_last clientParmAddr parmList stoken _⟩ ?_
            show (!isCancel abend || false) = false
            rw [cancel]
            rfl
          | false =>
            refine iff_of_false (fun balanced => Nat.zero_ne_one balanced.storage.1) ?_
            show ¬(!isCancel abend || false) = false
            rw [cancel]
            decide
      · rw [if_pos scheduled, whenOk_failed (by decide), Task.pure_bind]
        refine finish_safe ?_
        rw [freed]
        exact balanced_iff_of_ok rfl ⟨rfl, Nat.le_refl 1⟩ rfl rfl rfl
    · rw [whenOk_failed (by decide), Task.pure_bind]
      refine finish_safe ?_
      show Balanced _ _ _ (.returned _ _
        (if (cleanupSnarfer ecsa abend (withBuffer _)).transferBuffer.isSome
          then freeTransferBuffer ecsa (cleanupSnarfer ecsa abend (withBuffer _))
          else cleanupSnarfer ecsa abend (withBuffer _))) ↔ _
      rw [cleanup_withBuffer nulls]
      cases isCancel abend with
      | true => exact balanced_iff_of_ok rfl ⟨rfl, Nat.le_refl 1⟩ rfl rfl rfl
      | false =>
        rw [if_neg Bool.false_ne_true, freed]
        exact balanced_iff_of_ok rfl ⟨rfl, Nat.le_refl 1⟩ rfl rfl rfl
    · rw [whenOk_failed (by decide), Task.pure_bind]
      exact finish_safe (balanced_iff_of_lost rfl rfl)
  · rw [whenOk_failed (by decide), Task.pure_bind, whenOk_failed (by decide), Task.pure_bind]
    exact finish_safe (balanced_iff_of_ok rfl ⟨rfl, Nat.zero_le _⟩ rfl rfl rfl)
  · refine .percolate rfl (.leave ?_)
    show Balanced ecsa _ _ (.percolated abend _ (cleanupSnarfer ecsa abend SnarferState.start)) ↔ _
    rw [cleanup_start]
    exact balanced_iff_of_ok rfl ⟨rfl, Nat.zero_le _⟩ rfl rfl rfl

/-- **The balance.** However a request and its steps go, and wherever an abend occurs, the function
does what it owes exactly where no push of an inner environment is refused and the copy to the
caller is not left by an abend that is no cancel. -/
theorem snarfer_balanced_iff (nulls : ∀ buffer, ecsa.afterFree buffer = none) (id : Nat)
    (clientParmAddr : Option Nat)
    (run : Exec (zisSnarferServiceFunction ecsa clientParmAddr) (callers (id :: ids)) .start marks
      ending) :
    Balanced ecsa (id :: ids) marks ending ↔ marks.any slips = false := by
  revert run
  suffices safe : Safe (zisSnarferServiceFunction ecsa clientParmAddr) (callers (id :: ids)) .start
      fun marks ending => Balanced ecsa (id :: ids) marks ending ↔ marks.any slips = false from
    fun run => safe marks ending run
  unfold zisSnarferServiceFunction
  cases clientParmAddr with
  | none => exact .ret (balanced_iff_of_ok rfl ⟨rfl, Nat.zero_le _⟩ rfl rfl rfl)
  | some clientParmAddr =>
  refine .ask_bind (I := snarferCalls) (c := .copyFromSecondary _) (fun parmList => ?_)
    (fun abend => .leave (balanced_iff_of_ok rfl ⟨rfl, Nat.zero_le _⟩ rfl rfl rfl))
  dsimp only
  cases parmListRefusal ecsa parmList with
  | some rc => exact .ret (balanced_iff_of_ok rfl ⟨rfl, Nat.zero_le _⟩ rfl rfl rfl)
  | none =>
  refine .push_bind ?_
    (fun rc => .ret (balanced_iff_of_ok rfl ⟨rfl, Nat.zero_le _⟩ rfl rfl rfl))
  dsimp only
  unfold lookUpAssb
  refine underRecovery_safe rfl rfl (fun stoken => ?_) (fun abend => ?_) (fun rc => ?_)
  · exact transfer_safe nulls id clientParmAddr parmList stoken _
  · dsimp only
    rw [transfer_failed (by decide), Task.pure_bind]
    refine finish_safe ?_
    show Balanced _ _ _ (.returned _ _ (if (cleanupSnarfer ecsa abend .start).transferBuffer.isSome
      then _ else cleanupSnarfer ecsa abend .start)) ↔ _
    rw [cleanup_start]
    exact balanced_iff_of_ok rfl ⟨rfl, Nat.zero_le _⟩ rfl rfl rfl
  · dsimp only
    rw [transfer_failed (by decide), Task.pure_bind]
    exact finish_safe (balanced_iff_of_lost rfl rfl)

end

/-! ## A refused push -/

def sampleEcsa : EcsaServices := ⟨65536, fun _ => none⟩

def sampleAnswers : (c : SnarferCall) → c.Answer
  | .copyFromSecondary _ => ⟨"RSSNRFSR", 0x8000, 0x9000, 0xF000, 8, 64⟩
  | .getASSB _ => 1
  | .allocateECSA _ => true
  | .scheduleSynchSRB _ => (0 : Int)
  | .copyToSecondary .. => ()

/-- A request whose steps all go well, but for the pushes refused. -/
def sampleRun (refusals : String → Option Int) :
    List (Mark snarferCalls) × Ending snarferCalls SnarferState Int :=
  (zisSnarferServiceFunction sampleEcsa (some 0x7000)).run sampleAnswers refusals (callers [1])
    .start

theorem snarfer_balanced_iff_sample :
    Balanced sampleEcsa [1] (sampleRun fun _ => none).1 (sampleRun fun _ => none).2 ↔
      (sampleRun fun _ => none).1.any slips = false :=
  snarfer_balanced_iff (fun _ => rfl) 1 (some 0x7000) (Task.exec_run _ _ _ _ _)

/-- The push around the lookup is refused. -/
def refuseAssb (name : String) : Option Int :=
  if name = "snarferServiceFunction->getASSB" then some 8 else none

/-- **A refused push.** The function returns with the entry of the PC routine gone. -/
theorem refused_push_unbalanced :
    Exec (zisSnarferServiceFunction sampleEcsa (some 0x7000)) (callers [1]) .start
        (sampleRun refuseAssb).1 (sampleRun refuseAssb).2 ∧
      ¬Balanced sampleEcsa [1] (sampleRun refuseAssb).1 (sampleRun refuseAssb).2 := by
  refine ⟨Task.exec_run _ _ _ _ _, ?_⟩
  intro balanced
  have lost : ([] : List (Frame snarferCalls SnarferState Int)) = callers [1] := balanced.stack
  cases lost

end Zss.Services.Snarfer
