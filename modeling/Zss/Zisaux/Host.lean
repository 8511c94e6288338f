import Zss.Lib.Heap
import Zss.Lib.Machine
import Zss.Lib.PauseElement
import Zss.Zisaux.Request

/-!
# The AUX host: requesters, workers and those who release them

The parties of `aux-host.c` as steps over what they share. A requester runs
`scheduleCommRequestProcessing` under its caller's task: it takes a pause element from the queue,
copies the caller's parameter list to its own stack, queues a work element with the address of that
copy and a copy of the element's token, and pauses. A worker task processes the work element and
releases the requester. The cancel path and the abend exit of the host release every element,
whoever waits on it, and the system releases the waiters of an address space that terminates.

The caller's storage is not the host's. A call fetches the parameter list from it twice, to check it
and to work on it, and writes the copy back in the end; each of the three may abend, which the PC
routine recovers from without a word to what was taken before, and the second fetch may find another
list than the first.

A request record holds both its requester and its worker, the copy, and some bookkeeping the code
does not have: whether the copy holds an access, how often it was cleaned, how often the work
element was removed, what dispatch was finished. A step of a request touches its own record, its own
slot of the pause element array and the queue of free slots (`Request.step`); `Host.uses` lists what
workers did to the copy or the element of a request, and whether the request was still pending.

The ready and termination flags of the communication area, which no step here reads, are left out.
-/

namespace Zss.Zisaux

open Zss.Lib

/-! ## Requests -/

/-- Where the requester is. -/
inductive Phase where
  /-- The PC routine refused the call before its recovery environment. -/
  | refused
  | taken
  | checked
  | copied
  | queued
  | waiting
  | resumed (code updatedPET : Nat)
  | completed (status : Int)
  | returned (status : Int)
  | abended
  | left (status : Option Int) (terminated : Bool) (returnCode : Int)

/-- Where the work element is. `lost` is a work element nobody will remove. -/
inductive Work where
  | none
  | queued
  | scheduled
  | started
  | handled
  | releaseFailed
  | released
  | removed
  | lost
deriving DecidableEq

structure Request where
  call : PcCall
  /-- The caller's parameter list, as it was fetched first or written back. -/
  parm : CommServiceParmList
  /-- The slot of `requestPET`. -/
  slot : Nat
  /-- `requestPET` is out of the queue. -/
  holds : Bool
  phase : Phase
  /-- `serviceParmListCopy`, on the requester's stack. -/
  copy : CommServiceParmList
  /-- `completionPET` of the work element. -/
  completionPET : Nat
  work : Work
  /-- The code the pause returned. -/
  releaseCode : Option Nat
  handled : Option Handled
  /-- The copy holds or held an access to shared storage, or was completed without one. -/
  obtained : Bool
  cleans : Nat
  removes : Nat

/-- One entry of the pause element array: the element, and the token stored in `requestPETs`. -/
structure Slot where
  element : PauseElement
  pet : Nat
deriving DecidableEq

/-- The request has a work element and its requester was not resumed. -/
def Request.pending (r : Request) (s : Slot) : Bool :=
  match r.phase with
  | .queued => true
  | .waiting => s.element.state == .paused
  | _ => false

/-- What a worker does with something of the requester. -/
inductive UseKind where
  | accessCopy
  | cleanCopy
  | releaseElement

/-- A step of one request, with what the program does not decide. -/
inductive RequestEvent where
  | check (testRC : Int)
  /-- `copyServiceParmList`; the fetch from the caller's storage finds a list, or abends. -/
  | copy (fetched : Option CommServiceParmList) (payloadAccess responseAccess : Bool)
  | enqueue (storage : Bool)
  | pause (pauseRC : Int)
  | resume
  | reinsert
  /-- The update of the caller's list, which may abend, and the cleanup after it. -/
  | finish (updated payloadRemoved responseRemoved : Bool)
  | leave (terminated : Bool)
  | dispatch (task : Bool)
  | start (recovery : Bool)
  | handle (env : HandlerEnv)
  | release
  | clean
  | remove
  | workerAbend

/-- What a step of a request leaves: its record, its slot, and a worker's use of the requester. -/
structure Local where
  request : Request
  slot : Slot
  use : Option UseKind

/-- `isPETValid`. -/
def isPetValid (testRC : Int) (pe : PauseElement) : Bool :=
  if testRC ≠ 0 then false
  else if pe.state = .paused then false
  else true

/-- A worker that gives up: it releases the requester with a code and leaves the work element. -/
def Request.giveUp (r : Request) (s : Slot) (code : Nat) : Local where
  request := { r with work := .lost }
  slot := { s with element := s.element.releaseD r.completionPET code }
  use := some .releaseElement

/-- Whether a worker runs under the recovery of `asyncRequestHanler`. -/
def Work.underRecovery : Work → Bool
  | .started | .handled | .releaseFailed | .released => true
  | _ => false

/-- A step of `scheduleCommRequestProcessing` and of the PC routine around it. -/
def Request.requesterStep (r : Request) (s : Slot) : RequestEvent → Option Local
  | .check testRC =>
    match r.phase with
    | .taken =>
      if isPetValid testRC s.element then some ⟨{ r with phase := .checked }, s, none⟩
      else some ⟨{ r with phase := .returned rcZisauxBadPet }, s, none⟩
    | _ => none
  | .copy fetched payloadAccess responseAccess =>
    match r.phase with
    | .checked =>
      match fetched with
      | none => some ⟨{ r with phase := .abended }, s, none⟩
      | some list =>
        let result := copyServiceParmList payloadAccess responseAccess list
        let r := { r with copy := list, obtained := result.obtained }
        if result.rc = rcZisauxOk then some ⟨{ r with phase := .copied }, s, none⟩
        else some ⟨{ r with phase := .returned result.rc }, s, none⟩
    | _ => none
  | .enqueue storage =>
    match r.phase with
    | .copied =>
      if storage then
        some ⟨{ r with phase := .queued, work := .queued, completionPET := s.pet }, s, none⟩
      else some ⟨{ r with phase := .completed rcZisauxAllocFailed }, s, none⟩
    | _ => none
  | .pause pauseRC =>
    match r.phase with
    | .queued =>
      if pauseRC ≠ 0 then some ⟨{ r with phase := .abended }, s, none⟩
      else some ⟨{ r with phase := .waiting }, { s with element := s.element.pause }, none⟩
    | _ => none
  | .resume =>
    match r.phase with
    | .waiting =>
      match s.element.take with
      | some (element, code) =>
        some ⟨{ r with phase := .resumed code element.token, releaseCode := some code },
          { s with element := element }, none⟩
      | none => none
    | _ => none
  | .reinsert =>
    match r.phase with
    | .resumed code updatedPET =>
      some ⟨{ r with phase := .completed (statusOfRelease code r.copy), holds := false },
        { s with pet := updatedPET }, none⟩
    | _ => none
  | .finish updated payloadRemoved responseRemoved =>
    match r.phase with
    | .completed status =>
      if updated then
        let cleanRC := cleanServiceParmListCopy payloadRemoved responseRemoved r.copy
        some ⟨{ r with
          parm := r.copy
          copy := .zero
          cleans := r.cleans + 1
          phase := .returned (statusAfterClean status cleanRC) }, s, none⟩
      else some ⟨{ r with phase := .abended }, s, none⟩
    | _ => none
  | .leave terminated =>
    match r.phase with
    | .returned status =>
      some ⟨{ r with
        phase := .left (some status) terminated
          (handleCommunicationPcss r.call (some status) terminated) }, s, none⟩
    | .abended | .refused =>
      some ⟨{ r with
        phase := .left none terminated (handleCommunicationPcss r.call none terminated) }, s, none⟩
    | _ => none
  | _ => none

/-- A step of `workElementHandler`, `asyncRequestHanler` and `handleCommRequest`. -/
def Request.workerStep (r : Request) (s : Slot) : RequestEvent → Option Local
  | .dispatch task =>
    match r.work with
    | .queued =>
      if task then some ⟨{ r with work := .scheduled }, s, none⟩
      else some (r.giveUp s zisauxPeRcScheduleError)
    | _ => none
  | .start recovery =>
    match r.work with
    | .scheduled =>
      if recovery then some ⟨{ r with work := .started }, s, none⟩
      else some (r.giveUp s zisauxPeRcEnvError)
    | _ => none
  | .handle env =>
    match r.work with
    | .started =>
      some ⟨{ r with
        work := .handled
        copy := (handleCommRequest env r.copy).1
        handled := some (handleCommRequest env r.copy).2 }, s, some .accessCopy⟩
    | _ => none
  | .release =>
    match r.work with
    | .handled =>
      match s.element.release r.completionPET zisauxPeOk with
      | some element =>
        some ⟨{ r with work := .released }, { s with element := element }, some .releaseElement⟩
      | none => some ⟨{ r with work := .releaseFailed }, s, some .releaseElement⟩
    | _ => none
  | .clean =>
    match r.work with
    | .releaseFailed =>
      some ⟨{ r with work := .released, copy := .zero, cleans := r.cleans + 1 }, s,
        some .cleanCopy⟩
    | _ => none
  | .remove =>
    match r.work with
    | .released => some ⟨{ r with work := .removed, removes := r.removes + 1 }, s, none⟩
    | _ => none
  | .workerAbend =>
    if r.work.underRecovery then some (r.giveUp s zisauxPeRcWorkerAbend) else none
  | _ => none

/-- A step of one request. -/
def Request.step (r : Request) (s : Slot) (e : RequestEvent) : Option Local :=
  match e with
  | .check _ | .copy _ _ _ | .enqueue _ | .pause _ | .resume | .reinsert | .finish _ _ _
  | .leave _ => r.requesterStep s e
  | _ => r.workerStep s e

/-! ## The host -/

/-- A worker's use of something of a request's requester. -/
structure Use where
  request : Addr
  kind : UseKind
  pending : Bool

/-- The host's pause elements and their queue, its requests, and the uses made so far, newest
first. -/
structure Host where
  slots : Nat → Slot
  available : List Nat
  requests : Heap Request
  uses : List Use

/-- Who releases every pause element: the cancel path, or the host's abend exit. -/
inductive Notifier where
  | cancel
  | hostAbend

def Notifier.releaseCode : Notifier → Nat
  | .cancel => zisauxPeRcCancel
  | .hostAbend => zisauxPeRcHostAbend

/-- One step of the system. `notify` is one turn of the loop of `notifyAllPendingCallers`, and
`terminate` the release of a waiter by the system when the address space ends. -/
inductive HostEvent where
  /-- The fetch that is checked finds a list, or abends. -/
  | call (call : PcCall) (fetched : Option CommServiceParmList)
  | request (r : Addr) (e : RequestEvent)
  | notify (notifier : Notifier) (slot : Nat)
  | terminate (slot : Nat)

/-- A request record before anything was done for it. -/
def Request.new (call : PcCall) (parm : CommServiceParmList) : Request where
  call := call
  parm := parm
  slot := 0
  holds := false
  phase := .refused
  copy := .zero
  completionPET := 0
  work := .none
  releaseCode := none
  handled := none
  obtained := false
  cleans := 0
  removes := 0

/-- A call of the PC routine up to `qRemove`: the request it makes, and the slots left. -/
def Request.ofCall (available : List Nat) (call : PcCall) (fetched : Option CommServiceParmList) :
    Request × List Nat :=
  let request := Request.new call (fetched.getD .zero)
  if call.callersKey ≠ zisauxCallerKey ∨ !call.environmentEstablished ∨ !call.recoveryEstablished
  then (request, available)
  else
    match fetched with
    | none =>
      ({ request with phase := (checksBeforeFetch call).elim .abended .returned }, available)
    | some parm =>
      match handleUnsafePcss call parm with
      | some rc => ({ request with phase := .returned rc }, available)
      | none =>
        match available with
        | [] => ({ request with phase := .returned rcZisauxRequestLimitReached }, [])
        | slot :: rest => ({ request with slot := slot, holds := true, phase := .taken }, rest)

/-- A slot after a release with the token of the array. -/
def Slot.notify (s : Slot) (code : Nat) : Slot :=
  { s with element := s.element.releaseD s.pet code }

/-- A slot after the system released its waiter. -/
def Slot.terminate (s : Slot) : Slot :=
  if s.element.state = .paused then
    { s with element := { s.element with state := .released zisauxPeRcTerm } }
  else s

/-- One step of the host. -/
def Host.step (h : Host) : HostEvent → Option Host
  | .call call fetched =>
    let made := Request.ofCall h.available call fetched
    some { h with available := made.2, requests := h.requests.alloc made.1 }
  | .request r e =>
    match h.requests.read r with
    | none => none
    | some req =>
      match req.step (h.slots req.slot) e with
      | none => none
      | some l =>
        some
          { slots := Function.update h.slots req.slot l.slot
            available :=
              if req.holds && !l.request.holds then h.available ++ [req.slot] else h.available
            requests := h.requests.update r fun _ => l.request
            uses := l.use.toList.map (⟨r, ·, req.pending (h.slots req.slot)⟩) ++ h.uses }
  | .notify notifier slot =>
    if slot < zisauxMaxRequestCount then
      some { h with
        slots := Function.update h.slots slot ((h.slots slot).notify notifier.releaseCode) }
    else none
  | .terminate slot =>
    if slot < zisauxMaxRequestCount then
      some { h with slots := Function.update h.slots slot (h.slots slot).terminate }
    else none

/-- The host as a machine. -/
def auxHost : Machine Host HostEvent := ⟨Host.step⟩

/-- What `makeContext` meets. -/
structure ContextEnv where
  contextStorage : Bool
  queueStorage : Bool
  arrayStorage : Bool
  peAlloc : Nat → Bool
  parmSetStorage : Bool
  resourceManager : Bool

/-- `makeContext`, as the host it leaves, if any. -/
def makeContext (env : ContextEnv) : Option Host :=
  if env.contextStorage && env.queueStorage && env.arrayStorage &&
      (List.range zisauxMaxRequestCount).all env.peAlloc && env.parmSetStorage &&
      env.resourceManager then
    some
      { slots := fun _ => ⟨.fresh, PauseElement.fresh.token⟩
        available := List.range zisauxMaxRequestCount
        requests := .empty
        uses := [] }
  else none

end Zss.Zisaux
