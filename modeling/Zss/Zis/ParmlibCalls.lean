import Zss.Lib.Machine
import Zss.Lib.Program
import Zss.Zis.Parm

/-!
# The calls of a PARMLIB read

`zisReadParmlib` as the calls it makes: of the logical PARMLIB service, for the storage of the read
buffer, and to the member it finds in that buffer. Their answers are the world's, a buffer-full
answer to each of the two reads included.

`parmlibRules` are the rules of these calls. A buffer is read into and released only while it is
there, a member is looked for only in a buffer that the last read filled, an allocation is freed
only by the one who made it. The state of the rules keeps the status of the first step that failed.

## What is not established

That the logical PARMLIB service answers rightly, and that the parameters found in a member are the
right ones (`Zss.Zis.ParmGrammar`).
-/

namespace Zss.Zis

open Zss.Lib Program

/-! ## The calls -/

/-- What `readLogicalParmLib` returns, with the size it leaves in the buffer. -/
structure ReadAnswer where
  readRC : Int
  readRSN : Int
  sizeRequired : Nat

/-- The calls. `memberContent` is the look of `iterateMember` at the records of a buffer. -/
inductive ParmlibCall where
  | allocLogicalParmLib (ddname : Text)
  | safeMalloc31 (size : Nat)
  | readLogicalParmLib (ddname member : Text) (readBuffer : Nat)
  | freeReadBuffer (readBuffer : Nat)
  | memberContent (readBuffer : Option Nat)
  | freeLogicalParmLib (ddname : Text)

abbrev ParmlibCall.Answer : ParmlibCall → Type
  | .allocLogicalParmLib _ => ZisParmStatus
  | .safeMalloc31 _ => Option Nat
  | .readLogicalParmLib .. => ReadAnswer
  | .freeReadBuffer _ => Unit
  | .memberContent _ => List Text
  | .freeLogicalParmLib _ => ZisParmStatus

@[reducible] def parmlib : Interface := ⟨ParmlibCall, ParmlibCall.Answer⟩

/-- A name in its field of eight. -/
def spacePadded (name : Text) : Text := name ++ List.replicate (8 - name.length) ' '

def allocLogicalParmLib (ddname : Text) : Program parmlib ZisParmStatus :=
  ask (I := parmlib) (.allocLogicalParmLib ddname)

def safeMalloc31 (size : Nat) : Program parmlib (Option Nat) :=
  ask (I := parmlib) (.safeMalloc31 size)

def readLogicalParmLib (ddname member : Text) (readBuffer : Nat) : Program parmlib ReadAnswer :=
  ask (I := parmlib) (.readLogicalParmLib ddname member readBuffer)

def freeReadBuffer (readBuffer : Nat) : Program parmlib Unit :=
  ask (I := parmlib) (.freeReadBuffer readBuffer)

def memberContent (readBuffer : Option Nat) : Program parmlib (List Text) :=
  ask (I := parmlib) (.memberContent readBuffer)

def freeLogicalParmLib (ddname : Text) : Program parmlib ZisParmStatus :=
  ask (I := parmlib) (.freeLogicalParmLib ddname)

/-- `allocReadBuffer`. -/
def allocReadBuffer (size : Nat) : Program parmlib (Option Nat) :=
  if size ≤ iefprmlbHeaderSize then pure none else safeMalloc31 size

def ReadAnswer.NotFound (answer : ReadAnswer) : Prop :=
  answer.readRC = rcIefprmlbFailed ∧ answer.readRSN = rsnIefprmlbMemberNotFound

def ReadAnswer.Full (answer : ReadAnswer) : Prop :=
  answer.readRC = rcIefprmlbFailed ∧ answer.readRSN = rsnIefprmlbBufferFull

instance (answer : ReadAnswer) : Decidable answer.NotFound := by
  unfold ReadAnswer.NotFound; infer_instance

instance (answer : ReadAnswer) : Decidable answer.Full := by
  unfold ReadAnswer.Full; infer_instance

/-- The read loop with its turns left: the status, the read buffer and the codes of the service. -/
def readLoop (ddname member : Text) (readStatus : ZisParmStatus) :
    Nat → Nat → Program parmlib (Int × Option Nat × ZisParmStatus)
  | 0, _ => pure (rcZisparmOk, none, readStatus)
  | turns + 1, readBufferSize => do
    match ← allocReadBuffer readBufferSize with
    | none => pure (rcZisparmReadBufferAllocFailed, none, readStatus)
    | some readBuffer =>
      let answer ← readLogicalParmLib ddname member readBuffer
      if answer.readRC = rcIefprmlbOk then pure (rcZisparmOk, some readBuffer, readStatus)
      else if answer.NotFound then pure (rcZisparmMemberNotFound, some readBuffer, readStatus)
      else if answer.Full then do
        freeReadBuffer readBuffer
        readLoop ddname member readStatus turns answer.sizeRequired
      else
        -- the next turn ends the loop by its status
        pure (rcZisparmParmlibReadFailed, some readBuffer, ⟨answer.readRC, answer.readRSN⟩)

/-- The DD is there for the read, allocated now or before. -/
def ZisParmStatus.Usable (alloc : ZisParmStatus) : Prop :=
  alloc.internalRC = rcIefprmlbOk ∨
    alloc.internalRC = rcIefprmlbWarn ∧ alloc.internalRSN = rsnIefprmlbAlreadyAllocated

instance (alloc : ZisParmStatus) : Decidable alloc.Usable := by
  unfold ZisParmStatus.Usable; infer_instance

/-- The read of the member, where the DD is there. -/
def readAllocated (ddname member : Text) (readStatus alloc : ZisParmStatus) :
    Program parmlib (Int × Option Nat × ZisParmStatus) :=
  if alloc.Usable then readLoop ddname member readStatus 2 readBufferDefaultSize
  else pure (rcZisparmParmlibAllocFailed, none, alloc)

section

variable {σ : Type} (slhAlloc : σ → Nat → Option σ) (recordSize : Nat)

/-- The records of a member put into the parameter set. -/
def iterateRecords (parms : ZisParmSet σ) (readStatus : ZisParmStatus) (records : List Text) :
    Int × ZisParmSet σ × ZisParmStatus :=
  match iterateMember slhAlloc recordSize records ⟨parms, 0, 0, []⟩ with
  | (iterateRC, context) =>
    if iterateRC ≠ rcZisparmOk then
      (iterateRC, context.parmSet, ⟨context.currRecordStart, context.currRecordEnd⟩)
    else (rcZisparmOk, context.parmSet, readStatus)

/-- The member in the buffer put into the parameter set, where the read went well. -/
def iterateBuffer (parms : ZisParmSet σ) (status : Int) (readBuffer : Option Nat)
    (readStatus : ZisParmStatus) : Program parmlib (Int × ZisParmSet σ × ZisParmStatus) :=
  if status ≠ rcZisparmOk then pure (status, parms, readStatus)
  else do
    let records ← memberContent readBuffer
    pure (iterateRecords slhAlloc recordSize parms readStatus records)

/-- The read buffer released, where there is one. -/
def freeBuffer : Option Nat → Program parmlib Unit
  | none => pure ()
  | some readBuffer => freeReadBuffer readBuffer

/-- The DD freed, where it was allocated here. -/
def freeDdname (ddname : Text) (ddnameAllocated : Bool)
    (result : Int × ZisParmSet σ × ZisParmStatus) :
    Program parmlib (Int × ZisParmSet σ × ZisParmStatus) :=
  if !ddnameAllocated then pure result
  else do
    let free ← freeLogicalParmLib ddname
    if free.internalRC = rcIefprmlbOk then pure result
    -- the test is the other way round: a failure that is known is replaced
    else if result.1 ≠ rcZisparmOk then pure (rcZisparmParmlibFreeFailed, result.2.1, free)
    else pure result

/-- What follows the read: the member put into the parameter set, and what is held released. -/
def finishRead (parms : ZisParmSet σ) (ddname : Text) (ddnameAllocated : Bool)
    (read : Int × Option Nat × ZisParmStatus) :
    Program parmlib (Int × ZisParmSet σ × ZisParmStatus) := do
  let result ← iterateBuffer slhAlloc recordSize parms read.1 read.2.1 read.2.2
  freeBuffer read.2.1
  freeDdname ddname ddnameAllocated result

/-- `zisReadParmlib` by its calls. -/
def zisReadParmlibCalls (parms : ZisParmSet σ) (ddname member : Text)
    (readStatus : ZisParmStatus) : Program parmlib (Int × ZisParmSet σ × ZisParmStatus) :=
  if ddname.length > 8 then pure (rcZisparmDdnameTooLong, parms, readStatus)
  else if member.length > 8 then pure (rcZisparmMemberNameTooLong, parms, readStatus)
  else do
    let ddname := spacePadded ddname
    let alloc ← allocLogicalParmLib ddname
    let read ← readAllocated ddname (spacePadded member) readStatus alloc
    finishRead slhAlloc recordSize parms ddname (alloc.internalRC = rcIefprmlbOk) read

end

/-! ## The rules of the calls -/

/-- What is held, and what became of the steps. -/
structure ParmlibUse where
  allocated : Bool
  buffers : List Nat
  filled : Option Nat
  retried : Bool
  status : Int

/-- Nothing is held and nothing has failed. -/
def ParmlibUse.unused : ParmlibUse := ⟨false, [], none, false, rcZisparmOk⟩

/-- A step ended with a status; the first failure stays. -/
def ParmlibUse.note (use : ParmlibUse) (status : Int) : ParmlibUse :=
  if use.status = rcZisparmOk then { use with status := status } else use

/-- The status a read step ends with. A full buffer is no failure the first time, unless there is no
buffer of the size asked for. -/
def ReadAnswer.status (answer : ReadAnswer) (retried : Bool) : Int :=
  if answer.readRC = rcIefprmlbOk then rcZisparmOk
  else if answer.NotFound then rcZisparmMemberNotFound
  else if answer.Full ∧ !retried then
    if answer.sizeRequired ≤ iefprmlbHeaderSize then rcZisparmReadBufferAllocFailed
    else rcZisparmOk
  else rcZisparmParmlibReadFailed

/-- The rules; `parse` is the status a member's records end with. -/
def parmlibRules (parse : List Text → Int) : Machine ParmlibUse (Event parmlib) where
  step use
    | ⟨.allocLogicalParmLib _, (alloc : ZisParmStatus)⟩ =>
      some ({ use with allocated := alloc.internalRC = rcIefprmlbOk }.note
        (if alloc.Usable then rcZisparmOk else rcZisparmParmlibAllocFailed))
    | ⟨.safeMalloc31 _, (none : Option Nat)⟩ => some (use.note rcZisparmReadBufferAllocFailed)
    | ⟨.safeMalloc31 _, (some readBuffer : Option Nat)⟩ =>
      some { use with buffers := readBuffer :: use.buffers }
    | ⟨.readLogicalParmLib _ _ readBuffer, (answer : ReadAnswer)⟩ =>
      if readBuffer ∈ use.buffers then
        some ({ use with
          filled := if answer.readRC = rcIefprmlbOk then some readBuffer else none
          retried := use.retried || answer.Full }.note (answer.status use.retried))
      else none
    | ⟨.freeReadBuffer readBuffer, _⟩ =>
      if readBuffer ∈ use.buffers then
        some { use with
          buffers := use.buffers.erase readBuffer
          filled := if use.filled = some readBuffer then none else use.filled }
      else none
    | ⟨.memberContent readBuffer, (records : List Text)⟩ =>
      if readBuffer.isSome ∧ use.filled = readBuffer then some (use.note (parse records)) else none
    | ⟨.freeLogicalParmLib _, (free : ZisParmStatus)⟩ =>
      if use.allocated then
        some ({ use with allocated := false }.note
          (if free.internalRC = rcIefprmlbOk then rcZisparmOk else rcZisparmParmlibFreeFailed))
      else none

/-- The status before the first call. -/
def namesStatus (ddname member : Text) : Int :=
  if ddname.length > 8 then rcZisparmDdnameTooLong
  else if member.length > 8 then rcZisparmMemberNameTooLong
  else rcZisparmOk

/-- The calls go by the rules, nothing is left held, and the status is that of the first step that
failed. -/
def Settled (parse : List Text → Int) (ddname member : Text) (events : List (Event parmlib))
    (status : Int) : Prop :=
  ∃ use, (parmlibRules parse).run (ParmlibUse.unused.note (namesStatus ddname member)) events =
      some use ∧
    use.buffers = [] ∧ use.allocated = false ∧ use.status = status

/-- A read that answers that the buffer is full. -/
def IsFull : Event parmlib → Bool
  | ⟨.readLogicalParmLib .., (answer : ReadAnswer)⟩ => answer.Full
  | _ => false

/-- A free that does not fail. -/
def FreeOk : Event parmlib → Prop
  | ⟨.freeLogicalParmLib _, (free : ZisParmStatus)⟩ => free.internalRC = rcIefprmlbOk
  | _ => True

/-! ## What the phases leave -/

variable {parse : List Text → Int}

/-- The buffer-full answers of a run. -/
def fulls (events : List (Event parmlib)) : Nat := events.countP IsFull

@[simp] theorem fulls_nil : fulls [] = 0 := rfl

theorem fulls_append (events events' : List (Event parmlib)) :
    fulls (events ++ events') = fulls events + fulls events' :=
  List.countP_append

@[simp] theorem note_allocated (use : ParmlibUse) (status : Int) :
    (use.note status).allocated = use.allocated := by
  unfold ParmlibUse.note
  split <;> rfl

@[simp] theorem note_buffers (use : ParmlibUse) (status : Int) :
    (use.note status).buffers = use.buffers := by
  unfold ParmlibUse.note
  split <;> rfl

@[simp] theorem note_filled (use : ParmlibUse) (status : Int) :
    (use.note status).filled = use.filled := by
  unfold ParmlibUse.note
  split <;> rfl

@[simp] theorem note_retried (use : ParmlibUse) (status : Int) :
    (use.note status).retried = use.retried := by
  unfold ParmlibUse.note
  split <;> rfl

@[simp] theorem note_status (use : ParmlibUse) (status : Int) :
    (use.note status).status = if use.status = rcZisparmOk then status else use.status := by
  unfold ParmlibUse.note
  split <;> rfl

/-- What the read loop leaves: a buffer, filled where all is well; or none and a status; or, where
every turn had its buffer full, no buffer and no status. -/
inductive ReadLeft (turns : Nat) (use : ParmlibUse) (events : List (Event parmlib))
    (status : Int) : Option Nat → Prop
  | buffer {readBuffer : Nat} (buffers : use.buffers = [readBuffer])
      (noted : use.status = status) (filled : status = rcZisparmOk → use.filled = some readBuffer)
      (other : status ≠ rcZisparmParmlibFreeFailed)
      (few : fulls events < turns) : ReadLeft turns use events status (some readBuffer)
  | failed (buffers : use.buffers = []) (noted : use.status = status)
      (bad : status ≠ rcZisparmOk) (other : status ≠ rcZisparmParmlibFreeFailed)
      (few : fulls events < turns) :
      ReadLeft turns use events status none
  | full (buffers : use.buffers = []) (ok : status = rcZisparmOk)
      (all : fulls events = turns) : ReadLeft turns use events status none

/-- A full buffer before the loop. -/
theorem ReadLeft.after_full {turns : Nat} {use : ParmlibUse} {before after : List (Event parmlib)}
    {status : Int} {readBuffer : Option Nat} (left : ReadLeft turns use after status readBuffer)
    (one : fulls before = 1) : ReadLeft (turns + 1) use (before ++ after) status readBuffer := by
  have counted : fulls (before ++ after) = 1 + fulls after := by rw [fulls_append, one]
  cases left with
  | buffer buffers noted filled other few => exact .buffer buffers noted filled other (by omega)
  | failed buffers noted bad other few => exact .failed buffers noted bad other (by omega)
  | full buffers ok all => exact .full buffers ok (by omega)

theorem ReadAnswer.not_full_of_ok {answer : ReadAnswer} (h : answer.readRC = rcIefprmlbOk) :
    ¬ answer.Full := by
  intro hfull
  exact absurd (h.symm.trans hfull.1) (by decide)

theorem ReadAnswer.not_full_of_notFound {answer : ReadAnswer} (h : answer.NotFound) :
    ¬ answer.Full := by
  intro hfull
  exact absurd (h.2.symm.trans hfull.2) (by decide)

theorem ReadAnswer.ok_of_status {answer : ReadAnswer} {retried : Bool} (hfull : ¬ answer.Full)
    (h : answer.status retried = rcZisparmOk) : answer.readRC = rcIefprmlbOk := by
  unfold ReadAnswer.status at h
  split at h
  · next hok => exact hok
  split at h
  · cases h
  rw [if_neg (fun hfull' => hfull hfull'.1)] at h
  cases h

theorem ReadAnswer.status_ne_freeFailed (answer : ReadAnswer) (retried : Bool) :
    answer.status retried ≠ rcZisparmParmlibFreeFailed := by
  unfold ReadAnswer.status
  repeat' split
  all_goals decide

theorem readLoop_ensures {ddname member : Text} {readStatus : ZisParmStatus} {turns size : Nat}
    {use : ParmlibUse} (buffers : use.buffers = []) (le : turns ≤ 2)
    (retried : use.retried = decide (turns < 2))
    (status : turns ≠ 0 → use.status =
      if size ≤ iefprmlbHeaderSize then rcZisparmReadBufferAllocFailed else rcZisparmOk) :
    (readLoop ddname member readStatus turns size).Ensures (fun _ => True) fun events read =>
      (∀ e ∈ events, FreeOk e) ∧
      ∃ use', (parmlibRules parse).run use events = some use' ∧
        use'.allocated = use.allocated ∧ ReadLeft turns use' events read.1 read.2.1 := by
  induction turns generalizing size use with
  | zero => exact .ret ⟨by simp, use, rfl, rfl, .full buffers rfl rfl⟩
  | succ turns ih =>
    have status := status (by omega)
    have noBuffer : rcZisparmReadBufferAllocFailed ≠ rcZisparmOk := by decide
    have noFree : rcZisparmReadBufferAllocFailed ≠ rcZisparmParmlibFreeFailed := by decide
    rw [readLoop]
    unfold allocReadBuffer
    by_cases hsize : size ≤ iefprmlbHeaderSize
    · rw [if_pos hsize] at status ⊢
      exact .ret ⟨by simp, use, rfl, rfl, .failed buffers status noBuffer noFree (by simp)⟩
    rw [if_neg hsize] at status ⊢
    refine .ask_bind fun readBuffer _ => ?_
    cases readBuffer with
    | none =>
      refine .ret ⟨by simp [FreeOk], use.note rcZisparmReadBufferAllocFailed, rfl, ?_, ?_⟩
      · simp
      · exact .failed (by simp [buffers]) (by simp [status]) noBuffer noFree
          (by simp [fulls, IsFull])
    | some readBuffer =>
      refine .ask_bind fun answer _ => ?_
      let after : ParmlibUse := { use with
        buffers := [readBuffer]
        filled := if answer.readRC = rcIefprmlbOk then some readBuffer else none
        retried := use.retried || answer.Full }.note (answer.status use.retried)
      have reached (events : List (Event parmlib)) :
          (parmlibRules parse).run use (⟨.safeMalloc31 size, some readBuffer⟩ ::
            ⟨.readLogicalParmLib ddname member readBuffer, answer⟩ :: events) =
          (parmlibRules parse).run after events := by
        simp [Machine.run_cons, parmlibRules, buffers, after]
      have ended (hfull : ¬ answer.Full) (result : ZisParmStatus) :
          Ensures (fun _ => True)
            (pure (answer.status use.retried, some readBuffer, result) : Program parmlib _)
            fun events read => (∀ e ∈ ⟨.safeMalloc31 size, some readBuffer⟩ ::
                ⟨.readLogicalParmLib ddname member readBuffer, answer⟩ :: events, FreeOk e) ∧
              ∃ use', (parmlibRules parse).run use (⟨.safeMalloc31 size, some readBuffer⟩ ::
                  ⟨.readLogicalParmLib ddname member readBuffer, answer⟩ :: events) = some use' ∧
                use'.allocated = use.allocated ∧
                ReadLeft (turns + 1) use' (⟨.safeMalloc31 size, some readBuffer⟩ ::
                  ⟨.readLogicalParmLib ddname member readBuffer, answer⟩ :: events)
                  read.1 read.2.1 := by
        refine .ret ⟨by simp [FreeOk], after, reached [], by simp [after], ?_⟩
        refine .buffer (by simp [after]) (by simp [after, status]) (fun hstatus => ?_)
          (answer.status_ne_freeFailed use.retried) ?_
        · have hok : answer.readRC = rcIefprmlbOk := ReadAnswer.ok_of_status hfull hstatus
          simp [after, hok]
        · simp [fulls, IsFull, hfull]
      by_cases hok : answer.readRC = rcIefprmlbOk
      · rw [if_pos hok]
        have := ended (ReadAnswer.not_full_of_ok hok) readStatus
        rwa [ReadAnswer.status, if_pos hok] at this
      rw [if_neg hok]
      by_cases hfound : answer.NotFound
      · rw [if_pos hfound]
        have := ended (ReadAnswer.not_full_of_notFound hfound) readStatus
        rwa [ReadAnswer.status, if_neg hok, if_pos hfound] at this
      rw [if_neg hfound]
      by_cases hfull : answer.Full
      · rw [if_pos hfull]
        refine .ask_bind fun _ _ => ?_
        let freed : ParmlibUse := { after with
          buffers := []
          filled := if after.filled = some readBuffer then none else after.filled }
        have full_status : turns ≠ 0 → freed.status =
            if answer.sizeRequired ≤ iefprmlbHeaderSize then rcZisparmReadBufferAllocFailed
            else rcZisparmOk := by
          intro hturns
          have first : use.retried = false := by rw [retried]; simp; omega
          simp [freed, after, status, first, ReadAnswer.status, hok, hfound, hfull]
        have freed_buffers : freed.buffers = [] := rfl
        have freed_retried : freed.retried = decide (turns < 2) := by
          simp [freed, after, hfull]
          omega
        refine (ih freed_buffers (by omega) freed_retried full_status).mono ?_
        rintro events read ⟨frees, use', hrun, hallocated, left⟩
        refine ⟨by simpa [FreeOk] using frees, use', ?_, ?_, ?_⟩
        · rw [reached, ← hrun]
          simp [Machine.run_cons, parmlibRules, freed, after]
        · rw [hallocated]
          simp [freed, after]
        · have one : fulls [⟨.safeMalloc31 size, some readBuffer⟩,
              ⟨.readLogicalParmLib ddname member readBuffer, answer⟩,
              ⟨.freeReadBuffer readBuffer, ()⟩] = 1 := by
            simp [fulls, IsFull, hfull]
          exact left.after_full one
      · rw [if_neg hfull]
        have := ended hfull ⟨answer.readRC, answer.readRSN⟩
        rwa [ReadAnswer.status, if_neg hok, if_neg hfound, if_neg (fun h => hfull h.1)] at this

/-- The calls from a state on end with nothing held and the status of the first step that failed. -/
def EndsClean (parse : List Text → Int) (use : ParmlibUse) (events : List (Event parmlib))
    (status : Int) : Prop :=
  ∃ use', (parmlibRules parse).run use events = some use' ∧
    use'.buffers = [] ∧ use'.allocated = false ∧ use'.status = status

theorem endsClean_append {use use' : ParmlibUse} {events events' : List (Event parmlib)}
    {status : Int} (h : (parmlibRules parse).run use events = some use') :
    EndsClean parse use (events ++ events') status ↔ EndsClean parse use' events' status := by
  unfold EndsClean
  rw [Machine.run_append, h, Option.bind_some]

theorem endsClean_cons {use use' : ParmlibUse} {event : Event parmlib}
    {events : List (Event parmlib)} {status : Int}
    (h : (parmlibRules parse).step use event = some use') :
    EndsClean parse use (event :: events) status ↔ EndsClean parse use' events status := by
  unfold EndsClean
  rw [Machine.run_cons, h, Option.bind_some]

/-- The free of the DD leaves the status of the first step that failed exactly if it does not
fail. -/
theorem freeDdname_ensures {σ : Type} (parse : List Text → Int) {ddname : Text} {use : ParmlibUse}
    {result : Int × ZisParmSet σ × ZisParmStatus} (buffers : use.buffers = [])
    (noted : use.status = result.1) (other : result.1 ≠ rcZisparmParmlibFreeFailed) :
    (freeDdname ddname use.allocated result).Ensures (fun _ => True) fun events result' =>
      EndsClean parse use events result'.1 ↔ ∀ e ∈ events, FreeOk e := by
  have failed : rcZisparmParmlibFreeFailed ≠ rcZisparmOk := by decide
  unfold freeDdname
  cases hallocated : use.allocated with
  | false =>
    refine .ret ?_
    simp [EndsClean, buffers, hallocated, noted]
  | true =>
    refine .ask_bind fun free _ => ?_
    have ended (status : Int) : EndsClean parse use [⟨.freeLogicalParmLib ddname, free⟩] status ↔
        (use.note (if free.internalRC = rcIefprmlbOk then rcZisparmOk
          else rcZisparmParmlibFreeFailed)).status = status := by
      simp [EndsClean, Machine.run_cons, parmlibRules, hallocated, buffers]
    by_cases hfree : free.internalRC = rcIefprmlbOk
    · rw [if_pos hfree]
      refine .ret ?_
      rw [ended, if_pos hfree]
      have kept : (use.note rcZisparmOk).status = result.1 := by
        rw [note_status, noted, ite_eq_right_iff]
        exact Eq.symm
      simp [FreeOk, hfree, kept, -note_status]
    · rw [if_neg hfree]
      have bad : ¬ ∀ e ∈ [(⟨.freeLogicalParmLib ddname, free⟩ : Event parmlib)], FreeOk e := by
        simp [FreeOk, hfree]
      split
      · next hstatus =>
        refine .ret ?_
        rw [ended, if_neg hfree, iff_false_right bad]
        simpa [noted, hstatus] using other
      · next hstatus =>
        refine .ret ?_
        rw [ended, if_neg hfree, iff_false_right bad]
        simp only [note_status, noted, not_not.mp hstatus, if_true]
        exact failed

variable {σ : Type} {slhAlloc : σ → Nat → Option σ} {recordSize : Nat}

/-- The status that the records of a member end with. -/
def parseStatus (slhAlloc : σ → Nat → Option σ) (recordSize : Nat) (parms : ZisParmSet σ)
    (records : List Text) : Int :=
  (iterateMember slhAlloc recordSize records ⟨parms, 0, 0, []⟩).1

@[simp] theorem iterateRecords_status (parms : ZisParmSet σ) (readStatus : ZisParmStatus)
    (records : List Text) :
    (iterateRecords slhAlloc recordSize parms readStatus records).1 =
      parseStatus slhAlloc recordSize parms records := by
  unfold iterateRecords parseStatus
  split
  next iterateRC context heq =>
  split
  · rw [heq]
  · next hok => rw [heq, not_not.mp hok]

theorem parseStatus_ne_freeFailed (parms : ZisParmSet σ) (records : List Text) :
    parseStatus slhAlloc recordSize parms records ≠ rcZisparmParmlibFreeFailed := by
  intro h
  have codes := iterateMember_rc slhAlloc recordSize records ⟨parms, 0, 0, []⟩
  rw [parseStatus] at h
  rw [h] at codes
  exact absurd codes (by decide)

/-- What follows the read asks for no buffer to be filled. -/
theorem finishRead_fulls {parms : ZisParmSet σ} {ddname : Text} {ddnameAllocated : Bool}
    {read : Int × Option Nat × ZisParmStatus} :
    (finishRead slhAlloc recordSize parms ddname ddnameAllocated read).Ensures (fun _ => True)
      fun events _ => fulls events = 0 := by
  have freed (result : Int × ZisParmSet σ × ZisParmStatus) :
      (freeDdname ddname ddnameAllocated result).Ensures (fun _ => True)
        fun events _ => fulls events = 0 := by
    unfold freeDdname
    split
    · exact .ret rfl
    refine .ask_bind fun free _ => ?_
    repeat' split
    all_goals exact .ret rfl
  have released (result : Int × ZisParmSet σ × ZisParmStatus) :
      (freeBuffer read.2.1 >>= fun _ => freeDdname ddname ddnameAllocated result).Ensures
        (fun _ => True) fun events _ => fulls events = 0 := by
    cases read.2.1 with
    | none => exact freed result
    | some readBuffer => exact .ask_bind fun _ _ => (freed result).mono fun _ _ h => h
  unfold finishRead iterateBuffer
  split
  · exact released _
  exact .ask_bind fun records _ => (released _).mono fun _ _ h => h

/-- What follows the read ends as it should exactly if not every turn of the read had its buffer
full, and no free fails. -/
theorem finishRead_ensures {parms : ZisParmSet σ} {ddname : Text} {turns : Nat}
    {use : ParmlibUse} {before : List (Event parmlib)} {read : Int × Option Nat × ZisParmStatus}
    (left : ReadLeft turns use before read.1 read.2.1) :
    (finishRead slhAlloc recordSize parms ddname use.allocated read).Ensures (fun _ => True)
      fun events result =>
        EndsClean (parseStatus slhAlloc recordSize parms) use events result.1 ↔
          fulls before < turns ∧ ∀ e ∈ events, FreeOk e := by
  obtain ⟨status, buffer, readStatus⟩ := read
  unfold finishRead iterateBuffer
  cases left with
  | failed buffers noted bad other few =>
    rw [if_pos bad]
    refine (freeDdname_ensures (parseStatus slhAlloc recordSize parms) buffers noted other).mono ?_
    intro events result hends
    simp [hends, few]
  | full buffers ok all =>
    -- the member is looked for without a buffer, which the rules refuse
    rw [if_neg (not_not.mpr ok)]
    refine .ask_bind fun records _ => ?_
    intro events result _ _
    have refused : ¬ EndsClean (parseStatus slhAlloc recordSize parms) use
        (⟨.memberContent none, records⟩ :: events) result.1 := by
      simp [EndsClean, Machine.run_cons, parmlibRules]
    simp [refused, all]
  | @buffer readBuffer buffers noted filled other few =>
    -- the buffer is released, and the DD freed with the status the steps ended with
    have finished (use' : ParmlibUse) (result : Int × ZisParmSet σ × ZisParmStatus)
        (allocated' : use'.allocated = use.allocated) (buffers' : use'.buffers = [readBuffer])
        (noted' : use'.status = result.1) (other' : result.1 ≠ rcZisparmParmlibFreeFailed) :
        (freeBuffer (some readBuffer) >>= fun _ => freeDdname ddname use.allocated result).Ensures
          (fun _ => True) fun events result' =>
            EndsClean (parseStatus slhAlloc recordSize parms) use' events result'.1 ↔
              fulls before < turns ∧ ∀ e ∈ events, FreeOk e := by
      refine .ask_bind fun _ _ => ?_
      let freed : ParmlibUse := { use' with
        buffers := []
        filled := if use'.filled = some readBuffer then none else use'.filled }
      have released : (parmlibRules (parseStatus slhAlloc recordSize parms)).step use'
          ⟨.freeReadBuffer readBuffer, ()⟩ = some freed := by
        simp [parmlibRules, buffers', freed]
      have freed_buffers : freed.buffers = [] := rfl
      rw [← allocated']
      refine (freeDdname_ensures (parseStatus slhAlloc recordSize parms) freed_buffers noted'
        other').mono fun events result' hends => ?_
      rw [endsClean_cons released, hends]
      simp [FreeOk, few]
    by_cases hok : status = rcZisparmOk
    · rw [if_neg (not_not.mpr hok)]
      refine .ask_bind fun records _ => ?_
      have looked : (parmlibRules (parseStatus slhAlloc recordSize parms)).step use
          ⟨.memberContent (some readBuffer), records⟩ =
            some (use.note (parseStatus slhAlloc recordSize parms records)) := by
        simp [parmlibRules, filled hok]
      refine (finished (use.note (parseStatus slhAlloc recordSize parms records))
        (iterateRecords slhAlloc recordSize parms readStatus records) (by simp) (by simp [buffers])
        (by simp [noted, hok]) (by simp [parseStatus_ne_freeFailed])).mono ?_
      intro events result hends
      rw [endsClean_cons looked, hends]
      simp [FreeOk]
    · rw [if_pos hok]
      exact finished use _ rfl buffers noted other

/-! ## The read -/

/-- **A PARMLIB read keeps its protocol but for two defects.** For every answer of every call, the
calls go by the rules, all that is held is released once, and the status is that of the first step
that failed, exactly if the reads do not both answer that the buffer is full and the DD, where it is
freed, is freed. -/
theorem zisReadParmlib_protocol {parms : ZisParmSet σ} {ddname member : Text}
    {readStatus : ZisParmStatus} {events : List (Event parmlib)}
    {result : Int × ZisParmSet σ × ZisParmStatus}
    (runs : (zisReadParmlibCalls slhAlloc recordSize parms ddname member readStatus).Runs
      events result) :
    Settled (parseStatus slhAlloc recordSize parms) ddname member events result.1 ↔
      fulls events < 2 ∧ ∀ e ∈ events, FreeOk e := by
  suffices ensured : (zisReadParmlibCalls slhAlloc recordSize parms ddname member
      readStatus).Ensures (fun _ => True) fun events result =>
        Settled (parseStatus slhAlloc recordSize parms) ddname member events result.1 ↔
          fulls events < 2 ∧ ∀ e ∈ events, FreeOk e from
    ensured.of_runs runs fun _ _ => trivial
  unfold zisReadParmlibCalls Settled
  by_cases hddname : ddname.length > 8
  · rw [if_pos hddname]
    exact .ret (by simp [namesStatus, hddname, ParmlibUse.note, ParmlibUse.unused])
  by_cases hmember : member.length > 8
  · rw [if_neg hddname, if_pos hmember]
    exact .ret (by simp [namesStatus, hddname, hmember, ParmlibUse.note, ParmlibUse.unused])
  rw [if_neg hddname, if_neg hmember]
  have named : ParmlibUse.unused.note (namesStatus ddname member) = ParmlibUse.unused := by
    simp [namesStatus, hddname, hmember, ParmlibUse.note, ParmlibUse.unused]
  rw [named]
  refine .ask_bind fun alloc _ => ?_
  let allocated : ParmlibUse := { ParmlibUse.unused with
    allocated := alloc.internalRC = rcIefprmlbOk }.note
      (if alloc.Usable then rcZisparmOk else rcZisparmParmlibAllocFailed)
  have taken : (parmlibRules (parseStatus slhAlloc recordSize parms)).step ParmlibUse.unused
      ⟨.allocLogicalParmLib (spacePadded ddname), alloc⟩ = some allocated := rfl
  have held : allocated.allocated = decide (alloc.internalRC = rcIefprmlbOk) := by
    simp [allocated]
  have read_ensures : (readAllocated (spacePadded ddname) (spacePadded member) readStatus
      alloc).Ensures (fun _ => True) fun events read => (∀ e ∈ events, FreeOk e) ∧
        ∃ use', (parmlibRules (parseStatus slhAlloc recordSize parms)).run allocated events =
            some use' ∧
          use'.allocated = allocated.allocated ∧ ReadLeft 2 use' events read.1 read.2.1 := by
    unfold readAllocated
    by_cases husable : alloc.Usable
    · rw [if_pos husable]
      refine readLoop_ensures ?_ le_rfl ?_ fun _ => ?_
      · simp [allocated, ParmlibUse.unused]
      · simp [allocated, ParmlibUse.unused]
      · simp [allocated, ParmlibUse.unused, husable]
        decide
    · rw [if_neg husable]
      have bad : rcZisparmParmlibAllocFailed ≠ rcZisparmOk := by decide
      have other : rcZisparmParmlibAllocFailed ≠ rcZisparmParmlibFreeFailed := by decide
      refine .ret ⟨by simp, allocated, rfl, rfl, .failed ?_ ?_ bad other (by simp)⟩
      · simp [allocated, ParmlibUse.unused]
      · simp [allocated, ParmlibUse.unused, husable]
  refine read_ensures.bind_of ?_
  rintro events read ⟨frees, use', hrun, hallocated, left⟩
  rw [← held, ← hallocated]
  refine (finishRead_fulls.and (finishRead_ensures left)).mono ?_
  rintro events' result ⟨hfulls, hends⟩
  refine (endsClean_cons taken).trans ((endsClean_append hrun).trans (hends.trans ?_))
  have counted : fulls (⟨.allocLogicalParmLib (spacePadded ddname), alloc⟩ :: (events ++ events')) =
      fulls events := by
    show fulls (events ++ events') = fulls events
    rw [fulls_append, hfulls, Nat.add_zero]
  rw [counted]
  simp only [List.mem_cons, List.mem_append]
  constructor
  · rintro ⟨hfew, hfrees⟩
    refine ⟨hfew, ?_⟩
    rintro e (rfl | he | he)
    · trivial
    · exact frees e he
    · exact hfrees e he
  · rintro ⟨hfew, hfrees⟩
    exact ⟨hfew, fun e he => hfrees e (.inr (.inr he))⟩

/-! ## Two runs -/

/-- Answers to every call: the read and the free of the DD are given. -/
def sampleAnswers (read : ReadAnswer) (free : ZisParmStatus) : (c : ParmlibCall) → c.Answer
  | .allocLogicalParmLib _ => (⟨rcIefprmlbOk, 0⟩ : ZisParmStatus)
  | .safeMalloc31 _ => (some 0 : Option Nat)
  | .readLogicalParmLib .. => read
  | .freeReadBuffer _ => ()
  | .memberContent _ => (["A=1".toList] : List Text)
  | .freeLogicalParmLib _ => free

/-- A heap that gives everything. -/
def sampleHeap (slh : Nat) (size : Nat) : Option Nat := some (slh + size)

/-- A read of a member with these answers. -/
def sampleRead : Program parmlib (Int × ZisParmSet Nat × ZisParmStatus) :=
  zisReadParmlibCalls sampleHeap iefprmlbRecordSize ⟨0, [], []⟩ "PARMLIB".toList
    "ZWESIP00".toList ⟨0, 0⟩

/-- What `Settled` asks of a run of it. -/
def SampleSettled (run : List (Event parmlib) × (Int × ZisParmSet Nat × ZisParmStatus)) : Prop :=
  Settled (parseStatus sampleHeap iefprmlbRecordSize ⟨0, [], []⟩) "PARMLIB".toList
    "ZWESIP00".toList run.1 run.2.1

instance (run : List (Event parmlib) × (Int × ZisParmSet Nat × ZisParmStatus)) :
    Decidable (SampleSettled run) :=
  decidable_of_iff
    (((parmlibRules (parseStatus sampleHeap iefprmlbRecordSize ⟨0, [], []⟩)).run
      (ParmlibUse.unused.note (namesStatus "PARMLIB".toList "ZWESIP00".toList)) run.1).any
        fun use => use.buffers = [] ∧ use.allocated = false ∧ use.status = run.2.1)
    (by simp [SampleSettled, Settled, Option.any_eq_true])

theorem zisReadParmlib_protocol_sample :
    Settled (parseStatus sampleHeap iefprmlbRecordSize ⟨0, [], []⟩) "PARMLIB".toList
        "ZWESIP00".toList (sampleRead.exec (sampleAnswers ⟨0, 0, 0⟩ ⟨0, 0⟩)).1
        (sampleRead.exec (sampleAnswers ⟨0, 0, 0⟩ ⟨0, 0⟩)).2.1 ↔
      fulls (sampleRead.exec (sampleAnswers ⟨0, 0, 0⟩ ⟨0, 0⟩)).1 < 2 ∧
        ∀ e ∈ (sampleRead.exec (sampleAnswers ⟨0, 0, 0⟩ ⟨0, 0⟩)).1, FreeOk e :=
  zisReadParmlib_protocol (runs_exec _ sampleRead)

/-- A member that is read well and a DD that is not freed end in no failure, and a buffer that is
full for both reads has the member looked for without a buffer. -/
theorem zisReadParmlib_unsettled :
    (∃ events result, sampleRead.Runs events result ∧ result.1 = rcZisparmOk ∧
        ¬ SampleSettled (events, result)) ∧
      ∃ events result, sampleRead.Runs events result ∧ fulls events = 2 ∧
        ¬ SampleSettled (events, result) := by
  refine ⟨⟨_, _, runs_exec (sampleAnswers ⟨0, 0, 0⟩ ⟨12, 0⟩) sampleRead, ?_, ?_⟩,
    _, _, runs_exec (sampleAnswers ⟨12, 10, 2048⟩ ⟨0, 0⟩) sampleRead, ?_, ?_⟩
  all_goals decide +kernel

end Zss.Zis
