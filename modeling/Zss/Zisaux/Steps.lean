import Zss.Zisaux.Host

/-!
# The host's steps, read backwards

`RequesterStepped` and `WorkerStepped` list everything a step of a request can be, one constructor an
outcome, and `Request.step_stepped` says that the lists are complete. Every invariant of the host is
proved over them. Where all that matters of a worker's step is what it leaves alone, `WorkerMove`
says it. What a step of a request means for the host is said once too (`Host.step_request`): its
record and its slot change, everybody else's record stays.
-/

namespace Zss.Zisaux

open Zss.Lib

/-- The outcomes of a step of a requester. -/
inductive RequesterStepped (r : Request) (s : Slot) : RequestEvent → Local → Prop
  | checked {testRC : Int} :
      r.phase = .taken → isPetValid testRC s.element = true →
      RequesterStepped r s (.check testRC) ⟨{ r with phase := .checked }, s, none⟩
  | badPet {testRC : Int} :
      r.phase = .taken → isPetValid testRC s.element = false →
      RequesterStepped r s (.check testRC) ⟨{ r with phase := .returned rcZisauxBadPet }, s, none⟩
  | notFetched {payloadAccess responseAccess : Bool} :
      r.phase = .checked →
      RequesterStepped r s (.copy none payloadAccess responseAccess)
        ⟨{ r with phase := .abended }, s, none⟩
  | copied {list : CommServiceParmList} {payloadAccess responseAccess : Bool} :
      r.phase = .checked →
      (copyServiceParmList payloadAccess responseAccess list).rc = rcZisauxOk →
      RequesterStepped r s (.copy (some list) payloadAccess responseAccess)
        ⟨{ r with
          copy := list
          obtained := (copyServiceParmList payloadAccess responseAccess list).obtained
          phase := .copied }, s, none⟩
  | notCopied {list : CommServiceParmList} {payloadAccess responseAccess : Bool} :
      r.phase = .checked →
      (copyServiceParmList payloadAccess responseAccess list).rc ≠ rcZisauxOk →
      RequesterStepped r s (.copy (some list) payloadAccess responseAccess)
        ⟨{ r with
          copy := list
          obtained := (copyServiceParmList payloadAccess responseAccess list).obtained
          phase := .returned (copyServiceParmList payloadAccess responseAccess list).rc }, s, none⟩
  | enqueued :
      r.phase = .copied →
      RequesterStepped r s (.enqueue true)
        ⟨{ r with phase := .queued, work := .queued, completionPET := s.pet }, s, none⟩
  | noElement :
      r.phase = .copied →
      RequesterStepped r s (.enqueue false)
        ⟨{ r with phase := .completed rcZisauxAllocFailed }, s, none⟩
  | paused :
      r.phase = .queued →
      RequesterStepped r s (.pause 0)
        ⟨{ r with phase := .waiting }, { s with element := s.element.pause }, none⟩
  | pauseFailed {pauseRC : Int} :
      r.phase = .queued → pauseRC ≠ 0 →
      RequesterStepped r s (.pause pauseRC) ⟨{ r with phase := .abended }, s, none⟩
  | resumed {element : PauseElement} {code : Nat} :
      r.phase = .waiting → s.element.take = some (element, code) →
      RequesterStepped r s .resume
        ⟨{ r with phase := .resumed code element.token, releaseCode := some code },
          { s with element := element }, none⟩
  | reinserted {code updatedPET : Nat} :
      r.phase = .resumed code updatedPET →
      RequesterStepped r s .reinsert
        ⟨{ r with phase := .completed (statusOfRelease code r.copy), holds := false },
          { s with pet := updatedPET }, none⟩
  | finished {payloadRemoved responseRemoved : Bool} {status : Int} :
      r.phase = .completed status →
      RequesterStepped r s (.finish true payloadRemoved responseRemoved)
        ⟨{ r with
          parm := r.copy
          copy := .zero
          cleans := r.cleans + 1
          phase := .returned (statusAfterClean status
            (cleanServiceParmListCopy payloadRemoved responseRemoved r.copy)) }, s, none⟩
  | notUpdated {payloadRemoved responseRemoved : Bool} {status : Int} :
      r.phase = .completed status →
      RequesterStepped r s (.finish false payloadRemoved responseRemoved)
        ⟨{ r with phase := .abended }, s, none⟩
  | left {terminated : Bool} {status : Int} :
      r.phase = .returned status →
      RequesterStepped r s (.leave terminated)
        ⟨{ r with
          phase := .left (some status) terminated
            (handleCommunicationPcss r.call (some status) terminated) }, s, none⟩
  | leftAbnormally {terminated : Bool} :
      r.phase = .abended ∨ r.phase = .refused →
      RequesterStepped r s (.leave terminated)
        ⟨{ r with
          phase := .left none terminated
            (handleCommunicationPcss r.call none terminated) }, s, none⟩

/-- The outcomes of a step of a worker. -/
inductive WorkerStepped (r : Request) (s : Slot) : RequestEvent → Local → Prop
  | dispatched :
      r.work = .queued →
      WorkerStepped r s (.dispatch true) ⟨{ r with work := .scheduled }, s, none⟩
  | notScheduled :
      r.work = .queued →
      WorkerStepped r s (.dispatch false) (r.giveUp s zisauxPeRcScheduleError)
  | started :
      r.work = .scheduled →
      WorkerStepped r s (.start true) ⟨{ r with work := .started }, s, none⟩
  | notStarted :
      r.work = .scheduled →
      WorkerStepped r s (.start false) (r.giveUp s zisauxPeRcEnvError)
  | handled {env : HandlerEnv} :
      r.work = .started →
      WorkerStepped r s (.handle env)
        ⟨{ r with
          work := .handled
          copy := (handleCommRequest env r.copy).1
          handled := some (handleCommRequest env r.copy).2 }, s, some .accessCopy⟩
  | released {element : PauseElement} :
      r.work = .handled → s.element.release r.completionPET zisauxPeOk = some element →
      WorkerStepped r s .release
        ⟨{ r with work := .released }, { s with element := element }, some .releaseElement⟩
  | notReleased :
      r.work = .handled → s.element.release r.completionPET zisauxPeOk = none →
      WorkerStepped r s .release ⟨{ r with work := .releaseFailed }, s, some .releaseElement⟩
  | cleaned :
      r.work = .releaseFailed →
      WorkerStepped r s .clean
        ⟨{ r with work := .released, copy := .zero, cleans := r.cleans + 1 }, s,
          some .cleanCopy⟩
  | removed :
      r.work = .released →
      WorkerStepped r s .remove ⟨{ r with work := .removed, removes := r.removes + 1 }, s, none⟩
  | workerAbended :
      r.work.underRecovery = true →
      WorkerStepped r s .workerAbend (r.giveUp s zisauxPeRcWorkerAbend)

/-- The outcomes of a step of one request. -/
inductive Stepped (r : Request) (s : Slot) (e : RequestEvent) (l : Local) : Prop
  | requester (h : RequesterStepped r s e l)
  | worker (h : WorkerStepped r s e l)

variable {r : Request} {s : Slot} {e : RequestEvent} {l : Local} {h h' : Host}

/-- **A step of a request, read backwards.** -/
theorem Request.step_stepped (h : r.step s e = some l) : Stepped r s e l := by
  cases e with
  | check testRC =>
    simp only [step, requesterStep] at h
    split at h
    · next hphase =>
      split at h
      · next hvalid => cases h; exact .requester (.checked hphase hvalid)
      · next hvalid => cases h; exact .requester (.badPet hphase (Bool.not_eq_true _ ▸ hvalid))
    · cases h
  | copy fetched payloadAccess responseAccess =>
    simp only [step, requesterStep] at h
    split at h
    · next hphase =>
      cases fetched with
      | none => cases h; exact .requester (.notFetched hphase)
      | some list =>
        dsimp only at h
        split at h
        · next hrc => cases h; exact .requester (.copied hphase hrc)
        · next hrc => cases h; exact .requester (.notCopied hphase hrc)
    · cases h
  | enqueue storage =>
    simp only [step, requesterStep] at h
    split at h
    · next hphase =>
      cases storage with
      | true => cases h; exact .requester (.enqueued hphase)
      | false => cases h; exact .requester (.noElement hphase)
    · cases h
  | pause pauseRC =>
    simp only [step, requesterStep] at h
    split at h
    · next hphase =>
      split at h
      · next hrc => cases h; exact .requester (.pauseFailed hphase hrc)
      · next hrc =>
        cases h
        obtain rfl := not_not.mp hrc
        exact .requester (.paused hphase)
    · cases h
  | resume =>
    simp only [step, requesterStep] at h
    split at h
    · next hphase =>
      split at h
      · next element code htake => cases h; exact .requester (.resumed hphase htake)
      · cases h
    · cases h
  | reinsert =>
    simp only [step, requesterStep] at h
    split at h
    · next hphase => cases h; exact .requester (.reinserted hphase)
    · cases h
  | finish updated payloadRemoved responseRemoved =>
    simp only [step, requesterStep] at h
    split at h
    · next hphase =>
      cases updated with
      | true => cases h; exact .requester (.finished hphase)
      | false => cases h; exact .requester (.notUpdated hphase)
    · cases h
  | leave terminated =>
    simp only [step, requesterStep] at h
    split at h
    · next hphase => cases h; exact .requester (.left hphase)
    · next hphase => cases h; exact .requester (.leftAbnormally (.inl hphase))
    · next hphase => cases h; exact .requester (.leftAbnormally (.inr hphase))
    · cases h
  | dispatch task =>
    simp only [step, workerStep] at h
    split at h
    · next hwork =>
      cases task with
      | true => cases h; exact .worker (.dispatched hwork)
      | false => cases h; exact .worker (.notScheduled hwork)
    · cases h
  | start recovery =>
    simp only [step, workerStep] at h
    split at h
    · next hwork =>
      cases recovery with
      | true => cases h; exact .worker (.started hwork)
      | false => cases h; exact .worker (.notStarted hwork)
    · cases h
  | handle env =>
    simp only [step, workerStep] at h
    split at h
    · next hwork => cases h; exact .worker (.handled hwork)
    · cases h
  | release =>
    simp only [step, workerStep] at h
    split at h
    · next hwork =>
      split at h
      · next element hrelease => cases h; exact .worker (.released hwork hrelease)
      · next hrelease => cases h; exact .worker (.notReleased hwork hrelease)
    · cases h
  | clean =>
    simp only [step, workerStep] at h
    split at h
    · next hwork => cases h; exact .worker (.cleaned hwork)
    · cases h
  | remove =>
    simp only [step, workerStep] at h
    split at h
    · next hwork => cases h; exact .worker (.removed hwork)
    · cases h
  | workerAbend =>
    simp only [step, workerStep] at h
    split at h
    · next hwork => cases h; exact .worker (.workerAbended hwork)
    · cases h

/-! ## What a worker leaves alone -/

/-- A worker's step changes nothing of its requester's progress, no token, and the state of the
element only by releasing it, with the token of the work element. -/
structure WorkerMove (r : Request) (s : Slot) (l : Local) : Prop where
  phase : l.request.phase = r.phase
  slot : l.request.slot = r.slot
  holds : l.request.holds = r.holds
  completionPET : l.request.completionPET = r.completionPET
  releaseCode : l.request.releaseCode = r.releaseCode
  issued : r.work ≠ .none ∧ l.request.work ≠ .none
  pet : l.slot.pet = s.pet
  element : l.slot.element = s.element ∨
    (r.completionPET = s.element.token ∧ (∀ c, s.element.state ≠ .released c) ∧
      ∃ code, l.slot.element = ⟨s.element.token, .released code⟩)

theorem WorkerMove.token (h : WorkerMove r s l) : l.slot.element.token = s.element.token := by
  rcases h.element with heq | ⟨-, -, code, heq⟩ <;> rw [heq]

/-- A worker that gives up moves as a worker. -/
theorem Request.giveUp_move (s : Slot) (code : Nat) (h : r.work ≠ .none) :
    WorkerMove r s (r.giveUp s code) where
  phase := rfl
  slot := rfl
  holds := rfl
  completionPET := rfl
  releaseCode := rfl
  issued := ⟨h, nofun⟩
  pet := rfl
  element := by
    rcases s.element.releaseD_cases r.completionPET code with hsame | ⟨htoken, hstate, heq⟩
    · exact .inl hsame
    · exact .inr ⟨htoken, hstate, code, heq⟩

/-- **Every step of a worker is a worker's move.** -/
theorem WorkerStepped.move (h : WorkerStepped r s e l) : WorkerMove r s l := by
  have issued : ∀ {w : Work}, r.work = w → w ≠ .none → r.work ≠ .none := fun h hw => h ▸ hw
  cases h with
  | dispatched hwork | started hwork | handled hwork | notReleased hwork _ | cleaned hwork
  | removed hwork =>
    exact ⟨rfl, rfl, rfl, rfl, rfl, ⟨issued hwork nofun, nofun⟩, rfl, .inl rfl⟩
  | notScheduled hwork | notStarted hwork => exact r.giveUp_move s _ (issued hwork nofun)
  | workerAbended hwork =>
    refine r.giveUp_move s _ fun hnone => ?_
    rw [hnone] at hwork
    cases hwork
  | released hwork hrelease =>
    obtain ⟨htoken, hstate, rfl⟩ := PauseElement.release_some hrelease
    exact ⟨rfl, rfl, rfl, rfl, rfl, ⟨issued hwork nofun, nofun⟩, rfl,
      .inr ⟨htoken, hstate, _, rfl⟩⟩

/-! ## Slots -/

/-- No step moves a request to another slot. -/
theorem Stepped.slot (h : Stepped r s e l) : l.request.slot = r.slot := by
  cases h with
  | requester h => cases h <;> rfl
  | worker h => exact h.move.slot

/-- A step gives a slot back or leaves it; it never takes one. -/
theorem Stepped.holds (h : Stepped r s e l) (hl : l.request.holds = true) : r.holds = true := by
  cases h with
  | requester h => cases h <;> first | exact hl | cases hl
  | worker h => exact h.move.holds ▸ hl

/-- Only the reinsertion gives a slot back. -/
theorem Stepped.gaveBack (h : Stepped r s e l) (hr : r.holds = true)
    (hl : l.request.holds = false) :
    ∃ code updatedPET, r.phase = .resumed code updatedPET ∧
      l.slot = { s with pet := updatedPET } := by
  cases h with
  | requester h =>
    cases h with
    | reinserted hphase => exact ⟨_, _, hphase, rfl⟩
    | _ => exact absurd (hl.symm.trans hr) (by decide)
  | worker h =>
    rw [h.move.holds, hr] at hl
    cases hl

/-! ## Steps of the host -/

/-- **A step of a request in the host, read backwards.** -/
theorem Host.step_request {r : Addr} (hs : h.step (.request r e) = some h') :
    ∃ req l, h.requests.read r = some req ∧ Stepped req (h.slots req.slot) e l ∧
      h' =
        { slots := Function.update h.slots req.slot l.slot
          available :=
            if req.holds && !l.request.holds then h.available ++ [req.slot] else h.available
          requests := h.requests.update r fun _ => l.request
          uses := l.use.toList.map (⟨r, ·, req.pending (h.slots req.slot)⟩) ++ h.uses } := by
  simp only [Host.step] at hs
  split at hs
  · cases hs
  next req hread =>
  split at hs
  · cases hs
  next l hl =>
  cases hs
  exact ⟨req, l, hread, Request.step_stepped hl, rfl⟩

/-- A call, read backwards. -/
theorem Host.step_call {call : PcCall} {fetched : Option CommServiceParmList}
    (hs : h.step (.call call fetched) = some h') :
    h' = { h with
      available := (Request.ofCall h.available call fetched).2
      requests := h.requests.alloc (Request.ofCall h.available call fetched).1 } :=
  (Option.some.inj hs).symm

/-- A notification, read backwards. -/
theorem Host.step_notify {notifier : Notifier} {slot : Nat}
    (hs : h.step (.notify notifier slot) = some h') :
    h' = { h with
      slots := Function.update h.slots slot ((h.slots slot).notify notifier.releaseCode) } := by
  simp only [Host.step, Option.ite_none_right_eq_some, Option.some.injEq] at hs
  exact hs.2.symm

/-- A release by the system, read backwards. -/
theorem Host.step_terminate {slot : Nat} (hs : h.step (.terminate slot) = some h') :
    h' = { h with slots := Function.update h.slots slot (h.slots slot).terminate } := by
  simp only [Host.step, Option.ite_none_right_eq_some, Option.some.injEq] at hs
  exact hs.2.symm

/-- A phase of a request that was over before it took a slot: it has no status, or an error. -/
def Phase.WithoutSlot (p : Phase) : Prop :=
  p = .refused ∨ p = .abended ∨ ∃ rc, p = .returned rc ∧ rc ≠ rcZisauxOk

/-- What a call makes: a request that took the first free slot, or one that took none and is over
without success. -/
theorem Request.ofCall_cases (available : List Nat) (call : PcCall)
    (fetched : Option CommServiceParmList) :
    (∃ phase : Phase, phase.WithoutSlot ∧
        Request.ofCall available call fetched =
          ({ Request.new call (fetched.getD .zero) with phase := phase }, available)) ∨
      (∃ slot rest, available = slot :: rest ∧
        Request.ofCall available call fetched =
          ({ Request.new call (fetched.getD .zero) with
            slot := slot, holds := true, phase := .taken }, rest)) := by
  unfold Request.ofCall
  dsimp only
  split
  · exact .inl ⟨.refused, .inl rfl, rfl⟩
  cases fetched with
  | none =>
    refine .inl ⟨_, ?_, rfl⟩
    cases hrc : checksBeforeFetch call with
    | none => exact .inr (.inl rfl)
    | some rc =>
      refine .inr (.inr ⟨rc, rfl, ?_⟩)
      unfold checksBeforeFetch at hrc
      repeat' split at hrc
      all_goals first | (cases hrc; decide) | cases hrc
  | some parm =>
    dsimp only
    split
    · next rc hrc =>
      refine .inl ⟨.returned rc, .inr (.inr ⟨rc, rfl, ?_⟩), rfl⟩
      unfold handleUnsafePcss at hrc
      repeat' split at hrc
      all_goals first | (cases hrc; decide) | cases hrc
    · cases available with
      | nil => exact .inl ⟨_, .inr (.inr ⟨_, rfl, by decide⟩), rfl⟩
      | cons slot rest => exact .inr ⟨slot, rest, rfl, rfl⟩

/-- Only a call that got as far as `handleUnsafePCSS` takes a slot. -/
theorem Request.ofCall_entered {available : List Nat} {call : PcCall}
    {fetched : Option CommServiceParmList}
    (h : (Request.ofCall available call fetched).1.holds = true) : call.Entered := by
  unfold Request.ofCall at h
  split at h
  · cases h
  · next hn =>
    simp only [not_or, not_not, Bool.not_eq_eq_eq_not, Bool.not_true, Bool.not_eq_false] at hn
    exact ⟨hn.1, hn.2.1, hn.2.2⟩

/-- A notification changes the state of an element at most. -/
theorem Slot.notify_cases (s : Slot) (code : Nat) :
    s.notify code = s ∨
      (s.pet = s.element.token ∧ (∀ c, s.element.state ≠ .released c) ∧
        s.notify code = { s with element := ⟨s.element.token, .released code⟩ }) := by
  rcases s.element.releaseD_cases s.pet code with h | ⟨htoken, hstate, h⟩
  · exact .inl (by rw [Slot.notify, h])
  · exact .inr ⟨htoken, hstate, by rw [Slot.notify, h]⟩

/-- The system releases a waiter, or nobody. -/
theorem Slot.terminate_cases (s : Slot) :
    s.terminate = s ∨
      (s.element.state = .paused ∧
        s.terminate = { s with element := ⟨s.element.token, .released zisauxPeRcTerm⟩ }) := by
  unfold Slot.terminate
  split
  · next h => exact .inr ⟨h, rfl⟩
  · exact .inl rfl

end Zss.Zisaux
