import Zss.Zisaux.Invariant

/-!
# What a requester is told

A requester learns how its request went from one number, the code its pause element was released
with. Seven codes are in use, and only the worker that finished the dispatch of the request gives the
code OK (`CompletionInv`). Two of the other six have no branch in the mapping of codes to a status,
and the status of a request starts as OK: the cancel path and a worker without a recovery
environment release a requester into a success. So does a worker that finished with OK the dispatch of
a command it never brought to the guest. The PC routine has a slip of the same kind, which makes its
caller see the status it would see had the PC environment been terminated.

Every requester is told the truth in a run exactly if the run takes none of these turns
(`truthful_iff`).

## What is not established

Of a request for which the guest has no function, and of one to terminate, an OK says no more than that
the dispatch was finished. What the guest's function did before it returned OK is its own affair. That
a requester is released at all is not claimed: a pause may last.
-/

namespace Zss.Zisaux

open Zss.Lib

/-! ## Truth -/

/-- What `scheduleCommRequestProcessing`, or a check before it, returned. -/
def Request.status (r : Request) : Option Int :=
  match r.phase with
  | .returned status => some status
  | .left status _ _ => status
  | _ => none

/-- The dispatch of the request was finished with a return code, and one of OK by no guest call but
one that returned OK. -/
def Request.Dispatched (r : Request) (rc : Int) : Prop :=
  ∃ handled, r.handled = some handled ∧ handled.auxRC = rc ∧
    (rc = rcZisauxOk → ∀ call, handled.guest = some call → call = .returned rcZisauxOk)

/-- The dispatch of the request was finished with OK, and the guest's function for it, where the guest
has one, was called and returned OK. -/
def Request.Served (r : Request) : Prop :=
  ∃ handled, r.handled = some handled ∧ handled.auxRC = rcZisauxOk ∧
    (handled.present = true → handled.guest = some (.returned rcZisauxOk))

/-- What a requester is told is so: a status of OK says that its request was served, no code but the
worker's OK becomes a status of OK, and the PC routine returns OK only with that status and its
environment terminated. -/
structure Request.Truthful (r : Request) : Prop where
  served : r.status = some rcZisauxOk → r.Served
  released : r.status = some rcZisauxOk → r.releaseCode = some zisauxPeOk
  terminated : ∀ status terminated rc, r.phase = .left status terminated rc → rc = rcZisauxOk →
    status = some rcZisauxOk ∧ terminated = true

/-- The requester was released with a code of the cancel path or of a worker without recovery, or by
a worker that finished with OK a dispatch which did not call the guest's function. -/
def Request.Misled (r : Request) : Prop :=
  r.releaseCode = some zisauxPeRcCancel ∨ r.releaseCode = some zisauxPeRcEnvError ∨
    (r.releaseCode = some zisauxPeOk ∧
      ∃ handled, r.handled = some handled ∧ handled.auxRC = rcZisauxOk ∧ handled.bypassed = true)

/-- The condition on a step of one request. A requester that is misled does not come through its
cleanup with success, and one that has a status of OK terminates its PC environment. -/
def Request.ReportsTruly (r : Request) : RequestEvent → Prop
  | .finish updated payloadRemoved responseRemoved =>
    updated = true → r.Misled →
      cleanServiceParmListCopy payloadRemoved responseRemoved r.copy ≠ rcZisauxOk
  | .leave terminated => r.phase = .returned rcZisauxOk → terminated = true
  | _ => True

/-- The condition on a step of the host. -/
def ReportsTruly (h : Host) : HostEvent → Prop
  | .request r e => ∀ req, h.requests.read r = some req → req.ReportsTruly e
  | _ => True

/-! ## Who released the requester -/

/-- The requester is not queued yet. -/
def Phase.early : Phase → Bool
  | .taken | .checked | .copied => true
  | _ => false

/-- The requester waits for a code. -/
def Phase.parked : Phase → Bool
  | .queued | .waiting => true
  | _ => false

variable {p : Phase} {r : Request} {s : Slot} {e : RequestEvent} {l : Local}

theorem Phase.inFlight_of_early (h : p.early = true) : p.inFlight = true := by
  cases p <;> first | rfl | cases h

theorem Phase.unissued_of_early (h : p.early = true) : p.unissued = true := by
  cases p <;> first | rfl | cases h

theorem Phase.inFlight_of_parked (h : p.parked = true) : p.inFlight = true := by
  cases p <;> first | rfl | cases h

/-- The requester is through with its request. -/
def Phase.ended : Phase → Bool
  | .refused | .returned _ | .abended | .left _ _ _ => true
  | _ => false

theorem Phase.not_parked_of_early (h : p.early = true) : p.parked = false := by
  cases p <;> first | rfl | cases h

theorem Phase.not_inFlight_of_ended (h : p.ended = true) : p.inFlight = false := by
  cases p <;> first | rfl | cases h

/-- The worker has answered: it does not touch the copy any more. -/
def Work.answered : Work → Bool
  | .released | .removed | .lost => true
  | _ => false

/-- No worker's OK is waiting to be taken. -/
def Slot.Unserved (s : Slot) : Prop :=
  ∀ c, s.element.state = .released c → c ∈ releaseCodes ∧ c ≠ zisauxPeOk

/-- How a status came about: from the dispatch, from another release code, or from a request that was
never queued. -/
inductive Request.Outcome (r : Request) (status : Int) : Prop
  | dispatched (hcode : r.releaseCode = some zisauxPeOk) (hdispatched : r.Dispatched status)
  | interrupted (c : Nat) (hcode : r.releaseCode = some c) (hne : c ≠ zisauxPeOk)
      (hok : status = rcZisauxOk ↔ c = zisauxPeRcCancel ∨ c = zisauxPeRcEnvError)
  | unqueued (hcode : r.releaseCode = none) (hne : status ≠ rcZisauxOk)

/-- What holds of a request and its slot in every run. -/
structure CompletionInv (r : Request) (s : Slot) : Prop where
  early : r.phase.early = true → s.Unserved
  handled : r.phase.parked = true → r.work = .handled → r.Dispatched r.copy.auxRC
  parked : r.phase.parked = true → ∀ c, s.element.state = .released c →
    c ∈ releaseCodes ∧ (c = zisauxPeOk → r.work.answered = true ∧ r.Dispatched r.copy.auxRC)
  taken : r.releaseCode = some zisauxPeOk → r.work.answered = true
  resumed : ∀ c pet, r.phase = .resumed c pet →
    s.Unserved ∧ r.releaseCode = some c ∧ c ∈ releaseCodes ∧
      (c = zisauxPeOk → r.Dispatched r.copy.auxRC)
  completed : ∀ status, r.phase = .completed status → r.Outcome status
  unreleased : r.phase.early = true ∨ r.phase.parked = true → r.releaseCode = none
  entered : r.phase.inFlight = true ∨ (∃ status, r.phase = .completed status) ∨
    r.phase = .returned rcZisauxOk → r.call.Entered

/-- A request before its work element has no code yet, and finds no answer in its slot. -/
theorem CompletionInv.of_early (hearly : r.phase.early = true) (unserved : s.Unserved)
    (hcode : r.releaseCode = none) (entered : r.call.Entered) : CompletionInv r s := by
  have other : ∀ {p : Phase}, r.phase = p → p.early = true := fun hp => hp ▸ hearly
  refine ⟨fun _ => unserved, fun hp => ?_, fun hp => ?_, fun hok => ?_, fun c pet hp => ?_,
    fun status hp => ?_, fun _ => hcode, fun _ => entered⟩
  · cases (Phase.not_parked_of_early hearly).symm.trans hp
  · cases (Phase.not_parked_of_early hearly).symm.trans hp
  · rw [hcode] at hok
    cases hok
  · cases other hp
  · cases other hp

/-- A request that is queued or waits has no code yet. -/
theorem CompletionInv.of_parked (hparked : r.phase.parked = true)
    (handled : r.work = .handled → r.Dispatched r.copy.auxRC)
    (released : ∀ c, s.element.state = .released c →
      c ∈ releaseCodes ∧ (c = zisauxPeOk → r.work.answered = true ∧ r.Dispatched r.copy.auxRC))
    (hcode : r.releaseCode = none) (entered : r.call.Entered) : CompletionInv r s := by
  have other : ∀ {p : Phase}, r.phase = p → p.parked = true := fun hp => hp ▸ hparked
  refine ⟨fun hearly => ?_, fun _ => handled, fun _ => released, fun hok => ?_, fun c pet hp => ?_,
    fun status hp => ?_, fun _ => hcode, fun _ => entered⟩
  · cases (Phase.not_parked_of_early hearly).symm.trans hparked
  · rw [hcode] at hok
    cases hok
  · cases other hp
  · cases other hp

/-- A request that was resumed has its code. -/
theorem CompletionInv.of_resumed {code pet : Nat} (hphase : r.phase = .resumed code pet)
    (unserved : s.Unserved) (hcode : r.releaseCode = some code) (hin : code ∈ releaseCodes)
    (answered : code = zisauxPeOk → r.work.answered = true ∧ r.Dispatched r.copy.auxRC)
    (entered : r.call.Entered) : CompletionInv r s := by
  have other : ∀ {p : Phase}, r.phase = p → p = .resumed code pet := fun hp => hp ▸ hphase
  have idle : ∀ {f : Phase → Bool}, f (.resumed code pet) = false → f r.phase ≠ true :=
    fun hf h => by
      rw [hphase, hf] at h
      cases h
  refine ⟨fun h => absurd h (idle rfl), fun h => absurd h (idle rfl), fun h => absurd h (idle rfl),
    fun hok => ?_, fun code' pet' hp => ?_, fun status hp => ?_, fun h => ?_, fun _ => entered⟩
  · rw [hcode] at hok
    exact (answered (Option.some.inj hok)).1
  · obtain ⟨rfl, rfl⟩ := Phase.resumed.inj (other hp)
    exact ⟨unserved, hcode, hin, fun hok => (answered hok).2⟩
  · cases other hp
  · rcases h with h | h
    · exact absurd h (idle rfl)
    · exact absurd h (idle rfl)

/-- A completed request has its outcome. -/
theorem CompletionInv.of_completed {status : Int} (hphase : r.phase = .completed status)
    (outcome : r.Outcome status)
    (taken : r.releaseCode = some zisauxPeOk → r.work.answered = true) (entered : r.call.Entered) :
    CompletionInv r s := by
  have other : ∀ {p : Phase}, r.phase = p → p = .completed status := fun hp => hp ▸ hphase
  have idle : ∀ {f : Phase → Bool}, f (.completed status) = false → f r.phase ≠ true :=
    fun hf h => by
      rw [hphase, hf] at h
      cases h
  refine ⟨fun h => absurd h (idle rfl), fun h => absurd h (idle rfl), fun h => absurd h (idle rfl),
    taken, fun c pet hp => ?_, fun status' hp => ?_, fun h => ?_, fun _ => entered⟩
  · cases other hp
  · obtain rfl := Phase.completed.inj (other hp)
    exact outcome
  · rcases h with h | h
    · exact absurd h (idle rfl)
    · exact absurd h (idle rfl)

/-- A request that is over has nothing to keep but what its worker is bound to. -/
theorem CompletionInv.of_ended (hended : r.phase.ended = true)
    (taken : r.releaseCode = some zisauxPeOk → r.work.answered = true)
    (entered : r.phase = .returned rcZisauxOk → r.call.Entered) : CompletionInv r s := by
  have other : ∀ {p : Phase}, r.phase = p → p.ended = true := fun hp => hp ▸ hended
  have landed : r.phase.inFlight ≠ true := by
    rw [Phase.not_inFlight_of_ended hended]
    decide
  refine ⟨fun h => absurd (Phase.inFlight_of_early h) landed,
    fun h => absurd (Phase.inFlight_of_parked h) landed,
    fun h => absurd (Phase.inFlight_of_parked h) landed, taken, fun c pet hp => ?_,
    fun status hp => ?_, fun h => ?_, fun h => ?_⟩
  · cases other hp
  · cases other hp
  · rcases h with h | h
    · exact absurd (Phase.inFlight_of_early h) landed
    · exact absurd (Phase.inFlight_of_parked h) landed
  · rcases h with h | ⟨status, h⟩ | h
    · exact absurd h landed
    · cases other h
    · exact entered h

/-! ## One step -/

/-- A worker that has answered leaves the dispatch and the copy as they are. -/
theorem WorkerStepped.answered (h : WorkerStepped r s e l) (hw : r.work.answered = true) :
    l.request.work.answered = true ∧ l.request.handled = r.handled ∧
      l.request.copy = r.copy := by
  cases h with
  | removed => exact ⟨rfl, rfl, rfl⟩
  | workerAbended => exact ⟨rfl, rfl, rfl⟩
  | dispatched hwork | notScheduled hwork | started hwork | notStarted hwork | handled hwork
  | released hwork | notReleased hwork | cleaned hwork =>
    rw [hwork] at hw
    cases hw

/-- A worker's step leaves the state of the element, releases it with a code of its own, or answers a
dispatch it finished. -/
theorem WorkerStepped.state (h : WorkerStepped r s e l) :
    l.slot.element.state = s.element.state ∨
      (∃ c ∈ releaseCodes, c ≠ zisauxPeOk ∧ l.slot.element.state = .released c) ∨
        (r.work = .handled ∧ l.request = { r with work := .released } ∧
          l.slot.element.state = .released zisauxPeOk) := by
  have gaveUp : ∀ code ∈ releaseCodes, code ≠ zisauxPeOk →
      (r.giveUp s code).slot.element.state = s.element.state ∨
        ∃ c ∈ releaseCodes, c ≠ zisauxPeOk ∧
          (r.giveUp s code).slot.element.state = .released c := fun code hin hne => by
    rcases s.element.releaseD_cases r.completionPET code with heq | ⟨-, -, heq⟩
    · exact .inl (congrArg PauseElement.state heq)
    · exact .inr ⟨code, hin, hne, congrArg PauseElement.state heq⟩
  cases h with
  | dispatched | started | handled | notReleased | cleaned | removed => exact .inl rfl
  | notScheduled | notStarted | workerAbended =>
    exact (gaveUp _ (by decide) (by decide)).imp_right .inl
  | released hwork hrelease =>
    obtain ⟨-, -, rfl⟩ := PauseElement.release_some hrelease
    exact .inr (.inr ⟨hwork, rfl, rfl⟩)

/-- Only a finished dispatch makes a work element handled, and the request is dispatched with the code it left. -/
theorem WorkerStepped.handled_dispatched (h : WorkerStepped r s e l)
    (hw : l.request.work = .handled) : l.request.Dispatched l.request.copy.auxRC := by
  cases h with
  | handled =>
    exact ⟨_, rfl, (handleCommRequest_auxRC _ _).symm,
      fun hok => handleCommRequest_ok ((handleCommRequest_auxRC _ _).symm.trans hok)⟩
  | _ => cases hw

/-- A worker's step keeps the invariant. -/
theorem WorkerStepped.completion (h : WorkerStepped r s e l) (tokens : TokenInv r s)
    (inv : CompletionInv r s) : CompletionInv l.request l.slot := by
  have move := h.move
  have call : l.request.call = r.call := by cases h <;> rfl
  -- what was served stays served once the worker has answered
  have kept : ∀ rc, r.releaseCode = some zisauxPeOk → r.Dispatched rc → l.request.Dispatched rc :=
    fun rc hcode hdispatched => by
      obtain ⟨-, hhandled, -⟩ := h.answered (inv.taken hcode)
      obtain ⟨handled, hr, hrest⟩ := hdispatched
      exact ⟨handled, hhandled.trans hr, hrest⟩
  refine ⟨?_, fun _ hw => h.handled_dispatched hw, ?_, ?_, ?_, ?_, ?_, ?_⟩
  · rw [move.phase]
    exact fun hearly =>
      absurd (tokens.unissued (Phase.unissued_of_early hearly)) move.issued.1
  · rw [move.phase]
    intro hparked c hc
    rcases h.state with hsame | ⟨c', hin, hne, hc'⟩ | ⟨hwork, heq, hc'⟩
    · obtain ⟨hin, hok⟩ := inv.parked hparked c (hsame.symm.trans hc)
      refine ⟨hin, fun hcok => ?_⟩
      obtain ⟨hanswered, handled, hr, hrest⟩ := hok hcok
      obtain ⟨hwork, hhandled, hcopy⟩ := h.answered hanswered
      exact ⟨hwork, handled, hhandled.trans hr, hcopy ▸ hrest⟩
    · obtain rfl : c' = c := PeState.released.inj (hc'.symm.trans hc)
      exact ⟨hin, fun hcok => absurd hcok hne⟩
    · obtain rfl : zisauxPeOk = c := PeState.released.inj (hc'.symm.trans hc)
      refine ⟨by decide, fun _ => ?_⟩
      rw [heq]
      exact ⟨rfl, inv.handled hparked hwork⟩
  · rw [move.releaseCode]
    exact fun hcode => (h.answered (inv.taken hcode)).1
  · intro c pet
    rw [move.phase, move.releaseCode]
    intro hphase
    obtain ⟨hunserved, hcode, hin, hdispatched⟩ := inv.resumed c pet hphase
    refine ⟨?_, hcode, hin, fun hcok => ?_⟩
    · -- the token is a newer one than the worker has
      rcases move.element with heq | ⟨htoken, -, -⟩
      · rw [Slot.Unserved, heq]
        exact hunserved
      · have := (tokens.updated c pet hphase).2
        omega
    · have hok : r.releaseCode = some zisauxPeOk := hcok ▸ hcode
      rw [(h.answered (inv.taken hok)).2.2]
      exact kept _ hok (hdispatched hcok)
  · intro status
    rw [move.phase]
    intro hphase
    cases inv.completed status hphase with
    | dispatched hcode hdispatched => exact .dispatched (move.releaseCode.trans hcode) (kept _ hcode hdispatched)
    | interrupted c hcode hne hok => exact .interrupted c (move.releaseCode.trans hcode) hne hok
    | unqueued hcode hne => exact .unqueued (move.releaseCode.trans hcode) hne
  · rw [move.phase, move.releaseCode]
    exact inv.unreleased
  · rw [move.phase, call]
    exact inv.entered

/-- A requester's step keeps the invariant. -/
theorem RequesterStepped.completion (h : RequesterStepped r s e l) (inv : CompletionInv r s) :
    CompletionInv l.request l.slot := by
  have early : ∀ {p : Phase}, r.phase = p → p.early = true → s.Unserved :=
    fun hp he => inv.early (by rw [hp, he])
  have unreleased : ∀ {p : Phase}, r.phase = p → p.early = true ∨ p.parked = true →
      r.releaseCode = none := fun hp he => inv.unreleased (by rw [hp]; exact he)
  have entered : ∀ {p : Phase}, r.phase = p → p.inFlight = true → r.call.Entered :=
    fun hp hf => inv.entered (.inl (by rw [hp, hf]))
  cases h with
  | checked hphase | copied hphase =>
    exact .of_early rfl (early hphase rfl) (unreleased hphase (.inl rfl)) (entered hphase rfl)
  | badPet hphase | notFetched hphase | notCopied hphase | pauseFailed hphase =>
    exact .of_ended rfl inv.taken fun _ => entered hphase rfl
  | noElement hphase =>
    have none : r.releaseCode = none := unreleased hphase (.inl rfl)
    exact .of_completed rfl (.unqueued none (by decide)) inv.taken (entered hphase rfl)
  | enqueued hphase =>
    have none : r.releaseCode = none := unreleased hphase (.inl rfl)
    refine .of_parked rfl (fun hw => by cases hw) (fun c hc => ?_) none (entered hphase rfl)
    obtain ⟨hin, hne⟩ := early hphase rfl c hc
    exact ⟨hin, fun hcok => absurd hcok hne⟩
  | paused hphase =>
    have parked : r.phase.parked = true := by rw [hphase]; rfl
    refine .of_parked rfl (inv.handled parked) (fun c hc => ?_) (unreleased hphase (.inr rfl))
      (entered hphase rfl)
    rcases s.element.pause_cases with ⟨-, heq⟩ | ⟨-, heq⟩
    · rw [heq] at hc
      cases hc
    · rw [heq] at hc
      exact inv.parked parked c hc
  | resumed hphase htake =>
    have parked : r.phase.parked = true := by rw [hphase]; rfl
    obtain ⟨hstate, rfl⟩ := PauseElement.take_some htake
    obtain ⟨hin, hok⟩ := inv.parked parked _ hstate
    refine .of_resumed rfl (fun c hc => ?_) rfl hin hok (entered hphase rfl)
    cases hc
  | @reinserted code pet hphase =>
    obtain ⟨-, hcode, hin, hdispatched⟩ := inv.resumed code pet hphase
    refine .of_completed rfl ?_ inv.taken (entered hphase rfl)
    by_cases hcok : code = zisauxPeOk
    · refine .dispatched (hcok ▸ hcode) ?_
      rw [statusOfRelease, if_pos hcok]
      exact hdispatched hcok
    · refine .interrupted code hcode hcok ?_
      rw [statusOfRelease_ok_iff r.copy hin]
      simp [hcok]
  | finished hphase | notUpdated hphase =>
    exact .of_ended rfl inv.taken fun _ => inv.entered (.inr (.inl ⟨_, hphase⟩))
  | left | leftAbnormally => exact .of_ended rfl inv.taken fun h => by cases h

/-- The invariant is one of requests and their slots, whatever the steps. -/
theorem completionInv : RequestInvariant (fun _ _ _ => True) (fun _ => True) CompletionInv
    Slot.Unserved where
  step _ _ tokens hstep inv := by
    cases hstep with
    | requester h => exact h.completion inv
    | worker h => exact h.completion tokens inv
  givesBack hphase _ inv := (inv.resumed _ _ hphase).1
  givenBack {r s s'} hback tokens _ inv := by
    have landed : r.phase.inFlight ≠ true := fun hin => by simp [tokens.holds hin] at hback
    exact ⟨fun h => absurd (Phase.inFlight_of_early h) landed, inv.handled,
      fun h => absurd (Phase.inFlight_of_parked h) landed, inv.taken,
      fun c pet h => absurd (by rw [h]; rfl) landed, inv.completed, inv.unreleased, inv.entered⟩
  release {r s s'} _ foreign _ inv := by
    obtain ⟨-, c', hforeign, rfl⟩ := foreign
    have hcode : c' ∈ releaseCodes ∧ c' ≠ zisauxPeOk := by
      simp only [foreignCodes, List.mem_cons, List.not_mem_nil, or_false] at hforeign
      rcases hforeign with rfl | rfl | rfl <;> decide
    refine ⟨fun _ c hc => ?_, inv.handled, fun _ c hc => ?_, inv.taken, fun c pet hphase => ?_,
      inv.completed, inv.unreleased, inv.entered⟩
    · exact PeState.released.inj hc ▸ hcode
    · obtain rfl := PeState.released.inj hc
      exact ⟨hcode.1, fun hcok => absurd hcok hcode.2⟩
    · refine ⟨fun c hc => PeState.released.inj hc ▸ hcode, (inv.resumed c pet hphase).2⟩
  releaseFree _ foreign _ := by
    obtain ⟨-, c', hforeign, rfl⟩ := foreign
    intro c hc
    obtain rfl := PeState.released.inj hc
    simp only [foreignCodes, List.mem_cons, List.not_mem_nil, or_false] at hforeign
    rcases hforeign with rfl | rfl | rfl <;> decide
  refused hphase := by
    rcases hphase with rfl | rfl | ⟨rc, rfl, hne⟩
    · exact .of_ended rfl nofun nofun
    · exact .of_ended rfl nofun nofun
    · exact .of_ended rfl nofun fun h => absurd (Phase.returned.inj h) hne
  takes entered hfree := .of_early rfl hfree rfl entered

/-! ## Truth along a run -/

/-- A request dispatched with OK is served, or it is misled. -/
theorem Request.Dispatched.served (h : r.Dispatched rcZisauxOk)
    (hcode : r.releaseCode = some zisauxPeOk) (truly : ¬ r.Misled) : r.Served := by
  obtain ⟨handled, hr, hrc, hcall⟩ := h
  refine ⟨handled, hr, hrc, fun hpresent => ?_⟩
  cases hguest : handled.guest with
  | none =>
    have bypassed : handled.bypassed = true := by rw [Handled.bypassed, hpresent, hguest]; rfl
    exact absurd (.inr (.inr ⟨hcode, handled, hr, hrc, bypassed⟩)) truly
  | some call => rw [hcall rfl call hguest]

/-- A request whose dispatch did not call the guest's function is not served. -/
theorem Request.Served.not_bypassed (h : r.Served) {handled : Handled}
    (hr : r.handled = some handled) : handled.bypassed = false := by
  obtain ⟨handled', hr', -, hcall⟩ := h
  obtain rfl := Option.some.inj (hr'.symm.trans hr)
  cases hpresent : handled'.present with
  | false => rw [Handled.bypassed, hpresent]; rfl
  | true => rw [Handled.bypassed, hcall hpresent]; exact Bool.and_false _

/-- A request without a status of OK is told the truth by whoever did not leave the PC routine. -/
theorem Request.Truthful.of_not_ok (hstatus : r.status ≠ some rcZisauxOk)
    (hphase : ∀ status terminated rc, r.phase = .left status terminated rc → rc ≠ rcZisauxOk) :
    r.Truthful where
  served h := absurd h hstatus
  released h := absurd h hstatus
  terminated status terminated rc hp hrc := absurd hrc (hphase status terminated rc hp)

/-- **A step under the condition tells the truth.** -/
theorem Stepped.truthful (h : Stepped r s e l) (inv : CompletionInv r s) (ht : r.Truthful)
    (cond : r.ReportsTruly e) : l.request.Truthful := by
  cases h with
  | worker h =>
    have move := h.move
    have status : l.request.status = r.status := by rw [Request.status, move.phase, Request.status]
    refine ⟨?_, ?_, ?_⟩
    · rw [status]
      intro hok
      obtain ⟨handled, hr, hrest⟩ := ht.served hok
      obtain ⟨-, hhandled, -⟩ := h.answered (inv.taken (ht.released hok))
      exact ⟨handled, hhandled.trans hr, hrest⟩
    · rw [status, move.releaseCode]
      exact ht.released
    · rw [move.phase]
      exact ht.terminated
  | requester h =>
  cases h with
  | checked | notFetched | copied | enqueued | noElement | paused | pauseFailed | resumed
  | reinserted | notUpdated => exact .of_not_ok nofun nofun
  | badPet =>
    have bad : rcZisauxBadPet ≠ rcZisauxOk := by decide
    exact .of_not_ok (fun h => bad (Option.some.inj h)) nofun
  | notCopied _ hrc => exact .of_not_ok (fun h => hrc (Option.some.inj h)) nofun
  | @finished payloadRemoved responseRemoved status hphase =>
    have outcome := inv.completed status hphase
    have ok : ∀ {cleanRC : Int}, some (statusAfterClean status cleanRC) = some rcZisauxOk →
        status = rcZisauxOk ∧ cleanRC = rcZisauxOk :=
      fun h => statusAfterClean_ok (Option.some.inj h)
    have code : ∀ {cleanRC : Int}, some (statusAfterClean status cleanRC) = some rcZisauxOk →
        cleanRC = cleanServiceParmListCopy payloadRemoved responseRemoved r.copy →
        r.Served ∧ r.releaseCode = some zisauxPeOk := fun h hclean => by
      obtain ⟨hst, hcl⟩ := ok h
      have truly : ¬ r.Misled := fun hm => cond rfl hm (hclean.symm.trans hcl)
      cases outcome with
      | dispatched hcode hdispatched => exact ⟨(hst ▸ hdispatched).served hcode truly, hcode⟩
      | interrupted c hcode _ hok =>
        refine absurd ?_ truly
        rcases hok.mp hst with rfl | rfl
        · exact .inl hcode
        · exact .inr (.inl hcode)
      | unqueued _ hne => exact absurd hst hne
    exact ⟨fun h => (code h rfl).1, fun h => (code h rfl).2, nofun⟩
  | @left terminated status hphase =>
    have before : r.status = some status := by rw [Request.status, hphase]
    refine ⟨fun h => ht.served (before.trans h), fun h => ht.released (before.trans h), ?_⟩
    rintro _ _ _ ⟨⟩ hrc
    have hok := handleCommunicationPcss_ok hrc
    exact ⟨hok, cond (hphase.trans (congrArg Phase.returned (Option.some.inj hok)))⟩
  | leftAbnormally =>
    refine .of_not_ok nofun ?_
    rintro _ _ _ ⟨⟩ hrc
    cases handleCommunicationPcss_ok hrc

/-- **A step against the condition does not.** -/
theorem Stepped.untruthful (h : Stepped r s e l) (inv : CompletionInv r s)
    (cond : ¬ r.ReportsTruly e) : ¬ l.request.Truthful := by
  intro ht
  cases h with
  | worker h =>
    refine cond ?_
    cases h <;> trivial
  | requester h =>
  cases h with
  | checked | badPet | notFetched | copied | notCopied | enqueued | noElement | paused | pauseFailed
  | resumed | reinserted => exact cond trivial
  | notUpdated => exact cond nofun
  | @finished payloadRemoved responseRemoved status hphase =>
    simp only [Request.ReportsTruly, Classical.not_imp, ne_eq, not_not, forall_const] at cond
    obtain ⟨misled, hclean⟩ := cond
    have returns : status = rcZisauxOk → some (statusAfterClean status
        (cleanServiceParmListCopy payloadRemoved responseRemoved r.copy)) = some rcZisauxOk :=
      fun hst => by rw [hclean, hst]; rfl
    cases inv.completed status hphase with
    | dispatched hcode hdispatched =>
      rcases misled with hc | hc | ⟨-, handled, hr, hrc, hbypassed⟩
      · exact absurd (hcode.symm.trans hc) (by decide)
      · exact absurd (hcode.symm.trans hc) (by decide)
      · obtain ⟨handled', hr', hrc', -⟩ := hdispatched
        obtain rfl := Option.some.inj (hr'.symm.trans hr)
        have served := ht.served (returns (hrc'.symm.trans hrc))
        cases hbypassed.symm.trans (served.not_bypassed hr)
    | interrupted c hcode hne hok =>
      have code : ∀ {c'}, r.releaseCode = some c' → c = c' :=
        fun h => Option.some.inj (hcode.symm.trans h)
      have hst : status = rcZisauxOk := by
        rcases misled with hc | hc | ⟨hc, -⟩
        · exact hok.mpr (.inl (code hc))
        · exact hok.mpr (.inr (code hc))
        · exact absurd (code hc) hne
      exact hne (code (ht.released (returns hst)))
    | unqueued hcode => rcases misled with hc | hc | ⟨hc, -⟩ <;> cases hcode.symm.trans hc
  | @left terminated status hphase =>
    simp only [Request.ReportsTruly, Classical.not_imp] at cond
    obtain ⟨hok, hterminated⟩ := cond
    obtain rfl := Phase.returned.inj (hphase.symm.trans hok)
    have entered := inv.entered (.inr (.inr hok))
    exact hterminated (ht.terminated _ _ _ rfl
      ((handleCommunicationPcss_ok_iff entered _ _).mpr rfl)).2
  | leftAbnormally hphase =>
    refine cond fun hok => ?_
    rcases hphase with hphase | hphase <;> cases hphase.symm.trans hok

/-- What holds of the requests of a host in every run. -/
structure Reporting (h : Host) : Prop where
  own : OwnInv h
  completion : h.All CompletionInv Slot.Unserved

theorem reporting_step {h h' : Host} {e : HostEvent} (inv : Reporting h)
    (hs : h.step e = some h') : Reporting h' where
  own := ownInv_step inv.own hs
  completion := completionInv.host inv.own inv.completion (by cases e <;> simp [Host.Allows]) hs

/-- Every requester of the host is told the truth. -/
def Host.Truthful (h : Host) : Prop :=
  ∀ r req, h.requests.read r = some req → req.Truthful

/-- A step of the host under the condition tells every requester the truth. -/
theorem truthful_step {h h' : Host} {e : HostEvent} (inv : Reporting h) (ht : h.Truthful)
    (cond : ReportsTruly h e) (hs : h.step e = some h') : h'.Truthful := by
  cases e with
  | call call parm =>
    obtain rfl := Host.step_call hs
    intro r req hread
    rcases Heap.read_alloc_cases hread with ⟨-, rfl⟩ | hold
    · rcases Request.ofCall_cases h.available call parm with
        ⟨phase, hphase, heq⟩ | ⟨slot, rest, -, heq⟩
      · rw [heq]
        rcases hphase with rfl | rfl | ⟨rc, rfl, hne⟩
        · exact .of_not_ok nofun nofun
        · exact .of_not_ok nofun nofun
        · exact .of_not_ok (fun h => hne (Option.some.inj h)) nofun
      · rw [heq]
        exact .of_not_ok nofun nofun
    · exact ht r req hold
  | request r e =>
    obtain ⟨req, l, hread, hstep, rfl⟩ := Host.step_request hs
    intro q x hx
    rcases Heap.read_update_cases hx with ⟨rfl, y, -, rfl⟩ | ⟨-, hold⟩
    · exact hstep.truthful (inv.completion.requests q req hread) (ht q req hread)
        (cond req hread)
    · exact ht q x hold
  | notify =>
    obtain rfl := Host.step_notify hs
    exact ht
  | terminate =>
    obtain rfl := Host.step_terminate hs
    exact ht

/-- A step of the host against the condition tells a requester something else. -/
theorem untruthful_step {h h' : Host} {e : HostEvent} (inv : Reporting h)
    (cond : ¬ ReportsTruly h e) (hs : h.step e = some h') : ¬ h'.Truthful := by
  cases e with
  | call => exact absurd trivial cond
  | request r e =>
    obtain ⟨req, l, hread, hstep, rfl⟩ := Host.step_request hs
    have broken : ¬ req.ReportsTruly e := fun hk => cond fun x hx => by
      rw [hread, Option.some.injEq] at hx
      exact hx ▸ hk
    intro ht
    refine hstep.untruthful (inv.completion.requests r req hread) broken (ht r l.request ?_)
    rw [Heap.read_update_self, hread, Option.map_some]
  | notify => exact absurd trivial cond
  | terminate => exact absurd trivial cond

/-- **Completion truth, exactly.** In every state on the way of a run every requester is told the
truth if and only if no step of the run brings a requester that is misled through its cleanup with
success, or lets a requester with a status of OK leave without its PC environment terminated. A
requester is misled by the cancel path, by a worker without recovery, and by a worker that left OK for a
command it did not bring to the guest's function. -/
theorem truthful_iff {env : ContextEnv} {h₀ h : Host} {es : List HostEvent}
    (start : makeContext env = some h₀) (hrun : auxHost.run h₀ es = some h) :
    (∀ u, auxHost.Visits h₀ es u → u.Truthful) ↔ auxHost.Meets ReportsTruly h₀ es := by
  have fresh : Slot.Unserved ⟨.fresh, PauseElement.fresh.token⟩ := nofun
  obtain ⟨all, hempty, -⟩ := makeContext_all start fresh
  refine auxHost.visits_iff_meets (I := Reporting) (fun _ _ _ inv hs => reporting_step inv hs)
    (fun _ _ _ inv ht cond hs => truthful_step inv ht cond hs)
    (fun _ _ _ inv cond hs => untruthful_step inv cond hs) ⟨makeContext_own start, all⟩ ?_ hrun
  intro r req hread
  rw [hempty, Heap.read_empty] at hread
  cases hread

theorem truthful_iff_sampleRun :
    (∀ u, auxHost.Visits sampleHost sampleRun u → u.Truthful) ↔
      auxHost.Meets ReportsTruly sampleHost sampleRun := by
  obtain ⟨h, hrun⟩ := Option.isSome_iff_exists.mp
    (by decide +kernel : (auxHost.run sampleHost sampleRun).isSome = true)
  exact truthful_iff makeContext_sampleContext hrun

/-- A requester that waits, is released by the cancel path, and returns. -/
def cancelledRun : List HostEvent :=
  [.call sampleCall sampleParm, .request 0 (.check 0), .request 0 (.copy sampleParm true true),
    .request 0 (.enqueue true), .request 0 (.pause 0), .notify .cancel 0, .request 0 .resume,
    .request 0 .reinsert, .request 0 (.finish true true true)]

/-- The cancelled request returns OK, and no dispatch was made for it. -/
theorem cancelled_request_returns_ok :
    ∃ h, auxHost.run sampleHost cancelledRun = some h ∧ ¬ h.Truthful := by
  have outcome : ((auxHost.run sampleHost cancelledRun).bind fun h => h.requests.read 0).map
      (fun req => (req.status, req.handled)) = some (some rcZisauxOk, none) := by
    decide +kernel
  cases hrun : auxHost.run sampleHost cancelledRun with
  | none =>
    rw [hrun] at outcome
    cases outcome
  | some h =>
    rw [hrun, Option.bind_some] at outcome
    refine ⟨h, rfl, fun ht => ?_⟩
    obtain ⟨req, hread, heq⟩ := Option.map_eq_some_iff.mp outcome
    rw [Prod.mk.injEq] at heq
    obtain ⟨handled, hhandled, -⟩ := (ht 0 req hread).served heq.1
    cases heq.2.symm.trans hhandled

/-- A command whose text is not split, for which the guest has a function. -/
def untokenizedRun : List HostEvent :=
  let parm : CommServiceParmList := { sampleParm with function := zisauxCommServiceFuncCommand }
  [.call sampleCall parm, .request 0 (.check 0), .request 0 (.copy parm true true),
    .request 0 (.enqueue true), .request 0 (.dispatch true), .request 0 (.pause 0),
    .request 0 (.start true), .request 0 (.handle ⟨true, 8, none, .returned 0⟩),
    .request 0 .release, .request 0 .resume, .request 0 .remove, .request 0 .reinsert,
    .request 0 (.finish true true true)]

-- it returns OK as well, and the function was not called
example : ((auxHost.run sampleHost untokenizedRun).bind fun h => h.requests.read 0).map
    (fun req => (req.status, req.handled)) =
      some (some rcZisauxOk, some ⟨rcZisauxOk, true, none⟩) := by decide +kernel

end Zss.Zisaux
