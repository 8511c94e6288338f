import Zss.Zisaux.Completion

/-!
# Whose copy it is

The work element of a request holds the address of a copy on the requester's stack, and the token of
the element the requester waits on. Between a requester that waits and its worker the order is safe:
the worker answers, and only the answer lets the requester go on to clean the copy up. Any other
release of a waiting requester takes the copy away from under its worker, and any other end of the
worker leaves its work element behind. An abend of the requester, in its pause or in the update of the
caller's list, leaves the copy with its accesses.

`OwnershipInv` is that order as an invariant, for the runs in which nobody but its worker releases a
requester that waits and every step of the worker goes well; in these runs the copy and the element
are used while the request is pending, and everything is released once (`host_owned`).

## What is not established

The condition is enough, not exact: a release of a waiting requester does no harm where its worker has
answered already, for one. A cleanup counts as one whatever its removals of access return.
-/

namespace Zss.Zisaux

open Zss.Lib

/-! ## Ownership -/

/-- The worker is through with the request. -/
def Work.ended : Work → Bool
  | .removed | .lost => true
  | _ => false

/-- The copy and the work element of a request are released once, and no party leaves without. -/
structure Request.ReleasedOnce (r : Request) : Prop where
  cleans : r.cleans ≤ 1
  cleaned : r.phase.ended = true → r.obtained = true → r.cleans = 1
  removes : r.removes ≤ 1
  removed : r.work.ended = true → r.removes = 1

/-- Workers used what belongs to a requester while its request was pending, and everything is
released once. -/
structure Host.Owned (h : Host) : Prop where
  used : ∀ u ∈ h.uses, u.pending = true
  releasedOnce : ∀ r req, h.requests.read r = some req → req.ReleasedOnce

/-- The element was released, and not by an answer of the worker. -/
def Slot.Interrupted (s : Slot) : Prop := ∃ c, s.element.state = .released c ∧ c ≠ zisauxPeOk

/-- The condition on a step of one request: the access to the response is obtained where that to the
payload was, the pause is accepted and does not find the element released by others, the caller's list
can be updated, and the worker gets its task and its recovery environment and does not abend. -/
def KeepsOwnershipOf (s : Slot) : RequestEvent → Prop
  | .copy fetched payloadAccess responseAccess =>
    ∀ list ∈ fetched, list.payloadData = true → payloadAccess = true → list.responseData = true →
      responseAccess = true
  | .finish updated _ _ => updated = true
  | .pause pauseRC => pauseRC = 0 ∧ ¬ s.Interrupted
  | .dispatch task => task = true
  | .start recovery => recovery = true
  | .workerAbend => False
  | _ => True

/-- The condition on a step of the host, with the one on a release by others: nobody waits on the
element. -/
def KeepsOwnership (h : Host) : HostEvent → Prop :=
  h.Allows (fun _ => KeepsOwnershipOf) fun s => s.element.state ≠ .paused

instance (s : Slot) : Decidable s.Interrupted :=
  match h : s.element.state with
  | .released c =>
    decidable_of_iff (c ≠ zisauxPeOk)
      ⟨fun hne => ⟨c, h, hne⟩, fun ⟨_, hc, hne⟩ => PeState.released.inj (h.symm.trans hc) ▸ hne⟩
  | .reset => .isFalse fun ⟨_, hc, _⟩ => nomatch h.symm.trans hc
  | .paused => .isFalse fun ⟨_, hc, _⟩ => nomatch h.symm.trans hc

instance (s : Slot) (e : RequestEvent) : Decidable (KeepsOwnershipOf s e) :=
  match e with
  | .copy none _ _ => .isTrue nofun
  | .copy (some list) payloadAccess responseAccess =>
    decidable_of_iff (list.payloadData = true → payloadAccess = true →
        list.responseData = true → responseAccess = true)
      ⟨fun h _ hlist => Option.some.inj hlist ▸ h, fun h => h list rfl⟩
  | .finish updated _ _ => inferInstanceAs (Decidable (updated = true))
  | .pause pauseRC => inferInstanceAs (Decidable (pauseRC = 0 ∧ ¬ s.Interrupted))
  | .dispatch task => inferInstanceAs (Decidable (task = true))
  | .start recovery => inferInstanceAs (Decidable (recovery = true))
  | .workerAbend => .isFalse id
  | .check _ | .enqueue _ | .resume | .reinsert | .leave _ | .handle _ | .release | .clean
  | .remove => .isTrue trivial

instance (h : Host) (e : HostEvent) : Decidable (KeepsOwnership h e) :=
  match e with
  | .call _ _ => .isTrue trivial
  | .request r e =>
    match hread : h.requests.read r with
    | none => .isTrue fun _ hreq => nomatch hread.symm.trans hreq
    | some req =>
      decidable_of_iff (KeepsOwnershipOf (h.slots req.slot) e)
        ⟨fun hk _ hx => Option.some.inj (hread.symm.trans hx) ▸ hk, fun hk => hk req hread⟩
  | .notify _ s => inferInstanceAs (Decidable ((h.slots s).element.state ≠ .paused))
  | .terminate s => inferInstanceAs (Decidable ((h.slots s).element.state ≠ .paused))

/-! ## The invariant -/

/-- The worker has something of the requester. -/
def Work.busy : Work → Bool
  | .queued | .scheduled | .started | .handled => true
  | _ => false

/-- The requester has not cleaned its copy up, and the worker has not. -/
def Phase.unclean : Phase → Bool
  | .taken | .checked | .copied | .waiting | .resumed _ _ | .completed _ => true
  | _ => false

/-- A slot nobody waits on: its stored token is current, and no worker's answer waits there. -/
structure Slot.Idle (s : Slot) : Prop where
  current : s.pet = s.element.token
  unanswered : s.element.state ≠ .released zisauxPeOk

/-- What holds of a request and its slot while every step meets the condition. -/
structure OwnershipInv (r : Request) (s : Slot) : Prop where
  early : r.phase.early = true → s.Idle
  issued : r.phase.parked = true → r.completionPET = s.element.token
  resumed : ∀ code pet, r.phase = .resumed code pet →
    pet = s.element.token ∧ s.element.state ≠ .released zisauxPeOk
  busy : r.work.busy = true →
    (r.phase = .queued ∧ s.element.state ≠ .released zisauxPeOk ∨
      r.phase = .waiting ∧ s.element.state = .paused) ∧ r.cleans = 0
  failed : r.work = .releaseFailed → r.phase = .queued ∧ s.Interrupted ∧ r.cleans = 0
  lost : r.work ≠ .lost
  removes : r.removes = if r.work = .removed then 1 else 0
  unclean : r.phase.unclean = true → r.cleans = 0
  queued : r.phase = .queued → r.cleans = 0 ∨ s.Interrupted ∧ r.cleans = 1
  fresh : r.phase = .taken ∨ r.phase = .checked → r.obtained = false
  cleaned : r.phase.ended = true → r.cleans ≤ 1 ∧ (r.obtained = true → r.cleans = 1)

variable {r : Request} {s : Slot}

/-- The invariant has everything released once. -/
theorem OwnershipInv.releasedOnce (inv : OwnershipInv r s) : r.ReleasedOnce := by
  have removes := inv.removes
  refine ⟨?_, fun hover => (inv.cleaned hover).2, ?_, fun hover => ?_⟩
  · cases hphase : r.phase with
    | refused | returned | abended | left => exact (inv.cleaned (by rw [hphase]; rfl)).1
    | queued =>
      rcases inv.queued hphase with h | ⟨-, h⟩
      · rw [h]
        exact Nat.zero_le 1
      · rw [h]
    | taken | checked | copied | waiting | resumed | completed =>
      rw [inv.unclean (by rw [hphase]; rfl)]
      exact Nat.zero_le 1
  · rw [removes]
    split <;> decide
  · have hremoved : r.work = .removed := by
      cases hwork : r.work with
      | removed => rfl
      | lost => exact absurd hwork inv.lost
      | _ =>
        rw [hwork] at hover
        cases hover
    rw [removes, if_pos hremoved]

/-- A busy worker's request is pending. -/
theorem OwnershipInv.pending (inv : OwnershipInv r s)
    (h : r.work.busy = true ∨ r.work = .releaseFailed) : r.pending s = true := by
  rcases h with h | h
  · rcases (inv.busy h).1 with ⟨hphase, -⟩ | ⟨hphase, hstate⟩
    · rw [Request.pending, hphase]
    · rw [Request.pending, hphase, hstate]
      rfl
  · rw [Request.pending, (inv.failed h).1]

/-- **A worker under the condition uses what belongs to a requester while the request is
pending.** -/
theorem WorkerStepped.used {e : RequestEvent} {l : Local} (h : WorkerStepped r s e l)
    (inv : OwnershipInv r s) (cond : KeepsOwnershipOf s e) : l.use = none ∨ r.pending s = true := by
  cases h with
  | dispatched | started | removed => exact .inl rfl
  | notScheduled | notStarted => cases cond
  | workerAbended => exact cond.elim
  | handled hwork | released hwork | notReleased hwork =>
    exact .inr (inv.pending (.inl (by rw [hwork]; rfl)))
  | cleaned hwork => exact .inr (inv.pending (.inr hwork))

/-! ## One step -/

/-- A copy that fails under the condition leaves no access. -/
theorem copyServiceParmList_failed {payloadAccess responseAccess : Bool}
    {parm : CommServiceParmList}
    (h : (copyServiceParmList payloadAccess responseAccess parm).rc ≠ rcZisauxOk)
    (cond : parm.payloadData = true → payloadAccess = true → parm.responseData = true →
      responseAccess = true) :
    (copyServiceParmList payloadAccess responseAccess parm).obtained = false := by
  unfold copyServiceParmList at h ⊢
  split
  · rfl
  next hpayload =>
  rw [if_neg hpayload] at h
  split
  · next hresponse =>
    simp only [Bool.and_eq_true, Bool.not_eq_eq_eq_not, Bool.not_true, not_and,
      Bool.not_eq_false] at hpayload hresponse
    by_contra hdata
    have hdata := Bool.eq_true_of_not_eq_false hdata
    exact absurd ((cond hdata (hpayload hdata) hresponse.1).symm.trans hresponse.2) (by decide)
  · next hresponse => exact absurd (by rw [if_neg hresponse]) h

/-- A worker's step under the condition keeps the invariant. -/
theorem WorkerStepped.ownership {e : RequestEvent} {l : Local} (h : WorkerStepped r s e l)
    (inv : OwnershipInv r s) (cond : KeepsOwnershipOf s e) : OwnershipInv l.request l.slot := by
  have busy : ∀ {w : Work}, r.work = w → w.busy = true →
      (r.phase = .queued ∧ s.element.state ≠ .released zisauxPeOk ∨
        r.phase = .waiting ∧ s.element.state = .paused) ∧ r.cleans = 0 :=
    fun hw hb => inv.busy (by rw [hw, hb])
  have unremoved : ∀ {w : Work}, r.work = w → w ≠ .removed → r.removes = 0 := fun hw hne => by
    rw [inv.removes, hw, if_neg hne]
  cases h with
  | dispatched hwork | started hwork | handled hwork =>
    exact ⟨inv.early, inv.issued, inv.resumed, fun _ => busy hwork rfl, nofun, nofun,
      unremoved hwork nofun, inv.unclean, inv.queued, inv.fresh, inv.cleaned⟩
  | notScheduled | notStarted => cases cond
  | workerAbended => exact cond.elim
  | released hwork hrelease =>
    obtain ⟨-, -, rfl⟩ := PauseElement.release_some hrelease
    obtain ⟨hphase, hcleans⟩ := busy hwork rfl
    have parked : r.phase.early = false ∧ ∀ code pet, r.phase ≠ .resumed code pet := by
      rcases hphase with ⟨h, -⟩ | ⟨h, -⟩ <;> rw [h] <;> exact ⟨rfl, nofun⟩
    exact ⟨fun h => absurd (parked.1.symm.trans h) (by decide), inv.issued,
      fun code pet h => absurd h (parked.2 code pet), nofun, nofun, nofun,
      unremoved hwork nofun, inv.unclean, fun _ => .inl hcleans, inv.fresh, inv.cleaned⟩
  | notReleased hwork hrelease =>
    obtain ⟨hphase, hcleans⟩ := busy hwork rfl
    have parked : r.phase.parked = true := by
      rcases hphase with ⟨h, -⟩ | ⟨h, -⟩ <;> rw [h] <;> rfl
    refine ⟨inv.early, inv.issued, inv.resumed, nofun, fun _ => ?_, nofun,
      unremoved hwork nofun, inv.unclean, inv.queued, inv.fresh, inv.cleaned⟩
    -- the token is current, so the release met a code that was there before
    rcases PauseElement.release_none hrelease with htoken | ⟨c, hstate⟩
    · exact absurd (inv.issued parked) htoken
    · rcases hphase with ⟨hqueued, hne⟩ | ⟨-, hpaused⟩
      · exact ⟨hqueued, ⟨c, hstate, fun hc => hne (hc ▸ hstate)⟩, hcleans⟩
      · cases hpaused.symm.trans hstate
  | cleaned hwork =>
    obtain ⟨hqueued, hinterrupted, hcleans⟩ := inv.failed hwork
    refine ⟨inv.early, inv.issued, inv.resumed, nofun, nofun, nofun, unremoved hwork nofun,
      fun h => ?_, fun _ => .inr ⟨hinterrupted, ?_⟩, inv.fresh, fun h => ?_⟩
    · rw [hqueued] at h
      cases h
    · rw [hcleans]
    · rw [hqueued] at h
      cases h
  | removed hwork =>
    exact ⟨inv.early, inv.issued, inv.resumed, nofun, nofun, nofun,
      by rw [unremoved hwork nofun]; rfl, inv.unclean, inv.queued, inv.fresh, inv.cleaned⟩

/-- A worker that has something of the requester has a requester that is parked. -/
theorem OwnershipInv.free {r : Request} {s : Slot} (inv : OwnershipInv r s)
    (unparked : r.phase.parked = false) : r.work.busy = false ∧ r.work ≠ .releaseFailed := by
  refine ⟨Bool.eq_false_iff.mpr fun hb => ?_, fun hf => ?_⟩
  · rcases (inv.busy hb).1 with ⟨h, -⟩ | ⟨h, -⟩ <;> rw [h] at unparked <;> cases unparked
  · rw [(inv.failed hf).1] at unparked
    cases unparked

theorem Phase.not_of_ended {p : Phase} (h : p.ended = true) : p.early = false ∧ p.parked = false ∧
    p.unclean = false ∧ (∀ code pet, p ≠ .resumed code pet) ∧ p ≠ .queued ∧ p ≠ .taken ∧
      p ≠ .checked := by
  cases p with
  | refused | returned | abended | left => exact ⟨rfl, rfl, rfl, nofun, nofun, nofun, nofun⟩
  | _ => cases h

/-- A request that ends with its copy cleaned, and with no worker at it, keeps the invariant. -/
theorem OwnershipInv.of_ended {r q : Request} {s : Slot} (inv : OwnershipInv r s)
    (unparked : r.phase.parked = false) (work : q.work = r.work) (removes : q.removes = r.removes)
    (ended : q.phase.ended = true)
    (cleaned : q.cleans ≤ 1 ∧ (q.obtained = true → q.cleans = 1)) : OwnershipInv q s := by
  obtain ⟨late, left, clean, unresumed, unqueued, untaken, unchecked⟩ := Phase.not_of_ended ended
  obtain ⟨idle, unfailed⟩ := inv.free unparked
  have not {b : Bool} {α : Prop} (hb : b = false) (h : b = true) : α := by
    rw [hb] at h
    cases h
  refine ⟨not late, not left, fun code pet h => absurd h (unresumed code pet),
    fun h => not idle (work ▸ h), fun h => absurd (work ▸ h) unfailed, work ▸ inv.lost, ?_,
    not clean, fun h => absurd h unqueued, ?_, fun _ => cleaned⟩
  · rw [removes, work]
    exact inv.removes
  · rintro (h | h)
    · exact absurd h untaken
    · exact absurd h unchecked

/-- A requester's step under the condition keeps the invariant. -/
theorem RequesterStepped.ownership {e : RequestEvent} {l : Local} (h : RequesterStepped r s e l)
    (tokens : TokenInv r s) (inv : OwnershipInv r s) (cond : KeepsOwnershipOf s e) :
    OwnershipInv l.request l.slot := by
  have early : ∀ {p : Phase}, r.phase = p → p.early = true → s.Idle :=
    fun hp he => inv.early (by rw [hp, he])
  have unclean : ∀ {p : Phase}, r.phase = p → p.unclean = true → r.cleans = 0 :=
    fun hp hu => inv.unclean (by rw [hp, hu])
  have ended : ∀ {p : Phase}, r.phase = p → p.ended = true →
      r.cleans ≤ 1 ∧ (r.obtained = true → r.cleans = 1) :=
    fun hp ho => inv.cleaned (by rw [hp, ho])
  have unparked : ∀ {p : Phase}, r.phase = p → p.parked = false → r.phase.parked = false :=
    fun hp hn => by rw [hp, hn]
  have idle : ∀ {p : Phase} {q : Prop}, r.phase = p → p.parked = false → r.work.busy = true → q :=
    fun hp hn hb => absurd ((inv.free (unparked hp hn)).1.symm.trans hb) (by decide)
  -- a request that ends before it obtained anything has nothing to clean
  have nothing : ∀ {p : Phase} {obtained : Bool}, r.phase = p → p.unclean = true →
      obtained = false → r.cleans ≤ 1 ∧ (obtained = true → r.cleans = 1) := fun hp hu hob =>
    ⟨by rw [unclean hp hu]; exact Nat.zero_le 1, fun h => by rw [hob] at h; cases h⟩
  cases h with
  | checked hphase =>
    exact ⟨fun _ => early hphase rfl, nofun, nofun, idle hphase rfl,
      fun hf => absurd hf (inv.free (unparked hphase rfl)).2, inv.lost, inv.removes, fun _ => unclean hphase rfl,
      nofun, fun _ => inv.fresh (.inl hphase), nofun⟩
  | badPet hphase =>
    exact inv.of_ended (unparked hphase rfl) rfl rfl rfl
      (nothing hphase rfl (inv.fresh (.inl hphase)))
  | notFetched hphase =>
    exact inv.of_ended (unparked hphase rfl) rfl rfl rfl
      (nothing hphase rfl (inv.fresh (.inr hphase)))
  | copied hphase =>
    exact ⟨fun _ => early hphase rfl, nofun, nofun, idle hphase rfl,
      fun hf => absurd hf (inv.free (unparked hphase rfl)).2, inv.lost, inv.removes, fun _ => unclean hphase rfl,
      nofun, nofun, nofun⟩
  | notCopied hphase hrc =>
    exact inv.of_ended (unparked hphase rfl) rfl rfl rfl
      (nothing hphase rfl (copyServiceParmList_failed hrc (cond _ rfl)))
  | enqueued hphase =>
    obtain ⟨hcurrent, hunanswered⟩ := early hphase rfl
    have hcleans := unclean hphase rfl
    have hwork : r.work = .none := tokens.unissued (by rw [hphase]; rfl)
    exact ⟨nofun, fun _ => hcurrent, nofun, fun _ => ⟨.inl ⟨rfl, hunanswered⟩, hcleans⟩, nofun,
      nofun, by rw [inv.removes, hwork]; rfl, nofun, fun _ => .inl hcleans, nofun, nofun⟩
  | noElement hphase | reinserted hphase =>
    exact ⟨nofun, nofun, nofun, idle hphase rfl,
      fun hf => absurd hf (inv.free (unparked hphase rfl)).2, inv.lost, inv.removes, fun _ => unclean hphase rfl,
      nofun, nofun, nofun⟩
  | paused hphase =>
    have hcleans : r.cleans = 0 := by
      rcases inv.queued hphase with h | ⟨h, -⟩
      · exact h
      · exact absurd h cond.2
    have token : s.element.pause.token = s.element.token := by
      rcases s.element.pause_cases with ⟨-, heq⟩ | ⟨-, heq⟩ <;> rw [heq]
    refine ⟨nofun, fun _ => ?_, nofun, fun hb => ⟨.inr ⟨rfl, ?_⟩, hcleans⟩,
      fun hf => absurd (inv.failed hf).2.1 cond.2, inv.lost, inv.removes, fun _ => hcleans,
      nofun, nofun, nofun⟩
    · exact (inv.issued (by rw [hphase]; rfl)).trans token.symm
    · have unanswered : s.element.state ≠ .released zisauxPeOk := by
        rcases (inv.busy hb).1 with ⟨-, h⟩ | ⟨h, -⟩
        · exact h
        · cases hphase.symm.trans h
      cases hstate : s.element.state with
      | reset => simp only [PauseElement.pause, hstate]
      | paused => simp only [PauseElement.pause, hstate]
      | released c => exact absurd ⟨c, hstate, fun hc => unanswered (hc ▸ hstate)⟩ cond.2
  | pauseFailed _ hrc => exact absurd cond.1 hrc
  | resumed hphase htake =>
    obtain ⟨hstate, rfl⟩ := PauseElement.take_some htake
    refine ⟨nofun, nofun, ?_, fun hb => ?_, fun hf => ?_, inv.lost, inv.removes,
      fun _ => unclean hphase rfl, nofun, nofun, nofun⟩
    · rintro code pet ⟨⟩
      exact ⟨rfl, nofun⟩
    · rcases (inv.busy hb).1 with ⟨h, -⟩ | ⟨-, h⟩
      · cases hphase.symm.trans h
      · cases hstate.symm.trans h
    · cases hphase.symm.trans (inv.failed hf).1
  | finished hphase =>
    have hcleans : r.cleans + 1 = 1 := by rw [unclean hphase rfl]
    exact inv.of_ended (unparked hphase rfl) rfl rfl rfl ⟨hcleans.le, fun _ => hcleans⟩
  | notUpdated => cases cond
  | left hphase =>
    exact inv.of_ended (unparked hphase rfl) rfl rfl rfl (ended hphase rfl)
  | leftAbnormally hphase =>
    rcases hphase with hphase | hphase <;>
      exact inv.of_ended (unparked hphase rfl) rfl rfl rfl (ended hphase rfl)

/-- The invariant is one of requests and their slots under the condition. -/
theorem ownershipInv : RequestInvariant (fun _ => KeepsOwnershipOf)
    (fun s => s.element.state ≠ .paused) OwnershipInv Slot.Idle where
  step cond _ tokens hstep inv := by
    cases hstep with
    | requester h => exact h.ownership tokens inv cond
    | worker h => exact h.ownership inv cond
  givesBack hphase _ inv := by
    obtain ⟨hpet, hunanswered⟩ := inv.resumed _ _ hphase
    exact ⟨hpet, hunanswered⟩
  givenBack {r _ _} hback tokens _ inv := by
    have landed : r.phase.inFlight ≠ true := fun hin => by simp [tokens.holds hin] at hback
    have gone : ∀ {p : Phase} {q : Prop}, p.inFlight = true → r.phase = p → q :=
      fun hin hp => absurd (hp ▸ hin) landed
    refine ⟨fun h => absurd (Phase.inFlight_of_early h) landed,
      fun h => absurd (Phase.inFlight_of_parked h) landed, fun _ _ h => gone rfl h, fun hb => ?_,
      fun hf => gone rfl (inv.failed hf).1, inv.lost, inv.removes, inv.unclean,
      fun h => gone rfl h, inv.fresh, inv.cleaned⟩
    rcases (inv.busy hb).1 with ⟨h, -⟩ | ⟨h, -⟩
    · exact gone rfl h
    · exact gone rfl h
  release hn foreign _ inv := by
    obtain ⟨hbefore, c, hforeign, rfl⟩ := foreign
    have hc : c ≠ zisauxPeOk := by
      rintro rfl
      exact absurd hforeign (by decide)
    have unanswered : PeState.released c ≠ .released zisauxPeOk :=
      fun h => hc (PeState.released.inj h)
    refine ⟨fun h => ⟨(inv.early h).current, unanswered⟩, inv.issued,
      fun code pet h => ⟨(inv.resumed code pet h).1, unanswered⟩, fun hb => ?_, fun hf => ?_,
      inv.lost, inv.removes, inv.unclean, fun h => ?_, inv.fresh, inv.cleaned⟩
    · obtain ⟨⟨hphase, -⟩ | ⟨-, hpaused⟩, hcleans⟩ := inv.busy hb
      · exact ⟨.inl ⟨hphase, unanswered⟩, hcleans⟩
      · exact absurd hpaused hn
    · obtain ⟨hphase, -, hcleans⟩ := inv.failed hf
      exact ⟨hphase, ⟨c, rfl, hc⟩, hcleans⟩
    · exact (inv.queued h).imp_right fun hq => ⟨⟨c, rfl, hc⟩, hq.2⟩
  releaseFree _ foreign hidle := by
    obtain ⟨-, c, hforeign, rfl⟩ := foreign
    refine ⟨hidle.current, fun h => ?_⟩
    obtain rfl := PeState.released.inj h
    exact absurd hforeign (by decide)
  refused hphase := by
    rcases hphase with rfl | rfl | ⟨rc, rfl, -⟩ <;>
      exact ⟨nofun, nofun, nofun, nofun, nofun, nofun, rfl, nofun, nofun, fun _ => rfl,
        fun _ => ⟨Nat.zero_le 1, nofun⟩⟩
  takes _ hidle :=
    ⟨fun _ => hidle, nofun, nofun, nofun, nofun, nofun, rfl, fun _ => rfl, nofun, fun _ => rfl,
      nofun⟩

/-! ## Ownership along a run -/

/-- What holds of a host while every step meets the condition. -/
structure Owning (h : Host) : Prop where
  own : OwnInv h
  ownership : h.All OwnershipInv Slot.Idle
  used : ∀ u ∈ h.uses, u.pending = true

theorem Owning.owned {h : Host} (inv : Owning h) : h.Owned where
  used := inv.used
  releasedOnce r req hread := (inv.ownership.requests r req hread).releasedOnce

/-- A step under the condition keeps requests and their copies in their owners' hands. -/
theorem owning_step {h h' : Host} {e : HostEvent} (inv : Owning h) (cond : KeepsOwnership h e)
    (hs : h.step e = some h') : Owning h' where
  own := ownInv_step inv.own hs
  ownership := ownershipInv.host inv.own inv.ownership cond hs
  used := by
    cases e with
    | call call parm =>
      obtain rfl := Host.step_call hs
      exact inv.used
    | request r e =>
      obtain ⟨req, l, hread, hstep, rfl⟩ := Host.step_request hs
      have use : l.use = none ∨ req.pending (h.slots req.slot) = true := by
        cases hstep with
        | requester hstep => exact .inl (by cases hstep <;> rfl)
        | worker hstep =>
          exact hstep.used (inv.ownership.requests r req hread) (cond req hread)
      intro u hu
      rcases List.mem_append.mp hu with hnew | hold
      · obtain ⟨kind, hkind, rfl⟩ := List.mem_map.mp hnew
        rcases use with hnone | hpending
        · rw [hnone] at hkind
          cases hkind
        · exact hpending
      · exact inv.used u hold
    | notify =>
      obtain rfl := Host.step_notify hs
      exact inv.used
    | terminate =>
      obtain rfl := Host.step_terminate hs
      exact inv.used

/-- **Ownership.** In every state on the way of a run in which nobody but its worker releases a
requester that waits, and in which accesses, pauses and worker tasks succeed, workers have used what
belongs to a requester only while its request was pending, and every copy and every work element is
released once. -/
theorem host_owned {env : ContextEnv} {h₀ : Host} {es : List HostEvent}
    (start : makeContext env = some h₀) (meets : auxHost.Meets KeepsOwnership h₀ es) :
    ∀ u, auxHost.Visits h₀ es u → u.Owned := by
  have fresh : Slot.Idle ⟨.fresh, PauseElement.fresh.token⟩ := ⟨rfl, nofun⟩
  obtain ⟨all, -, huses⟩ := makeContext_all start fresh
  have inv : Owning h₀ := ⟨makeContext_own start, all, by simp [huses]⟩
  exact fun u hu =>
    (auxHost.visits_keeps (fun _ _ _ inv cond hs => owning_step inv cond hs) inv meets hu).owned

theorem host_owned_sampleRun : ∃ h, auxHost.run sampleHost sampleRun = some h ∧ h.Owned := by
  obtain ⟨h, hrun⟩ := Option.isSome_iff_exists.mp
    (by decide +kernel : (auxHost.run sampleHost sampleRun).isSome = true)
  exact ⟨h, hrun, host_owned makeContext_sampleContext (by decide +kernel) h
    (auxHost.visits_of_run hrun)⟩

/-- A requester that its worker has begun to serve, is released by the cancel path and returns. -/
def overtakenRun : List HostEvent :=
  [.call sampleCall sampleParm, .request 0 (.check 0), .request 0 (.copy sampleParm true true),
    .request 0 (.enqueue true), .request 0 (.pause 0), .request 0 (.dispatch true),
    .request 0 (.start true), .notify .cancel 0, .request 0 .resume, .request 0 .reinsert,
    .request 0 (.finish true true true), .request 0 (.handle ⟨true, 0, none, .returned 0⟩),
    .request 0 .release, .request 0 .clean]

/-- Its worker dispatches on the copy of a request that returned, and cleans it up a second time. -/
theorem overtaken_worker_uses_copy :
    ∃ h, auxHost.run sampleHost overtakenRun = some h ∧ ¬ h.Owned := by
  have uses : (auxHost.run sampleHost overtakenRun).map (fun h => h.uses.map Use.pending) =
      some [false, false, false] := by decide +kernel
  obtain ⟨h, hrun, huses⟩ := Option.map_eq_some_iff.mp uses
  refine ⟨h, hrun, fun howned => ?_⟩
  have hin : false ∈ h.uses.map Use.pending := by
    rw [huses]
    exact List.mem_cons_self
  obtain ⟨u, hu, hpending⟩ := List.mem_map.mp hin
  exact absurd ((howned.used u hu).symm.trans hpending) (by decide)

end Zss.Zisaux
