import Zss.Zisaux.Steps

/-!
# Conservation of request slots

Sixteen pause elements are all the address space has to serve requests with. A request takes one at
the start of `scheduleCommRequestProcessing` and gives it back after its pause, and only there: five
exits before that keep it for good. They are those on which the check of the element fails, the second
fetch of the parameter list abends, an access to shared storage is not obtained, the work element is
not allocated, or the pause fails.

Counting says it all. The elements in the queue and those taken and not given back are always
sixteen (`SlotInv`); a run keeps those in the queue and those of requests in flight at sixteen
exactly if it never takes one of those exits (`conserved_iff`).

## What is not established

That a request is ever answered, and its slot given back in the end: a requester may wait without a
bound. A requester abends where it fetches or updates its caller's list and where its pause fails,
and nowhere else.
-/

namespace Zss.Zisaux

open Zss.Lib

/-- The requester has not come to an end of its request yet: it can still give its slot back. -/
def Phase.inFlight : Phase → Bool
  | .taken | .checked | .copied | .queued | .waiting | .resumed _ _ => true
  | _ => false

/-- One for a request in flight that has taken a slot. -/
def inFlightSlots (r : Request) : Nat := if r.holds && r.phase.inFlight then 1 else 0

/-- One for a request that is over and has not given its slot back. -/
def lostSlots (r : Request) : Nat := if r.holds && !r.phase.inFlight then 1 else 0

theorem Phase.WithoutSlot.not_inFlight {p : Phase} (h : p.WithoutSlot) : p.inFlight = false := by
  rcases h with rfl | rfl | ⟨rc, rfl, -⟩ <;> rfl

/-- The slots of the address space are in the queue or with requests in flight, and a request that
is over has given its slot back. -/
structure Host.Conserved (h : Host) : Prop where
  count : h.available.length + h.requests.total inFlightSlots = zisauxMaxRequestCount
  givenBack : ∀ r req, h.requests.read r = some req → req.phase.inFlight = false →
    req.holds = false

/-- The condition on a step of one request: it does not take an exit that keeps the slot. -/
def KeepsSlot (s : Slot) : RequestEvent → Prop
  | .check testRC => isPetValid testRC s.element = true
  | .copy fetched payloadAccess responseAccess =>
    ∃ list, fetched = some list ∧
      (copyServiceParmList payloadAccess responseAccess list).rc = rcZisauxOk
  | .enqueue storage => storage = true
  | .pause pauseRC => pauseRC = 0
  | _ => True

/-- The condition on a step of the host. -/
def KeepsSlots (h : Host) : HostEvent → Prop
  | .request r e => ∀ req, h.requests.read r = some req → KeepsSlot (h.slots req.slot) e
  | _ => True

/-! ## The invariant -/

/-- What holds of the slots in every run: their number, and that a request in flight has one. -/
structure SlotInv (h : Host) : Prop where
  count : h.available.length + h.requests.total inFlightSlots + h.requests.total lostSlots =
    zisauxMaxRequestCount
  taken : ∀ r req, h.requests.read r = some req → req.phase.inFlight = true → req.holds = true

/-- A slot taken is in flight or lost. -/
theorem slots_of_request (r : Request) :
    inFlightSlots r + lostSlots r = if r.holds then 1 else 0 := by
  unfold inFlightSlots lostSlots
  cases r.holds <;> cases r.phase.inFlight <;> rfl

variable {r : Request} {h : Host}

theorem lostSlots_of_inFlight (h : r.phase.inFlight = true) : lostSlots r = 0 := by
  simp [lostSlots, h]

theorem lostSlots_of_givenBack (h : r.holds = false) : lostSlots r = 0 := by
  simp [lostSlots, h]

theorem lostSlots_of_over (hover : r.phase.inFlight = false) (hholds : r.holds = true) :
    lostSlots r = 1 := by
  simp [lostSlots, hover, hholds]

/-- **The step lemma.** A request in flight keeps its slot; under the condition a step loses no slot,
and against it the step loses one. -/
theorem Stepped.slots {s : Slot} {e : RequestEvent} {l : Local} (h : Stepped r s e l)
    (taken : r.phase.inFlight = true → r.holds = true) :
    (l.request.phase.inFlight = true → l.request.holds = true) ∧
      (KeepsSlot s e → lostSlots r = 0 → lostSlots l.request = 0) ∧
      (¬ KeepsSlot s e → lostSlots l.request = 1) := by
  have holds : ∀ {p : Phase}, r.phase = p → p.inFlight = true → r.holds = true :=
    fun hp hf => taken (by rw [hp, hf])
  cases h with
  | worker h =>
    have move := h.move
    have same : lostSlots l.request = lostSlots r := by
      rw [lostSlots, move.holds, move.phase, lostSlots]
    refine ⟨by rw [move.phase, move.holds]; exact taken, fun _ hlost => same.trans hlost,
      fun hn => absurd ?_ hn⟩
    cases h <;> trivial
  | requester h =>
  cases h with
  | checked hphase hvalid =>
    exact ⟨fun _ => holds hphase rfl, fun _ _ => lostSlots_of_inFlight rfl,
      fun hn => absurd hvalid hn⟩
  | badPet hphase hbad =>
    refine ⟨nofun, fun hk => ?_, fun _ => lostSlots_of_over rfl (holds hphase rfl)⟩
    exact absurd (hk.symm.trans hbad) (by decide)
  | notFetched hphase =>
    exact ⟨nofun, fun ⟨_, hfetched, _⟩ => (nomatch hfetched),
      fun _ => lostSlots_of_over rfl (holds hphase rfl)⟩
  | copied hphase hrc =>
    exact ⟨fun _ => holds hphase rfl, fun _ _ => lostSlots_of_inFlight rfl,
      fun hn => absurd ⟨_, rfl, hrc⟩ hn⟩
  | notCopied hphase hrc =>
    refine ⟨nofun, ?_, fun _ => lostSlots_of_over rfl (holds hphase rfl)⟩
    rintro ⟨_, ⟨⟩, hk⟩
    exact absurd hk hrc
  | enqueued hphase | paused hphase =>
    exact ⟨fun _ => holds hphase rfl, fun _ _ => lostSlots_of_inFlight rfl,
      fun hn => absurd rfl hn⟩
  | noElement hphase =>
    exact ⟨nofun, fun hk => Bool.noConfusion (hk : false = true),
      fun _ => lostSlots_of_over rfl (holds hphase rfl)⟩
  | pauseFailed hphase hrc =>
    exact ⟨nofun, fun hk => absurd hk hrc, fun _ => lostSlots_of_over rfl (holds hphase rfl)⟩
  | resumed hphase =>
    exact ⟨fun _ => holds hphase rfl, fun _ _ => lostSlots_of_inFlight rfl,
      fun hn => absurd trivial hn⟩
  | reinserted => exact ⟨nofun, fun _ _ => lostSlots_of_givenBack rfl, fun hn => absurd trivial hn⟩
  | finished hphase | notUpdated hphase | left hphase =>
    refine ⟨nofun, fun _ hlost => ?_, fun hn => absurd trivial hn⟩
    simpa [lostSlots, hphase, Phase.inFlight] using hlost
  | leftAbnormally hphase =>
    refine ⟨nofun, fun _ hlost => ?_, fun hn => absurd trivial hn⟩
    rcases hphase with hphase | hphase <;> simpa [lostSlots, hphase, Phase.inFlight] using hlost

/-- What a step of a request does to the number of slots. -/
theorem Stepped.count {s : Slot} {e : RequestEvent} {l : Local} (h : Stepped r s e l)
    (available : List Nat) :
    (if r.holds && !l.request.holds then available ++ [r.slot] else available).length +
        (if l.request.holds then 1 else 0) =
      available.length + if r.holds then 1 else 0 := by
  cases hl : l.request.holds with
  | true => simp [h.holds hl]
  | false => cases r.holds <;> simp

/-- Counting slots through a step of the host. -/
theorem slotInv_step {h h' : Host} {e : HostEvent} (inv : SlotInv h) (hs : h.step e = some h') :
    SlotInv h' := by
  cases e with
  | call call parm =>
    obtain rfl := Host.step_call hs
    have count := inv.count
    rcases Request.ofCall_cases h.available call parm with
      ⟨phase, hphase, heq⟩ | ⟨slot, rest, hav, heq⟩
    · rw [heq]
      have ended := hphase.not_inFlight
      refine ⟨?_, fun r req hread hin => ?_⟩
      · simp only [Heap.total_alloc, inFlightSlots, lostSlots, Request.new] at count ⊢
        simpa using count
      · rcases Heap.read_alloc_cases hread with ⟨-, rfl⟩ | hold
        · rw [ended] at hin
          cases hin
        · exact inv.taken r req hold hin
    · rw [heq]
      refine ⟨?_, fun r req hread hin => ?_⟩
      · simp only [Heap.total_alloc, hav, List.length_cons, inFlightSlots, lostSlots,
          Phase.inFlight, Bool.and_self, ↓reduceIte, Bool.not_true, Bool.and_false,
          Bool.false_eq_true] at count ⊢
        omega
      · rcases Heap.read_alloc_cases hread with ⟨-, rfl⟩ | hold
        · rfl
        · exact inv.taken r req hold hin
  | request r e =>
    obtain ⟨req, l, hread, hstep, rfl⟩ := Host.step_request hs
    have count := inv.count
    have moved := hstep.count h.available
    have inFlight := Heap.total_update inFlightSlots hread fun _ => l.request
    have lost := Heap.total_update lostSlots hread fun _ => l.request
    have before := slots_of_request req
    have after := slots_of_request l.request
    refine ⟨?_, fun q x hx hin => ?_⟩
    · dsimp only
      omega
    · rcases Heap.read_update_cases hx with ⟨rfl, y, -, rfl⟩ | ⟨-, hold⟩
      · exact (hstep.slots (inv.taken q req hread)).1 hin
      · exact inv.taken q x hold hin
  | notify =>
    obtain rfl := Host.step_notify hs
    exact ⟨inv.count, inv.taken⟩
  | terminate =>
    obtain rfl := Host.step_terminate hs
    exact ⟨inv.count, inv.taken⟩

/-- A host as `makeContext` leaves it has every slot in the queue. -/
theorem makeContext_slots {env : ContextEnv} (hm : makeContext env = some h) :
    SlotInv h ∧ h.requests = .empty := by
  simp only [makeContext, Option.ite_none_right_eq_some, Option.some.injEq] at hm
  obtain ⟨-, rfl⟩ := hm
  exact ⟨⟨rfl, fun r req hread => by simp at hread⟩, rfl⟩

/-! ## Conservation -/

/-- The slots are conserved exactly where none is lost. -/
theorem conserved_iff_lost (inv : SlotInv h) : h.Conserved ↔ h.requests.total lostSlots = 0 := by
  have count := inv.count
  constructor
  · intro hc
    have := hc.count
    omega
  · intro hlost
    refine ⟨by omega, fun r req hread hover => ?_⟩
    have := Heap.total_eq_zero hlost hread
    by_contra hholds
    rw [lostSlots_of_over hover (Bool.eq_true_of_not_eq_false hholds)] at this
    cases this

/-- A step under the condition loses no slot. -/
theorem conserved_step {h h' : Host} {e : HostEvent} (inv : SlotInv h) (hc : h.Conserved)
    (cond : KeepsSlots h e) (hs : h.step e = some h') : h'.Conserved := by
  have inv' := slotInv_step inv hs
  rw [conserved_iff_lost inv] at hc
  rw [conserved_iff_lost inv']
  cases e with
  | call call parm =>
    obtain rfl := Host.step_call hs
    rw [Heap.total_alloc, hc, Nat.zero_add]
    rcases Request.ofCall_cases h.available call parm with ⟨phase, -, heq⟩ | ⟨slot, rest, -, heq⟩
    · rw [heq]
      exact lostSlots_of_givenBack rfl
    · rw [heq]
      exact lostSlots_of_inFlight rfl
  | request r e =>
    obtain ⟨req, l, hread, hstep, rfl⟩ := Host.step_request hs
    have lost := Heap.total_update lostSlots hread fun _ => l.request
    have none := Heap.total_eq_zero hc hread
    have := (hstep.slots (inv.taken r req hread)).2.1 (cond req hread) none
    dsimp only
    omega
  | notify =>
    obtain rfl := Host.step_notify hs
    exact hc
  | terminate =>
    obtain rfl := Host.step_terminate hs
    exact hc

/-- A step against the condition loses a slot. -/
theorem not_conserved_step {h h' : Host} {e : HostEvent} (inv : SlotInv h)
    (cond : ¬ KeepsSlots h e) (hs : h.step e = some h') : ¬ h'.Conserved := by
  rw [conserved_iff_lost (slotInv_step inv hs)]
  cases e with
  | call => exact absurd trivial cond
  | request r e =>
    obtain ⟨req, l, hread, hstep, rfl⟩ := Host.step_request hs
    have broken : ¬ KeepsSlot (h.slots req.slot) e := fun hk => cond fun x hx => by
      rw [hread, Option.some.injEq] at hx
      exact hx ▸ hk
    have one := (hstep.slots (inv.taken r req hread)).2.2 broken
    have read : (h.requests.update r fun _ => l.request).read r = some l.request := by
      rw [Heap.read_update_self, hread, Option.map_some]
    have := Heap.le_total lostSlots read
    dsimp only
    omega
  | notify => exact absurd trivial cond
  | terminate => exact absurd trivial cond

/-- **Conservation of slots, exactly.** Every state on the way of a run has its sixteen slots in the
queue or with requests in flight, and with no request that is over, if and only if no step of the
run takes an exit that keeps the slot. -/
theorem conserved_iff {env : ContextEnv} {h₀ h : Host} {es : List HostEvent}
    (start : makeContext env = some h₀) (hrun : auxHost.run h₀ es = some h) :
    (∀ u, auxHost.Visits h₀ es u → u.Conserved) ↔ auxHost.Meets KeepsSlots h₀ es := by
  obtain ⟨inv, hempty⟩ := makeContext_slots start
  refine auxHost.visits_iff_meets (I := SlotInv) (fun _ _ _ inv hs => slotInv_step inv hs)
    (fun _ _ _ inv hc cond hs => conserved_step inv hc cond hs)
    (fun _ _ _ inv cond hs => not_conserved_step inv cond hs) inv ?_ hrun
  rw [conserved_iff_lost inv, hempty]
  rfl

/-! ## One request served, one refused -/

/-- A context for which everything was allocated. -/
def sampleContext : ContextEnv := ⟨true, true, true, fun _ => true, true, true⟩

/-- The host of that context. -/
def sampleHost : Host where
  slots _ := ⟨.fresh, PauseElement.fresh.token⟩
  available := List.range zisauxMaxRequestCount
  requests := .empty
  uses := []

theorem makeContext_sampleContext : makeContext sampleContext = some sampleHost := rfl

/-- A program call from the parent server. -/
def sampleCall : PcCall := ⟨zisauxCallerKey, true, true, true, true, true, true, true⟩

/-- A work request with a payload and a response in shared storage. -/
def sampleParm : CommServiceParmList :=
  ⟨true, zisauxCommServiceParmVersion, zisauxCommServiceFuncWork, true, true, 0, 0⟩

/-- A request that is handled and returns. -/
def sampleRun : List HostEvent :=
  [.call sampleCall sampleParm, .request 0 (.check 0), .request 0 (.copy sampleParm true true),
    .request 0 (.enqueue true), .request 0 (.dispatch true), .request 0 (.pause 0),
    .request 0 (.start true), .request 0 (.handle ⟨true, 0, none, .returned 0⟩),
    .request 0 .release, .request 0 .resume, .request 0 .remove, .request 0 .reinsert,
    .request 0 (.finish true true true), .request 0 (.leave true)]

theorem conserved_iff_sampleRun :
    (∀ u, auxHost.Visits sampleHost sampleRun u → u.Conserved) ↔
      auxHost.Meets KeepsSlots sampleHost sampleRun := by
  obtain ⟨h, hrun⟩ := Option.isSome_iff_exists.mp
    (by decide +kernel : (auxHost.run sampleHost sampleRun).isSome = true)
  exact conserved_iff makeContext_sampleContext hrun

/-- A request whose payload is not accessible returns with its slot. -/
theorem failed_copy_loses_slot :
    ∃ h, auxHost.run sampleHost [.call sampleCall sampleParm, .request 0 (.check 0),
        .request 0 (.copy sampleParm false true)] = some h ∧ ¬ h.Conserved := by
  obtain ⟨h, hrun⟩ := Option.isSome_iff_exists.mp
    (by decide +kernel : (auxHost.run sampleHost [.call sampleCall sampleParm,
      .request 0 (.check 0), .request 0 (.copy sampleParm false true)]).isSome = true)
  refine ⟨h, hrun, fun hc => ?_⟩
  have counts : ((auxHost.run sampleHost [.call sampleCall sampleParm, .request 0 (.check 0),
      .request 0 (.copy sampleParm false true)]).map fun h =>
        (h.available.length, h.requests.total inFlightSlots)) = some (15, 0) := by decide +kernel
  rw [hrun, Option.map_some, Option.some.injEq, Prod.mk.injEq] at counts
  have := hc.count
  rw [counts.1, counts.2] at this
  exact absurd this (by decide)

end Zss.Zisaux
