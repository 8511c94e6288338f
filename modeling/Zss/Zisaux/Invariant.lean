import Zss.Zisaux.Slots

/-!
# Who may release whom

What keeps one request out of another's pause element, in every run. A slot is in the queue or with
one request (`OwnInv.apart`). A work element's token is never newer than its slot's, and it is older
once its request gave the slot back (`TokenInv`): a pause that returns changes the token first. So a
worker that comes too late releases nobody, and a step of one request changes nothing for a request
that still holds its slot (`OwnInv.others`).

`RequestInvariant` is the rule all later invariants of the host use: a property of a request and its
slot that its own steps preserve, that a request without its slot keeps whatever happens to it, and
that the releases of others and the system preserve.
-/

namespace Zss.Zisaux

open Zss.Lib

/-! ## Tokens -/

/-- The requester has made no work element. -/
def Phase.unissued : Phase → Bool
  | .refused | .taken | .checked | .copied => true
  | _ => false

/-- What holds of a request's tokens. -/
structure TokenInv (r : Request) (s : Slot) : Prop where
  holds : r.phase.inFlight = true → r.holds = true
  updated : ∀ code pet, r.phase = .resumed code pet →
    pet ≤ s.element.token ∧ r.completionPET < s.element.token
  parked : r.phase = .queued ∨ r.phase = .waiting → r.work ≠ .none
  unissued : r.phase.unissued = true → r.work = .none
  issued : r.work ≠ .none → r.completionPET ≤ s.element.token
  givenBack : r.work ≠ .none → r.holds = false → r.completionPET < s.element.token

/-- Who has which slot, and with which tokens. -/
structure OwnInv (h : Host) : Prop where
  nodup : h.available.Nodup
  free : ∀ r req, h.requests.read r = some req → req.holds = true → req.slot ∉ h.available
  apart : ∀ r q req x, h.requests.read r = some req → h.requests.read q = some x → r ≠ q →
    req.holds = true → x.holds = true → req.slot ≠ x.slot
  stored : ∀ s, (h.slots s).pet ≤ (h.slots s).element.token
  tokens : ∀ r req, h.requests.read r = some req → TokenInv req (h.slots req.slot)

variable {r : Request} {s : Slot} {e : RequestEvent} {l : Local} {h : Host}

/-- A requester's step keeps its tokens in order. -/
theorem RequesterStepped.tokens (h : RequesterStepped r s e l) (stored : s.pet ≤ s.element.token)
    (inv : TokenInv r s) :
    TokenInv l.request l.slot ∧ l.slot.pet ≤ l.slot.element.token ∧
      s.element.token ≤ l.slot.element.token := by
  have holds : ∀ {p : Phase}, r.phase = p → p.inFlight = true → r.holds = true :=
    fun hp hf => inv.holds (by rw [hp, hf])
  have none : ∀ {p : Phase}, r.phase = p → p.unissued = true → r.work = .none :=
    fun hp hu => inv.unissued (by rw [hp, hu])
  cases h with
  | checked hphase | copied hphase =>
    exact ⟨⟨fun _ => holds hphase rfl, nofun, nofun, fun _ => none hphase rfl, inv.issued,
      inv.givenBack⟩, stored, le_rfl⟩
  | badPet hphase | notFetched hphase | notCopied hphase | noElement hphase =>
    exact ⟨⟨nofun, nofun, nofun, nofun, inv.issued, inv.givenBack⟩, stored, le_rfl⟩
  | enqueued hphase =>
    refine ⟨⟨fun _ => holds hphase rfl, nofun, fun _ => nofun, nofun, fun _ => stored,
      fun _ hback => ?_⟩, stored, le_rfl⟩
    exact absurd ((holds hphase rfl).symm.trans hback) (by decide)
  | paused hphase =>
    have token : s.element.pause.token = s.element.token := by
      rcases s.element.pause_cases with ⟨-, heq⟩ | ⟨-, heq⟩ <;> rw [heq]
    have work := inv.parked (.inl hphase)
    refine ⟨⟨fun _ => holds hphase rfl, nofun, fun _ => work, nofun, fun hw => ?_,
      fun hw hback => ?_⟩, ?_, ?_⟩
    · exact token ▸ inv.issued hw
    · exact token ▸ inv.givenBack hw hback
    · exact token ▸ stored
    · exact token ▸ le_rfl
  | pauseFailed | left =>
    exact ⟨⟨nofun, nofun, nofun, nofun, inv.issued, inv.givenBack⟩, stored, le_rfl⟩
  | @resumed element code hphase htake =>
    obtain ⟨-, rfl⟩ := PauseElement.take_some htake
    have older := inv.issued (inv.parked (.inr hphase))
    refine ⟨⟨fun _ => holds hphase rfl, ?_, nofun, nofun, ?_, ?_⟩, ?_, ?_⟩
    · rintro code' pet heq
      cases heq
      exact ⟨le_rfl, Nat.lt_succ_of_le older⟩
    · exact fun _ => Nat.le_succ_of_le older
    · exact fun _ _ => Nat.lt_succ_of_le older
    · exact Nat.le_succ_of_le stored
    · exact Nat.le_succ _
  | @reinserted code pet hphase =>
    obtain ⟨hpet, older⟩ := inv.updated code pet hphase
    exact ⟨⟨nofun, nofun, nofun, nofun, inv.issued, fun _ _ => older⟩, hpet, le_rfl⟩
  | finished | notUpdated =>
    exact ⟨⟨nofun, nofun, nofun, nofun, inv.issued, inv.givenBack⟩, stored, le_rfl⟩
  | leftAbnormally =>
    exact ⟨⟨nofun, nofun, nofun, nofun, inv.issued, inv.givenBack⟩, stored, le_rfl⟩

/-- A step keeps its request's tokens in order, and no token goes back. -/
theorem Stepped.tokens (h : Stepped r s e l) (stored : s.pet ≤ s.element.token)
    (inv : TokenInv r s) :
    TokenInv l.request l.slot ∧ l.slot.pet ≤ l.slot.element.token ∧
      s.element.token ≤ l.slot.element.token := by
  cases h with
  | requester h => exact h.tokens stored inv
  | worker h =>
    have move := h.move
    have token := move.token
    refine ⟨⟨?_, ?_, ?_, ?_, ?_, ?_⟩, ?_, token ▸ le_rfl⟩
    · rw [move.phase, move.holds]
      exact inv.holds
    · rw [move.phase, move.completionPET, token]
      exact inv.updated
    · exact fun _ => move.issued.2
    · rw [move.phase]
      exact fun hu => absurd (inv.unissued hu) move.issued.1
    · rw [move.completionPET, token]
      exact fun _ => inv.issued move.issued.1
    · rw [move.completionPET, move.holds, token]
      exact fun _ => inv.givenBack move.issued.1
    · rw [move.pet, token]
      exact stored

/-- A request without its slot leaves the slot alone. -/
theorem Stepped.slot_of_givenBack (h : Stepped r s e l) (inv : TokenInv r s)
    (hback : r.holds = false) : l.slot = s := by
  have held : ∀ {p : Phase}, r.phase = p → p.inFlight = true → l.slot = s := fun hp hf =>
    absurd ((inv.holds (by rw [hp, hf])).symm.trans hback) (by decide)
  cases h with
  | requester h =>
    cases h with
    | paused hphase => exact held hphase rfl
    | resumed hphase => exact held hphase rfl
    | reinserted hphase => exact held hphase rfl
    | _ => rfl
  | worker h =>
    have move := h.move
    rcases move.element with hsame | ⟨htoken, -, -⟩
    · have hpet := move.pet
      cases hl : l.slot with
      | mk element pet =>
        rw [hl] at hsame hpet
        cases s
        simp only at hsame hpet
        rw [hsame, hpet]
    · have := inv.givenBack move.issued.1 hback
      omega

/-- A request without its slot keeps its tokens in order whatever becomes of the slot. -/
theorem TokenInv.of_givenBack {s s' : Slot} (inv : TokenInv r s) (hback : r.holds = false)
    (hle : s.element.token ≤ s'.element.token) : TokenInv r s' where
  holds := inv.holds
  updated code pet hphase :=
    absurd ((inv.holds (by rw [hphase]; rfl)).symm.trans hback) (by decide)
  parked := inv.parked
  unissued := inv.unissued
  issued hw := (inv.issued hw).trans hle
  givenBack hw hb := (inv.givenBack hw hb).trans_le hle

/-- A release keeps everybody's tokens in order. -/
theorem TokenInv.of_token {s s' : Slot} (inv : TokenInv r s)
    (heq : s'.element.token = s.element.token) : TokenInv r s' := by
  obtain ⟨holds, updated, parked, unissued, issued, givenBack⟩ := inv
  exact ⟨holds, heq ▸ updated, parked, unissued, heq ▸ issued, heq ▸ givenBack⟩

/-- What a step of one request means for the slot of another: nothing, or the other has given its
slot back and the slot's token does not go back. -/
theorem OwnInv.others (inv : OwnInv h) {r q : Addr} {req x : Request}
    (hread : h.requests.read r = some req) (hx : h.requests.read q = some x) (hne : r ≠ q)
    (hstep : Stepped req (h.slots req.slot) e l) :
    Function.update h.slots req.slot l.slot x.slot = h.slots x.slot ∨
      (x.holds = false ∧ (h.slots x.slot).element.token ≤
        (Function.update h.slots req.slot l.slot x.slot).element.token) := by
  by_cases hslot : x.slot = req.slot
  · rw [hslot, Function.update_self]
    cases hreq : req.holds with
    | false => exact .inl (hstep.slot_of_givenBack (inv.tokens r req hread) hreq)
    | true =>
      refine .inr ⟨?_, (hstep.tokens (inv.stored _) (inv.tokens r req hread)).2.2⟩
      by_contra hx'
      exact inv.apart r q req x hread hx hne hreq (Bool.eq_true_of_not_eq_false hx') hslot.symm
  · exact .inl (Function.update_of_ne hslot _ _)

@[simp] theorem Slot.notify_token (s : Slot) (code : Nat) :
    (s.notify code).element.token = s.element.token := by
  simp [Slot.notify]

@[simp] theorem Slot.notify_pet (s : Slot) (code : Nat) : (s.notify code).pet = s.pet := rfl

@[simp] theorem Slot.terminate_token (s : Slot) :
    s.terminate.element.token = s.element.token := by
  rcases s.terminate_cases with h | ⟨-, h⟩ <;> rw [h]

@[simp] theorem Slot.terminate_pet (s : Slot) : s.terminate.pet = s.pet := by
  rcases s.terminate_cases with h | ⟨-, h⟩ <;> rw [h]

/-- A change of one slot that spares its tokens keeps every request's tokens in order. -/
theorem OwnInv.of_slot (inv : OwnInv h) {slot : Nat} (hpet : s.pet = (h.slots slot).pet)
    (htoken : s.element.token = (h.slots slot).element.token) :
    OwnInv { h with slots := Function.update h.slots slot s } where
  nodup := inv.nodup
  free := inv.free
  apart := inv.apart
  stored q := by
    dsimp only
    by_cases hq : q = slot
    · subst hq
      rw [Function.update_self, hpet, htoken]
      exact inv.stored q
    · rw [Function.update_of_ne hq]
      exact inv.stored q
  tokens r req hread := by
    refine (inv.tokens r req hread).of_token ?_
    dsimp only
    by_cases hq : req.slot = slot
    · subst hq
      rw [Function.update_self, htoken]
    · rw [Function.update_of_ne hq]

/-- A request without a work element has no token to keep in order. -/
theorem TokenInv.of_new (s : Slot) (hwork : r.work = .none)
    (hphase : (r.phase = .taken ∧ r.holds = true) ∨ r.phase.WithoutSlot) : TokenInv r s where
  holds h := by
    rcases hphase with ⟨-, hholds⟩ | hphase
    · exact hholds
    · cases hphase.not_inFlight.symm.trans h
  updated code pet h := by
    rcases hphase with ⟨hphase, -⟩ | hphase
    · cases hphase.symm.trans h
    · rw [h] at hphase
      cases hphase.not_inFlight
  parked h := by
    rcases hphase with ⟨hphase, -⟩ | hphase
    · rcases h with h | h <;> cases hphase.symm.trans h
    · rcases h with h | h <;> rw [h] at hphase <;> cases hphase.not_inFlight
  unissued _ := hwork
  issued h := absurd hwork h
  givenBack h := absurd hwork h

/-- **The step lemma.** Slots stay apart and tokens in order. -/
theorem ownInv_step {h h' : Host} {e : HostEvent} (inv : OwnInv h) (hs : h.step e = some h') :
    OwnInv h' := by
  cases e with
  | call call parm =>
    obtain rfl := Host.step_call hs
    rcases Request.ofCall_cases h.available call parm with
      ⟨phase, hphase, heq⟩ | ⟨slot, rest, hav, heq⟩
    · rw [heq]
      refine ⟨inv.nodup, fun r req hread hholds => ?_, fun r q req x hread hx hne hr hq => ?_,
        inv.stored, fun r req hread => ?_⟩
      · rcases Heap.read_alloc_cases hread with ⟨-, rfl⟩ | hold
        · cases hholds
        · exact inv.free r req hold hholds
      · rcases Heap.read_alloc_cases hread with ⟨-, rfl⟩ | hold
        · cases hr
        · rcases Heap.read_alloc_cases hx with ⟨-, rfl⟩ | hold'
          · cases hq
          · exact inv.apart r q req x hold hold' hne hr hq
      · rcases Heap.read_alloc_cases hread with ⟨-, rfl⟩ | hold
        · exact .of_new _ rfl (.inr hphase)
        · exact inv.tokens r req hold
    · rw [heq]
      have nodup := inv.nodup
      rw [hav, List.nodup_cons] at nodup
      have notMine : ∀ r req, h.requests.read r = some req → req.holds = true →
          req.slot ≠ slot := fun r req hread hholds hslot => by
        have := inv.free r req hread hholds
        rw [hav, hslot] at this
        exact this List.mem_cons_self
      refine ⟨nodup.2, fun r req hread hholds => ?_, fun r q req x hread hx hne hr hq => ?_,
        inv.stored, fun r req hread => ?_⟩
      · rcases Heap.read_alloc_cases hread with ⟨-, rfl⟩ | hold
        · exact nodup.1
        · have := inv.free r req hold hholds
          rw [hav] at this
          exact fun hin => this (List.mem_cons_of_mem _ hin)
      · rcases Heap.read_alloc_cases hread with ⟨rfl, rfl⟩ | hold
        · rcases Heap.read_alloc_cases hx with ⟨rfl, -⟩ | hold'
          · exact absurd rfl hne
          · exact (notMine q x hold' hq).symm
        · rcases Heap.read_alloc_cases hx with ⟨-, rfl⟩ | hold'
          · exact notMine r req hold hr
          · exact inv.apart r q req x hold hold' hne hr hq
      · rcases Heap.read_alloc_cases hread with ⟨-, rfl⟩ | hold
        · exact .of_new _ rfl (.inl ⟨rfl, rfl⟩)
        · exact inv.tokens r req hold
  | request r e =>
    obtain ⟨req, l, hread, hstep, rfl⟩ := Host.step_request hs
    have mine := hstep.tokens (inv.stored _) (inv.tokens r req hread)
    have slot := hstep.slot
    refine ⟨?_, fun q x hx hholds => ?_, fun q q' x x' hx hx' hne hq hq' => ?_, fun s => ?_,
      fun q x hx => ?_⟩
    · dsimp only
      split
      · next hback =>
        simp only [Bool.and_eq_true, Bool.not_eq_eq_eq_not, Bool.not_true] at hback
        refine List.nodup_append.mpr ⟨inv.nodup, by simp, fun a ha b hb => ?_⟩
        rw [List.mem_singleton] at hb
        exact fun hab => inv.free r req hread hback.1 (hb ▸ hab ▸ ha)
      · exact inv.nodup
    · -- a holder other than the request that moved is not where the request gave its slot back
      rcases Heap.read_update_cases hx with ⟨rfl, y, -, rfl⟩ | ⟨hqr, hold⟩
      · have hreq := hstep.holds hholds
        simp only [hreq, hholds, Bool.not_true, Bool.and_false, Bool.false_eq_true, ↓reduceIte]
        exact slot ▸ inv.free q req hread hreq
      · dsimp only
        split
        · next hback =>
          simp only [Bool.and_eq_true] at hback
          rw [List.mem_append, List.mem_singleton]
          rintro (hin | heq)
          · exact inv.free q x hold hholds hin
          · exact inv.apart q r x req hold hread hqr hholds hback.1 heq
        · exact inv.free q x hold hholds
    · rcases Heap.read_update_cases hx with ⟨rfl, y, -, rfl⟩ | ⟨hqr, hold⟩
      · rcases Heap.read_update_cases hx' with ⟨rfl, -⟩ | ⟨hqr', hold'⟩
        · exact absurd rfl hne
        · rw [slot]
          exact inv.apart q q' req x' hread hold' hne (hstep.holds hq) hq'
      · rcases Heap.read_update_cases hx' with ⟨rfl, y, -, rfl⟩ | ⟨hqr', hold'⟩
        · rw [slot]
          exact inv.apart q q' x req hold hread hne hq (hstep.holds hq')
        · exact inv.apart q q' x x' hold hold' hne hq hq'
    · by_cases hsl : s = req.slot
      · subst hsl
        dsimp only
        rw [Function.update_self]
        exact mine.2.1
      · dsimp only
        rw [Function.update_of_ne hsl]
        exact inv.stored s
    · rcases Heap.read_update_cases hx with ⟨rfl, y, -, rfl⟩ | ⟨hqr, hold⟩
      · dsimp only
        rw [slot, Function.update_self]
        exact mine.1
      · rcases inv.others hread hold (Ne.symm hqr) hstep with hsame | ⟨hback, hle⟩
        · dsimp only
          rw [hsame]
          exact inv.tokens q x hold
        · exact (inv.tokens q x hold).of_givenBack hback hle
  | notify notifier slot =>
    obtain rfl := Host.step_notify hs
    exact inv.of_slot (Slot.notify_pet _ _) (Slot.notify_token _ _)
  | terminate slot =>
    obtain rfl := Host.step_terminate hs
    exact inv.of_slot (Slot.terminate_pet _) (Slot.terminate_token _)

/-- A host as `makeContext` leaves it has its slots apart. -/
theorem makeContext_own {env : ContextEnv} (hm : makeContext env = some h) : OwnInv h := by
  simp only [makeContext, Option.ite_none_right_eq_some, Option.some.injEq] at hm
  obtain ⟨-, rfl⟩ := hm
  exact ⟨List.nodup_range, fun r req hread => by simp at hread,
    fun r q req x hread => by simp at hread, fun _ => le_rfl, fun r req hread => by simp at hread⟩

/-! ## The rule for invariants of requests -/

/-- The codes of those who release a pause element without being its work element's worker. -/
def foreignCodes : List Nat := [zisauxPeRcTerm, zisauxPeRcCancel, zisauxPeRcHostAbend]

/-- A release by the cancel path, the host's abend exit or the system that had an effect. -/
structure ForeignRelease (s s' : Slot) : Prop where
  before : ∀ c, s.element.state ≠ .released c
  after : ∃ c ∈ foreignCodes, s' = { s with element := ⟨s.element.token, .released c⟩ }

theorem Slot.notify_foreign (s : Slot) (notifier : Notifier) :
    s.notify notifier.releaseCode = s ∨ ForeignRelease s (s.notify notifier.releaseCode) := by
  rcases s.notify_cases notifier.releaseCode with h | ⟨-, hstate, h⟩
  · exact .inl h
  · refine .inr ⟨hstate, _, ?_, h⟩
    cases notifier <;> decide

theorem Slot.terminate_foreign (s : Slot) : s.terminate = s ∨ ForeignRelease s s.terminate := by
  rcases s.terminate_cases with h | ⟨hstate, h⟩
  · exact .inl h
  · exact .inr ⟨fun c => hstate ▸ nofun, _, by decide, h⟩

/-- A property of every request with its slot, and one of every slot in the queue. -/
structure Host.All (P : Request → Slot → Prop) (Q : Slot → Prop) (h : Host) : Prop where
  requests : ∀ r req, h.requests.read r = some req → P req (h.slots req.slot)
  slots : ∀ s ∈ h.available, Q (h.slots s)

/-- A condition on the steps of requests, with one on the slots others release. -/
def Host.Allows (C : Request → Slot → RequestEvent → Prop) (D : Slot → Prop) (h : Host) :
    HostEvent → Prop
  | .call _ _ => True
  | .request r e => ∀ req, h.requests.read r = some req → C req (h.slots req.slot) e
  | .notify _ s => D (h.slots s)
  | .terminate s => D (h.slots s)

/-- What an invariant of requests and their slots owes. -/
structure RequestInvariant (C : Request → Slot → RequestEvent → Prop) (D : Slot → Prop)
    (P : Request → Slot → Prop) (Q : Slot → Prop) : Prop where
  step : ∀ {r s e l}, C r s e → s.pet ≤ s.element.token → TokenInv r s → Stepped r s e l →
    P r s → P l.request l.slot
  givesBack : ∀ {r s code pet}, r.phase = .resumed code pet → TokenInv r s → P r s →
    Q { s with pet := pet }
  givenBack : ∀ {r s s'}, r.holds = false → TokenInv r s →
    s.element.token ≤ s'.element.token → P r s → P r s'
  release : ∀ {r s s'}, D s → ForeignRelease s s' → TokenInv r s → P r s → P r s'
  releaseFree : ∀ {s s'}, D s → ForeignRelease s s' → Q s → Q s'
  refused : ∀ {call parm s} {phase : Phase}, phase.WithoutSlot →
    P { Request.new call parm with phase := phase } s
  takes : ∀ {call parm slot s}, PcCall.Entered call → Q s →
    P { Request.new call parm with slot := slot, holds := true, phase := .taken } s

/-- A release by others of one slot, or of none. -/
theorem RequestInvariant.ofSlot {C : Request → Slot → RequestEvent → Prop} {D : Slot → Prop}
    {P : Request → Slot → Prop} {Q : Slot → Prop} (rule : RequestInvariant C D P Q)
    (own : OwnInv h) (all : h.All P Q) {slot : Nat} (cond : D (h.slots slot))
    (hs : s = h.slots slot ∨ ForeignRelease (h.slots slot) s) :
    Host.All P Q { h with slots := Function.update h.slots slot s } where
  requests r req hread := by
    dsimp only
    by_cases hq : req.slot = slot
    · subst hq
      rw [Function.update_self]
      rcases hs with rfl | foreign
      · exact all.requests r req hread
      · exact rule.release cond foreign (own.tokens r req hread) (all.requests r req hread)
    · rw [Function.update_of_ne hq]
      exact all.requests r req hread
  slots q hin := by
    dsimp only
    by_cases hq : q = slot
    · subst hq
      rw [Function.update_self]
      rcases hs with rfl | foreign
      · exact all.slots q hin
      · exact rule.releaseFree cond foreign (all.slots q hin)
    · rw [Function.update_of_ne hq]
      exact all.slots q hin

/-- **The rule.** Allowed steps keep the property of every request and of every free slot. -/
theorem RequestInvariant.host {C : Request → Slot → RequestEvent → Prop} {D : Slot → Prop}
    {P : Request → Slot → Prop} {Q : Slot → Prop} (rule : RequestInvariant C D P Q) {h h' : Host}
    {e : HostEvent} (own : OwnInv h) (all : h.All P Q) (cond : h.Allows C D e)
    (hs : h.step e = some h') : h'.All P Q := by
  cases e with
  | call call parm =>
    obtain rfl := Host.step_call hs
    rcases Request.ofCall_cases h.available call parm with
      ⟨phase, hphase, heq⟩ | ⟨slot, rest, hav, heq⟩
    · rw [heq]
      refine ⟨fun r req hread => ?_, all.slots⟩
      rcases Heap.read_alloc_cases hread with ⟨-, rfl⟩ | hold
      · exact rule.refused hphase
      · exact all.requests r req hold
    · rw [heq]
      refine ⟨fun r req hread => ?_, fun s hin => all.slots s (hav ▸ List.mem_cons_of_mem _ hin)⟩
      rcases Heap.read_alloc_cases hread with ⟨-, rfl⟩ | hold
      · have taken : (Request.ofCall h.available call parm).1.holds = true := by rw [heq]
        exact rule.takes (Request.ofCall_entered taken)
          (all.slots slot (hav ▸ List.mem_cons_self))
      · exact all.requests r req hold
  | request r e =>
    obtain ⟨req, l, hread, hstep, rfl⟩ := Host.step_request hs
    have tokens := own.tokens r req hread
    have mine := rule.step (cond req hread) (own.stored _) tokens hstep (all.requests r req hread)
    refine ⟨fun q x hx => ?_, fun s hin => ?_⟩
    · rcases Heap.read_update_cases hx with ⟨rfl, y, -, rfl⟩ | ⟨hqr, hold⟩
      · dsimp only
        rw [hstep.slot, Function.update_self]
        exact mine
      · dsimp only
        rcases own.others hread hold (Ne.symm hqr) hstep with hsame | ⟨hback, hle⟩
        · rw [hsame]
          exact all.requests q x hold
        · exact rule.givenBack hback (own.tokens q x hold) hle (all.requests q x hold)
    · dsimp only at hin ⊢
      by_cases hback : req.holds && !l.request.holds
      · rw [if_pos hback, List.mem_append, List.mem_singleton] at hin
        simp only [Bool.and_eq_true, Bool.not_eq_eq_eq_not, Bool.not_true] at hback
        obtain ⟨code, pet, hphase, hslot⟩ := hstep.gaveBack hback.1 hback.2
        have free := own.free r req hread hback.1
        by_cases hsl : s = req.slot
        · subst hsl
          rw [Function.update_self, hslot]
          exact rule.givesBack hphase tokens (all.requests r req hread)
        · rw [Function.update_of_ne hsl]
          exact all.slots s (hin.resolve_right hsl)
      · rw [if_neg hback] at hin
        by_cases hsl : s = req.slot
        · -- the slot is free, so the request that moved did not hold it
          subst hsl
          have hreq : req.holds = false := by
            by_contra hholds
            exact own.free r req hread (Bool.eq_true_of_not_eq_false hholds) hin
          rw [Function.update_self, hstep.slot_of_givenBack tokens hreq]
          exact all.slots _ hin
        · rw [Function.update_of_ne hsl]
          exact all.slots s hin
  | notify notifier slot =>
    obtain rfl := Host.step_notify hs
    exact rule.ofSlot own all cond (Slot.notify_foreign _ notifier)
  | terminate slot =>
    obtain rfl := Host.step_terminate hs
    exact rule.ofSlot own all cond (Slot.terminate_foreign _)

/-- A host as `makeContext` leaves it has nothing to prove but of a fresh element. -/
theorem makeContext_all {P : Request → Slot → Prop} {Q : Slot → Prop} {env : ContextEnv}
    (hm : makeContext env = some h) (fresh : Q ⟨.fresh, PauseElement.fresh.token⟩) :
    h.All P Q ∧ h.requests = .empty ∧ h.uses = [] := by
  simp only [makeContext, Option.ite_none_right_eq_some, Option.some.injEq] at hm
  obtain ⟨-, rfl⟩ := hm
  exact ⟨⟨fun r req hread => by simp at hread, fun _ _ => fresh⟩, rfl, rfl⟩

end Zss.Zisaux
