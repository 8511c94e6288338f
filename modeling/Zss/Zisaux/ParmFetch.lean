import Zss.Zisaux.Host

/-!
# The two fetches of a parameter list

`handleUnsafePCSS` of `aux-host.c` copies the service parameter list from the caller's storage and
checks the copy. `scheduleCommRequestProcessing` copies it again, gets access to the shared storage
that this second copy has the addresses of, and queues it for a worker. The caller may have changed
the list in between, and between the two accesses, and between them and their removal, the request may
end.

A call is taken here with all that the caller, the system and the worker do; a fetch that abends finds
nothing. `validated_at_use_iff` says for which of them the list is as it was checked, and what was
obtained is removed.

## What is not established

The guest and its worker leave the two addresses of the copy as they are (`Worker`). What they find
in the storage behind them is the caller's at any time.
-/

namespace Zss.Zisaux.ParmFetch

open Zss.Lib

/-- `ZISAUXCommServiceParmList`, with the addresses of the areas in shared storage, 0 for none. -/
structure FetchedParmList where
  eyecatcherValid : Bool
  version : Nat
  function : Nat
  payloadData : Nat
  responseData : Nat
  auxRC : Int
  auxRSN : Int
deriving DecidableEq

namespace FetchedParmList

/-- The list with no more of the addresses than whether there are any. -/
def list (copy : FetchedParmList) : CommServiceParmList :=
  ⟨copy.eyecatcherValid, copy.version, copy.function, copy.payloadData != 0,
    copy.responseData != 0, copy.auxRC, copy.auxRSN⟩

def zero : FetchedParmList := ⟨false, 0, 0, 0, 0, 0, 0⟩

/-- The checks of `handleUnsafePCSS` on a list. -/
def Checked (copy : FetchedParmList) : Prop :=
  isCommServiceParmListValid copy.list = true ∧ copy.version ≤ zisauxCommServiceParmVersion

end FetchedParmList

/-- Whether `shrmem64RemoveAccess` succeeds for payload and response. -/
structure Removal where
  payload : Bool
  response : Bool

/-- What the worker and the guest make of the copy. They leave the addresses as they are. Where the
worker cannot release the requester, it cleans the copy. -/
structure Worker where
  handle : FetchedParmList → FetchedParmList
  payload_handle : ∀ copy, (handle copy).payloadData = copy.payloadData
  response_handle : ∀ copy, (handle copy).responseData = copy.responseData
  cleans : Option Removal

/-- What a call meets. -/
structure Meets where
  call : PcCall
  first : Option FetchedParmList
  second : Option FetchedParmList
  available : Bool
  testRC : Int
  element : PauseElement
  payloadAccess : Bool
  responseAccess : Bool
  storage : Bool
  worker : Worker
  pauseRC : Int
  releaseCode : Nat
  update : Bool
  removal : Removal

inductive Event where
  | queued (copy : FetchedParmList)
  | obtained (address : Nat)
  | removed (address : Nat)
deriving DecidableEq

/-- What was done, and the return code unless it ended in an abend. -/
structure Outcome where
  events : List Event
  returnCode : Option Int

/-! ## The code -/

/-- The accesses of `copyServiceParmList`. -/
def obtainAccesses (payloadAccess responseAccess : Bool) (copy : FetchedParmList) : List Event :=
  if copy.payloadData ≠ 0 ∧ payloadAccess = false then []
  else
    (if copy.payloadData ≠ 0 then [.obtained copy.payloadData] else []) ++
    (if copy.responseData ≠ 0 ∧ responseAccess = true then [.obtained copy.responseData] else [])

/-- The accesses of `cleanServiceParmListCopy`. -/
def removeAccesses (removal : Removal) (copy : FetchedParmList) : List Event :=
  (if copy.payloadData ≠ 0 ∧ removal.payload = true then [.removed copy.payloadData] else []) ++
  (if copy.responseData ≠ 0 ∧ removal.response = true then [.removed copy.responseData] else [])

/-- The end of `scheduleCommRequestProcessing`: the caller's list is updated and the copy cleaned. -/
def finish (m : Meets) (copy : FetchedParmList) (status : Int) : Outcome :=
  if !m.update then ⟨[], none⟩
  else
    let cleanRC := cleanServiceParmListCopy m.removal.payload m.removal.response copy.list
    ⟨removeAccesses m.removal copy, some (statusAfterClean status cleanRC)⟩

/-- What `scheduleCommRequestProcessing` does with its copy. -/
def process (m : Meets) (copy : FetchedParmList) : Outcome :=
  if !m.storage then finish m copy rcZisauxAllocFailed
  else
    let handled := m.worker.handle copy
    let cleaned := m.worker.cleans.elim [] (removeAccesses · handled)
    let handled := if m.worker.cleans.isSome then FetchedParmList.zero else handled
    -- the requester abends on its stack, which its copy is on
    if m.pauseRC ≠ 0 then ⟨.queued copy :: cleaned, none⟩
    else
      let outcome := finish m handled (statusOfRelease m.releaseCode handled.list)
      ⟨.queued copy :: cleaned ++ outcome.events, outcome.returnCode⟩

def scheduleCommRequestProcessing (m : Meets) : Outcome :=
  if !m.available then ⟨[], some rcZisauxRequestLimitReached⟩
  else if !isPetValid m.testRC m.element then ⟨[], some rcZisauxBadPet⟩
  else
    match m.second with
    | none => ⟨[], none⟩
    | some copy =>
      let obtained := obtainAccesses m.payloadAccess m.responseAccess copy
      let copyRC := (copyServiceParmList m.payloadAccess m.responseAccess copy.list).rc
      if copyRC ≠ rcZisauxOk then ⟨obtained, some copyRC⟩
      else
        let outcome := process m copy
        ⟨obtained ++ outcome.events, outcome.returnCode⟩

def handleUnsafePcss (m : Meets) : Outcome :=
  match m.first with
  | none =>
    if !isAuxPcParmListValid m.call then ⟨[], some rcZisauxPcParmInvalid⟩
    else if !m.call.contextValid then ⟨[], some rcZisauxCommAreaInvalid⟩
    else if !m.call.callerParentServer then ⟨[], some rcZisauxCallerNotRecognized⟩
    else ⟨[], none⟩
  | some localServiceParmList =>
    match Zisaux.handleUnsafePcss m.call localServiceParmList.list with
    | some rc => ⟨[], some rc⟩
    | none => scheduleCommRequestProcessing m

/-! ## What is to be -/

def obtained (events : List Event) : List Nat :=
  events.filterMap fun
    | .obtained address => some address
    | _ => none

def removed (events : List Event) : List Nat :=
  events.filterMap fun
    | .removed address => some address
    | _ => none

/-- What a worker is given was checked, and the accesses that were obtained are removed. -/
structure ValidatedAtUse (events : List Event) : Prop where
  checked : ∀ copy, .queued copy ∈ events → copy.Checked
  balanced : (removed events).Perm (obtained events)

/-- Both accesses are removed, where there are any. -/
def Removal.Clears (removal : Removal) (copy : FetchedParmList) : Prop :=
  (copy.payloadData ≠ 0 → removal.payload = true) ∧
    (copy.responseData ≠ 0 → removal.response = true)

/-- The request of a copy comes to where the accesses are removed: in the worker, if that cleans the
copy, or in the requester, if it is resumed and can update the caller's list. -/
def Ends (m : Meets) (copy : FetchedParmList) : Prop :=
  match if m.storage then m.worker.cleans else none with
  | some removal => removal.Clears copy
  | none => (m.storage = true → m.pauseRC = 0) ∧ m.update = true ∧ m.removal.Clears copy

/-- The copy can be processed: no access is left behind where the second one fails, the copy is what
was to be checked, and its accesses come to an end. -/
def Processable (m : Meets) (copy : FetchedParmList) : Prop :=
  if copy.responseData ≠ 0 ∧ m.responseAccess = false then copy.payloadData = 0
  else (m.storage = true → copy.Checked) ∧
    (copy.payloadData = 0 ∧ copy.responseData = 0 ∨ Ends m copy)

/-- The copy that is fetched the second time, where a call gets that far and access to the payload. -/
def Reaches (m : Meets) (copy : FetchedParmList) : Prop :=
  (∃ first, m.first = some first ∧ Zisaux.handleUnsafePcss m.call first.list = none) ∧
    m.available = true ∧ isPetValid m.testRC m.element = true ∧ m.second = some copy ∧
    (copy.payloadData ≠ 0 → m.payloadAccess = true)

/-! ## The accesses of a copy -/

theorem obtained_append (events events' : List Event) :
    obtained (events ++ events') = obtained events ++ obtained events' := List.filterMap_append

theorem removed_append (events events' : List Event) :
    removed (events ++ events') = removed events ++ removed events' := List.filterMap_append

theorem validatedAtUse_nil : ValidatedAtUse [] := ⟨fun _ h => absurd h List.not_mem_nil, .nil⟩

/-- The addresses of a copy. -/
def addresses (copy : FetchedParmList) : List Nat :=
  (if copy.payloadData ≠ 0 then [copy.payloadData] else []) ++
  (if copy.responseData ≠ 0 then [copy.responseData] else [])

theorem obtained_removeAccesses (removal : Removal) (copy : FetchedParmList) :
    obtained (removeAccesses removal copy) = [] := by
  unfold removeAccesses
  split <;> split <;> rfl

theorem queued_not_mem_removeAccesses (removal : Removal) (copy copy' : FetchedParmList) :
    Event.queued copy' ∉ removeAccesses removal copy := by
  unfold removeAccesses
  split <;> split <;> simp

/-- The removal leaves nothing of the addresses exactly if it succeeds where there are any. -/
theorem removed_perm_iff (removal : Removal) (copy : FetchedParmList) :
    (removed (removeAccesses removal copy)).Perm (addresses copy) ↔ removal.Clears copy := by
  obtain ⟨payload, response⟩ := removal
  unfold removeAccesses addresses Removal.Clears
  constructor
  · intro h
    have hlength := h.length_eq
    by_cases hpayload : copy.payloadData = 0 <;> by_cases hresponse : copy.responseData = 0 <;>
      cases payload <;> cases response <;> simp [removed, hpayload, hresponse] at hlength ⊢
  · rintro ⟨hpayload, hresponse⟩
    by_cases hpayload' : copy.payloadData = 0 <;> by_cases hresponse' : copy.responseData = 0 <;>
      simp_all [removed]

/-- An access to a copy that has no addresses is none. -/
theorem addresses_eq_nil_iff (copy : FetchedParmList) :
    addresses copy = [] ↔ copy.payloadData = 0 ∧ copy.responseData = 0 := by
  unfold addresses
  by_cases hpayload : copy.payloadData = 0 <;> by_cases hresponse : copy.responseData = 0 <;>
    simp [hpayload, hresponse]

theorem removeAccesses_zero (removal : Removal) : removeAccesses removal .zero = [] := rfl

theorem removeAccesses_handle (m : Meets) (removal : Removal) (copy : FetchedParmList) :
    removeAccesses removal (m.worker.handle copy) = removeAccesses removal copy := by
  rw [removeAccesses, m.worker.payload_handle, m.worker.response_handle]
  rfl

/-! ## What the code does with a copy -/

/-- The removal that the request comes to, if it comes to one. -/
def cleaning (m : Meets) : Option Removal :=
  match if m.storage then m.worker.cleans else none with
  | some removal => some removal
  | none => if (m.storage = true → m.pauseRC = 0) ∧ m.update = true then some m.removal else none

theorem ends_iff (m : Meets) (copy : FetchedParmList) :
    Ends m copy ↔ ∃ removal, cleaning m = some removal ∧ removal.Clears copy := by
  unfold Ends cleaning
  cases if m.storage then m.worker.cleans else none with
  | some removal => simp
  | none =>
    dsimp only
    split
    next h =>
      constructor
      · intro hends
        exact ⟨m.removal, rfl, hends.2.2⟩
      · rintro ⟨_, hsome, hclears⟩
        cases hsome
        exact ⟨h.1, h.2, hclears⟩
    next h =>
      refine iff_of_false (fun hends => h ⟨hends.1, hends.2.1⟩) ?_
      rintro ⟨_, hnone, -⟩
      cases hnone

theorem finish_events (m : Meets) (copy : FetchedParmList) (status : Int) :
    (finish m copy status).events =
      if m.update = true then removeAccesses m.removal copy else [] := by
  unfold finish
  cases m.update <;> rfl

/-- All that the processing of a copy does. -/
theorem process_events (m : Meets) (copy : FetchedParmList) :
    (process m copy).events =
      (if m.storage then [.queued copy] else []) ++
        (cleaning m).elim [] (removeAccesses · copy) := by
  unfold process cleaning
  cases m.storage with
  | false =>
    rw [if_pos (by rfl), finish_events]
    cases m.update <;> simp
  | true =>
    rw [if_neg (by decide)]
    cases hcleans : m.worker.cleans with
    | some removal =>
      simp only [Option.elim_some, Option.isSome_some, ↓reduceIte, removeAccesses_handle]
      split
      next => rfl
      next =>
        rw [finish_events, removeAccesses_zero, ite_self, List.append_nil]
        rfl
    | none =>
      simp only [Option.elim_none, Option.isSome_none, ↓reduceIte]
      split
      next hpause => simp [hpause]
      next hpause =>
        rw [finish_events]
        cases m.update <;> simp [not_not.mp hpause, removeAccesses_handle]

theorem obtained_process (m : Meets) (copy : FetchedParmList) :
    obtained (process m copy).events = [] := by
  rw [process_events, obtained_append]
  have hcleaning : obtained ((cleaning m).elim [] (removeAccesses · copy)) = [] := by
    cases cleaning m with
    | none => rfl
    | some removal => exact obtained_removeAccesses removal copy
  rw [hcleaning]
  cases m.storage <;> rfl

/-- A copy is queued where there is storage for the work element. -/
theorem queued_mem_process (m : Meets) (copy copy' : FetchedParmList) :
    Event.queued copy' ∈ (process m copy).events ↔ m.storage = true ∧ copy' = copy := by
  rw [process_events, List.mem_append]
  have hcleaning : Event.queued copy' ∉ (cleaning m).elim [] (removeAccesses · copy) := by
    cases cleaning m with
    | none => exact List.not_mem_nil
    | some removal => exact queued_not_mem_removeAccesses removal copy copy'
  rw [or_iff_left hcleaning]
  cases m.storage <;> simp

/-- What is removed of a copy that is processed is what it has, if that is nothing or the request comes
to its end. -/
theorem removed_process_iff (m : Meets) (copy : FetchedParmList) :
    (removed (process m copy).events).Perm (addresses copy) ↔
      copy.payloadData = 0 ∧ copy.responseData = 0 ∨ Ends m copy := by
  have hremoved : removed (process m copy).events =
      removed ((cleaning m).elim [] (removeAccesses · copy)) := by
    rw [process_events, removed_append]
    cases m.storage <;> rfl
  rw [hremoved, ends_iff, ← addresses_eq_nil_iff]
  cases cleaning m with
  | none =>
    refine List.nil_perm.trans ⟨.inl, ?_⟩
    rintro (hnone | ⟨_, hnone, -⟩)
    · exact hnone
    · cases hnone
  | some removal =>
    refine (removed_perm_iff removal copy).trans ⟨fun h => .inr ⟨removal, rfl, h⟩, ?_⟩
    rintro (hnone | ⟨_, hsome, h⟩)
    · obtain ⟨hpayload, hresponse⟩ := (addresses_eq_nil_iff copy).mp hnone
      exact ⟨fun hne => absurd hpayload hne, fun hne => absurd hresponse hne⟩
    · cases hsome
      exact h

/-! ## Every call -/

/-- The copy's return code is OK where no access fails. -/
theorem copyRC_eq_ok_iff (payloadAccess responseAccess : Bool) (copy : FetchedParmList) :
    (copyServiceParmList payloadAccess responseAccess copy.list).rc = rcZisauxOk ↔
      (copy.payloadData ≠ 0 → payloadAccess = true) ∧
        (copy.responseData ≠ 0 → responseAccess = true) := by
  unfold copyServiceParmList FetchedParmList.list
  by_cases hpayload : copy.payloadData = 0 <;> by_cases hresponse : copy.responseData = 0 <;>
    cases payloadAccess <;> cases responseAccess <;>
    simp [hpayload, hresponse, rcZisauxOk, rcZisauxShr64Error]

/-- Where no access fails all that there are are obtained. -/
theorem obtained_obtainAccesses {payloadAccess responseAccess : Bool} {copy : FetchedParmList}
    (hpayload : copy.payloadData ≠ 0 → payloadAccess = true)
    (hresponse : copy.responseData ≠ 0 → responseAccess = true) :
    obtained (obtainAccesses payloadAccess responseAccess copy) = addresses copy ∧
      removed (obtainAccesses payloadAccess responseAccess copy) = [] ∧
      ∀ copy', Event.queued copy' ∉ obtainAccesses payloadAccess responseAccess copy := by
  unfold obtainAccesses addresses
  by_cases hpayload' : copy.payloadData = 0 <;> by_cases hresponse' : copy.responseData = 0 <;>
    simp_all [obtained, removed]

/-- A second access that fails leaves the first. -/
theorem obtainAccesses_response {payloadAccess : Bool} {copy : FetchedParmList}
    (hpayload : copy.payloadData ≠ 0 → payloadAccess = true) :
    obtainAccesses payloadAccess false copy =
      if copy.payloadData ≠ 0 then [.obtained copy.payloadData] else [] := by
  unfold obtainAccesses
  by_cases hpayload' : copy.payloadData = 0 <;> simp_all

/-- The copy of a call that gets that far. -/
theorem schedule_validated_iff {m : Meets} {copy : FetchedParmList} (havailable : m.available = true)
    (hpet : isPetValid m.testRC m.element = true) (hsecond : m.second = some copy) :
    ValidatedAtUse (scheduleCommRequestProcessing m).events ↔
      ((copy.payloadData ≠ 0 → m.payloadAccess = true) → Processable m copy) := by
  unfold scheduleCommRequestProcessing Processable
  rw [havailable, hpet, hsecond]
  simp only [Bool.not_true, Bool.false_eq_true, ↓reduceIte]
  by_cases hpayload : copy.payloadData ≠ 0 → m.payloadAccess = true
  · rw [forall_prop_of_true hpayload]
    by_cases hresponse : copy.responseData ≠ 0 ∧ m.responseAccess = false
    · rw [if_pos hresponse, if_pos, hresponse.2, obtainAccesses_response hpayload]
      · split
        next hne =>
          refine iff_of_false (fun h => ?_) hne
          exact absurd h.balanced.length_eq (by simp [obtained, removed])
        next hzero => exact iff_of_true validatedAtUse_nil (not_not.mp hzero)
      · rw [Ne, copyRC_eq_ok_iff]
        rintro ⟨-, h⟩
        rw [hresponse.2] at h
        cases h hresponse.1
    · have hresponse' : copy.responseData ≠ 0 → m.responseAccess = true := by
        intro hne
        rw [← Bool.not_eq_false]
        exact fun hfalse => hresponse ⟨hne, hfalse⟩
      obtain ⟨hobtained, hremoved, hqueued⟩ := obtained_obtainAccesses hpayload hresponse'
      rw [if_neg hresponse, if_neg (not_not.mpr ((copyRC_eq_ok_iff _ _ _).mpr ⟨hpayload, hresponse'⟩)),
        ← removed_process_iff]
      constructor
      · intro h
        constructor
        · intro hstorage
          exact h.checked copy (List.mem_append_right _
            ((queued_mem_process m copy copy).mpr ⟨hstorage, rfl⟩))
        · have hbalanced := h.balanced
          rwa [removed_append, obtained_append, hremoved, hobtained, obtained_process,
            List.nil_append, List.append_nil] at hbalanced
      · rintro ⟨hchecked, hbalanced⟩
        constructor
        · intro copy' hmem
          obtain hmem | hmem := List.mem_append.mp hmem
          · exact absurd hmem (hqueued copy')
          · obtain ⟨hstorage, rfl⟩ := (queued_mem_process m copy copy').mp hmem
            exact hchecked hstorage
        · rwa [removed_append, obtained_append, hremoved, hobtained, obtained_process,
            List.nil_append, List.append_nil]
  · rw [forall_prop_of_false hpayload, iff_true]
    rw [Classical.not_imp] at hpayload
    have hnone : obtainAccesses m.payloadAccess m.responseAccess copy = [] :=
      if_pos ⟨hpayload.1, Bool.not_eq_true _ ▸ hpayload.2⟩
    rw [if_pos, hnone]
    · exact validatedAtUse_nil
    · rw [Ne, copyRC_eq_ok_iff]
      exact fun h => hpayload.2 (h.1 hpayload.1)

/-- A worker is given a list that passes the checks, and the accesses obtained for it are removed,
exactly where the list that the second fetch finds can be processed: it still passes the checks, the
access to the response does not fail behind that to the payload, and no abend comes between the
accesses and a removal that succeeds. -/
theorem validated_at_use_iff (m : Meets) :
    ValidatedAtUse (handleUnsafePcss m).events ↔ ∀ copy, Reaches m copy → Processable m copy := by
  by_cases h : (∃ first, m.first = some first ∧
      Zisaux.handleUnsafePcss m.call first.list = none) ∧
    m.available = true ∧ isPetValid m.testRC m.element = true ∧ m.second.isSome = true
  · obtain ⟨⟨first, hfirst, hchecks⟩, havailable, hpet, hsome⟩ := h
    obtain ⟨copy, hsecond⟩ := Option.isSome_iff_exists.mp hsome
    have hevents : handleUnsafePcss m = scheduleCommRequestProcessing m := by
      rw [handleUnsafePcss, hfirst]
      dsimp only
      rw [hchecks]
    rw [hevents, schedule_validated_iff havailable hpet hsecond]
    constructor
    · rintro hprocessable copy' ⟨-, -, -, hsecond', hpayload⟩
      have hsame := Option.some.inj (hsecond.symm.trans hsecond')
      subst hsame
      exact hprocessable hpayload
    · intro hall hpayload
      exact hall copy ⟨⟨first, hfirst, hchecks⟩, havailable, hpet, hsecond, hpayload⟩
  · refine iff_of_true ?_ ?_
    · have hnone : (handleUnsafePcss m).events = [] := by
        unfold handleUnsafePcss
        cases hfirst : m.first with
        | none =>
          dsimp only
          split
          · rfl
          split
          · rfl
          split <;> rfl
        | some first =>
          dsimp only
          cases hchecks : Zisaux.handleUnsafePcss m.call first.list with
          | some _ => rfl
          | none =>
            dsimp only
            unfold scheduleCommRequestProcessing
            split
            · rfl
            next havailable =>
            split
            · rfl
            next hpet =>
            cases hsecond : m.second with
            | none => rfl
            | some copy =>
              refine absurd ⟨⟨first, hfirst, hchecks⟩, by simpa using havailable, by simpa using hpet,
                by rw [hsecond]; rfl⟩ h
      rw [hnone]
      exact validatedAtUse_nil
    · rintro copy ⟨hchecks, havailable, hpet, hsecond, -⟩
      exact absurd ⟨hchecks, havailable, hpet, by rw [hsecond]; rfl⟩ h

/-- A caller that changes the function code behind the check. -/
def changingCaller : Meets where
  call := ⟨zisauxCallerKey, true, true, true, true, true, true, true⟩
  first := some ⟨true, 1, zisauxCommServiceFuncWork, 0, 0, 0, 0⟩
  second := some ⟨false, 2, 99, 0, 0, 0, 0⟩
  available := true
  testRC := 0
  element := PauseElement.fresh
  payloadAccess := true
  responseAccess := true
  storage := true
  worker := ⟨id, fun _ => rfl, fun _ => rfl, none⟩
  pauseRC := 0
  releaseCode := zisauxPeOk
  update := true
  removal := ⟨true, true⟩

/-- The worker is given a list that was never checked. -/
theorem changed_list_queued : ¬ ValidatedAtUse (handleUnsafePcss changingCaller).events := by
  intro h
  have hchecked := h.checked ⟨false, 2, 99, 0, 0, 0, 0⟩ (by decide)
  exact absurd hchecked.1 (by decide)

end Zss.Zisaux.ParmFetch
