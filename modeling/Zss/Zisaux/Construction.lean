import Mathlib.Data.List.Nodup
import Zss.Zisaux.Host

/-!
# The context of the AUX host: what it is built of

`makeContext` of `aux-host.c` acquires five kinds of resources one after the other, and
`destroyContext`, its rollback and its counterpart, tells from the fields of the context which of them
there are. Both are taken here with all they do to the resources; whether a context comes of it is
`Zss.Zisaux.makeContext` (`makeContext_isSome`).

The resource manager is deleted if the low word of the address of its token is not 0, and the pause
elements if their slots are not 0 in an array that the code does not clear. `balanced_iff` says for
which failures the resources are nevertheless given back as they should be.

## What is not established

What the resources are used for in between (`Zss.Zisaux.Host`), and a construction that an abend
leaves half-way.
-/

namespace Zss.Zisaux.Construction

/-- What `makeContext` acquires. -/
inductive Resource where
  | context
  | queue
  | array
  | pauseElement (slot : Nat)
  | parms
  | resourceManager

inductive Event where
  | acquired (resource : Resource)
  | released (resource : Resource)
  /-- The array is read that there is not. -/
  | missingRead

/-- What the storage holds: the address of the manager's token, and for each slot the first part of the
pause element token that is there in new storage, that an allocation puts there, that an allocation
that fails leaves there, and that is found at such an offset from address 0. -/
structure Storage where
  tokenAddress : Nat
  fresh : Nat → Nat
  allocated : Nat → Nat
  allocated_ne_zero : ∀ slot, allocated slot ≠ 0
  left : Nat → Nat
  low : Nat → Nat

/-- `(uint32_t)&context->taskResManager.token`. -/
def Storage.tokenWord (storage : Storage) : Nat := storage.tokenAddress % 2 ^ 32

/-- The fields of a context that tell what there is, and what was done. -/
structure Context where
  availablePETs : Bool
  requestPETs : Option (Nat → Nat)
  parms : Bool
  events : List Event

/-- A context under construction, and `status`. -/
structure Draft where
  context : Context
  ok : Bool

namespace Context

def acquire (context : Context) (resource : Resource) : Context :=
  { context with events := context.events ++ [.acquired resource] }

def release (context : Context) (resource : Resource) : Context :=
  { context with events := context.events ++ [.released resource] }

/-- What `peAlloc` leaves in a slot. -/
def setPart1 (context : Context) (slot part1 : Nat) : Context :=
  { context with requestPETs := context.requestPETs.map (Function.update · slot part1) }

end Context

/-- The context is allocated and cleared. -/
def Draft.start : Draft := ⟨Context.acquire ⟨false, none, false, []⟩ .context, true⟩

section

variable (env : ContextEnv) (storage : Storage)

/-! ## Construction -/

def addQueue (draft : Draft) : Draft :=
  if !draft.ok then draft
  else if env.queueStorage then
    ⟨{ draft.context with availablePETs := true }.acquire .queue, true⟩
  else ⟨draft.context, false⟩

def addArray (draft : Draft) : Draft :=
  if !draft.ok then draft
  else if env.arrayStorage then
    ⟨{ draft.context with requestPETs := some storage.fresh }.acquire .array, true⟩
  else ⟨draft.context, false⟩

/-- The loop over so many slots from one on. -/
def allocateFrom : Nat → Nat → Context → Draft
  | 0, _, context => ⟨context, true⟩
  | count + 1, slot, context =>
    if env.peAlloc slot then
      allocateFrom count (slot + 1)
        ((context.setPart1 slot (storage.allocated slot)).acquire (.pauseElement slot))
    else ⟨context.setPart1 slot (storage.left slot), false⟩

def addPauseElements (draft : Draft) : Draft :=
  if !draft.ok then draft
  else allocateFrom env storage zisauxMaxRequestCount 0 draft.context

def addParms (draft : Draft) : Draft :=
  if !draft.ok then draft
  else if env.parmSetStorage then ⟨{ draft.context with parms := true }.acquire .parms, true⟩
  else ⟨draft.context, false⟩

def addResourceManager (draft : Draft) : Draft :=
  if !draft.ok then draft
  else if env.resourceManager then ⟨draft.context.acquire .resourceManager, true⟩
  else ⟨draft.context, false⟩

/-! ## Destruction -/

/-- A round of the loop over the slots. -/
def deallocateSlot (context : Context) (slot : Nat) : Context :=
  let context :=
    if context.requestPETs.isSome then context
    else { context with events := context.events ++ [.missingRead] }
  if (context.requestPETs.getD storage.low) slot ≠ 0 then context.release (.pauseElement slot)
  else context

def destroyContext (context : Context) : List Event :=
  let context :=
    if storage.tokenWord ≠ 0 then context.release .resourceManager else context
  let context := (List.range zisauxMaxRequestCount).foldl (deallocateSlot storage) context
  let context := if context.requestPETs.isSome then context.release .array else context
  let context := if context.availablePETs then context.release .queue else context
  let context := if context.parms then context.release .parms else context
  (context.release .context).events

/-- `makeContext`: the context, if it is built, and what was done. -/
def makeContext : Option Context × List Event :=
  if !env.contextStorage then (none, [])
  else
    let draft := addResourceManager env (addParms env
      (addPauseElements env storage (addArray env storage (addQueue env Draft.start))))
    if draft.ok then (some draft.context, draft.context.events)
    else (none, destroyContext storage draft.context)

/-- What is done over the life of a context: it is built, and if it was, destroyed. -/
def lifetime : List Event :=
  match makeContext env storage with
  | (some context, _) => destroyContext storage context
  | (none, events) => events

end

/-! ## What is to be -/

def acquired (events : List Event) : List Resource :=
  events.filterMap fun
    | .acquired resource => some resource
    | _ => none

def released (events : List Event) : List Resource :=
  events.filterMap fun
    | .released resource => some resource
    | _ => none

/-- What was acquired is released, each resource once, and nothing else; and the array is not read
where there is none. -/
structure Balanced (events : List Event) : Prop where
  once : (acquired events).Nodup
  released : (released events).Perm (acquired events)
  present : Event.missingRead ∉ events

/-! ## What the construction leaves -/

section

variable {env : ContextEnv} {storage : Storage}

/-- The first parts behind a loop over so many slots from one on that allocated `k` of them. -/
def part1After (storage : Storage) (count slot k : Nat) (part1 : Nat → Nat) (j : Nat) : Nat :=
  if slot ≤ j ∧ j < slot + k then storage.allocated j
  else if j = slot + k ∧ k < count then storage.left j
  else part1 j

theorem part1After_zero (slot : Nat) : part1After storage 0 slot 0 = id := by
  funext part1 j
  rw [part1After, if_neg (by omega), if_neg (by omega)]
  rfl

theorem part1After_allocated (count slot k : Nat) (part1 : Nat → Nat) :
    part1After storage count (slot + 1) k (Function.update part1 slot (storage.allocated slot)) =
      part1After storage (count + 1) slot (k + 1) part1 := by
  funext j
  rw [part1After, part1After]
  by_cases hj : j = slot
  · subst hj
    rw [if_neg (by omega), if_neg (by omega), if_pos (by omega), Function.update_self]
  · rw [Function.update_of_ne hj]
    exact if_congr (by omega) rfl (if_congr (by omega) rfl rfl)

theorem part1After_left (count slot : Nat) (part1 : Nat → Nat) :
    part1After storage (count + 1) slot 0 part1 =
      Function.update part1 slot (storage.left slot) := by
  funext j
  rw [part1After, if_neg (by omega)]
  by_cases hj : j = slot
  · subst hj
    rw [Function.update_self, if_pos (by omega)]
  · rw [Function.update_of_ne hj, if_neg (by omega)]

/-- The loop comes to the first slot that cannot be allocated, or to the end. -/
theorem allocateFrom_eq (count slot : Nat) (context : Context) :
    ∃ k ≤ count, (∀ j < k, env.peAlloc (slot + j) = true) ∧
      (k < count → env.peAlloc (slot + k) = false) ∧
      allocateFrom env storage count slot context =
        ⟨{ context with
            requestPETs := context.requestPETs.map (part1After storage count slot k)
            events := context.events ++
              (List.range' slot k).map fun j => .acquired (.pauseElement j) }, k == count⟩ := by
  induction count generalizing slot context with
  | zero =>
    refine ⟨0, Nat.le_refl 0, fun j hj => absurd hj (Nat.not_lt_zero j),
      fun h => absurd h (Nat.lt_irrefl 0), ?_⟩
    rw [allocateFrom, part1After_zero, Option.map_id, List.range'_zero, List.map_nil,
      List.append_nil]
    rfl
  | succ count ih =>
    rw [allocateFrom]
    split
    next halloc =>
      obtain ⟨k, hk, hall, hfails, heq⟩ := ih (slot + 1)
        ((context.setPart1 slot (storage.allocated slot)).acquire (.pauseElement slot))
      refine ⟨k + 1, Nat.succ_le_succ hk, ?_, ?_, ?_⟩
      · intro j hj
        cases j with
        | zero => exact halloc
        | succ j =>
          rw [show slot + (j + 1) = slot + 1 + j by omega]
          exact hall j (by omega)
      · intro hlt
        rw [show slot + (k + 1) = slot + 1 + k by omega]
        exact hfails (by omega)
      · have hcontents : (part1After storage count (slot + 1) k ∘
            (Function.update · slot (storage.allocated slot))) =
            part1After storage (count + 1) slot (k + 1) :=
          funext fun part1 => part1After_allocated count slot k part1
        have hok : (k == count) = (k + 1 == count + 1) := by
          rw [Bool.eq_iff_iff, beq_iff_eq, beq_iff_eq]
          omega
        rw [heq, Context.acquire, Context.setPart1, hok]
        dsimp only
        rw [Option.map_map, hcontents, List.append_assoc, List.range'_succ, List.map_cons,
          List.singleton_append]
    next hfail =>
      refine ⟨0, Nat.zero_le _, fun j hj => absurd hj (Nat.not_lt_zero j),
        fun _ => Bool.eq_false_iff.mpr hfail, ?_⟩
      have hcontents : (Function.update · slot (storage.left slot)) =
          part1After storage (count + 1) slot 0 :=
        funext fun part1 => (part1After_left count slot part1).symm
      rw [Context.setPart1, hcontents, List.range'_zero, List.map_nil, List.append_nil]
      rfl

/-- What a round of the loop over the slots does. -/
def slotEvents (storage : Storage) (requestPETs : Option (Nat → Nat)) (slot : Nat) : List Event :=
  (if requestPETs.isSome then [] else [.missingRead]) ++
  (if (requestPETs.getD storage.low) slot ≠ 0 then [.released (.pauseElement slot)] else [])

theorem deallocateSlot_eq (context : Context) (slot : Nat) :
    deallocateSlot storage context slot =
      { context with
        events := context.events ++ slotEvents storage context.requestPETs slot } := by
  obtain ⟨queue, requestPETs, parms, events⟩ := context
  unfold deallocateSlot slotEvents Context.release
  cases requestPETs with
  | none => by_cases hpart1 : storage.low slot = 0 <;> simp [hpart1]
  | some part1 => by_cases hpart1 : part1 slot = 0 <;> simp [hpart1]

theorem foldl_deallocateSlot (slots : List Nat) (context : Context) :
    slots.foldl (deallocateSlot storage) context =
      { context with
        events := context.events ++ slots.flatMap (slotEvents storage context.requestPETs) } := by
  induction slots generalizing context with
  | nil => rw [List.foldl_nil, List.flatMap_nil, List.append_nil]
  | cons slot slots ih =>
    rw [List.foldl_cons, ih, deallocateSlot_eq, List.flatMap_cons, List.append_assoc]

/-- All that the destruction does, behind what was done before. -/
theorem destroyContext_eq (context : Context) :
    destroyContext storage context =
      context.events ++
        ((if storage.tokenWord ≠ 0 then [.released .resourceManager] else []) ++
        (List.range zisauxMaxRequestCount).flatMap (slotEvents storage context.requestPETs) ++
        (if context.requestPETs.isSome then [.released .array] else []) ++
        (if context.availablePETs then [.released .queue] else []) ++
        (if context.parms then [.released .parms] else []) ++ [.released .context]) := by
  obtain ⟨queue, requestPETs, parms, events⟩ := context
  unfold destroyContext
  dsimp only
  rw [foldl_deallocateSlot]
  by_cases htoken : storage.tokenWord = 0 <;> cases requestPETs <;> cases queue <;>
    cases parms <;> simp [htoken, Context.release]

/-- The context with an array, `k` of its pause elements, and as much of the rest as there is. -/
def built (storage : Storage) (k : Nat) (parms manager : Bool) : Context where
  availablePETs := true
  requestPETs := some (part1After storage zisauxMaxRequestCount 0 k storage.fresh)
  parms := parms
  events := [.acquired .context, .acquired .queue, .acquired .array] ++
    (List.range k).map (fun j => .acquired (.pauseElement j)) ++
    (if parms then [.acquired .parms] else []) ++
    (if manager then [.acquired .resourceManager] else [])

/-- `k` pause elements are allocated. -/
structure Allocates (env : ContextEnv) (k : Nat) : Prop where
  le : k ≤ zisauxMaxRequestCount
  all : ∀ j < k, env.peAlloc j = true
  fails : k < zisauxMaxRequestCount → env.peAlloc k = false

theorem Allocates.unique {k k' : Nat} (h : Allocates env k) (h' : Allocates env k') : k = k' := by
  obtain hlt | heq | hgt := Nat.lt_trichotomy k k'
  · have hfails := h.fails (Nat.lt_of_lt_of_le hlt h'.le)
    rw [h'.all k hlt] at hfails
    cases hfails
  · exact heq
  · have hfails := h'.fails (Nat.lt_of_lt_of_le hgt h.le)
    rw [h.all k' hgt] at hfails
    cases hfails

/-- With queue and array the construction comes to a context of the kind `built`. -/
theorem makeContext_built (hcontext : env.contextStorage = true) (hqueue : env.queueStorage = true)
    (harray : env.arrayStorage = true) :
    ∃ k parms manager, Allocates env k ∧
      (parms = true ↔ k = zisauxMaxRequestCount ∧ env.parmSetStorage = true) ∧
      (manager = true ↔ parms = true ∧ env.resourceManager = true) ∧
      (makeContext env storage).1.isSome = manager ∧
      lifetime env storage = destroyContext storage (built storage k parms manager) := by
  obtain ⟨k, hk, hall, hfails, heq⟩ := @allocateFrom_eq env storage zisauxMaxRequestCount 0
    ⟨true, some storage.fresh, false, [.acquired .context, .acquired .queue, .acquired .array]⟩
  simp only [Nat.zero_add] at hall hfails
  rw [← List.range_eq_range'] at heq
  have hdraft : addPauseElements env storage (addArray env storage (addQueue env Draft.start)) =
      ⟨built storage k false false, k == zisauxMaxRequestCount⟩ := by
    rw [addQueue, hqueue, addArray, harray]
    refine Eq.trans heq ?_
    simp [built]
  unfold lifetime makeContext
  rw [hdraft, hcontext]
  by_cases hend : k = zisauxMaxRequestCount
  · subst hend
    cases hparms : env.parmSetStorage with
    | false =>
      refine ⟨_, false, false, ⟨hk, hall, hfails⟩, by simp, by simp, ?_, ?_⟩
      · simp [addParms, addResourceManager, hparms]
      · simp [addParms, addResourceManager, hparms]
    | true =>
      cases hmanager : env.resourceManager with
      | false =>
        refine ⟨_, true, false, ⟨hk, hall, hfails⟩, by simp, by simp, ?_, ?_⟩
        · simp [addParms, addResourceManager, hparms, hmanager]
        · simp [addParms, addResourceManager, hparms, hmanager, built, Context.acquire]
      | true =>
        refine ⟨_, true, true, ⟨hk, hall, hfails⟩, by simp, by simp, ?_, ?_⟩
        · simp [addParms, addResourceManager, hparms, hmanager]
        · simp [addParms, addResourceManager, hparms, hmanager, built, Context.acquire]
  · refine ⟨k, false, false, ⟨hk, hall, hfails⟩, by simp [hend], by simp, ?_, ?_⟩
    · simp [addParms, addResourceManager, hend]
    · simp [addParms, addResourceManager, hend]

/-! ## When it is balanced -/

theorem released_append (events events' : List Event) :
    released (events ++ events') = released events ++ released events' := List.filterMap_append

theorem acquired_append (events events' : List Event) :
    acquired (events ++ events') = acquired events ++ acquired events' := List.filterMap_append

theorem acquired_slotEvents (requestPETs : Option (Nat → Nat)) (slots : List Nat) :
    acquired (slots.flatMap (slotEvents storage requestPETs)) = [] := by
  refine List.filterMap_eq_nil_iff.mpr fun event hevent => ?_
  obtain ⟨slot, -, hslot⟩ := List.mem_flatMap.mp hevent
  obtain hmissing | hreleased := List.mem_append.mp hslot
  · split at hmissing
    next => cases hmissing
    next => rw [List.mem_singleton.mp hmissing]
  · split at hreleased
    next => rw [List.mem_singleton.mp hreleased]
    next => cases hreleased

theorem released_slotEvents (part1 : Nat → Nat) (slots : List Nat) :
    released (slots.flatMap (slotEvents storage (some part1))) =
      (slots.filter fun slot => part1 slot ≠ 0).map .pauseElement := by
  induction slots with
  | nil => rfl
  | cons slot slots ih =>
    rw [List.flatMap_cons, released_append, ih]
    by_cases hpart1 : part1 slot = 0 <;> simp [slotEvents, released, hpart1]

theorem missingRead_slotEvents (part1 : Nat → Nat) (slots : List Nat) :
    Event.missingRead ∉ slots.flatMap (slotEvents storage (some part1)) := by
  intro hmem
  obtain ⟨slot, -, hslot⟩ := List.mem_flatMap.mp hmem
  simp [slotEvents] at hslot

theorem acquired_built (k : Nat) (parms manager : Bool) :
    acquired (destroyContext storage (built storage k parms manager)) =
      [.context, .queue, .array] ++ (List.range k).map .pauseElement ++
        (if parms then [.parms] else []) ++ (if manager then [.resourceManager] else []) := by
  rw [destroyContext_eq, acquired_append]
  have hrest : acquired ((if storage.tokenWord ≠ 0 then [.released .resourceManager] else []) ++
      (List.range zisauxMaxRequestCount).flatMap
        (slotEvents storage (built storage k parms manager).requestPETs) ++
      (if (built storage k parms manager).requestPETs.isSome then [.released .array] else []) ++
      (if (built storage k parms manager).availablePETs then [.released .queue] else []) ++
      (if (built storage k parms manager).parms then [.released .parms] else []) ++
      [.released .context]) = [] := by
    simp only [acquired_append, acquired_slotEvents]
    by_cases htoken : storage.tokenWord = 0 <;> cases parms <;> simp [htoken, acquired, built]
  rw [hrest, List.append_nil]
  cases parms <;> cases manager <;> simp [acquired, built, List.filterMap_map]

theorem released_built (k : Nat) (parms manager : Bool) :
    released (destroyContext storage (built storage k parms manager)) =
      (if storage.tokenWord ≠ 0 then [.resourceManager] else []) ++
        ((List.range zisauxMaxRequestCount).filter fun slot =>
          part1After storage zisauxMaxRequestCount 0 k storage.fresh slot ≠ 0).map .pauseElement ++
        [.array, .queue] ++ (if parms then [.parms] else []) ++ [.context] := by
  have hevents : released (built storage k parms manager).events = [] := by
    cases parms <;> cases manager <;> simp [released, built, List.filterMap_map]
  rw [destroyContext_eq, released_append, hevents, List.nil_append]
  simp only [released_append]
  rw [show (built storage k parms manager).requestPETs =
    some (part1After storage zisauxMaxRequestCount 0 k storage.fresh) from rfl, released_slotEvents]
  by_cases htoken : storage.tokenWord = 0 <;> cases parms <;> simp [htoken, released, built]

theorem missingRead_built (k : Nat) (parms manager : Bool) :
    Event.missingRead ∉ destroyContext storage (built storage k parms manager) := by
  rw [destroyContext_eq, show (built storage k parms manager).requestPETs =
    some (part1After storage zisauxMaxRequestCount 0 k storage.fresh) from rfl]
  simp only [List.mem_append, missingRead_slotEvents]
  by_cases htoken : storage.tokenWord = 0 <;> cases parms <;> cases manager <;>
    simp [htoken, built]

/-- Nothing is in the slots behind those that were allocated. -/
def NothingLeft (storage : Storage) (k : Nat) : Prop :=
  k < zisauxMaxRequestCount → storage.left k = 0 ∧
    ∀ slot, k < slot → slot < zisauxMaxRequestCount → storage.fresh slot = 0

/-- The slots that are not 0 are those that were allocated, if nothing is left in the others. -/
theorem part1After_ne_zero_iff {k : Nat} (hk : k ≤ zisauxMaxRequestCount) :
    (∀ slot < zisauxMaxRequestCount,
      part1After storage zisauxMaxRequestCount 0 k storage.fresh slot ≠ 0 ↔ slot < k) ↔
    NothingLeft storage k := by
  constructor
  · intro h hlt
    constructor
    · have hslot := h k hlt
      rw [part1After, if_neg (by omega), if_pos (by omega)] at hslot
      by_contra hne
      exact absurd (hslot.mp hne) (Nat.lt_irrefl k)
    · intro slot hbehind hslot
      have hslot' := h slot hslot
      rw [part1After, if_neg (by omega), if_neg (by omega)] at hslot'
      by_contra hne
      exact absurd (hslot'.mp hne) (Nat.not_lt.mpr (Nat.le_of_lt hbehind))
  · intro h slot hslot
    by_cases hbelow : slot < k
    · rw [part1After, if_pos (by omega)]
      exact iff_of_true (storage.allocated_ne_zero slot) hbelow
    · have hlt : k < zisauxMaxRequestCount := by omega
      refine iff_of_false (not_not.mpr ?_) hbelow
      by_cases hfailed : slot = k
      · rw [part1After, if_neg (by omega), if_pos (by omega), hfailed]
        exact (h hlt).1
      · rw [part1After, if_neg (by omega), if_neg (by omega)]
        exact (h hlt).2 slot (by omega) hslot

theorem pauseElement_injective : Function.Injective Resource.pauseElement :=
  fun _ _ h => Resource.pauseElement.inj h

theorem nodup_acquired_built (k : Nat) (parms manager : Bool) :
    (acquired (destroyContext storage (built storage k parms manager))).Nodup := by
  have hslots : ((List.range k).map Resource.pauseElement).Nodup :=
    List.nodup_range.map pauseElement_injective
  rw [acquired_built]
  cases parms <;> cases manager <;> simp [List.nodup_append, hslots]

theorem nodup_released_built (k : Nat) (parms manager : Bool) :
    (released (destroyContext storage (built storage k parms manager))).Nodup := by
  rw [released_built]
  generalize hslots : (List.range zisauxMaxRequestCount).filter _ = slots
  have hnodup : (slots.map Resource.pauseElement).Nodup := by
    rw [← hslots]
    exact (List.nodup_range.filter _).map pauseElement_injective
  by_cases htoken : storage.tokenWord = 0 <;> cases parms <;>
    simp [List.nodup_append, hnodup, htoken]

/-- What was acquired, resource by resource. -/
theorem mem_acquired_built (k : Nat) (parms manager : Bool) (resource : Resource) :
    resource ∈ acquired (destroyContext storage (built storage k parms manager)) ↔
      match resource with
      | .pauseElement slot => slot < k
      | .parms => parms = true
      | .resourceManager => manager = true
      | _ => True := by
  rw [acquired_built]
  cases resource <;> cases parms <;> cases manager <;> simp

/-- What is released, resource by resource. -/
theorem mem_released_built (k : Nat) (parms manager : Bool) (resource : Resource) :
    resource ∈ released (destroyContext storage (built storage k parms manager)) ↔
      match resource with
      | .pauseElement slot => slot < zisauxMaxRequestCount ∧
          part1After storage zisauxMaxRequestCount 0 k storage.fresh slot ≠ 0
      | .parms => parms = true
      | .resourceManager => storage.tokenWord ≠ 0
      | _ => True := by
  rw [released_built]
  by_cases htoken : storage.tokenWord = 0 <;> cases resource <;> cases parms <;> simp [htoken]

/-- A context that is built so far is given back as it should be if the manager was added exactly when
it is deleted, and nothing was left in the slots. -/
theorem balanced_built_iff {k : Nat} (hk : k ≤ zisauxMaxRequestCount) (parms manager : Bool) :
    Balanced (destroyContext storage (built storage k parms manager)) ↔
      (storage.tokenWord ≠ 0 ↔ manager = true) ∧ NothingLeft storage k := by
  have hperm : (released (destroyContext storage (built storage k parms manager))).Perm
      (acquired (destroyContext storage (built storage k parms manager))) ↔ _ :=
    List.perm_ext_iff_of_nodup (nodup_released_built k parms manager)
      (nodup_acquired_built k parms manager)
  simp only [mem_released_built, mem_acquired_built] at hperm
  rw [← part1After_ne_zero_iff hk]
  constructor
  · intro h
    have hreleased := hperm.mp h.released
    refine ⟨hreleased .resourceManager, fun slot hslot => ?_⟩
    have hpauseElement := hreleased (.pauseElement slot)
    dsimp only at hpauseElement
    rwa [and_iff_right hslot] at hpauseElement
  · rintro ⟨hmanager, hslots⟩
    refine ⟨nodup_acquired_built k parms manager, hperm.mpr fun resource => ?_,
      missingRead_built k parms manager⟩
    cases resource with
    | pauseElement slot =>
      constructor
      · rintro ⟨hslot, hne⟩
        exact (hslots slot hslot).mp hne
      · intro hbelow
        have hslot := Nat.lt_of_lt_of_le hbelow hk
        exact ⟨hslot, (hslots slot hslot).mpr hbelow⟩
    | resourceManager => exact hmanager
    | context | queue | array | parms => exact Iff.rfl

/-! ## Every pattern of failures -/

/-- All steps succeed. -/
def Completes (env : ContextEnv) : Prop :=
  env.contextStorage = true ∧ env.queueStorage = true ∧ env.arrayStorage = true ∧
    (∀ slot < zisauxMaxRequestCount, env.peAlloc slot = true) ∧ env.parmSetStorage = true ∧
    env.resourceManager = true

theorem Allocates.eq_max_iff {k : Nat} (h : Allocates env k) :
    k = zisauxMaxRequestCount ↔ ∀ slot < zisauxMaxRequestCount, env.peAlloc slot = true := by
  constructor
  · rintro rfl
    exact h.all
  · intro hall
    by_contra hne
    have hlt := Nat.lt_of_le_of_ne h.le hne
    have hfails := h.fails hlt
    rw [hall k hlt] at hfails
    cases hfails

/-- Without an array the destruction reads it nevertheless. -/
theorem missingRead_destroyContext {context : Context} (h : context.requestPETs = none) :
    Event.missingRead ∈ destroyContext storage context := by
  rw [destroyContext_eq, h]
  simp [slotEvents, zisauxMaxRequestCount, List.range_succ]

/-- Without queue or array no context comes of it, and the array is read. -/
theorem makeContext_short (hcontext : env.contextStorage = true)
    (h : env.queueStorage = false ∨ env.arrayStorage = false) :
    (makeContext env storage).1 = none ∧ Event.missingRead ∈ lifetime env storage := by
  have hdraft : ∃ context : Context, context.requestPETs = none ∧
      addArray env storage (addQueue env Draft.start) = ⟨context, false⟩ := by
    cases hqueue : env.queueStorage with
    | false => exact ⟨Draft.start.context, rfl, by simp [addQueue, addArray, hqueue, Draft.start]⟩
    | true =>
      have harray : env.arrayStorage = false := by
        obtain hqueue' | harray := h
        · rw [hqueue] at hqueue'
          cases hqueue'
        · exact harray
      exact ⟨_, rfl, by rw [addQueue, hqueue, addArray, harray]; rfl⟩
  obtain ⟨context, hnone, hdraft⟩ := hdraft
  unfold lifetime makeContext
  rw [hdraft, hcontext]
  exact ⟨rfl, missingRead_destroyContext hnone⟩

/-- A context comes of the construction exactly if all its steps succeed. -/
theorem makeContext_isSome (env : ContextEnv) (storage : Storage) :
    (makeContext env storage).1.isSome = true ↔ Completes env := by
  unfold Completes
  cases hcontext : env.contextStorage with
  | false =>
    unfold makeContext
    rw [hcontext]
    simp
  | true =>
    by_cases h : env.queueStorage = true ∧ env.arrayStorage = true
    · obtain ⟨k, parms, manager, hk, hparms, hmanager, hresult, -⟩ :=
        @makeContext_built env storage hcontext h.1 h.2
      rw [hresult, hmanager, hparms, hk.eq_max_iff, h.1, h.2]
      tauto
    · have hshort : env.queueStorage = false ∨ env.arrayStorage = false := by
        rw [← Bool.not_eq_true, ← Bool.not_eq_true]
        tauto
      rw [(makeContext_short hcontext hshort).1]
      refine iff_of_false Bool.false_ne_true ?_
      rintro ⟨-, hqueue, harray, -⟩
      exact h ⟨hqueue, harray⟩

/-- A context is returned if all steps succeed and none if one fails, and what was acquired is given
back once, exactly when there was no storage for the context, or there were queue and array, all steps
succeeded or failed as the test of the token's address has it, and nothing was left in the slots of the
pause elements that were not allocated. -/
theorem balanced_iff (env : ContextEnv) (storage : Storage) :
    ((makeContext env storage).1.isSome = true ↔ Completes env) ∧
      Balanced (lifetime env storage) ↔
    env.contextStorage = false ∨
      env.queueStorage = true ∧ env.arrayStorage = true ∧
        (storage.tokenWord ≠ 0 ↔ Completes env) ∧ ∀ k, Allocates env k → NothingLeft storage k := by
  rw [and_iff_right (makeContext_isSome env storage)]
  cases hcontext : env.contextStorage with
  | false =>
    refine iff_of_true ?_ (.inl rfl)
    unfold lifetime makeContext
    rw [hcontext]
    exact ⟨List.nodup_nil, List.Perm.nil, List.not_mem_nil⟩
  | true =>
    by_cases h : env.queueStorage = true ∧ env.arrayStorage = true
    · obtain ⟨k, parms, manager, hk, hparms, hmanager, hresult, hlifetime⟩ :=
        @makeContext_built env storage hcontext h.1 h.2
      have hcompletes : manager = true ↔ Completes env := by
        rw [← makeContext_isSome env storage, hresult]
      rw [hlifetime, balanced_built_iff hk.le, hcompletes]
      constructor
      · rintro ⟨htoken, hleft⟩
        exact .inr ⟨h.1, h.2, htoken, fun k' hk' => hk.unique hk' ▸ hleft⟩
      · rintro (hfalse | ⟨-, -, htoken, hleft⟩)
        · cases hfalse
        · exact ⟨htoken, hleft k hk⟩
    · have hshort : env.queueStorage = false ∨ env.arrayStorage = false := by
        rw [← Bool.not_eq_true, ← Bool.not_eq_true]
        tauto
      refine iff_of_false (fun hbalanced => hbalanced.present (makeContext_short hcontext hshort).2) ?_
      rintro (hfalse | ⟨hqueue, harray, -⟩)
      · cases hfalse
      · exact h ⟨hqueue, harray⟩

end

/-- Storage that was used before. -/
def usedStorage : Storage where
  tokenAddress := 0x1f0a8
  fresh := fun _ => 0x40
  allocated := fun slot => slot + 1
  allocated_ne_zero := fun slot => Nat.succ_ne_zero slot
  left := fun _ => 0
  low := fun _ => 0x0a

/-- The storage for the queue cannot be had: a resource manager is deleted that was not added, and the
slots of an array are read that there is not. -/
theorem queue_failure_unbalanced :
    ¬ (((makeContext ⟨true, false, true, fun _ => true, true, true⟩ usedStorage).1.isSome = true ↔
        Completes ⟨true, false, true, fun _ => true, true, true⟩) ∧
      Balanced (lifetime ⟨true, false, true, fun _ => true, true, true⟩ usedStorage)) := by
  rintro ⟨-, hbalanced⟩
  exact hbalanced.present (makeContext_short rfl (.inl rfl)).2

end Zss.Zisaux.Construction
