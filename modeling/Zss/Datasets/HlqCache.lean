import Zss.Datasets.HlqNames
import Zss.Lib.Embedding
import Zss.Lib.Storage

/-!
# The storage of the high-level qualifiers

`hlqStorage` is the storage that `respondWithHLQNames` runs in: what each read finds, what is obtained
and freed; a read or a free of what is not allocated, and an index beyond the end, are noted.
`hlqService` takes one request after the other, from a cache that was obtained and not written. A
request is tidy if nothing is noted in it and what was cached is freed where it is replaced. Requests
are tidy exactly if the cache is empty at first and never replaced (`tidy_iff`): what is replaced keeps
its array, and its parameter blocks are freed by the number of its entries.

## What is not established

Requests are served one after the other: one that reads the cache while another replaces it is not
among the runs. The names that are listed are not compared with the catalog.
-/

namespace Zss.Datasets

open Zss.Lib

/-! ## The storage -/

inductive HlqBlock where
  | set (set : EntryDataSet)
  | entries (entries : List Addr)
  | entry (entry : NamedEntry)
  | parmblocks (parmblocks : List Addr)
  | parmblock (parmblock : CsiParmblock)

namespace HlqBlock

def asSet : HlqBlock → Option EntryDataSet
  | set s => some s
  | _ => none

def asEntries : HlqBlock → Option (List Addr)
  | entries as => some as
  | _ => none

def asEntry : HlqBlock → Option NamedEntry
  | entry e => some e
  | _ => none

def asParmblocks : HlqBlock → Option (List Addr)
  | parmblocks as => some as
  | _ => none

def asParmblock : HlqBlock → Option CsiParmblock
  | parmblock p => some p
  | _ => none

end HlqBlock

inductive HlqFault where
  | usedUnallocated
  | freedUnallocated
  | beyondEnd

/-- What stands between requests; and what was freed in the last one. -/
structure HlqState where
  storage : Storage HlqBlock
  cache : MetadataQueryCache
  freed : List Addr
  faults : List HlqFault

namespace HlqState

variable (w : HlqState)

/-- The block of a pointer, as it is used. -/
def deref {α : Type} (as : HlqBlock → Option α) (p : Pointer) : Option α :=
  (p.bind w.storage.get).bind as

/-- Something goes wrong. -/
def fail (fault : HlqFault) : HlqState := { w with faults := fault :: w.faults }

/-- A read of a block. -/
def read {α : Type} [DecidableEq α] (as : HlqBlock → Option α) (p : Pointer) (answer : α) :
    Option HlqState :=
  match w.deref as p with
  | some x => if answer = x then some w else none
  | none => some (w.fail .usedUnallocated)

/-- A read of an element of an array. -/
def readAt (as : HlqBlock → Option (List Addr)) (p : Pointer) (i : Nat) (answer : Pointer) :
    Option HlqState :=
  match w.deref as p with
  | some xs =>
    match xs[i]? with
    | some x => if answer = some x then some w else none
    | none => some (w.fail .beyondEnd)
  | none => some (w.fail .usedUnallocated)

/-- A block freed; nothing for a null pointer. -/
def free : Pointer → HlqState
  | none => w
  | some a =>
    if w.storage.Live a then { w with storage := w.storage.release a, freed := w.freed ++ [a] }
    else w.fail .freedUnallocated

/-- The storage after `getHLQs`: the parameter blocks, with their addresses in the array, the entries,
and the set with the array of their addresses. -/
def withHlqs (hlqs : Hlqs) (array : Addr) : Storage HlqBlock :=
  let parmblocks := w.storage.obtainAll (hlqs.parmblocks.map .parmblock)
  let filled := parmblocks.modify array fun _ =>
    .parmblocks (List.range' w.storage.fresh hlqs.parmblocks.length)
  let entries := filled.obtainAll (hlqs.entries.map .entry)
  let listed := entries.obtain (.entries (List.range' filled.fresh hlqs.entries.length))
  listed.obtain (.set ⟨some entries.fresh, hlqs.entries.length⟩)

/-- One call: whether it can have its answer, and what it leaves. -/
def after : Event hlqCalls → Option HlqState
  | ⟨.readCache, cache⟩ => if cache = w.cache then some w else none
  | ⟨.writeCache cache, _⟩ => some { w with cache }
  | ⟨.readSet set, answer⟩ => w.read HlqBlock.asSet set answer
  | ⟨.entryAt entries i, answer⟩ => w.readAt HlqBlock.asEntries entries i answer
  | ⟨.readEntry entry, answer⟩ => w.read HlqBlock.asEntry entry answer
  | ⟨.parmblockAt parmblocks i, answer⟩ => w.readAt HlqBlock.asParmblocks parmblocks i answer
  | ⟨.readParmblock parmblock, answer⟩ => w.read HlqBlock.asParmblock parmblock answer
  | ⟨.safeMalloc31, a⟩ =>
    if a = w.storage.fresh then some { w with storage := w.storage.obtain (.parmblocks []) } else none
  | ⟨.getHLQs _ _ array, hlqs⟩ =>
    if hlqs.parmblocks.length = hlqFirstChar.length ∧
        hlqs.set = w.storage.fresh + hlqs.parmblocks.length + hlqs.entries.length + 1 then
      some { w with storage := w.withHlqs hlqs array }
    else none
  | ⟨.safeFree block, _⟩ => some (w.free block)
  | ⟨.respond _, _⟩ => some w

/-- The next request comes in. -/
def begin : HlqState := { w with freed := [] }

/-- Before the first request: `cache` is what its storage holds. -/
def start (cache : MetadataQueryCache) : HlqState := ⟨.empty, cache, [], []⟩

end HlqState

/-- The storage that the requests run in. -/
def hlqStorage : Machine HlqState (Event hlqCalls) := ⟨HlqState.after⟩

/-- A request with what is called for it. -/
structure HlqServed where
  request : HlqRequest
  events : List (Event hlqCalls)
  runs : (respondWithHLQNames request).Runs events ()

/-- The service, one request after the other. -/
def hlqService : Machine HlqState HlqServed :=
  ⟨fun w served => hlqStorage.run w.begin served.events⟩

/-! ## The property -/

/-- What the cache holds: the set with its entries and their array, the parameter blocks and theirs. -/
def HlqState.cached (w : HlqState) : List Addr :=
  let entries := (w.deref HlqBlock.asSet w.cache.cachedHLQSet).bind EntryDataSet.entries
  w.cache.cachedHLQSet.toList ++ entries.toList ++ (w.deref HlqBlock.asEntries entries).getD [] ++
    (w.cache.cachedCSIParmblocks.toList ++
      (w.deref HlqBlock.asParmblocks w.cache.cachedCSIParmblocks).getD [])

/-- The request replaces what is cached. -/
def HlqState.Replaces (w : HlqState) (request : HlqRequest) : Prop :=
  w.cache.cachedHLQSet.isSome = true ∧ request.updatesCache = true

/-- A request uses and frees only what is allocated, and frees what it replaces, each of it once. -/
structure TidyRequest (w : HlqState) (served : HlqServed) (w' : HlqState) : Prop where
  faultless : w'.faults = []
  freed : w.Replaces served.request → w'.freed.Perm w.cached

/-- The request is tidy in the state it comes in. -/
def Tidy (w : HlqState) (served : HlqServed) : Prop :=
  ∀ w', hlqService.step w served = some w' → TidyRequest w served w'

/-- The cache is empty before the first request, and no later one updates it. -/
def NeverReplaced (cache : MetadataQueryCache) : List HlqServed → Prop
  | [] => True
  | _ :: later => cache.cachedHLQSet = none ∧
      ∀ served ∈ later, served.request.updatesCache = false

/-! ## Calls of which nothing is noted -/

open Program

variable {w w' : HlqState} {α : Type} {p : Pointer} {i : Nat}

namespace HlqState

theorem fail_faults (fault : HlqFault) : (w.fail fault).faults ≠ [] := List.cons_ne_nil _ _

theorem read_clean [DecidableEq α] {as : HlqBlock → Option α} {answer : α}
    (h : w.read as p answer = some w') (hfaults : w'.faults = []) :
    w' = w ∧ w.deref as p = some answer := by
  unfold read at h
  split at h
  next x hx =>
    split at h
    next heq => exact ⟨(Option.some.inj h).symm, heq ▸ hx⟩
    next => cases h
  next =>
    cases h
    exact absurd hfaults (fail_faults _)

theorem readAt_clean {as : HlqBlock → Option (List Addr)} {answer : Pointer}
    (h : w.readAt as p i answer = some w') (hfaults : w'.faults = []) :
    w' = w ∧ ∃ xs x, w.deref as p = some xs ∧ xs[i]? = some x ∧ answer = some x := by
  unfold readAt at h
  split at h
  next xs hxs =>
    split at h
    next x hx =>
      split at h
      next heq => exact ⟨(Option.some.inj h).symm, xs, x, hxs, hx, heq⟩
      next => cases h
    next =>
      cases h
      exact absurd hfaults (fail_faults _)
  next =>
    cases h
    exact absurd hfaults (fail_faults _)

theorem free_clean {a : Addr} (hfaults : (w.free (some a)).faults = []) :
    w.free (some a) = { w with storage := w.storage.release a, freed := w.freed ++ [a] } := by
  unfold free at hfaults ⊢
  dsimp only at hfaults ⊢
  split at hfaults
  next hlive => exact if_pos hlive
  next => exact absurd hfaults (fail_faults _)

theorem free_faults (hfaults : (w.free p).faults = []) : w.faults = [] := by
  cases p with
  | none => exact hfaults
  | some a =>
    rw [free_clean hfaults] at hfaults
    exact hfaults

end HlqState

variable {cache : MetadataQueryCache}

theorem readCache_eq (h : hlqStorage.step w ⟨.readCache, cache⟩ = some w') :
    cache = w.cache ∧ w' = w := by
  obtain ⟨hcache, h⟩ := Option.ite_none_right_eq_some.mp h
  exact ⟨hcache, (Option.some.inj h).symm⟩

/-- What is noted stays. -/
theorem hlqStorage_faults {e : Event hlqCalls} (h : hlqStorage.step w e = some w')
    (hfaults : w'.faults = []) : w.faults = [] := by
  obtain ⟨c, answer⟩ := e
  cases c with
  | readSet | readEntry | readParmblock => exact (HlqState.read_clean h hfaults).1 ▸ hfaults
  | entryAt | parmblockAt => exact (HlqState.readAt_clean h hfaults).1 ▸ hfaults
  | safeFree => exact HlqState.free_faults (Option.some.inj h ▸ hfaults)
  | writeCache =>
    cases h
    exact hfaults
  | respond => exact Option.some.inj h ▸ hfaults
  | readCache => exact (readCache_eq h).2 ▸ hfaults
  | safeMalloc31 =>
    obtain ⟨_, h⟩ := Option.ite_none_right_eq_some.mp h
    cases h
    exact hfaults
  | getHLQs =>
    obtain ⟨_, h⟩ := Option.ite_none_right_eq_some.mp h
    cases h
    exact hfaults

theorem hlqStorage_run_faults {events : List (Event hlqCalls)}
    (h : hlqStorage.run w events = some w') (hfaults : w'.faults = []) : w.faults = [] := by
  induction events generalizing w with
  | nil =>
    cases h
    exact hfaults
  | cons e events ih =>
    obtain ⟨t, ht, hrest⟩ := hlqStorage.run_cons_some h
    exact hlqStorage_faults ht (ih hrest)

/-- What a program comes to if nothing is noted in it. -/
def Clean (w : HlqState) (p : HlqHandler α) (post : α → HlqState → Prop) : Prop :=
  Leads hlqStorage (fun _ => True) w p fun a t => t.faults = [] → post a t

section

variable {β : Type} {post : β → HlqState → Prop}

theorem Clean.ret {b : β} (h : post b w) : Clean w (.ret b) post := Leads.ret fun _ => h

/-- A call of which nothing is noted, then what follows. -/
theorem Clean.ask_bind {c : HlqCall} {k : c.Answer → HlqHandler β}
    (h : ∀ answer t, hlqStorage.step w ⟨c, answer⟩ = some t → t.faults = [] →
      Clean t (k answer) post) :
    Clean w (hlqCall c >>= k) post := by
  refine Leads.ask_bind fun answer t _ ht => ?_
  by_cases hfaults : t.faults = []
  · exact h answer t ht hfaults
  · intro events b _ _ u hu hclean
    exact absurd (hlqStorage_run_faults hu hclean) hfaults

theorem Clean.bind_of {p : HlqHandler α} {k : α → HlqHandler β} {mid : α → HlqState → Prop}
    (hp : Clean w p mid) (hk : ∀ a t, mid a t → Clean t (k a) post) :
    Clean w (p >>= k) post := by
  refine Leads.bind_of hp fun a t hmid => ?_
  intro events b runs hevents u hu hclean
  exact hk a t (hmid (hlqStorage_run_faults hu hclean)) events b runs hevents u hu hclean

end

/-! ## What is replaced -/

/-- A call that frees nothing. -/
def FreesNothing (c : HlqCall) : Prop := ∀ block, c ≠ .safeFree block

theorem HlqState.read_freed [DecidableEq α] {as : HlqBlock → Option α} {answer : α}
    (h : w.read as p answer = some w') : w'.freed = w.freed := by
  unfold read at h
  split at h
  next =>
    obtain ⟨_, h⟩ := Option.ite_none_right_eq_some.mp h
    rw [Option.some.inj h]
  next =>
    cases h
    rfl

theorem HlqState.readAt_freed {as : HlqBlock → Option (List Addr)} {answer : Pointer}
    (h : w.readAt as p i answer = some w') : w'.freed = w.freed := by
  unfold readAt at h
  split at h
  next =>
    split at h
    next =>
      obtain ⟨_, h⟩ := Option.ite_none_right_eq_some.mp h
      rw [Option.some.inj h]
    next =>
      cases h
      rfl
  next =>
    cases h
    rfl

theorem freed_of_freesNothing {c : HlqCall} {answer : c.Answer} (hc : FreesNothing c)
    (h : hlqStorage.step w ⟨c, answer⟩ = some w') : w'.freed = w.freed := by
  cases c with
  | safeFree block => exact absurd rfl (hc block)
  | readSet => exact HlqState.read_freed h
  | readEntry => exact HlqState.read_freed h
  | readParmblock => exact HlqState.read_freed h
  | entryAt => exact HlqState.readAt_freed h
  | parmblockAt => exact HlqState.readAt_freed h
  | writeCache =>
    cases h
    rfl
  | respond =>
    cases h
    rfl
  | readCache => rw [(readCache_eq h).2]
  | safeMalloc31 =>
    obtain ⟨_, h⟩ := Option.ite_none_right_eq_some.mp h
    cases h
    rfl
  | getHLQs =>
    obtain ⟨_, h⟩ := Option.ite_none_right_eq_some.mp h
    cases h
    rfl

theorem printParmblocks_freesNothing (parmblocks : Pointer) (letters : List Char) (i : Nat) :
    (printParmblocks parmblocks letters i).Asks FreesNothing := by
  induction letters generalizing i with
  | nil => exact .ret _
  | cons letter letters ih =>
    exact .ask_bind nofun fun _ => .ask_bind nofun fun _ => (ih _).bind fun _ => .ret _

theorem printEntries_freesNothing (entries : Pointer) (n i : Nat) :
    (printEntries entries n i).Asks FreesNothing := by
  induction n generalizing i with
  | zero => exact .ret _
  | succ n ih =>
    refine .ask_bind nofun fun entry => ?_
    cases entry with
    | none => exact (ih _).bind fun _ => .ret _
    | some address => exact .ask_bind nofun fun _ => (ih _).bind fun _ => .ret _

theorem makeHLQSet_freesNothing (request : HlqRequest) :
    (makeHLQSet request).Asks FreesNothing :=
  .ask_bind nofun fun _ => .ask_bind nofun fun _ => .ret _

/-- The end of a request. -/
def printHLQNames (cache : MetadataQueryCache) : HlqHandler Unit := do
  let csiResults ← printParmblocks cache.cachedCSIParmblocks hlqFirstChar 0
  let hlqSet ← hlqCall (.readSet cache.cachedHLQSet)
  let datasets ← printEntries hlqSet.entries hlqSet.length 0
  hlqCall (.writeCache cache)
  hlqCall (.respond (.object [("csiResults", .array csiResults), ("datasets", .array datasets)]))

theorem printHLQNames_freesNothing (cache : MetadataQueryCache) :
    (printHLQNames cache).Asks FreesNothing :=
  (printParmblocks_freesNothing _ _ _).bind fun _ => .ask_bind nofun fun _ =>
    (printEntries_freesNothing _ _ _).bind fun _ => .ask_bind nofun fun _ => .ask nofun

theorem deref_release {β : Type} {as : HlqBlock → Option β} {a : Addr} {x : β}
    (h : ({ w with storage := w.storage.release a } : HlqState).deref as p = some x) :
    w.deref as p = some x := by
  unfold HlqState.deref at h ⊢
  cases p with
  | none => cases h
  | some b =>
    by_cases hb : b = a
    · subst hb
      simp at h
    · simpa [Storage.get_release_ne _ hb] using h

/-- The parameter blocks of the cached array, where it is allocated. -/
def ParmblocksAt (w : HlqState) (parmblocks : Pointer) : Prop :=
  ∀ bs, w.deref HlqBlock.asParmblocks parmblocks = some bs → bs.length = 29

theorem ParmblocksAt.release {parmblocks : Pointer} (h : ParmblocksAt w parmblocks) (a : Addr) :
    ParmblocksAt { w with storage := w.storage.release a, freed := w.freed ++ [a] } parmblocks :=
  fun bs hbs => h bs (deref_release hbs)

/-- **The loop that frees** gives back an entry and a parameter block for each index, and comes to the
end of the parameter blocks with the thirtieth entry. -/
theorem freeEntries_clean (entries parmblocks : Pointer) (n i : Nat)
    (h : ParmblocksAt w parmblocks) :
    Clean w (freeEntries entries parmblocks n i) fun _ t =>
      t.freed.length = w.freed.length + 2 * n ∧ (n = 0 ∨ i + n ≤ 29) := by
  induction n generalizing w i with
  | zero => exact .ret ⟨rfl, .inl rfl⟩
  | succ n ih =>
    refine .ask_bind fun entry t ht hclean => ?_
    obtain ⟨rfl, xs, x, hxs, hx, rfl⟩ := HlqState.readAt_clean ht hclean
    refine .ask_bind fun data t ht hclean => ?_
    obtain ⟨rfl, _⟩ := HlqState.read_clean ht hclean
    refine .ask_bind fun _ t ht hclean => ?_
    obtain rfl := Option.some.inj ht
    rw [HlqState.free_clean hclean]
    refine .ask_bind fun parmblock t ht hclean => ?_
    obtain ⟨rfl, bs, b, hbs, hb, rfl⟩ := HlqState.readAt_clean ht hclean
    have hlength := h.release _ bs hbs
    have hi : i < bs.length := (List.getElem?_eq_some_iff.mp hb).1
    refine .ask_bind fun _ t ht hclean => ?_
    obtain rfl := Option.some.inj ht
    rw [HlqState.free_clean hclean]
    refine Leads.mono (ih (i + 1) ((h.release _).release _)) fun _ u hu hclean => ?_
    obtain ⟨hfreed, hend⟩ := hu hclean
    simp only [List.length_append, List.length_cons, List.length_nil] at hfreed
    exact ⟨by omega, .inr (by omega)⟩

/-- What a program that frees nothing leaves freed. -/
theorem Clean.freesNothing {p : HlqHandler α} (h : p.Asks FreesNothing) {freed : List Addr}
    (hfreed : w.freed = freed) : Clean w p fun _ t => t.freed = freed := by
  have hkept : Leads hlqStorage (fun _ => True) w p fun _ t => t.freed = freed :=
    h.keeps (fun _ _ _ _ hc hs ht => (freed_of_freesNothing hc ht).trans hs) hfreed
  exact hkept.mono fun _ _ ht _ => ht

/-- **A request that replaces** what is cached frees two blocks for each entry, and two more; and there
are no more than 29 entries. -/
theorem replaces_clean {request : HlqRequest} {set : Addr} {found : EntryDataSet} {entries : Addr}
    (hupdates : request.updatesCache = true) (hcache : w.cache.cachedHLQSet = some set)
    (hset : w.storage.get set = some (.set found)) (hentries : found.entries = some entries)
    (hparmblocks : ParmblocksAt w w.cache.cachedCSIParmblocks) :
    Clean w (respondWithHLQNames request) fun _ t =>
      t.freed.length = w.freed.length + 2 * found.length + 2 ∧ found.length ≤ 29 := by
  have hfreed : Clean w (freeCachedSet w.cache) fun _ t =>
      t.freed.length = w.freed.length + 2 * found.length + 2 ∧ found.length ≤ 29 := by
    refine .ask_bind fun answer t ht hclean => ?_
    obtain ⟨rfl, hderef⟩ := HlqState.read_clean ht hclean
    rw [hcache, HlqState.deref, Option.bind_some, hset] at hderef
    obtain rfl : found = answer := Option.some.inj hderef
    refine .bind_of (freeEntries_clean _ _ _ _ hparmblocks) fun _ t ⟨hlength, hend⟩ => ?_
    rw [hentries]
    refine .ask_bind fun _ u hu hclean => ?_
    obtain rfl := Option.some.inj hu
    rw [HlqState.free_clean hclean, hcache]
    refine Leads.ask fun _ v _ hv hclean => ?_
    obtain rfl := Option.some.inj hv
    rw [HlqState.free_clean hclean]
    simp only [List.length_append, List.length_cons, List.length_nil]
    omega
  refine .ask_bind fun cache t ht _ => ?_
  obtain ⟨rfl, hw⟩ := readCache_eq ht
  rw [hw]
  change Clean w (getHLQSet request w.cache >>= printHLQNames) _
  unfold getHLQSet
  rw [hcache, hupdates]
  change Clean w ((freeCachedSet w.cache >>= fun _ => makeHLQSet request) >>= printHLQNames) _
  rw [Program.bind_assoc]
  refine .bind_of hfreed fun _ t hlength => ?_
  refine .bind_of (.freesNothing (makeHLQSet_freesNothing request) rfl) fun cache u hu => ?_
  refine Leads.mono (Clean.freesNothing (printHLQNames_freesNothing cache) hu) fun _ v hv hclean => ?_
  have hfreed : v.freed = t.freed := hv hclean
  dsimp only
  rw [hfreed]
  exact hlength

/-- Without storage, nothing can be read of what is cached. -/
theorem start_clean (request : HlqRequest) (hcache : cache.cachedHLQSet.isSome = true) :
    Clean (HlqState.start cache) (respondWithHLQNames request) fun _ _ => False := by
  have hderef : ∀ {β : Type} (as : HlqBlock → Option β) (p : Pointer),
      (HlqState.start cache).deref as p = none := by
    intro β as p
    cases p <;> simp [HlqState.deref, HlqState.start]
  refine .ask_bind fun answer t ht _ => ?_
  obtain ⟨hanswer, hw⟩ := readCache_eq ht
  rw [hanswer, hw]
  obtain ⟨set, hset⟩ := Option.isSome_iff_exists.mp hcache
  change Clean _ (getHLQSet request cache >>= printHLQNames) _
  unfold getHLQSet
  rw [hset]
  cases hupdates : request.updatesCache with
  | true =>
    refine .ask_bind fun answer t ht hclean => ?_
    obtain ⟨_, hread⟩ := HlqState.read_clean ht hclean
    rw [hderef] at hread
    cases hread
  | false =>
    refine .ask_bind fun answer t ht hclean => ?_
    obtain ⟨_, _, _, hread, _⟩ := HlqState.readAt_clean ht hclean
    rw [hderef] at hread
    cases hread

/-! ## What is kept -/

/-- The cached set and parameter blocks are allocated, with all that they lead to. -/
structure HoldsHlqs (storage : Storage HlqBlock) (cache : MetadataQueryCache)
    (entries parmblocks : List Addr) : Prop where
  set : ∃ a b, cache.cachedHLQSet = some a ∧
    storage.get a = some (.set ⟨some b, entries.length⟩) ∧ storage.get b = some (.entries entries)
  entry : ∀ a ∈ entries, ∃ e, storage.get a = some (.entry e)
  array : ∃ a, cache.cachedCSIParmblocks = some a ∧ storage.get a = some (.parmblocks parmblocks)
  length : parmblocks.length = 29
  parmblock : ∀ a ∈ parmblocks, ∃ x, storage.get a = some (.parmblock x)

/-- The service between requests, once one was answered. -/
def HlqState.Kept (w : HlqState) : Prop :=
  w.faults = [] ∧ ∃ entries parmblocks, HoldsHlqs w.storage w.cache entries parmblocks

variable {allowed : Event hlqCalls → Prop}

theorem HlqState.read_eq [DecidableEq α] {as : HlqBlock → Option α} {answer x : α}
    (hderef : w.deref as p = some x) (h : w.read as p answer = some w') : answer = x ∧ w' = w := by
  unfold read at h
  rw [hderef] at h
  obtain ⟨heq, h⟩ := Option.ite_none_right_eq_some.mp h
  exact ⟨heq, (Option.some.inj h).symm⟩

theorem HlqState.readAt_eq {as : HlqBlock → Option (List Addr)} {answer : Pointer}
    {xs : List Addr} {x : Addr} (hderef : w.deref as p = some xs) (hx : xs[i]? = some x)
    (h : w.readAt as p i answer = some w') : answer = some x ∧ w' = w := by
  unfold readAt at h
  rw [hderef] at h
  dsimp only at h
  rw [hx] at h
  obtain ⟨heq, h⟩ := Option.ite_none_right_eq_some.mp h
  exact ⟨heq, (Option.some.inj h).symm⟩

theorem deref_some {β : Type} (as : HlqBlock → Option β) {a : Addr} {block : HlqBlock} {x : β}
    (hget : w.storage.get a = some block) (has : as block = some x) :
    w.deref as (some a) = some x := by
  rw [HlqState.deref, Option.bind_some, hget, Option.bind_some, has]

theorem printParmblocks_leads {parmblocks : Pointer} {bs : List Addr}
    (hderef : w.deref HlqBlock.asParmblocks parmblocks = some bs)
    (hall : ∀ a ∈ bs, ∃ x, w.storage.get a = some (.parmblock x)) (letters : List Char) (i : Nat)
    (hi : i + letters.length ≤ bs.length) :
    Leads hlqStorage allowed w (printParmblocks parmblocks letters i) fun _ t => t = w := by
  induction letters generalizing i with
  | nil => exact .ret rfl
  | cons letter letters ih =>
    rw [List.length_cons] at hi
    have hb := List.getElem?_eq_getElem (show i < bs.length by omega)
    refine .ask_bind fun parmblock t _ ht => ?_
    obtain ⟨rfl, hw⟩ := HlqState.readAt_eq hderef hb ht
    rw [hw]
    obtain ⟨x, hx⟩ := hall _ (List.getElem_mem _)
    refine .ask_bind fun returnParms t _ ht => ?_
    obtain ⟨-, hw⟩ := HlqState.read_eq (deref_some HlqBlock.asParmblock hx rfl) ht
    rw [hw]
    exact .bind_of (ih (i + 1) (by omega)) fun _ t ht => .ret ht

theorem printEntries_leads {entries : Pointer} {as : List Addr}
    (hderef : w.deref HlqBlock.asEntries entries = some as)
    (hall : ∀ a ∈ as, ∃ e, w.storage.get a = some (.entry e)) (n i : Nat) (hi : i + n ≤ as.length) :
    Leads hlqStorage allowed w (printEntries entries n i) fun _ t => t = w := by
  induction n generalizing i with
  | zero => exact .ret rfl
  | succ n ih =>
    have ha := List.getElem?_eq_getElem (show i < as.length by omega)
    refine .ask_bind fun entry t _ ht => ?_
    obtain ⟨rfl, hw⟩ := HlqState.readAt_eq hderef ha ht
    rw [hw]
    obtain ⟨x, hx⟩ := hall _ (List.getElem_mem _)
    refine .ask_bind fun data t _ ht => ?_
    obtain ⟨-, hw⟩ := HlqState.read_eq (deref_some HlqBlock.asEntry hx rfl) ht
    rw [hw]
    change Leads hlqStorage allowed w
      (printEntries entries n (i + 1) >>= fun rest => .ret (hlqEntryJson data ++ rest)) _
    exact .bind_of (ih (i + 1) (by omega)) fun _ t ht => .ret ht

/-- **Printing** what is held reads it, and caches it. -/
theorem printHLQNames_leads {entries parmblocks : List Addr}
    (h : HoldsHlqs w.storage cache entries parmblocks) :
    Leads hlqStorage allowed w (printHLQNames cache) fun _ t => t = { w with cache } := by
  obtain ⟨a, b, ha, hset, hentries⟩ := h.set
  obtain ⟨c, hc, harray⟩ := h.array
  have hparmblocks : w.deref HlqBlock.asParmblocks cache.cachedCSIParmblocks = some parmblocks := by
    rw [hc]
    exact deref_some HlqBlock.asParmblocks harray rfl
  refine .bind_of (printParmblocks_leads hparmblocks h.parmblock hlqFirstChar 0
    (Nat.le_of_eq h.length.symm)) ?_
  rintro _ _ rfl
  refine .ask_bind fun set t _ ht => ?_
  have hderef := deref_some HlqBlock.asSet hset rfl
  rw [← ha] at hderef
  obtain ⟨rfl, hw⟩ := HlqState.read_eq hderef ht
  rw [hw]
  refine .bind_of (printEntries_leads (deref_some HlqBlock.asEntries hentries rfl) h.entry _ 0
    (Nat.le_of_eq (Nat.zero_add _))) ?_
  rintro _ _ rfl
  refine .ask_bind fun _ t _ ht => ?_
  obtain rfl := Option.some.inj ht
  exact Leads.ask fun _ t _ ht => (Option.some.inj ht).symm

theorem holdsHlqs_withHlqs {hlqs : Hlqs} {array : Addr}
    (hlength : hlqs.parmblocks.length = hlqFirstChar.length)
    (hset : hlqs.set = w.storage.fresh + hlqs.parmblocks.length + hlqs.entries.length + 1)
    (harray : w.storage.get array = some (.parmblocks [])) :
    HoldsHlqs (w.withHlqs hlqs array) ⟨some hlqs.set, some array⟩
      (List.range' (w.storage.fresh + hlqs.parmblocks.length) hlqs.entries.length)
      (List.range' w.storage.fresh hlqs.parmblocks.length) := by
  unfold HlqState.withHlqs
  dsimp only
  generalize hparmblocks : w.storage.obtainAll (hlqs.parmblocks.map HlqBlock.parmblock) = parmblocks
  have hfresh : parmblocks.fresh = w.storage.fresh + hlqs.parmblocks.length := by
    rw [← hparmblocks, Storage.fresh_obtainAll, List.length_map]
  have harray' : parmblocks.get array = some (.parmblocks []) := by
    rw [← hparmblocks]
    exact Storage.get_obtainAll_of_get harray _
  generalize hfilled : parmblocks.modify array (fun _ => HlqBlock.parmblocks
    (List.range' w.storage.fresh hlqs.parmblocks.length)) = filled
  have hfreshFilled : filled.fresh = w.storage.fresh + hlqs.parmblocks.length := by
    rw [← hfilled, Storage.fresh_modify, hfresh]
  generalize hentries : filled.obtainAll (hlqs.entries.map HlqBlock.entry) = entries
  have hfreshEntries : entries.fresh =
      w.storage.fresh + hlqs.parmblocks.length + hlqs.entries.length := by
    rw [← hentries, Storage.fresh_obtainAll, List.length_map, hfreshFilled]
  -- what was obtained before the array of the entries and the set is still there
  have hkept : ∀ {a x} (xs : HlqBlock) (y : HlqBlock), filled.get a = some x →
      ((entries.obtain xs).obtain y).get a = some x := by
    intro a x xs y hx
    refine Storage.get_obtain_of_get (Storage.get_obtain_of_get ?_)
    rw [← hentries]
    exact Storage.get_obtainAll_of_get hx _
  rw [hfreshFilled]
  refine ⟨⟨_, _, rfl, ?_, Storage.get_obtain_of_get (Storage.get_obtain_fresh _ _)⟩, ?_,
    ⟨_, rfl, hkept _ _ ?_⟩, ?_, ?_⟩
  · rw [List.length_range', hset, ← hfreshEntries, ← Storage.fresh_obtain, Storage.get_obtain_fresh]
  · intro a ha
    obtain ⟨i, hi, rfl⟩ := List.mem_range'.mp ha
    refine ⟨hlqs.entries[i], Storage.get_obtain_of_get (Storage.get_obtain_of_get ?_)⟩
    rw [← hentries, ← hfreshFilled, Nat.one_mul]
    refine Storage.get_obtainAll ?_
    rw [List.getElem?_map, List.getElem?_eq_getElem hi]
    rfl
  · rw [← hfilled, Storage.get_modify_self, harray', Option.map_some]
  · rw [List.length_range', hlength]
    rfl
  · intro a ha
    obtain ⟨i, hi, rfl⟩ := List.mem_range'.mp ha
    refine ⟨hlqs.parmblocks[i], hkept _ _ ?_⟩
    have hlt := Storage.lt_fresh_of_live (Storage.live_of_get harray)
    have hne : w.storage.fresh + 1 * i ≠ array :=
      Nat.ne_of_gt (Nat.lt_of_lt_of_le hlt (Nat.le_add_right _ _))
    rw [← hfilled, Storage.get_modify_ne _ _ hne, ← hparmblocks, Nat.one_mul]
    refine Storage.get_obtainAll ?_
    rw [List.getElem?_map, List.getElem?_eq_getElem hi]
    rfl

/-- **What `getHLQs` has filled** is held. -/
theorem makeHLQSet_leads (request : HlqRequest) :
    Leads hlqStorage allowed w (makeHLQSet request) fun cache t =>
      t.faults = w.faults ∧ ∃ entries parmblocks, HoldsHlqs t.storage cache entries parmblocks := by
  refine .ask_bind fun array t _ ht => ?_
  obtain ⟨rfl, hobtained⟩ := Option.ite_none_right_eq_some.mp ht
  rw [← Option.some.inj hobtained]
  refine .ask_bind fun hlqs u _ hu => ?_
  obtain ⟨⟨hlength, hset⟩, hfilled⟩ := Option.ite_none_right_eq_some.mp hu
  rw [← Option.some.inj hfilled]
  refine .ret ⟨rfl, ?_⟩
  exact ⟨_, _, holdsHlqs_withHlqs hlength hset (Storage.get_obtain_fresh _ _)⟩

/-! ## One request after the other -/

variable {served : HlqServed}

theorem Leads.of_served {post : Unit → HlqState → Prop} (h : Leads hlqStorage (fun _ => True) w.begin
    (respondWithHLQNames served.request) post) (hstep : hlqService.step w served = some w') :
    post () w' :=
  h.of_runs served.runs (fun _ _ => trivial) hstep

theorem Clean.of_served {post : Unit → HlqState → Prop}
    (h : Clean w.begin (respondWithHLQNames served.request) post)
    (hstep : hlqService.step w served = some w') (hfaults : w'.faults = []) : post () w' :=
  Leads.of_served h hstep hfaults

/-- The first request finds an empty cache. -/
theorem kept_of_start (hcache : cache.cachedHLQSet = none)
    (hstep : hlqService.step (HlqState.start cache) served = some w') : w'.Kept := by
  have hkept : Leads hlqStorage (fun _ => True) (HlqState.start cache).begin
      (respondWithHLQNames served.request) fun _ t => t.Kept := by
    refine .ask_bind fun answer t _ ht => ?_
    obtain ⟨hanswer, hw⟩ := readCache_eq ht
    rw [hanswer, hw]
    change Leads _ _ _ (getHLQSet served.request cache >>= printHLQNames) _
    unfold getHLQSet
    rw [hcache]
    refine .bind_of (makeHLQSet_leads served.request) fun cache' u hu => ?_
    obtain ⟨hfaults, entries, parmblocks, hheld⟩ := hu
    refine (printHLQNames_leads hheld).mono fun _ v hv => ?_
    rw [hv]
    exact ⟨hfaults, entries, parmblocks, hheld⟩
  exact Leads.of_served hkept hstep

/-- A request that does not update the cache only reads it. -/
theorem kept_of_kept (h : w.Kept) (hupdates : served.request.updatesCache = false)
    (hstep : hlqService.step w served = some w') : w'.Kept := by
  obtain ⟨hfaults, entries, parmblocks, hheld⟩ := h
  have hkept : Leads hlqStorage (fun _ => True) w.begin (respondWithHLQNames served.request)
      fun _ t => t.Kept := by
    refine .ask_bind fun answer t _ ht => ?_
    obtain ⟨hanswer, hw⟩ := readCache_eq ht
    rw [hanswer, hw]
    obtain ⟨a, _, ha, _⟩ := hheld.set
    change Leads _ _ _ (getHLQSet served.request w.cache >>= printHLQNames) _
    unfold getHLQSet
    rw [ha, hupdates]
    change Leads hlqStorage _ w.begin (printHLQNames w.cache) _
    refine (printHLQNames_leads (w := w.begin) hheld).mono fun _ v hv => ?_
    rw [hv]
    exact ⟨hfaults, entries, parmblocks, hheld⟩
  exact Leads.of_served hkept hstep

/-- A request that updates a cache that holds something is not tidy: it does not free as much. -/
theorem not_tidyRequest (h : w.Kept) (hupdates : served.request.updatesCache = true)
    (hstep : hlqService.step w served = some w') : ¬ TidyRequest w served w' := by
  obtain ⟨_, entries, parmblocks, hheld⟩ := h
  obtain ⟨a, b, ha, hset, hentries⟩ := hheld.set
  obtain ⟨c, hc, harray⟩ := hheld.array
  intro tidy
  have hparmblocks : ParmblocksAt w.begin w.cache.cachedCSIParmblocks := by
    intro bs hbs
    rw [hc] at hbs
    obtain rfl : parmblocks = bs :=
      Option.some.inj ((deref_some HlqBlock.asParmblocks harray rfl).symm.trans hbs)
    exact hheld.length
  obtain ⟨hfreed, hend⟩ := Clean.of_served
    (replaces_clean (w := w.begin) hupdates ha hset rfl hparmblocks) hstep tidy.faultless
  have hperm := (tidy.freed ⟨by rw [ha]; rfl, hupdates⟩).length_eq
  have hcached : w.cached.length = entries.length + 32 := by
    unfold HlqState.cached
    rw [ha, deref_some HlqBlock.asSet hset rfl]
    dsimp only [Option.bind_some]
    rw [deref_some HlqBlock.asEntries hentries rfl, hc,
      deref_some HlqBlock.asParmblocks harray rfl]
    simp only [Option.toList_some, Option.getD_some, List.length_append, List.length_cons,
      List.length_nil, hheld.length]
    omega
  change w'.freed.length = 0 + 2 * entries.length + 2 at hfreed
  dsimp only at hend
  omega

/-- From a cache that holds something, requests are tidy exactly if none updates it. -/
theorem tidy_iff_of_kept {later : List HlqServed} (h : w.Kept)
    (hrun : hlqService.run w later = some w') :
    hlqService.Meets Tidy w later ↔ ∀ served ∈ later, served.request.updatesCache = false := by
  induction later generalizing w with
  | nil => exact iff_of_true trivial nofun
  | cons served later ih =>
    obtain ⟨t, ht, hrest⟩ := hlqService.run_cons_some hrun
    rw [List.forall_mem_cons]
    constructor
    · rintro ⟨tidy, hmeets⟩
      have hupdates : served.request.updatesCache = false :=
        Bool.eq_false_iff.mpr fun hupdates => not_tidyRequest h hupdates ht (tidy t ht)
      exact ⟨hupdates, (ih (kept_of_kept h hupdates ht) hrest).mp (hmeets t ht)⟩
    · rintro ⟨hupdates, hlater⟩
      refine ⟨fun u hu => ⟨(kept_of_kept h hupdates hu).1, fun hreplaces => ?_⟩, fun u hu => ?_⟩
      · rw [hreplaces.2] at hupdates
        cases hupdates
      · obtain rfl := Option.some.inj (ht.symm.trans hu)
        exact (ih (kept_of_kept h hupdates hu) hrest).mpr hlater

/-- The first request is tidy only from an empty cache. -/
theorem empty_of_tidy (hstep : hlqService.step (HlqState.start cache) served = some w')
    (tidy : Tidy (HlqState.start cache) served) : cache.cachedHLQSet = none := by
  by_contra hsome
  have hnever := start_clean served.request (Option.isSome_iff_ne_none.mpr hsome)
  exact Clean.of_served (w := HlqState.start cache) hnever hstep (tidy w' hstep).faultless

theorem neverReplaced_of_tidy {requests : List HlqServed}
    (hrun : hlqService.run (HlqState.start cache) requests = some w)
    (hmeets : hlqService.Meets Tidy (HlqState.start cache) requests) :
    NeverReplaced cache requests := by
  cases requests with
  | nil => trivial
  | cons first later =>
    obtain ⟨t, ht, hrest⟩ := hlqService.run_cons_some hrun
    have hcache := empty_of_tidy ht hmeets.1
    exact ⟨hcache, (tidy_iff_of_kept (kept_of_start hcache ht) hrest).mp (hmeets.2 t ht)⟩

/-- **Requests are tidy** exactly if the cache is empty at first and never replaced. -/
theorem tidy_iff {cache : MetadataQueryCache} {requests : List HlqServed}
    (hrun : hlqService.run (HlqState.start cache) requests = some w) :
    hlqService.Meets Tidy (HlqState.start cache) requests ↔ NeverReplaced cache requests := by
  refine ⟨neverReplaced_of_tidy hrun, fun hnever => ?_⟩
  cases requests with
  | nil => trivial
  | cons first later =>
    obtain ⟨t, ht, hrest⟩ := hlqService.run_cons_some hrun
    obtain ⟨hcache, hlater⟩ := hnever
    refine ⟨fun u hu => ⟨(kept_of_start hcache hu).1, fun hreplaces => ?_⟩, fun u hu => ?_⟩
    · have hsome := hreplaces.1
      rw [show (HlqState.start cache).cache.cachedHLQSet = none from hcache] at hsome
      cases hsome
    · obtain rfl := Option.some.inj (ht.symm.trans hu)
      exact (tidy_iff_of_kept (kept_of_start hcache hu) hrest).mpr hlater

/-! ## A sample -/

/-- What is answered to a request where there are no entries; `base` is the next address. -/
def sampleHlqAnswers (cache : MetadataQueryCache) (base : Addr) : (c : HlqCall) → c.Answer
  | .readCache => cache
  | .writeCache _ => ()
  | .readSet set => ⟨set.map (· - 1), 0⟩
  | .entryAt .. => none
  | .readEntry _ => ⟨[], ⟨'A', none⟩⟩
  | .parmblockAt _ i => some (base + 1 + i)
  | .readParmblock _ => ⟨'N', [], []⟩
  | .safeMalloc31 => base
  | .getHLQs .. => ⟨base + 31, List.replicate 29 ⟨'N', [], []⟩, []⟩
  | .safeFree _ => ()
  | .respond _ => ()

def sampleHlqServed (updateCache : Option Text) (cache : MetadataQueryCache) (base : Addr) :
    HlqServed where
  request := ⟨updateCache, none, none⟩
  events := ((respondWithHLQNames ⟨updateCache, none, none⟩).exec (sampleHlqAnswers cache base)).1
  runs := Program.runs_exec _ _

/-- A request to an empty cache, then one that reads it. -/
theorem tidy_iff_sample : ∃ w, hlqService.run (HlqState.start ⟨none, none⟩)
      [sampleHlqServed none ⟨none, none⟩ 0, sampleHlqServed none ⟨some 31, some 0⟩ 0] = some w ∧
    (hlqService.Meets Tidy (HlqState.start ⟨none, none⟩)
        [sampleHlqServed none ⟨none, none⟩ 0, sampleHlqServed none ⟨some 31, some 0⟩ 0] ↔
      NeverReplaced ⟨none, none⟩
        [sampleHlqServed none ⟨none, none⟩ 0, sampleHlqServed none ⟨some 31, some 0⟩ 0]) :=
  ⟨_, rfl, tidy_iff rfl⟩

/-- A cache that held a stray address is used as it is; and a request that updates the cache leaves the
parameter blocks of the last one where they are. -/
theorem hlq_cache_untidy :
    (∃ w, hlqService.run (HlqState.start ⟨some 7, some 8⟩)
        [sampleHlqServed none ⟨some 7, some 8⟩ 0] = some w ∧
      ¬ hlqService.Meets Tidy (HlqState.start ⟨some 7, some 8⟩)
        [sampleHlqServed none ⟨some 7, some 8⟩ 0]) ∧
    ∃ w, hlqService.run (HlqState.start ⟨none, none⟩)
        [sampleHlqServed none ⟨none, none⟩ 0,
          sampleHlqServed (some ['t', 'r', 'u', 'e']) ⟨some 31, some 0⟩ 32] = some w ∧
      ¬ hlqService.Meets Tidy (HlqState.start ⟨none, none⟩)
        [sampleHlqServed none ⟨none, none⟩ 0,
          sampleHlqServed (some ['t', 'r', 'u', 'e']) ⟨some 31, some 0⟩ 32] := by
  refine ⟨⟨_, rfl, fun hmeets => ?_⟩, ⟨_, rfl, fun hmeets => ?_⟩⟩
  · cases (neverReplaced_of_tidy rfl hmeets).1
  · cases (neverReplaced_of_tidy rfl hmeets).2 _ (List.mem_singleton.mpr rfl)

end Zss.Datasets
