import Mathlib.Data.Char
import Mathlib.Data.List.DropRight
import Mathlib.Data.List.Lex
import Zss.Lib.Loop
import Zss.Lib.Paging
import Zss.Security.AccessLists

/-!
# The profiles with a prefix

`getProfilesByPrefixOrFail` in `securityService.c`. It asks for the profiles from the prefix on, a
page of a thousand at a time, keeps those that have the prefix, and begins the next page with the
last profile of the page before. The kept profiles are in a buffer that is doubled when it is full.

The sizes of the buffers are unsigned words, and a null buffer is not looked for: where a copy or a
profile does not fit into the storage that was given, the model has no result.

## What is not established

The population is one and the same for all pages (`Serves`). What is listed where profiles come and
go between two pages is not said, and neither is how many pages it takes.
-/

namespace Zss.Security

open Zss.Lib
open Zss.Zis (rcZisSrvcOk)

/-! ## Constants and data -/

def zisGenresProfileEntrySize : Nat := 263
def genresProfileMaxCount : Nat := 1000
def defaultTeamProfileCount : Nat := 128

/-- An unsigned word. -/
def word (n : Nat) : Nat := n % 4294967296

/-- `ZISGenresProfileEntry`. -/
structure ProfileEntry where
  profile : Text
  owner : Text
  /-- The name fills its field. -/
  full : profile.length = zisSecurityProfileMaxLength
deriving DecidableEq

/-- A name in its field. -/
def padded (name : Text) : Text :=
  name ++ List.replicate (zisSecurityProfileMaxLength - name.length) ' '

/-- What is asked of the surroundings: whether an allocation by its number and its size is given;
the return code of an extraction by its number, and what one stores for a start profile and a size;
and the end of a text at its blanks. -/
structure ProfilesEnv where
  slhAlloc : Nat → Nat → Bool
  extractRC : Nat → Int
  extract : Text → Nat → List ProfileEntry
  nullTerminate : Text → Text

/-- The variables of the function, with the numbers of the next extraction and allocation. -/
structure PrefixState where
  calls : Nat
  allocations : Nat
  startProfile : Text
  resultBufferCapacity : Nat
  resultBufferSize : Nat
  resultBuffer : Bool
  profilesFound : List ProfileEntry

/-- What the function returns and leaves in `profileCount`, and the return code it responds with. -/
structure PrefixResult where
  resultBuffer : Option (List ProfileEntry)
  profileCount : Nat
  zisError : Option Int
deriving DecidableEq

/-! ## The function -/

section

variable (env : ProfilesEnv)

/-- A buffer of twice the capacity, where the buffer is full. -/
def growBuffer (s : PrefixState) : Option PrefixState :=
  if s.resultBufferCapacity < s.profilesFound.length + 1 then
    let capacity := word (s.resultBufferCapacity * 2)
    let newBufferSize := word (capacity * zisGenresProfileEntrySize)
    let newBuffer := env.slhAlloc s.allocations newBufferSize
    -- what was found is copied, into a null buffer too
    if newBuffer ∧ zisGenresProfileEntrySize * s.profilesFound.length ≤ newBufferSize then
      some { s with
        allocations := s.allocations + 1
        resultBufferCapacity := capacity
        resultBufferSize := newBufferSize
        resultBuffer := newBuffer }
    else none
  else some s

/-- A profile of the page. -/
def storeProfile (profilePrefix : Text) (s : PrefixState) (entry : ProfileEntry) :
    Option PrefixState :=
  if profilePrefix.isPrefixOf entry.profile then
    (growBuffer env s).bind fun s =>
      if s.resultBuffer ∧
          zisGenresProfileEntrySize * (s.profilesFound.length + 1) ≤ s.resultBufferSize then
        some { s with profilesFound := s.profilesFound ++ [entry] }
      else none
  else some s

/-- The profiles of a page that are processed: all of the last one, else all but the last. -/
def profilesToProcess (workBuffer : List ProfileEntry) : List ProfileEntry :=
  if workBuffer.length < genresProfileMaxCount then workBuffer
  else workBuffer.take (genresProfileMaxCount - 1)

/-- A round of the loop. -/
def extractRound (profilePrefix : Text) (s : PrefixState) :
    PrefixState ⊕ Option PrefixResult :=
  let workBuffer := env.extract s.startProfile genresProfileMaxCount
  if env.extractRC s.calls ≠ rcZisSrvcOk then .inr (some ⟨none, 0, some (env.extractRC s.calls)⟩)
  else
    match (profilesToProcess workBuffer).foldlM (storeProfile env profilePrefix) s with
    | none => .inr none
    | some s =>
      match workBuffer[genresProfileMaxCount - 1]? with
      | none =>
        .inr (some ⟨if s.resultBuffer then some s.profilesFound else none, s.profilesFound.length,
          none⟩)
      | some last =>
        .inl { s with calls := s.calls + 1, startProfile := env.nullTerminate last.profile }

/-- The state before the loop. -/
def PrefixState.start (profilePrefix : Text) : PrefixState :=
  let size := word (defaultTeamProfileCount * zisGenresProfileEntrySize)
  { calls := 0
    allocations := 1
    startProfile := profilePrefix
    resultBufferCapacity := defaultTeamProfileCount
    resultBufferSize := size
    resultBuffer := env.slhAlloc 0 size
    profilesFound := [] }

/-- `getProfilesByPrefixOrFail`, with so many rounds at most. -/
def getProfilesByPrefixOrFail (profilePrefix : Text) (profileCount : Nat) (rounds : Nat) :
    Option (Option PrefixResult) :=
  if profilePrefix.length > zisSecurityProfileMaxLength then some (some ⟨none, profileCount, none⟩)
  else loop (extractRound env profilePrefix) rounds (.start env profilePrefix)

end

/-! ## The service -/

/-- The service lists the profiles in their order, and the end of a name at its blanks loses
nothing. -/
structure Serves (before : Text → Text → Prop) [DecidableRel before]
    (profiles : List ProfileEntry) (env : ProfilesEnv) : Prop where
  ordered : InOrder before ProfileEntry.profile profiles
  extract : ∀ startProfile size, 2 ≤ size →
    env.extract startProfile size =
      page before ProfileEntry.profile (padded startProfile) size profiles
  nullTerminate : ∀ entry : ProfileEntry, padded (env.nullTerminate entry.profile) = entry.profile

/-- The profiles with a prefix. -/
def withPrefix (profilePrefix : Text) (profiles : List ProfileEntry) : List ProfileEntry :=
  profiles.filter fun entry => profilePrefix.isPrefixOf entry.profile

/-- So many profiles can be kept: there is storage for each buffer that they take, and the size of
the last is a word. The first buffer is also needed by an empty list that is returned. -/
structure HasStorage (env : ProfilesEnv) (count : Nat) (returned : Bool) : Prop where
  few : count ≤ 8388608
  first : 0 < count ∨ returned = true →
    env.slhAlloc 0 (defaultTeamProfileCount * zisGenresProfileEntrySize) = true
  next : ∀ i, defaultTeamProfileCount * 2 ^ i < count →
    env.slhAlloc (i + 1)
      (defaultTeamProfileCount * 2 ^ (i + 1) * zisGenresProfileEntrySize) = true

section

variable (before : Text → Text → Prop) [DecidableRel before]
  (profiles : List ProfileEntry) (env : ProfilesEnv) (profilePrefix : Text)

/-- The profiles that are not before the prefix. -/
def listing : List ProfileEntry :=
  onwards before ProfileEntry.profile (padded profilePrefix) profiles

/-- The number of the last extraction. -/
def lastCall (count : Nat) : Nat := (count - 1) / (genresProfileMaxCount - 1)

/-- The number of the first extraction that fails. -/
def failing : Option Nat :=
  (List.range (lastCall (listing before profiles profilePrefix).length + 1)).find? fun k =>
    env.extractRC k ≠ rcZisSrvcOk

/-- The profiles of the pages before that. -/
def processed : List ProfileEntry :=
  match failing before profiles env profilePrefix with
  | some k => (listing before profiles profilePrefix).take ((genresProfileMaxCount - 1) * k)
  | none => listing before profiles profilePrefix

/-- The function comes to an end within its buffers: with the profiles that have the prefix, each
once and in order, or, where an extraction fails, with none, a count of zero and an error. -/
def ListsPrefix (profileCount : Nat) : Prop :=
  ∃ rounds result,
    getProfilesByPrefixOrFail env profilePrefix profileCount rounds = some (some result) ∧
      match failing before profiles env profilePrefix with
      | some k => result = ⟨none, 0, some (env.extractRC k)⟩
      | none =>
        result = ⟨some (withPrefix profilePrefix profiles),
          (withPrefix profilePrefix profiles).length, none⟩

end

/-! ## The buffer -/

/-- The buffer after so many profiles: its capacity is doubled from the default as often as they
take. -/
structure Grown (env : ProfilesEnv) (s : PrefixState) (i : Nat) : Prop where
  allocations : s.allocations = i + 1
  capacity : s.resultBufferCapacity = defaultTeamProfileCount * 2 ^ i
  size : s.resultBufferSize = s.resultBufferCapacity * zisGenresProfileEntrySize
  given : s.resultBuffer = env.slhAlloc i s.resultBufferSize
  holds : s.profilesFound.length ≤ s.resultBufferCapacity
  taken : i = 0 ∨ defaultTeamProfileCount * 2 ^ (i - 1) < s.profilesFound.length
  few : i ≤ 16

section

variable {env : ProfilesEnv}

theorem HasStorage.mono {count count' : Nat} {returned : Bool}
    (storage : HasStorage env count returned) (le : count' ≤ count) :
    HasStorage env count' false :=
  ⟨le.trans storage.few, fun h => storage.first (.inl (by simp at h; omega)),
    fun i h => storage.next i (by omega)⟩

theorem word_of_lt {n : Nat} (h : n < 4294967296) : word n = n := Nat.mod_eq_of_lt h

theorem hasStorage_iff {count : Nat} {returned : Bool} :
    HasStorage env count returned ↔ HasStorage env count false ∧ (returned = true →
      env.slhAlloc 0 (defaultTeamProfileCount * zisGenresProfileEntrySize) = true) := by
  constructor
  · exact fun storage => ⟨storage.mono (le_refl count), fun h => storage.first (.inr h)⟩
  · rintro ⟨storage, first⟩
    refine ⟨storage.few, fun h => ?_, storage.next⟩
    rcases h with positive | h
    · exact storage.first (.inl positive)
    · exact first h

theorem grown_start (profilePrefix : Text) : Grown env (.start env profilePrefix) 0 where
  allocations := rfl
  capacity := by simp [PrefixState.start]
  size := word_of_lt (by decide)
  given := by simp only [PrefixState.start]
  holds := Nat.zero_le _
  taken := .inl rfl
  few := Nat.zero_le _

/-- Storage for one more, in a buffer that is not full: it is the buffer that must be there. -/
theorem Grown.hasStorage_iff {s : PrefixState} {i : Nat} (grown : Grown env s i)
    (storage : HasStorage env s.profilesFound.length false)
    (room : s.profilesFound.length + 1 ≤ s.resultBufferCapacity) :
    HasStorage env (s.profilesFound.length + 1) false ↔ s.resultBuffer = true := by
  obtain ⟨_, capacity, size, given, _, taken, few⟩ := grown
  have small : 2 ^ i ≤ 2 ^ 16 := Nat.pow_le_pow_right (by omega) few
  have default : defaultTeamProfileCount = 128 := rfl
  rw [given, size, capacity]
  rw [capacity, default] at room
  constructor
  · intro more
    cases i with
    | zero => exact more.first (.inl (Nat.succ_pos _))
    | succ j =>
      refine more.next j ?_
      rcases taken with h | h
      · cases h
      · exact Nat.lt_succ_of_lt h
  · intro buffer
    refine ⟨by omega, fun _ => ?_, fun j hj => ?_⟩
    · rcases taken with rfl | h
      · exact buffer
      · exact storage.first (.inl (Nat.zero_lt_of_lt h))
    · have below : j < i := by
        by_contra hle
        have := Nat.pow_le_pow_right (n := 2) (by omega) (Nat.le_of_not_lt hle)
        rw [default] at hj
        omega
      rcases taken with rfl | h
      · cases below
      · have := Nat.pow_le_pow_right (n := 2) (by omega) (Nat.le_sub_one_of_lt below)
        refine storage.next j (lt_of_le_of_lt ?_ h)
        exact Nat.mul_le_mul_left _ this

variable {s : PrefixState} {k : Nat}

/-- Storage for one more, where the buffer is full: it is the next one that must be there, and its
size that must be a word. -/
theorem Grown.hasStorage_full_iff {i : Nat} (grown : Grown env s i)
    (storage : HasStorage env s.profilesFound.length false)
    (full : s.resultBufferCapacity < s.profilesFound.length + 1) :
    HasStorage env (s.profilesFound.length + 1) false ↔
      i ≤ 15 ∧ env.slhAlloc (i + 1)
        (defaultTeamProfileCount * 2 ^ (i + 1) * zisGenresProfileEntrySize) = true := by
  obtain ⟨_, capacity, _, _, holds, _, few⟩ := grown
  have default : defaultTeamProfileCount = 128 := rfl
  have count : s.profilesFound.length = defaultTeamProfileCount * 2 ^ i := by
    rw [← capacity]
    omega
  have positive : 0 < 2 ^ i := Nat.two_pow_pos i
  constructor
  · intro more
    refine ⟨?_, more.next i (by omega)⟩
    by_contra large
    have last : i = 16 := by omega
    have := more.few
    rw [count, last, default] at this
    exact absurd this (by decide)
  · rintro ⟨below, next⟩
    rw [default] at count
    have small : 2 ^ i ≤ 2 ^ 15 := Nat.pow_le_pow_right (by omega) below
    refine ⟨by omega, fun _ => storage.first (.inl (by omega)), fun j hj => ?_⟩
    rcases Nat.lt_trichotomy j i with hlt | rfl | hgt
    · have := Nat.pow_lt_pow_right (a := 2) (by omega) hlt
      exact storage.next j (by rw [default]; omega)
    · exact next
    · have := Nat.pow_lt_pow_right (a := 2) (by omega) hgt
      rw [default] at hj
      omega

/-- **A profile more** is kept exactly if there is storage for so many. -/
theorem storeProfile_kept {profilePrefix : Text} {i : Nat} {entry : ProfileEntry}
    (grown : Grown env s i) (storage : HasStorage env s.profilesFound.length false)
    (matching : profilePrefix.isPrefixOf entry.profile = true) :
    (HasStorage env (s.profilesFound.length + 1) false → ∃ s' j,
      storeProfile env profilePrefix s entry = some s' ∧ Grown env s' j ∧
        s'.profilesFound = s.profilesFound ++ [entry] ∧ s'.calls = s.calls ∧
        s'.startProfile = s.startProfile) ∧
      (¬ HasStorage env (s.profilesFound.length + 1) false →
        storeProfile env profilePrefix s entry = none) := by
  have default : defaultTeamProfileCount = 128 := rfl
  have entrySize : zisGenresProfileEntrySize = 263 := rfl
  unfold storeProfile growBuffer
  rw [if_pos matching]
  by_cases full : s.resultBufferCapacity < s.profilesFound.length + 1
  · rw [if_pos full, grown.hasStorage_full_iff storage full]
    have capacity : s.resultBufferCapacity * 2 = defaultTeamProfileCount * 2 ^ (i + 1) := by
      rw [grown.capacity, pow_succ, Nat.mul_assoc]
    have positive : 0 < s.resultBufferCapacity := by
      rw [grown.capacity]
      exact Nat.mul_pos (by decide) (Nat.two_pow_pos i)
    have few := grown.few
    have holds := grown.holds
    by_cases below : i ≤ 15
    · have small : 2 ^ (i + 1) ≤ 2 ^ 16 := Nat.pow_le_pow_right (by omega) (by omega)
      have doubled : word (s.resultBufferCapacity * 2) =
          defaultTeamProfileCount * 2 ^ (i + 1) := by
        rw [capacity]
        exact word_of_lt (by rw [default]; omega)
      have sized : word (defaultTeamProfileCount * 2 ^ (i + 1) * zisGenresProfileEntrySize) =
          defaultTeamProfileCount * 2 ^ (i + 1) * zisGenresProfileEntrySize :=
        word_of_lt (by rw [default, entrySize]; omega)
      have fits : zisGenresProfileEntrySize * (s.profilesFound.length + 1) ≤
          defaultTeamProfileCount * 2 ^ (i + 1) * zisGenresProfileEntrySize := by
        rw [← capacity, Nat.mul_comm]
        exact Nat.mul_le_mul_right _ (by omega)
      have copied : zisGenresProfileEntrySize * s.profilesFound.length ≤
          defaultTeamProfileCount * 2 ^ (i + 1) * zisGenresProfileEntrySize :=
        le_trans (Nat.mul_le_mul_left _ (Nat.le_succ _)) fits
      dsimp only
      rw [doubled, sized, grown.allocations]
      constructor
      · rintro ⟨_, next⟩
        rw [if_pos ⟨next, copied⟩, Option.bind_some]
        refine ⟨_, i + 1, if_pos ⟨next, fits⟩, ?_, rfl, rfl, rfl⟩
        refine ⟨rfl, rfl, rfl, rfl, ?_, .inr ?_, by omega⟩
        · rw [List.length_append, List.length_singleton]
          dsimp only
          omega
        · rw [List.length_append, List.length_singleton, Nat.add_sub_cancel, ← grown.capacity]
          exact full
      · intro missing
        rw [if_neg fun h => missing ⟨below, h.1⟩, Option.bind_none]
    · -- the size of a buffer for 2 ^ 24 profiles is not a word
      refine ⟨fun h => absurd h.1 below, fun _ => ?_⟩
      have last : i = 16 := by omega
      have wrapped : word (word (s.resultBufferCapacity * 2) * zisGenresProfileEntrySize) =
          117440512 := by
        rw [capacity, last]
        decide
      have count : s.profilesFound.length = 8388608 := by
        have := grown.capacity
        rw [last, default] at this
        omega
      dsimp only
      rw [wrapped, count, entrySize, if_neg (by omega), Option.bind_none]
  · rw [if_neg full, grown.hasStorage_iff storage (Nat.le_of_not_lt full), Option.bind_some]
    have fits : zisGenresProfileEntrySize * (s.profilesFound.length + 1) ≤ s.resultBufferSize := by
      rw [grown.size, Nat.mul_comm]
      exact Nat.mul_le_mul_right _ (Nat.le_of_not_lt full)
    constructor
    · intro buffer
      refine ⟨_, i, if_pos ⟨buffer, fits⟩, ?_, rfl, rfl, rfl⟩
      obtain ⟨allocations, capacity, size, given, _, taken, few⟩ := grown
      refine ⟨allocations, capacity, size, given, ?_, ?_, few⟩
      · rw [List.length_append, List.length_singleton]
        exact Nat.le_of_not_lt full
      · rw [List.length_append, List.length_singleton]
        exact taken.imp_right Nat.lt_succ_of_lt
    · intro null
      exact if_neg fun h => null h.1

/-- **The profiles of a page** are kept exactly if there is storage for those that have the
prefix. -/
theorem storeProfiles_kept (profilePrefix : Text) (entries : List ProfileEntry) {i : Nat}
    (grown : Grown env s i) (storage : HasStorage env s.profilesFound.length false) :
    (HasStorage env (s.profilesFound ++ withPrefix profilePrefix entries).length false → ∃ s' j,
      entries.foldlM (storeProfile env profilePrefix) s = some s' ∧ Grown env s' j ∧
        s'.profilesFound = s.profilesFound ++ withPrefix profilePrefix entries ∧
        s'.calls = s.calls ∧ s'.startProfile = s.startProfile) ∧
      (¬ HasStorage env (s.profilesFound ++ withPrefix profilePrefix entries).length false →
        entries.foldlM (storeProfile env profilePrefix) s = none) := by
  induction entries generalizing s i with
  | nil =>
    have none_left : s.profilesFound ++ withPrefix profilePrefix [] = s.profilesFound :=
      List.append_nil _
    rw [none_left]
    exact ⟨fun _ => ⟨s, i, rfl, grown, rfl, rfl, rfl⟩, fun missing => absurd storage missing⟩
  | cons entry entries ih =>
    rw [List.foldlM_cons]
    by_cases matching : profilePrefix.isPrefixOf entry.profile = true
    · have kept := storeProfile_kept grown storage matching
      have listed : s.profilesFound ++ withPrefix profilePrefix (entry :: entries) =
          (s.profilesFound ++ [entry]) ++ withPrefix profilePrefix entries := by
        simp [withPrefix, matching]
      rw [listed]
      by_cases more : HasStorage env (s.profilesFound.length + 1) false
      · obtain ⟨s', j, hs', grown', found, calls, startProfile⟩ := kept.1 more
        have storage' : HasStorage env s'.profilesFound.length false := by
          rw [found, List.length_append]
          exact more
        rw [hs', ← found, ← calls, ← startProfile]
        exact ih grown' storage'
      · rw [kept.2 more]
        refine ⟨fun all => absurd (all.mono ?_) more, fun _ => rfl⟩
        rw [List.length_append, List.length_append, List.length_singleton]
        exact Nat.le_add_right _ _
    · have listed : withPrefix profilePrefix (entry :: entries) =
          withPrefix profilePrefix entries := by
        simp [withPrefix, matching]
      have skipped : storeProfile env profilePrefix s entry = some s := if_neg matching
      rw [listed, skipped]
      exact ih grown storage

end

/-! ## The loop -/

section

variable {before : Text → Text → Prop} [DecidableRel before] {profiles : List ProfileEntry}
  {env : ProfilesEnv} {profilePrefix : Text}

/-- What is kept where an extraction is the first to fail, or none is. -/
theorem failing_some (last : k ≤ lastCall (listing before profiles profilePrefix).length)
    (failed : env.extractRC k ≠ rcZisSrvcOk) (first : ∀ j < k, env.extractRC j = rcZisSrvcOk) :
    failing before profiles env profilePrefix = some k := by
  unfold failing
  rw [List.find?_range_eq_some]
  exact ⟨by simpa using failed, List.mem_range.mpr (Nat.lt_succ_of_le last),
    fun j hj => by simpa using first j hj⟩

theorem failing_none
    (ok : ∀ j ≤ lastCall (listing before profiles profilePrefix).length,
      env.extractRC j = rcZisSrvcOk) :
    failing before profiles env profilePrefix = none := by
  unfold failing
  rw [List.find?_range_eq_none]
  exact fun j hj => by simpa using ok j (Nat.le_of_lt_succ hj)

/-- The pages whose extractions are OK are processed. -/
theorem take_processed {k : Nat} (ok : ∀ j < k, env.extractRC j = rcZisSrvcOk) :
    (withPrefix profilePrefix ((listing before profiles profilePrefix).take
      ((genresProfileMaxCount - 1) * k))).length ≤
      (withPrefix profilePrefix (processed before profiles env profilePrefix)).length := by
  have part : ((listing before profiles profilePrefix).take
      ((genresProfileMaxCount - 1) * k)).Sublist
        (processed before profiles env profilePrefix) := by
    unfold processed
    split
    next k' hfailing =>
      have failed := (List.find?_eq_some_iff_append.mp hfailing).1
      have le : k ≤ k' := by
        by_contra hlt
        simp [ok k' (by omega)] at failed
      exact (List.take_prefix_take_left (Nat.mul_le_mul_left _ le)).sublist
    next => exact List.take_sublist _ _
  exact (part.filter _).length_le

/-- The state before an extraction: the next page begins where the pages before end, and what has
the prefix in these is kept. -/
structure AtCall (before : Text → Text → Prop) [DecidableRel before] (profiles : List ProfileEntry)
    (env : ProfilesEnv) (profilePrefix : Text) (k : Nat) (s : PrefixState) : Prop where
  calls : s.calls = k
  next : onwards before ProfileEntry.profile (padded s.startProfile) profiles =
    (listing before profiles profilePrefix).drop ((genresProfileMaxCount - 1) * k)
  found : s.profilesFound = withPrefix profilePrefix
    ((listing before profiles profilePrefix).take ((genresProfileMaxCount - 1) * k))
  grown : ∃ i, Grown env s i
  storage : HasStorage env s.profilesFound.length false
  ok : ∀ j < k, env.extractRC j = rcZisSrvcOk
  last : k ≤ lastCall (listing before profiles profilePrefix).length

/-- What the function returns where there is storage. -/
def listed (before : Text → Text → Prop) [DecidableRel before] (profiles : List ProfileEntry)
    (env : ProfilesEnv) (profilePrefix : Text) : PrefixResult :=
  match failing before profiles env profilePrefix with
  | some k => ⟨none, 0, some (env.extractRC k)⟩
  | none =>
    let found := withPrefix profilePrefix (listing before profiles profilePrefix)
    ⟨if env.slhAlloc 0 (defaultTeamProfileCount * zisGenresProfileEntrySize) then some found
      else none, found.length, none⟩

/-- The page an extraction stores. -/
theorem AtCall.page (serves : Serves before profiles env)
    (at_call : AtCall before profiles env profilePrefix k s) :
    env.extract s.startProfile genresProfileMaxCount =
      ((listing before profiles profilePrefix).drop ((genresProfileMaxCount - 1) * k)).take
        genresProfileMaxCount := by
  rw [serves.extract _ _ (by decide), Zss.Lib.page, at_call.next]

/-- The first buffer is there exactly if the present one is. -/
theorem Grown.buffer {s : PrefixState} {i : Nat} (grown : Grown env s i)
    (storage : HasStorage env s.profilesFound.length false) :
    s.resultBuffer = env.slhAlloc 0 (defaultTeamProfileCount * zisGenresProfileEntrySize) := by
  have given := grown.given
  rw [grown.size, grown.capacity] at given
  cases i with
  | zero => simpa using given
  | succ j =>
    have taken : defaultTeamProfileCount * 2 ^ j < s.profilesFound.length := by
      simpa using grown.taken
    rw [given, storage.next j taken, storage.first (.inl (Nat.zero_lt_of_lt taken))]

/-- An extraction that fails. -/
theorem round_failed (at_call : AtCall before profiles env profilePrefix k s)
    (failed : env.extractRC k ≠ rcZisSrvcOk) :
    extractRound env profilePrefix s =
        .inr (some (listed before profiles env profilePrefix)) ∧
      HasStorage env (withPrefix profilePrefix
        (processed before profiles env profilePrefix)).length false := by
  have first := failing_some at_call.last failed at_call.ok
  constructor
  · unfold extractRound listed
    rw [first, at_call.calls]
    exact if_pos failed
  · have storage := at_call.storage
    rw [at_call.found] at storage
    unfold processed
    rw [first]
    exact storage

/-- The last extraction. -/
theorem round_last (serves : Serves before profiles env)
    (at_call : AtCall before profiles env profilePrefix k s) (ok : env.extractRC k = rcZisSrvcOk)
    (short : (listing before profiles profilePrefix).length <
      (genresProfileMaxCount - 1) * k + genresProfileMaxCount) :
    (HasStorage env (withPrefix profilePrefix
        (processed before profiles env profilePrefix)).length false →
      extractRound env profilePrefix s =
        .inr (some (listed before profiles env profilePrefix))) ∧
      (¬ HasStorage env (withPrefix profilePrefix
        (processed before profiles env profilePrefix)).length false →
        extractRound env profilePrefix s = .inr none) := by
  have maxCount : genresProfileMaxCount = 1000 := rfl
  obtain ⟨i, grown⟩ := at_call.grown
  have page := at_call.page serves
  have all_ok : ∀ j ≤ lastCall (listing before profiles profilePrefix).length,
      env.extractRC j = rcZisSrvcOk := by
    intro j hj
    have last : k ≤ ((listing before profiles profilePrefix).length - 1) / 999 := at_call.last
    have hj : j ≤ ((listing before profiles profilePrefix).length - 1) / 999 := hj
    have short : (listing before profiles profilePrefix).length < 999 * k + 1000 := short
    rcases Nat.lt_or_ge j k with hlt | hge
    · exact at_call.ok j hlt
    · have same : j = k := by omega
      rw [same, ok]
  have none_fails : failing before profiles env profilePrefix = none := failing_none all_ok
  set all := listing before profiles profilePrefix with hall
  have rest : (all.drop ((genresProfileMaxCount - 1) * k)).length < genresProfileMaxCount := by
    rw [List.length_drop]
    omega
  rw [List.take_of_length_le (Nat.le_of_lt rest)] at page
  have all_found : s.profilesFound ++ withPrefix profilePrefix
      (all.drop ((genresProfileMaxCount - 1) * k)) = withPrefix profilePrefix all := by
    rw [at_call.found, withPrefix, withPrefix, ← List.filter_append, List.take_append_drop]
    rfl
  have kept := storeProfiles_kept profilePrefix (all.drop ((genresProfileMaxCount - 1) * k)) grown
    at_call.storage
  rw [all_found] at kept
  have ended : (all.drop ((genresProfileMaxCount - 1) * k))[genresProfileMaxCount - 1]? = none :=
    List.getElem?_eq_none (by omega)
  have calls := at_call.calls
  unfold processed extractRound profilesToProcess
  dsimp only
  rw [none_fails, page, calls, if_neg (not_not.mpr ok), if_pos rest]
  constructor
  · intro storage
    obtain ⟨s', j, hs', grown', found, _⟩ := kept.1 storage
    have storage' : HasStorage env s'.profilesFound.length false := by rwa [found]
    rw [hs', ended, listed, none_fails]
    dsimp only
    rw [grown'.buffer storage', found]
  · intro missing
    rw [kept.2 missing]

variable [IsStrictTotalOrder Text before]

/-- An extraction that another follows. -/
theorem round_next (serves : Serves before profiles env)
    (at_call : AtCall before profiles env profilePrefix k s) (ok : env.extractRC k = rcZisSrvcOk)
    (long : (genresProfileMaxCount - 1) * k + genresProfileMaxCount ≤
      (listing before profiles profilePrefix).length) :
    (HasStorage env (withPrefix profilePrefix ((listing before profiles profilePrefix).take
        ((genresProfileMaxCount - 1) * (k + 1)))).length false →
      ∃ s', extractRound env profilePrefix s = .inl s' ∧
        AtCall before profiles env profilePrefix (k + 1) s') ∧
      (¬ HasStorage env (withPrefix profilePrefix ((listing before profiles profilePrefix).take
        ((genresProfileMaxCount - 1) * (k + 1)))).length false →
        extractRound env profilePrefix s = .inr none) := by
  have maxCount : genresProfileMaxCount = 1000 := rfl
  obtain ⟨i, grown⟩ := at_call.grown
  have calls := at_call.calls
  have page := at_call.page serves
  set all := listing before profiles profilePrefix with hall
  have rest : genresProfileMaxCount ≤ (all.drop ((genresProfileMaxCount - 1) * k)).length := by
    rw [List.length_drop]
    omega
  have full : ¬ ((all.drop ((genresProfileMaxCount - 1) * k)).take genresProfileMaxCount).length <
      genresProfileMaxCount := by
    rw [List.length_take, Nat.min_eq_left rest]
    exact lt_irrefl _
  have most : ((all.drop ((genresProfileMaxCount - 1) * k)).take genresProfileMaxCount).take
      (genresProfileMaxCount - 1) =
        (all.drop ((genresProfileMaxCount - 1) * k)).take (genresProfileMaxCount - 1) := by
    rw [List.take_take]
    rfl
  have more : s.profilesFound ++ withPrefix profilePrefix
      ((all.drop ((genresProfileMaxCount - 1) * k)).take (genresProfileMaxCount - 1)) =
        withPrefix profilePrefix (all.take ((genresProfileMaxCount - 1) * (k + 1))) := by
    rw [at_call.found, withPrefix, withPrefix, ← List.filter_append, Nat.mul_succ, List.take_add]
    rfl
  have kept := storeProfiles_kept profilePrefix
    ((all.drop ((genresProfileMaxCount - 1) * k)).take (genresProfileMaxCount - 1)) grown
    at_call.storage
  rw [more] at kept
  unfold extractRound profilesToProcess
  dsimp only
  rw [page, calls, if_neg (not_not.mpr ok), if_neg full, most]
  constructor
  · intro storage
    obtain ⟨s', j, hs', grown', found, calls', startProfile⟩ := kept.1 storage
    have within : (genresProfileMaxCount - 1) * (k + 1) < all.length := by
      rw [Nat.mul_succ]
      omega
    obtain ⟨item, hitem⟩ : ∃ item, all[(genresProfileMaxCount - 1) * (k + 1)]? = some item :=
      ⟨_, List.getElem?_eq_getElem within⟩
    have hlast : ((all.drop ((genresProfileMaxCount - 1) * k)).take genresProfileMaxCount)[
        genresProfileMaxCount - 1]? = some item := by
      rw [List.getElem?_take_of_lt (by decide), List.getElem?_drop, ← hitem, Nat.mul_succ]
    rw [hs', hlast]
    refine ⟨_, rfl, ?_⟩
    have next : onwards before ProfileEntry.profile (padded (env.nullTerminate item.profile))
        profiles = all.drop ((genresProfileMaxCount - 1) * (k + 1)) := by
      rw [serves.nullTerminate]
      exact onwards_next serves.ordered hitem
    refine ⟨by rw [calls', calls], next, found, ?_, ?_, ?_, ?_⟩
    · obtain ⟨allocations, capacity, size, given, holds, taken, few⟩ := grown'
      exact ⟨j, allocations, capacity, size, given, holds, taken, few⟩
    · rw [found]
      exact storage
    · intro j hj
      rcases Nat.lt_succ_iff_lt_or_eq.mp hj with hlt | rfl
      · exact at_call.ok j hlt
      · exact ok
    · have long : 999 * k + 1000 ≤ all.length := long
      show k + 1 ≤ (all.length - 1) / 999
      omega
  · intro missing
    rw [kept.2 missing]

/-- **The loop ends**, with what it lists if there is storage for that, and out of its buffers
else. -/
theorem loop_listed (serves : Serves before profiles env) {k : Nat} {s : PrefixState}
    (at_call : AtCall before profiles env profilePrefix k s) :
    ∃ rounds outcome, loop (extractRound env profilePrefix) rounds s = some outcome ∧
      (HasStorage env (withPrefix profilePrefix
        (processed before profiles env profilePrefix)).length false →
          outcome = some (listed before profiles env profilePrefix)) ∧
      (¬ HasStorage env (withPrefix profilePrefix
        (processed before profiles env profilePrefix)).length false → outcome = none) := by
  have one_round {s : PrefixState} {outcome : Option PrefixResult}
      (h : extractRound env profilePrefix s = .inr outcome) :
      loop (extractRound env profilePrefix) 1 s = some outcome := by
    rw [loop, h]
  induction hleft : lastCall (listing before profiles profilePrefix).length - k using
    Nat.strong_induction_on generalizing k s with
  | _ left ih =>
  by_cases ok : env.extractRC k = rcZisSrvcOk
  · by_cases short : (listing before profiles profilePrefix).length <
        (genresProfileMaxCount - 1) * k + genresProfileMaxCount
    · obtain ⟨stored, missing⟩ := round_last serves at_call ok short
      by_cases storage : HasStorage env (withPrefix profilePrefix
          (processed before profiles env profilePrefix)).length false
      · exact ⟨1, _, one_round (stored storage), fun _ => rfl, absurd storage⟩
      · exact ⟨1, _, one_round (missing storage), fun h => absurd h storage, fun _ => rfl⟩
    · obtain ⟨stored, missing⟩ := round_next serves at_call ok (Nat.le_of_not_lt short)
      have ok_next : ∀ j < k + 1, env.extractRC j = rcZisSrvcOk := fun j hj =>
        (Nat.lt_succ_iff_lt_or_eq.mp hj).elim (at_call.ok j) fun same => same ▸ ok
      have part := @take_processed before _ profiles env profilePrefix (k + 1) ok_next
      by_cases storage : HasStorage env (withPrefix profilePrefix
          ((listing before profiles profilePrefix).take
            ((genresProfileMaxCount - 1) * (k + 1)))).length false
      · obtain ⟨s', hround, at_next⟩ := stored storage
        have fewer := at_next.last
        have less : lastCall (listing before profiles profilePrefix).length - (k + 1) < left := by
          omega
        obtain ⟨rounds, outcome, hloop, houtcome⟩ := ih _ less at_next rfl
        refine ⟨rounds + 1, outcome, ?_, houtcome⟩
        rw [loop, hround]
        exact hloop
      · exact ⟨1, _, one_round (missing storage), fun all => absurd (all.mono part) storage,
          fun _ => rfl⟩
  · obtain ⟨hround, storage⟩ := round_failed at_call ok
    exact ⟨1, _, one_round hround, fun _ => rfl, absurd storage⟩

omit [IsStrictTotalOrder Text before] in
/-- The listing has every profile with the prefix exactly if none is before the prefix. -/
theorem withPrefix_listing_iff :
    withPrefix profilePrefix (listing before profiles profilePrefix) =
        withPrefix profilePrefix profiles ↔
      ∀ entry ∈ profiles, profilePrefix.isPrefixOf entry.profile = true →
        ¬ before entry.profile (padded profilePrefix) := by
  unfold withPrefix listing onwards
  rw [List.filter_filter]
  constructor
  · intro same entry mem matching
    have kept : entry ∈ profiles.filter fun entry => profilePrefix.isPrefixOf entry.profile :=
      List.mem_filter.mpr ⟨mem, matching⟩
    rw [← same, List.mem_filter] at kept
    simpa [matching] using kept.2
  · intro later
    refine List.filter_congr fun entry mem => ?_
    cases matching : profilePrefix.isPrefixOf entry.profile with
    | false => rfl
    | true => simpa using later entry mem matching

omit [IsStrictTotalOrder Text before] in
/-- The state before the first extraction. -/
theorem atCall_start :
    AtCall before profiles env profilePrefix 0 (.start env profilePrefix) where
  calls := rfl
  next := rfl
  found := rfl
  grown := ⟨0, grown_start profilePrefix⟩
  storage := ⟨Nat.zero_le _, fun h => by simp [PrefixState.start] at h,
    fun i h => by simp [PrefixState.start] at h⟩
  ok := fun j h => absurd h (Nat.not_lt_zero j)
  last := Nat.zero_le _

end

/-- **The profiles with a prefix are listed exactly where there is storage and none is before the
prefix.** For every population in an order without repetition, every prefix that fits and whatever
extractions fail: the function comes to an end within its buffers with each profile that has the
prefix once and in order, or, where an extraction fails, with none, exactly if each buffer it asks
for is given, at most 2 ^ 23 profiles are kept, and, where no extraction fails, no profile with the
prefix is before the prefix itself. -/
theorem getProfilesByPrefixOrFail_lists (before : Text → Text → Prop) [DecidableRel before]
    [IsStrictTotalOrder Text before] {profiles : List ProfileEntry} {env : ProfilesEnv}
    (serves : Serves before profiles env) {profilePrefix : Text}
    (fits : profilePrefix.length ≤ zisSecurityProfileMaxLength) (profileCount : Nat) :
    ListsPrefix before profiles env profilePrefix profileCount ↔
      HasStorage env (withPrefix profilePrefix
          (processed before profiles env profilePrefix)).length
        (failing before profiles env profilePrefix).isNone ∧
      (failing before profiles env profilePrefix = none → ∀ entry ∈ profiles,
        profilePrefix.isPrefixOf entry.profile = true →
          ¬ before entry.profile (padded profilePrefix)) := by
  obtain ⟨rounds, outcome, hloop, stored, missing⟩ :=
    @loop_listed before _ profiles env profilePrefix _ serves 0 _ atCall_start
  have whole (rounds : Nat) : getProfilesByPrefixOrFail env profilePrefix profileCount rounds =
      loop (extractRound env profilePrefix) rounds (.start env profilePrefix) :=
    if_neg (Nat.not_lt_of_le fits)
  -- what is asked of the result, where there is storage for it
  have asked : ListsPrefix before profiles env profilePrefix profileCount ↔
      HasStorage env (withPrefix profilePrefix
        (processed before profiles env profilePrefix)).length false ∧
      match failing before profiles env profilePrefix with
      | some k => listed before profiles env profilePrefix = ⟨none, 0, some (env.extractRC k)⟩
      | none => listed before profiles env profilePrefix =
          ⟨some (withPrefix profilePrefix profiles),
            (withPrefix profilePrefix profiles).length, none⟩ := by
    unfold ListsPrefix
    simp only [whole]
    constructor
    · rintro ⟨rounds', result, hresult, hmatch⟩
      have same := loop_unique hloop hresult
      by_cases storage : HasStorage env (withPrefix profilePrefix
          (processed before profiles env profilePrefix)).length false
      · rw [stored storage] at same
        exact ⟨storage, Option.some.inj same ▸ hmatch⟩
      · rw [missing storage] at same
        cases same
    · rintro ⟨storage, hmatch⟩
      exact ⟨rounds, _, by rw [hloop, stored storage], hmatch⟩
  rw [asked, @hasStorage_iff env _ (failing before profiles env profilePrefix).isNone, listed]
  cases hfailing : failing before profiles env profilePrefix with
  | some k => simp
  | none =>
    rw [← withPrefix_listing_iff]
    have fields (found all : List ProfileEntry) :
        (⟨if env.slhAlloc 0 (defaultTeamProfileCount * zisGenresProfileEntrySize) then some found
          else none, found.length, none⟩ : PrefixResult) = ⟨some all, all.length, none⟩ ↔
        env.slhAlloc 0 (defaultTeamProfileCount * zisGenresProfileEntrySize) = true ∧
          found = all := by
      constructor
      · intro same
        have buffer := congrArg PrefixResult.resultBuffer same
        dsimp only at buffer
        split at buffer
        next first => exact ⟨first, Option.some.inj buffer⟩
        next => cases buffer
      · rintro ⟨first, rfl⟩
        rw [if_pos first]
    dsimp only
    rw [fields]
    constructor
    · rintro ⟨storage, first, same⟩
      exact ⟨⟨storage, fun _ => first⟩, fun _ => same⟩
    · rintro ⟨⟨storage, first⟩, same⟩
      exact ⟨storage, first rfl, same rfl⟩

/-- A text without the blanks at its end. -/
def withoutBlanks (text : Text) : Text := text.rdropWhile (· = ' ')

/-- The blanks at the end of a text are those it is padded with. -/
theorem withoutBlanks_append (text : Text) :
    withoutBlanks text ++ List.replicate (text.length - (withoutBlanks text).length) ' ' =
      text := by
  induction text using List.reverseRecOn with
  | nil => rfl
  | append_singleton text c ih =>
    by_cases blank : c = ' '
    · have dropped : withoutBlanks (text ++ [c]) = withoutBlanks text :=
        List.rdropWhile_concat_pos _ _ _ (by simpa using blank)
      have shorter : (withoutBlanks text).length ≤ text.length :=
        (List.rdropWhile_prefix _ text).length_le
      have one_more : (text ++ [c]).length - (withoutBlanks text).length =
          text.length - (withoutBlanks text).length + 1 := by
        rw [List.length_append, List.length_singleton]
        omega
      rw [dropped, one_more, List.replicate_succ', ← List.append_assoc, ih, blank]
    · have kept : withoutBlanks (text ++ [c]) = text ++ [c] :=
        List.rdropWhile_concat_neg _ _ _ (by simpa using blank)
      rw [kept, Nat.sub_self, List.replicate_zero, List.append_nil]

/-- A profile by its name. -/
def sampleProfile (name : Text) (fits : name.length ≤ zisSecurityProfileMaxLength) :
    ProfileEntry where
  profile := padded name
  owner := []
  full := by
    rw [padded, List.length_append, List.length_replicate]
    omega

/-- Three profiles, two of which have the prefix. -/
def sampleProfiles : List ProfileEntry :=
  [sampleProfile "ABC".toList (by decide), sampleProfile "ZOWE.A".toList (by decide),
    sampleProfile "ZOWE.B".toList (by decide)]

/-- Surroundings that list them by their characters. -/
def sampleProfilesEnv (given : Bool) : ProfilesEnv where
  slhAlloc _ _ := given
  extractRC _ := rcZisSrvcOk
  extract startProfile size :=
    page (· < ·) ProfileEntry.profile (padded startProfile) size sampleProfiles
  nullTerminate := withoutBlanks

theorem sampleProfilesEnv_serves (given : Bool) :
    Serves (· < ·) sampleProfiles (sampleProfilesEnv given) where
  ordered := by
    have first : (sampleProfile "ABC".toList (by decide)).profile <
        (sampleProfile "ZOWE.A".toList (by decide)).profile := by decide
    have second : (sampleProfile "ZOWE.A".toList (by decide)).profile <
        (sampleProfile "ZOWE.B".toList (by decide)).profile := by decide
    simp only [InOrder, sampleProfiles, List.pairwise_cons, List.mem_cons, List.not_mem_nil,
      or_false, forall_eq_or_imp, forall_eq, false_implies, implies_true, and_true,
      List.Pairwise.nil]
    exact ⟨⟨first, first.trans second⟩, second⟩
  extract _ _ _ := rfl
  nullTerminate entry := by
    have split := withoutBlanks_append entry.profile
    rw [entry.full] at split
    exact split

theorem getProfilesByPrefixOrFail_lists_sample :
    ListsPrefix (· < ·) sampleProfiles (sampleProfilesEnv true) "ZOWE.".toList 0 ↔
      HasStorage (sampleProfilesEnv true) (withPrefix "ZOWE.".toList
          (processed (· < ·) sampleProfiles (sampleProfilesEnv true) "ZOWE.".toList)).length
        (failing (· < ·) sampleProfiles (sampleProfilesEnv true) "ZOWE.".toList).isNone ∧
      (failing (· < ·) sampleProfiles (sampleProfilesEnv true) "ZOWE.".toList = none →
        ∀ entry ∈ sampleProfiles, "ZOWE.".toList.isPrefixOf entry.profile = true →
          ¬ entry.profile < padded "ZOWE.".toList) :=
  getProfilesByPrefixOrFail_lists (· < ·) (sampleProfilesEnv_serves true) (by decide) 0

/-- Without storage for the first buffer, the first profile is stored through a null pointer. -/
theorem profile_stored_without_buffer :
    ¬ ListsPrefix (· < ·) sampleProfiles (sampleProfilesEnv false) "ZOWE.".toList 0 := by
  rintro ⟨rounds, result, hresult, _⟩
  have outside : loop (extractRound (sampleProfilesEnv false) "ZOWE.".toList) 1
      (.start (sampleProfilesEnv false) "ZOWE.".toList) = some none := by
    decide +kernel
  have whole : getProfilesByPrefixOrFail (sampleProfilesEnv false) "ZOWE.".toList 0 rounds =
      loop (extractRound (sampleProfilesEnv false) "ZOWE.".toList) rounds
        (.start (sampleProfilesEnv false) "ZOWE.".toList) := if_neg (by decide)
  cases loop_unique outside (whole.symm.trans hresult)

end Zss.Security
