import Zss.Tss.GenresLoop
import Zss.Tss.KeyFields

/-!
# Entries and the lines they are from

Both handlers of profiles read a value into the entry they keep, and copy the entry to their
caller's buffer when it is to be stored; only then is it cleared. What a duplicate or a line that
was filtered out left in it shows behind a shorter value. The owner of an entry from an `XAUTH` line
is the one last seen, and each block, like each call that goes on within one, begins without any.

Each step that stores an entry is noted with the lines before it (`genresStores`, `callerStores`).
Its entry is that of its own lines exactly where the kept entry was blank behind the value and the
owner is not one of an earlier block (`genresStores_iff`, `callerStores_iff`).

## What is not established

Which profiles are stored, and that the search for them ends (`Zss.Tss.GenresLoop`). That a line
says the truth about its profile is TSS's affair.
-/

namespace Zss.Tss

/-! ## A value in a buffer that is not fresh -/

/-- Where a value begins on a line, and how many bytes of it are copied. -/
def valueSpan (len : Nat) (keys : TssKeys) (keyIndex numberOfKeys size : Nat) :
    Option (Nat × Nat) :=
  let valStartPos := (keys.key keyIndex).delimPos + tssKeyDelimiterLen
  let valEndPos := valueEnd len valStartPos size
  match numberOfKeys with
  | 1 => some (valStartPos, u32 (valEndPos - valStartPos + 1))
  | 2 =>
    some (valStartPos, u32 (endBefore (keys.key (1 - keyIndex)) valEndPos - valStartPos + 1))
  | _ => none

/-- The value before a key on a line, as a field of a profile. None where the line has none, or it
is longer than the field or goes on behind the line. -/
def ownProfile (utils : Utils) (str : Text) (keys : TssKeys) (keyIndex numberOfKeys : Nat)
    (before : Text) : Option Text :=
  match utils.lastIndexOfString str before with
  | none => none
  | some index =>
    match valueSpan (u32 ((index : Int) - 1)) keys keyIndex numberOfKeys
      zisSecurityProfileMaxLength with
    | none => none
    | some (start, valLen) =>
      if valLen ≤ zisSecurityProfileMaxLength ∧ valLen ≤ (str.drop start).length then
        some (fieldOf zisSecurityProfileMaxLength ((str.drop start).take valLen))
      else none

/-- A kept entry that a value of a line can be read into without a trace of what was there: it is
fresh, or there are blanks behind the value's length. And the value is within its line. -/
def SlotSuits (utils : Utils) (str : Text) (keys : TssKeys) (keyIndex numberOfKeys : Nat)
    (before slot : Text) : Prop :=
  match utils.lastIndexOfString str before with
  | none => False
  | some index =>
    match valueSpan (u32 ((index : Int) - 1)) keys keyIndex numberOfKeys
      zisSecurityProfileMaxLength with
    | none => False
    | some (start, valLen) =>
      valLen ≤ (str.drop start).length ∧
        (slot = zeroBuffer zisSecurityProfileMaxLength ∨
          slot.length = zisSecurityProfileMaxLength ∧
            slot.drop valLen = blanks (zisSecurityProfileMaxLength - valLen))

/-- What the kept entry can hold: it is fresh, or text throughout. -/
def SlotKept (slot : Text) : Prop :=
  slot = zeroBuffer zisSecurityProfileMaxLength ∨
    nul ∉ slot ∧ slot.length ≤ zisSecurityProfileMaxLength

section

variable {utils : Utils} {str : Text} {keys : TssKeys} {keyIndex numberOfKeys : Nat}

/-- A value is copied from its span. -/
theorem tssFindValueForKey_span (len : Nat) (buffer : Text) :
    tssFindValueForKey utils str len keys keyIndex numberOfKeys buffer =
      match valueSpan len keys keyIndex numberOfKeys buffer.length with
      | none => none
      | some (start, valLen) =>
        if valLen > buffer.length then none
        else some (utils.padWithSpaces ((str.drop start).take valLen ++ buffer.drop valLen)) := by
  match numberOfKeys with
  | 0 => rfl
  | 1 => rfl
  | 2 => rfl
  | _ + 3 => rfl

theorem padWithSpaces_text (hutils : utils.Documented) {text : Text} (h : nul ∉ text) :
    utils.padWithSpaces text = text := by
  simpa using hutils.padWithSpaces text 0 h

theorem nul_not_mem_span (h : nul ∉ str) (start valLen : Nat) :
    nul ∉ (str.drop start).take valLen :=
  fun hmem => h (List.mem_of_mem_drop (List.mem_of_mem_take hmem))

theorem nul_not_mem_blanks (n : Nat) : nul ∉ blanks n :=
  fun h => absurd (List.eq_of_mem_replicate h) (by decide)

/-- A value read into a fresh entry. -/
theorem tssFindValueForKey_fresh (hutils : utils.Documented) (hnul : nul ∉ str)
    {len start valLen : Nat}
    (hspan : valueSpan len keys keyIndex numberOfKeys zisSecurityProfileMaxLength =
      some (start, valLen)) :
    tssFindValueForKey utils str len keys keyIndex numberOfKeys
        (zeroBuffer zisSecurityProfileMaxLength) =
      if valLen > zisSecurityProfileMaxLength then none
      else
        some ((str.drop start).take valLen ++
          blanks (zisSecurityProfileMaxLength - valLen)) := by
  have hlength : (zeroBuffer zisSecurityProfileMaxLength).length = zisSecurityProfileMaxLength :=
    List.length_replicate
  rw [tssFindValueForKey_span, hlength, hspan]
  simp only
  split
  next => rfl
  next =>
    rw [zeroBuffer, List.drop_replicate,
      hutils.padWithSpaces _ _ (nul_not_mem_span hnul start valLen)]
    rfl

variable {slot profile : Text} {len : Nat} {before part : List Text}

/-- A value read into an entry that is text throughout. -/
theorem tssFindValueForKey_kept (hutils : utils.Documented) (hnul : nul ∉ str)
    {len start valLen : Nat} (hslot : nul ∉ slot)
    (hspan : valueSpan len keys keyIndex numberOfKeys slot.length = some (start, valLen)) :
    tssFindValueForKey utils str len keys keyIndex numberOfKeys slot =
      if valLen > slot.length then none
      else some ((str.drop start).take valLen ++ slot.drop valLen) := by
  have htext : nul ∉ (str.drop start).take valLen ++ slot.drop valLen := by
    intro h
    rcases List.mem_append.mp h with h | h
    · exact nul_not_mem_span hnul start valLen h
    · exact hslot (List.mem_of_mem_drop h)
  rw [tssFindValueForKey_span, hspan]
  simp only
  split
  next => rfl
  next => rw [padWithSpaces_text hutils htext]

/-- A span within its line, as a field. -/
theorem fieldOf_span {start valLen : Nat} (hmax : valLen ≤ zisSecurityProfileMaxLength)
    (hwithin : valLen ≤ (str.drop start).length) :
    fieldOf zisSecurityProfileMaxLength ((str.drop start).take valLen) =
      (str.drop start).take valLen ++ blanks (zisSecurityProfileMaxLength - valLen) := by
  have hlength : ((str.drop start).take valLen).length = valLen := by
    rw [List.length_take, Nat.min_eq_left hwithin]
  rw [fieldOf_short (by rw [hlength]; exact hmax), hlength]

/-- A span is there for every size of the buffer or for none. -/
theorem valueSpan_isSome (keys : TssKeys) (keyIndex numberOfKeys len size size' : Nat) :
    (valueSpan len keys keyIndex numberOfKeys size).isSome =
      (valueSpan len keys keyIndex numberOfKeys size').isSome := by
  unfold valueSpan
  split
  · simp only [Option.isSome_some]
  · simp only [Option.isSome_some]
  · simp only [Option.isSome_none]

/-- A read into a fresh entry is clean if the value is within its line. -/
theorem own_iff_fresh (hutils : utils.Documented) (hnul : nul ∉ str) {len start valLen : Nat}
    (hspan : valueSpan len keys keyIndex numberOfKeys zisSecurityProfileMaxLength =
      some (start, valLen))
    (h : tssFindValueForKey utils str len keys keyIndex numberOfKeys
      (zeroBuffer zisSecurityProfileMaxLength) = some profile) :
    valLen ≤ zisSecurityProfileMaxLength ∧
      (valLen ≤ (str.drop start).length →
        fieldOf zisSecurityProfileMaxLength ((str.drop start).take valLen) = profile) := by
  rw [tssFindValueForKey_fresh hutils hnul hspan] at h
  split at h
  next => cases h
  next hmax =>
    cases h
    exact ⟨Nat.not_lt.mp hmax, fieldOf_span (Nat.not_lt.mp hmax)⟩

/-- A read into an entry that is text is clean if there are blanks behind the value, too. -/
theorem own_iff_kept (hutils : utils.Documented) (hnul : nul ∉ str) {len start valLen : Nat}
    (hslot : nul ∉ slot) (hlength : slot.length = zisSecurityProfileMaxLength)
    (hspan : valueSpan len keys keyIndex numberOfKeys zisSecurityProfileMaxLength =
      some (start, valLen))
    (h : tssFindValueForKey utils str len keys keyIndex numberOfKeys slot = some profile) :
    valLen ≤ zisSecurityProfileMaxLength ∧
      (valLen ≤ (str.drop start).length →
        (fieldOf zisSecurityProfileMaxLength ((str.drop start).take valLen) = profile ↔
          slot.drop valLen = blanks (zisSecurityProfileMaxLength - valLen))) := by
  rw [tssFindValueForKey_kept hutils hnul hslot (by rw [hlength]; exact hspan), hlength] at h
  split at h
  next => cases h
  next hmax =>
    cases h
    refine ⟨Nat.not_lt.mp hmax, fun hwithin => ?_⟩
    rw [fieldOf_span (Nat.not_lt.mp hmax) hwithin, List.append_cancel_left_eq]
    exact eq_comm

/-- A read leaves text. -/
theorem read_text (hutils : utils.Documented) (hnul : nul ∉ str) (hslot : nul ∉ slot)
    (h : tssFindValueForKey utils str len keys keyIndex numberOfKeys slot = some profile) :
    nul ∉ profile ∧ profile.length ≤ slot.length := by
  cases hspan : valueSpan len keys keyIndex numberOfKeys slot.length with
  | none =>
    rw [tssFindValueForKey_span, hspan] at h
    cases h
  | some span =>
    obtain ⟨start, valLen⟩ := span
    rw [tssFindValueForKey_kept hutils hnul hslot hspan] at h
    split at h
    next => cases h
    next hmax =>
      cases h
      constructor
      · intro hmem
        rcases List.mem_append.mp hmem with hmem | hmem
        · exact nul_not_mem_span hnul start valLen hmem
        · exact hslot (List.mem_of_mem_drop hmem)
      · simp only [List.length_append, List.length_take, List.length_drop]
        omega

/-- The entry is kept as text after a read. -/
theorem SlotKept.read (hutils : utils.Documented) (hnul : nul ∉ str) {len : Nat}
    {slot profile : Text} (hslot : SlotKept slot)
    (h : tssFindValueForKey utils str len keys keyIndex numberOfKeys slot = some profile) :
    SlotKept profile := by
  rcases hslot with rfl | ⟨htext, hle⟩
  · have hlength : (zeroBuffer zisSecurityProfileMaxLength).length =
        zisSecurityProfileMaxLength := List.length_replicate
    cases hspan : valueSpan len keys keyIndex numberOfKeys zisSecurityProfileMaxLength with
    | none =>
      rw [tssFindValueForKey_span, hlength, hspan] at h
      cases h
    | some span =>
      obtain ⟨start, valLen⟩ := span
      rw [tssFindValueForKey_fresh hutils hnul hspan] at h
      split at h
      next => cases h
      next hmax =>
        cases h
        refine .inr ⟨?_, ?_⟩
        · intro hmem
          rcases List.mem_append.mp hmem with hmem | hmem
          · exact nul_not_mem_span hnul start valLen hmem
          · exact nul_not_mem_blanks _ hmem
        · rw [List.length_append, List.length_take, length_blanks]
          omega
  · obtain ⟨htext, hlength⟩ := read_text hutils hnul htext h
    exact .inr ⟨htext, hlength.trans hle⟩

/-- **A read is clean where the entry suits it.** The profile read is the line's own. -/
theorem own_iff_slotSuits (hutils : utils.Documented) (hnul : nul ∉ str)
    {before slot profile : Text}
    {index : Nat} (hslot : SlotKept slot) (hindex : utils.lastIndexOfString str before = some index)
    (h : tssFindValueForKey utils str (u32 ((index : Int) - 1)) keys keyIndex numberOfKeys slot =
      some profile) :
    ownProfile utils str keys keyIndex numberOfKeys before = some profile ↔
      SlotSuits utils str keys keyIndex numberOfKeys before slot := by
  have hfresh : ∀ slot : Text, nul ∉ slot → slot ≠ zeroBuffer zisSecurityProfileMaxLength :=
    fun slot hnul hzero => hnul (by rw [hzero]; decide)
  simp only [ownProfile, SlotSuits, hindex]
  cases hspan : valueSpan (u32 ((index : Int) - 1)) keys keyIndex numberOfKeys
      zisSecurityProfileMaxLength with
  | none =>
    have hnone := valueSpan_isSome keys keyIndex numberOfKeys (u32 ((index : Int) - 1))
      slot.length zisSecurityProfileMaxLength
    rw [hspan, Option.isSome_none, Option.isSome_eq_false_iff, Option.isNone_iff_eq_none] at hnone
    rw [tssFindValueForKey_span, hnone] at h
    cases h
  | some span =>
    obtain ⟨start, valLen⟩ := span
    simp only
    rcases hslot with rfl | ⟨htext, hle⟩
    · obtain ⟨hmax, hown⟩ := own_iff_fresh hutils hnul hspan h
      by_cases hwithin : valLen ≤ (str.drop start).length
      · rw [if_pos ⟨hmax, hwithin⟩, hown hwithin]
        exact iff_of_true rfl ⟨hwithin, .inl rfl⟩
      · rw [if_neg fun h => hwithin h.2]
        exact iff_of_false nofun fun h => hwithin h.1
    · by_cases hlength : slot.length = zisSecurityProfileMaxLength
      · obtain ⟨hmax, hown⟩ := own_iff_kept hutils hnul htext hlength hspan h
        by_cases hwithin : valLen ≤ (str.drop start).length
        · rw [if_pos ⟨hmax, hwithin⟩, Option.some_inj, hown hwithin]
          simp only [hwithin, hfresh slot htext, hlength, true_and, false_or]
        · rw [if_neg fun h => hwithin h.2]
          exact iff_of_false nofun fun h => hwithin h.1
      · have hshort := (read_text hutils hnul htext h).2
        refine iff_of_false ?_ ?_
        · intro hown
          split at hown
          next =>
            cases hown
            rw [length_fieldOf] at hshort
            exact hlength (Nat.le_antisymm hle hshort)
          next => cases hown
        · rintro ⟨-, hzero | ⟨hfull, -⟩⟩
          · exact hfresh slot htext hzero
          · exact hlength hfull

end

/-! ## The entries of a caller's own profiles -/

/-- A step of `callerProfileHandler` that stores an entry: the kept entry before it, its line. -/
structure CallerStore where
  entryProfile : Text
  str : Text
  entry : ZisGenresProfileEntry

section

variable (utils : Utils) (parms : TssCallerProfileParms)

/-- The steps that store an entry. -/
def callerStores (walk : CallerWalk) : List Text → List CallerStore
  | [] => []
  | str :: lines =>
    if walk.profiles.length = parms.profilesToExtract ∨ tssIsOutputDone str then []
    else
      match callerLine utils parms walk str with
      | none => []
      | some next =>
        (next.profiles.drop walk.profiles.length).map (⟨walk.entryProfile, str, ·⟩) ++
          callerStores next lines

/-- The key of the class on a line, its index and the position of the owner's. -/
def callerKey (str : Text) : Option (TssKeys × Nat × Nat × Nat) :=
  match tssParseLineForKeys utils str with
  | none => none
  | some (numberOfKeys, keys) =>
    match tssFindDesiredKey (classKey parms.searchClass) keys,
      utils.lastIndexOfString str tssOwnerKey with
    | some keyIndex, some ownerIndex => some (keys, keyIndex, numberOfKeys, ownerIndex)
    | _, _ => none

/-- The entry that a line gives. -/
def CallerStore.own (store : CallerStore) : Option ZisGenresProfileEntry :=
  match callerKey utils parms store.str with
  | none => none
  | some (keys, keyIndex, numberOfKeys, ownerIndex) =>
    (ownProfile utils store.str keys keyIndex numberOfKeys tssOwnerKey).map
      (⟨·, lineOwner utils store.str ownerIndex⟩)

/-- The kept entry suits the value of the line. -/
def CallerStore.Suits (store : CallerStore) : Prop :=
  match callerKey utils parms store.str with
  | none => False
  | some (keys, keyIndex, numberOfKeys, _) =>
    SlotSuits utils store.str keys keyIndex numberOfKeys tssOwnerKey store.entryProfile

end

section

variable {utils : Utils} {parms : TssCallerProfileParms}

theorem storeCallerProfile_cases (walk : CallerWalk) (profile owner : Text) :
    (storeCallerProfile parms walk profile owner).profiles = walk.profiles ∧
        (storeCallerProfile parms walk profile owner).entryProfile = profile ∨
      (storeCallerProfile parms walk profile owner).profiles =
          walk.profiles ++ [⟨profile, owner⟩] ∧
        (storeCallerProfile parms walk profile owner).entryProfile =
          zeroBuffer zisSecurityProfileMaxLength := by
  unfold storeCallerProfile
  split
  · split
    · exact .inr ⟨rfl, rfl⟩
    · exact .inl ⟨rfl, rfl⟩
  · split
    · split
      · exact .inr ⟨rfl, rfl⟩
      · split
        · exact .inr ⟨rfl, rfl⟩
        · exact .inl ⟨rfl, rfl⟩
    · exact .inr ⟨rfl, rfl⟩

/-- The part for groups leaves the profiles and the kept entry. -/
theorem callerGroupLine_frame (walk : CallerWalk) (str : Text) (keys : TssKeys) :
    (callerGroupLine utils parms walk str keys).profiles = walk.profiles ∧
      (callerGroupLine utils parms walk str keys).entryProfile = walk.entryProfile := by
  unfold callerGroupLine
  split
  · exact ⟨rfl, rfl⟩
  · exact ⟨rfl, rfl⟩

/-- What the part for profiles does: nothing, or it reads the value into the kept entry, and stores
and clears it or keeps it. -/
theorem callerProfileLine_cases (parms : TssCallerProfileParms) (walk : CallerWalk) {str : Text}
    {numberOfKeys : Nat} {keys : TssKeys}
    (hparse : tssParseLineForKeys utils str = some (numberOfKeys, keys)) :
    callerProfileLine utils parms walk str keys numberOfKeys = walk ∨
      ∃ keyIndex ownerIndex profile,
        callerKey utils parms str = some (keys, keyIndex, numberOfKeys, ownerIndex) ∧
        utils.lastIndexOfString str tssOwnerKey = some ownerIndex ∧
        tssFindValueForKey utils str (u32 ((ownerIndex : Int) - 1)) keys keyIndex numberOfKeys
          walk.entryProfile = some profile ∧
        callerProfileLine utils parms walk str keys numberOfKeys =
          storeCallerProfile parms walk profile (lineOwner utils str ownerIndex) := by
  unfold callerProfileLine
  split
  next => exact .inl rfl
  next keyIndex hkey =>
    split
    next => exact .inl rfl
    next ownerIndex howner =>
      simp only
      split
      next => exact .inl rfl
      next profile hread =>
        refine .inr ⟨keyIndex, ownerIndex, profile, ?_, howner, hread, rfl⟩
        simp only [callerKey, hparse, hkey, howner]

/-- What a line does to the profiles and the kept entry. -/
theorem callerLine_cases {walk next : CallerWalk} {str : Text}
    (h : callerLine utils parms walk str = some next) :
    next.profiles = walk.profiles ∧ next.entryProfile = walk.entryProfile ∨
      ∃ keys keyIndex numberOfKeys ownerIndex profile,
        callerKey utils parms str = some (keys, keyIndex, numberOfKeys, ownerIndex) ∧
        utils.lastIndexOfString str tssOwnerKey = some ownerIndex ∧
        tssFindValueForKey utils str (u32 ((ownerIndex : Int) - 1)) keys keyIndex numberOfKeys
          walk.entryProfile = some profile ∧
        (next.profiles = walk.profiles ∧ next.entryProfile = profile ∨
          next.profiles = walk.profiles ++ [⟨profile, lineOwner utils str ownerIndex⟩] ∧
            next.entryProfile = zeroBuffer zisSecurityProfileMaxLength) := by
  unfold callerLine at h
  split at h
  next => cases h
  next numberOfKeys keys hparse =>
    have hgroup : ∀ grouped : CallerWalk, grouped = (if parms.extractGroups && !walk.isInGroup then
        callerGroupLine utils parms walk str keys else walk) →
        grouped.profiles = walk.profiles ∧ grouped.entryProfile = walk.entryProfile := by
      rintro _ rfl
      split
      · exact callerGroupLine_frame walk str keys
      · exact ⟨rfl, rfl⟩
    obtain ⟨hprofiles, hentry⟩ := hgroup _ rfl
    generalize (if parms.extractGroups && !walk.isInGroup then
        callerGroupLine utils parms walk str keys else walk) = grouped at h hprofiles hentry
    rw [← hprofiles, ← hentry]
    cases h
    split
    next =>
      obtain hnone | ⟨keyIndex, ownerIndex, profile, hkey, howner, hread, hstore⟩ :=
        callerProfileLine_cases parms grouped hparse
      · rw [hnone]
        exact .inl ⟨rfl, rfl⟩
      · rw [hstore]
        exact .inr ⟨keys, keyIndex, numberOfKeys, ownerIndex, profile, hkey, howner, hread,
          storeCallerProfile_cases grouped profile _⟩
    next => exact .inl ⟨rfl, rfl⟩

/-- The kept entry stays fresh or text. -/
theorem SlotKept.callerLine (hutils : utils.Documented) {walk next : CallerWalk} {str : Text}
    (hnul : nul ∉ str) (hslot : SlotKept walk.entryProfile)
    (h : callerLine utils parms walk str = some next) : SlotKept next.entryProfile := by
  obtain ⟨-, hentry⟩ | ⟨keys, keyIndex, numberOfKeys, ownerIndex, profile, -, -, hread, hstore⟩ :=
    callerLine_cases h
  · rw [hentry]
    exact hslot
  · obtain ⟨-, hentry⟩ | ⟨-, hentry⟩ := hstore
    · rw [hentry]
      exact hslot.read hutils hnul hread
    · exact .inl hentry

/-- An entry that a line stores is the line's own exactly where the kept entry suits. -/
theorem callerStore_iff (hutils : utils.Documented) {walk next : CallerWalk} {str : Text}
    (hnul : nul ∉ str) (hslot : SlotKept walk.entryProfile)
    (h : callerLine utils parms walk str = some next) {entry : ZisGenresProfileEntry}
    (hentry : entry ∈ next.profiles.drop walk.profiles.length) :
    (⟨walk.entryProfile, str, entry⟩ : CallerStore).own utils parms = some entry ↔
      (⟨walk.entryProfile, str, entry⟩ : CallerStore).Suits utils parms := by
  obtain ⟨hsame, -⟩ | ⟨keys, keyIndex, numberOfKeys, ownerIndex, profile, hkey, howner, hread,
    hstore⟩ := callerLine_cases h
  · rw [hsame, List.drop_length] at hentry
    cases hentry
  · obtain ⟨hsame, -⟩ | ⟨hstored, -⟩ := hstore
    · rw [hsame, List.drop_length] at hentry
      cases hentry
    · rw [hstored, List.drop_left, List.mem_singleton] at hentry
      subst hentry
      simp only [CallerStore.own, CallerStore.Suits, hkey]
      rw [← own_iff_slotSuits hutils hnul hslot howner hread]
      cases ownProfile utils str keys keyIndex numberOfKeys tssOwnerKey with
      | none => simp
      | some own => simp

/-- Every entry stored is its line's own exactly where the kept entry suits. -/
theorem callerStores_iff (hutils : utils.Documented) (parms : TssCallerProfileParms)
    {walk : CallerWalk} {lines : List Text}
    (hnul : ∀ str ∈ lines, nul ∉ str) (hslot : SlotKept walk.entryProfile) :
    ∀ store ∈ callerStores utils parms walk lines,
      (store.own utils parms = some store.entry ↔ store.Suits utils parms) := by
  induction lines generalizing walk with
  | nil => exact nofun
  | cons str lines ih =>
    intro store hstore
    rw [callerStores] at hstore
    split at hstore
    next => cases hstore
    next =>
      split at hstore
      next => cases hstore
      next next hline =>
        have hstr := hnul str List.mem_cons_self
        rcases List.mem_append.mp hstore with hstore | hstore
        · obtain ⟨entry, hentry, rfl⟩ := List.mem_map.mp hstore
          exact callerStore_iff hutils hstr hslot hline hentry
        · exact ih (fun str hmem => hnul str (List.mem_cons_of_mem _ hmem))
            (hslot.callerLine hutils hstr hline) store hstore

/-- The profiles grow with each step by its entries. -/
theorem callerLine_profiles {walk next : CallerWalk} {str : Text}
    (h : callerLine utils parms walk str = some next) :
    next.profiles = walk.profiles ++ next.profiles.drop walk.profiles.length := by
  obtain ⟨hsame, -⟩ | ⟨_, _, _, _, _, -, -, -, ⟨hsame, -⟩ | ⟨hstored, -⟩⟩ := callerLine_cases h
  · rw [hsame, List.drop_length, List.append_nil]
  · rw [hsame, List.drop_length, List.append_nil]
  · rw [hstored, List.drop_left]

/-- A walk ends with the entries of its steps behind those it began with. -/
theorem callerStores_profiles (utils : Utils) (parms : TssCallerProfileParms) (walk : CallerWalk)
    (lines : List Text) :
    match plainWalk
      (fun walk str => walk.profiles.length = parms.profilesToExtract ∨ tssIsOutputDone str)
      (callerLine utils parms) walk lines with
    | .failed => True
    | .stopped last | .passed last =>
      last.profiles = walk.profiles ++ (callerStores utils parms walk lines).map (·.entry) := by
  induction lines generalizing walk with
  | nil => exact (List.append_nil _).symm
  | cons str lines ih =>
    rw [plainWalk, callerStores]
    by_cases hstop : walk.profiles.length = parms.profilesToExtract ∨ tssIsOutputDone str = true
    · rw [if_pos (decide_eq_true hstop), if_pos hstop]
      exact (List.append_nil _).symm
    · rw [if_neg (by simpa using hstop), if_neg hstop]
      cases hline : callerLine utils parms walk str with
      | none => exact trivial
      | some next =>
        have hnext := ih next
        simp only
        have hid : CallerStore.entry ∘ (⟨walk.entryProfile, str, ·⟩) = id := rfl
        rw [List.map_append, List.map_map, hid, List.map_id, ← List.append_assoc,
          ← callerLine_profiles hline]
        exact hnext

end

/-! ## The entries of a class -/

/-- A step of `genresProfileHandler` that stores an entry: the lines of the output before it, those
of them since a block or the call began, the kept entry before it, and its line. -/
structure GenresStore where
  before : List Text
  part : List Text
  entryProfile : Text
  str : Text
  entry : ZisGenresProfileEntry

/-- The lines of blocks, each block behind a mark. -/
def markedLines (blocks : List RadminCommandOutput) : List (Option Text) :=
  blocks.flatMap fun block => none :: block.lines.map some

/-- The lines from a place on, behind a mark. -/
def TssLineData.marked (lineData : TssLineData) : List (Option Text) :=
  none :: (lineData.lines.map some ++ markedLines lineData.blocks)

section

variable (utils : Utils) (search : GenresSearch)

/-- The steps that store an entry. -/
def genresStores (before part : List Text) (walk : GenresWalk) : List (Option Text) →
    List GenresStore
  | [] => []
  | none :: lines => genresStores before [] walk.newBlock lines
  | some str :: lines =>
    if tssIsOutputDone str ∨ walk.numExtracted = search.profilesToExtract then []
    else
      match genresLine utils search walk str with
      | none => []
      | some next =>
        ((next.buffer.take next.numExtracted).drop walk.numExtracted).map
            (⟨before, part, walk.entryProfile, str, ·⟩) ++
          genresStores (before ++ [str]) (part ++ [str]) next lines

/-- The walk that the handler ends with. -/
def genresEnd (walk : GenresWalk) : List (Option Text) → GenresWalk
  | [] => walk
  | none :: lines => genresEnd walk.newBlock lines
  | some str :: lines =>
    if tssIsOutputDone str ∨ walk.numExtracted = search.profilesToExtract then walk
    else
      match genresLine utils search walk str with
      | none => walk
      | some next => genresEnd next lines

/-- The steps of a call that store an entry, with the lines before the place it goes on from. -/
def genresCallStores (status : RadminApiStatus) (result : List RadminCommandOutput)
    (before : List Text) (parms : TssGenresProfileParms) : List GenresStore :=
  if status.racfRC ≠ 0 then []
  else
    match result with
    | [] => []
    | block :: blocks =>
      if tssIsErrorDetected (block.lines.headD []) then []
      else
        match parms.lineData with
        | some lineData => genresStores utils search before [] parms.walk lineData.marked
        | none => genresStores utils search [] [] parms.walk (markedLines (block :: blocks))

/-- The key of an entry on a line, its index, the number of keys, and the key its value ends
before. -/
def genresKey (str : Text) : Option (TssKeys × Nat × Nat × Text) :=
  match tssParseLineForKeys utils str with
  | none => none
  | some (numberOfKeys, keys) =>
    match tssFindDesiredKey search.className keys with
    | some keyIndex => some (keys, keyIndex, numberOfKeys, tssOwnerKey)
    | none =>
      (tssFindDesiredKey tssXauthKey keys).map fun keyIndex =>
        (keys, keyIndex, numberOfKeys, tssAcidKey)

/-- The owner that a line of the class names. -/
def namedOwner (str : Text) : Option Text :=
  match tssParseLineForKeys utils str with
  | none => none
  | some (_, keys) =>
    match tssFindDesiredKey search.className keys with
    | some _ => (utils.lastIndexOfString str tssOwnerKey).map (lineOwner utils str)
    | none => none

/-- The owner that the last of the lines that name one names. -/
def nearestOwner (lines : List Text) : Option Text :=
  (lines.filterMap (namedOwner utils search)).getLast?

/-- The entry that a line gives in its place in the output. -/
def GenresStore.own (store : GenresStore) : Option ZisGenresProfileEntry :=
  match genresKey utils search store.str with
  | none => none
  | some (keys, keyIndex, numberOfKeys, before) =>
    (ownProfile utils store.str keys keyIndex numberOfKeys before).map
      (⟨·, (nearestOwner utils search (store.before ++ [store.str])).getD
        (zeroBuffer zisUserIdMaxLength)⟩)

/-- The kept entry suits the value of the line, and the owner is not one of an earlier part. -/
def GenresStore.Suits (store : GenresStore) : Prop :=
  match genresKey utils search store.str with
  | none => False
  | some (keys, keyIndex, numberOfKeys, before) =>
    SlotSuits utils store.str keys keyIndex numberOfKeys before store.entryProfile ∧
      ((nearestOwner utils search (store.part ++ [store.str])).isSome = true ∨
        nearestOwner utils search store.before = none)

end

section

variable {utils : Utils} {search : GenresSearch}

theorem nearestOwner_append (lines lines' : List Text) :
    nearestOwner utils search (lines ++ lines') =
      (nearestOwner utils search lines').or (nearestOwner utils search lines) := by
  rw [nearestOwner, List.filterMap_append, List.getLast?_append]
  rfl

theorem nearestOwner_singleton (str : Text) :
    nearestOwner utils search [str] = namedOwner utils search str := by
  cases h : namedOwner utils search str with
  | none => simp [nearestOwner, h]
  | some owner => simp [nearestOwner, h]

/-- An owner is eight bytes of text. -/
theorem nul_not_mem_lineOwner (hutils : utils.Documented) {str : Text} (hnul : nul ∉ str)
    (ownerIndex : Nat) : nul ∉ lineOwner utils str ownerIndex := by
  have htext := nul_not_mem_span hnul (ownerIndex + 6) 8
  have hfill : ((str.drop (ownerIndex + 6)).take 8 ++ zeroBuffer 8).take 8 =
      (str.drop (ownerIndex + 6)).take 8 ++
        List.replicate (8 - ((str.drop (ownerIndex + 6)).take 8).length) nul := by
    rw [List.take_append, List.take_of_length_le (List.length_take_le ..), zeroBuffer,
      List.take_replicate, Nat.min_eq_left (Nat.sub_le ..)]
  rw [lineOwner, hfill, hutils.padWithSpaces _ _ htext]
  intro hmem
  rcases List.mem_append.mp hmem with hmem | hmem
  · exact htext hmem
  · exact nul_not_mem_blanks _ hmem

/-- No line names an owner of zeros. -/
theorem namedOwner_ne_zero (hutils : utils.Documented) {str : Text} (hnul : nul ∉ str) :
    namedOwner utils search str ≠ some (zeroBuffer zisUserIdMaxLength) := by
  intro h
  unfold namedOwner at h
  split at h
  next => cases h
  next =>
    split at h
    next =>
      obtain ⟨ownerIndex, -, howner⟩ := Option.map_eq_some_iff.mp h
      exact nul_not_mem_lineOwner hutils hnul ownerIndex (by rw [howner]; decide)
    next => cases h

theorem nearestOwner_ne_zero (hutils : utils.Documented) (search : GenresSearch)
    {lines : List Text}
    (hnul : ∀ str ∈ lines, nul ∉ str) :
    nearestOwner utils search lines ≠ some (zeroBuffer zisUserIdMaxLength) := by
  intro h
  obtain ⟨str, hmem, howner⟩ := List.mem_filterMap.mp (List.mem_of_getLast? h)
  exact namedOwner_ne_zero hutils (hnul str hmem) howner

/-! ### A line -/

/-- What a step makes of the walk when it has read a profile: it keeps the profile, or stores it and
clears the kept entry. -/
inductive KeepsOrStores (walk : GenresWalk) (profile owner : Text) (next : GenresWalk) : Prop
  | keeps : next.buffer = walk.buffer → next.numExtracted = walk.numExtracted →
      next.entryProfile = profile → KeepsOrStores walk profile owner next
  | stores : next.buffer = walk.buffer.set walk.numExtracted ⟨profile, owner⟩ →
      next.numExtracted = walk.numExtracted + 1 →
      next.entryProfile = zeroBuffer zisSecurityProfileMaxLength →
      KeepsOrStores walk profile owner next

theorem storeGenresProfile_cases (walk : GenresWalk) (profile : Text) :
    KeepsOrStores walk profile walk.currOwner (storeGenresProfile walk profile) ∧
      (storeGenresProfile walk profile).currOwner = walk.currOwner := by
  unfold storeGenresProfile
  split
  · exact ⟨.keeps rfl rfl rfl, rfl⟩
  · exact ⟨.stores rfl rfl rfl, rfl⟩

theorem valueBefore_some {str : Text} {keys : TssKeys} {keyIndex numberOfKeys : Nat}
    {before buffer : Text} {value : Nat × Text}
    (h : valueBefore utils str keys keyIndex numberOfKeys before buffer = some value) :
    utils.lastIndexOfString str before = some value.1 ∧
      tssFindValueForKey utils str (u32 ((value.1 : Int) - 1)) keys keyIndex numberOfKeys buffer =
        some value.2 := by
  unfold valueBefore at h
  split at h
  next => cases h
  next index hindex =>
    obtain ⟨profile, hread, rfl⟩ := Option.map_eq_some_iff.mp h
    exact ⟨hindex, hread⟩

/-- What a line does: nothing, or it reads a profile into the kept entry, with the owner it names or
the one named last. -/
theorem genresLine_cases {walk next : GenresWalk} {str : Text}
    (h : genresLine utils search walk str = some next) :
    namedOwner utils search str = none ∧ next = walk ∨
      ∃ keys keyIndex numberOfKeys before index profile,
        genresKey utils search str = some (keys, keyIndex, numberOfKeys, before) ∧
        utils.lastIndexOfString str before = some index ∧
        tssFindValueForKey utils str (u32 ((index : Int) - 1)) keys keyIndex numberOfKeys
          walk.entryProfile = some profile ∧
        next.currOwner = (namedOwner utils search str).getD walk.currOwner ∧
        KeepsOrStores walk profile next.currOwner next := by
  unfold genresLine at h
  split at h
  next => cases h
  next => cases h
  next numberOfKeys keys _ hparse =>
    split at h
    next keyIndex hkey =>
      split at h
      next => cases h
      next ownerIndex profile hvalue =>
        obtain ⟨howner, hread⟩ := valueBefore_some hvalue
        have hnamed : namedOwner utils search str = some (lineOwner utils str ownerIndex) := by
          simp only [namedOwner, hparse, hkey, howner, Option.map_some]
        refine .inr ⟨keys, keyIndex, numberOfKeys, tssOwnerKey, ownerIndex, profile, ?_, howner,
          hread, ?_⟩
        · simp only [genresKey, hparse, hkey]
        · rw [hnamed, Option.getD_some]
          cases h
          split
          next =>
            obtain ⟨hstore, hcurr⟩ := storeGenresProfile_cases
              { walk with currOwner := lineOwner utils str ownerIndex } profile
            refine ⟨hcurr, ?_⟩
            rw [hcurr]
            cases hstore with
            | keeps hbuffer hnum hentry => exact .keeps hbuffer hnum hentry
            | stores hbuffer hnum hentry => exact .stores hbuffer hnum hentry
          next => exact ⟨rfl, .keeps rfl rfl rfl⟩
    next hkey =>
      have hnamed : namedOwner utils search str = none := by
        simp only [namedOwner, hparse, hkey]
      split at h
      next keyIndex hxauth =>
        obtain ⟨⟨index, profile⟩, hvalue, rfl⟩ := Option.map_eq_some_iff.mp h
        obtain ⟨hindex, hread⟩ := valueBefore_some hvalue
        obtain ⟨hstore, hcurr⟩ := storeGenresProfile_cases walk profile
        refine .inr ⟨keys, keyIndex, numberOfKeys, tssAcidKey, index, profile, ?_, hindex, hread,
          ?_, ?_⟩
        · simp only [genresKey, hparse, hkey, hxauth, Option.map_some]
        · rw [hnamed, hcurr]
          rfl
        · rw [hcurr]
          exact hstore
      next =>
        cases h
        exact .inl ⟨hnamed, rfl⟩

/-! ### A step -/

/-- What the walk keeps: an entry that is fresh or text, and the owner named last in its part. -/
structure WalkKept (utils : Utils) (search : GenresSearch) (before part : List Text)
    (walk : GenresWalk) : Prop where
  slot : SlotKept walk.entryProfile
  owner : walk.currOwner =
    (nearestOwner utils search part).getD (zeroBuffer zisUserIdMaxLength)
  part_of : ∃ earlier, before = earlier ++ part

theorem WalkKept.newBlock {walk : GenresWalk} (h : WalkKept utils search before part walk) :
    WalkKept utils search before [] walk.newBlock :=
  ⟨h.slot, rfl, before, (List.append_nil before).symm⟩

/-- The owner named last, behind one more line. -/
theorem nearestOwner_concat (part : List Text) (str : Text) :
    (nearestOwner utils search (part ++ [str])).getD (zeroBuffer zisUserIdMaxLength) =
      (namedOwner utils search str).getD
        ((nearestOwner utils search part).getD (zeroBuffer zisUserIdMaxLength)) := by
  rw [nearestOwner_append, nearestOwner_singleton]
  cases namedOwner utils search str with
  | none => rfl
  | some owner => rfl

theorem WalkKept.line (hutils : utils.Documented) {walk next : GenresWalk} {str : Text}
    (hnul : nul ∉ str) (h : WalkKept utils search before part walk)
    (hline : genresLine utils search walk str = some next) :
    WalkKept utils search (before ++ [str]) (part ++ [str]) next := by
  obtain ⟨earlier, hbefore⟩ := h.part_of
  have hpart : ∃ earlier, before ++ [str] = earlier ++ (part ++ [str]) :=
    ⟨earlier, by rw [hbefore, List.append_assoc]⟩
  obtain ⟨hnamed, rfl⟩ | ⟨_, _, _, _, _, profile, -, -, hread, howner, hkept⟩ :=
    genresLine_cases hline
  · refine ⟨h.slot, ?_, hpart⟩
    rw [nearestOwner_concat, hnamed, Option.getD_none, h.owner]
  · refine ⟨?_, ?_, hpart⟩
    · cases hkept with
      | keeps _ _ hentry =>
        rw [hentry]
        exact h.slot.read hutils hnul hread
      | stores _ _ hentry => exact .inl hentry
    · rw [howner, nearestOwner_concat, h.owner]

/-- An entry set in the buffer comes behind those before it. -/
theorem drop_set_stored {buffer : List ZisGenresProfileEntry} {n : Nat} (h : n < buffer.length)
    (entry : ZisGenresProfileEntry) : ((buffer.set n entry).drop n).take 1 = [entry] := by
  rw [List.drop_eq_getElem_cons (by rw [List.length_set]; exact h), List.getElem_set_self]
  rfl

/-- What a step puts behind the entries that were there. -/
theorem stored_cases {walk next : GenresWalk} {profile owner : Text}
    (h : KeepsOrStores walk profile owner next) :
    (next.buffer.take next.numExtracted).drop walk.numExtracted = [] ∨
      (next.buffer.take next.numExtracted).drop walk.numExtracted = [⟨profile, owner⟩] := by
  cases h with
  | keeps _ hnum _ =>
    rw [hnum, List.drop_take, Nat.sub_self]
    exact .inl rfl
  | stores hbuffer hnum _ =>
    rw [hnum, hbuffer, List.drop_take, Nat.add_sub_cancel_left]
    by_cases hroom : walk.numExtracted < walk.buffer.length
    · exact .inr (drop_set_stored hroom _)
    · rw [List.drop_of_length_le (by rw [List.length_set]; omega)]
      exact .inl rfl

/-- The owner named last in a part is the one named last of all, unless the part names none and an
earlier one does. -/
theorem nearestOwner_part_iff (hutils : utils.Documented) {str : Text}
    (hnul : ∀ str ∈ before, nul ∉ str) (hpart : ∃ earlier, before = earlier ++ part) :
    (nearestOwner utils search (before ++ [str])).getD (zeroBuffer zisUserIdMaxLength) =
        (nearestOwner utils search (part ++ [str])).getD (zeroBuffer zisUserIdMaxLength) ↔
      (nearestOwner utils search (part ++ [str])).isSome = true ∨
        nearestOwner utils search before = none := by
  have hzero := nearestOwner_ne_zero hutils search hnul
  obtain ⟨earlier, hbefore⟩ := hpart
  have hall : nearestOwner utils search (before ++ [str]) =
      (nearestOwner utils search (part ++ [str])).or (nearestOwner utils search earlier) := by
    rw [hbefore, List.append_assoc, nearestOwner_append]
  cases hpart : nearestOwner utils search (part ++ [str]) with
  | some owner =>
    rw [hall, hpart]
    exact iff_of_true rfl (.inl rfl)
  | none =>
    rw [nearestOwner_append, Option.or_eq_none_iff] at hpart
    have hsame : nearestOwner utils search before = nearestOwner utils search earlier := by
      rw [hbefore, nearestOwner_append, hpart.2, Option.none_or]
    rw [hall, nearestOwner_append, hpart.1, hpart.2, ← hsame]
    simp only [Option.none_or, Option.getD_none, Option.isSome_none, Bool.false_eq_true, false_or]
    cases howner : nearestOwner utils search before with
    | none => exact iff_of_true rfl rfl
    | some owner =>
      refine iff_of_false (fun h => hzero ?_) nofun
      rw [howner, ← h, Option.getD_some]

/-- An entry that a line stores is the line's own exactly where the kept entry suits and the owner
is not one of an earlier part. -/
theorem genresStore_iff (hutils : utils.Documented) {walk next : GenresWalk} {str : Text}
    (hnul : ∀ str ∈ before, nul ∉ str) (hstr : nul ∉ str)
    (h : WalkKept utils search before part walk)
    (hline : genresLine utils search walk str = some next) {entry : ZisGenresProfileEntry}
    (hentry : entry ∈ (next.buffer.take next.numExtracted).drop walk.numExtracted) :
    (⟨before, part, walk.entryProfile, str, entry⟩ : GenresStore).own utils search = some entry ↔
      (⟨before, part, walk.entryProfile, str, entry⟩ : GenresStore).Suits utils search := by
  obtain ⟨-, rfl⟩ | ⟨keys, keyIndex, numberOfKeys, key, index, profile, hkey, hindex, hread, howner,
    hkept⟩ := genresLine_cases hline
  · rw [List.drop_take, Nat.sub_self] at hentry
    cases hentry
  · obtain hnone | hone := stored_cases hkept
    · rw [hnone] at hentry
      cases hentry
    · rw [hone, List.mem_singleton] at hentry
      subst hentry
      simp only [GenresStore.own, GenresStore.Suits, hkey]
      rw [← own_iff_slotSuits hutils hstr h.slot hindex hread, howner, h.owner,
        ← nearestOwner_concat, ← nearestOwner_part_iff hutils hnul h.part_of]
      cases ownProfile utils str keys keyIndex numberOfKeys key with
      | none => simp
      | some own => simp

/-! ### A run -/

/-- Every entry stored is its line's own exactly where its step suits. -/
theorem genresStores_iff (hutils : utils.Documented) {walk : GenresWalk}
    {lines : List (Option Text)} (hbefore : ∀ str ∈ before, nul ∉ str)
    (hnul : ∀ str, some str ∈ lines → nul ∉ str) (h : WalkKept utils search before part walk) :
    ∀ store ∈ genresStores utils search before part walk lines,
      (store.own utils search = some store.entry ↔ store.Suits utils search) := by
  induction lines generalizing before part walk with
  | nil => exact nofun
  | cons mark lines ih =>
    have hrest : ∀ str, some str ∈ lines → nul ∉ str :=
      fun str hmem => hnul str (List.mem_cons_of_mem _ hmem)
    intro store hstore
    cases mark with
    | none => exact ih hbefore hrest h.newBlock store hstore
    | some str =>
      have hstr : nul ∉ str := hnul str List.mem_cons_self
      rw [genresStores] at hstore
      split at hstore
      next => cases hstore
      next =>
        split at hstore
        next => cases hstore
        next next hline =>
          rcases List.mem_append.mp hstore with hstore | hstore
          · obtain ⟨entry, hentry, rfl⟩ := List.mem_map.mp hstore
            exact genresStore_iff hutils hbefore hstr h hline hentry
          · refine ih ?_ hrest (h.line hutils hstr hline) store hstore
            intro str' hmem
            rcases List.mem_append.mp hmem with hmem | hmem
            · exact hbefore str' hmem
            · rw [List.mem_singleton.mp hmem]
              exact hstr

/-- A line that is taken leaves the entries before it, and puts at most one behind them. -/
theorem genresLine_entries {walk next : GenresWalk} {str : Text}
    (hroom : walk.numExtracted < walk.buffer.length)
    (h : genresLine utils search walk str = some next) :
    next.buffer.length = walk.buffer.length ∧
      next.numExtracted ≤ walk.numExtracted + 1 ∧
      next.numExtracted = walk.numExtracted +
        ((next.buffer.take next.numExtracted).drop walk.numExtracted).length ∧
      next.buffer.take next.numExtracted = walk.buffer.take walk.numExtracted ++
        (next.buffer.take next.numExtracted).drop walk.numExtracted := by
  have hsame : ∀ next : GenresWalk, next.buffer = walk.buffer →
      next.numExtracted = walk.numExtracted → next.buffer.length = walk.buffer.length ∧
      next.numExtracted ≤ walk.numExtracted + 1 ∧
      next.numExtracted = walk.numExtracted +
        ((next.buffer.take next.numExtracted).drop walk.numExtracted).length ∧
      next.buffer.take next.numExtracted = walk.buffer.take walk.numExtracted ++
        (next.buffer.take next.numExtracted).drop walk.numExtracted := by
    intro next hbuffer hnum
    rw [hbuffer, hnum, List.drop_take, Nat.sub_self, List.take_zero, List.append_nil]
    exact ⟨rfl, Nat.le_succ _, rfl, rfl⟩
  obtain ⟨-, rfl⟩ | ⟨_, _, _, _, _, profile, -, -, -, -, hkept⟩ := genresLine_cases h
  · exact hsame _ rfl rfl
  · cases hkept with
    | keeps hbuffer hnum _ => exact hsame next hbuffer hnum
    | stores hbuffer hnum _ =>
      have hone : (next.buffer.take next.numExtracted).drop walk.numExtracted =
          [⟨profile, next.currOwner⟩] := by
        rw [hnum, hbuffer, List.drop_take, Nat.add_sub_cancel_left]
        exact drop_set_stored hroom _
      refine ⟨by rw [hbuffer, List.length_set], hnum.le, by rw [hone, hnum]; rfl, ?_⟩
      have hfront : walk.buffer.take walk.numExtracted =
          (next.buffer.take next.numExtracted).take walk.numExtracted := by
        rw [List.take_take, hnum, Nat.min_eq_left (Nat.le_succ _), hbuffer,
          List.take_set_of_le (Nat.le_refl _)]
      rw [hfront, List.take_append_drop]

/-- The handler's walk ends with the entries of its steps behind those it began with. -/
theorem genresEnd_entries (before part : List Text) {walk : GenresWalk}
    (lines : List (Option Text)) (hnum : walk.numExtracted ≤ search.profilesToExtract)
    (hroom : search.profilesToExtract ≤ walk.buffer.length) :
    (genresEnd utils search walk lines).numExtracted =
        walk.numExtracted + (genresStores utils search before part walk lines).length ∧
      (genresEnd utils search walk lines).buffer.take
          (genresEnd utils search walk lines).numExtracted =
        walk.buffer.take walk.numExtracted ++
          (genresStores utils search before part walk lines).map (·.entry) := by
  induction lines generalizing before part walk with
  | nil => exact ⟨rfl, (List.append_nil _).symm⟩
  | cons mark lines ih =>
    cases mark with
    | none => exact ih before [] hnum hroom
    | some str =>
      rw [genresEnd, genresStores]
      split
      next => exact ⟨rfl, (List.append_nil _).symm⟩
      next hgoes =>
        cases hline : genresLine utils search walk str with
        | none => exact ⟨rfl, (List.append_nil _).symm⟩
        | some next =>
          have hopen : walk.numExtracted ≠ search.profilesToExtract := fun h => hgoes (.inr h)
          obtain ⟨hlength, hnext, hcount, hentries⟩ :=
            genresLine_entries (by omega) hline
          obtain ⟨hend, hbuffer⟩ := @ih (before ++ [str]) (part ++ [str]) next
            (by omega) (by rw [hlength]; exact hroom)
          simp only
          refine ⟨?_, ?_⟩
          · rw [hend, List.length_append, List.length_map, ← Nat.add_assoc, ← hcount]
          · have hid : GenresStore.entry ∘ (⟨before, part, walk.entryProfile, str, ·⟩) = id := rfl
            rw [hbuffer, List.map_append, List.map_map, hid, List.map_id, ← List.append_assoc,
              ← hentries]

/-! ### The handler -/

/-- The walk that a stop leaves. -/
def GenresStop.walk : GenresStop → GenresWalk
  | .failed walk => walk
  | .endOfOutput walk => walk
  | .full walk _ => walk
  | .passed walk => walk

theorem genresLines_end (utils : Utils) (search : GenresSearch) {last offset : Nat}
    (blocks : List RadminCommandOutput)
    (walk : GenresWalk) {lines : List Text} (hstep : offset + linesSize lines = last)
    (marks : List (Option Text)) :
    ∃ stop, genresLines utils search last blocks offset walk lines = some stop ∧
      match stop with
      | .passed next => genresEnd utils search walk (lines.map some ++ marks) =
          genresEnd utils search next marks
      | stop => genresEnd utils search walk (lines.map some ++ marks) = stop.walk := by
  induction lines generalizing offset walk with
  | nil =>
    rw [linesSize_nil] at hstep
    exact ⟨.passed walk, by rw [genresLines, if_neg (by omega)], rfl⟩
  | cons str lines ih =>
    rw [linesSize_cons] at hstep
    rw [genresLines, if_pos (by omega), List.map_cons, List.cons_append, genresEnd]
    split
    next hdone => exact ⟨_, rfl, if_pos (.inl hdone)⟩
    next hdone =>
      split
      next hfull => exact ⟨_, rfl, if_pos (.inr hfull)⟩
      next hfull =>
        rw [if_neg (by rintro (h | h) <;> contradiction)]
        cases genresLine utils search walk str with
        | none => exact ⟨_, rfl, rfl⟩
        | some next => exact ih next (by omega)

theorem genresBlocks_end (utils : Utils) (search : GenresSearch) (walk : GenresWalk)
    (blocks : List RadminCommandOutput) :
    ∃ stop, genresBlocks utils search walk blocks = some stop ∧
      genresEnd utils search walk (markedLines blocks) = stop.walk := by
  induction blocks generalizing walk with
  | nil => exact ⟨_, rfl, rfl⟩
  | cons block blocks ih =>
    have hblock : firstLineOffset + linesSize block.lines = block.lastByteOffset := rfl
    obtain ⟨stop, hstop, hend⟩ := genresLines_end utils search blocks walk.newBlock hblock
      (markedLines blocks)
    rw [genresBlocks, markedLines, List.flatMap_cons, ← markedLines, List.cons_append, genresEnd,
      hstop]
    cases stop with
    | passed next =>
      obtain ⟨stop, hstop, hend'⟩ := ih next
      exact ⟨stop, hstop, hend.trans hend'⟩
    | failed next => exact ⟨_, rfl, hend⟩
    | endOfOutput next => exact ⟨_, rfl, hend⟩
    | full next lineData => exact ⟨_, rfl, hend⟩

theorem genresFrom_end (utils : Utils) (search : GenresSearch) (walk : GenresWalk)
    {lineData : TssLineData} (hstep : lineData.InStep) :
    ∃ stop, genresFrom utils search walk lineData = some stop ∧
      genresEnd utils search walk lineData.marked = stop.walk := by
  obtain ⟨stop, hstop, hend⟩ := genresLines_end utils search lineData.blocks
    walk.newBlock hstep (markedLines lineData.blocks)
  rw [genresFrom, TssLineData.marked, genresEnd, hstop]
  cases stop with
  | passed next =>
    obtain ⟨stop, hstop, hend'⟩ := genresBlocks_end utils search next lineData.blocks
    exact ⟨stop, hstop, hend.trans hend'⟩
  | failed next => exact ⟨_, rfl, hend⟩
  | endOfOutput next => exact ⟨_, rfl, hend⟩
  | full next lineData => exact ⟨_, rfl, hend⟩

theorem after_buffer (parms : TssGenresProfileParms) (stop : GenresStop) :
    (parms.after stop).2.tmpResultBuffer = stop.walk.buffer := by
  cases stop <;> rfl

/-- A call of the handler leaves in its caller's buffer, from its start index on, the entries of its
steps. -/
theorem genresProfileHandler_entries (utils : Utils) (search : GenresSearch)
    (status : RadminApiStatus) (result : List RadminCommandOutput)
    {parms : TssGenresProfileParms} (before : List Text)
    (hplace : ∀ lineData ∈ parms.lineData, lineData.InStep)
    (hindex : parms.startIndex ≤ search.profilesToExtract)
    (hroom : search.profilesToExtract ≤ parms.tmpResultBuffer.length) :
    ∃ handlerRC parms', genresProfileHandler utils search status result parms =
        some (handlerRC, parms') ∧
      (parms'.tmpResultBuffer.drop parms.startIndex).take
          (genresCallStores utils search status result before parms).length =
        (genresCallStores utils search status result before parms).map (·.entry) := by
  have hwalk : ∀ before part lines,
      ((genresEnd utils search parms.walk lines).buffer.drop parms.startIndex).take
          (genresStores utils search before part parms.walk lines).length =
        (genresStores utils search before part parms.walk lines).map (·.entry) := by
    intro before part lines
    obtain ⟨hnum, hentries⟩ :=
      @genresEnd_entries utils search before part parms.walk lines hindex hroom
    rw [hnum] at hentries
    have hfront : (parms.tmpResultBuffer.take parms.startIndex).length = parms.startIndex := by
      rw [List.length_take, Nat.min_eq_left (hindex.trans hroom)]
    calc ((genresEnd utils search parms.walk lines).buffer.drop parms.startIndex).take
          (genresStores utils search before part parms.walk lines).length
        = ((genresEnd utils search parms.walk lines).buffer.take (parms.startIndex +
            (genresStores utils search before part parms.walk lines).length)).drop
              parms.startIndex := by
          rw [List.drop_take, Nat.add_sub_cancel_left]
      _ = (genresStores utils search before part parms.walk lines).map (·.entry) := by
          refine (congrArg (List.drop parms.startIndex) hentries).trans ?_
          exact List.drop_left' hfront
  by_cases hstatus : status.racfRC = 0
  case neg =>
    refine ⟨status.racfRC, parms, ?_, ?_⟩
    · rw [genresProfileHandler.eq_def, if_pos hstatus]
    · rw [genresCallStores.eq_def, if_pos hstatus]
      rfl
  cases result with
  | nil =>
    refine ⟨0, parms, ?_, ?_⟩
    · rw [genresProfileHandler.eq_def, if_neg (not_not.mpr hstatus)]
    · rw [genresCallStores.eq_def, if_neg (not_not.mpr hstatus)]
      rfl
  | cons block blocks =>
    cases herror : tssIsErrorDetected (block.lines.headD []) with
    | true =>
      refine ⟨-1, parms, ?_, ?_⟩
      · simp only [genresProfileHandler, hstatus, herror, ne_eq, not_true_eq_false, if_false,
          if_true]
      · simp only [genresCallStores, hstatus, herror, ne_eq, not_true_eq_false, if_false, if_true]
        rfl
    | false =>
      simp only [genresProfileHandler, genresCallStores, hstatus, herror, ne_eq,
        not_true_eq_false, if_false, Bool.false_eq_true]
      cases hline : parms.lineData with
      | some lineData =>
        obtain ⟨stop, hstop, hend⟩ :=
          genresFrom_end utils search parms.walk (hplace lineData hline)
        refine ⟨(parms.after stop).1, (parms.after stop).2, ?_, ?_⟩
        · simp only [hstop, Option.map_some]
        · rw [after_buffer, ← hend]
          exact hwalk before [] lineData.marked
      | none =>
        obtain ⟨stop, hstop, hend⟩ :=
          genresBlocks_end utils search parms.walk (block :: blocks)
        refine ⟨(parms.after stop).1, (parms.after stop).2, ?_, ?_⟩
        · simp only [hstop, Option.map_some]
        · rw [after_buffer, ← hend]
          exact hwalk [] [] (markedLines (block :: blocks))

/-- The steps of a call store their lines' own entries exactly where they suit. -/
theorem genresCallStores_iff (hutils : utils.Documented) (search : GenresSearch)
    (status : RadminApiStatus) {result : List RadminCommandOutput} {parms : TssGenresProfileParms}
    (hnul : ∀ str ∈ outputLines result, nul ∉ str)
    (hplace : ∀ lineData ∈ parms.lineData, outputLines result = before ++ lineData.rest) :
    ∀ store ∈ genresCallStores utils search status result before parms,
      (store.own utils search = some store.entry ↔ store.Suits utils search) := by
  have kept : ∀ before, WalkKept utils search before [] parms.walk :=
    fun before => ⟨.inl rfl, rfl, before, (List.append_nil before).symm⟩
  have hblocks : ∀ blocks : List RadminCommandOutput, ∀ str, some str ∈ markedLines blocks →
      str ∈ outputLines blocks := by
    intro blocks str hmem
    obtain ⟨block, hblock, hmem⟩ := List.mem_flatMap.mp hmem
    rcases List.mem_cons.mp hmem with hmem | hmem
    · cases hmem
    · obtain ⟨_, hstr, ⟨⟩⟩ := List.mem_map.mp hmem
      exact List.mem_flatMap.mpr ⟨block, hblock, hstr⟩
  unfold genresCallStores
  split
  next => exact nofun
  next =>
    split
    next => exact nofun
    next block blocks =>
      split
      next => exact nofun
      next =>
        split
        next lineData hline =>
          rw [hplace lineData hline] at hnul
          refine genresStores_iff hutils
            (fun str hmem => hnul str (List.mem_append_left _ hmem)) ?_ (kept before)
          intro str hmem
          refine hnul str (List.mem_append_right _ ?_)
          rcases List.mem_cons.mp hmem with hmem | hmem
          · cases hmem
          · rcases List.mem_append.mp hmem with hmem | hmem
            · obtain ⟨_, hstr, ⟨⟩⟩ := List.mem_map.mp hmem
              exact List.mem_append_left _ hstr
            · exact List.mem_append_right _ (hblocks lineData.blocks str hmem)
        next =>
          exact genresStores_iff hutils nofun
            (fun str hmem => hnul str (hblocks (block :: blocks) str hmem)) (kept [])

/-- A handler of a caller's own profiles that succeeds leaves the entries of its steps. -/
theorem callerProfileHandler_entries {parms : TssCallerProfileParms} {status : RadminApiStatus}
    {result : List RadminCommandOutput}
    (h : (callerProfileHandler utils parms status result).1 = 0) :
    (callerProfileHandler utils parms status result).2.profiles =
      (callerStores utils parms .start (outputLines result)).map (·.entry) := by
  unfold callerProfileHandler at h ⊢
  split at h
  next => cases h
  next hstatus =>
    rw [if_neg hstatus]
    cases result with
    | nil => rfl
    | cons block blocks =>
      simp only at h ⊢
      split at h
      next => cases h
      next herror =>
        rw [if_neg herror]
        rw [blockWalk_eq] at h ⊢
        have hstores := callerStores_profiles utils parms .start
          (outputLines (block :: blocks))
        generalize plainWalk (fun walk str =>
            walk.profiles.length = parms.profilesToExtract ∨ tssIsOutputDone str)
          (callerLine utils parms) .start (outputLines (block :: blocks)) = walked at h hstores ⊢
        cases walked with
        | failed => cases h
        | stopped last => exact hstores
        | passed last => exact hstores

end

/-! ## Both handlers -/

def datasetSearch : GenresSearch := ⟨4, "DATASET".toList, true⟩

/-- A profile listed twice, and one with a shorter name. -/
def repeatedListing : RadminCommandOutput :=
  ⟨["DATASET = SYS1.LONGER  OWNER(JOE)    ".toList,
    "DATASET = SYS1.LONGER  OWNER(JOE)    ".toList,
    "DATASET = SYS1.A  OWNER(JOE)    ".toList], by decide⟩

/-- A block that begins with a permission. -/
def permissionListing : RadminCommandOutput :=
  ⟨["XAUTH = SYS1.B  ACID(SAM)    ".toList], by decide⟩

/-- What a caller has of the class. -/
def ownListing : RadminCommandOutput :=
  ⟨["XA DATASET = SYS1.AB  OWNER(JOE)    ".toList, "XA DATASET = SYS2  OWNER(JOE)    ".toList],
    by decide⟩

def sys2Search : TssCallerProfileParms :=
  ⟨false, [], true, "DATASET".toList, 4, some "SYS2".toList, none⟩

end Zss.Tss
