import Zss.Tss.GenresProfiles

/-!
# Whether the search for a profile ends

The loop of `zisGenresProfilesServiceFunctionTSS` cuts the output of its command into windows of as
many profiles as the caller's buffer holds, and is left where a window holds the start profile, ends
with the command, or cannot be read. `SearchEnds` says so of the lines alone, and the loop ends
exactly where it holds (`extractProfiles_ends_iff`).

An output without the line that ends a command has a last window that the handler passes without a
word. The next round starts that window again.

## What is not established

How many rounds a search takes, and that what it returns is right: what is in an entry is the matter
of `Zss.Tss.ProfileEntries`.
-/

namespace Zss.Tss

open Zss.Lib

/-! ## Windows of lines -/

/-- How a window ends. -/
inductive WindowStop where
  | failed
  | endOfOutput (walk : GenresWalk)
  | full (walk : GenresWalk) (rest : List Text)
  | passed (walk : GenresWalk)

/-- The same profiles; owners may differ. -/
structure SameProfiles (walk walk' : GenresWalk) : Prop where
  numExtracted : walk.numExtracted = walk'.numExtracted
  entryProfile : walk.entryProfile = walk'.entryProfile
  profiles : walk.buffer.map (·.profile) = walk'.buffer.map (·.profile)

section

variable (utils : Utils) (search : GenresSearch)

/-- The lines of a window, whatever blocks they are in. -/
def genresWindow (walk : GenresWalk) : List Text → WindowStop
  | [] => .passed walk
  | line :: lines =>
    if tssIsOutputDone line then .endOfOutput walk
    else if walk.numExtracted = search.profilesToExtract then .full walk (line :: lines)
    else
      match genresLine utils search walk line with
      | none => .failed
      | some walk => genresWindow walk lines

/-- The walk of an empty window. -/
def GenresSearch.emptyWalk : GenresWalk :=
  (TssGenresProfileParms.start search.profilesToExtract).walk

/-- The search ends with a window: it cannot be read, or ends with the command, or holds the start
profile. A last window that nothing follows counts as many profiles as the one before it, so the
first one is looked at in vain. -/
def endsSearch (startProfile : Text) (later : Bool) : WindowStop → Bool
  | .failed => true
  | .endOfOutput _ => true
  | .full walk _ =>
    (findStartProfile walk.buffer search.profilesToExtract startProfile).isSome
  | .passed walk =>
    later && (findStartProfile walk.buffer search.profilesToExtract startProfile).isSome

/-- The search through the windows of the lines ends, with this one or with one behind it. -/
inductive SearchEnds (startProfile : Text) : Bool → List Text → Prop
  | here {later : Bool} {lines : List Text} :
      endsSearch search startProfile later
        (genresWindow utils search search.emptyWalk lines) = true →
      SearchEnds startProfile later lines
  | next {later : Bool} {lines rest : List Text} {walk : GenresWalk} :
      genresWindow utils search search.emptyWalk lines = .full walk rest →
      SearchEnds startProfile true rest →
      SearchEnds startProfile later lines

/-- The walk to go on with: an empty one where the window is full. -/
def GenresSearch.renew (walk : GenresWalk) : GenresWalk :=
  if walk.numExtracted = search.profilesToExtract then search.emptyWalk else walk

/-- The lines, window after window, come to one that ends the command or cannot be read. -/
def comesToEnd (walk : GenresWalk) : List Text → Bool
  | [] => false
  | str :: lines =>
    tssIsOutputDone str ||
      match genresLine utils search (search.renew walk) str with
      | none => true
      | some walk => comesToEnd walk lines

/-- The buffers of the windows. -/
def windowBuffers (walk : GenresWalk) : List Text → List (List ZisGenresProfileEntry)
  | [] => [walk.buffer]
  | str :: lines =>
    match genresLine utils search (search.renew walk) str with
    | none => [walk.buffer]
    | some next =>
      if walk.numExtracted = search.profilesToExtract then
        walk.buffer :: windowBuffers next lines
      else windowBuffers next lines

/-- What ends the search. With nothing to extract, only the line that ends the command, if it is
the first. Else such a line, or one that cannot be read; or the start profile, where the lines fill
more than one window and it is in one of them. -/
def SearchComesToEnd (startProfile : Text) (lines : List Text) : Prop :=
  if search.profilesToExtract = 0 then ∃ str ∈ lines.head?, tssIsOutputDone str = true
  else
    comesToEnd utils search search.emptyWalk lines = true ∨
      1 < (windowBuffers utils search search.emptyWalk lines).length ∧
        ∃ buffer ∈ windowBuffers utils search search.emptyWalk lines,
          (findStartProfile buffer search.profilesToExtract startProfile).isSome = true

end

/-! ## Walks with the same profiles -/

theorem SameProfiles.refl (walk : GenresWalk) : SameProfiles walk walk := ⟨rfl, rfl, rfl⟩

theorem SameProfiles.newBlock {walk walk' : GenresWalk} (h : SameProfiles walk walk') :
    SameProfiles walk.newBlock walk' :=
  ⟨h.numExtracted, h.entryProfile, h.profiles⟩

/-- Duplicates are told by their profiles. -/
theorem isDuplicateProfile_congr {buffer buffer' : List ZisGenresProfileEntry}
    (h : buffer.map (·.profile) = buffer'.map (·.profile)) (searchString : Text) (n : Nat) :
    isDuplicateProfile buffer searchString n = isDuplicateProfile buffer' searchString n := by
  have by_profile : ∀ buffer : List ZisGenresProfileEntry,
      isDuplicateProfile buffer searchString n = ((buffer.map (·.profile)).take n).any
        (sameText (tssGetActualValueLength searchString) searchString) := by
    intro buffer
    rw [isDuplicateProfile, ← List.map_take, List.any_map]
    rfl
  rw [by_profile, by_profile, h]

/-- The start profile is found by its profile. -/
theorem findStartProfile_congr {buffer buffer' : List ZisGenresProfileEntry}
    (h : buffer.map (·.profile) = buffer'.map (·.profile)) (n : Nat) (searchProfile : Text) :
    findStartProfile buffer n searchProfile = findStartProfile buffer' n searchProfile := by
  have by_profile : ∀ buffer : List ZisGenresProfileEntry,
      findStartProfile buffer n searchProfile = ((buffer.map (·.profile)).take n).findIdx?
        (sameText (some searchProfile.length) searchProfile) := by
    intro buffer
    rw [findStartProfile, ← List.map_take, List.findIdx?_map]
    rfl
  rw [by_profile, by_profile, h]

theorem SameProfiles.store {walk walk' : GenresWalk} (h : SameProfiles walk walk')
    (profile : Text) :
    SameProfiles (storeGenresProfile walk profile) (storeGenresProfile walk' profile) := by
  unfold storeGenresProfile
  rw [isDuplicateProfile_congr h.profiles, h.numExtracted]
  split
  · exact ⟨rfl, rfl, h.profiles⟩
  · refine ⟨rfl, rfl, ?_⟩
    simp only [List.map_set, h.profiles]

section

variable {utils : Utils} {search : GenresSearch}

/-- A line does the same to the profiles. -/
theorem genresLine_same (utils : Utils) (search : GenresSearch) {walk walk' : GenresWalk}
    (h : SameProfiles walk walk') (str : Text) :
    Option.Rel SameProfiles (genresLine utils search walk str)
      (genresLine utils search walk' str) := by
  unfold genresLine
  split
  · exact .none
  · exact .none
  · split
    · rw [h.entryProfile]
      split
      next => exact .none
      next ownerIndex profile _ =>
        apply Option.Rel.some
        have owned : ∀ owner, SameProfiles
            ⟨walk.buffer, walk.numExtracted, walk'.entryProfile, owner⟩
            ⟨walk'.buffer, walk'.numExtracted, walk'.entryProfile, owner⟩ :=
          fun _ => ⟨h.numExtracted, rfl, h.profiles⟩
        split
        next => exact (owned (lineOwner utils str ownerIndex)).store profile
        next => exact ⟨h.numExtracted, rfl, h.profiles⟩
    · split
      next keyIndex _ =>
        rw [h.entryProfile]
        cases valueBefore utils str _ keyIndex _ tssAcidKey walk'.entryProfile with
        | none => exact .none
        | some value => exact .some (h.store value.2)
      next => exact .some h

/-! ## The handler and the windows -/

/-- The lines from a place on. -/
def TssLineData.rest (lineData : TssLineData) : List Text :=
  lineData.lines ++ outputLines lineData.blocks

/-- The offset and the line belong together. -/
def TssLineData.InStep (lineData : TssLineData) : Prop :=
  lineData.offsetInBlock + linesSize lineData.lines = lineData.lastByteOffset

/-- The handler and the window end the same way. -/
inductive StopMatches : GenresStop → WindowStop → Prop
  | failed {walk : GenresWalk} : StopMatches (.failed walk) .failed
  | endOfOutput {walk walk' : GenresWalk} :
      SameProfiles walk walk' → StopMatches (.endOfOutput walk) (.endOfOutput walk')
  | full {walk walk' : GenresWalk} {lineData : TssLineData} :
      SameProfiles walk walk' → lineData.InStep →
      StopMatches (.full walk lineData) (.full walk' lineData.rest)
  | passed {walk walk' : GenresWalk} :
      SameProfiles walk walk' → StopMatches (.passed walk) (.passed walk')

/-- The handler leaves the lines of a block as the window does, or has gone past them. -/
theorem genresLines_window (utils : Utils) (search : GenresSearch) {last offset : Nat}
    {blocks : List RadminCommandOutput}
    {walk walk' : GenresWalk} {lines : List Text} (hstep : offset + linesSize lines = last)
    (h : SameProfiles walk walk') :
    (∃ next next' : GenresWalk,
      genresLines utils search last blocks offset walk lines = some (.passed next) ∧
      SameProfiles next next' ∧
      genresWindow utils search walk' (lines ++ outputLines blocks) =
        genresWindow utils search next' (outputLines blocks)) ∨
    ∃ stop, genresLines utils search last blocks offset walk lines = some stop ∧
      (∀ next, stop ≠ .passed next) ∧
      StopMatches stop (genresWindow utils search walk' (lines ++ outputLines blocks)) := by
  induction lines generalizing offset walk walk' with
  | nil =>
    rw [linesSize_nil] at hstep
    exact .inl ⟨walk, walk', by rw [genresLines, if_neg (by omega)], h, rfl⟩
  | cons str lines ih =>
    rw [linesSize_cons] at hstep
    rw [genresLines, if_pos (by omega), List.cons_append, genresWindow, ← h.numExtracted]
    split
    next => exact .inr ⟨_, rfl, nofun, .endOfOutput h⟩
    next =>
      split
      next =>
        refine .inr ⟨_, rfl, nofun, .full h ?_⟩
        rw [TssLineData.InStep, linesSize_cons]
        omega
      next =>
        have same := genresLine_same utils search h str
        cases hline : genresLine utils search walk str with
        | none =>
          cases hline' : genresLine utils search walk' str with
          | none => exact .inr ⟨_, rfl, nofun, .failed⟩
          | some next' => rw [hline, hline'] at same; cases same
        | some next =>
          cases hline' : genresLine utils search walk' str with
          | none => rw [hline, hline'] at same; cases same
          | some next' =>
            rw [hline, hline'] at same
            cases same with
            | some same => exact ih (by omega) same

/-- The handler leaves the blocks as the window leaves their lines. -/
theorem genresBlocks_window (utils : Utils) (search : GenresSearch) {walk walk' : GenresWalk}
    (h : SameProfiles walk walk')
    (blocks : List RadminCommandOutput) :
    ∃ stop, genresBlocks utils search walk blocks = some stop ∧
      StopMatches stop (genresWindow utils search walk' (outputLines blocks)) := by
  induction blocks generalizing walk walk' with
  | nil => exact ⟨_, rfl, .passed h⟩
  | cons block blocks ih =>
    have hblock : firstLineOffset + linesSize block.lines = block.lastByteOffset := rfl
    rw [genresBlocks, outputLines, List.flatMap_cons, ← outputLines]
    obtain ⟨next, next', hlines, same, hwindow⟩ | ⟨stop, hlines, hstop, hmatch⟩ :=
      genresLines_window utils search hblock h.newBlock
    · rw [hlines, hwindow]
      exact ih same
    · rw [hlines]
      refine ⟨stop, ?_, hmatch⟩
      cases stop with
      | passed next => exact absurd rfl (hstop next)
      | failed next => rfl
      | endOfOutput next => rfl
      | full next lineData => rfl

/-- So it does from a place in a block on. -/
theorem genresFrom_window (utils : Utils) (search : GenresSearch) {walk walk' : GenresWalk}
    (h : SameProfiles walk walk')
    {lineData : TssLineData} (hstep : lineData.InStep) :
    ∃ stop, genresFrom utils search walk lineData = some stop ∧
      StopMatches stop (genresWindow utils search walk' lineData.rest) := by
  rw [genresFrom, TssLineData.rest]
  obtain ⟨next, next', hlines, same, hwindow⟩ | ⟨stop, hlines, hstop, hmatch⟩ :=
    genresLines_window utils search hstep h.newBlock
  · rw [hlines, hwindow]
    exact genresBlocks_window utils search same lineData.blocks
  · rw [hlines]
    refine ⟨stop, ?_, hmatch⟩
    cases stop with
    | passed next => exact absurd rfl (hstop next)
    | failed next => rfl
    | endOfOutput next => rfl
    | full next lineData => rfl

end

/-! ## A round of the loop -/

/-- A command that lists the class: it is accepted, its first line is no error, and the return code
is good exactly where its handler's is. -/
structure Lists (run : RadminRun) : Prop where
  accepted : run.apiStatus.racfRC = 0
  output : ∃ block blocks, run.output = block :: blocks ∧
    tssIsErrorDetected (block.lines.headD []) = false
  handled : run.rc 0 = rcRadminOk
  refused : ∀ handlerRC, run.rc handlerRC = rcRadminOk → handlerRC = 0

/-- The lines that a call of the handler is to look at. -/
def linesFrom (run : RadminRun) : Option TssLineData → List Text
  | some lineData => lineData.rest
  | none => outputLines run.output

/-- The loop while the start profile has not been found. -/
def GenresLoop.searching (profilesToExtract : Nat) (lineData : Option TssLineData) : GenresLoop :=
  ⟨⟨List.replicate profilesToExtract .zero, if lineData.isSome then profilesToExtract else 0,
    lineData, 0, false⟩, none⟩

/-- The loop once the start profile is first in the buffer. -/
structure GenresLoop.FillingUp (profilesToExtract : Nat) (loop : GenresLoop) : Prop where
  foundAt : loop.foundAt = some 0
  profilesExtracted : loop.parms.profilesExtracted = profilesToExtract
  inStep : ∀ lineData ∈ loop.parms.lineData, lineData.InStep

section

variable {utils : Utils} {search : GenresSearch} {startProfile : Text} {run : RadminRun}

variable {parms : TssGenresProfileParms} {pos : Option TssLineData}

/-- The handler ends as a window of the lines from its place on. -/
theorem genresProfileHandler_window (utils : Utils) (search : GenresSearch) (hlists : Lists run)
    (hstep : ∀ lineData ∈ parms.lineData, lineData.InStep) :
    ∃ stop, genresProfileHandler utils search run.apiStatus run.output parms =
        some (parms.after stop) ∧
      StopMatches stop (genresWindow utils search parms.walk (linesFrom run parms.lineData)) := by
  obtain ⟨block, blocks, houtput, herror⟩ := hlists.output
  have same := SameProfiles.refl parms.walk
  simp only [genresProfileHandler, hlists.accepted, houtput, herror, ne_eq, not_true_eq_false,
    Bool.false_eq_true, if_false]
  cases hline : parms.lineData with
  | none =>
    obtain ⟨stop, hstop, hmatch⟩ :=
      genresBlocks_window utils search same (block :: blocks)
    rw [linesFrom, houtput]
    exact ⟨stop, by simp only [hstop, Option.map_some], hmatch⟩
  | some lineData =>
    obtain ⟨stop, hstop, hmatch⟩ :=
      genresFrom_window utils search same (hstep lineData hline)
    exact ⟨stop, by simp only [hstop, Option.map_some], hmatch⟩

/-- A full window has as many profiles as are to be extracted. -/
theorem genresWindow_full {walk walk' : GenresWalk} {lines rest : List Text}
    (h : genresWindow utils search walk lines = .full walk' rest) :
    walk'.numExtracted = search.profilesToExtract := by
  induction lines generalizing walk with
  | nil => cases h
  | cons str lines ih =>
    rw [genresWindow] at h
    split at h
    next => cases h
    next =>
      split at h
      next hfull =>
        cases h
        exact hfull
      next =>
        split at h
        next => cases h
        next => exact ih h

/-- A handler that fails ends the loop. -/
theorem genresRound_failed (hlists : Lists run) {loop : GenresLoop}
    (h : genresProfileHandler utils search run.apiStatus run.output loop.parms =
      some (-1, parms)) : Ends (genresRound utils search (some startProfile) run) loop := by
  have hrc : run.rc (-1) ≠ rcRadminOk := fun hrc => absurd (hlists.refused (-1) hrc) (by decide)
  refine Ends.of_exit (some (run.rc (-1), parms)) ?_
  simp only [genresRound, h]
  rw [if_pos hrc]

/-- A handler that is done leaves the rest of the round to the search. -/
theorem genresRound_handled (startProfile : Text) (hlists : Lists run) {loop : GenresLoop}
    (h : genresProfileHandler utils search run.apiStatus run.output loop.parms = some (0, parms)) :
    genresRound utils search (some startProfile) run loop =
      match searchRound search startProfile loop parms with
      | .inl loop => .inl loop
      | .inr parms => .inr (some (run.rc 0, parms)) := by
  simp only [genresRound, h]
  exact if_neg (not_not.mpr hlists.handled)

/-! ## The search in a round -/

/-- The end of the output ends the search. -/
theorem searchRound_over (search : GenresSearch) (startProfile : Text) (loop : GenresLoop)
    (h : parms.reachedEndOfOutput = true) :
    ∃ result, searchRound search startProfile loop parms = .inr result := by
  simp only [searchRound]
  cases loop.foundAt with
  | some foundAt => by_cases hzero : foundAt = 0 <;> simp [hzero, h]
  | none =>
    cases findStartProfile parms.tmpResultBuffer parms.profilesExtracted startProfile with
    | none => exact ⟨_, if_pos h⟩
    | some foundAt => by_cases hzero : foundAt = 0 <;> simp [hzero, h]

/-- A buffer without the start profile is cleared. -/
theorem searchRound_absent {loop : GenresLoop} (hloop : loop.foundAt = none)
    (hend : parms.reachedEndOfOutput = false)
    (h : findStartProfile parms.tmpResultBuffer parms.profilesExtracted startProfile = none) :
    searchRound search startProfile loop parms =
      .inl ⟨{ parms with tmpResultBuffer := List.replicate search.profilesToExtract .zero },
        none⟩ := by
  simp only [searchRound, hloop, h, hend, Bool.false_eq_true, if_false]

/-- A buffer with the start profile ends the search, or is to be filled up. -/
theorem searchRound_found {loop : GenresLoop} {i : Nat} (hloop : loop.foundAt = none)
    (hfull : parms.profilesExtracted = search.profilesToExtract)
    (hstep : ∀ lineData ∈ parms.lineData, lineData.InStep)
    (h : findStartProfile parms.tmpResultBuffer parms.profilesExtracted startProfile = some i) :
    (∃ result, searchRound search startProfile loop parms = .inr result) ∨
      ∃ loop', searchRound search startProfile loop parms = .inl loop' ∧
        loop'.FillingUp search.profilesToExtract := by
  by_cases hzero : i = 0
  · refine .inl ⟨parms, ?_⟩
    simp [searchRound, hloop, h, hzero]
  · simp only [searchRound, hloop, h, hzero, Option.isNone_none, Bool.true_and, beq_iff_eq,
      if_false]
    split
    next => exact .inl ⟨_, rfl⟩
    next => exact .inr ⟨_, rfl, rfl, hfull, hstep⟩

/-- A buffer that was filled up ends the search. -/
theorem searchRound_filled (startProfile : Text) {loop : GenresLoop}
    (hloop : loop.foundAt = some 0) (hfull : parms.profilesExtracted = search.profilesToExtract) :
    ∃ result, searchRound search startProfile loop parms = .inr result := by
  simp [searchRound, hloop, hfull]

/-! ## The loop and the windows -/

/-- A call of the handler that is not over leaves as many profiles as there were, or as are to be
extracted, and a place in step. -/
theorem after_parms {stop : GenresStop} {window : WindowStop} (hmatch : StopMatches stop window)
    (hwindow : ∀ walk rest, window = .full walk rest →
      walk.numExtracted = search.profilesToExtract)
    (hparms : parms.profilesExtracted = search.profilesToExtract)
    (hstep : ∀ lineData ∈ parms.lineData, lineData.InStep) :
    window = .failed ∧ (parms.after stop).1 = -1 ∨
      (parms.after stop).1 = 0 ∧ (parms.after stop).2.reachedEndOfOutput = true ∨
      (parms.after stop).1 = 0 ∧
        (parms.after stop).2.profilesExtracted = search.profilesToExtract ∧
        ∀ lineData ∈ (parms.after stop).2.lineData, lineData.InStep := by
  cases hmatch with
  | failed => exact .inl ⟨rfl, rfl⟩
  | endOfOutput same => exact .inr (.inl ⟨rfl, rfl⟩)
  | full same hplace =>
    refine .inr (.inr ⟨rfl, same.numExtracted.trans (hwindow _ _ rfl), ?_⟩)
    rintro _ ⟨⟩
    exact hplace
  | passed same => exact .inr (.inr ⟨rfl, hparms, hstep⟩)

/-- A round that comes to the end of the output is the last. -/
theorem genresRound_over (hlists : Lists run) {loop : GenresLoop}
    (hhandler : genresProfileHandler utils search run.apiStatus run.output loop.parms =
      some (0, parms)) (h : parms.reachedEndOfOutput = true) :
    Ends (genresRound utils search (some startProfile) run) loop := by
  obtain ⟨result, hsearch⟩ := searchRound_over search startProfile loop h
  refine Ends.of_exit (some (run.rc 0, result)) ?_
  rw [genresRound_handled startProfile hlists hhandler, hsearch]

/-- Once the start profile is found, the next round is the last. -/
theorem GenresLoop.FillingUp.ends (hlists : Lists run) {loop : GenresLoop}
    (h : loop.FillingUp search.profilesToExtract) :
    Ends (genresRound utils search (some startProfile) run) loop := by
  obtain ⟨stop, hhandler, hmatch⟩ :=
    genresProfileHandler_window utils search hlists h.inStep
  have hfull : ∀ walk rest,
      genresWindow utils search loop.parms.walk (linesFrom run loop.parms.lineData) =
        .full walk rest → walk.numExtracted = search.profilesToExtract :=
    fun walk rest => genresWindow_full
  obtain ⟨-, hrc⟩ | ⟨hrc, hover⟩ | ⟨hrc, hextracted, -⟩ :=
    after_parms hmatch hfull h.profilesExtracted h.inStep
  · exact genresRound_failed hlists (hhandler.trans (by rw [← hrc]))
  · exact genresRound_over hlists (hhandler.trans (by rw [← hrc])) hover
  · obtain ⟨result, hsearch⟩ := searchRound_filled startProfile h.foundAt hextracted
    refine Ends.of_exit (some (run.rc 0, result)) ?_
    rw [genresRound_handled startProfile hlists (hhandler.trans (by rw [← hrc])), hsearch]

/-- A round that finds the start profile comes to an end, at once or in the next. -/
theorem genresRound_found (hlists : Lists run) {loop : GenresLoop} {i : Nat}
    (hloop : loop.foundAt = none)
    (hhandler : genresProfileHandler utils search run.apiStatus run.output loop.parms =
      some (0, parms)) (hfull : parms.profilesExtracted = search.profilesToExtract)
    (hstep : ∀ lineData ∈ parms.lineData, lineData.InStep)
    (h : findStartProfile parms.tmpResultBuffer parms.profilesExtracted startProfile = some i) :
    Ends (genresRound utils search (some startProfile) run) loop := by
  have hround := genresRound_handled startProfile hlists hhandler
  obtain ⟨result, hsearch⟩ | ⟨loop', hsearch, hfilling⟩ := searchRound_found hloop hfull hstep h
  · refine Ends.of_exit (some (run.rc 0, result)) ?_
    rw [hround, hsearch]
  · rw [hsearch] at hround
    exact (ends_next_iff hround).mpr (hfilling.ends hlists)

/-- The handler in a round of the search. -/
theorem searching_handler (utils : Utils) (search : GenresSearch) (hlists : Lists run)
    (hpos : ∀ lineData ∈ pos, lineData.InStep) :
    ∃ stop, genresProfileHandler utils search run.apiStatus run.output
        (GenresLoop.searching search.profilesToExtract pos).parms =
        some ((GenresLoop.searching search.profilesToExtract pos).parms.after stop) ∧
      StopMatches stop (genresWindow utils search search.emptyWalk (linesFrom run pos)) :=
  genresProfileHandler_window utils search hlists hpos

/-- A window that ends the search ends the loop. -/
theorem searching_ends (hlists : Lists run) (hpos : ∀ lineData ∈ pos, lineData.InStep)
    (h : endsSearch search startProfile pos.isSome
      (genresWindow utils search search.emptyWalk (linesFrom run pos)) = true) :
    Ends (genresRound utils search (some startProfile) run)
      (.searching search.profilesToExtract pos) := by
  obtain ⟨stop, hhandler, hmatch⟩ := searching_handler utils search hlists hpos
  generalize hwindow : genresWindow utils search search.emptyWalk (linesFrom run pos) = window
    at h hmatch
  cases hmatch with
  | failed => exact genresRound_failed hlists hhandler
  | endOfOutput same => exact genresRound_over hlists hhandler rfl
  | @full walk walk' lineData same hstep =>
    obtain ⟨i, hfound⟩ := Option.isSome_iff_exists.mp h
    have hfull : walk.numExtracted = search.profilesToExtract :=
      same.numExtracted.trans (genresWindow_full hwindow)
    have hfound : findStartProfile walk.buffer walk.numExtracted startProfile = some i := by
      rw [hfull, findStartProfile_congr same.profiles, hfound]
    refine genresRound_found hlists rfl hhandler hfull ?_ hfound
    rintro _ ⟨⟩
    exact hstep
  | @passed walk walk' same =>
    rw [endsSearch, Bool.and_eq_true] at h
    obtain ⟨i, hfound⟩ := Option.isSome_iff_exists.mp h.2
    have hfull : (if pos.isSome = true then search.profilesToExtract else 0) =
        search.profilesToExtract := if_pos h.1
    have hfound : findStartProfile walk.buffer
        (if pos.isSome = true then search.profilesToExtract else 0) startProfile = some i := by
      rw [hfull, findStartProfile_congr same.profiles, hfound]
    exact genresRound_found hlists rfl hhandler hfull hpos hfound

/-- A full window in vain: the search goes on behind it. -/
theorem searching_next (hlists : Lists run) (hpos : ∀ lineData ∈ pos, lineData.InStep)
    {walk : GenresWalk} {rest : List Text}
    (hwindow : genresWindow utils search search.emptyWalk (linesFrom run pos) = .full walk rest)
    (h : endsSearch search startProfile pos.isSome (.full walk rest) = false) :
    ∃ lineData : TssLineData, lineData.InStep ∧ lineData.rest = rest ∧
      genresRound utils search (some startProfile) run (.searching search.profilesToExtract pos) =
        .inl (.searching search.profilesToExtract (some lineData)) := by
  obtain ⟨stop, hhandler, hmatch⟩ := searching_handler utils search hlists hpos
  have hfull := genresWindow_full hwindow
  rw [hwindow] at hmatch
  cases hmatch with
  | @full walk' _ lineData same hstep =>
    refine ⟨lineData, hstep, rfl, ?_⟩
    have habsent : findStartProfile walk'.buffer walk'.numExtracted startProfile = none := by
      rw [findStartProfile_congr same.profiles, same.numExtracted, hfull]
      exact Option.isSome_eq_false_iff.mp h |> Option.isNone_iff_eq_none.mp
    rw [genresRound_handled startProfile hlists hhandler, searchRound_absent rfl rfl habsent]
    simp only [GenresLoop.searching, same.numExtracted, hfull, Option.isSome_some, if_true]

/-- A last window in vain: the search starts it again. -/
theorem searching_again (hlists : Lists run) (hpos : ∀ lineData ∈ pos, lineData.InStep)
    {walk : GenresWalk}
    (hwindow : genresWindow utils search search.emptyWalk (linesFrom run pos) = .passed walk)
    (h : endsSearch search startProfile pos.isSome (.passed walk) = false) :
    genresRound utils search (some startProfile) run (.searching search.profilesToExtract pos) =
      .inl (.searching search.profilesToExtract pos) := by
  obtain ⟨stop, hhandler, hmatch⟩ := searching_handler utils search hlists hpos
  rw [hwindow] at hmatch
  cases hmatch with
  | @passed walk' _ same =>
    have habsent : findStartProfile walk'.buffer
        (if pos.isSome = true then search.profilesToExtract else 0) startProfile = none := by
      rw [findStartProfile_congr same.profiles]
      cases pos with
      | none => rfl
      | some lineData =>
        exact Option.isSome_eq_false_iff.mp h |> Option.isNone_iff_eq_none.mp
    rw [genresRound_handled startProfile hlists hhandler, searchRound_absent rfl rfl habsent]
    rfl

/-! ## The end of the search -/

/-- The search ends if its windows say so. -/
theorem searching_of_searchEnds (hlists : Lists run) {later : Bool} {lines : List Text}
    (h : SearchEnds utils search startProfile later lines) (pos : Option TssLineData)
    (hpos : ∀ lineData ∈ pos, lineData.InStep) (hlater : pos.isSome = later)
    (hlines : linesFrom run pos = lines) :
    Ends (genresRound utils search (some startProfile) run)
      (.searching search.profilesToExtract pos) := by
  induction h generalizing pos with
  | here h =>
    subst hlater hlines
    exact searching_ends hlists hpos h
  | @next _ _ rest walk hwindow _ ih =>
    subst hlater hlines
    cases hend : endsSearch search startProfile pos.isSome (.full walk rest) with
    | true => exact searching_ends hlists hpos (by rw [hwindow, hend])
    | false =>
      obtain ⟨lineData, hstep, hrest, hround⟩ := searching_next hlists hpos hwindow hend
      refine (ends_next_iff hround).mpr (ih (some lineData) ?_ rfl hrest)
      rintro _ ⟨⟩
      exact hstep

/-- The windows say so if the search ends, by the rounds that are left. -/
theorem searchEnds_of_loop (hlists : Lists run) (rounds : Nat) (pos : Option TssLineData)
    (hpos : ∀ lineData ∈ pos, lineData.InStep)
    (h : (loop (genresRound utils search (some startProfile) run) rounds
      (.searching search.profilesToExtract pos)).isSome = true) :
    SearchEnds utils search startProfile pos.isSome (linesFrom run pos) := by
  induction rounds generalizing pos with
  | zero => cases h
  | succ rounds ih =>
    cases hend : endsSearch search startProfile pos.isSome
        (genresWindow utils search search.emptyWalk (linesFrom run pos)) with
    | true => exact .here hend
    | false =>
      cases hwindow : genresWindow utils search search.emptyWalk (linesFrom run pos) with
      | failed => rw [hwindow] at hend; cases hend
      | endOfOutput walk => rw [hwindow] at hend; cases hend
      | full walk rest =>
        rw [hwindow] at hend
        obtain ⟨lineData, hstep, rfl, hround⟩ := searching_next hlists hpos hwindow hend
        rw [loop, hround] at h
        refine .next hwindow (ih (some lineData) ?_ h)
        rintro _ ⟨⟩
        exact hstep
      | passed walk =>
        rw [hwindow] at hend
        rw [loop, searching_again hlists hpos hwindow hend] at h
        exact ih pos hpos h

/-- The search ends with its windows. -/
theorem search_ends_iff (hlists : Lists run) :
    Ends (genresRound utils search (some startProfile) run)
        (.start search.profilesToExtract) ↔
      SearchEnds utils search startProfile false (outputLines run.output) := by
  constructor
  · rintro ⟨rounds, h⟩
    exact searchEnds_of_loop hlists rounds none nofun h
  · intro h
    exact searching_of_searchEnds hlists h none nofun rfl rfl

/-! ## The windows, line by line -/

/-- The search ends with a window, or with one behind it. -/
def EndsFrom (utils : Utils) (search : GenresSearch) (startProfile : Text) (later : Bool)
    (window : WindowStop) : Prop :=
  endsSearch search startProfile later window = true ∨
    ∃ walk rest, window = .full walk rest ∧ SearchEnds utils search startProfile true rest

/-- The search ends with the lines, in a window that has begun. -/
def EndsWithin (utils : Utils) (search : GenresSearch) (startProfile : Text) (later : Bool)
    (walk : GenresWalk) (lines : List Text) : Prop :=
  comesToEnd utils search walk lines = true ∨
    (later = true ∨ 1 < (windowBuffers utils search walk lines).length) ∧
      ∃ buffer ∈ windowBuffers utils search walk lines,
        (findStartProfile buffer search.profilesToExtract startProfile).isSome = true

theorem searchEnds_iff {later : Bool} {lines : List Text} :
    SearchEnds utils search startProfile later lines ↔
      EndsFrom utils search startProfile later
        (genresWindow utils search search.emptyWalk lines) := by
  constructor
  · intro h
    cases h with
    | here h => exact .inl h
    | next hwindow h => exact .inr ⟨_, _, hwindow, h⟩
  · rintro (h | ⟨walk, rest, hwindow, h⟩)
    · exact .here h
    · exact .next hwindow h

/-- With nothing to extract, the first line is all the search sees. -/
theorem searchEnds_zero (hzero : search.profilesToExtract = 0) {later : Bool} {lines : List Text} :
    SearchEnds utils search startProfile later lines ↔
      ∃ str ∈ lines.head?, tssIsOutputDone str = true := by
  have habsent : ∀ buffer,
      findStartProfile buffer search.profilesToExtract startProfile = none := by
    intro buffer
    rw [findStartProfile, hzero, List.take_zero]
    rfl
  have hfull : search.emptyWalk.numExtracted = search.profilesToExtract := hzero.symm
  constructor
  · intro h
    induction h with
    | @here later lines h =>
      cases lines with
      | nil => simp [genresWindow, endsSearch, habsent] at h
      | cons str lines =>
        refine ⟨str, rfl, ?_⟩
        by_contra hdone
        rw [genresWindow, if_neg hdone, if_pos hfull] at h
        simp [endsSearch, habsent] at h
    | @next later lines rest walk hwindow _ ih =>
      cases lines with
      | nil => cases hwindow
      | cons str lines =>
        rw [genresWindow] at hwindow
        split at hwindow
        next => cases hwindow
        next =>
          cases hwindow
          exact ih
  · rintro ⟨str, hhead, hdone⟩
    cases lines with
    | nil => cases hhead
    | cons first lines =>
      cases hhead
      refine .here ?_
      rw [genresWindow, if_pos hdone]
      rfl

theorem windowBuffers_pos (utils : Utils) (search : GenresSearch) (walk : GenresWalk)
    (lines : List Text) :
    0 < (windowBuffers utils search walk lines).length := by
  induction lines generalizing walk with
  | nil => exact Nat.one_pos
  | cons str lines ih =>
    rw [windowBuffers]
    split
    next => exact Nat.one_pos
    next =>
      split
      next => exact Nat.succ_pos _
      next => exact ih _

/-- What a window says of the search is what its lines say, by the lines. A window that is full is
followed by an empty one, which takes the line. -/
theorem endsFrom_iff (hpos : 0 < search.profilesToExtract) (lines : List Text)
    (walk : GenresWalk) (later : Bool) :
    EndsFrom utils search startProfile later (genresWindow utils search walk lines) ↔
      EndsWithin utils search startProfile later walk lines := by
  induction lines generalizing walk later with
  | nil => simp [EndsFrom, EndsWithin, genresWindow, endsSearch, comesToEnd, windowBuffers]
  | cons str lines ih =>
    cases hdone : tssIsOutputDone str with
    | true => simp [EndsFrom, EndsWithin, genresWindow, endsSearch, comesToEnd, hdone]
    | false =>
      have open_iff : ∀ walk : GenresWalk, walk.numExtracted ≠ search.profilesToExtract → ∀ later,
          EndsFrom utils search startProfile later
              (genresWindow utils search walk (str :: lines)) ↔
            EndsWithin utils search startProfile later walk (str :: lines) := by
        intro walk hopen later
        rw [genresWindow, EndsWithin, comesToEnd, windowBuffers, GenresSearch.renew]
        simp only [hdone, if_neg hopen, Bool.false_eq_true, if_false, Bool.false_or]
        cases genresLine utils search walk str with
        | none => simp [EndsFrom, endsSearch]
        | some next => exact ih next later
      by_cases hfull : walk.numExtracted = search.profilesToExtract
      · have hempty : search.emptyWalk.numExtracted ≠ search.profilesToExtract := by
          rw [show search.emptyWalk.numExtracted = 0 from rfl]
          omega
        have hopen := open_iff search.emptyWalk hempty true
        rw [← searchEnds_iff] at hopen
        rw [EndsFrom, genresWindow, hdone, if_neg Bool.false_ne_true, if_pos hfull]
        simp only [WindowStop.full.injEq, endsSearch]
        rw [EndsWithin, comesToEnd, windowBuffers] at hopen ⊢
        simp only [GenresSearch.renew, if_pos hfull, if_neg hempty, hdone, Bool.false_or,
          true_or, true_and] at hopen ⊢
        cases hline : genresLine utils search search.emptyWalk str with
        | none =>
          have hsearch : SearchEnds utils search startProfile true (str :: lines) := by
            rw [hopen, hline]
            exact .inl rfl
          simp [hsearch]
        | some next =>
          simp only [hline] at hopen
          have hmore := windowBuffers_pos utils search next lines
          have hsearch : (∃ walk' rest, (walk = walk' ∧ str :: lines = rest) ∧
              SearchEnds utils search startProfile true rest) ↔
              SearchEnds utils search startProfile true (str :: lines) := by
            constructor
            · rintro ⟨_, _, ⟨rfl, rfl⟩, h⟩
              exact h
            · intro h
              exact ⟨_, _, ⟨rfl, rfl⟩, h⟩
          have htwo : later = true ∨ 1 < (windowBuffers utils search next lines).length + 1 :=
            .inr (by omega)
          simp only [hsearch, hopen, List.length_cons, List.mem_cons, exists_eq_or_imp, htwo,
            true_and]
          exact or_left_comm
      · exact open_iff walk hfull later

/-- What ends the search, from its beginning. -/
theorem searchComesToEnd_iff {lines : List Text} :
    SearchEnds utils search startProfile false lines ↔
      SearchComesToEnd utils search startProfile lines := by
  unfold SearchComesToEnd
  split
  next hzero => exact searchEnds_zero hzero
  next hpos =>
    rw [searchEnds_iff, endsFrom_iff (Nat.pos_of_ne_zero hpos), EndsWithin]
    simp only [Bool.false_eq_true, false_or]

/-! ## The end of the loop -/

/-- A return code that is not good ends the loop. -/
theorem genresRound_refused {startProfile : Option Text} {loop : GenresLoop} (handlerRC : Int)
    (parms : TssGenresProfileParms)
    (h : genresProfileHandler utils search run.apiStatus run.output loop.parms =
      some (handlerRC, parms)) (hrc : run.rc handlerRC ≠ rcRadminOk) :
    Ends (genresRound utils search startProfile run) loop := by
  refine Ends.of_exit (some (run.rc handlerRC, parms)) ?_
  simp only [genresRound, h]
  rw [if_pos hrc]

/-- A stop that leaves a place leaves it in step. -/
theorem StopMatches.after_inStep {stop : GenresStop} {window : WindowStop}
    (hmatch : StopMatches stop window) (h : ∀ lineData ∈ parms.lineData, lineData.InStep) :
    ∀ lineData ∈ (parms.after stop).2.lineData, lineData.InStep := by
  cases hmatch with
  | failed => exact h
  | endOfOutput _ => exact h
  | full _ hstep =>
    rintro _ ⟨⟩
    exact hstep
  | passed _ => exact h

/-- The handler is done with every output, and leaves a place in step. -/
theorem genresProfileHandler_inStep (utils : Utils) (search : GenresSearch)
    (status : RadminApiStatus) (output : List RadminCommandOutput)
    (h : ∀ lineData ∈ parms.lineData, lineData.InStep) :
    ∃ handlerRC parms', genresProfileHandler utils search status output parms =
        some (handlerRC, parms') ∧ ∀ lineData ∈ parms'.lineData, lineData.InStep := by
  have same := SameProfiles.refl parms.walk
  unfold genresProfileHandler
  split
  next => exact ⟨_, _, rfl, h⟩
  next =>
    split
    next => exact ⟨_, _, rfl, h⟩
    next block blocks =>
      split
      next => exact ⟨_, _, rfl, h⟩
      next =>
        split
        next lineData hline =>
          obtain ⟨stop, hstop, hmatch⟩ :=
            genresFrom_window utils search same (h lineData hline)
          exact ⟨_, _, by rw [hstop, Option.map_some], hmatch.after_inStep h⟩
        next =>
          obtain ⟨stop, hstop, hmatch⟩ :=
            genresBlocks_window utils search same (block :: blocks)
          exact ⟨_, _, by rw [hstop, Option.map_some], hmatch.after_inStep h⟩

theorem start_inStep (profilesToExtract : Nat) :
    ∀ lineData ∈ (TssGenresProfileParms.start profilesToExtract).lineData, lineData.InStep :=
  nofun

/-- Without any output the loop goes round and round. -/
theorem not_ends_of_no_output (haccepted : run.apiStatus.racfRC = 0)
    (hhandled : run.rc 0 = rcRadminOk) (houtput : run.output = []) :
    ¬ Ends (genresRound utils search (some startProfile) run)
      (.start search.profilesToExtract) := by
  have hround : genresRound utils search (some startProfile) run
      (.start search.profilesToExtract) = .inl (.start search.profilesToExtract) := by
    have hhandler : genresProfileHandler utils search run.apiStatus run.output
        (TssGenresProfileParms.start search.profilesToExtract) =
          some (0, .start search.profilesToExtract) := by
      simp only [genresProfileHandler, haccepted, houtput, ne_eq, not_true_eq_false, if_false]
    simp only [genresRound, GenresLoop.start, hhandler, hhandled, ne_eq, not_true_eq_false,
      if_false]
    rw [searchRound_absent rfl rfl (by rfl)]
    rfl
  exact not_ends_of_invariant (· = .start search.profilesToExtract)
    (by rintro _ rfl; exact ⟨_, hround, rfl⟩) rfl

/-- The loop over a command that has been accepted ends as its search does, and over one that has
not it ends at once. -/
theorem genresLoop_ends_iff (search : GenresSearch)
    (hrc : ∀ handlerRC, run.rc handlerRC = rcRadminOk → handlerRC = 0) :
    Ends (genresRound utils search (some startProfile) run) (.start search.profilesToExtract) ↔
      (run.apiStatus.racfRC = 0 → run.rc 0 = rcRadminOk →
        (∀ block ∈ run.output.head?, tssIsErrorDetected (block.lines.headD []) = false) →
        SearchComesToEnd utils search startProfile (outputLines run.output)) := by
  by_cases haccepted : run.apiStatus.racfRC = 0
  case neg =>
    refine iff_of_true ?_ (fun h => absurd h haccepted)
    refine genresRound_refused run.apiStatus.racfRC
      (.start search.profilesToExtract) ?_ (fun h => haccepted (hrc _ h))
    rw [genresProfileHandler.eq_def, if_pos haccepted]
    rfl
  by_cases hhandled : run.rc 0 = rcRadminOk
  case neg =>
    refine iff_of_true ?_ (fun _ h => absurd h hhandled)
    obtain ⟨handlerRC, parms, hhandler, -⟩ := genresProfileHandler_inStep utils search
      run.apiStatus run.output (start_inStep search.profilesToExtract)
    refine genresRound_refused handlerRC parms hhandler (fun h => hhandled ?_)
    rw [← hrc handlerRC h, h]
  cases houtput : run.output with
  | nil =>
    refine iff_of_false (not_ends_of_no_output haccepted hhandled houtput) ?_
    simp [haccepted, hhandled, SearchComesToEnd, outputLines, comesToEnd, windowBuffers]
  | cons block blocks =>
    cases herror : tssIsErrorDetected (block.lines.headD []) with
    | true =>
      refine iff_of_true ?_ (fun _ _ h => absurd (h block rfl) (by rw [herror]; decide))
      refine genresRound_refused (-1) (.start search.profilesToExtract) ?_
        (fun h => absurd (hrc _ h) (by decide))
      simp only [genresProfileHandler, haccepted, houtput, herror, GenresLoop.start, ne_eq,
        not_true_eq_false, if_false, if_true]
    | false =>
      have hlists : Lists run := ⟨haccepted, ⟨block, blocks, houtput, herror⟩, hhandled, hrc⟩
      rw [search_ends_iff hlists, searchComesToEnd_iff, houtput]
      refine ⟨fun h _ _ _ => h, fun h => h haccepted hhandled ?_⟩
      rintro _ ⟨⟩
      exact herror

/-- With something to extract, an output with the line that ends the command comes to an end. -/
theorem comesToEnd_of_done {str : Text} {lines : List Text} (hmem : str ∈ lines)
    (hdone : tssIsOutputDone str = true) (walk : GenresWalk) :
    comesToEnd utils search walk lines = true := by
  induction lines generalizing walk with
  | nil => cases hmem
  | cons first lines ih =>
    rw [comesToEnd]
    cases hmem with
    | head => rw [hdone, Bool.true_or]
    | tail _ hmem =>
      cases genresLine utils search (search.renew walk) first with
      | none => exact Bool.or_true _
      | some next => simp only [ih hmem next, Bool.or_true]

end

/-! ## The service -/

/-- A call that comes to the search: its request is accepted and names a start profile that is no
prefix, and the command that lists the class is accepted. -/
structure Searches (env : GenresProfileEnv) (parm : GenresProfileParmList)
    (className startProfile : Text) : Prop where
  valid : validateGenresProfileParmList parm = rcZisGrprfsrvOk
  caller : env.secmgmtGetCallerUserID.isSome = true
  userClass : env.userClass = .ok className
  classLength : className.length ≤ zisSecurityClassMaxLength
  storage : env.safeMalloc (zisGenresProfileEntrySize * parm.profilesToExtract) = true
  named : parm.startProfile = some startProfile
  noPrefix : isPrefixSearch (some startProfile) = false
  accepted : (env.radminRunRACFCommand (profilesCommand className)).apiStatus.racfRC = 0
  handled : (env.radminRunRACFCommand (profilesCommand className)).rc 0 = rcRadminOk
  noError : ∀ block ∈ (env.radminRunRACFCommand (profilesCommand className)).output.head?,
    tssIsErrorDetected (block.lines.headD []) = false

section

variable {utils : Utils} {env : GenresProfileEnv} {parm : GenresProfileParmList}
  {className : Text}

/-- The search leaves the place as it is. -/
theorem searchRound_lineData {search : GenresSearch} {startProfile : Text}
    {loop loop' : GenresLoop} (h : searchRound search startProfile loop parms = .inl loop') :
    loop'.parms.lineData = parms.lineData := by
  cases hloop : loop.foundAt with
  | some foundAt =>
    by_cases hzero : foundAt = 0
    all_goals
      simp only [searchRound, hloop, hzero, Option.isNone_some, Bool.false_and,
        Bool.false_eq_true, if_false, if_true] at h
      split at h
      next => cases h
      next =>
        cases h
        rfl
  | none =>
    cases hfound : findStartProfile parms.tmpResultBuffer parms.profilesExtracted startProfile with
    | none =>
      simp only [searchRound, hloop, hfound] at h
      split at h
      next => cases h
      next =>
        cases h
        rfl
    | some foundAt =>
      by_cases hzero : foundAt = 0
      · simp [searchRound, hloop, hfound, hzero] at h
      · simp only [searchRound, hloop, hfound, hzero, Option.isNone_none, Bool.true_and,
          beq_iff_eq, if_false] at h
        split at h
        next => cases h
        next =>
          cases h
          rfl

/-- The loop, once it is left, has a result: no handler reads beyond a block. -/
theorem genresLoop_isSome {search : GenresSearch} {startProfile : Option Text} {run : RadminRun}
    {rounds : Nat} {result : Option (Int × TssGenresProfileParms)}
    (h : loop (genresRound utils search startProfile run) rounds
      (.start search.profilesToExtract) = some result) : result.isSome = true := by
  refine loop_spec (fun loop => ∀ lineData ∈ loop.parms.lineData, lineData.InStep)
    (fun result => result.isSome = true) ?next ?exit nofun h
  all_goals
    intro loop after hstep hround
    obtain ⟨handlerRC, parms, hhandler, hstep'⟩ := genresProfileHandler_inStep utils search
      run.apiStatus run.output hstep
    simp only [genresRound, hhandler] at hround
    split at hround
  case next.isTrue => cases hround
  case next.isFalse =>
    split at hround
    next => cases hround
    next =>
      split at hround
      next hsearch =>
        cases hround
        rw [searchRound_lineData hsearch]
        exact hstep'
      next => cases hround
  case exit.isTrue =>
    cases hround
    rfl
  case exit.isFalse =>
    split at hround
    next =>
      cases hround
      rfl
    next =>
      split at hround
      next => cases hround
      next =>
        cases hround
        rfl

/-- The commands are done where the loop is: it is there for a start profile that is no prefix. -/
theorem extractProfiles_ends_iff :
    (∃ rounds, (extractProfiles utils env className parm rounds).isSome = true) ↔
      ∀ startProfile, parm.startProfile = some startProfile →
        isPrefixSearch (some startProfile) = false →
        Ends (genresRound utils ⟨parm.profilesToExtract, className, true⟩ (some startProfile)
          (env.radminRunRACFCommand (profilesCommand className)))
          (.start parm.profilesToExtract) := by
  cases hnamed : parm.startProfile with
  | none =>
    obtain ⟨handlerRC, parms, hhandler, -⟩ := genresProfileHandler_inStep utils
      ⟨parm.profilesToExtract, className, true⟩
      (env.radminRunRACFCommand (profilesCommand className)).apiStatus
      (env.radminRunRACFCommand (profilesCommand className)).output
      (start_inStep parm.profilesToExtract)
    refine iff_of_true ⟨1, ?_⟩ nofun
    simp only [extractProfiles, hnamed, isPrefixSearch, Option.any_none, Bool.false_eq_true,
      if_false, loop, genresRound, GenresLoop.start, hhandler, ite_self, Option.join_some,
      Option.isSome_some]
  | some startProfile =>
    cases hstart : isPrefixSearch (some startProfile) with
    | true =>
      obtain ⟨handlerRC, parms, hhandler, -⟩ := genresProfileHandler_inStep utils
        ⟨parm.profilesToExtract, className, false⟩
        (env.radminRunRACFCommand (prefixCommand className startProfile)).apiStatus
        (env.radminRunRACFCommand (prefixCommand className startProfile)).output
        (start_inStep parm.profilesToExtract)
      refine iff_of_true ⟨0, ?_⟩ ?_
      · simp only [extractProfiles, hnamed, hstart, if_true, Option.getD_some, hhandler,
          Option.map_some, Option.isSome_some]
      · rintro _ ⟨⟩ hnot
        rw [hstart] at hnot
        cases hnot
    | false =>
      have hextract : ∀ rounds, extractProfiles utils env className parm rounds =
          (loop (genresRound utils ⟨parm.profilesToExtract, className, true⟩ (some startProfile)
            (env.radminRunRACFCommand (profilesCommand className))) rounds
            (.start parm.profilesToExtract)).join := by
        intro rounds
        simp only [extractProfiles, hnamed, hstart, Bool.false_eq_true, if_false]
      constructor
      · rintro ⟨rounds, h⟩ _ ⟨⟩ -
        rw [hextract] at h
        refine ⟨rounds, ?_⟩
        cases hloop : loop (genresRound utils ⟨parm.profilesToExtract, className, true⟩
          (some startProfile) (env.radminRunRACFCommand (profilesCommand className))) rounds
          (.start parm.profilesToExtract) with
        | none => rw [hloop] at h; cases h
        | some result => rfl
      · intro h
        obtain ⟨rounds, hends⟩ := h startProfile rfl hstart
        obtain ⟨result, hloop⟩ := Option.isSome_iff_exists.mp hends
        refine ⟨rounds, ?_⟩
        rw [hextract, hloop]
        exact genresLoop_isSome hloop

/-- A call that comes to its commands is done where they are. -/
theorem service_ends_iff (hvalid : validateGenresProfileParmList parm = rcZisGrprfsrvOk)
    (hcaller : env.secmgmtGetCallerUserID.isSome = true) (hclass : env.userClass = .ok className)
    (hlength : className.length ≤ zisSecurityClassMaxLength)
    (hstorage : env.safeMalloc (zisGenresProfileEntrySize * parm.profilesToExtract) = true)
    (rounds : Nat) :
    (zisGenresProfilesServiceFunctionTSS utils rounds env (some parm)).isSome =
      (extractProfiles utils env className parm rounds).isSome := by
  obtain ⟨caller, hcaller⟩ := Option.isSome_iff_exists.mp hcaller
  simp only [zisGenresProfilesServiceFunctionTSS, hvalid, hcaller, hclass, hstorage,
    Nat.not_lt.mpr hlength, ne_eq, not_true_eq_false, if_false, Bool.not_true,
    Bool.false_eq_true, Option.isSome_map, extractWithOwners]

/-- **Exactly the calls whose search comes to an end return.** -/
theorem zisGenresProfilesServiceFunctionTSS_ends (utils : Utils) (env : GenresProfileEnv)
    (hrc : ∀ command handlerRC,
      (env.radminRunRACFCommand command).rc handlerRC = rcRadminOk → handlerRC = 0)
    (parm : Option GenresProfileParmList) :
    (∃ rounds, (zisGenresProfilesServiceFunctionTSS utils rounds env parm).isSome = true) ↔
      ∀ request className startProfile, parm = some request →
        Searches env request className startProfile →
        SearchComesToEnd utils ⟨request.profilesToExtract, className, true⟩ startProfile
          (outputLines (env.radminRunRACFCommand (profilesCommand className)).output) := by
  constructor
  · rintro ⟨rounds, h⟩ request className startProfile rfl searches
    rw [service_ends_iff searches.valid searches.caller searches.userClass searches.classLength
      searches.storage] at h
    have hends := extractProfiles_ends_iff.mp ⟨rounds, h⟩ startProfile searches.named
      searches.noPrefix
    exact (genresLoop_ends_iff ⟨request.profilesToExtract, className, true⟩ (hrc _)).mp hends
      searches.accepted searches.handled searches.noError
  · intro h
    cases parm with
    | none => exact ⟨0, rfl⟩
    | some request =>
      by_cases hvalid : validateGenresProfileParmList request = rcZisGrprfsrvOk
      case neg => exact ⟨0, by simp [zisGenresProfilesServiceFunctionTSS, hvalid]⟩
      cases hcaller : env.secmgmtGetCallerUserID with
      | none => exact ⟨0, by simp [zisGenresProfilesServiceFunctionTSS, hvalid, hcaller]⟩
      | some caller =>
        cases hclass : env.userClass with
        | error _ =>
          exact ⟨0, by simp [zisGenresProfilesServiceFunctionTSS, hvalid, hcaller, hclass]⟩
        | ok className =>
          by_cases hlength : className.length ≤ zisSecurityClassMaxLength
          case neg =>
            exact ⟨0, by simp [zisGenresProfilesServiceFunctionTSS, hvalid, hcaller, hclass,
              Nat.not_le.mp hlength]⟩
          cases hstorage : env.safeMalloc
              (zisGenresProfileEntrySize * request.profilesToExtract) with
          | false =>
            exact ⟨0, by simp [zisGenresProfilesServiceFunctionTSS, hvalid, hcaller, hclass,
              Nat.not_lt.mpr hlength, hstorage]⟩
          | true =>
            have hcaller' : env.secmgmtGetCallerUserID.isSome = true := by rw [hcaller]; rfl
            simp only [service_ends_iff hvalid hcaller' hclass hlength hstorage]
            refine extractProfiles_ends_iff.mpr fun startProfile hnamed hstart => ?_
            refine (genresLoop_ends_iff ⟨request.profilesToExtract, className, true⟩ (hrc _)).mpr
              fun haccepted hhandled hnoError => ?_
            exact h request className startProfile rfl ⟨hvalid, hcaller', hclass, hlength, hstorage,
              hnamed, hstart, haccepted, hhandled, hnoError⟩

end

/-! ## Two searches -/

/-- An environment whose commands all have one output. -/
def listingEnv (output : RadminCommandOutput) : GenresProfileEnv where
  secmgmtGetCallerUserID := some "JOE".toList
  userClass := .ok "DATASET".toList
  safeMalloc _ := true
  radminRunRACFCommand _ :=
    { apiStatus := ⟨0, 0, 0⟩
      reasonCode := 0
      output := [output]
      rc := fun handlerRC => if handlerRC = 0 then 0 else 8 }

/-- A request for profiles from `SYS1.B` on. -/
def fromSys1B (profilesToExtract : Nat) : GenresProfileParmList where
  eyecatcher := zisGresprofServiceParmlistEyecatcher
  classLength := 0
  startProfileLength := 6
  startProfileValue := "SYS1.B".toList
  profilesToExtract := profilesToExtract
  resultBuffer := true

/-- A listing of one profile. -/
def endedListing : RadminCommandOutput :=
  ⟨["DATASET = SYS1.A  OWNER(JOE)    ".toList, "TSS0300I".toList], by decide⟩

/-- The same without the line that ends a command. -/
def openListing : RadminCommandOutput :=
  ⟨["DATASET = SYS1.A  OWNER(JOE)    ".toList], by decide⟩

theorem listingEnv_rc (output : RadminCommandOutput) (command : Text) (handlerRC : Int)
    (h : ((listingEnv output).radminRunRACFCommand command).rc handlerRC = rcRadminOk) :
    handlerRC = 0 := by
  by_contra hne
  rw [listingEnv] at h
  simp only [if_neg hne] at h
  cases h

/-- The search over a listing returns. -/
theorem ended_search_returns : ∃ rounds, (zisGenresProfilesServiceFunctionTSS Utils.plain rounds
    (listingEnv endedListing) (some (fromSys1B 1))).isSome = true := by
  refine (zisGenresProfilesServiceFunctionTSS_ends Utils.plain (listingEnv endedListing)
    (listingEnv_rc endedListing) (some (fromSys1B 1))).mpr ?_
  rintro _ className startProfile ⟨⟩ -
  have hpos : (fromSys1B 1).profilesToExtract ≠ 0 := Nat.one_ne_zero
  simp only [SearchComesToEnd, if_neg hpos]
  have hdone : "TSS0300I".toList ∈ outputLines [endedListing] := by decide
  exact .inl (comesToEnd_of_done hdone (by decide) _)

/-- The search for `SYS1.B` over a listing goes round and round where its search does not come to
an end. -/
theorem not_returns_of_search {output : RadminCommandOutput} {profilesToExtract : Nat}
    (hnoError : tssIsErrorDetected (output.lines.headD []) = false)
    (h : ¬ SearchComesToEnd Utils.plain ⟨profilesToExtract, "DATASET".toList, true⟩
      "SYS1.B".toList (outputLines [output])) :
    ¬ ∃ rounds, (zisGenresProfilesServiceFunctionTSS Utils.plain rounds (listingEnv output)
      (some (fromSys1B profilesToExtract))).isSome = true := by
  have hservice : ∀ rounds, (zisGenresProfilesServiceFunctionTSS Utils.plain rounds
      (listingEnv output) (some (fromSys1B profilesToExtract))).isSome =
      (extractProfiles Utils.plain (listingEnv output) "DATASET".toList
        (fromSys1B profilesToExtract) rounds).isSome :=
    service_ends_iff (by rfl) rfl rfl (by decide) rfl
  simp only [hservice]
  intro hreturns
  have hends := extractProfiles_ends_iff.mp hreturns "SYS1.B".toList (by rfl) (by decide)
  refine h ((genresLoop_ends_iff ⟨profilesToExtract, "DATASET".toList, true⟩
    (listingEnv_rc output _)).mp hends rfl rfl ?_)
  rintro _ ⟨⟩
  exact hnoError

/-- Neither an output that just stops nor a request for no profiles lets the search return. -/
theorem open_search_goes_on :
    (¬ ∃ rounds, (zisGenresProfilesServiceFunctionTSS Utils.plain rounds
      (listingEnv openListing) (some (fromSys1B 1))).isSome = true) ∧
    ¬ ∃ rounds, (zisGenresProfilesServiceFunctionTSS Utils.plain rounds
      (listingEnv endedListing) (some (fromSys1B 0))).isSome = true := by
  constructor
  · refine not_returns_of_search (by decide) ?_
    rw [SearchComesToEnd, if_neg (by decide)]
    decide +kernel
  · refine not_returns_of_search (by decide) ?_
    rw [SearchComesToEnd, if_pos rfl]
    rintro ⟨_, ⟨⟩, hdone⟩
    revert hdone
    decide

end Zss.Tss
