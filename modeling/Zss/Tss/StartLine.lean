import Zss.Tss.KeyFields
import Zss.Tss.LineWalk

/-!
# The line to start from

`findLineOfStart` of `secmgmttss.c` goes over the lines of a block for the value a handler is to
start from, and its callers go with it from block to block. The offset it counts is its callers' as
well: they set it before the first block and leave it as it is for the next ones. From the second
block on it is ahead of the line, so that the last lines of a block are not gone over.
-/

namespace Zss.Tss

/-! ## The search -/

/-- How the search leaves a block, with the offset it has come to. -/
inductive StartSearch where
  | found (offsetInBlock : Nat) (lines : List Text)
  | missed (offsetInBlock : Nat)

/-- The line to start from and all that is behind it. -/
structure StartPlace where
  lastByteOffset : Nat
  offsetInBlock : Nat
  lines : List Text
  blocks : List RadminCommandOutput

section

variable (utils : Utils) (searchKey searchValue : Text) (searchValueMaxLength : Nat)

/-- Whether a line has the value; none where the search of a block ends there without it. -/
def startLine (line : Text) : Option Bool :=
  if tssIsOutputDone line then none
  else
    match tssParseLineForKeys utils line with
    | none => none
    | some (0, _) => some false
    | some (numberOfKeys + 1, keys) =>
      match tssFindDesiredKey searchKey keys with
      | none => some false
      | some keyIndex =>
        match tssFindValueForKey utils line line.length keys keyIndex (numberOfKeys + 1)
          (zeroBuffer searchValueMaxLength) with
        | none => none
        | some value =>
          let tmpBuffer := value ++ zeroBuffer (tssMaxValueLen - searchValueMaxLength)
          match tssGetActualValueLength tmpBuffer with
          | none => none
          | some valueLen =>
            some (valueLen = searchValue.length ∧ tmpBuffer.take searchValue.length = searchValue)

/-- The lines `findLineOfStart` goes over; none where it reads past the block. -/
def startInLines (maxOffsetInBlock : Nat) (offsetInBlock : Nat) :
    List Text → Option StartSearch
  | [] => if offsetInBlock < maxOffsetInBlock then none else some (.missed offsetInBlock)
  | line :: lines =>
    if offsetInBlock < maxOffsetInBlock then
      match startLine utils searchKey searchValue searchValueMaxLength line with
      | none => some (.missed offsetInBlock)
      | some true => some (.found offsetInBlock (line :: lines))
      | some false => startInLines maxOffsetInBlock (offsetInBlock + line.length + 2) lines
    else some (.missed offsetInBlock)

/-- `findLineOfStart`. -/
def findLineOfStart (maxOffsetInBlock offsetInBlock : Nat) (lines : List Text) :
    Option StartSearch :=
  if searchValueMaxLength > tssMaxValueLen then some (.missed offsetInBlock)
  else
    startInLines utils searchKey searchValue searchValueMaxLength maxOffsetInBlock offsetInBlock
      lines

/-- The search from block to block, with an offset: none where it reads past a block, and where the
line is, if it is anywhere. -/
def findStart (offsetInBlock : Nat) : List RadminCommandOutput → Option (Option StartPlace)
  | [] => some none
  | block :: blocks =>
    match findLineOfStart utils searchKey searchValue searchValueMaxLength block.lastByteOffset
      offsetInBlock block.lines with
    | none => none
    | some (.found offsetInBlock lines) =>
      some (some ⟨block.lastByteOffset, offsetInBlock, lines, blocks⟩)
    | some (.missed offsetInBlock) => findStart offsetInBlock blocks

end

/-- The lines from a place on. -/
def walkFrom {σ : Type} (stops : σ → Text → Bool) (step : σ → Text → Option σ) (state : σ)
    (place : StartPlace) : Option (LineWalk σ) :=
  match lineWalk stops step place.lastByteOffset place.offsetInBlock state place.lines with
  | some (.passed state) => blockWalk stops step state place.blocks
  | result => result

/-! ## Offsets ahead -/

/-- The number of lines of a block that begin before an offset. -/
def linesWithin (last offset : Nat) : List Text → Nat
  | [] => 0
  | line :: lines =>
    if offset < last then linesWithin last (offset + line.length + 2) lines + 1 else 0

/-- The offset behind blocks in which the line is not. -/
def carriedOffset (offset : Nat) : List (List Text) → Nat
  | [] => offset
  | lines :: blocks =>
    let within := linesWithin (firstLineOffset + linesSize lines) offset lines
    carriedOffset (offset + linesSize (lines.take within)) blocks

theorem linesSize_append (before after : List Text) :
    linesSize (before ++ after) = linesSize before + linesSize after := by
  induction before with
  | nil => exact (Nat.zero_add _).symm
  | cons line before ih =>
    rw [List.cons_append, linesSize_cons, linesSize_cons, ih]
    omega

theorem linesWithin_cons (last offset : Nat) (line : Text) (lines : List Text) :
    linesWithin last offset (line :: lines) =
      if offset < last then linesWithin last (offset + line.length + 2) lines + 1 else 0 := rfl

/-- An offset in step hides no line. -/
theorem linesWithin_eq {last offset : Nat} {lines : List Text}
    (h : offset + linesSize lines ≤ last) : linesWithin last offset lines = lines.length := by
  induction lines generalizing offset with
  | nil => rfl
  | cons line lines ih =>
    rw [linesSize_cons] at h
    rw [linesWithin_cons, if_pos (by omega), ih (by omega), List.length_cons]

section

variable {σ : Type} {stops : σ → Text → Bool} {step : σ → Text → Option σ}

/-- An offset ahead visits the lines that begin before the end. -/
theorem lineWalk_ahead {last offset : Nat} {state : σ} {lines : List Text}
    (h : last ≤ offset + linesSize lines) :
    lineWalk stops step last offset state lines =
      some (plainWalk stops step state (lines.take (linesWithin last offset lines))) := by
  induction lines generalizing offset state with
  | nil =>
    rw [linesSize_nil, Nat.add_zero] at h
    rw [lineWalk_nil, if_neg (Nat.not_lt.mpr h), List.take_nil, plainWalk_nil]
  | cons line lines ih =>
    rw [linesSize_cons] at h
    rw [lineWalk_cons, linesWithin_cons]
    split
    next =>
      rw [List.take_succ_cons, plainWalk_cons]
      split
      next => rfl
      next =>
        split
        next => rfl
        next => exact ih (by omega)
    next => rw [List.take_zero, plainWalk_nil]

theorem walkFrom_ahead {state : σ} {place : StartPlace}
    (h : place.lastByteOffset ≤ place.offsetInBlock + linesSize place.lines) :
    walkFrom stops step state place =
      some (plainWalk stops step state
        (place.lines.take (linesWithin place.lastByteOffset place.offsetInBlock place.lines) ++
          outputLines place.blocks)) := by
  rw [walkFrom, lineWalk_ahead h, plainWalk_append]
  cases plainWalk stops step state
      (place.lines.take (linesWithin place.lastByteOffset place.offsetInBlock place.lines)) with
  | failed => rfl
  | stopped state => rfl
  | passed state => exact blockWalk_eq state place.blocks

end

/-! ## Where the search ends -/

section

variable {utils : Utils} {searchKey searchValue : Text} {searchValueMaxLength : Nat}

/-- The search goes past these lines. -/
def GoesPast (utils : Utils) (searchKey searchValue : Text) (searchValueMaxLength : Nat)
    (lines : List Text) : Prop :=
  ∀ line ∈ lines, startLine utils searchKey searchValue searchValueMaxLength line = some false

/-- The value is on none of these lines. -/
def NowhereIn (utils : Utils) (searchKey searchValue : Text) (searchValueMaxLength : Nat)
    (lines : List Text) : Prop :=
  ∀ line ∈ lines, startLine utils searchKey searchValue searchValueMaxLength line ≠ some true

theorem findLineOfStart_eq (hmax : searchValueMaxLength ≤ tssMaxValueLen) (last offset : Nat)
    (lines : List Text) :
    findLineOfStart utils searchKey searchValue searchValueMaxLength last offset lines =
      startInLines utils searchKey searchValue searchValueMaxLength last offset lines :=
  if_neg (Nat.not_lt.mpr hmax)

theorem startInLines_nil (last offset : Nat) :
    startInLines utils searchKey searchValue searchValueMaxLength last offset [] =
      if offset < last then none else some (.missed offset) := rfl

theorem startInLines_cons (last offset : Nat) (line : Text) (lines : List Text) :
    startInLines utils searchKey searchValue searchValueMaxLength last offset (line :: lines) =
      if offset < last then
        match startLine utils searchKey searchValue searchValueMaxLength line with
        | none => some (.missed offset)
        | some true => some (.found offset (line :: lines))
        | some false =>
          startInLines utils searchKey searchValue searchValueMaxLength last
            (offset + line.length + 2) lines
      else some (.missed offset) := rfl

theorem startInLines_missed {last offset : Nat} {lines : List Text}
    (hpast : GoesPast utils searchKey searchValue searchValueMaxLength lines)
    (h : last ≤ offset + linesSize lines) :
    startInLines utils searchKey searchValue searchValueMaxLength last offset lines =
      some (.missed (offset + linesSize (lines.take (linesWithin last offset lines)))) := by
  induction lines generalizing offset with
  | nil =>
    rw [linesSize_nil, Nat.add_zero] at h
    rw [startInLines_nil, if_neg (Nat.not_lt.mpr h), List.take_nil, linesSize_nil, Nat.add_zero]
  | cons line lines ih =>
    obtain ⟨hline, hlines⟩ := List.forall_mem_cons.mp hpast
    rw [linesSize_cons] at h
    rw [startInLines_cons, linesWithin_cons]
    split
    next =>
      simp only [hline]
      rw [ih hlines (by omega), List.take_succ_cons, linesSize_cons]
      simp only [Nat.add_assoc]
    next => rw [List.take_zero, linesSize_nil, Nat.add_zero]

/-- The line is found where the offset has not come to the end before it. -/
theorem startInLines_found {last offset : Nat} {before after : List Text} {line : Text}
    (hpast : GoesPast utils searchKey searchValue searchValueMaxLength before)
    (hline : startLine utils searchKey searchValue searchValueMaxLength line = some true)
    (h : offset + linesSize before < last) :
    startInLines utils searchKey searchValue searchValueMaxLength last offset
        (before ++ line :: after) =
      some (.found (offset + linesSize before) (line :: after)) := by
  induction before generalizing offset with
  | nil =>
    rw [linesSize_nil, Nat.add_zero] at h ⊢
    rw [List.nil_append, startInLines_cons, if_pos h]
    simp only [hline]
  | cons other before ih =>
    obtain ⟨hother, hbefore⟩ := List.forall_mem_cons.mp hpast
    rw [linesSize_cons] at h ⊢
    rw [List.cons_append, startInLines_cons, if_pos (by omega)]
    simp only [hother]
    rw [ih hbefore (by omega)]
    simp only [Nat.add_assoc]

/-- Lines that the offset hides do not matter. -/
theorem startInLines_hidden {last offset : Nat} {before after : List Text}
    (hpast : GoesPast utils searchKey searchValue searchValueMaxLength before)
    (h : last ≤ offset + linesSize before) :
    ∃ offset', offset ≤ offset' ∧
      startInLines utils searchKey searchValue searchValueMaxLength last offset
        (before ++ after) = some (.missed offset') := by
  induction before generalizing offset with
  | nil =>
    rw [linesSize_nil, Nat.add_zero] at h
    refine ⟨offset, Nat.le_refl _, ?_⟩
    cases after with
    | nil => rw [List.nil_append, startInLines_nil, if_neg (Nat.not_lt.mpr h)]
    | cons line after => rw [List.nil_append, startInLines_cons, if_neg (Nat.not_lt.mpr h)]
  | cons other before ih =>
    obtain ⟨hother, hbefore⟩ := List.forall_mem_cons.mp hpast
    rw [linesSize_cons] at h
    rw [List.cons_append, startInLines_cons]
    split
    next =>
      simp only [hother]
      obtain ⟨offset', hle, hmissed⟩ := @ih (offset + other.length + 2) hbefore (by omega)
      exact ⟨offset', by omega, hmissed⟩
    next => exact ⟨offset, Nat.le_refl _, rfl⟩

theorem startInLines_nowhere {last offset : Nat} {lines : List Text}
    (hnowhere : NowhereIn utils searchKey searchValue searchValueMaxLength lines)
    (h : last ≤ offset + linesSize lines) :
    ∃ offset', offset ≤ offset' ∧
      startInLines utils searchKey searchValue searchValueMaxLength last offset lines =
        some (.missed offset') := by
  induction lines generalizing offset with
  | nil =>
    rw [linesSize_nil, Nat.add_zero] at h
    refine ⟨offset, Nat.le_refl _, ?_⟩
    rw [startInLines_nil, if_neg (Nat.not_lt.mpr h)]
  | cons line lines ih =>
    obtain ⟨hline, hlines⟩ := List.forall_mem_cons.mp hnowhere
    rw [linesSize_cons] at h
    rw [startInLines_cons]
    split
    next =>
      split
      next => exact ⟨offset, Nat.le_refl _, rfl⟩
      next hfound => exact absurd hfound hline
      next =>
        obtain ⟨offset', hle, hmissed⟩ := @ih (offset + line.length + 2) hlines (by omega)
        exact ⟨offset', by omega, hmissed⟩
    next => exact ⟨offset, Nat.le_refl _, rfl⟩

theorem le_carriedOffset (offset : Nat) (blocks : List (List Text)) :
    offset ≤ carriedOffset offset blocks := by
  induction blocks generalizing offset with
  | nil => exact Nat.le_refl _
  | cons lines blocks ih => exact Nat.le_trans (Nat.le_add_right _ _) (ih _)

/-- An offset that is not behind the first line of a block is not behind its end. -/
theorem lastByteOffset_le {offset : Nat} (h : firstLineOffset ≤ offset)
    (block : RadminCommandOutput) :
    block.lastByteOffset ≤ offset + linesSize block.lines :=
  Nat.add_le_add_right h _

/-- Blocks without the line are gone past, and the offset is carried on. -/
theorem findStart_past (hmax : searchValueMaxLength ≤ tssMaxValueLen) {offset : Nat}
    (hoffset : firstLineOffset ≤ offset) {before : List RadminCommandOutput}
    (hpast : GoesPast utils searchKey searchValue searchValueMaxLength (outputLines before))
    (after : List RadminCommandOutput) :
    findStart utils searchKey searchValue searchValueMaxLength offset (before ++ after) =
      findStart utils searchKey searchValue searchValueMaxLength
        (carriedOffset offset (before.map (·.lines))) after := by
  induction before generalizing offset with
  | nil => rfl
  | cons block before ih =>
    rw [outputLines, List.flatMap_cons] at hpast
    have hblock : GoesPast utils searchKey searchValue searchValueMaxLength block.lines :=
      fun line h => hpast line (List.mem_append_left _ h)
    rw [List.cons_append, findStart, findLineOfStart_eq hmax,
      startInLines_missed hblock (lastByteOffset_le hoffset block)]
    exact ih (Nat.le_trans hoffset (Nat.le_add_right _ _))
      fun line h => hpast line (List.mem_append_right _ h)

theorem findStart_nowhere (hmax : searchValueMaxLength ≤ tssMaxValueLen) {offset : Nat}
    (hoffset : firstLineOffset ≤ offset) {blocks : List RadminCommandOutput}
    (hnowhere : NowhereIn utils searchKey searchValue searchValueMaxLength (outputLines blocks)) :
    findStart utils searchKey searchValue searchValueMaxLength offset blocks = some none := by
  induction blocks generalizing offset with
  | nil => rfl
  | cons block blocks ih =>
    rw [outputLines, List.flatMap_cons] at hnowhere
    have hblock : NowhereIn utils searchKey searchValue searchValueMaxLength block.lines :=
      fun line h => hnowhere line (List.mem_append_left _ h)
    obtain ⟨offset', hle, hmissed⟩ :=
      startInLines_nowhere hblock (lastByteOffset_le hoffset block)
    rw [findStart, findLineOfStart_eq hmax, hmissed]
    exact ih (Nat.le_trans hoffset hle) fun line h => hnowhere line (List.mem_append_right _ h)

/-- **The start is found** where the offset carried to its block has not come to the end of the
block before it, and else it is not. -/
theorem findStart_eq (hmax : searchValueMaxLength ≤ tssMaxValueLen)
    {before after : List RadminCommandOutput} {block : RadminCommandOutput}
    {lines rest : List Text} {line : Text} (hblock : block.lines = lines ++ line :: rest)
    (hbefore : GoesPast utils searchKey searchValue searchValueMaxLength (outputLines before))
    (hlines : GoesPast utils searchKey searchValue searchValueMaxLength lines)
    (hline : startLine utils searchKey searchValue searchValueMaxLength line = some true)
    (hafter : NowhereIn utils searchKey searchValue searchValueMaxLength (outputLines after)) :
    findStart utils searchKey searchValue searchValueMaxLength firstLineOffset
        (before ++ block :: after) =
      some (if carriedOffset firstLineOffset (before.map (·.lines)) + linesSize lines <
          block.lastByteOffset then
        some ⟨block.lastByteOffset,
          carriedOffset firstLineOffset (before.map (·.lines)) + linesSize lines, line :: rest,
          after⟩
      else none) := by
  have hcarried := le_carriedOffset firstLineOffset (before.map (·.lines))
  rw [findStart_past hmax (Nat.le_refl _) hbefore, findStart, findLineOfStart_eq hmax, hblock]
  by_cases hshown : carriedOffset firstLineOffset (before.map (·.lines)) + linesSize lines <
      block.lastByteOffset
  · rw [startInLines_found hlines hline hshown, if_pos hshown]
  · obtain ⟨offset', hle, hmissed⟩ := @startInLines_hidden utils searchKey searchValue
      searchValueMaxLength block.lastByteOffset _ lines (line :: rest) hlines
      (Nat.le_of_not_lt hshown)
    rw [hmissed, if_neg hshown]
    exact findStart_nowhere hmax (Nat.le_trans hcarried hle) hafter

end

end Zss.Tss
