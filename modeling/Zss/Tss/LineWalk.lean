import Zss.Tss.Parsing

/-!
# Going over the lines of an output

The handlers of `secmgmttss.c` go over a block from line to line while an offset, which is counted
beside the pointer to the line, is below the block's `lastByteOffset`. Where the two are in step,
the lines of the block are visited; where the offset lags behind, the pointer gets past the last
line and what is read there is not a line of the output (`lineWalk` has no result then).
-/

namespace Zss.Tss

/-! ## Walks -/

/-- How a handler leaves the lines: with an error, by its return, or past the last. -/
inductive LineWalk (σ : Type) where
  | failed
  | stopped (state : σ)
  | passed (state : σ)

section

variable {σ : Type} (stops : σ → Text → Bool) (step : σ → Text → Option σ)

/-- The lines of a block, by the offset. -/
def lineWalk (lastByteOffset : Nat) (offsetInBlock : Nat) (state : σ) :
    List Text → Option (LineWalk σ)
  | [] => if offsetInBlock < lastByteOffset then none else some (.passed state)
  | line :: lines =>
    if offsetInBlock < lastByteOffset then
      if stops state line then some (.stopped state)
      else
        match step state line with
        | none => some .failed
        | some state => lineWalk lastByteOffset (offsetInBlock + line.length + 2) state lines
    else some (.passed state)

/-- The blocks, each from its first line. -/
def blockWalk (state : σ) : List RadminCommandOutput → Option (LineWalk σ)
  | [] => some (.passed state)
  | block :: blocks =>
    match lineWalk stops step block.lastByteOffset firstLineOffset state block.lines with
    | some (.passed state) => blockWalk state blocks
    | result => result

/-- The lines without the offset. -/
def plainWalk (state : σ) : List Text → LineWalk σ
  | [] => .passed state
  | line :: lines =>
    if stops state line then .stopped state
    else
      match step state line with
      | none => .failed
      | some state => plainWalk state lines

end

/-! ## Walks in step -/

section

variable {σ : Type} {stops : σ → Text → Bool} {step : σ → Text → Option σ}

theorem linesSize_nil : linesSize [] = 0 := rfl

theorem linesSize_cons (line : Text) (lines : List Text) :
    linesSize (line :: lines) = line.length + 2 + linesSize lines := rfl

theorem lineWalk_nil (last offset : Nat) (state : σ) :
    lineWalk stops step last offset state [] =
      if offset < last then none else some (.passed state) := rfl

theorem lineWalk_cons (last offset : Nat) (state : σ) (line : Text) (lines : List Text) :
    lineWalk stops step last offset state (line :: lines) =
      if offset < last then
        if stops state line then some (.stopped state)
        else
          match step state line with
          | none => some .failed
          | some state => lineWalk stops step last (offset + line.length + 2) state lines
      else some (.passed state) := rfl

theorem plainWalk_nil (state : σ) : plainWalk stops step state [] = .passed state := rfl

theorem plainWalk_cons (state : σ) (line : Text) (lines : List Text) :
    plainWalk stops step state (line :: lines) =
      if stops state line then .stopped state
      else
        match step state line with
        | none => .failed
        | some state => plainWalk stops step state lines := rfl

/-- An offset in step visits the lines of the block. -/
theorem lineWalk_eq {last offset : Nat} {state : σ} {lines : List Text}
    (h : offset + linesSize lines = last) :
    lineWalk stops step last offset state lines = some (plainWalk stops step state lines) := by
  induction lines generalizing offset state with
  | nil =>
    rw [linesSize_nil] at h
    rw [lineWalk_nil, if_neg (by omega), plainWalk_nil]
  | cons line lines ih =>
    rw [linesSize_cons] at h
    rw [lineWalk_cons, if_pos (by omega), plainWalk_cons]
    split
    next => rfl
    next =>
      split
      next => rfl
      next => exact ih (by omega)

/-- An offset that lags behind gets past the last line, unless the walk ends before. -/
theorem lineWalk_lag {last offset : Nat} {state : σ} {lines : List Text}
    (h : offset + linesSize lines < last) :
    lineWalk stops step last offset state lines =
      match plainWalk stops step state lines with
      | .passed _ => none
      | result => some result := by
  induction lines generalizing offset state with
  | nil => rw [lineWalk_nil, if_pos (Nat.lt_of_le_of_lt (Nat.le_add_right ..) h), plainWalk_nil]
  | cons line lines ih =>
    rw [linesSize_cons] at h
    rw [lineWalk_cons, if_pos (by omega), plainWalk_cons]
    split
    next => rfl
    next =>
      split
      next => rfl
      next => exact ih (by omega)

theorem plainWalk_append (state : σ) (before after : List Text) :
    plainWalk stops step state (before ++ after) =
      match plainWalk stops step state before with
      | .passed state => plainWalk stops step state after
      | result => result := by
  induction before generalizing state with
  | nil => rfl
  | cons line before ih =>
    rw [List.cons_append, plainWalk_cons, plainWalk_cons]
    split
    next => rfl
    next =>
      split
      next => rfl
      next => exact ih _

/-- **Blocks are visited as one.** With every block begun at its first line, the blocks are walked
as their lines one after the other. -/
theorem blockWalk_eq (state : σ) (blocks : List RadminCommandOutput) :
    blockWalk stops step state blocks =
      some (plainWalk stops step state (outputLines blocks)) := by
  induction blocks generalizing state with
  | nil => rfl
  | cons block blocks ih =>
    have hblock : firstLineOffset + linesSize block.lines = block.lastByteOffset := rfl
    rw [blockWalk, lineWalk_eq hblock, outputLines, List.flatMap_cons, plainWalk_append]
    cases plainWalk stops step state block.lines with
    | failed => rfl
    | stopped state => rfl
    | passed state => exact ih state

/-- A line that is gone past. -/
theorem plainWalk_step {state next : σ} {line : Text} {lines : List Text}
    (hstops : stops state line = false) (hstep : step state line = some next) :
    plainWalk stops step state (line :: lines) = plainWalk stops step next lines := by
  rw [plainWalk_cons, hstops, hstep]
  rfl

theorem plainWalk_stop {state : σ} {line : Text} {lines : List Text}
    (hstops : stops state line = true) :
    plainWalk stops step state (line :: lines) = .stopped state := by
  rw [plainWalk_cons, if_pos hstops]

end

end Zss.Tss
