import Mathlib.Logic.Function.Basic

/-!
# Pause elements

A pause element lets one task wait for a release code that another task gives it. Whoever holds its
current token may release it; the pause that takes the code changes the token, so a release with a
token taken earlier finds nobody. A release that comes before the pause is kept, and the pause then
returns at once. A second release before the code was taken fails.

A program that keeps several elements refers to them by slot. `Table` is such an array, changed one
slot at a time.
-/

namespace Zss.Lib

/-- The state of an element: nobody waits, somebody waits, or a code is there to be taken. -/
inductive PeState where
  | reset
  | paused
  | released (code : Nat)
deriving DecidableEq

/-- A pause element with its current token. -/
structure PauseElement where
  token : Nat
  state : PeState
deriving DecidableEq

namespace PauseElement

/-- An element as it is allocated. -/
def fresh : PauseElement := ⟨0, .reset⟩

/-- A release with a token; `none` where it fails. -/
def release (pe : PauseElement) (token code : Nat) : Option PauseElement :=
  if token ≠ pe.token then none
  else
    match pe.state with
    | .released _ => none
    | .reset | .paused => some { pe with state := .released code }

/-- The element after a release, successful or not. -/
def releaseD (pe : PauseElement) (token code : Nat) : PauseElement :=
  (pe.release token code).getD pe

/-- A task starts to wait, or finds its code there already. -/
def pause (pe : PauseElement) : PauseElement :=
  match pe.state with
  | .reset => { pe with state := .paused }
  | .paused | .released _ => pe

/-- The pausing task takes the code, and the token changes. -/
def take (pe : PauseElement) : Option (PauseElement × Nat) :=
  match pe.state with
  | .released code => some (⟨pe.token + 1, .reset⟩, code)
  | .reset | .paused => none

/-- A release, read backwards. -/
theorem release_some {pe pe' : PauseElement} {token code : Nat}
    (h : pe.release token code = some pe') :
    token = pe.token ∧ (∀ c, pe.state ≠ .released c) ∧ pe' = ⟨pe.token, .released code⟩ := by
  unfold release at h
  split at h
  · cases h
  · next htoken =>
    split at h
    · cases h
    · next hstate =>
      cases h
      exact ⟨not_not.mp htoken, fun c => by rw [hstate]; exact fun h => (by cases h), rfl⟩
    · next hstate =>
      cases h
      exact ⟨not_not.mp htoken, fun c => by rw [hstate]; exact fun h => (by cases h), rfl⟩

/-- A release that fails met another token or a code that was not taken yet. -/
theorem release_none {pe : PauseElement} {token code : Nat} (h : pe.release token code = none) :
    token ≠ pe.token ∨ ∃ c, pe.state = .released c := by
  unfold release at h
  split at h
  · next htoken => exact .inl htoken
  · split at h
    · next c hstate => exact .inr ⟨c, hstate⟩
    · cases h
    · cases h

/-- A release changes the state at most, and only to the code released. -/
theorem releaseD_cases (pe : PauseElement) (token code : Nat) :
    pe.releaseD token code = pe ∨
      (token = pe.token ∧ (∀ c, pe.state ≠ .released c) ∧
        pe.releaseD token code = ⟨pe.token, .released code⟩) := by
  unfold releaseD
  cases h : pe.release token code with
  | none => exact .inl rfl
  | some pe' =>
    obtain ⟨htoken, hstate, rfl⟩ := release_some h
    exact .inr ⟨htoken, hstate, rfl⟩

@[simp] theorem releaseD_token (pe : PauseElement) (token code : Nat) :
    (pe.releaseD token code).token = pe.token := by
  rcases releaseD_cases pe token code with h | ⟨-, -, h⟩ <;> rw [h]

/-- Taking a code, read backwards. -/
theorem take_some {pe pe' : PauseElement} {code : Nat} (h : pe.take = some (pe', code)) :
    pe.state = .released code ∧ pe' = ⟨pe.token + 1, .reset⟩ := by
  unfold take at h
  split at h
  · next c hstate =>
    cases h
    exact ⟨hstate, rfl⟩
  · cases h
  · cases h

/-- A pause changes the state at most, and only from `reset` to `paused`. -/
theorem pause_cases (pe : PauseElement) :
    (pe.state = .reset ∧ pe.pause = ⟨pe.token, .paused⟩) ∨ (pe.state ≠ .reset ∧ pe.pause = pe) := by
  unfold pause
  split
  · next h => exact .inl ⟨h, rfl⟩
  · next h => exact .inr ⟨by rw [h]; exact fun h => (by cases h), rfl⟩
  · next c h => exact .inr ⟨by rw [h]; exact fun h => (by cases h), rfl⟩

end PauseElement

end Zss.Lib
