import Mathlib.Data.Sum.Basic

/-!
# Loops left from the inside

A loop without a condition of its own, `do { ... } while (1)`, goes from state to state until its
body leaves it with a result. `loop` runs it with fuel; `Ends` is that some fuel is enough. What the
body keeps to holds until the end (`loop_spec`); a loop does not end in a set of states that its body
never leaves (`not_ends_of_invariant`). `Reaches` puts rounds together to larger steps; with a number
that gets smaller a loop comes to an end (`loop_total`).
-/

namespace Zss.Lib

universe u v

variable {σ : Type u} {ρ : Type v} (body : σ → σ ⊕ ρ)

/-- The loop with so many rounds at most. -/
def loop : Nat → σ → Option ρ
  | 0, _ => none
  | rounds + 1, s =>
    match body s with
    | .inl s => loop rounds s
    | .inr result => some result

/-- The loop comes to an end. -/
def Ends (s : σ) : Prop := ∃ rounds, (loop body rounds s).isSome = true

variable {body}

theorem loop_succ (rounds : Nat) (s : σ) :
    loop body (rounds + 1) s =
      match body s with
      | .inl s => loop body rounds s
      | .inr result => some result := rfl

theorem Ends.of_exit {s : σ} (result : ρ) (h : body s = .inr result) : Ends body s :=
  ⟨1, by rw [loop_succ, h]; rfl⟩

/-- A round that goes on ends if what it goes on with does. -/
theorem ends_next_iff {s s' : σ} (h : body s = .inl s') : Ends body s ↔ Ends body s' := by
  constructor
  · rintro ⟨rounds, hrounds⟩
    cases rounds with
    | zero => cases hrounds
    | succ rounds =>
      rw [loop_succ, h] at hrounds
      exact ⟨rounds, hrounds⟩
  · rintro ⟨rounds, hrounds⟩
    refine ⟨rounds + 1, ?_⟩
    rw [loop_succ, h]
    exact hrounds

/-- A loop comes to one result, with whatever fuel it ends. -/
theorem loop_unique {rounds rounds' : Nat} {s : σ} {result result' : ρ}
    (h : loop body rounds s = some result) (h' : loop body rounds' s = some result') :
    result = result' := by
  induction rounds generalizing rounds' s with
  | zero => cases h
  | succ rounds ih =>
    cases rounds' with
    | zero => cases h'
    | succ rounds' =>
      rw [loop_succ] at h h'
      split at h
      next s' hbody =>
        rw [hbody] at h'
        exact ih h h'
      next exit hbody =>
        rw [hbody] at h'
        exact (Option.some.inj h).symm.trans (Option.some.inj h')

/-- A loop does not end in a set of states that its body keeps to. -/
theorem not_ends_of_invariant (inv : σ → Prop) (hinv : ∀ s, inv s → ∃ s', body s = .inl s' ∧ inv s')
    {s : σ} (h : inv s) : ¬ Ends body s := by
  rintro ⟨rounds, hrounds⟩
  induction rounds generalizing s with
  | zero => cases hrounds
  | succ rounds ih =>
    obtain ⟨s', hs, hs'⟩ := hinv s h
    rw [loop_succ, hs] at hrounds
    exact ih hs' hrounds

/-- A loop that is over gave a result that its body gives in a state of the invariant. -/
theorem loop_spec (inv : σ → Prop) (post : ρ → Prop)
    (hnext : ∀ s s', inv s → body s = .inl s' → inv s')
    (hexit : ∀ s result, inv s → body s = .inr result → post result)
    {rounds : Nat} {s : σ} {result : ρ} (h : inv s) (hloop : loop body rounds s = some result) :
    post result := by
  induction rounds generalizing s with
  | zero => cases hloop
  | succ rounds ih =>
    rw [loop_succ] at hloop
    split at hloop
    next s' hbody => exact ih (hnext s s' h hbody) hloop
    next result' hbody =>
      cases hloop
      exact hexit s result h hbody

/-! ## Rounds put together -/

variable (body) in
/-- Some rounds lead from one state to another. -/
def Reaches (s s' : σ) : Prop := ∃ k, ∀ rounds, loop body (rounds + k) s = loop body rounds s'

theorem Reaches.refl (s : σ) : Reaches body s s := ⟨0, fun _ => rfl⟩

theorem Reaches.next {s s' s'' : σ} (h : body s = .inl s') (rest : Reaches body s' s'') :
    Reaches body s s'' := by
  obtain ⟨k, hk⟩ := rest
  refine ⟨k + 1, fun rounds => ?_⟩
  rw [← Nat.add_assoc, loop_succ, h]
  exact hk rounds

theorem Reaches.trans {s s' s'' : σ} (first : Reaches body s s') (rest : Reaches body s' s'') :
    Reaches body s s'' := by
  obtain ⟨k, hk⟩ := first
  obtain ⟨l, hl⟩ := rest
  refine ⟨l + k, fun rounds => ?_⟩
  rw [← Nat.add_assoc, hk, hl]

/-- A loop that reaches a state that is left comes to an end with what it is left with. -/
theorem Reaches.result {s s' : σ} {result : ρ} (h : Reaches body s s')
    (exit : body s' = .inr result) :
    ∃ enough, ∀ rounds ≥ enough, loop body rounds s = some result := by
  obtain ⟨k, hk⟩ := h
  refine ⟨k + 1, fun rounds hrounds => ?_⟩
  obtain ⟨n, rfl⟩ := Nat.exists_eq_add_of_le hrounds
  rw [show k + 1 + n = n + 1 + k by omega, hk, loop_succ, exit]

/-- A loop comes to an end if each round that goes on keeps to an invariant and makes a number
smaller. -/
theorem loop_total (inv : σ → Prop) (post : ρ → Prop) (variant : σ → Nat)
    (hround : ∀ s, inv s → (∃ s', body s = .inl s' ∧ inv s' ∧ variant s' < variant s) ∨
      ∃ result, body s = .inr result ∧ post result) {s : σ} (h : inv s) :
    ∃ result, post result ∧ ∃ enough, ∀ rounds ≥ enough, loop body rounds s = some result := by
  have hleft : ∀ n s, variant s = n → inv s →
      ∃ s' result, Reaches body s s' ∧ body s' = .inr result ∧ post result := by
    intro n
    induction n using Nat.strongRecOn with
    | ind n ih =>
      intro s hn hs
      rcases hround s hs with ⟨s', hbody, hs', hlt⟩ | ⟨result, hbody, hpost⟩
      · obtain ⟨last, result, hreaches, hlast, hpost⟩ := ih (variant s') (hn ▸ hlt) s' rfl hs'
        exact ⟨last, result, .next hbody hreaches, hlast, hpost⟩
      · exact ⟨s, result, .refl s, hbody, hpost⟩
  obtain ⟨last, result, hreaches, hlast, hpost⟩ := hleft (variant s) s rfl h
  exact ⟨result, hpost, hreaches.result hlast⟩

end Zss.Lib
