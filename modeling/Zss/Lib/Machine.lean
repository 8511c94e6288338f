import Mathlib.Data.List.Basic

/-!
# Machines and their runs

A machine is a partial step function over labelled steps: the label carries every outcome the
program does not decide, so a run is a list of labels and the state after it is a function of
them. Two notions are all a safety argument needs. `run` is the state a list of labels leads to,
and `Meets` says that each step of the list, taken in the state it is taken in, satisfies a
condition. Whatever the conditioned steps preserve holds in every state that a run visits whose steps
meet the condition (`Machine.visits_keeps`); the last one is that which `run` leads to.
-/

namespace Zss.Lib

universe u v

/-- A labelled step function; `none` where the label is not enabled. -/
structure Machine (σ : Type u) (ε : Type v) where
  step : σ → ε → Option σ

namespace Machine

variable {σ : Type u} {ε : Type v} (m : Machine σ ε)

/-- The state a list of labels leads to. -/
def run : σ → List ε → Option σ
  | s, [] => some s
  | s, e :: es => (m.step s e).bind fun t => run t es

/-- Each step of the list satisfies `C` in the state it is taken in. -/
def Meets (C : σ → ε → Prop) : σ → List ε → Prop
  | _, [] => True
  | s, e :: es => C s e ∧ ∀ t, m.step s e = some t → Meets C t es

/-- The states on the way of a list of labels, its start included. -/
inductive Visits : σ → List ε → σ → Prop
  | here (s : σ) (es : List ε) : Visits s es s
  | next {s t u : σ} {e : ε} {es : List ε} :
      m.step s e = some t → Visits t es u → Visits s (e :: es) u

@[simp] theorem run_nil (s : σ) : m.run s [] = some s := rfl

theorem run_cons (s : σ) (e : ε) (es : List ε) :
    m.run s (e :: es) = (m.step s e).bind fun t => m.run t es := rfl

/-- A run read backwards at its first step. -/
theorem run_cons_some {s u : σ} {e : ε} {es : List ε} (h : m.run s (e :: es) = some u) :
    ∃ t, m.step s e = some t ∧ m.run t es = some u :=
  Option.bind_eq_some_iff.mp h

/-- A run continued by a run is a run. -/
theorem run_append (s : σ) (es fs : List ε) :
    m.run s (es ++ fs) = (m.run s es).bind fun t => m.run t fs := by
  induction es generalizing s with
  | nil => rfl
  | cons e es ih =>
    simp only [List.cons_append, run_cons]
    cases m.step s e with
    | none => rfl
    | some t => exact ih t

/-- The last state of a run is one of the states on its way. -/
theorem visits_of_run {s u : σ} {es : List ε} (h : m.run s es = some u) : m.Visits s es u := by
  induction es generalizing s with
  | nil =>
    cases h
    exact .here _ []
  | cons e es ih =>
    obtain ⟨t, ht, hu⟩ := m.run_cons_some h
    exact .next ht (ih hu)

/-- **The invariant rule, along the way.** What the conditioned steps preserve holds in every
state a run meeting the condition visits. -/
theorem visits_keeps {C : σ → ε → Prop} {I : σ → Prop}
    (keeps : ∀ s e t, I s → C s e → m.step s e = some t → I t) {s u : σ} {es : List ε}
    (start : I s) (meets : m.Meets C s es) (visits : m.Visits s es u) : I u := by
  induction visits with
  | here => exact start
  | next hstep _ ih => exact ih (keeps _ _ _ start meets.1 hstep) (meets.2 _ hstep)

/-- The invariant rule, for a run that goes on: after its first part the invariant holds, and the rest
meets the condition. -/
theorem keeps_of_append {C : σ → ε → Prop} {I : σ → Prop}
    (keeps : ∀ s e t, I s → C s e → m.step s e = some t → I t) {s u : σ} {es fs : List ε}
    (start : I s) (meets : m.Meets C s (es ++ fs)) (hrun : m.run s es = some u) :
    I u ∧ m.Meets C u fs := by
  induction es generalizing s with
  | nil =>
    cases hrun
    exact ⟨start, meets⟩
  | cons e es ih =>
    obtain ⟨t, ht, hrest⟩ := m.run_cons_some hrun
    exact ih (keeps s e t start meets.1 ht) (meets.2 t ht) hrest

/-- Every run meets the condition that asks nothing. -/
theorem meets_true (s : σ) (es : List ε) : m.Meets (fun _ _ => True) s es := by
  induction es generalizing s with
  | nil => trivial
  | cons e es ih => exact ⟨trivial, fun t _ => ih t⟩

/-- A run that meets a condition meets what follows from it. -/
theorem meets_mono {C D : σ → ε → Prop} (weaker : ∀ s e, C s e → D s e) {s : σ} {es : List ε}
    (meets : m.Meets C s es) : m.Meets D s es := by
  induction es generalizing s with
  | nil => trivial
  | cons e es ih => exact ⟨weaker s e meets.1, fun t ht => ih (meets.2 t ht)⟩

/-- The machine that takes only the steps that meet a condition. -/
def given (C : σ → ε → Prop) [∀ s e, Decidable (C s e)] : Machine σ ε where
  step s e := if C s e then m.step s e else none

/-- A run that meets the condition is one of that machine. -/
theorem run_given {C : σ → ε → Prop} [∀ s e, Decidable (C s e)] {s u : σ} {es : List ε}
    (hrun : m.run s es = some u) (meets : m.Meets C s es) : (m.given C).run s es = some u := by
  induction es generalizing s with
  | nil => exact hrun
  | cons e es ih =>
    obtain ⟨t, ht, hrest⟩ := m.run_cons_some hrun
    rw [run_cons, show (m.given C).step s e = some t from (if_pos meets.1).trans ht]
    exact ih hrest (meets.2 t ht)

/-- What the conditioned steps preserve makes each step of a run meet what follows from it and the
condition. -/
theorem meets_of_keeps {C D : σ → ε → Prop} {I : σ → Prop}
    (keeps : ∀ s e t, I s → C s e → m.step s e = some t → I t)
    (gives : ∀ s e, I s → C s e → D s e) {s : σ} {es : List ε} (start : I s)
    (meets : m.Meets C s es) : m.Meets D s es := by
  induction es generalizing s with
  | nil => trivial
  | cons e es ih =>
    exact ⟨gives s e start meets.1, fun t ht => ih (keeps s e t start meets.1 ht) (meets.2 t ht)⟩

/-- The invariant rule for steps that need no condition. -/
theorem visits_keeps_always {I : σ → Prop}
    (keeps : ∀ s e t, I s → m.step s e = some t → I t) {s u : σ} {es : List ε}
    (start : I s) (visits : m.Visits s es u) : I u :=
  m.visits_keeps (C := fun _ _ => True) (fun s e t hs _ => keeps s e t hs) start
    (m.meets_true s es) visits

/-- A machine that has a step for every label in every state of an invariant has every run. -/
theorem exists_run {I : σ → Prop} (keeps : ∀ s e t, I s → m.step s e = some t → I t)
    (enabled : ∀ s e, I s → ∃ t, m.step s e = some t) {s : σ} (start : I s) (es : List ε) :
    ∃ u, m.run s es = some u := by
  induction es generalizing s with
  | nil => exact ⟨s, rfl⟩
  | cons e es ih =>
    obtain ⟨t, ht⟩ := enabled s e start
    obtain ⟨u, hu⟩ := ih (keeps s e t start ht)
    exact ⟨u, by rw [run_cons, ht, Option.bind_some, hu]⟩

/-- A machine that has the conditioned steps in every state they lead to has every run that meets
the condition. -/
theorem exists_run_of_meets {C : σ → ε → Prop} {I : σ → Prop}
    (keeps : ∀ s e t, I s → C s e → m.step s e = some t → I t)
    (enabled : ∀ s e, I s → ∃ t, m.step s e = some t) {s : σ} {es : List ε}
    (start : I s) (meets : m.Meets C s es) : ∃ u, m.run s es = some u := by
  induction es generalizing s with
  | nil => exact ⟨s, rfl⟩
  | cons e es ih =>
    obtain ⟨t, ht⟩ := enabled s e start
    obtain ⟨u, hu⟩ := ih (keeps s e t start meets.1 ht) (meets.2 t ht)
    exact ⟨u, by rw [run_cons, ht, Option.bind_some, hu]⟩

/-- Whether a run meets a decidable condition can be computed. -/
instance decidableMeets {C : σ → ε → Prop} [∀ s e, Decidable (C s e)] :
    ∀ (s : σ) (es : List ε), Decidable (m.Meets C s es)
  | _, [] => .isTrue trivial
  | s, e :: es =>
    match h : m.step s e with
    | none => decidable_of_iff (C s e) ⟨fun hc => ⟨hc, by simp [h]⟩, And.left⟩
    | some t =>
      have : Decidable (m.Meets C t es) := decidableMeets t es
      decidable_of_iff (C s e ∧ m.Meets C t es)
        ⟨fun hc => ⟨hc.1, by simpa [h] using hc.2⟩, fun hc => ⟨hc.1, hc.2 t h⟩⟩

/-- A run that does not meet the condition takes a step that breaks it. -/
theorem exists_break_of_not_meets {C : σ → ε → Prop} {s u : σ} {es : List ε}
    (hrun : m.run s es = some u) (h : ¬ m.Meets C s es) :
    ∃ t e t', m.Visits s es t ∧ m.Visits s es t' ∧ m.step t e = some t' ∧ ¬ C t e := by
  induction es generalizing s with
  | nil => exact absurd trivial h
  | cons e es ih =>
    obtain ⟨v, hv, hrun'⟩ := m.run_cons_some hrun
    by_cases hc : C s e
    · have hn : ¬ m.Meets C v es := fun hm => h ⟨hc, fun t ht => by
        rw [hv, Option.some.injEq] at ht
        exact ht ▸ hm⟩
      obtain ⟨t, f, t', ht, ht', hstep, hbreak⟩ := ih hrun' hn
      exact ⟨t, f, t', .next hv ht, .next hv ht', hstep, hbreak⟩
    · exact ⟨s, e, v, .here s _, .next hv (.here v es), hv, hc⟩

/-- **The exact rule, for part of what is kept.** Where the conditioned steps preserve `J`, and
every other step breaks the part `K` of it, a run keeps `K` throughout exactly if its steps meet the
condition. -/
theorem visits_iff_meets_of {C : σ → ε → Prop} {I J K : σ → Prop}
    (always : ∀ s e t, I s → m.step s e = some t → I t)
    (keeps : ∀ s e t, I s → J s → C s e → m.step s e = some t → J t)
    (part : ∀ s, J s → K s)
    (breaks : ∀ s e t, I s → ¬ C s e → m.step s e = some t → ¬ K t) {s u : σ} {es : List ε}
    (inv : I s) (start : J s) (hrun : m.run s es = some u) :
    (∀ t, m.Visits s es t → K t) ↔ m.Meets C s es := by
  constructor
  · intro hall
    by_contra hn
    obtain ⟨t, e, t', ht, ht', hstep, hbreak⟩ := m.exists_break_of_not_meets hrun hn
    exact breaks t e t' (m.visits_keeps_always always inv ht) hbreak hstep (hall t' ht')
  · intro hmeets t ht
    exact part t (m.visits_keeps (I := fun s => I s ∧ J s)
      (fun s e t h hc hstep => ⟨always s e t h.1 hstep, keeps s e t h.1 h.2 hc hstep⟩)
      ⟨inv, start⟩ hmeets ht).2

/-- **The exact rule.** Where the conditioned steps preserve a property that every other step
breaks, a run keeps it throughout exactly if its steps meet the condition. -/
theorem visits_iff_meets {C : σ → ε → Prop} {I J : σ → Prop}
    (always : ∀ s e t, I s → m.step s e = some t → I t)
    (keeps : ∀ s e t, I s → J s → C s e → m.step s e = some t → J t)
    (breaks : ∀ s e t, I s → ¬ C s e → m.step s e = some t → ¬ J t) {s u : σ} {es : List ε}
    (inv : I s) (start : J s) (hrun : m.run s es = some u) :
    (∀ t, m.Visits s es t → J t) ↔ m.Meets C s es :=
  m.visits_iff_meets_of always keeps (fun _ h => h) breaks inv start hrun

end Machine

end Zss.Lib
