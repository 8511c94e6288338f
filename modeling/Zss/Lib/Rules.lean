import Zss.Lib.Machine
import Zss.Lib.Program

/-!
# Programs under rules

The rules of an interface are a machine over its events: a state of the world, and for each call
with its answer the state after it, or none where the call breaks the rules. `Keeps` is a triple: from
a state, in every run whose answers are allowed, a program keeps the rules, and what it returns and
the state it leaves satisfy a condition. It is proved along the program, a rule for each of its
constructs, so that no proof speaks of lists of events.
-/

namespace Zss.Lib

namespace Program

variable {I : Interface} {σ α β : Type}

/-- From a state, every run with allowed answers keeps the rules and ends well. -/
def Keeps (rules : Machine σ (Event I)) (allowed : Event I → Prop) (s : σ) (p : Program I α)
    (post : σ → α → Prop) : Prop :=
  p.Ensures allowed fun events a => ∃ t, rules.run s events = some t ∧ post t a

variable {rules : Machine σ (Event I)} {allowed : Event I → Prop} {s : σ}

theorem Keeps.ret {post : σ → α → Prop} {a : α} (h : post s a) :
    Keeps rules allowed s (.ret a) post :=
  Ensures.ret ⟨s, rfl, h⟩

/-- A call first: the rules allow it, and what follows is judged from the state after it. -/
theorem Keeps.ask_bind {c : I.Call} {k : I.Answer c → Program I α} {post : σ → α → Prop}
    (h : ∀ answer, allowed ⟨c, answer⟩ →
      ∃ t, rules.step s ⟨c, answer⟩ = some t ∧ Keeps rules allowed t (k answer) post) :
    Keeps rules allowed s (ask c >>= k) post := by
  refine Ensures.ask_bind fun answer hanswer => ?_
  obtain ⟨t, hstep, hk⟩ := h answer hanswer
  refine hk.mono fun events a => ?_
  rintro ⟨u, hrun, hu⟩
  exact ⟨u, by rw [Machine.run_cons, hstep, Option.bind_some, hrun], hu⟩

/-- A call that the rules pass over. -/
theorem Keeps.ask {c : I.Call} {post : σ → I.Answer c → Prop}
    (h : ∀ answer, allowed ⟨c, answer⟩ →
      ∃ t, rules.step s ⟨c, answer⟩ = some t ∧ post t answer) :
    Keeps rules allowed s (Program.ask c) post := by
  refine Ensures.ask fun answer hanswer => ?_
  obtain ⟨t, hstep, ht⟩ := h answer hanswer
  exact ⟨t, by rw [Machine.run_cons, hstep, Option.bind_some, Machine.run_nil], ht⟩

/-- A specification first, then what follows. -/
theorem Keeps.bind {p : Program I α} {k : α → Program I β} {mid : σ → α → Prop}
    {post : σ → β → Prop} (hp : Keeps rules allowed s p mid)
    (hk : ∀ t a, mid t a → Keeps rules allowed t (k a) post) :
    Keeps rules allowed s (p >>= k) post := by
  refine hp.bind_of ?_
  rintro events a ⟨t, hrun, ht⟩
  refine (hk t a ht).mono fun events' b => ?_
  rintro ⟨u, hrun', hu⟩
  exact ⟨u, by rw [Machine.run_append, hrun, Option.bind_some, hrun'], hu⟩

theorem Keeps.mono {p : Program I α} {post post' : σ → α → Prop}
    (h : Keeps rules allowed s p post) (hpost : ∀ t a, post t a → post' t a) :
    Keeps rules allowed s p post' :=
  Ensures.mono h fun _ a ⟨t, hrun, ht⟩ => ⟨t, hrun, hpost t a ht⟩

/-- A run of a program that keeps the rules. -/
theorem Keeps.of_runs {p : Program I α} {post : σ → α → Prop} {events : List (Event I)} {a : α}
    (h : Keeps rules allowed s p post) (runs : p.Runs events a) (hevents : ∀ e ∈ events, allowed e) :
    ∃ t, rules.run s events = some t ∧ post t a :=
  h events a runs hevents

end Program

end Zss.Lib
