import Zss.Lib.Machine
import Zss.Lib.Program

/-!
# Programs in a world

A world is a machine whose labels are what a program asks, with the answers: it says which answers it
can give, and what is the case after each. `Leads` is what a program is sure to come to from a state
of the world, whichever of the allowed answers it gets; there is a rule for each construct, so that a
program is followed from state to state.
-/

namespace Zss.Lib

namespace Program

variable {I : Interface} {σ α β : Type}

/-- Every run from the state, by allowed answers that the world can give, comes to what is wanted. -/
def Leads (world : Machine σ (Event I)) (allowed : Event I → Prop) (s : σ) (p : Program I α)
    (post : α → σ → Prop) : Prop :=
  p.Ensures allowed fun events a => ∀ t, world.run s events = some t → post a t

variable {world : Machine σ (Event I)} {allowed : Event I → Prop} {s : σ}

theorem Leads.ret {a : α} {post : α → σ → Prop} (h : post a s) :
    Leads world allowed s (ret a) post := by
  refine Ensures.ret fun t ht => ?_
  cases ht
  exact h

/-- A question, then what follows in the state that its answer leaves. -/
theorem Leads.ask_bind {c : I.Call} {k : I.Answer c → Program I β} {post : β → σ → Prop}
    (h : ∀ answer t, allowed ⟨c, answer⟩ → world.step s ⟨c, answer⟩ = some t →
      Leads world allowed t (k answer) post) :
    Leads world allowed s (ask c >>= k) post := by
  refine Ensures.ask_bind fun answer hanswer => ?_
  intro events b runs hevents u hu
  obtain ⟨t, ht, hrest⟩ := world.run_cons_some hu
  exact h answer t hanswer ht events b runs hevents u hrest

/-- A question whose answers lead to a state each, then what follows. -/
theorem Leads.next {c : I.Call} {k : I.Answer c → Program I β} {post : β → σ → Prop}
    (next : I.Answer c → σ) (hstep : ∀ answer, world.step s ⟨c, answer⟩ = some (next answer))
    (hk : ∀ answer, Leads world allowed (next answer) (k answer) post) :
    Leads world allowed s (ask c >>= k) post :=
  .ask_bind fun answer t _ ht => by
    rw [hstep answer, Option.some.injEq] at ht
    exact ht ▸ hk answer

/-- A question that leaves the world as it is, then what follows. -/
theorem Leads.same {c : I.Call} {k : I.Answer c → Program I β} {post : β → σ → Prop}
    (hstep : ∀ answer, world.step s ⟨c, answer⟩ = some s)
    (hk : ∀ answer, Leads world allowed s (k answer) post) :
    Leads world allowed s (ask c >>= k) post :=
  .next (fun _ => s) hstep hk

theorem Leads.ask {c : I.Call} {post : I.Answer c → σ → Prop}
    (h : ∀ answer t, allowed ⟨c, answer⟩ → world.step s ⟨c, answer⟩ = some t → post answer t) :
    Leads world allowed s (ask c) post := by
  refine Ensures.ask fun answer hanswer u hu => ?_
  obtain ⟨t, ht, hrest⟩ := world.run_cons_some hu
  cases hrest
  exact h answer _ hanswer ht

/-- One program after the other. -/
theorem Leads.bind {p : Program I α} {k : α → Program I β} {post : β → σ → Prop}
    (h : Leads world allowed s p fun a t => Leads world allowed t (k a) post) :
    Leads world allowed s (p >>= k) post := by
  refine Ensures.bind_of h fun events a hp => ?_
  intro events' b runs hevents u hu
  rw [world.run_append] at hu
  obtain ⟨t, ht, hrest⟩ := Option.bind_eq_some_iff.mp hu
  exact hp t ht events' b runs hevents u hrest

theorem Leads.mono {p : Program I α} {post post' : α → σ → Prop}
    (h : Leads world allowed s p post) (himp : ∀ a t, post a t → post' a t) :
    Leads world allowed s p post' :=
  Ensures.mono h fun _ a hp t ht => himp a t (hp t ht)

/-- A specification first, then what follows. -/
theorem Leads.bind_of {p : Program I α} {k : α → Program I β} {mid : α → σ → Prop}
    {post : β → σ → Prop} (hp : Leads world allowed s p mid)
    (hk : ∀ a t, mid a t → Leads world allowed t (k a) post) :
    Leads world allowed s (p >>= k) post :=
  .bind (hp.mono hk)

/-- A run read off what it leads to. -/
theorem Leads.of_runs {p : Program I α} {post : α → σ → Prop} {events : List (Event I)} {a : α}
    {t : σ} (h : Leads world allowed s p post) (runs : p.Runs events a)
    (hevents : ∀ e ∈ events, allowed e) (ht : world.run s events = some t) : post a t :=
  h events a runs hevents t ht

end Program

end Zss.Lib
