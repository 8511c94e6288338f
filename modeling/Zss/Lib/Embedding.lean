import Zss.Lib.World

/-!
# Programs over a larger interface

A program that asks over one interface can be run over another that has its questions and more. The
embedding of a program asks what the program asks, in the questions of the larger interface.
`Asks` says what the questions of a program are; where none of these moves the world, the world is
at the end of the program where it was.
-/

namespace Zss.Lib

/-- The questions of one interface among those of another. -/
structure Interface.Embedding (I J : Interface) where
  call : I.Call → J.Call
  answer : (c : I.Call) → J.Answer (call c) → I.Answer c

namespace Program

variable {I J : Interface} {σ α β : Type}

/-- The program over the larger interface. -/
def embed (e : I.Embedding J) : Program I α → Program J α
  | ret a => ret a
  | call c next => call (e.call c) fun answer => (next (e.answer c answer)).embed e

/-! ## What is asked -/

/-- Every question of the program is of a kind. -/
inductive Asks (P : I.Call → Prop) : Program I α → Prop
  | ret (a : α) : Asks P (ret a)
  | call {c : I.Call} {next : I.Answer c → Program I α} (asked : P c)
      (rest : ∀ answer, Asks P (next answer)) : Asks P (call c next)

variable {P Q : I.Call → Prop}

theorem Asks.ask {c : I.Call} (asked : P c) : Asks P (Program.ask c) :=
  .call asked fun answer => .ret answer

theorem Asks.bind {p : Program I α} {k : α → Program I β} (hp : Asks P p)
    (hk : ∀ a, Asks P (k a)) : Asks P (p >>= k) := by
  induction hp with
  | ret a => exact hk a
  | call asked _ ih => exact .call asked ih

theorem Asks.ask_bind {c : I.Call} {k : I.Answer c → Program I β} (asked : P c)
    (hk : ∀ a, Asks P (k a)) : Asks P (Program.ask c >>= k) :=
  .call asked hk

theorem Asks.mono {p : Program I α} (h : Asks P p) (himp : ∀ c, P c → Q c) : Asks Q p := by
  induction h with
  | ret a => exact .ret a
  | call asked _ ih => exact .call (himp _ asked) ih

/-- The questions of an embedded program are embedded. -/
theorem Asks.embed {p : Program I α} (h : Asks P p) (e : I.Embedding J)
    {R : J.Call → Prop} (himp : ∀ c, P c → R (e.call c)) : Asks R (p.embed e) := by
  induction h with
  | ret a => exact .ret a
  | call asked _ ih => exact .call (himp _ asked) fun answer => ih _

/-! ## What is returned -/

/-- Every question of the program is of a kind, and its result is as wanted. -/
inductive Yields (P : I.Call → Prop) (post : α → Prop) : Program I α → Prop
  | ret {a : α} (h : post a) : Yields P post (ret a)
  | call {c : I.Call} {next : I.Answer c → Program I α} (asked : P c)
      (rest : ∀ answer, Yields P post (next answer)) : Yields P post (call c next)

section

variable {mid : α → Prop} {post : β → Prop} {p : Program I α} {k : α → Program I β}

theorem Yields.bind (hp : Yields P mid p) (hk : ∀ a, mid a → Yields P post (k a)) :
    Yields P post (p >>= k) := by
  induction hp with
  | ret h => exact hk _ h
  | call asked _ ih => exact .call asked ih

theorem Yields.ask_bind {c : I.Call} {k : I.Answer c → Program I β} (asked : P c)
    (hk : ∀ a, Yields P post (k a)) : Yields P post (Program.ask c >>= k) :=
  .call asked hk

/-- A program with a result as wanted, then one that goes on from there. -/
theorem Asks.bind_of (hp : Yields P mid p) (hk : ∀ a, mid a → Asks P (k a)) :
    Asks P (p >>= k) := by
  induction hp with
  | ret h => exact hk _ h
  | call asked _ ih => exact .call asked ih

theorem Yields.asks (hp : Yields P mid p) : Asks P p := by
  induction hp with
  | ret h => exact .ret _
  | call asked _ ih => exact .call asked ih

theorem Asks.yields (hp : Asks P p) (h : ∀ a, mid a) : Yields P mid p := by
  induction hp with
  | ret a => exact .ret (h a)
  | call asked _ ih => exact .call asked ih

end

/-! ## In a world -/

/-- An embedded program comes to what the program comes to in a world that answers alike. -/
theorem Leads.embed {world : Machine σ (Event I)} {world' : Machine σ (Event J)}
    {allowed : Event I → Prop} {allowed' : Event J → Prop} (e : I.Embedding J)
    (steps : ∀ s c answer, world'.step s ⟨e.call c, answer⟩ = world.step s ⟨c, e.answer c answer⟩)
    (allows : ∀ c answer, allowed' ⟨e.call c, answer⟩ → allowed ⟨c, e.answer c answer⟩)
    {p : Program I α} {post : α → σ → Prop} {s : σ} (h : Leads world allowed s p post) :
    Leads world' allowed' s (p.embed e) post := by
  induction p generalizing s with
  | ret a => exact .ret (h [] a (.ret a) (fun _ he => nomatch he) s rfl)
  | call c next ih =>
    refine Leads.ask_bind (k := fun answer => (next (e.answer c answer)).embed e)
      fun answer t hanswer ht => ih _ fun events a runs hevents u hu => ?_
    refine h _ a (.call runs) (List.forall_mem_cons.mpr ⟨allows c answer hanswer, hevents⟩) u ?_
    rw [world.run_cons, ← steps, ht]
    exact hu

/-- What the questions of a program keep of the world is kept by the program. -/
theorem Asks.keeps {world : Machine σ (Event I)} {allowed : Event I → Prop} {p : Program I α}
    {inv : σ → Prop} (h : Asks P p)
    (keeps : ∀ s c answer t, P c → inv s → world.step s ⟨c, answer⟩ = some t → inv t) {s : σ}
    (start : inv s) : Leads world allowed s p fun _ t => inv t := by
  induction h generalizing s with
  | ret a => exact .ret start
  | call asked _ ih =>
    exact Leads.ask_bind fun answer t _ ht => ih answer (keeps s _ answer t asked start ht)

/-- What is asked in a run is what the program asks. -/
theorem Asks.of_runs {p : Program I α} (h : Asks P p) {events : List (Event I)} {a : α}
    (runs : p.Runs events a) : ∀ e ∈ events, P e.call := by
  induction runs with
  | ret a => exact fun _ he => nomatch he
  | call _ ih =>
    cases h with
    | call asked rest => exact List.forall_mem_cons.mpr ⟨asked, ih (rest _)⟩

end Program

end Zss.Lib
