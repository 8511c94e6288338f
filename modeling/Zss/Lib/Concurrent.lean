import Mathlib.Logic.Function.Basic
import Mathlib.Logic.Relation
import Zss.Lib.Machine
import Zss.Lib.Program

/-!
# Programs that run at the same time

A pool is a world and the programs that run in it, one for each name. Any of them may take the next
step: it asks, the world answers, and both go on. Between two questions of a program the others may
have changed the world.

A protocol says what each program may take for granted of the others. What a program is sure to come
to, given that, is followed along the program, as if it were alone (`Program.Abides`). Where each
program keeps what all the others rely on, this is what it comes to in every pool that is reached
(`Pool.reaches_abides`).
-/

namespace Zss.Lib

variable {I : Interface} {σ τ α β : Type}

/-! ## Pools -/

/-- A world and the programs that run in it. -/
structure Pool (I : Interface) (σ τ α : Type) where
  world : σ
  thread : τ → Option (Program I α)

/-- A world in which nothing runs. -/
def Pool.quiet (s : σ) : Pool I σ τ α := ⟨s, fun _ => none⟩

section

variable [DecidableEq τ] (world : Machine σ (τ × Event I))
  (begins : σ → τ → Program I α → Prop) (allowed : σ → τ → Event I → Prop)

/-- A program begins, or one that runs goes on with an answer of the world. -/
inductive Pool.Step : Pool I σ τ α → Pool I σ τ α → Prop
  | begin {s : σ} {thread : τ → Option (Program I α)} {t : τ} {p : Program I α} :
      thread t = none → begins s t p →
      Step ⟨s, thread⟩ ⟨s, Function.update thread t (some p)⟩
  | advance {s s' : σ} {thread : τ → Option (Program I α)} {t : τ} {c : I.Call}
      {next : I.Answer c → Program I α} {answer : I.Answer c} :
      thread t = some (.call c next) → allowed s t ⟨c, answer⟩ →
      world.step s (t, ⟨c, answer⟩) = some s' →
      Step ⟨s, thread⟩ ⟨s', Function.update thread t (some (next answer))⟩

/-- The pools that a world comes to. -/
def Pool.Reaches (s : σ) (pool : Pool I σ τ α) : Prop :=
  Relation.ReflTransGen (Pool.Step world begins allowed) (.quiet s) pool

variable {world begins allowed}

theorem Pool.Reaches.begin {s : σ} {pool : Pool I σ τ α}
    (h : Pool.Reaches world begins allowed s pool) (t : τ) {p : Program I α}
    (hidle : pool.thread t = none) (hbegins : begins pool.world t p) :
    Pool.Reaches world begins allowed s
      ⟨pool.world, Function.update pool.thread t (some p)⟩ :=
  h.tail (.begin hidle hbegins)

theorem Pool.Reaches.advance {s s' : σ} {pool : Pool I σ τ α}
    (h : Pool.Reaches world begins allowed s pool) (t : τ) {c : I.Call}
    {next : I.Answer c → Program I α} (hrunning : pool.thread t = some (.call c next))
    (answer : I.Answer c) (hallowed : allowed pool.world t ⟨c, answer⟩)
    (hstep : world.step pool.world (t, ⟨c, answer⟩) = some s') :
    Pool.Reaches world begins allowed s ⟨s', Function.update pool.thread t (some (next answer))⟩ :=
  h.tail (.advance hrunning hallowed hstep)

end

/-! ## Protocols -/

/-- What holds of the world at any time, what a program takes for granted of the steps of others,
and what it finds when it begins. -/
structure Protocol (σ τ : Type) where
  inv : σ → Prop
  rely : τ → σ → σ → Prop
  fresh : τ → σ → Prop
  refl : ∀ t s, rely t s s
  trans : ∀ {t s s' s''}, rely t s s' → rely t s' s'' → rely t s s''
  fresh_rely : ∀ {t s s'}, fresh t s → rely t s s' → fresh t s'

/-- What the others take for granted of a program's step. -/
def Protocol.guar (P : Protocol σ τ) (t : τ) (s s' : σ) : Prop := ∀ u, u ≠ t → P.rely u s s'

theorem Protocol.guar_refl (P : Protocol σ τ) (t : τ) (s : σ) : P.guar t s s :=
  fun u _ => P.refl u s

namespace Program

variable (world : Machine σ (τ × Event I)) (allowed : σ → τ → Event I → Prop)
  (P : Protocol σ τ) (t : τ)

/-- A program that leaves the world as it is, and returns what is wanted, as long as something
holds of the world. -/
def Quiet (pre : σ → Prop) (post : α → Prop) : Program I α → Prop
  | .ret a => post a
  | .call c next => ∀ s answer s', pre s → allowed s t ⟨c, answer⟩ →
      world.step s (t, ⟨c, answer⟩) = some s' → s' = s ∧ Quiet pre post (next answer)

/-- A program comes to what is wanted from a state of the world, however the others change it, and
keeps what they rely on. -/
def Abides (post : α → σ → Prop) : Program I α → σ → Prop
  | .ret a, s => ∀ s', P.rely t s s' → P.inv s' → post a s'
  | .call c next, s => ∀ s', P.rely t s s' → P.inv s' → ∀ answer s'',
      allowed s' t ⟨c, answer⟩ → world.step s' (t, ⟨c, answer⟩) = some s'' →
      P.inv s'' ∧ P.guar t s' s'' ∧ Abides post (next answer) s''

variable {world allowed P t} {s : σ}

/-- What others do changes nothing. -/
theorem Abides.rely {post : α → σ → Prop} {p : Program I α} {s' : σ}
    (h : Abides world allowed P t post p s) (hrely : P.rely t s s') :
    Abides world allowed P t post p s' := by
  cases p with
  | ret a => exact fun s'' hrely' => h s'' (P.trans hrely hrely')
  | call c next => exact fun s'' hrely' => h s'' (P.trans hrely hrely')

/-- It is enough to look at the states in which the program may find the world. -/
theorem Abides.of_rely {post : α → σ → Prop} {p : Program I α}
    (h : ∀ s', P.rely t s s' → P.inv s' → Abides world allowed P t post p s') :
    Abides world allowed P t post p s := by
  cases p with
  | ret a => exact fun s' hrely hinv => h s' hrely hinv s' (P.refl t s') hinv
  | call c next => exact fun s' hrely hinv => h s' hrely hinv s' (P.refl t s') hinv

theorem Abides.ret {post : α → σ → Prop} {a : α}
    (h : ∀ s', P.rely t s s' → P.inv s' → post a s') :
    Abides world allowed P t post (ret a) s := h

theorem Abides.ite {post : α → σ → Prop} {c : Prop} [Decidable c] {p q : Program I α}
    (hp : c → Abides world allowed P t post p s) (hq : ¬c → Abides world allowed P t post q s) :
    Abides world allowed P t post (if c then p else q) s := by
  split
  next hc => exact hp hc
  next hc => exact hq hc

/-- A question, then what follows in the state that its answer leaves. -/
theorem Abides.ask_bind {post : β → σ → Prop} {c : I.Call} {k : I.Answer c → Program I β}
    (h : ∀ s', P.rely t s s' → P.inv s' → ∀ answer s'', allowed s' t ⟨c, answer⟩ →
      world.step s' (t, ⟨c, answer⟩) = some s'' →
      P.inv s'' ∧ P.guar t s' s'' ∧ Abides world allowed P t post (k answer) s'') :
    Abides world allowed P t post (ask c >>= k) s := h

/-- A question that leaves the world as it is. -/
theorem Abides.unchanged_bind {post : β → σ → Prop} {c : I.Call} {k : I.Answer c → Program I β}
    (hc : ∀ s answer, world.step s (t, ⟨c, answer⟩) = some s)
    (h : ∀ s', P.rely t s s' → ∀ answer, allowed s' t ⟨c, answer⟩ →
      Abides world allowed P t post (k answer) s') :
    Abides world allowed P t post (ask c >>= k) s := by
  refine .ask_bind fun s' hrely hinv answer s'' hallowed hstep => ?_
  obtain rfl : s' = s'' := Option.some.inj ((hc s' answer).symm.trans hstep)
  exact ⟨hinv, P.guar_refl t s', h s' hrely answer hallowed⟩

/-- One program after the other. -/
theorem Abides.bind {post : β → σ → Prop} {p : Program I α} {k : α → Program I β}
    (h : Abides world allowed P t (fun a s' => Abides world allowed P t post (k a) s') p s) :
    Abides world allowed P t post (p >>= k) s := by
  induction p generalizing s with
  | ret a => exact .of_rely h
  | call c next ih =>
    intro s' hrely hinv answer s'' hallowed hstep
    obtain ⟨hinv', hguar, hnext⟩ := h s' hrely hinv answer s'' hallowed hstep
    exact ⟨hinv', hguar, ih answer hnext⟩

theorem Abides.mono {post post' : α → σ → Prop} {p : Program I α}
    (h : Abides world allowed P t post p s) (himp : ∀ a s', post a s' → post' a s') :
    Abides world allowed P t post' p s := by
  induction p generalizing s with
  | ret a => exact fun s' hrely hinv => himp a s' (h s' hrely hinv)
  | call c next ih =>
    intro s' hrely hinv answer s'' hallowed hstep
    obtain ⟨hinv', hguar, hnext⟩ := h s' hrely hinv answer s'' hallowed hstep
    exact ⟨hinv', hguar, ih answer hnext⟩

section

variable {pre : σ → Prop}

theorem Quiet.ask_bind {post : β → Prop} {c : I.Call} {k : I.Answer c → Program I β}
    (h : ∀ s answer s', pre s → allowed s t ⟨c, answer⟩ →
      world.step s (t, ⟨c, answer⟩) = some s' →
      s' = s ∧ Quiet world allowed t pre post (k answer)) :
    Quiet world allowed t pre post (ask c >>= k) := h

theorem Quiet.unchanged_bind {post : β → Prop} {c : I.Call} {k : I.Answer c → Program I β}
    (hc : ∀ s answer, world.step s (t, ⟨c, answer⟩) = some s)
    (h : ∀ s answer, allowed s t ⟨c, answer⟩ → Quiet world allowed t pre post (k answer)) :
    Quiet world allowed t pre post (ask c >>= k) := fun s answer _ _ hallowed hstep =>
  ⟨Option.some.inj (hstep.symm.trans (hc s answer)), h s answer hallowed⟩

theorem Quiet.bind {post : β → Prop} {mid : α → Prop} {p : Program I α} {k : α → Program I β}
    (hp : Quiet world allowed t pre mid p)
    (hk : ∀ a, mid a → Quiet world allowed t pre post (k a)) :
    Quiet world allowed t pre post (p >>= k) := by
  induction p with
  | ret a => exact hk a hp
  | call c next ih =>
    intro s answer s' hpre hallowed hstep
    obtain ⟨hs, hnext⟩ := hp s answer s' hpre hallowed hstep
    exact ⟨hs, ih answer hnext⟩

theorem Quiet.ite {post : α → Prop} {c : Prop} [Decidable c] {p q : Program I α}
    (hp : c → Quiet world allowed t pre post p) (hq : ¬c → Quiet world allowed t pre post q) :
    Quiet world allowed t pre post (if c then p else q) := by
  split
  next hc => exact hp hc
  next hc => exact hq hc

/-- A program that leaves the world as it is comes to what others leave. -/
theorem Quiet.abides {mid : α → Prop} {post : α → σ → Prop} {p : Program I α}
    (hp : Quiet world allowed t pre mid p) (hpre : pre s)
    (hrely : ∀ s s', pre s → P.rely t s s' → pre s')
    (hpost : ∀ a s', P.rely t s s' → mid a → post a s') :
    Abides world allowed P t post p s := by
  induction p generalizing s with
  | ret a => exact fun s' hs _ => hpost a s' hs hp
  | call c next ih =>
    intro s₁ hs hinv answer s₂ hallowed hstep
    obtain ⟨rfl, hnext⟩ := hp s₁ answer s₂ (hrely s s₁ hpre hs) hallowed hstep
    exact ⟨hinv, P.guar_refl t s₂, ih answer hnext (hrely s s₂ hpre hs)
      fun a s' h ha => hpost a s' (P.trans hs h) ha⟩

/-- What follows a program that leaves the world as it is. -/
theorem Quiet.abides_bind {mid : α → Prop} {post : β → σ → Prop} {p : Program I α}
    {k : α → Program I β} (hp : Quiet world allowed t pre mid p) (hpre : pre s)
    (hrely : ∀ s s', pre s → P.rely t s s' → pre s')
    (hk : ∀ a s', P.rely t s s' → mid a → Abides world allowed P t post (k a) s') :
    Abides world allowed P t post (p >>= k) s :=
  .bind (hp.abides hpre hrely hk)

end

/-- A specification first, then what follows. -/
theorem Abides.bind_of {mid : α → σ → Prop} {post : β → σ → Prop} {p : Program I α}
    {k : α → Program I β} (hp : Abides world allowed P t mid p s)
    (hk : ∀ a s', mid a s' → Abides world allowed P t post (k a) s') :
    Abides world allowed P t post (p >>= k) s :=
  .bind (hp.mono hk)

end Program

/-! ## What a pool comes to -/

/-- A pool in which the world is as it should be and all programs abide by the protocol. -/
structure Pool.Abides (world : Machine σ (τ × Event I)) (allowed : σ → τ → Event I → Prop)
    (P : Protocol σ τ) (post : τ → α → σ → Prop) (pool : Pool I σ τ α) : Prop where
  inv : P.inv pool.world
  running : ∀ t p, pool.thread t = some p → p.Abides world allowed P t (post t) pool.world
  idle : ∀ t, pool.thread t = none → P.fresh t pool.world

/-- A program that has returned came to what is wanted. -/
theorem Pool.Abides.returned {world : Machine σ (τ × Event I)}
    {allowed : σ → τ → Event I → Prop} {P : Protocol σ τ} {post : τ → α → σ → Prop}
    {pool : Pool I σ τ α} (h : pool.Abides world allowed P post) {t : τ}
    {a : α} (ht : pool.thread t = some (.ret a)) : post t a pool.world :=
  h.running t _ ht pool.world (P.refl t _) h.inv

section

variable [DecidableEq τ] {world : Machine σ (τ × Event I)}
  {begins : σ → τ → Program I α → Prop} {allowed : σ → τ → Event I → Prop}
  {P : Protocol σ τ} {post : τ → α → σ → Prop}

/-- A step keeps a pool to the protocol. -/
theorem Pool.Abides.step
    (hbegins : ∀ s t p, P.inv s → P.fresh t s → begins s t p →
      p.Abides world allowed P t (post t) s)
    {pool pool' : Pool I σ τ α} (h : pool.Abides world allowed P post)
    (hstep : Pool.Step world begins allowed pool pool') :
    pool'.Abides world allowed P post := by
  cases hstep with
  | @begin s thread t p hnone hbegin =>
    refine ⟨h.inv, fun u q hq => ?_, fun u hu => ?_⟩
    · by_cases hut : u = t
      · subst hut
        cases (Function.update_self u (some p) thread).symm.trans hq
        exact hbegins s u p h.inv (h.idle u hnone) hbegin
      · exact h.running u q ((Function.update_of_ne hut (some p) thread).symm.trans hq)
    · have hut : u ≠ t := by
        rintro rfl
        cases (Function.update_self u (some p) thread).symm.trans hu
      exact h.idle u ((Function.update_of_ne hut (some p) thread).symm.trans hu)
  | @advance s s' thread t c next answer hrunning hallowed hstep =>
    obtain ⟨hinv, hguar, hnext⟩ :=
      h.running t _ hrunning s (P.refl t s) h.inv answer s' hallowed hstep
    refine ⟨hinv, fun u q hq => ?_, fun u hu => ?_⟩
    · by_cases hut : u = t
      · subst hut
        cases (Function.update_self u (some (next answer)) thread).symm.trans hq
        exact hnext
      · have hq' := (Function.update_of_ne hut (some (next answer)) thread).symm.trans hq
        exact (h.running u q hq').rely (hguar u hut)
    · have hut : u ≠ t := by
        rintro rfl
        cases (Function.update_self u (some (next answer)) thread).symm.trans hu
      have hu' := (Function.update_of_ne hut (some (next answer)) thread).symm.trans hu
      exact P.fresh_rely (h.idle u hu') (hguar u hut)

/-- **Every pool that is reached keeps to the protocol.** -/
theorem Pool.reaches_abides
    (hbegins : ∀ s t p, P.inv s → P.fresh t s → begins s t p →
      p.Abides world allowed P t (post t) s)
    {s : σ} (hinv : P.inv s) (hfresh : ∀ t, P.fresh t s) {pool : Pool I σ τ α}
    (h : Pool.Reaches world begins allowed s pool) : pool.Abides world allowed P post := by
  induction h with
  | refl => exact ⟨hinv, nofun, fun t _ => hfresh t⟩
  | tail _ hstep ih => exact ih.step hbegins hstep

end

end Zss.Lib
