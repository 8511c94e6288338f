import Mathlib.Data.List.Basic

/-!
# Programs that ask

A program asks the world something, goes on from the answer, and in the end returns. The answers are
the world's: a run is the list of what was asked with what was answered, and `Runs` relates a program
to its runs and their results. `Ensures` says what holds of every run whose answers are allowed; it is
proved along the program, a rule for each of its constructs. `exec` is the run in which a given
function answers, so that a run with given answers need not be searched for.
-/

namespace Zss.Lib

/-- What can be asked, and what an answer to it is. -/
structure Interface where
  Call : Type
  Answer : Call → Type

/-- Something asked, with its answer. -/
structure Event (I : Interface) where
  call : I.Call
  answer : I.Answer call

/-- A program over an interface. -/
inductive Program (I : Interface) (α : Type) where
  | ret (a : α)
  | call (c : I.Call) (next : I.Answer c → Program I α)

namespace Program

variable {I : Interface} {α β : Type}

def bind : Program I α → (α → Program I β) → Program I β
  | ret a, k => k a
  | call c next, k => call c fun answer => (next answer).bind k

instance : Monad (Program I) where
  pure := ret
  bind := bind

/-- The program that asks once and returns the answer. -/
def ask (c : I.Call) : Program I (I.Answer c) := call c ret

@[simp] theorem pure_eq (a : α) : (pure a : Program I α) = ret a := rfl

@[simp] theorem ret_bind (a : α) (k : α → Program I β) : (ret a >>= k) = k a := rfl

@[simp] theorem call_bind (c : I.Call) (next : I.Answer c → Program I α) (k : α → Program I β) :
    (call c next >>= k) = call c fun answer => next answer >>= k := rfl

theorem bind_assoc {γ : Type} (p : Program I α) (k : α → Program I β) (l : β → Program I γ) :
    ((p >>= k) >>= l) = p >>= fun a => k a >>= l := by
  induction p with
  | ret a => rfl
  | call c next ih => simp only [call_bind, ih]

/-! ## Runs -/

/-- The runs of a program: what is asked and answered, and what is returned. -/
inductive Runs : Program I α → List (Event I) → α → Prop
  | ret (a : α) : Runs (ret a) [] a
  | call {c : I.Call} {next : I.Answer c → Program I α} {answer : I.Answer c}
      {events : List (Event I)} {a : α} :
      Runs (next answer) events a → Runs (call c next) (⟨c, answer⟩ :: events) a

/-- A question with an answer, then a run of what follows. -/
theorem Runs.ask_bind {c : I.Call} {k : I.Answer c → Program I β} {events : List (Event I)} {b : β}
    (answer : I.Answer c) (rest : (k answer).Runs events b) :
    (ask c >>= k).Runs (⟨c, answer⟩ :: events) b :=
  .call rest

/-- A run of one program, then one of what follows. -/
theorem Runs.bind {p : Program I α} {k : α → Program I β} {events events' : List (Event I)} {a : α}
    {b : β} (first : p.Runs events a) (rest : (k a).Runs events' b) :
    (p >>= k).Runs (events ++ events') b := by
  induction first with
  | ret a => exact rest
  | call _ ih => exact .call (ih rest)

/-- The run of a program whose questions are answered by a function. -/
def exec (answers : (c : I.Call) → I.Answer c) : Program I α → List (Event I) × α
  | ret a => ([], a)
  | call c next =>
    let rest := (next (answers c)).exec answers
    (⟨c, answers c⟩ :: rest.1, rest.2)

section

variable (answers : (c : I.Call) → I.Answer c)

@[simp] theorem exec_ret (a : α) : (ret a : Program I α).exec answers = ([], a) := rfl

@[simp] theorem exec_call (c : I.Call) (next : I.Answer c → Program I α) :
    (call c next).exec answers = (⟨c, answers c⟩ :: ((next (answers c)).exec answers).1,
      ((next (answers c)).exec answers).2) := rfl

@[simp] theorem exec_ask (c : I.Call) :
    (ask c).exec answers = ([⟨c, answers c⟩], answers c) := rfl

theorem exec_bind (p : Program I α) (k : α → Program I β) :
    (p >>= k).exec answers = ((p.exec answers).1 ++ ((k (p.exec answers).2).exec answers).1,
      ((k (p.exec answers).2).exec answers).2) := by
  induction p with
  | ret a => rfl
  | call c next ih => simp only [call_bind, exec_call, ih, List.cons_append]

/-- What is returned in that run. -/
def eval (p : Program I α) : α := (p.exec answers).2

@[simp] theorem eval_ret (a : α) : (ret a : Program I α).eval answers = a := rfl

@[simp] theorem eval_ask (c : I.Call) : (ask c).eval answers = answers c := rfl

@[simp] theorem eval_bind (p : Program I α) (k : α → Program I β) :
    (p >>= k).eval answers = (k (p.eval answers)).eval answers := by
  rw [eval, exec_bind]
  rfl

/-- What is asked in that run. -/
def asked (p : Program I α) : List I.Call := (p.exec answers).1.map Event.call

@[simp] theorem asked_ret (a : α) : (ret a : Program I α).asked answers = [] := rfl

@[simp] theorem asked_ask (c : I.Call) : (ask c).asked answers = [c] := rfl

@[simp] theorem asked_bind (p : Program I α) (k : α → Program I β) :
    (p >>= k).asked answers = p.asked answers ++ (k (p.eval answers)).asked answers := by
  rw [asked, exec_bind, List.map_append]
  rfl

/-- What is asked later is asked. -/
theorem mem_exec_bind {p : Program I α} {k : α → Program I β} {e : Event I}
    (h : e ∈ ((k (p.eval answers)).exec answers).1) : e ∈ ((p >>= k).exec answers).1 := by
  rw [exec_bind]
  exact List.mem_append_right _ h

/-- What is asked first is asked. -/
theorem mem_exec_bind_left {p : Program I α} {k : α → Program I β} {e : Event I}
    (h : e ∈ (p.exec answers).1) : e ∈ ((p >>= k).exec answers).1 := by
  rw [exec_bind]
  exact List.mem_append_left _ h

theorem mem_exec_ask {c : I.Call} {k : I.Answer c → Program I β} :
    ⟨c, answers c⟩ ∈ ((ask c >>= k).exec answers).1 :=
  List.mem_cons_self ..

theorem runs_exec (p : Program I α) : p.Runs (p.exec answers).1 (p.exec answers).2 := by
  induction p with
  | ret a => exact .ret a
  | call c next ih => exact .call (ih (answers c))

/-- In the run of `exec` the function answers. -/
theorem answer_of_mem_exec {p : Program I α} {e : Event I} (h : e ∈ (p.exec answers).1) :
    e.answer = answers e.call := by
  induction p with
  | ret a => cases h
  | call c next ih =>
    rcases List.mem_cons.mp h with rfl | h
    · rfl
    · exact ih (answers c) h

end

/-! ## What every run ensures -/

/-- What holds of every run whose answers are allowed, and of its result. -/
def Ensures (allowed : Event I → Prop) (p : Program I α) (post : List (Event I) → α → Prop) : Prop :=
  ∀ events a, p.Runs events a → (∀ e ∈ events, allowed e) → post events a

section

variable {allowed : Event I → Prop} {post post' : List (Event I) → α → Prop}

theorem Ensures.ret {a : α} (h : post [] a) : (Program.ret a : Program I α).Ensures allowed post := by
  intro events b runs _
  cases runs
  exact h

theorem Ensures.call {c : I.Call} {next : I.Answer c → Program I α}
    (h : ∀ answer, allowed ⟨c, answer⟩ →
      (next answer).Ensures allowed fun events a => post (⟨c, answer⟩ :: events) a) :
    (Program.call c next).Ensures allowed post := by
  intro events a runs hallowed
  cases runs with
  | call runs =>
    exact h _ (hallowed _ (List.mem_cons_self ..)) _ _ runs
      fun e he => hallowed e (List.mem_cons_of_mem _ he)

theorem Ensures.ask {c : I.Call} {post : List (Event I) → I.Answer c → Prop}
    (h : ∀ answer, allowed ⟨c, answer⟩ → post [⟨c, answer⟩] answer) :
    (Program.ask c).Ensures allowed post :=
  .call fun answer hanswer => .ret (h answer hanswer)

theorem Ensures.bind {p : Program I α} {k : α → Program I β} {post : List (Event I) → β → Prop}
    (h : p.Ensures allowed fun events a =>
      (k a).Ensures allowed fun events' b => post (events ++ events') b) :
    (p >>= k).Ensures allowed post := by
  induction p generalizing post with
  | ret a => exact h [] a (.ret a) fun _ he => nomatch he
  | call c next ih =>
    refine .call fun answer hanswer => ih answer fun events a runs hevents => ?_
    exact h _ a (.call runs) (List.forall_mem_cons.mpr ⟨hanswer, hevents⟩)

/-- A question first. -/
theorem Ensures.ask_bind {c : I.Call} {k : I.Answer c → Program I β}
    {post : List (Event I) → β → Prop}
    (h : ∀ answer, allowed ⟨c, answer⟩ →
      (k answer).Ensures allowed fun events b => post (⟨c, answer⟩ :: events) b) :
    (Program.ask c >>= k).Ensures allowed post :=
  .call h

theorem Ensures.mono {p : Program I α} (h : p.Ensures allowed post)
    (hpost : ∀ events a, post events a → post' events a) : p.Ensures allowed post' :=
  fun events a runs hevents => hpost events a (h events a runs hevents)

theorem Ensures.and {p : Program I α} (h : p.Ensures allowed post) (h' : p.Ensures allowed post') :
    p.Ensures allowed fun events a => post events a ∧ post' events a :=
  fun events a runs hevents => ⟨h events a runs hevents, h' events a runs hevents⟩

/-- A specification first, then what follows. -/
theorem Ensures.bind_of {p : Program I α} {k : α → Program I β}
    {mid : List (Event I) → α → Prop} {post : List (Event I) → β → Prop}
    (hp : p.Ensures allowed mid)
    (hk : ∀ events a, mid events a →
      (k a).Ensures allowed fun events' b => post (events ++ events') b) :
    (p >>= k).Ensures allowed post :=
  .bind (hp.mono hk)

/-- A run read off a specification. -/
theorem Ensures.of_runs {p : Program I α} {events : List (Event I)} {a : α}
    (h : p.Ensures allowed post) (runs : p.Runs events a) (hevents : ∀ e ∈ events, allowed e) :
    post events a :=
  h events a runs hevents

end

end Program

end Zss.Lib
