import Zss.Lib.Program

/-!
# Programs under recovery

A program that pushes entries on a recovery stack and pops them. An abend looks for the topmost entry
that retries: the analysis exits of the entries on the way run, the stack is cut back, and the program
goes on where that entry was pushed, with the push answered again. What is under the program's own
entries belongs to its callers; an abend that reaches it leaves the program.

A run is its marks, in order, and its ending. `Safe` says what holds of every run; it is proved along
the program, a rule for each of its constructs.
-/

namespace Zss.Lib.Recovery

/-- What a push comes back with. -/
inductive PushResult where
  | ok
  | abended
  | failed (rc : Int)

/-- The codes of an abend. -/
structure Abend where
  completionCode : Int
  reasonCode : Int

/-- An entry of the stack: its flags, and the exit that an abend is given to. -/
structure Entry (σ : Type) where
  name : String
  retry : Bool
  deleteOnRetry : Bool
  analysis : Abend → σ → σ

/-- A program over an interface, with variables `σ`. -/
inductive Task (I : Interface) (σ α : Type) where
  | ret (a : α)
  | call (c : I.Call) (next : I.Answer c → Task I σ α)
  | get (next : σ → Task I σ α)
  | set (s : σ) (next : Task I σ α)
  | push (entry : Entry σ) (next : PushResult → Task I σ α)
  | pop (next : Task I σ α)

namespace Task

variable {I : Interface} {σ α β : Type}

def bind : Task I σ α → (α → Task I σ β) → Task I σ β
  | ret a, k => k a
  | call c next, k => call c fun answer => (next answer).bind k
  | get next, k => get fun s => (next s).bind k
  | set s next, k => set s (next.bind k)
  | push entry next, k => push entry fun result => (next result).bind k
  | pop next, k => pop (next.bind k)

instance : Monad (Task I σ) where
  pure := ret
  bind := bind

def ask (c : I.Call) : Task I σ (I.Answer c) := call c ret

def modify (f : σ → σ) : Task I σ Unit := get fun s => set (f s) (ret ())

def recoveryPush (entry : Entry σ) : Task I σ PushResult := push entry ret

def recoveryPop : Task I σ Unit := pop (ret ())

@[simp] theorem pure_bind (a : α) (k : α → Task I σ β) : (pure a >>= k) = k a := rfl

theorem bind_assoc {γ : Type} (p : Task I σ α) (k : α → Task I σ β) (l : β → Task I σ γ) :
    ((p >>= k) >>= l) = p >>= fun a => k a >>= l := by
  show (p.bind k).bind l = p.bind fun a => (k a).bind l
  induction p with
  | ret a => rfl
  | call c next ih => simp only [bind, ih]
  | get next ih => simp only [bind, ih]
  | set s next ih => simp only [bind, ih]
  | push entry next ih => simp only [bind, ih]
  | pop next ih => simp only [bind, ih]

end Task

/-! ## Runs -/

section
variable (I : Interface) (σ α : Type)

/-- The stack: entries of the program, with where it goes on, over those of its callers. -/
inductive Frame where
  | caller (id : Nat)
  | own (entry : Entry σ) (resume : Task I σ α)

/-- How a program ends, with the stack and the variables it leaves. -/
inductive Ending where
  | returned (a : α) (stack : List (Frame I σ α)) (s : σ)
  | percolated (abend : Abend) (stack : List (Frame I σ α)) (s : σ)

variable {I σ α} in
/-- The stack a program leaves. -/
def Ending.stack : Ending I σ α → List (Frame I σ α)
  | .returned _ stack _ | .percolated _ stack _ => stack

variable {I σ α} in
/-- The variables a program leaves. -/
def Ending.variables : Ending I σ α → σ
  | .returned _ _ s | .percolated _ _ s => s

/-- What an abend leads to. -/
inductive Unwound where
  | resumes (p : Task I σ α) (stack : List (Frame I σ α)) (s : σ)
  | leaves (stack : List (Frame I σ α)) (s : σ)

/-- What happens in a run, besides what the program does to its variables and its stack. -/
inductive Mark where
  | answered (c : I.Call) (answer : I.Answer c)
  | abended (c : I.Call) (abend : Abend)
  | pushed (name : String)
  | refused (name : String) (rc : Int)

end

variable {I : Interface} {σ α : Type}

/-- The search for an entry that retries. -/
def unwind (abend : Abend) : List (Frame I σ α) → σ → Unwound I σ α
  | [], s => .leaves [] s
  | .caller id :: stack, s => .leaves (.caller id :: stack) s
  | .own entry resume :: stack, s =>
    if entry.retry then
      .resumes resume (if entry.deleteOnRetry then stack else .own entry resume :: stack)
        (entry.analysis abend s)
    else unwind abend stack (entry.analysis abend s)

/-- The runs of a program from a stack and variables. -/
inductive Exec : Task I σ α → List (Frame I σ α) → σ → List (Mark I) → Ending I σ α → Prop
  | ret (a : α) (stack : List (Frame I σ α)) (s : σ) :
      Exec (.ret a) stack s [] (.returned a stack s)
  | answered {c : I.Call} {next : I.Answer c → Task I σ α} {stack : List (Frame I σ α)} {s : σ}
      {marks : List (Mark I)} {ending : Ending I σ α} (answer : I.Answer c) :
      Exec (next answer) stack s marks ending →
      Exec (.call c next) stack s (.answered c answer :: marks) ending
  | retried {c : I.Call} {next : I.Answer c → Task I σ α} {stack stack' : List (Frame I σ α)}
      {s s' : σ} {p : Task I σ α} {marks : List (Mark I)} {ending : Ending I σ α} (abend : Abend) :
      unwind abend stack s = .resumes p stack' s' → Exec p stack' s' marks ending →
      Exec (.call c next) stack s (.abended c abend :: marks) ending
  | percolated {c : I.Call} {next : I.Answer c → Task I σ α} {stack stack' : List (Frame I σ α)}
      {s s' : σ} (abend : Abend) :
      unwind abend stack s = .leaves stack' s' →
      Exec (.call c next) stack s [.abended c abend] (.percolated abend stack' s')
  | get {next : σ → Task I σ α} {stack : List (Frame I σ α)} {s : σ} {marks : List (Mark I)}
      {ending : Ending I σ α} :
      Exec (next s) stack s marks ending → Exec (.get next) stack s marks ending
  | set {s' : σ} {next : Task I σ α} {stack : List (Frame I σ α)} {s : σ} {marks : List (Mark I)}
      {ending : Ending I σ α} :
      Exec next stack s' marks ending → Exec (.set s' next) stack s marks ending
  | pushed {entry : Entry σ} {next : PushResult → Task I σ α} {stack : List (Frame I σ α)} {s : σ}
      {marks : List (Mark I)} {ending : Ending I σ α} :
      Exec (next .ok) (.own entry (next .abended) :: stack) s marks ending →
      Exec (.push entry next) stack s (.pushed entry.name :: marks) ending
  | refused {entry : Entry σ} {next : PushResult → Task I σ α} {stack : List (Frame I σ α)} {s : σ}
      {marks : List (Mark I)} {ending : Ending I σ α} (rc : Int) :
      Exec (next (.failed rc)) stack s marks ending →
      Exec (.push entry next) stack s (.refused entry.name rc :: marks) ending
  | pop {next : Task I σ α} {stack : List (Frame I σ α)} {s : σ} {marks : List (Mark I)}
      {ending : Ending I σ α} :
      Exec next stack.tail s marks ending → Exec (.pop next) stack s marks ending

/-- The run without abends in which given functions answer the calls and refuse pushes. -/
def Task.run (answers : (c : I.Call) → I.Answer c) (refusals : String → Option Int) :
    Task I σ α → List (Frame I σ α) → σ → List (Mark I) × Ending I σ α
  | .ret a, stack, s => ([], .returned a stack s)
  | .call c next, stack, s =>
    let rest := (next (answers c)).run answers refusals stack s
    (.answered c (answers c) :: rest.1, rest.2)
  | .get next, stack, s => (next s).run answers refusals stack s
  | .set s' next, stack, _ => next.run answers refusals stack s'
  | .push entry next, stack, s =>
    match refusals entry.name with
    | none =>
      let rest := (next .ok).run answers refusals (.own entry (next .abended) :: stack) s
      (.pushed entry.name :: rest.1, rest.2)
    | some rc =>
      let rest := (next (.failed rc)).run answers refusals stack s
      (.refused entry.name rc :: rest.1, rest.2)
  | .pop next, stack, s => next.run answers refusals stack.tail s

theorem Task.exec_run (answers : (c : I.Call) → I.Answer c) (refusals : String → Option Int)
    (p : Task I σ α) (stack : List (Frame I σ α)) (s : σ) :
    Exec p stack s (p.run answers refusals stack s).1 (p.run answers refusals stack s).2 := by
  induction p generalizing stack s with
  | ret a => exact .ret a stack s
  | call c next ih => exact .answered (answers c) (ih (answers c) stack s)
  | get next ih => exact .get (ih s stack s)
  | set s' next ih => exact .set (ih stack s')
  | push entry next ih =>
    unfold Task.run
    split
    next => exact .pushed (ih .ok _ s)
    next rc _ => exact .refused rc (ih (.failed rc) stack s)
  | pop next ih => exact .pop (ih stack.tail s)

/-! ## What holds of every run -/

/-- What holds of every run from a stack and variables, of its marks and its ending. -/
def Safe (p : Task I σ α) (stack : List (Frame I σ α)) (s : σ)
    (post : List (Mark I) → Ending I σ α → Prop) : Prop :=
  ∀ marks ending, Exec p stack s marks ending → post marks ending

/-- What holds of every run from an abend of a call on. -/
def SafeAbend (c : I.Call) (abend : Abend) (stack : List (Frame I σ α)) (s : σ)
    (post : List (Mark I) → Ending I σ α → Prop) : Prop :=
  match unwind abend stack s with
  | .resumes p stack' s' => Safe p stack' s' fun marks => post (.abended c abend :: marks)
  | .leaves stack' s' => post [.abended c abend] (.percolated abend stack' s')

section
variable {stack : List (Frame I σ α)} {s : σ} {post : List (Mark I) → Ending I σ α → Prop}

theorem Safe.ret {a : α} (h : post [] (.returned a stack s)) :
    Safe (pure a : Task I σ α) stack s post := by
  intro marks ending run
  cases run
  exact h

variable {c : I.Call} {abend : Abend}

/-- A call answers or abends. -/
theorem Safe.call {next : I.Answer c → Task I σ α}
    (answered : ∀ answer,
      Safe (next answer) stack s fun marks => post (.answered c answer :: marks))
    (abended : ∀ abend, SafeAbend c abend stack s post) : Safe (.call c next) stack s post := by
  intro marks ending run
  cases run with
  | answered answer run => exact answered answer _ _ run
  | retried abend unwound run =>
    have safe := abended abend
    rw [SafeAbend, unwound] at safe
    exact safe _ _ run
  | percolated abend unwound =>
    have safe := abended abend
    rw [SafeAbend, unwound] at safe
    exact safe

theorem Safe.ask_bind {k : I.Answer c → Task I σ α}
    (answered : ∀ answer, Safe (k answer) stack s fun marks => post (.answered c answer :: marks))
    (abended : ∀ abend, SafeAbend c abend stack s post) : Safe (Task.ask c >>= k) stack s post :=
  .call answered abended

theorem Safe.modify_bind {f : σ → σ} {k : Unit → Task I σ α}
    (h : Safe (k ()) stack (f s) post) : Safe (Task.modify f >>= k) stack s post := by
  intro marks ending run
  cases run with
  | get run =>
    cases run with
    | set run => exact h _ _ run

/-- A push is accepted, and abends may come back to it, or it is refused. -/
theorem Safe.push_bind {entry : Entry σ} {k : PushResult → Task I σ α}
    (ok : Safe (k .ok) (.own entry (k .abended) :: stack) s
      fun marks => post (.pushed entry.name :: marks))
    (failed : ∀ rc, Safe (k (.failed rc)) stack s
      fun marks => post (.refused entry.name rc :: marks)) :
    Safe (Task.recoveryPush entry >>= k) stack s post := by
  intro marks ending run
  cases run with
  | pushed run => exact ok _ _ run
  | refused rc run => exact failed rc _ _ run

theorem Safe.pop_bind {k : Unit → Task I σ α} (h : Safe (k ()) stack.tail s post) :
    Safe (Task.recoveryPop >>= k) stack s post := by
  intro marks ending run
  cases run with
  | pop run => exact h _ _ run

/-! ## Abends -/

/-- An abend under an entry that retries and is kept. -/
theorem SafeAbend.retry {entry : Entry σ} {resume : Task I σ α} (retry : entry.retry = true)
    (kept : entry.deleteOnRetry = false)
    (h : Safe resume (.own entry resume :: stack) (entry.analysis abend s)
      fun marks => post (.abended c abend :: marks)) :
    SafeAbend c abend (.own entry resume :: stack) s post := by
  rw [SafeAbend, unwind, if_pos retry, kept]
  exact h

/-- An abend under an entry that retries once. -/
theorem SafeAbend.retryOnce {entry : Entry σ} {resume : Task I σ α} (retry : entry.retry = true)
    (deleted : entry.deleteOnRetry = true)
    (h : Safe resume stack (entry.analysis abend s) fun marks => post (.abended c abend :: marks)) :
    SafeAbend c abend (.own entry resume :: stack) s post := by
  rw [SafeAbend, unwind, if_pos retry, deleted]
  exact h

/-- An abend under an entry that percolates. -/
theorem SafeAbend.percolate {entry : Entry σ} {resume : Task I σ α}
    (noRetry : entry.retry = false) (h : SafeAbend c abend stack (entry.analysis abend s) post) :
    SafeAbend c abend (.own entry resume :: stack) s post := by
  rw [SafeAbend, unwind, noRetry]
  exact h

/-- The stack of the callers. -/
def callers (ids : List Nat) : List (Frame I σ α) := ids.map .caller

/-- An abend under no entry of the program. -/
theorem SafeAbend.leave {ids : List Nat}
    (h : post [.abended c abend] (.percolated abend (callers ids) s)) :
    SafeAbend c abend (callers ids) s post := by
  cases ids with
  | nil => exact h
  | cons id ids => exact h

end

end Zss.Lib.Recovery
