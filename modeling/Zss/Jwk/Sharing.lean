import Zss.Jwk.Task
import Zss.Lib.Concurrent

/-!
# Who shares the context

`configureJwt`, the task it starts and the checks of the HTTP server run at the same time, on one
context. The world notes what each attempt of the task was answered, and what its outcome is, is
read off that (`Attempt.verdict`). The protocol says what each of them takes for granted of the
others (`jwkProtocol`); the configuration keeps it, where the task is made.
-/

namespace Zss.Jwk

open Zss.Lib Program

/-! ## The world -/

/-- What runs: a check is named by a number and what it is to check. -/
inductive Thread where
  | configure
  | task
  | check (id : Nat) (request : CheckRequest)
deriving DecidableEq

/-- What an attempt was answered. `failed` is that of its session, its request or its response. -/
structure Attempt (lib : Library) where
  contextRsn : Int
  failed : Bool
  response : Option HttpResponse
  constructed : Option (Bytes × Bytes × Int × lib.Key)

/-- What comes of an attempt. -/
inductive Verdict (lib : Library) where
  | pending
  | temporary
  | permanent
  | succeeded (key : lib.Key)

/-- A key made of the first key of a JSON body that a response with status 200 has. -/
def Attempt.verdict {lib : Library} (attempt : Attempt lib) : Verdict lib :=
  if attempt.contextRsn ≠ 0 then .permanent
  else if attempt.failed then .temporary
  else
    match attempt.response with
    | none => .pending
    | some response =>
      match lib.jsonParseUnterminatedUtf8String response.body response.contentLength with
      | none => .temporary
      | some jwk =>
        if response.statusCode ≠ 200 then .temporary
        else
          match rsaKeyMaterial jwk with
          | none => .permanent
          | some (modulus, exponent) =>
            match attempt.constructed with
            | none => .pending
            | some (modulus', exponent', status, key) =>
              if (modulus', exponent') ≠ (modulus, exponent) then .pending
              else if status ≠ 0 then .permanent
              else .succeeded key

/-- The context, what the server has of it, and what has happened. -/
structure JwkWorld (lib : Library) where
  publicKey : lib.Key
  isPublicKeyInitialized : Bool
  freed : Bool
  registered : Bool
  taskStarted : Bool
  nullRead : Bool
  attempts : List (Attempt lib)
  /-- The checks that found the key initialized, with what was stored and had happened then. -/
  tested : List (Thread × lib.Key × List (Attempt lib))
  verified : List (Thread × X509AlgorithmType × lib.Key × Bytes × Bytes)

section

variable {lib : Library}

/-- A world before `configureJwt`; storage that will be allocated holds zeros. -/
def JwkWorld.start (zero : lib.Key) : JwkWorld lib :=
  ⟨zero, false, false, false, false, false, [], [], []⟩

/-- The attempts with the last one changed. -/
def changeLast (change : Attempt lib → Attempt lib) (attempts : List (Attempt lib)) :
    List (Attempt lib) :=
  attempts.dropLast ++ (attempts.getLast?.map change).toList

/-- An attempt once one of its calls is answered. -/
def Attempt.after (attempt : Attempt lib) : (c : JwkCall lib) → c.Answer → Attempt lib
  | .httpClientSessionInit, (rsn : Int) => { attempt with failed := attempt.failed || rsn != 0 }
  | .httpClientSessionStageRequest _, (rsn : Int) =>
    { attempt with failed := attempt.failed || rsn != 0 }
  | .httpClientSessionSend, (rsn : Int) => { attempt with failed := attempt.failed || rsn != 0 }
  | .httpClientSessionReceiveNative, (result : Int × Option HttpResponse) =>
    { attempt with failed := attempt.failed || result.1 != 0, response := result.2 }
  | .gskConstructPublicKeyRsa modulus exponent, (result : Int × lib.Key) =>
    { attempt with constructed := some (modulus, exponent, result.1, result.2) }
  | _, _ => attempt

/-- The world once a call of the last attempt is answered. -/
def JwkWorld.during (s : JwkWorld lib) (c : JwkCall lib) (answer : c.Answer) : JwkWorld lib :=
  { s with attempts := changeLast (fun attempt => attempt.after c answer) s.attempts }

/-- What a call comes to. Storage that was freed reads as anything. -/
def JwkWorld.step [DecidableEq lib.Key] (s : JwkWorld lib) (t : Thread) :
    (c : JwkCall lib) → c.Answer → Option (JwkWorld lib)
  | .safeMalloc, _ => some s
  | .httpServerInitJwtContextCustom _, (rc : Int) =>
    some (if rc = 0 then { s with registered := true } else s)
  | .makeRLETask, _ => some s
  | .safeFree, _ => some { s with freed := true }
  | .startRLETask, _ => some { s with taskStarted := true }
  | .httpClientContextInitSecure _ _ _, (rsn : Int) =>
    some { s with attempts := s.attempts ++ [⟨rsn, false, none, none⟩] }
  | .httpClientSessionInit, rsn => some (s.during .httpClientSessionInit rsn)
  | .httpClientSessionStageRequest path, rsn =>
    some (s.during (.httpClientSessionStageRequest path) rsn)
  | .httpClientSessionSend, rsn => some (s.during .httpClientSessionSend rsn)
  | .httpClientSessionReceiveNative, result =>
    some (s.during .httpClientSessionReceiveNative result)
  | .copyBody body contentLength, _ =>
    some { s with nullRead := s.nullRead || (body.isNone && contentLength != 0) }
  | .gskConstructPublicKeyRsa modulus exponent, result =>
    some (s.during (.gskConstructPublicKeyRsa modulus exponent) result)
  | .setPublicKey key, _ => some { s with publicKey := key }
  | .setIsPublicKeyInitialized, _ => some { s with isPublicKeyInitialized := true }
  | .sleep _, _ => some s
  | .getIsPublicKeyInitialized, (isPublicKeyInitialized : Bool) =>
    if s.freed ∨ isPublicKeyInitialized = s.isPublicKeyInitialized then
      some (if isPublicKeyInitialized then
        { s with tested := s.tested ++ [(t, s.publicKey, s.attempts)] }
        else s)
    else none
  | .getPublicKey, (key : lib.Key) => if s.freed ∨ key = s.publicKey then some s else none
  | .gskVerifyDataSignature alg key message signature, (status : Int) =>
    some (if status = 0 then
      { s with verified := s.verified ++ [(t, alg, key, message, signature)] }
      else s)
  | .receiveOn, never => nomatch never

def jwkWorld (lib : Library) [DecidableEq lib.Key] :
    Machine (JwkWorld lib) (Thread × Event (jwkInterface lib)) where
  step s e := s.step e.1 e.2.call e.2.answer

/-- What runs begins: the task once it is started, a check once the server has the context. -/
inductive Begins : JwkWorld lib → Thread → JwkProgram lib (Option JwtRc) → Prop
  | configure {s : JwkWorld lib} (settings : Option JwkSettings) :
      Begins s .configure (configureJwt settings >>= fun _ => pure none)
  | task {s : JwkWorld lib} (settings : JwkSettings) (rounds : Nat) :
      s.taskStarted = true → Begins s .task (jwkTaskMain settings rounds >>= fun _ => pure none)
  | check {s : JwkWorld lib} (id : Nat) (request : CheckRequest) :
      s.registered = true →
      Begins s (.check id request) (checkJwtSignature request >>= fun rc => pure (some rc))

/-- GSK verifies nothing by an algorithm that is not known. -/
def GskDocumented : Event (jwkInterface lib) → Prop
  | ⟨.gskVerifyDataSignature .unknown _ _ _, (status : Int)⟩ => status ≠ 0
  | _ => True

/-- The task is made, and a response without a body has no length. -/
def Sound : Event (jwkInterface lib) → Prop
  | ⟨.makeRLETask, (task : Bool)⟩ => task = true
  | ⟨.httpClientSessionReceiveNative, (result : Int × Option HttpResponse)⟩ =>
    ∀ response ∈ result.2, response.body = none → response.contentLength = 0
  | _ => True

end

/-! ## The protocol -/

section

variable {lib : Library}

/-- The last attempt made this key. -/
def MadeBy (attempts : List (Attempt lib)) (key : lib.Key) : Prop :=
  ∃ attempt ∈ attempts.getLast?, attempt.verdict = .succeeded key

/-- What holds at any time. All attempts but the last one ended with an error that passes; a key
that a check found stored had been made by the last one. -/
structure JwkWorld.Inv (s : JwkWorld lib) : Prop where
  not_freed : s.registered = true → s.freed = false
  no_null : s.nullRead = false
  temporary : ∀ attempt ∈ s.attempts.dropLast, attempt.verdict = .temporary
  bounded : s.attempts.length ≤ maxAttempts
  stored : s.isPublicKeyInitialized = true → MadeBy s.attempts s.publicKey
  tested : ∀ t key attempts, (t, key, attempts) ∈ s.tested →
    s.isPublicKeyInitialized = true ∧ MadeBy attempts key

/-- What each takes for granted of the others' steps. -/
def jwkRely : Thread → JwkWorld lib → JwkWorld lib → Prop
  | .configure, s, s' =>
    s'.registered = s.registered ∧ s'.freed = s.freed
  | .task, s, s' =>
    s'.publicKey = s.publicKey ∧ s'.isPublicKeyInitialized = s.isPublicKeyInitialized ∧
      s'.attempts = s.attempts
  | .check _ _, s, s' =>
    (s.isPublicKeyInitialized = true →
      s'.isPublicKeyInitialized = true ∧ s'.publicKey = s.publicKey) ∧
      (s.registered = true → s'.registered = true) ∧
      (∀ e ∈ s.tested, e ∈ s'.tested) ∧ ∀ e ∈ s.verified, e ∈ s'.verified

/-- What each finds when it begins. -/
def jwkFresh : Thread → JwkWorld lib → Prop
  | .configure, s => s.registered = false ∧ s.freed = false
  | .task, s => s.isPublicKeyInitialized = false ∧ s.attempts = []
  | .check _ _, _ => True

def jwkProtocol (lib : Library) : Protocol (JwkWorld lib) Thread where
  inv := JwkWorld.Inv
  rely := jwkRely
  fresh := jwkFresh
  refl t s := by
    cases t with
    | configure => exact ⟨rfl, rfl⟩
    | task => exact ⟨rfl, rfl, rfl⟩
    | check id request => exact ⟨fun h => ⟨h, rfl⟩, fun h => h, fun _ h => h, fun _ h => h⟩
  trans {t s s' s''} h h' := by
    cases t with
    | configure => exact ⟨h'.1.trans h.1, h'.2.trans h.2⟩
    | task => exact ⟨h'.1.trans h.1, h'.2.1.trans h.2.1, h'.2.2.trans h.2.2⟩
    | check id request =>
      refine ⟨fun hs => ?_, fun hs => h'.2.1 (h.2.1 hs), fun e he => h'.2.2.1 e (h.2.2.1 e he),
        fun e he => h'.2.2.2 e (h.2.2.2 e he)⟩
      obtain ⟨hinit, hkey⟩ := h.1 hs
      exact ⟨(h'.1 hinit).1, (h'.1 hinit).2.trans hkey⟩
  fresh_rely {t s s'} h h' := by
    cases t with
    | configure => exact ⟨h'.1.trans h.1, h'.2.trans h.2⟩
    | task => exact ⟨h'.2.1.trans h.1, h'.2.2.trans h.2⟩
    | check id request => exact trivial

/-- The steps that are looked at. -/
def jwkAllowed (_ : JwkWorld lib) (_ : Thread) (e : Event (jwkInterface lib)) : Prop :=
  GskDocumented e ∧ Sound e

/-- What others rely on, where the configuration leaves the key, the attempts and the notes, and the
server keeps the context. -/
theorem configure_guar {s : JwkWorld lib} {freed registered taskStarted : Bool}
    (hregistered : s.registered = true → registered = true) :
    (jwkProtocol lib).guar .configure s
      { s with freed := freed, registered := registered, taskStarted := taskStarted } := by
  intro u hu
  cases u with
  | configure => exact absurd rfl hu
  | task => exact ⟨rfl, rfl, rfl⟩
  | check id request => exact ⟨fun h => ⟨h, rfl⟩, hregistered, fun _ h => h, fun _ h => h⟩

/-- The invariant, where the configuration changes only what the server has. -/
theorem JwkWorld.Inv.configured {s : JwkWorld lib} (h : s.Inv) {freed registered taskStarted : Bool}
    (hfreed : registered = true → freed = false) :
    JwkWorld.Inv
      { s with freed := freed, registered := registered, taskStarted := taskStarted } where
  not_freed := hfreed
  no_null := h.no_null
  temporary := h.temporary
  bounded := h.bounded
  stored := h.stored
  tested := h.tested

section

variable [DecidableEq lib.Key]

/-- The judgment along a program of a thread. -/
abbrev JwkAbides {α : Type} (t : Thread) (post : α → JwkWorld lib → Prop) (p : JwkProgram lib α)
    (s : JwkWorld lib) : Prop :=
  Abides (jwkWorld lib) jwkAllowed (jwkProtocol lib) t post p s

/-! ## The configuration -/

/-- The context is registered, and there is no task yet. -/
theorem startTask_abides {s : JwkWorld lib} (hregistered : s.registered = true) :
    JwkAbides .configure (fun _ _ => True) (do
      let task : Bool ← call (.makeRLETask : JwkCall lib)
      if task = false then call .safeFree else call .startRLETask) s := by
  refine .unchanged_bind (fun _ _ => rfl) fun s₁ hrely task hallowed => ?_
  have htask : task = true := hallowed.2
  subst htask
  intro s₃ hrely' hinv _ s₄ _ hstep
  cases hstep
  have hregistered' : s₃.registered = true := hrely'.1.trans (hrely.1.trans hregistered)
  exact ⟨hinv.configured fun _ => hinv.not_freed hregistered', configure_guar fun h => h,
    fun _ _ _ => trivial⟩

/-- A context that was not registered may be freed. -/
theorem safeFree_abides {s : JwkWorld lib} (hregistered : s.registered = false) :
    JwkAbides .configure (fun _ _ => True) (call (.safeFree : JwkCall lib)) s := by
  intro s₁ hrely hinv _ s₂ _ hstep
  cases hstep
  have hregistered' : s₁.registered = false := hrely.1.trans hregistered
  refine ⟨hinv.configured fun h => ?_, configure_guar fun h => h, fun _ _ _ => trivial⟩
  exact absurd (hregistered'.symm.trans h) Bool.false_ne_true

/-- `configureJwt` never frees a context the server has. -/
theorem configureJwt_abides (settings : Option JwkSettings) {s : JwkWorld lib}
    (hfresh : jwkFresh .configure s) :
    JwkAbides .configure (fun _ _ => True) (configureJwt settings : JwkProgram lib Unit) s := by
  cases settings with
  | none => exact fun _ _ _ => trivial
  | some settings =>
    refine .unchanged_bind (fun _ _ => rfl) fun s₁ hrely allocated _ => ?_
    cases allocated with
    | false => exact fun _ _ _ => trivial
    | true =>
      have hregistered : s₁.registered = false := hrely.1.trans hfresh.1
      have hfreed : s₁.freed = false := hrely.2.trans hfresh.2
      refine .ask_bind fun s₃ hrely' hinv (rc : Int) s₄ _ hstep => ?_
      have hs : s₄ = if rc = 0 then { s₃ with registered := true } else s₃ :=
        (Option.some.inj hstep).symm
      by_cases hrc : rc = 0
      · rw [if_pos hrc] at hs
        subst hs
        exact ⟨hinv.configured fun _ => hrely'.2.trans hfreed, configure_guar fun _ => rfl,
          .ite (fun h => absurd hrc h) fun _ => startTask_abides rfl⟩
      · rw [if_neg hrc] at hs
        subst hs
        exact ⟨hinv, Protocol.guar_refl _ _ _,
          .ite (fun _ => safeFree_abides (hrely'.1.trans hregistered)) fun h => absurd hrc h⟩

end

end

end Zss.Jwk
