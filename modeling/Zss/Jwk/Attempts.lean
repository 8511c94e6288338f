import Zss.Jwk.Sharing

/-!
# The attempts of the task

While the task tries, no key is initialized, and nobody else changes what it has noted. Each of its
functions is followed from one state of the last attempt to the next (`Trying`); what an attempt
comes to, and the status that it ends with, agree (`Ended`, `Made`).
-/

namespace Zss.Jwk

open Zss.Lib Program

section

variable {lib : Library}

/-! ## While the task tries -/

/-- These attempts came before, and another may be made. -/
structure Between (front : List (Attempt lib)) (s : JwkWorld lib) : Prop where
  attempts : s.attempts = front
  temporary : ∀ attempt ∈ front, attempt.verdict = .temporary
  not_initialized : s.isPublicKeyInitialized = false

/-- This attempt is made after others that ended with an error that passes. -/
structure Trying (front : List (Attempt lib)) (attempt : Attempt lib) (s : JwkWorld lib) :
    Prop where
  attempts : s.attempts = front ++ [attempt]
  temporary : ∀ attempt ∈ front, attempt.verdict = .temporary
  bounded : front.length < maxAttempts
  not_initialized : s.isPublicKeyInitialized = false

/-- The attempt ended with an error: one that passes, or not. -/
def Ended (front : List (Attempt lib)) (rc : Int) (s : JwkWorld lib) : Prop :=
  rc ≠ jwkStatusOk ∧ ∃ attempt, Trying front attempt s ∧
    attempt.verdict = if isPermanent rc then .permanent else .temporary

/-- The attempt made a key. -/
def Made (front : List (Attempt lib)) (key : lib.Key) (s : JwkWorld lib) : Prop :=
  ∃ attempt, Trying front attempt s ∧ attempt.verdict = .succeeded key

/-- The attempt as it is before a response is complete. -/
abbrev Attempt.open (lib : Library) : Attempt lib := ⟨0, false, none, none⟩

/-- The attempt once a response is complete. -/
abbrev Attempt.received (response : HttpResponse) : Attempt lib := ⟨0, false, some response, none⟩

section

variable {front : List (Attempt lib)} {attempt : Attempt lib} {s s' : JwkWorld lib}

theorem Between.rely (h : Between front s) (hrely : jwkRely .task s s') : Between front s' :=
  ⟨hrely.2.2.trans h.attempts, h.temporary, hrely.2.1.trans h.not_initialized⟩

theorem Trying.rely (h : Trying front attempt s) (hrely : jwkRely .task s s') :
    Trying front attempt s' :=
  ⟨hrely.2.2.trans h.attempts, h.temporary, h.bounded, hrely.2.1.trans h.not_initialized⟩

theorem changeLast_append (change : Attempt lib → Attempt lib) (front : List (Attempt lib))
    (attempt : Attempt lib) :
    changeLast change (front ++ [attempt]) = front ++ [change attempt] := by
  simp [changeLast]

theorem during_append (hs : s.attempts = front ++ [attempt]) (c : JwkCall lib) (answer : c.Answer) :
    s.during c answer = { s with attempts := front ++ [attempt.after c answer] } := by
  unfold JwkWorld.during
  rw [hs, changeLast_append]

/-- Nobody looks at what the task changes as long as no key is initialized. -/
theorem task_guar (hs : s.isPublicKeyInitialized = false) {publicKey : lib.Key}
    {isPublicKeyInitialized nullRead : Bool} {attempts : List (Attempt lib)} :
    (jwkProtocol lib).guar .task s { s with
      publicKey := publicKey
      isPublicKeyInitialized := isPublicKeyInitialized
      nullRead := nullRead
      attempts := attempts } := by
  intro u hu
  cases u with
  | configure => exact ⟨rfl, rfl⟩
  | task => exact absurd rfl hu
  | check id request =>
    exact ⟨fun h => absurd (hs.symm.trans h) Bool.false_ne_true, fun h => h, fun _ h => h,
      fun _ h => h⟩

/-- The invariant goes on while the last attempt changes, and the key that is not initialized. -/
theorem Trying.inv {publicKey : lib.Key}
    (h : Trying front attempt { s with publicKey := publicKey, attempts := front ++ [attempt] })
    (hinv : s.Inv) :
    JwkWorld.Inv { s with publicKey := publicKey, attempts := front ++ [attempt] } where
  not_freed := hinv.not_freed
  no_null := hinv.no_null
  temporary a ha := h.temporary a (by simpa using ha)
  bounded := by simpa using Nat.succ_le_of_lt h.bounded
  stored hs := absurd (h.not_initialized.symm.trans hs) Bool.false_ne_true
  tested t key attempts he :=
    absurd (h.not_initialized.symm.trans (hinv.tested t key attempts he).1) Bool.false_ne_true

theorem Trying.with (h : Trying front attempt s) {publicKey : lib.Key} {attempt' : Attempt lib} :
    Trying front attempt' { s with publicKey := publicKey, attempts := front ++ [attempt'] } :=
  ⟨rfl, h.temporary, h.bounded, h.not_initialized⟩

theorem Between.with (h : Between front s) (hbounded : front.length < maxAttempts) :
    Trying front attempt { s with attempts := front ++ [attempt] } :=
  ⟨rfl, h.temporary, hbounded, h.not_initialized⟩

/-- An answer that is not 0 ends the attempt with an error that passes. -/
theorem Trying.failed {rsn rc : Int} (h : Trying front
    { Attempt.open lib with failed := (Attempt.open lib).failed || rsn != 0 } s) (hrsn : rsn ≠ 0)
    (hrc : rc ≠ jwkStatusOk) (hpermanent : isPermanent rc = false) : Ended front rc s := by
  refine ⟨hrc, _, h, ?_⟩
  simp [Attempt.verdict, hrsn, hpermanent]

/-- An answer of 0 leaves the attempt as it was. -/
theorem Trying.passed {rsn : Int} (h : Trying front
    { Attempt.open lib with failed := (Attempt.open lib).failed || rsn != 0 } s) (hrsn : ¬rsn ≠ 0) :
    Trying front (Attempt.open lib) s := by
  have hzero : rsn = 0 := not_not.mp hrsn
  subst hzero
  exact h

/-- Another attempt may be made after one that ended with an error that passes. -/
theorem Trying.between (h : Trying front attempt s) (hverdict : attempt.verdict = .temporary) :
    Between (front ++ [attempt]) s := by
  refine ⟨h.attempts, fun a ha => ?_, h.not_initialized⟩
  obtain ha | ha := List.mem_append.mp ha
  · exact h.temporary a ha
  · exact (List.mem_singleton.mp ha) ▸ hverdict

theorem Made.not_initialized {key : lib.Key} (h : Made front key s) :
    s.isPublicKeyInitialized = false := by
  obtain ⟨_, htrying, _⟩ := h
  exact htrying.not_initialized

/-- The key that was made may be announced. -/
theorem Made.initialized (h : Made front s.publicKey s) (hinv : s.Inv) :
    JwkWorld.Inv { s with isPublicKeyInitialized := true } where
  not_freed := hinv.not_freed
  no_null := hinv.no_null
  temporary := hinv.temporary
  bounded := hinv.bounded
  stored _ := by
    obtain ⟨attempt, htrying, hverdict⟩ := h
    refine ⟨attempt, ?_, hverdict⟩
    simp [htrying.attempts]
  tested t key attempts he :=
    absurd (h.not_initialized.symm.trans (hinv.tested t key attempts he).1) Bool.false_ne_true

/-- What a request comes to: the JSON of a response with status 200, or an error. -/
def Requested (front : List (Attempt lib)) : Except Int lib.Json → JwkWorld lib → Prop
  | .error rc, s => Ended front rc s
  | .ok jsonBody, s => ∃ response, Trying front (Attempt.received response) s ∧
      response.statusCode = 200 ∧
      lib.jsonParseUnterminatedUtf8String response.body response.contentLength = some jsonBody

theorem Ended.rely {rc : Int} (h : Ended front rc s) (hrely : jwkRely .task s s') :
    Ended front rc s' := by
  obtain ⟨hrc, attempt, htrying, hverdict⟩ := h
  exact ⟨hrc, attempt, htrying.rely hrely, hverdict⟩

theorem Made.rely {key : lib.Key} (h : Made front key s) (hrely : jwkRely .task s s') :
    Made front key s' := by
  obtain ⟨attempt, htrying, hverdict⟩ := h
  exact ⟨attempt, htrying.rely hrely, hverdict⟩

end

/-! ## The calls of an attempt -/

section

variable [DecidableEq lib.Key] {α : Type} {post : α → JwkWorld lib → Prop}
  {front : List (Attempt lib)} {attempt : Attempt lib} {s : JwkWorld lib}

/-- A call whose answer is noted with the attempt. -/
theorem Trying.during_bind {c : JwkCall lib} {k : c.Answer → JwkProgram lib α}
    (hc : ∀ (s : JwkWorld lib) answer, s.step .task c answer = some (s.during c answer))
    (h : Trying front attempt s)
    (hk : ∀ answer s', Sound ⟨c, answer⟩ → Trying front (attempt.after c answer) s' →
      JwkAbides .task post (k answer) s') :
    JwkAbides .task post (call c >>= k) s := by
  refine .ask_bind fun s₁ hrely hinv answer s₂ hallowed hstep => ?_
  have h₁ := h.rely hrely
  have hs : s₂ = { s₁ with attempts := front ++ [attempt.after c answer] } := by
    have hnoted : s₁.during c answer = s₂ := Option.some.inj ((hc s₁ answer).symm.trans hstep)
    exact hnoted.symm.trans (during_append h₁.attempts c answer)
  subst hs
  exact ⟨Trying.inv h₁.with hinv, task_guar h₁.not_initialized, hk answer _ hallowed.2 h₁.with⟩

/-- The body is read where it has a length. -/
theorem Trying.copyBody_bind {body : Option Bytes} {contentLength : Nat}
    {k : Unit → JwkProgram lib α} (hbody : body = none → contentLength = 0)
    (h : Trying front attempt s)
    (hk : ∀ s', Trying front attempt s' → JwkAbides .task post (k ()) s') :
    JwkAbides .task post (call (.copyBody body contentLength) >>= k) s := by
  refine .ask_bind fun s₁ hrely hinv _ s₂ _ hstep => ?_
  have h₁ := h.rely hrely
  have hread : (s₁.nullRead || (body.isNone && contentLength != 0)) = s₁.nullRead := by
    cases body with
    | none => simp [hbody rfl]
    | some bytes => simp
  have hs : s₂ = s₁ := by
    have hcopied := Option.some.inj hstep
    rw [← hcopied]
    exact congrArg (fun nullRead => { s₁ with nullRead := nullRead }) hread
  subst hs
  exact ⟨hinv, Protocol.guar_refl _ _ _, hk s₂ h₁⟩

/-- The loop ends with a response that is complete, or with an error that passes. -/
theorem receive_abides (rounds : Nat) (h : Trying front (Attempt.open lib) s) :
    JwkAbides .task (fun response s' =>
      match response with
      | none => ∃ attempt, Trying front attempt s' ∧ attempt.verdict = .temporary
      | some response => Trying front (Attempt.received response) s' ∧
          (response.body = none → response.contentLength = 0)) (receive rounds) s := by
  induction rounds generalizing s with
  | zero => exact .ask_bind fun _ _ _ never => nomatch never
  | succ rounds ih =>
    refine h.during_bind (fun _ _ => rfl) fun (result : Int × Option HttpResponse) s' hsound h' =>
      ?_
    obtain ⟨status, response⟩ := result
    refine .ite (fun hstatus => ?_) (fun hstatus => ?_)
    · refine .ret fun s'' hrely _ => ⟨_, h'.rely hrely, ?_⟩
      simp [Attempt.after, Attempt.verdict, hstatus]
    · have hzero : status = 0 := not_not.mp hstatus
      subst hzero
      cases response with
      | none => exact ih h'
      | some response => exact .ret fun s'' hrely _ => ⟨h'.rely hrely, hsound response rfl⟩

/-- What a response without JSON comes to passes. -/
theorem receiveResponse_abides (rounds : Nat) (h : Trying front (Attempt.open lib) s) :
    JwkAbides .task (fun result s' =>
      match result with
      | .error rc => Ended front rc s'
      | .ok (statusCode, jsonBody) => ∃ response, Trying front (Attempt.received response) s' ∧
          response.statusCode = statusCode ∧
          lib.jsonParseUnterminatedUtf8String response.body response.contentLength =
            some jsonBody) (receiveResponse rounds) s := by
  refine .bind_of (receive_abides rounds h) fun received s' hreceived => ?_
  cases received with
  | none =>
    obtain ⟨attempt, htrying, hverdict⟩ := hreceived
    exact .ret fun s'' hrely _ => ⟨by decide, attempt, htrying.rely hrely, hverdict⟩
  | some response =>
    refine hreceived.1.copyBody_bind hreceived.2 fun s' h' => ?_
    cases hparse : lib.jsonParseUnterminatedUtf8String response.body response.contentLength with
    | none =>
      refine .ret fun s'' hrely _ => ⟨by decide, _, h'.rely hrely, ?_⟩
      simp [Attempt.verdict, hparse, isPermanent, jwkStatusJsonResponseError,
        jwkStatusUnrecognizedFmtError, jwkStatusPublicKeyError, jwkStatusHttpContextError]
    | some jsonBody => exact .ret fun s'' hrely _ => ⟨response, h'.rely hrely, rfl, hparse⟩

/-- What follows an answer that is checked. -/
theorem Trying.checked {rsn rc : Int} {next : JwkProgram lib (Except Int lib.Json)}
    (h : Trying front
      { Attempt.open lib with failed := (Attempt.open lib).failed || rsn != 0 } s)
    (hrc : rc ≠ jwkStatusOk) (hpermanent : isPermanent rc = false)
    (hk : Trying front (Attempt.open lib) s → JwkAbides .task (Requested front) next s) :
    JwkAbides .task (Requested front) (if rsn ≠ 0 then pure (.error rc) else next) s :=
  .ite (fun hrsn => .ret fun _ hrely _ => (h.rely hrely).failed hrsn hrc hpermanent)
    fun hrsn => hk (h.passed hrsn)

/-- A request ends with the JSON of a response with status 200, or with an error. -/
theorem doRequest_abides (settings : JwkSettings) (rounds : Nat) (h : Between front s)
    (hbounded : front.length < maxAttempts) :
    JwkAbides .task (Requested front) (doRequest settings rounds) s := by
  refine .ask_bind fun s₁ hrely hinv (rsn : Int) s₂ _ hstep => ?_
  have h₁ := h.rely hrely
  have hs : s₂ = { s₁ with attempts := front ++ [⟨rsn, false, none, none⟩] } := by
    rw [← h₁.attempts]
    exact (Option.some.inj hstep).symm
  subst hs
  refine ⟨Trying.inv (h₁.with hbounded) hinv, task_guar h₁.not_initialized, ?_⟩
  refine .ite (fun hrsn => ?_) (fun hrsn => ?_)
  · refine .ret fun s' hrely _ => ⟨by decide, _, (h₁.with hbounded).rely hrely, ?_⟩
    simp [Attempt.verdict, hrsn, isPermanent]
  · have hzero : rsn = 0 := not_not.mp hrsn
    subst hzero
    -- the session, the request and its sending: each may fail
    refine (h₁.with hbounded).during_bind (fun _ _ => rfl) fun (rsn : Int) s' _ h' =>
      h'.checked (by decide) (by decide) fun h' => ?_
    refine h'.during_bind (fun _ _ => rfl) fun (rsn : Int) s' _ h' =>
      h'.checked (by decide) (by decide) fun h' => ?_
    refine h'.during_bind (fun _ _ => rfl) fun (rsn : Int) s' _ h' =>
      h'.checked (by decide) (by decide) fun h' => ?_
    refine .bind_of (receiveResponse_abides rounds h') fun result s' hresult => ?_
    cases result with
    | error rc => exact .ret fun s'' hrely _ => hresult.rely hrely
    | ok result =>
      obtain ⟨statusCode, jsonBody⟩ := result
      obtain ⟨response, h', rfl, hparse⟩ := hresult
      refine .ite (fun hstatus => ?_) (fun hstatus => ?_)
      · refine .ret fun s'' hrely _ => ⟨by decide, _, h'.rely hrely, ?_⟩
        simp [Attempt.verdict, hparse, hstatus, isPermanent, jwkStatusResponseError,
          jwkStatusUnrecognizedFmtError, jwkStatusPublicKeyError, jwkStatusHttpContextError]
      · exact .ret fun s'' hrely _ => ⟨response, h'.rely hrely, not_not.mp hstatus, hparse⟩

/-- A key is made of the first key of the JSON. -/
theorem getPublicKey_abides {response : HttpResponse} {jwk : lib.Json}
    (h : Trying front (Attempt.received response) s) (hstatus : response.statusCode = 200)
    (hparse : lib.jsonParseUnterminatedUtf8String response.body response.contentLength = some jwk) :
    JwkAbides .task (fun result s' =>
      match result with
      | .error rc => Ended front rc s'
      | .ok key => Made front key s') (getPublicKey jwk) s := by
  unfold getPublicKey
  cases hmaterial : rsaKeyMaterial jwk with
  | none =>
    refine .ret fun s' hrely _ => ⟨by decide, _, h.rely hrely, ?_⟩
    simp [Attempt.verdict, hparse, hstatus, hmaterial, isPermanent]
  | some material =>
    obtain ⟨modulus, exponent⟩ := material
    refine h.during_bind (fun _ _ => rfl) fun (result : Int × lib.Key) s' _ h' => ?_
    obtain ⟨status, key⟩ := result
    refine .ite (fun hfailed => ?_) (fun hmade => ?_)
    · refine .ret fun s'' hrely _ => ⟨by decide, _, h'.rely hrely, ?_⟩
      simp [Attempt.after, Attempt.verdict, hparse, hstatus, hmaterial, hfailed, isPermanent]
    · refine .ret fun s'' hrely _ => ⟨_, h'.rely hrely, ?_⟩
      have hzero : status = 0 := not_not.mp hmade
      simp [Attempt.after, Attempt.verdict, hparse, hstatus, hmaterial, hzero]

/-- The status of an attempt is 0 where its key is stored. -/
theorem getJwk_abides (settings : JwkSettings) (rounds : Nat) (h : Between front s)
    (hbounded : front.length < maxAttempts) :
    JwkAbides .task (fun rc s' =>
      (rc = jwkStatusOk ∧ Made front s'.publicKey s') ∨ Ended front rc s')
      (getJwk settings rounds) s := by
  refine .bind_of (doRequest_abides settings rounds h hbounded) fun result s' hresult => ?_
  cases result with
  | error rc => exact .ret fun s'' hrely _ => .inr (hresult.rely hrely)
  | ok jwkJson =>
    obtain ⟨response, htrying, hstatus, hparse⟩ := hresult
    refine .bind_of (getPublicKey_abides htrying hstatus hparse) fun result s' hresult => ?_
    cases result with
    | error rc => exact .ret fun s'' hrely _ => .inr (hresult.rely hrely)
    | ok key =>
      refine .ask_bind fun s₁ hrely hinv _ s₂ _ hstep => ?_
      obtain ⟨attempt, h₁, hverdict⟩ := hresult.rely hrely
      have hs : s₂ = { s₁ with publicKey := key, attempts := front ++ [attempt] } := by
        rw [← h₁.attempts]
        exact (Option.some.inj hstep).symm
      subst hs
      refine ⟨Trying.inv h₁.with hinv, task_guar h₁.not_initialized, ?_⟩
      refine .ret fun s' hrely' _ => .inl ⟨rfl, ?_⟩
      have hmade : Made front key { s₁ with publicKey := key, attempts := front ++ [attempt] } :=
        ⟨attempt, h₁.with, hverdict⟩
      have hkey : s'.publicKey = key := hrely'.1
      rw [hkey]
      exact hmade.rely hrely'

/-- **The task keeps to the protocol.** -/
theorem attempts_abides (settings : JwkSettings) (rounds : Nat) {left : Nat} (h : Between front s)
    (hleft : front.length + left = maxAttempts) :
    JwkAbides .task (fun _ _ => True) (attempts settings rounds left) s := by
  induction left generalizing front s with
  | zero => exact .ret fun _ _ _ => trivial
  | succ left ih =>
    refine .bind_of (getJwk_abides settings rounds h (by omega)) fun rc s' hrc => ?_
    refine .ite (fun hok => ?_) (fun hnot => .ite (fun hperm => ?_) fun hperm => ?_)
    · obtain ⟨_, hmade⟩ | hended := hrc
      · refine .ask_bind fun s₁ hrely hinv _ s₂ _ hstep => ?_
        cases hstep
        have hkey : s₁.publicKey = s'.publicKey := hrely.1
        have hmade₁ : Made front s₁.publicKey s₁ := hkey ▸ hmade.rely hrely
        exact ⟨hmade₁.initialized hinv, task_guar hmade₁.not_initialized, .ret fun _ _ _ => trivial⟩
      · exact absurd hok hended.1
    · exact .ret fun _ _ _ => trivial
    · obtain ⟨hzero, _⟩ | ⟨_, attempt, h', hverdict⟩ := hrc
      · exact absurd hzero hnot
      · rw [if_neg hperm] at hverdict
        refine .unchanged_bind (fun _ _ => rfl) fun s₁ hrely _ _ => ?_
        refine ih ((h'.rely hrely).between hverdict) ?_
        rw [List.length_append, List.length_singleton]
        omega

end

end

end Zss.Jwk
