import Zss.Jwk.Attempts

/-!
# Which signatures are trusted

Whatever the order of steps, a check that answers `ok` had GSK verify its own message and signature
with the key that was stored when it began, and the task had made that key of the response of its
last attempt (`jwt_trust`). This is so where `makeRLETask` gives a task: where it does not, the
context is freed, and the server goes on using it (`freed_context_trusted`).

## What is not established

That the task ever comes to a key. GSK's verification, and the key that a response is read as, are
the library's own (`lib`).
-/

namespace Zss.Jwk

open Zss.Lib Program

section

variable {lib : Library}

/-! ## Where a key comes from -/

/-- The first of the keys is an RSA key, with this modulus and this exponent. -/
def FirstRsaKey (jwk : lib.Json) (modulus exponent : Bytes) : Prop :=
  ∃ jwkObject keysArray keyObject kty n e,
    lib.jsonAsObject jwk = some jwkObject ∧
    lib.jsonObjectGetArray jwkObject "keys".toList = some keysArray ∧
    lib.jsonArrayGetObject keysArray 0 = some keyObject ∧
    lib.jsonObjectGetString keyObject "kty".toList = some kty ∧
    sameIgnoringCase kty "RSA".toList = true ∧
    lib.jsonObjectGetString keyObject "n".toList = some n ∧
    lib.jsonObjectGetString keyObject "e".toList = some e ∧
    decodeBase64Url lib n = some modulus ∧ decodeBase64Url lib e = some exponent

/-- The attempt had a response with status 200, and GSK constructed the key of its body. -/
def Attempt.Supplies (attempt : Attempt lib) (key : lib.Key) : Prop :=
  ∃ response jwk modulus exponent,
    attempt.response = some response ∧ response.statusCode = 200 ∧
    lib.jsonParseUnterminatedUtf8String response.body response.contentLength = some jwk ∧
    FirstRsaKey jwk modulus exponent ∧ attempt.constructed = some (modulus, exponent, 0, key)

theorem firstRsaKey_of_rsaKeyMaterial {jwk : lib.Json} {modulus exponent : Bytes}
    (h : rsaKeyMaterial jwk = some (modulus, exponent)) : FirstRsaKey jwk modulus exponent := by
  unfold rsaKeyMaterial at h
  split at h
  next => cases h
  next jwkObject hobject =>
  split at h
  next => cases h
  next keysArray hkeys =>
  split at h
  next => cases h
  next keyObject hfirst =>
  split at h
  next => cases h
  next kty hkty =>
  split at h
  next => cases h
  next hrsa =>
  split at h
  next n e hn he =>
    split at h
    next modulus' exponent' hmodulus hexponent =>
      cases h
      refine ⟨jwkObject, keysArray, keyObject, kty, n, e, hobject, hkeys, hfirst, hkty, ?_, hn, he,
        hmodulus, hexponent⟩
      simpa using hrsa
    next => cases h
  next => cases h

/-- What it takes for an attempt to succeed. -/
theorem Attempt.supplies_of_verdict {attempt : Attempt lib} {key : lib.Key}
    (h : attempt.verdict = .succeeded key) : attempt.Supplies key := by
  unfold Attempt.verdict at h
  split at h
  next => cases h
  next =>
  split at h
  next => cases h
  next =>
  split at h
  next => cases h
  next response hresponse =>
  split at h
  next => cases h
  next jwk hparse =>
  split at h
  next => cases h
  next hstatus =>
  split at h
  next => cases h
  next modulus exponent hmaterial =>
  split at h
  next => cases h
  next modulus' exponent' status made hconstructed =>
  split at h
  next => cases h
  next hsame =>
  split at h
  next => cases h
  next hzero =>
    cases h
    have hpair : (modulus', exponent') = (modulus, exponent) := not_not.mp hsame
    cases hpair
    have hstatus' : status = 0 := not_not.mp hzero
    subst hstatus'
    exact ⟨response, jwk, modulus, exponent, hresponse, not_not.mp hstatus, hparse,
      firstRsaKey_of_rsaKeyMaterial hmaterial, hconstructed⟩

/-! ## A check -/

/-- A check's answer `ok` is for RS256, and GSK verified the message and the signature of the check
with the key that was stored when the check began. The last attempt had supplied that key. -/
def Trusted (s : JwkWorld lib) (id : Nat) (request : CheckRequest) : Prop :=
  request.algorithm = .rs256 ∧ ∃ key attempts,
    (Thread.check id request, key, attempts) ∈ s.tested ∧
    (∃ attempt ∈ attempts.getLast?, attempt.Supplies key) ∧
    (Thread.check id request, X509AlgorithmType.sha256WithRsaEncryption, key, request.message,
      request.signature) ∈ s.verified

theorem Trusted.rely {s s' : JwkWorld lib} {id : Nat} {request : CheckRequest}
    (h : Trusted s id request) (hrely : jwkRely (.check id request) s s') :
    Trusted s' id request := by
  obtain ⟨halg, key, attempts, htested, hsupplied, hverified⟩ := h
  exact ⟨halg, key, attempts, hrely.2.2.1 _ htested, hsupplied, hrely.2.2.2 _ hverified⟩

/-- What each comes to. -/
def jwkPost : Thread → Option JwtRc → JwkWorld lib → Prop
  | .check id request, some .ok, s => Trusted s id request
  | _, _, _ => True

/-- GSK verifies nothing but RS256. -/
theorem algorithm_of_verified {algorithm : JwsAlgorithm} {key : lib.Key} {message signature : Bytes}
    (h : @GskDocumented lib
      ⟨.gskVerifyDataSignature (gskAlgorithm algorithm) key message signature, (0 : Int)⟩) :
    algorithm = .rs256 := by
  cases algorithm with
  | none => exact absurd rfl h
  | rs256 => rfl
  | other id => exact absurd rfl h

/-- A check only notes what it finds. -/
theorem check_guar {s : JwkWorld lib} {id : Nat} {request : CheckRequest}
    {tested : List (Thread × lib.Key × List (Attempt lib))}
    {verified : List (Thread × X509AlgorithmType × lib.Key × Bytes × Bytes)}
    (htested : ∀ e ∈ s.tested, e ∈ tested) (hverified : ∀ e ∈ s.verified, e ∈ verified) :
    (jwkProtocol lib).guar (.check id request) s
      { s with tested := tested, verified := verified } := by
  intro u hu
  cases u with
  | configure => exact ⟨rfl, rfl⟩
  | task => exact ⟨rfl, rfl, rfl⟩
  | check id request => exact ⟨fun h => ⟨h, rfl⟩, fun h => h, htested, hverified⟩

/-- The check found the key initialized; it is still the one that is stored. -/
structure Found (t : Thread) (key : lib.Key) (attempts : List (Attempt lib)) (s : JwkWorld lib) :
    Prop where
  tested : (t, key, attempts) ∈ s.tested
  initialized : s.isPublicKeyInitialized = true
  stored : s.publicKey = key
  registered : s.registered = true

theorem Found.rely {id : Nat} {request : CheckRequest} {key : lib.Key}
    {attempts : List (Attempt lib)} {s s' : JwkWorld lib}
    (h : Found (.check id request) key attempts s) (hrely : jwkRely (.check id request) s s') :
    Found (.check id request) key attempts s' where
  tested := hrely.2.2.1 _ h.tested
  initialized := (hrely.1 h.initialized).1
  stored := (hrely.1 h.initialized).2.trans h.stored
  registered := hrely.2.1 h.registered

/-- A check that finds the key initialized notes it. -/
theorem JwkWorld.Inv.noted {s : JwkWorld lib} (hinv : s.Inv)
    (hs : s.isPublicKeyInitialized = true) (t : Thread) :
    JwkWorld.Inv { s with tested := s.tested ++ [(t, s.publicKey, s.attempts)] } where
  not_freed := hinv.not_freed
  no_null := hinv.no_null
  temporary := hinv.temporary
  bounded := hinv.bounded
  stored := hinv.stored
  tested t' key attempts he := by
    obtain he | he := List.mem_append.mp he
    · exact hinv.tested t' key attempts he
    · cases List.mem_singleton.mp he
      exact ⟨hs, hinv.stored hs⟩

theorem JwkWorld.Inv.verifying {s : JwkWorld lib} (hinv : s.Inv)
    {verified : List (Thread × X509AlgorithmType × lib.Key × Bytes × Bytes)} :
    JwkWorld.Inv { s with verified := verified } where
  not_freed := hinv.not_freed
  no_null := hinv.no_null
  temporary := hinv.temporary
  bounded := hinv.bounded
  stored := hinv.stored
  tested := hinv.tested

section

variable [DecidableEq lib.Key]

/-- What is read of storage that is not freed is what is stored there. -/
theorem getIsPublicKeyInitialized_step {s s' : JwkWorld lib} {t : Thread}
    {isPublicKeyInitialized : Bool} (hfreed : s.freed = false)
    (hstep : s.step t .getIsPublicKeyInitialized isPublicKeyInitialized = some s') :
    isPublicKeyInitialized = s.isPublicKeyInitialized ∧
      s' = if isPublicKeyInitialized then
        { s with tested := s.tested ++ [(t, s.publicKey, s.attempts)] }
        else s := by
  change (if s.freed = true ∨ isPublicKeyInitialized = s.isPublicKeyInitialized then _ else _) = _
    at hstep
  split at hstep
  next hread =>
    refine ⟨hread.resolve_left fun h => ?_, (Option.some.inj hstep).symm⟩
    exact Bool.false_ne_true (hfreed.symm.trans h)
  next => cases hstep

theorem getPublicKey_step {s s' : JwkWorld lib} (t : Thread) {key : lib.Key}
    (hfreed : s.freed = false) (hstep : s.step t .getPublicKey key = some s') :
    key = s.publicKey ∧ s' = s := by
  change (if s.freed = true ∨ key = s.publicKey then _ else _) = _ at hstep
  split at hstep
  next hread =>
    refine ⟨hread.resolve_left fun h => ?_, (Option.some.inj hstep).symm⟩
    exact Bool.false_ne_true (hfreed.symm.trans h)
  next => cases hstep

/-- GSK verifies with the key that was found. -/
theorem gskVerify_abides (id : Nat) (request : CheckRequest) {key : lib.Key}
    {attempts : List (Attempt lib)} {s : JwkWorld lib}
    (h : Found (.check id request) key attempts s) :
    JwkAbides (.check id request) (fun (rc : JwtRc) s' => rc = .ok → Trusted s' id request)
      (do
        let gskStatus : Int ← call (JwkCall.gskVerifyDataSignature
          (gskAlgorithm request.algorithm) key request.message request.signature)
        if gskStatus ≠ 0 then pure .sigMismatch else pure .ok) s := by
  refine .ask_bind fun s₁ hrely hinv (status : Int) s₂ hallowed hstep => ?_
  have h₁ := h.rely hrely
  have hs : s₂ = if status = 0 then
      { s₁ with verified := s₁.verified ++ [(.check id request, gskAlgorithm request.algorithm, key,
          request.message, request.signature)] }
      else s₁ := (Option.some.inj hstep).symm
  by_cases hstatus : status = 0
  · rw [if_pos hstatus] at hs
    subst hs
    refine ⟨hinv.verifying, check_guar (fun _ h => h) fun _ h => List.mem_append_left _ h, ?_⟩
    refine .ite (fun h => absurd hstatus h) fun _ => .ret fun s₃ hrely' hinv' _ => ?_
    obtain ⟨_, attempt, hlast, hverdict⟩ := hinv.tested _ _ _ h₁.tested
    subst hstatus
    have halg := algorithm_of_verified hallowed.1
    refine ⟨halg, key, attempts, hrely'.2.2.1 _ h₁.tested,
      ⟨attempt, hlast, Attempt.supplies_of_verdict hverdict⟩, ?_⟩
    have hverified := hrely'.2.2.2 (.check id request, gskAlgorithm request.algorithm, key,
      request.message, request.signature) (List.mem_append_right _ (List.mem_singleton.mpr rfl))
    rw [halg] at hverified
    exact hverified
  · rw [if_neg hstatus] at hs
    subst hs
    exact ⟨hinv, Protocol.guar_refl _ _ _,
      .ite (fun _ => .ret fun _ _ _ => nofun) fun h => absurd hstatus h⟩

/-- **A check answers `ok` for what GSK verified.** -/
theorem checkJwtSignature_abides (id : Nat) (request : CheckRequest) {s : JwkWorld lib}
    (hregistered : s.registered = true) :
    JwkAbides (.check id request) (fun rc s' => rc = .ok → Trusted s' id request)
      (checkJwtSignature request : JwkProgram lib JwtRc) s := by
  refine .ask_bind fun s₁ hrely hinv (isPublicKeyInitialized : Bool) s₂ _ hstep => ?_
  have hregistered₁ : s₁.registered = true := hrely.2.1 hregistered
  obtain ⟨hread, hs⟩ := getIsPublicKeyInitialized_step (hinv.not_freed hregistered₁) hstep
  subst hs
  cases isPublicKeyInitialized with
  | false => exact ⟨hinv, Protocol.guar_refl _ _ _, .ret fun _ _ _ => nofun⟩
  | true =>
    refine ⟨hinv.noted hread.symm _,
      check_guar (fun _ h => List.mem_append_left _ h) fun _ h => h, ?_⟩
    refine .ite nofun fun _ => .ite (fun _ => .ite (fun _ => ?_) fun _ => ?_) fun _ => ?_
    · exact .ret fun _ _ _ => nofun
    · exact .ret fun _ _ _ => nofun
    · have hfound : Found (.check id request) s₁.publicKey s₁.attempts
          { s₁ with tested := s₁.tested ++ [(.check id request, s₁.publicKey, s₁.attempts)] } :=
        ⟨List.mem_append_right _ (List.mem_singleton.mpr rfl), hread.symm, rfl, hregistered₁⟩
      refine .ask_bind fun s₃ hrely' hinv' key s₄ _ hstep => ?_
      have h₃ := hfound.rely hrely'
      obtain ⟨hkey, hs⟩ :=
        getPublicKey_step (.check id request) (hinv'.not_freed h₃.registered) hstep
      subst hs
      have hkey' := hkey.trans h₃.stored
      subst hkey'
      exact ⟨hinv', Protocol.guar_refl _ _ _, gskVerify_abides id request h₃⟩

/-! ## Every order of steps -/

/-- What begins keeps to the protocol. -/
theorem begins_abides {s : JwkWorld lib} {t : Thread} {p : JwkProgram lib (Option JwtRc)}
    (hfresh : jwkFresh t s) (hbegins : Begins s t p) : JwkAbides t (jwkPost t) p s := by
  cases hbegins with
  | configure settings =>
    exact .bind_of (configureJwt_abides settings hfresh) fun _ _ _ => .ret fun _ _ _ => trivial
  | task settings rounds hstarted =>
    have hbetween : Between [] s := ⟨hfresh.2, nofun, hfresh.1⟩
    exact .bind_of (attempts_abides settings rounds hbetween (Nat.zero_add _))
      fun _ _ _ => .ret fun _ _ _ => trivial
  | check id request hregistered =>
    refine .bind_of (checkJwtSignature_abides id request hregistered) fun rc s' hrc =>
      .ret fun s'' hrely _ => ?_
    cases rc with
    | ok => exact (hrc rfl).rely hrely
    | notConfigured => trivial
    | insecure => trivial
    | invalidSiglen => trivial
    | sigMismatch => trivial

/-- **Every order of steps.** A check that answers `ok` is trusted; no attempt follows one that was
not ended by an error that passes, and there are not too many; the key that is announced is the last
attempt's; no missing body is read, and a context the server has is not freed. -/
theorem jwt_trust {zero : lib.Key} {pool : Pool (jwkInterface lib) (JwkWorld lib) Thread
      (Option JwtRc)}
    (h : Pool.Reaches (jwkWorld lib) Begins jwkAllowed (.start zero) pool) :
    (∀ id request, pool.thread (.check id request) = some (.ret (some .ok)) →
      Trusted pool.world id request) ∧
    (∀ attempt ∈ pool.world.attempts.dropLast, attempt.verdict = .temporary) ∧
    pool.world.attempts.length ≤ maxAttempts ∧
    (pool.world.isPublicKeyInitialized = true →
      ∃ attempt ∈ pool.world.attempts.getLast?, attempt.Supplies pool.world.publicKey) ∧
    pool.world.nullRead = false ∧
    ¬(pool.world.registered = true ∧ pool.world.freed = true) := by
  have hstart : (JwkWorld.start zero).Inv :=
    ⟨fun _ => rfl, rfl, nofun, Nat.zero_le _, nofun, nofun⟩
  have hfresh : ∀ t, jwkFresh t (JwkWorld.start zero) := fun t => by
    cases t with
    | configure => exact ⟨rfl, rfl⟩
    | task => exact ⟨rfl, rfl⟩
    | check id request => trivial
  have habides : pool.Abides (jwkWorld lib) jwkAllowed (jwkProtocol lib) jwkPost :=
    Pool.reaches_abides (fun _ _ _ _ hfresh hbegins => begins_abides hfresh hbegins) hstart hfresh h
  refine ⟨fun id request hok => habides.returned hok, habides.inv.temporary, habides.inv.bounded,
    fun hinit => ?_, habides.inv.no_null, fun hfreed => ?_⟩
  · obtain ⟨attempt, hlast, hverdict⟩ := habides.inv.stored hinit
    exact ⟨attempt, hlast, Attempt.supplies_of_verdict hverdict⟩
  · exact Bool.false_ne_true ((habides.inv.not_freed hfreed.1).symm.trans hfreed.2)

end

end

/-! ## A run of each kind -/

def jwkText : Bytes :=
  "\x7b\"keys\":[\x7b\"kty\":\"RSA\",\"n\":\"AQAB\",\"e\":\"AQAB\"\x7d]\x7d".toList.map
    fun c => UInt8.ofNat c.toNat

/-- What reads the text above; a key is its modulus and its exponent. -/
def jwkLibrary : Library where
  Json := List (Text × Text)
  JsonObject := List (Text × Text)
  JsonArray := List (Text × Text)
  Key := Bytes × Bytes
  jsonParseUnterminatedUtf8String body contentLength :=
    if body = some jwkText ∧ contentLength = jwkText.length then
      some [("kty".toList, "RSA".toList), ("n".toList, "AQAB".toList), ("e".toList, "AQAB".toList)]
    else none
  jsonAsObject json := some json
  jsonObjectGetArray jwkObject _ := some jwkObject
  jsonArrayGetObject keysArray _ := some keysArray
  jsonObjectGetString keyObject name := keyObject.lookup name
  base64urlToBase64 data := some data
  decodeBase64 data := if data = "AQAB".toList then some [1, 0, 1] else none

instance : DecidableEq jwkLibrary.Key := inferInstanceAs (DecidableEq (Bytes × Bytes))

def jwkSettings : JwkSettings := ⟨"apiml".toList, 7554, 10, "/keys".toList, false, 10⟩

def jwkCheck : Thread := .check 0 ⟨.rs256, [7], [8]⟩

/-- A response comes at the second attempt, then a signature is checked. -/
theorem jwt_trust_run : ∃ pool : Pool (jwkInterface jwkLibrary) (JwkWorld jwkLibrary) Thread
    (Option JwtRc), pool.thread jwkCheck = some (.ret (some .ok)) ∧ pool.world.attempts.length = 2 ∧
      Trusted pool.world 0 ⟨.rs256, [7], [8]⟩ := by
  have h : Pool.Reaches (jwkWorld jwkLibrary) Begins jwkAllowed (.start ([], [])) _ := .refl
  have h := h.begin .configure rfl (.configure (some jwkSettings))
  have h := h.advance .configure rfl true ⟨trivial, trivial⟩ rfl
  have h := h.advance .configure rfl (0 : Int) ⟨trivial, trivial⟩ rfl
  have h := h.advance .configure rfl true ⟨trivial, rfl⟩ rfl
  have h := h.advance .configure rfl () ⟨trivial, trivial⟩ rfl
  have h := h.begin .task rfl (.task jwkSettings 1 rfl)
  have h := h.advance .task rfl (0 : Int) ⟨trivial, trivial⟩ rfl
  have h := h.advance .task rfl (12 : Int) ⟨trivial, trivial⟩ rfl
  have h := h.advance .task rfl () ⟨trivial, trivial⟩ rfl
  iterate 4 have h := h.advance .task rfl (0 : Int) ⟨trivial, trivial⟩ rfl
  have h := h.advance .task rfl ((0, some ⟨200, jwkText.length, some jwkText⟩) :
      Int × Option HttpResponse) ⟨trivial, fun _ hresponse hnone => by
    cases hresponse
    cases hnone⟩ rfl
  have h := h.advance .task rfl () ⟨trivial, trivial⟩ rfl
  have h := h.advance .task rfl ((0, ([1, 0, 1], [1, 0, 1])) : Int × jwkLibrary.Key)
    ⟨trivial, trivial⟩ rfl
  have h := h.advance .task rfl () ⟨trivial, trivial⟩ rfl
  have h := h.advance .task rfl () ⟨trivial, trivial⟩ rfl
  have h := h.begin jwkCheck rfl (.check 0 _ rfl)
  have h := h.advance jwkCheck rfl true ⟨trivial, trivial⟩ rfl
  have h := h.advance jwkCheck rfl ([1, 0, 1], [1, 0, 1]) ⟨trivial, trivial⟩ rfl
  have h := h.advance jwkCheck rfl (0 : Int) ⟨trivial, trivial⟩ rfl
  exact ⟨_, rfl, rfl, (jwt_trust h).1 0 _ rfl⟩

/-- Where no task is made, the server has a context that was freed, and a check may trust it. -/
theorem freed_context_trusted : ∃ pool : Pool (jwkInterface jwkLibrary) (JwkWorld jwkLibrary) Thread
    (Option JwtRc),
    Pool.Reaches (jwkWorld jwkLibrary) Begins (fun _ _ e => GskDocumented e) (.start ([], []))
      pool ∧
      (pool.world.registered = true ∧ pool.world.freed = true) ∧
      pool.thread jwkCheck = some (.ret (some .ok)) ∧
      ¬Trusted pool.world 0 ⟨.rs256, [7], [8]⟩ := by
  have h : Pool.Reaches (jwkWorld jwkLibrary) Begins (fun _ _ e => GskDocumented e)
      (.start ([], [])) _ := .refl
  have h := h.begin .configure rfl (.configure (some jwkSettings))
  have h := h.advance .configure rfl true trivial rfl
  have h := h.advance .configure rfl (0 : Int) trivial rfl
  have h := h.advance .configure rfl false trivial rfl
  have h := h.advance .configure rfl () trivial rfl
  have h := h.begin jwkCheck rfl (.check 0 _ rfl)
  have h := h.advance jwkCheck rfl true trivial rfl
  have h := h.advance jwkCheck rfl ([], []) trivial rfl
  have h := h.advance jwkCheck rfl (0 : Int) trivial rfl
  refine ⟨_, h, ⟨rfl, rfl⟩, rfl, fun htrusted => ?_⟩
  obtain ⟨_, key, attempts, htested, ⟨attempt, hlast, _⟩, _⟩ := htrusted
  cases List.mem_singleton.mp htested
  cases hlast

end Zss.Jwk
