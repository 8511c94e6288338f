import Zss.Lib.Program

/-!
# The public key of JWTs

`jwk.c`: `configureJwt` registers a context with the HTTP server and starts a task, which asks APIML
for the key the tokens are signed with until it has one; `checkJwtSignature` checks a signature with
the key in the context. They run at the same time and share the context.

What they ask of the HTTP client, of GSK and of the server is a call, as is each access to the
context. The JSON parser, its accessors and the base64 decoders are parameters. The loop that
receives a response is run with fuel: where it goes on for longer, the task waits.
-/

namespace Zss.Jwk

open Zss.Lib Program

abbrev Text := List Char

abbrev Bytes := List UInt8

/-! ## Constants -/

def jwkStatusOk : Int := 0
def jwkStatusResponseError : Int := 2
def jwkStatusJsonResponseError : Int := 3
def jwkStatusUnrecognizedFmtError : Int := 4
def jwkStatusPublicKeyError : Int := 7
def jwkStatusHttpContextError : Int := 8
def jwkStatusHttpReqInitError : Int := 9
def jwkStatusHttpReqStagingError : Int := 10
def jwkStatusHttpReqSendError : Int := 11

/-- What `checkJwtSignature` answers: `RC_JWT_OK` and so on. -/
inductive JwtRc where
  | ok
  | notConfigured
  | insecure
  | invalidSiglen
  | sigMismatch

/-- `JwsAlgorithm`, as far as it is told apart. -/
inductive JwsAlgorithm where
  | none
  | rs256
  | other (id : Nat)
deriving DecidableEq

/-- The values of `x509_algorithm_type` that are used. -/
inductive X509AlgorithmType where
  | unknown
  | sha256WithRsaEncryption

/-- `JwkSettings`, without the TLS environment. -/
structure JwkSettings where
  host : Text
  port : Int
  timeoutSeconds : Int
  path : Text
  fallback : Bool
  retryIntervalSeconds : Int

/-- What is used of a response; a null pointer is none. -/
structure HttpResponse where
  statusCode : Int
  contentLength : Nat
  body : Option Bytes

/-- A signature to be checked. -/
structure CheckRequest where
  algorithm : JwsAlgorithm
  signature : Bytes
  message : Bytes
deriving DecidableEq

/-! ## What is called -/

/-- The JSON parser, its accessors and the decoders of the common library, and GSK's keys; a null
pointer or an error is none. -/
structure Library where
  Json : Type
  JsonObject : Type
  JsonArray : Type
  Key : Type
  jsonParseUnterminatedUtf8String : Option Bytes → Nat → Option Json
  jsonAsObject : Json → Option JsonObject
  jsonObjectGetArray : JsonObject → Text → Option JsonArray
  jsonArrayGetObject : JsonArray → Nat → Option JsonObject
  jsonObjectGetString : JsonObject → Text → Option Text
  base64urlToBase64 : Text → Option Text
  decodeBase64 : Text → Option Bytes

/-- The calls, and the accesses to the context. `copyBody` is the `memcpy` of a body. -/
inductive JwkCall (lib : Library) where
  | safeMalloc
  | httpServerInitJwtContextCustom (fallback : Bool)
  | makeRLETask
  | safeFree
  | startRLETask
  | httpClientContextInitSecure (host : Text) (port recvTimeoutSeconds : Int)
  | httpClientSessionInit
  | httpClientSessionStageRequest (path : Text)
  | httpClientSessionSend
  | httpClientSessionReceiveNative
  | copyBody (body : Option Bytes) (contentLength : Nat)
  | gskConstructPublicKeyRsa (modulus exponent : Bytes)
  | setPublicKey (key : lib.Key)
  | setIsPublicKeyInitialized
  | sleep (seconds : Int)
  | getIsPublicKeyInitialized
  | getPublicKey
  | gskVerifyDataSignature (alg : X509AlgorithmType) (key : lib.Key) (message signature : Bytes)
  | receiveOn

/-- What a call is answered with. A key that is constructed is there for a status of 0. A response
is there once it is complete. Nothing answers a task that receives without end. -/
def JwkCall.Answer {lib : Library} : JwkCall lib → Type
  | .safeMalloc => Bool
  | .httpServerInitJwtContextCustom _ => Int
  | .makeRLETask => Bool
  | .safeFree => Unit
  | .startRLETask => Unit
  | .httpClientContextInitSecure _ _ _ => Int
  | .httpClientSessionInit => Int
  | .httpClientSessionStageRequest _ => Int
  | .httpClientSessionSend => Int
  | .httpClientSessionReceiveNative => Int × Option HttpResponse
  | .copyBody _ _ => Unit
  | .gskConstructPublicKeyRsa _ _ => Int × lib.Key
  | .setPublicKey _ => Unit
  | .setIsPublicKeyInitialized => Unit
  | .sleep _ => Unit
  | .getIsPublicKeyInitialized => Bool
  | .getPublicKey => lib.Key
  | .gskVerifyDataSignature _ _ _ _ => Int
  | .receiveOn => Empty

def jwkInterface (lib : Library) : Interface := ⟨JwkCall lib, JwkCall.Answer⟩

section

variable (lib : Library)

abbrev JwkProgram (α : Type) := Program (jwkInterface lib) α

variable {lib}

def call (c : JwkCall lib) : JwkProgram lib c.Answer := ask (I := jwkInterface lib) c

/-! ## The key of a response -/

/-- Whether `strcasecmp` answers 0. -/
def sameIgnoringCase (a b : Text) : Bool := a.map Char.toLower == b.map Char.toLower

/-- `decodeBase64Url`; none where it answers false. -/
def decodeBase64Url (lib : Library) (data : Text) : Option Bytes :=
  match lib.base64urlToBase64 data with
  | none => none
  | some base64 =>
    match lib.decodeBase64 base64 with
    | none | some [] => none
    | some decoded => some decoded

/-- The modulus and the exponent that `getPublicKey` takes from a JWK; none where it does not
recognize the format. -/
def rsaKeyMaterial (jwk : lib.Json) : Option (Bytes × Bytes) :=
  match lib.jsonAsObject jwk with
  | none => none
  | some jwkObject =>
    match lib.jsonObjectGetArray jwkObject "keys".toList with
    | none => none
    | some keysArray =>
      match lib.jsonArrayGetObject keysArray 0 with
      | none => none
      | some keyObject =>
        match lib.jsonObjectGetString keyObject "kty".toList with
        | none => none
        | some alg =>
          if !sameIgnoringCase alg "RSA".toList then none
          else
            match lib.jsonObjectGetString keyObject "n".toList,
              lib.jsonObjectGetString keyObject "e".toList with
            | some modulusBase64Url, some exponentBase64Url =>
              match decodeBase64Url lib modulusBase64Url, decodeBase64Url lib exponentBase64Url with
              | some modulus, some exponent => some (modulus, exponent)
              | _, _ => none
            | _, _ => none

/-- `getPublicKey`: the key, or its status. -/
def getPublicKey (jwk : lib.Json) : JwkProgram lib (Except Int lib.Key) :=
  match rsaKeyMaterial jwk with
  | none => pure (.error jwkStatusUnrecognizedFmtError)
  | some (modulus, exponent) => do
    let result : Int × lib.Key ← call (.gskConstructPublicKeyRsa modulus exponent)
    if result.1 ≠ 0 then pure (.error jwkStatusPublicKeyError)
    else pure (.ok result.2)

/-! ## A request -/

/-- The loop of `receiveResponse`. -/
def receive : Nat → JwkProgram lib (Option HttpResponse)
  | 0 => do
    let never : Empty ← call .receiveOn
    nomatch never
  | rounds + 1 => do
    let result : Int × Option HttpResponse ← call .httpClientSessionReceiveNative
    if result.1 ≠ 0 then pure none
    else
      match result.2 with
      | some response => pure (some response)
      | none => receive rounds

/-- `receiveResponse`: the status code and the JSON of the body, or its status. -/
def receiveResponse (rounds : Nat) : JwkProgram lib (Except Int (Int × lib.Json)) := do
  match ← receive rounds with
  | none => pure (.error jwkStatusResponseError)
  | some response =>
    call (.copyBody response.body response.contentLength)
    match lib.jsonParseUnterminatedUtf8String response.body response.contentLength with
    | none => pure (.error jwkStatusJsonResponseError)
    | some jsonBody => pure (.ok (response.statusCode, jsonBody))

/-- `doRequest`: the JSON of the body, or the status. Each of its exits sets the status. -/
def doRequest (settings : JwkSettings) (rounds : Nat) : JwkProgram lib (Except Int lib.Json) := do
  let recvTimeoutSeconds := if settings.timeoutSeconds > 0 then settings.timeoutSeconds else 10
  let rsn : Int ← call (.httpClientContextInitSecure settings.host settings.port recvTimeoutSeconds)
  if rsn ≠ 0 then pure (.error jwkStatusHttpContextError)
  else
    let rsn : Int ← call .httpClientSessionInit
    if rsn ≠ 0 then pure (.error jwkStatusHttpReqInitError)
    else
      let rsn : Int ← call (.httpClientSessionStageRequest settings.path)
      if rsn ≠ 0 then pure (.error jwkStatusHttpReqStagingError)
      else
        let rsn : Int ← call .httpClientSessionSend
        if rsn ≠ 0 then pure (.error jwkStatusHttpReqSendError)
        else
          match ← receiveResponse rounds with
          | .error rc => pure (.error rc)
          | .ok (statusCode, jsonBody) =>
            if statusCode ≠ 200 then pure (.error jwkStatusResponseError)
            else pure (.ok jsonBody)

/-- `getJwk`: its status. -/
def getJwk (settings : JwkSettings) (rounds : Nat) : JwkProgram lib Int := do
  match ← doRequest settings rounds with
  | .error rc => pure rc
  | .ok jwkJson =>
    match ← getPublicKey jwkJson with
    | .error rc => pure rc
    | .ok publicKey =>
      call (.setPublicKey publicKey)
      pure jwkStatusOk

/-! ## The task -/

def maxAttempts : Nat := 1000

/-- The statuses at which the task gives up. -/
def isPermanent (rc : Int) : Bool :=
  rc = jwkStatusUnrecognizedFmtError || rc = jwkStatusPublicKeyError ||
    rc = jwkStatusHttpContextError

/-- The loop of `jwkTaskMain` with so many attempts left: whether it succeeds. -/
def attempts (settings : JwkSettings) (rounds : Nat) : Nat → JwkProgram lib Bool
  | 0 => pure false
  | left + 1 => do
    let rc ← getJwk settings rounds
    if rc = jwkStatusOk then
      call .setIsPublicKeyInitialized
      pure true
    else if isPermanent rc then pure false
    else
      call (.sleep settings.retryIntervalSeconds)
      attempts settings rounds left

/-- `jwkTaskMain`. -/
def jwkTaskMain (settings : JwkSettings) (rounds : Nat) : JwkProgram lib Bool :=
  attempts settings rounds maxAttempts

/-- `configureJwt`; no settings are a null pointer. -/
def configureJwt (settings : Option JwkSettings) : JwkProgram lib Unit :=
  match settings with
  | none => pure ()
  | some settings => do
    let allocated : Bool ← call .safeMalloc
    if allocated = false then pure ()
    else
      let rc : Int ← call (.httpServerInitJwtContextCustom settings.fallback)
      if rc ≠ 0 then call .safeFree
      else
        let task : Bool ← call .makeRLETask
        if task = false then call .safeFree
        else call .startRLETask

/-! ## A check -/

/-- The algorithm of GSK for one of JWS. -/
def gskAlgorithm : JwsAlgorithm → X509AlgorithmType
  | .rs256 => .sha256WithRsaEncryption
  | _ => .unknown

/-- `checkJwtSignature`. -/
def checkJwtSignature (request : CheckRequest) : JwkProgram lib JwtRc := do
  let isPublicKeyInitialized : Bool ← call .getIsPublicKeyInitialized
  if isPublicKeyInitialized = false then pure .notConfigured
  else if request.algorithm = .none then
    if request.signature = [] then pure .insecure
    else pure .invalidSiglen
  else
    let publicKey ← call .getPublicKey
    let gskStatus : Int ← call (.gskVerifyDataSignature (gskAlgorithm request.algorithm) publicKey
      request.message request.signature)
    if gskStatus ≠ 0 then pure .sigMismatch
    else pure .ok

end

end Zss.Jwk
