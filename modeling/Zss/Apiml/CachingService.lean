import Mathlib.Logic.Function.Basic
import Zss.Apiml.Storage
import Zss.Lib.Concurrent
import Zss.Lib.Serial

/-!
# The caching service as a map

The caching service keeps a map; each request is one step (`CacheRequest.apply`). How a request says
what it asks for, and how a response says what comes of it, is a parameter (`Service`) that does as
documented (`Service.Documented`).

The clients of the storage call it at the same time. What a call answers is noted at the request
that decides it (`ApimlWorld.log`); for what is noted, the service does what a map does, one call
after the other (`StorageOp.apply`).
-/

namespace Zss.Apiml

open Zss.Lib Program

/-! ## A map -/

abbrev Store := Text → Option Text

/-- What a client calls. -/
inductive StorageOp where
  | set (key value : Text)
  | get (key : Text)
  | remove (key : Text)
deriving DecidableEq

/-- What a call on a map answers, and what it leaves. -/
def StorageOp.apply (store : Store) : StorageOp → Store × StorageStatus × Option Text
  | .set key value => (Function.update store key (some value), .ok, none)
  | .get key =>
    match store key with
    | some value => (store, .ok, some value)
    | none => (store, .keyNotFound, none)
  | .remove key =>
    match store key with
    | some _ => (Function.update store key none, .ok, none)
    | none => (store, .keyNotFound, none)

/-- What a request asks of the service. -/
inductive CacheRequest where
  | put (key value : Text)
  | post (key value : Text)
  | get (key : Text)
  | delete (key : Text)

/-- What comes of it. -/
inductive CacheAnswer where
  | done
  | entry (key value : Text)
  | notFound (key : Text)
  | conflict (key : Text)

/-- PUT changes a key that is there, POST adds one that is not. -/
def CacheRequest.apply (store : Store) : CacheRequest → Store × CacheAnswer
  | .put key value =>
    match store key with
    | some _ => (Function.update store key (some value), .done)
    | none => (store, .notFound key)
  | .post key value =>
    match store key with
    | some _ => (store, .conflict key)
    | none => (Function.update store key (some value), .done)
  | .get key =>
    match store key with
    | some value => (store, .entry key value)
    | none => (store, .notFound key)
  | .delete key =>
    match store key with
    | some _ => (Function.update store key none, .done)
    | none => (store, .notFound key)

/-! ## The service -/

/-- How requests are read and answers are written. -/
structure Service where
  read : ApimlRequest → Option CacheRequest
  write : CacheRequest → CacheAnswer → HttpResponse
  badRequest : HttpResponse

/-- The status codes: what is done has one of three, an entry has 200. -/
def CacheAnswer.HasStatus (statusCode : Int) : CacheAnswer → Prop
  | .done => statusCode = 200 ∨ statusCode = 201 ∨ statusCode = 204
  | .entry _ _ => statusCode = 200
  | .notFound _ => statusCode = 404
  | .conflict _ => statusCode = 409

/-- What the service and the common library are documented to do: a request is read as what was
written, also by the JSON printer and the percent encoding; the responses to GET are JSON, and that
of an entry has its value. -/
structure Service.Documented (service : Service) (lib : Library) : Prop where
  read_put : ∀ key value, service.read ⟨.put, cachingServiceUri,
    some ((lib.bodyChunks key value).flatten.map lib.ibm1047ToIso88591), false⟩ =
    some (.put key value)
  read_post : ∀ key value, service.read ⟨.post, cachingServiceUri,
    some ((lib.bodyChunks key value).flatten.map lib.ibm1047ToIso88591), false⟩ =
    some (.post key value)
  read_get : ∀ key, service.read
    ⟨.get, cachingServiceUri ++ '/' :: lib.percentEncode key, none, true⟩ = some (.get key)
  read_delete : ∀ key, service.read
    ⟨.delete, cachingServiceUri ++ '/' :: lib.percentEncode key, none, false⟩ = some (.delete key)
  no_nul : ∀ key value, '\x00' ∉ (lib.bodyChunks key value).flatten
  status : ∀ request (answer : CacheAnswer),
    answer.HasStatus (service.write request answer).statusCode
  json : ∀ key answer,
    (lib.jsonParseUnterminatedUtf8String (service.write (.get key) answer).body
      (service.write (.get key) answer).contentLength).isSome = true
  value : ∀ key value json,
    lib.jsonParseUnterminatedUtf8String (service.write (.get key) (.entry key value)).body
      (service.write (.get key) (.entry key value)).contentLength = some json →
    ∃ object, lib.jsonAsObject (some json) = some object ∧
      lib.jsonObjectGetString object "value".toList = some value

/-! ## The world -/

/-- A call of a client: its number, and what it calls. -/
structure Client where
  id : Nat
  op : StorageOp
deriving DecidableEq

abbrev Outcome := StorageStatus × Option Text

/-- What the service keeps, what the last request of each call was answered, and which calls were
decided, in the order of the requests that decided them. -/
structure ApimlWorld where
  store : Store
  response : Client → Option HttpResponse
  log : List (Client × Outcome)

/-- A world in which no call was made. -/
def ApimlWorld.start (store : Store) : ApimlWorld := ⟨store, fun _ => none, []⟩

/-- What a request decides for the call it is made for. A PUT that finds no key is followed by a
POST, and a conflict is no answer of a map. -/
def decided : CacheRequest → CacheAnswer → Option Outcome
  | .put _ _, .notFound _ => none
  | _, .done => some (.ok, none)
  | _, .entry _ value => some (.ok, some value)
  | _, .notFound _ => some (.keyNotFound, none)
  | _, .conflict _ => none

/-- The service answers a request. -/
def ApimlWorld.serve (service : Service) (s : ApimlWorld) (t : Client) (request : ApimlRequest) :
    ApimlWorld :=
  match service.read request with
  | none => { s with response := Function.update s.response t (some service.badRequest) }
  | some cacheRequest =>
    let (store, answer) := cacheRequest.apply s.store
    { store := store
      response := Function.update s.response t (some (service.write cacheRequest answer))
      log := s.log ++ ((decided cacheRequest answer).map fun outcome => (t, outcome)).toList }

/-- What a call comes to. A request that is sent is answered, and what is received is the answer. -/
def ApimlWorld.step (service : Service) (s : ApimlWorld) (t : Client) :
    (c : ApimlCall) → c.Answer → Option ApimlWorld
  | .httpClientSessionSend request, (status : Int) =>
    some (if status = 0 then s.serve service t request else s)
  | .httpClientSessionReceiveNative, (result : Int × Option HttpResponse) =>
    match result with
    | (0, some response) => if s.response t = some response then some s else none
    | _ => some s
  | _, _ => some s

def apimlWorld (service : Service) : Machine ApimlWorld (Client × Event apimlInterface) where
  step s e := s.step service e.1 e.2.call e.2.answer

/-- Storage is given, and every request reaches the service and is answered. -/
def Healthy : Event apimlInterface → Prop
  | ⟨.safeMalloc, (allocated : Bool)⟩ => allocated = true
  | ⟨.slhAlloc, (allocated : Bool)⟩ => allocated = true
  | ⟨.httpClientContextInitSecure, (status : Int)⟩ => status = 0
  | ⟨.httpClientSessionInit, (status : Int)⟩ => status = 0
  | ⟨.httpClientSessionStageRequest _, (status : Int)⟩ => status = 0
  | ⟨.httpClientSessionSend _, (status : Int)⟩ => status = 0
  | ⟨.httpClientSessionReceiveNative, (result : Int × Option HttpResponse)⟩ => result.1 = 0
  | _ => True

/-- A POST finds that its key is still not there; and the value that is not returned by
`printerGrowBuffer` is true, and the storage behind an output is zero. -/
def Sound (service : Service) (s : ApimlWorld) : Event apimlInterface → Prop
  | ⟨.httpClientSessionSend request, _⟩ =>
    ∀ key value, service.read request = some (.post key value) → s.store key = none
  | ⟨.growBufferValue, (value : Bool)⟩ => value = true
  | ⟨.behindOutput, (behind : Text)⟩ => behind = []
  | _ => True

/-! ## The calls -/

/-- The call of a client. -/
def StorageOp.run (lib : Library) (rounds : Nat) : StorageOp → ApimlProgram Outcome
  | .set key value => do
    let status ← apimlStorageSetString lib key value rounds
    pure (status, none)
  | .get key => apimlStorageGetString lib key rounds
  | .remove key => do
    let status ← apimlStorageRemove lib key rounds
    pure (status, none)

/-- The path of a key is not cut. -/
def StorageOp.Fits (lib : Library) : StorageOp → Prop
  | .set _ _ => True
  | .get key => (cachingServiceUri ++ '/' :: lib.percentEncode key).length ≤ 4095
  | .remove key => (cachingServiceUri ++ '/' :: lib.percentEncode key).length ≤ 4095

instance (lib : Library) : (op : StorageOp) → Decidable (op.Fits lib)
  | .set _ _ => .isTrue trivial
  | .get _ => inferInstanceAs (Decidable (_ ≤ _))
  | .remove _ => inferInstanceAs (Decidable (_ ≤ _))

/-- What begins: any client calls, at any time. -/
inductive Begins (lib : Library) : ApimlWorld → Client → ApimlProgram Outcome → Prop
  | call {s : ApimlWorld} {t : Client} (rounds : Nat) :
      t.op.Fits lib → Begins lib s t (t.op.run lib rounds)

/-! ## The protocol -/

/-- Nobody else changes what a call was answered, nor decides it. -/
def apimlRely (t : Client) (s s' : ApimlWorld) : Prop :=
  s'.response t = s.response t ∧ ∀ outcome, (t, outcome) ∈ s'.log ↔ (t, outcome) ∈ s.log

/-- The calls that were decided answer as those of a map, one after the other, and what they leave
is what the service keeps. -/
structure ApimlWorld.Inv (store : Store) (s : ApimlWorld) : Prop where
  serial : Serial StorageOp.apply Client.op store s.log s.store
  once : CallsOnce s.log

/-- The protocol of the calls on a store that is given. -/
def apimlProtocol (store : Store) : Protocol ApimlWorld Client where
  inv := ApimlWorld.Inv store
  rely := apimlRely
  fresh t s := ∀ outcome, (t, outcome) ∉ s.log
  refl _ _ := ⟨rfl, fun _ => Iff.rfl⟩
  trans h h' := ⟨h'.1.trans h.1, fun outcome => (h'.2 outcome).trans (h.2 outcome)⟩
  fresh_rely h h' := fun outcome hmem => h outcome ((h'.2 outcome).mp hmem)

end Zss.Apiml
