import Zss.Lib.Program

/-!
# The storage at APIML

`storageApiml.c`: strings are kept under keys at the caching service of APIML. What is set is sent
with PUT, and where that finds no key, again with POST; the body is written to a buffer that grows
(`JsonMemoryPrinter`).

What is asked of the HTTP client and for storage is a call. The JSON printer and parser, the percent
encoding and the translation table are parameters.
-/

namespace Zss.Apiml

open Zss.Lib Program

abbrev Text := List Char

abbrev Bytes := List UInt8

/-! ## Data -/

def cachingServiceUri : Text := "/cachingservice/api/v1/cache".toList

/-- `STORAGE_STATUS_OK` and so on. -/
inductive StorageStatus where
  | ok
  | keyNotFound
  | httpError
  | responseError
  | jsonResponseError
  | allocError
  | invalidKvResponse
  | invalidClientCert
deriving DecidableEq

inductive HttpMethod where
  | get
  | put
  | post
  | delete

/-- `ApimlRequest`; the length of the body is that of its text. -/
structure ApimlRequest where
  method : HttpMethod
  path : Text
  body : Option Bytes
  parseJson : Bool

/-- What is used of a response of the HTTP client. -/
structure HttpResponse where
  statusCode : Int
  contentLength : Nat
  body : Option Bytes
deriving DecidableEq

/-- The common library. `bodyChunks` is what `jsonStart`, twice `jsonAddString` and `jsonEnd` write
for a key and a value, write by write. A null pointer is none. -/
structure Library where
  Json : Type
  JsonObject : Type
  percentEncode : Text → Text
  bodyChunks : Text → Text → List Text
  ibm1047ToIso88591 : Char → UInt8
  jsonParseUnterminatedUtf8String : Option Bytes → Nat → Option Json
  jsonAsObject : Option Json → Option JsonObject
  jsonObjectGetString : JsonObject → Text → Option Text

/-- What is used of an `ApimlResponse`. -/
structure ApimlResponse (lib : Library) where
  jsonResponse : Option lib.Json
  statusCode : Int

/-! ## What is called -/

/-- The calls. What `printerGrowBuffer` leaves for its value, and what stands in storage behind an
output that was copied there up to the next NUL, is asked as well. -/
inductive ApimlCall where
  | safeMalloc
  | growBufferValue
  | behindOutput
  | httpClientContextInitSecure
  | httpClientSessionInit
  | httpClientSessionStageRequest (request : ApimlRequest)
  | httpClientSessionSend (request : ApimlRequest)
  | httpClientSessionReceiveNative
  | slhAlloc
  | readNull
  | receiveOn

/-- What a call is answered with. A response is there once it is complete. Nothing answers a caller
that reads a null pointer, or receives without end. -/
def ApimlCall.Answer : ApimlCall → Type
  | .safeMalloc => Bool
  | .growBufferValue => Bool
  | .behindOutput => Text
  | .httpClientContextInitSecure => Int
  | .httpClientSessionInit => Int
  | .httpClientSessionStageRequest _ => Int
  | .httpClientSessionSend _ => Int
  | .httpClientSessionReceiveNative => Int × Option HttpResponse
  | .slhAlloc => Bool
  | .readNull => Empty
  | .receiveOn => Empty

def apimlInterface : Interface := ⟨ApimlCall, ApimlCall.Answer⟩

abbrev ApimlProgram (α : Type) := Program apimlInterface α

def call (c : ApimlCall) : ApimlProgram c.Answer := ask (I := apimlInterface) c

/-! ## The body of a request -/

/-- `JsonMemoryPrinter`; the buffer is its bytes up to the size. -/
structure JsonMemoryPrinter where
  buffer : Text
  capacity : Nat
  error : Bool

def initialCapacity : Nat := 512

/-- `printerGrowBuffer`. Where it has grown the buffer, no value is returned. -/
def printerGrowBuffer (printer : JsonMemoryPrinter) : ApimlProgram (Bool × JsonMemoryPrinter) := do
  let newBuffer : Bool ← call .safeMalloc
  if newBuffer = false then pure (false, printer)
  else
    let value : Bool ← call .growBufferValue
    pure (value, { printer with capacity := printer.capacity * 2 })

/-- The loop of `jsonWriteCallback`, for so many rounds. -/
def growFor (len : Nat) : Nat → JsonMemoryPrinter → ApimlProgram JsonMemoryPrinter
  | 0, printer => pure printer
  | rounds + 1, printer =>
    if printer.capacity - printer.buffer.length < len then do
      let (grown, printer') ← printerGrowBuffer printer
      if grown = false then pure { printer' with error := true }
      else growFor len rounds printer'
    else pure printer

/-- `jsonWriteCallback`. The capacity doubles, so there are not more rounds than bytes. -/
def jsonWriteCallback (printer : JsonMemoryPrinter) (data : Text) :
    ApimlProgram JsonMemoryPrinter :=
  if printer.error then pure printer
  else do
    let printer' ← growFor data.length data.length printer
    if printer'.error then pure printer'
    else pure { printer' with buffer := printer'.buffer ++ data }

/-- What the JSON printer writes. -/
def writeChunks : List Text → JsonMemoryPrinter → ApimlProgram JsonMemoryPrinter
  | [], printer => pure printer
  | data :: chunks, printer => do
    let printer' ← jsonWriteCallback printer data
    writeChunks chunks printer'

/-- `makeJsonMemoryPrinter`: the printer, its buffer and its JSON printer are allocated. -/
def makeJsonMemoryPrinter : ApimlProgram (Option JsonMemoryPrinter) := do
  let printer : Bool ← call .safeMalloc
  if printer = false then pure none
  else
    let buffer : Bool ← call .safeMalloc
    if buffer = false then pure none
    else
      let jsonPrinter : Bool ← call .safeMalloc
      if jsonPrinter = false then pure none
      else pure (some ⟨[], initialCapacity, false⟩)

/-- `jsonMemoryPrinterGetOutput`, as a string: no NUL is written behind what is copied. -/
def jsonMemoryPrinterGetOutput (printer : JsonMemoryPrinter) : ApimlProgram (Option Text) :=
  if printer.error then pure none
  else do
    let output : Bool ← call .safeMalloc
    if output = false then pure none
    else
      let behind : Text ← call .behindOutput
      pure (some ((printer.buffer ++ behind).takeWhile (· ≠ '\x00')))

section

variable (lib : Library)

/-- `apimlCreateCachingServiceRequestBody`. -/
def apimlCreateCachingServiceRequestBody (key value : Text) : ApimlProgram (Option Bytes) := do
  match ← makeJsonMemoryPrinter with
  | none => pure none
  | some printer =>
    let printer' ← writeChunks (lib.bodyChunks key value) printer
    match ← jsonMemoryPrinterGetOutput printer' with
    | none => pure none
    | some body => pure (some (body.map lib.ibm1047ToIso88591))

/-! ## A request -/

/-- The loop of `receiveResponse`. -/
def receive : Nat → ApimlProgram (Option HttpResponse)
  | 0 => do
    let never : Empty ← call .receiveOn
    nomatch never
  | rounds + 1 => do
    let result : Int × Option HttpResponse ← call .httpClientSessionReceiveNative
    if result.1 ≠ 0 then pure none
    else
      match result.2 with
      | some response => pure (some response)
      | none => receive rounds

/-- `receiveResponse`: the response, or the status. -/
def receiveResponse (rounds : Nat) : ApimlProgram (Except StorageStatus HttpResponse) := do
  match ← receive rounds with
  | none => pure (.error .responseError)
  | some response =>
    let responseEbcdic : Bool ← call .slhAlloc
    if responseEbcdic = false then pure (.error .allocError)
    else pure (.ok response)

/-- `receiveJsonResponse`: the response and its JSON, or the status. -/
def receiveJsonResponse (rounds : Nat) :
    ApimlProgram (Except StorageStatus (HttpResponse × Option lib.Json)) := do
  match ← receiveResponse rounds with
  | .error status => pure (.error status)
  | .ok response =>
    match lib.jsonParseUnterminatedUtf8String response.body response.contentLength with
    | none => pure (.error .jsonResponseError)
    | some json => pure (.ok (response, some json))

/-- What `apimlDoRequest` receives. -/
def receiveFor (request : ApimlRequest) (rounds : Nat) :
    ApimlProgram (Except StorageStatus (HttpResponse × Option lib.Json)) :=
  if request.parseJson then receiveJsonResponse lib rounds
  else do
    match ← receiveResponse rounds with
    | .error status => pure (.error status)
    | .ok response => pure (.ok (response, none))

/-- `apimlDoRequest`: the response, which is null where it cannot be allocated, or the status. -/
def apimlDoRequest (request : ApimlRequest) (rounds : Nat) :
    ApimlProgram (Except StorageStatus (Option (ApimlResponse lib))) := do
  let status : Int ← call .httpClientContextInitSecure
  if status ≠ 0 then pure (.error .httpError)
  else
    let status : Int ← call .httpClientSessionInit
    if status ≠ 0 then pure (.error .httpError)
    else
      let status : Int ← call (.httpClientSessionStageRequest request)
      if status ≠ 0 then pure (.error .httpError)
      else
        let status : Int ← call (.httpClientSessionSend request)
        if status ≠ 0 then pure (.error .httpError)
        else
          match ← receiveFor lib request rounds with
          | .error status => pure (.error status)
          | .ok (session, jsonResponse) =>
            let response : Bool ← call .safeMalloc
            if response = false then pure (.ok none)
            else pure (.ok (some ⟨jsonResponse, session.statusCode⟩))

/-- A response that is read, also where it is null. -/
def readResponse {lib : Library} (response : Option (ApimlResponse lib)) :
    ApimlProgram (ApimlResponse lib) :=
  match response with
  | some response => pure response
  | none => do
    let never : Empty ← call .readNull
    nomatch never

/-- `transformHttpStatus`. -/
def transformHttpStatus (httpStatus : Int) : StorageStatus :=
  if httpStatus = 404 then .keyNotFound
  else if httpStatus = 403 then .invalidClientCert
  else if httpStatus = 200 then .ok
  else if httpStatus = 204 then .ok
  else if httpStatus = 201 then .ok
  else .httpError

/-! ## The operations -/

/-- `OP_CREATE` and `OP_CHANGE`. -/
inductive CreateOrChange where
  | create
  | change
deriving DecidableEq

/-- `createOrChange`: its status. -/
def createOrChange (op : CreateOrChange) (key value : Text) (rounds : Nat) :
    ApimlProgram StorageStatus := do
  let method : HttpMethod := if op = .change then .put else .post
  match ← apimlCreateCachingServiceRequestBody lib key value with
  | none => pure .allocError
  | some body =>
    match ← apimlDoRequest lib ⟨method, cachingServiceUri, some body, false⟩ rounds with
    | .error status => pure status
    | .ok response =>
      let response ← readResponse response
      pure (transformHttpStatus response.statusCode)

/-- `apimlStorageSetString`: its status. -/
def apimlStorageSetString (key value : Text) (rounds : Nat) : ApimlProgram StorageStatus := do
  let status ← createOrChange lib .change key value rounds
  if status = .keyNotFound then createOrChange lib .create key value rounds
  else pure status

/-- `getValue`: the value, or its status. -/
def getValue (jsonResponse : Option lib.Json) : ApimlProgram (StorageStatus × Option Text) :=
  match lib.jsonAsObject jsonResponse with
  | none => pure (.invalidKvResponse, none)
  | some keyValue =>
    match lib.jsonObjectGetString keyValue "value".toList with
    | none => pure (.invalidKvResponse, none)
    | some val => do
      let value : Bool ← call .safeMalloc
      if value = false then pure (.allocError, none)
      else pure (.ok, some val)

/-- The path of a key, which `snprintf` cuts. -/
def keyPath (key : Text) : Text :=
  (cachingServiceUri ++ '/' :: lib.percentEncode key).take 4095

/-- `apimlStorageGetString`: its status and the value. -/
def apimlStorageGetString (key : Text) (rounds : Nat) :
    ApimlProgram (StorageStatus × Option Text) := do
  match ← apimlDoRequest lib ⟨.get, keyPath lib key, none, true⟩ rounds with
  | .error status => pure (status, none)
  | .ok response =>
    let response ← readResponse response
    let status := transformHttpStatus response.statusCode
    if status ≠ .ok then pure (status, none)
    else getValue lib response.jsonResponse

/-- `apimlStorageRemove`: its status. -/
def apimlStorageRemove (key : Text) (rounds : Nat) : ApimlProgram StorageStatus := do
  match ← apimlDoRequest lib ⟨.delete, keyPath lib key, none, false⟩ rounds with
  | .error status => pure status
  | .ok response =>
    let response ← readResponse response
    pure (transformHttpStatus response.statusCode)

end

end Zss.Apiml
