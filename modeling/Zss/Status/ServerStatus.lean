import Mathlib.Logic.Function.Basic

/-!
# What the status service tells

`serveStatus` of `serverStatusService.c` answers for the server agent: its routes, configuration,
log, log levels, environment and services. Authentication is optional, and some of it is only for an
authenticated request where RBAC is enabled. One gate lists endpoints by name; the routes and the
environment filter what they print by a flag handed down.

A request that is not let through is answered from `PublicView`, what anyone may learn of the server
(`serveStatus_public`); two servers with the same view answer it alike (`status_confidential`).

## What is not established

Nothing is said of a request that is let through, nor of what can be told from the time an answer
takes.
-/

namespace Zss.Status

/-! ## Data -/

def httpStatusBadRequest : Nat := 400
def httpStatusUnauthorized : Nat := 401
def httpStatusNotFound : Nat := 404
def httpStatusInternalServerError : Nat := 500

/-- A value of the configuration. -/
inductive Json where
  | string (value : String)
  | number (value : Int)
  | boolean (value : Bool)
  | null
  | object (fields : List (String × Json))
  | array (elements : List Json)

/-- `jsonAsObject`. -/
def Json.asObject : Json → Option (List (String × Json))
  | .object fields => some fields
  | _ => none

/-- What the configuration manager answers for the server's configuration. -/
structure ConfigManager where
  cfgGetAnyC : List String → Option Json
  cfgGetStringC : List String → Option String
  cfgGetConfigData : Option Json

/-- What `__osname` answers. -/
structure Utsname where
  nodename : String
  release : String
  version : String
  machine : String

/-- An `HttpService` of the server's list. -/
structure HttpService where
  name : String
  urlMask : String
  isWebSocket : Bool

/-- What the service reads of the server: its configuration, the context of the service, the list of
services, the system it runs on, and its process. `storage` says which of the names of the
environment get a buffer. -/
structure ServerState where
  configmgr : ConfigManager
  productVersion : String
  serviceList : List HttpService
  osname : Option Utsname
  hostname : String
  ctime : Option String
  environ : List String
  storage : Nat → Bool
  pid : Int
  ppid : Int
  file : String → Option String

structure HttpRequest where
  parsedFile : List String
  method : String
  authenticated : Bool

/-- The functions of the common library that the service decides by: the endpoint printed from a
path, and a boolean property of an object. -/
structure CommonLibrary where
  stringListPrint : List String → Nat → Nat → String
  jsonObjectGetBoolean : List (String × Json) → String → Bool

/-! ## Responses -/

/-- The calls of the JSON printer. -/
inductive Print where
  | startObject (key : Option String)
  | endObject
  | startArray (key : String)
  | endArray
  | addString (key value : String)
  | addInt (key : String) (value : Int)
  | printObject (object : Option (List (String × Json)))

inductive Headers where
  | defaultJsonRest
  | listed (headers : List (String × String))

inductive Response where
  | error (status : Nat) (message : String)
  | jsonError (message : String) (statusCode : Nat) (statusMessage : String)
  | json (status : Nat) (reason : String) (headers : Headers) (prints : List Print)
  | unixFile (path : String) (contents : Option String)

/-- A response with what the function returns. -/
abbrev Served := Response × Int

/-- A JSON response with the default headers. -/
def respondWithJson (prints : List Print) : Served := (.json 200 "OK" .defaultJsonRest prints, 0)

/-! ## The endpoints -/

def respondWithServerConfig (config : Option (List (String × Json))) : Served :=
  respondWithJson [.startObject (some "options"), .printObject config, .endObject]

/-- A link of the routes. -/
def routeLink (name : String) : List Print :=
  [.startObject none, .addString "href" ("/server/agent/" ++ name), .addString "rel" name,
    .addString "type" "GET", .endObject]

def respondWithServerRoutes (allowFullAccess : Bool) : Served :=
  respondWithJson <|
    [.startArray "links"] ++
    (if allowFullAccess then routeLink "config" ++ routeLink "log" ++ routeLink "logLevels"
      else []) ++
    routeLink "environment" ++ routeLink "services" ++ [.endArray]

def respondWithLogLevels (configmgr : ConfigManager) : Served :=
  match configmgr.cfgGetAnyC ["components", "zss", "logLevel"] with
  | some logLevelsJson => respondWithJson [.printObject logLevelsJson.asObject]
  | none => respondWithJson []

/-- The loop over the process environment: it ends at an entry without an equal sign, and where a
name gets no buffer. -/
def userEnvironment (storage : Nat → Bool) : Nat → List String → List Print
  | _, [] => []
  | i, envVar :: environ =>
    if '=' ∉ envVar.toList then []
    else if !storage i then []
    else
      let name := String.ofList (envVar.toList.takeWhile (· ≠ '='))
      let value := String.ofList ((envVar.toList.dropWhile (· ≠ '=')).drop 1)
      .addString name value :: userEnvironment storage (i + 1) environ

/-- The fields of the environment before the agent's, for full access. -/
def environmentStart (s : ServerState) : List Print :=
  (match s.ctime with
    | some tstamp => [.addString "timestamp" tstamp]
    | none => []) ++
  (match s.configmgr.cfgGetStringC ["zowe", "logDirectory"] with
    | some logDirectory => [.addString "logDirectory" logDirectory]
    | none => [.addString "logDirectory" "ZWES_LOG_FILE not defined in environment variables"])

/-- The fields of the environment after the agent's, for full access. -/
def environmentEnd (s : ServerState) (unameRet : Utsname) : List Print :=
  [.addString "hostname" s.hostname, .addString "nodename" unameRet.nodename,
    .startObject (some "userEnvironment")] ++
  userEnvironment s.storage 0 s.environ ++
  [.endObject, .addInt "PID" s.pid, .addInt "PPID" s.ppid]

def respondWithServerEnvironment (s : ServerState) (allowFullAccess : Bool) : Served :=
  match s.osname with
  | none =>
    (.error httpStatusInternalServerError "Falied to retrieve operating system info", -1)
  | some unameRet =>
    respondWithJson <|
      (if allowFullAccess then environmentStart s else []) ++
      [.addString "agentName" "zss", .addString "agentVersion" s.productVersion,
        .addString "arch" "s390x", .addString "os" "zos",
        .addString "osRelease" unameRet.release, .addString "osVersion" unameRet.version,
        .addString "hardwareIdentifier" unameRet.machine] ++
      (if allowFullAccess then environmentEnd s unameRet else [])

def respondWithServices (serviceList : List HttpService) : Served :=
  respondWithJson <|
    [.startArray "services"] ++
    serviceList.flatMap (fun service =>
      [.startObject none, .addString "name" service.name, .addString "urlMask" service.urlMask,
        .addString "type" (if service.isWebSocket then "WebSocket" else "REST"), .endObject]) ++
    [.endArray]

/-! ## The service -/

def statusEndPointRequireAuthAndRBAC (endpoint : String) : Bool :=
  endpoint == "config" || endpoint == "log" || endpoint == "logLevels"

/-- The RBAC flag of a configuration. -/
def rbacParm (lib : CommonLibrary) (configmgr : ConfigManager) : Bool :=
  match configmgr.cfgGetAnyC ["components", "app-server", "dataserviceAuthentication"] with
  | some dataserviceAuthJson =>
    match dataserviceAuthJson.asObject with
    | some dataserviceAuth => lib.jsonObjectGetBoolean dataserviceAuth "rbac"
    | none => false
  | none => false

def methodNotAllowed : Served :=
  (.json 405 "Method Not Allowed"
    (.listed [("Content-Type", "text/json"), ("Server", "jdmfws"),
      ("Transfer-Encoding", "chunked"), ("Allow", "GET")]) [], -1)

def serveStatus (lib : CommonLibrary) (request : HttpRequest) (s : ServerState) : Served :=
  let rbac := rbacParm lib s.configmgr
  let isAuthenticated := request.authenticated
  let allowFullAccess := isAuthenticated && rbac
  if request.method = "GET" then
    let l1 := lib.stringListPrint request.parsedFile 2 1
    if !allowFullAccess && statusEndPointRequireAuthAndRBAC l1 && !isAuthenticated then
      (.error httpStatusUnauthorized "Not Authorized", -1)
    else if !allowFullAccess && statusEndPointRequireAuthAndRBAC l1 && !rbac then
      (.error httpStatusBadRequest
        "Set dataserviceAuthentication.rbac to true in server configuration", -1)
    else if l1 = "" then respondWithServerRoutes allowFullAccess
    else if l1 = "config" then
      respondWithServerConfig (s.configmgr.cfgGetConfigData.bind Json.asObject)
    else if l1 = "log" then
      match s.configmgr.cfgGetStringC ["zowe", "logDirectory"] with
      | some logDir => (.unixFile logDir (s.file logDir), 0)
      | none => (.error httpStatusNotFound "Log not found", -1)
    else if l1 = "logLevels" then respondWithLogLevels s.configmgr
    else if l1 = "environment" then respondWithServerEnvironment s allowFullAccess
    else if l1 = "services" then respondWithServices s.serviceList
    else (.jsonError "Invalid path" 400 "Bad Request", -1)
  else methodNotAllowed

/-! ## What anyone may learn -/

/-- The system a server runs on, without the node's name. -/
structure SystemInfo where
  release : String
  version : String
  machine : String

def Utsname.info (unameRet : Utsname) : SystemInfo :=
  ⟨unameRet.release, unameRet.version, unameRet.machine⟩

/-- What a request that is not let through may learn of a server. -/
structure PublicView where
  rbac : Bool
  productVersion : String
  serviceList : List HttpService
  system : Option SystemInfo

def publicView (lib : CommonLibrary) (s : ServerState) : PublicView where
  rbac := rbacParm lib s.configmgr
  productVersion := s.productVersion
  serviceList := s.serviceList
  system := s.osname.map Utsname.info

/-- The environment as anyone may see it. -/
def publicEnvironment (view : PublicView) : Served :=
  match view.system with
  | none =>
    (.error httpStatusInternalServerError "Falied to retrieve operating system info", -1)
  | some system =>
    respondWithJson
      [.addString "agentName" "zss", .addString "agentVersion" view.productVersion,
        .addString "arch" "s390x", .addString "os" "zos", .addString "osRelease" system.release,
        .addString "osVersion" system.version, .addString "hardwareIdentifier" system.machine]

/-- The answer to a request that is not let through, of the public view alone. -/
def publicResponse (lib : CommonLibrary) (request : HttpRequest) (view : PublicView) : Served :=
  if request.method = "GET" then
    let l1 := lib.stringListPrint request.parsedFile 2 1
    if l1 = "config" ∨ l1 = "log" ∨ l1 = "logLevels" then
      if request.authenticated then
        (.error httpStatusBadRequest
          "Set dataserviceAuthentication.rbac to true in server configuration", -1)
      else (.error httpStatusUnauthorized "Not Authorized", -1)
    else if l1 = "" then respondWithServerRoutes false
    else if l1 = "environment" then publicEnvironment view
    else if l1 = "services" then respondWithServices view.serviceList
    else (.jsonError "Invalid path" 400 "Bad Request", -1)
  else methodNotAllowed

theorem requireAuthAndRBAC_iff (endpoint : String) :
    statusEndPointRequireAuthAndRBAC endpoint = true ↔
      endpoint = "config" ∨ endpoint = "log" ∨ endpoint = "logLevels" := by
  unfold statusEndPointRequireAuthAndRBAC
  rw [Bool.or_eq_true, Bool.or_eq_true, beq_iff_eq, beq_iff_eq, beq_iff_eq, or_assoc]

/-- Without full access the environment is the public one. -/
theorem respondWithServerEnvironment_public (lib : CommonLibrary) (s : ServerState) :
    respondWithServerEnvironment s false = publicEnvironment (publicView lib s) := by
  unfold respondWithServerEnvironment publicEnvironment publicView
  cases s.osname with
  | none => rfl
  | some unameRet => rfl

section
variable (lib : CommonLibrary) (request : HttpRequest) {s t : ServerState}

/-- **The public answer.** A request that is not authenticated, or meets a server without RBAC, is
answered from the public view. -/
theorem serveStatus_public
    (restricted : (request.authenticated && rbacParm lib s.configmgr) = false) :
    serveStatus lib request s = publicResponse lib request (publicView lib s) := by
  unfold serveStatus publicResponse
  by_cases isGet : request.method = "GET"
  · rw [if_pos isGet, if_pos isGet]
    dsimp only
    rw [restricted]
    generalize lib.stringListPrint request.parsedFile 2 1 = l1
    by_cases gated : l1 = "config" ∨ l1 = "log" ∨ l1 = "logLevels"
    · -- the gate answers, by what is missing
      rw [if_pos gated, (requireAuthAndRBAC_iff l1).mpr gated]
      cases authenticated : request.authenticated with
      | false => rfl
      | true =>
        rw [authenticated, Bool.true_and] at restricted
        rw [restricted]
        rfl
    · have passes : statusEndPointRequireAuthAndRBAC l1 = false :=
        Bool.eq_false_iff.mpr fun h => gated ((requireAuthAndRBAC_iff l1).mp h)
      rw [if_neg gated, passes]
      obtain ⟨notConfig, notLog, notLevels⟩ : l1 ≠ "config" ∧ l1 ≠ "log" ∧ l1 ≠ "logLevels" :=
        ⟨fun h => gated (.inl h), fun h => gated (.inr (.inl h)), fun h => gated (.inr (.inr h))⟩
      rw [if_neg notConfig, if_neg notLog, if_neg notLevels,
        respondWithServerEnvironment_public lib s]
      rfl
  · rw [if_neg isGet, if_neg isGet]

/-- Two servers that may differ in all that is protected: what they have in common is whether RBAC is
enabled, the version of the product, the services, and the system without the node's name. -/
structure SameButProtected (s t : ServerState) : Prop where
  rbac : rbacParm lib s.configmgr = rbacParm lib t.configmgr
  productVersion : s.productVersion = t.productVersion
  serviceList : s.serviceList = t.serviceList
  system : s.osname.map Utsname.info = t.osname.map Utsname.info

theorem SameButProtected.publicView_eq (same : SameButProtected lib s t) :
    publicView lib s = publicView lib t := by
  unfold publicView
  rw [same.rbac, same.productVersion, same.serviceList, same.system]

/-- **Confidentiality.** A request that is not authenticated, or meets servers without RBAC, is
answered alike by two servers that differ in what is protected only. -/
theorem status_confidential (same : SameButProtected lib s t)
    (restricted : request.authenticated = false ∨ rbacParm lib s.configmgr = false) :
    serveStatus lib request s = serveStatus lib request t := by
  have here : (request.authenticated && rbacParm lib s.configmgr) = false :=
    Bool.and_eq_false_iff.mpr restricted
  have there : (request.authenticated && rbacParm lib t.configmgr) = false := same.rbac ▸ here
  rw [serveStatus_public lib request here, serveStatus_public lib request there,
    same.publicView_eq lib]

end

/-- A library as the service uses it. -/
def sampleLibrary : CommonLibrary where
  stringListPrint list start max := String.intercalate "/" ((list.drop start).take max)
  jsonObjectGetBoolean fields name :=
    match fields.lookup name with
    | some (.boolean value) => value
    | _ => false

def sampleServer (hostname logDirectory : String) (environ : List String) : ServerState where
  configmgr :=
    { cfgGetAnyC := fun _ => none
      cfgGetStringC := fun _ => some logDirectory
      cfgGetConfigData := none }
  productVersion := "2.0.0"
  serviceList := []
  osname := some ⟨hostname, "03.00", "02", "8561"⟩
  hostname := hostname
  ctime := none
  environ := environ
  storage _ := true
  pid := 1
  ppid := 0
  file _ := none

theorem status_confidential_sample :
    serveStatus sampleLibrary ⟨["server", "agent", "environment"], "GET", true⟩
        (sampleServer "A" "/a" ["KEY=one"]) =
      serveStatus sampleLibrary ⟨["server", "agent", "environment"], "GET", true⟩
        (sampleServer "B" "/b" ["KEY=two"]) :=
  status_confidential sampleLibrary _ ⟨rfl, rfl, rfl, rfl⟩ (.inr rfl)

end Zss.Status
