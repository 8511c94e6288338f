import Zss.Zis.Service

/-!
# The server's registry of plugins and services

`server.c`, from the search for an anchor to the installation of a plugin, and the service router
that dispatches a program call through what was installed. The registry lives in common storage and
outlasts the server: a start cleans the anchors an earlier run left, then installs the plugins it
finds, and a request is answered from whatever that left behind.

What the server calls and does not decide is an argument: the outcome of each storage request, of
each plugin and service callback, of each LPA operation. The callbacks themselves are listed in
`World.calls`, newest first, from the start of the run: a start empties the list.

The service table is common-c's cross-memory map, by its contract: keys are compared whole, a `put`
of a known key changes nothing and says so, and the handle of a key is the cell of its value.
-/

namespace Zss.Zis

open Zss.Lib

/-! ## The world -/

/-- The service table, from paths to service anchors. -/
abbrev CrossMemoryMap := List (ServicePath × Addr)

/-- `ZISServerAnchor`, in common storage. `firstPlugin` is the chain of plugin anchors. -/
structure ServerAnchor where
  serviceTable : Option CrossMemoryMap
  firstPlugin : List Addr

/-- A plugin of the server's plugin list: the descriptor with the anchor fields the server sets. -/
structure InstalledPlugin where
  descriptor : Plugin
  anchor : Addr
  serviceAnchors : List (Option Addr)

/-- How a callback under recovery went: it returned a code, it was left by an abend, or it was not
made because the recovery environment could not be set up. -/
inductive CallbackOutcome where
  | returned (rc : Int)
  | recovered
  | unprotected
deriving DecidableEq

/-- A callback the server made, with the anchor it passed. A service's init is listed twice: how the
call of its function went, and what `callServiceInit` made of it. -/
inductive Callback where
  | pluginInit (plugin : Plugin) (status : Int)
  | serviceInitOutcome (plugin : Plugin) (service : Service) (anchor : Addr)
      (outcome : CallbackOutcome)
  | serviceInit (plugin : Plugin) (service : Service) (anchor : Addr) (status : Int)
  | serviceTerm (plugin : Plugin) (service : Service) (anchor : Option Addr)
  | pluginTerm (plugin : Plugin)
deriving DecidableEq

/-- Common storage, the server's plugin list and the callbacks of the current run. -/
structure World where
  serviceAnchors : Heap ServiceAnchor
  pluginAnchors : Heap PluginAnchor
  serverAnchor : Option ServerAnchor
  plugins : List InstalledPlugin
  calls : List Callback

namespace World

/-- The chain of plugin anchors; empty where there is no server anchor. -/
def pluginChain (w : World) : List Addr := (w.serverAnchor.map (·.firstPlugin)).getD []

/-- The service table, where there is one. -/
def serviceTable (w : World) : Option CrossMemoryMap := w.serverAnchor.bind (·.serviceTable)

/-- The chain of service anchors of one plugin anchor. -/
def serviceChain (w : World) (p : Addr) : List Addr :=
  ((w.pluginAnchors.read p).map (·.firstService)).getD []

def updateService (w : World) (a : Addr) (f : ServiceAnchor → ServiceAnchor) : World :=
  { w with serviceAnchors := w.serviceAnchors.update a f }

def updatePlugin (w : World) (p : Addr) (f : PluginAnchor → PluginAnchor) : World :=
  { w with pluginAnchors := w.pluginAnchors.update p f }

def setServiceTable (w : World) (table : Option CrossMemoryMap) : World :=
  { w with serverAnchor := w.serverAnchor.map fun s => { s with serviceTable := table } }

def called (w : World) (c : Callback) : World := { w with calls := c :: w.calls }

end World

/-! ## The cross-memory map -/

def crossMemoryMapGet (table : CrossMemoryMap) (path : ServicePath) : Option Addr :=
  table.lookup path

/-- `crossMemoryMapPut`: 0 for a new entry, 1 for a known key, -1 without storage. -/
def crossMemoryMapPut (storage : Bool) (table : CrossMemoryMap) (path : ServicePath) (a : Addr) :
    CrossMemoryMap × Int :=
  if (table.lookup path).isSome then (table, 1)
  else if storage then ((path, a) :: table, 0)
  else (table, -1)

/-- The assignment through `crossMemoryMapGetHandle`. -/
def crossMemoryMapAssign (table : CrossMemoryMap) (path : ServicePath) (a : Addr) :
    CrossMemoryMap :=
  table.map fun e => if e.1 = path then (e.1, a) else e

/-! ## Finding and cleaning anchors -/

/-- `findPluginAnchor`: an anchor of a later version than the server knows is passed over. -/
def findPluginAnchor (w : World) (name : Text) : Option Addr :=
  w.pluginChain.find? fun p =>
    match w.pluginAnchors.read p with
    | some pa => pa.name = name ∧ pa.version ≤ pluginAnchorVersion
    | none => false

/-- Whether `findServiceAnchor` stops at an anchor. -/
def serviceAnchorMatches (name : Text) (anchor : ServiceAnchor) : Bool :=
  anchor.path.serviceName = name ∧ anchor.version ≤ serviceAnchorVersion ∧ !anchor.discarded

/-- `findServiceAnchor`. -/
def findServiceAnchor (w : World) (p : Addr) (name : Text) : Option (Addr × ServiceAnchor) :=
  (w.serviceChain p).findSome? fun a =>
    match w.serviceAnchors.read a with
    | some anchor => if serviceAnchorMatches name anchor then some (a, anchor) else none
    | none => none

/-- `discardServiceAnchor`. -/
def discardServiceAnchor (anchor : ServiceAnchor) : ServiceAnchor :=
  { anchor with state := setFlag anchor.state serviceAnchorStateDiscarded }

/-- What `cleanPluginAnchor` does to each anchor of the chain. -/
def deactivateServiceAnchor (anchor : ServiceAnchor) : ServiceAnchor :=
  { anchor with state := clearFlag anchor.state serviceAnchorStateActive, serve := none }

/-- `cleanPluginAnchor`. -/
def cleanPluginAnchor (w : World) (p : Addr) : World :=
  { w with
    serviceAnchors := w.serviceAnchors.updateAll (w.serviceChain p) deactivateServiceAnchor }

/-- `removePluginFromLPAIfNeeded`; `devMode` is `zisIsLPADevModeOn`, `lpaDelete` the return code of
the deletion. -/
def removePluginFromLPAIfNeeded (devMode : Bool) (lpaDelete : Int) (w : World) (p : Addr) : World :=
  match w.pluginAnchors.read p with
  | none => w
  | some pa =>
    if hasFlag pa.flags pluginAnchorFlagLpa && devMode && lpaDelete == 0 then
      w.updatePlugin p fun pa =>
        { pa with moduleInfo := 0, flags := clearFlag pa.flags pluginAnchorFlagLpa }
    else w

/-- `cleanPlugins`, along the chain of plugin anchors. -/
def cleanPlugins (devMode : Bool) (lpaDelete : Addr → Int) (w : World) : World :=
  w.pluginChain.foldl
    (fun w p => removePluginFromLPAIfNeeded devMode (lpaDelete p) (cleanPluginAnchor w p) p) w

/-! ## Callbacks -/

/-- The four callback wrappers: a missing function is a success, a nonzero return code, an abend and
a failure to set up recovery are an error. -/
def callStatus (fn : Option FnPtr) (outcome : CallbackOutcome) : Int :=
  match outcome with
  | .returned rc => if fn.isSome ∧ rc ≠ rcZisOk then rcZisError else rcZisOk
  | .recovered | .unprotected => rcZisError

def callPluginInit (outcome : CallbackOutcome) (plugin : Plugin) : Int :=
  callStatus plugin.init outcome

def callServiceInit (outcome : CallbackOutcome) (service : Service) : Int :=
  callStatus service.init outcome

/-! ## Installing services -/

/-- What the installation of one service meets: storage for an anchor, the init callback, storage
for a table entry. -/
structure ServiceEnv where
  anchorStorage : Bool
  init : CallbackOutcome
  mapStorage : Bool

/-- How a loop body or a function is left. `abend` is a use of a missing structure. -/
inductive Exit where
  | next
  | error (rc : Int)
  | abend
deriving DecidableEq

/-- A new anchor at the head of its plugin anchor's chain. -/
def linkServiceAnchor (w : World) (p : Addr) (anchor : ServiceAnchor) : World :=
  let a := w.serviceAnchors.fresh
  { w with
    serviceAnchors := w.serviceAnchors.alloc anchor
    pluginAnchors := w.pluginAnchors.update p fun pa =>
      { pa with firstService := a :: pa.firstService } }

/-- The creating branch of the body of `installServices`. -/
def createServiceAnchor (storage : Bool) (w : World) (plugin : Plugin) (p : Addr)
    (service : Service) : World × Option (Addr × ServicePath) :=
  match zisCreateServiceAnchor storage plugin service with
  | none => (w, none)
  | some anchor => (linkServiceAnchor w p anchor, some (w.serviceAnchors.fresh, anchor.path))

/-- The body of `installServices` up to the service's init: the anchor the service gets, with its
path. An anchor too old for the descriptor is discarded and replaced. -/
def obtainServiceAnchor (storage : Bool) (w : World) (plugin : Plugin) (p : Addr)
    (service : Service) : World × Option (Addr × ServicePath) :=
  match findServiceAnchor w p service.name with
  | some (a, anchor) =>
    if isServiceAnchorCompatible service anchor then
      (w.updateService a fun anchor => zisUpdateServiceAnchor anchor service,
        some (a, anchor.path))
    else createServiceAnchor storage (w.updateService a discardServiceAnchor) plugin p service
  | none => createServiceAnchor storage w plugin p service

/-- An anchor marked active. -/
def activateServiceAnchor (anchor : ServiceAnchor) : ServiceAnchor :=
  { anchor with state := setFlag anchor.state serviceAnchorStateActive }

/-- The body of `installServices` from the service's init on. -/
def activateService (env : ServiceEnv) (w : World) (plugin : Plugin) (service : Service)
    (a : Addr) (path : ServicePath) : World × Exit :=
  let initRC := callServiceInit env.init service
  let w := w.called (.serviceInit plugin service a initRC)
  if initRC ≠ rcZisOk then (w, .next)
  else
    match w.serviceTable with
    | none => (w, .abend)
    | some table =>
      let (table, putRC) := crossMemoryMapPut env.mapStorage table path a
      if putRC = -1 then (w, .error rcZisError)
      else
        let table := if putRC = 1 then crossMemoryMapAssign table path a else table
        ((w.setServiceTable (some table)).updateService a activateServiceAnchor, .next)

/-- The body of `installServices`, with the anchor field the service is left with. -/
def installService (env : ServiceEnv) (w : World) (plugin : Plugin) (p : Addr)
    (service : Service) : World × Option Addr × Exit :=
  match obtainServiceAnchor env.anchorStorage w plugin p service with
  | (w, none) => (w, service.anchor, .error rcZisError)
  | (w, some (a, path)) =>
    let w := w.called (.serviceInitOutcome plugin service a env.init)
    let (w, exit) := activateService env w plugin service a path
    (w, some a, exit)

/-- `installServices`, from service `i` on; the second component is the anchor field each of the
services is left with. -/
def installServices (env : Nat → ServiceEnv) (plugin : Plugin) (p : Addr) :
    Nat → List Service → World → World × List (Option Addr) × Exit
  | _, [], w => (w, [], .next)
  | i, service :: rest, w =>
    match installService (env i) w plugin p service with
    | (w, anchor, .next) =>
      let (w, anchors, exit) := installServices env plugin p (i + 1) rest w
      (w, anchor :: anchors, exit)
    | (w, anchor, exit) => (w, anchor :: rest.map (·.anchor), exit)

/-! ## Installing a plugin -/

/-- What the installation of one plugin meets. `relocated` is the descriptor the LPA copy of the
module answers with. -/
structure PluginEnv where
  anchorStorage : Bool
  lpaDelete : Int
  lpaAdd : Int
  lpaModule : Nat
  relocated : Option Plugin
  init : CallbackOutcome
  services : Nat → ServiceEnv

/-- What `relocatePluginToLPAIfNeeded` leaves: the descriptor to install, an error, or a call
through a descriptor that is not there. -/
inductive Relocation where
  | install (plugin : Plugin)
  | failed (rc : Int)
  | abend
deriving DecidableEq

/-- The second half of `relocatePluginToLPAIfNeeded`: the module is loaded where needed and the
descriptor is the one of the LPA copy. -/
def loadPluginToLPA (env : PluginEnv) (lpaPresent : Bool) (w : World) (plugin : Plugin) (p : Addr) :
    World × Relocation :=
  if hasFlag plugin.flags pluginFlagLpa then
    if !lpaPresent && env.lpaAdd != 0 then (w, .failed rcZisError)
    else
      let w :=
        if lpaPresent then w
        else w.updatePlugin p fun pa =>
          { pa with moduleInfo := env.lpaModule, flags := setFlag pa.flags pluginAnchorFlagLpa }
      match env.relocated with
      | some relocated => (w, .install relocated)
      | none => (w, .abend)
  else (w, .install plugin)

/-- `relocatePluginToLPAIfNeeded`. -/
def relocatePluginToLPAIfNeeded (devMode : Bool) (env : PluginEnv) (w : World) (plugin : Plugin)
    (p : Addr) : World × Relocation :=
  match w.pluginAnchors.read p with
  | none => (w, .abend)
  | some pa =>
    if hasFlag pa.flags pluginAnchorFlagLpa then
      if devMode && env.lpaDelete != 0 then (w, .failed rcZisError)
      else if pa.pluginVersion ≠ plugin.pluginVersion ∨ devMode then
        let w := w.updatePlugin p fun pa =>
          { pa with moduleInfo := 0, flags := clearFlag pa.flags pluginAnchorFlagLpa }
        loadPluginToLPA env false w plugin p
      else loadPluginToLPA env true w plugin p
    else loadPluginToLPA env false w plugin p

/-- `zisCreatePluginAnchor`. -/
def zisCreatePluginAnchor (storage : Bool) (plugin : Plugin) : Option PluginAnchor :=
  if storage then
    some
      { version := pluginAnchorVersion
        flags := 0#32
        name := plugin.name
        pluginVersion := plugin.pluginVersion
        firstService := []
        moduleInfo := 0 }
  else none

/-- A new plugin anchor at the head of the server's chain. -/
def linkPluginAnchor (w : World) (pa : PluginAnchor) : World :=
  let p := w.pluginAnchors.fresh
  { w with
    pluginAnchors := w.pluginAnchors.alloc pa
    serverAnchor := w.serverAnchor.map fun s => { s with firstPlugin := p :: s.firstPlugin } }

/-- The first lines of `installPlugin`: the anchor the plugin's name has, or a new one. -/
def obtainPluginAnchor (storage : Bool) (w : World) (plugin : Plugin) : World × Option Addr :=
  match findPluginAnchor w plugin.name with
  | some p => (w, some p)
  | none =>
    match zisCreatePluginAnchor storage plugin with
    | none => (w, none)
    | some pa => (linkPluginAnchor w pa, some w.pluginAnchors.fresh)

/-- `addPlugin`, with the anchor field `installPlugin` sets next. -/
def addPlugin (w : World) (plugin : Plugin) (p : Addr) : World :=
  { w with plugins := ⟨plugin, p, plugin.services.map (·.anchor)⟩ :: w.plugins }

/-- The anchor fields of the services of the plugin added last. -/
def setServiceAnchors (w : World) (anchors : List (Option Addr)) : World :=
  match w.plugins with
  | [] => w
  | head :: rest => { w with plugins := { head with serviceAnchors := anchors } :: rest }

/-- `installPlugin` on the descriptor finally installed, through the plugin's init. -/
def initPlugin (env : PluginEnv) (w : World) (plugin : Plugin) (p : Addr) : World × Int :=
  let w := addPlugin w plugin p
  let w := w.updatePlugin p fun pa => { pa with pluginVersion := plugin.pluginVersion }
  let initRC := callPluginInit env.init plugin
  (w.called (.pluginInit plugin initRC), initRC)

/-- The rest of `installPlugin`; what `installServices` returns is not looked at. -/
def installRelocatedPlugin (env : PluginEnv) (w : World) (plugin : Plugin) (p : Addr) :
    World × Exit :=
  let (w, initRC) := initPlugin env w plugin p
  if initRC ≠ rcZisOk then (w, .error initRC)
  else
    let (w, anchors, exit) := installServices env.services plugin p 0 plugin.services w
    (setServiceAnchors w anchors, if exit = .abend then .abend else .next)

/-- `installPlugin`. -/
def installPlugin (devMode : Bool) (env : PluginEnv) (w : World) (plugin : Plugin) : World × Exit :=
  match obtainPluginAnchor env.anchorStorage w plugin with
  | (w, none) => (w, .error rcZisError)
  | (w, some p) =>
    match relocatePluginToLPAIfNeeded devMode env w plugin p with
    | (w, .failed rc) => (w, .error rc)
    | (w, .abend) => (w, .abend)
    | (w, .install plugin) => installRelocatedPlugin env w plugin p

end Zss.Zis
