import Zss.Lib.Machine
import Zss.Zis.Server

/-!
# A server's start and stop

The rest of `server.c` that touches the registry: which modules a start installs, in which order,
and what a stop leaves behind. A history of the registry is a run of `zisServer`, whose labels are
starts and stops with everything each of them met. A start after a start is a server that went away
without its cleanup.

The model is that of a build without `ZIS_DEV_MODE`, which keeps the service table across runs.
-/

namespace Zss.Zis

open Zss.Lib

/-! ## Plugin parameters -/

def pluginParmPrefix : Text := ['Z', 'W', 'E', 'S', '.', 'P', 'L', 'U', 'G', 'I', 'N', '.']

/-- One parameter of the parm set, with what its plugin met: the descriptor `tryLoadingPlugin`
answered with, whether the validation had its recovery environment, and the installation. -/
structure PluginParm where
  name : Text
  value : Option Text
  loaded : Option Plugin
  validationRecovery : Bool
  env : PluginEnv

/-- `isPluginValid`. The loop over the services is left at an invalid one, and the plugin is valid
all the same. -/
def isPluginValid (recovery : Bool) (plugin : Plugin) : Bool :=
  if !recovery then false
  else if plugin.eyecatcher ≠ pluginEyecatcher then false
  else if plugin.version > pluginVersion then false
  else if plugin.services.length > plugin.maxServiceCount then false
  else true

/-- `getPluginByName`, as far as its callers look. -/
def hasPluginNamed (w : World) (name : Text) : Bool :=
  w.plugins.any fun p => p.descriptor.name = name

/-- `getPluginByNickname`, as far as `isDuplicatePlugin` looks. -/
def hasPluginNicknamed (w : World) (nickname : Text) : Bool :=
  w.plugins.any fun p => p.descriptor.nickname = nickname

/-- `isDuplicatePlugin`. -/
def isDuplicatePlugin (w : World) (plugin : Plugin) : Bool :=
  hasPluginNamed w plugin.name || hasPluginNicknamed w plugin.nickname

/-- `isPluginSuitable`: the dynamic linkage module is for the first pass, all others for the
second. -/
def isPluginSuitable (dynlinkModuleName moduleName : Text) (dynLinkPluginNeeded : Bool) : Bool :=
  if dynLinkPluginNeeded then moduleName = dynlinkModuleName else moduleName ≠ dynlinkModuleName

/-- The checks of `visitPluginParm`: the plugin it goes on to install, if any. -/
def pluginOfParm (dynlinkModuleName : Text) (lookingForDynamicPlugin : Bool) (w : World)
    (parm : PluginParm) : Option Plugin :=
  if !pluginParmPrefix.isPrefixOf parm.name then none
  else
    match parm.value with
    | none => none
    | some moduleName =>
      if !isPluginSuitable dynlinkModuleName moduleName lookingForDynamicPlugin then none
      else if moduleName.length > 8 then none
      else
        match parm.loaded with
        | none => none
        | some plugin =>
          if !isPluginValid parm.validationRecovery plugin then none
          else if isDuplicatePlugin w plugin then none
          else some plugin

/-- `visitPluginParm`; the return code of `installPlugin` is not looked at. -/
def visitPluginParm (devMode : Bool) (dynlinkModuleName : Text) (lookingForDynamicPlugin : Bool)
    (w : World) (parm : PluginParm) : World × Exit :=
  match pluginOfParm dynlinkModuleName lookingForDynamicPlugin w parm with
  | none => (w, .next)
  | some plugin =>
    let (w, exit) := installPlugin devMode parm.env w plugin
    (w, if exit = .abend then .abend else .next)

/-- `zisIterateParms` with `visitPluginParm`. -/
def iteratePluginParms (devMode : Bool) (dynlinkModuleName : Text)
    (lookingForDynamicPlugin : Bool) : List PluginParm → World → World × Exit
  | [], w => (w, .next)
  | parm :: rest, w =>
    match visitPluginParm devMode dynlinkModuleName lookingForDynamicPlugin w parm with
    | (w, .next) => iteratePluginParms devMode dynlinkModuleName lookingForDynamicPlugin rest w
    | (w, exit) => (w, exit)

/-! ## Start and stop -/

/-- What a start meets. -/
structure StartEnv where
  devMode : Bool
  serverAnchorStorage : Bool
  serviceTableStorage : Bool
  lpaDelete : Addr → Int
  dynlinkModuleName : Text
  parms : List PluginParm

/-- `deployPlugins`: two passes over the parm set. -/
def deployPlugins (env : StartEnv) (w : World) : World × Exit :=
  match iteratePluginParms env.devMode env.dynlinkModuleName true env.parms w with
  | (w, .next) => iteratePluginParms env.devMode env.dynlinkModuleName false env.parms w
  | (w, exit) => (w, exit)

/-- `initServiceTable`: without storage the table stays missing, and the start goes on. -/
def initServiceTable (storage : Bool) (anchor : ServerAnchor) : ServerAnchor :=
  match anchor.serviceTable with
  | some _ => anchor
  | none => { anchor with serviceTable := if storage then some [] else none }

/-- `initGlobalResources`, as the server anchor it leaves, if any. -/
def initGlobalResources (env : StartEnv) (anchor : Option ServerAnchor) : Option ServerAnchor :=
  match anchor with
  | some anchor => some (initServiceTable env.serviceTableStorage anchor)
  | none =>
    if env.serverAnchorStorage then
      some (initServiceTable env.serviceTableStorage ⟨none, []⟩)
    else none

/-- The world of a new run: the context and the callback list are its own. -/
def World.newRun (w : World) : World := { w with plugins := [], calls := [] }

/-- `initServer` through `cleanPlugins`, over the server anchor it found or made. -/
def cleanRegistry (env : StartEnv) (w : World) (anchor : ServerAnchor) : World :=
  cleanPlugins env.devMode env.lpaDelete { w.newRun with serverAnchor := some anchor }

/-- `initServer`. -/
def initServer (env : StartEnv) (w : World) : World × Exit :=
  match initGlobalResources env w.serverAnchor with
  | none => (w.newRun, .error rcZisError)
  | some anchor => deployPlugins env (cleanRegistry env w anchor)

/-- What a stop meets: which of the term callbacks had their recovery environment, by plugin and
service. -/
structure StopEnv where
  devMode : Bool
  lpaDelete : Addr → Int
  serviceRecovery : Plugin → Service → Bool
  pluginRecovery : Plugin → Bool

/-- `callServiceTerm`, as far as it calls. -/
def callServiceTerm (env : StopEnv) (w : World) (plugin : Plugin) (service : Service)
    (anchor : Option Addr) : World :=
  if env.serviceRecovery plugin service && service.term.isSome then
    w.called (.serviceTerm plugin service anchor)
  else w

/-- `callPluginTerm`, as far as it calls. -/
def callPluginTerm (env : StopEnv) (w : World) (plugin : Plugin) : World :=
  if env.pluginRecovery plugin && plugin.term.isSome then w.called (.pluginTerm plugin) else w

/-- The body of `terminatePlugins`. -/
def terminatePlugin (env : StopEnv) (w : World) (plugin : InstalledPlugin) : World :=
  let w := (plugin.descriptor.services.zip plugin.serviceAnchors).foldl
    (fun w s => callServiceTerm env w plugin.descriptor s.1 s.2) w
  callPluginTerm env w plugin.descriptor

/-- `terminatePlugins`. -/
def terminatePlugins (env : StopEnv) (w : World) : World :=
  w.plugins.foldl (terminatePlugin env) w

/-- `cleanupServer`. -/
def cleanupServer (env : StopEnv) (w : World) : World :=
  cleanPlugins env.devMode env.lpaDelete (terminatePlugins env w)

/-- One event in the history of the registry. -/
inductive ServerEvent where
  | start (env : StartEnv)
  | stop (env : StopEnv)

/-- Histories of server starts and stops. -/
def zisServer : Machine World ServerEvent where
  step w
    | .start env => some (initServer env w).1
    | .stop env => some (cleanupServer env w)

/-- Common storage before any server has started. -/
def World.ipl : World := ⟨.empty, .empty, none, [], []⟩

end Zss.Zis
