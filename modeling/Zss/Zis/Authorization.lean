import Zss.Zis.History
import Zss.Zis.Router

/-!
# Authorization and mode at the router

The router reads the requirements of a service off its anchor: the SAF profile to test, the mode the
service runs in. The requirements themselves are the descriptor's. `World.Secured` is the invariant
that keeps the two in step in every run: an active anchor that the service table reaches carries the
descriptor last installed in it. It holds after any history, whatever anchors the history began
with, because a start deactivates every anchor it can reach and an anchor is activated only after it
was made to carry the descriptor.

The SAF requirement is then enforced (`serve_authorized`): the router tests it. The mode is not:
both router PCs run one function that never looks at it, and a request is served in its declared
mode exactly when its issuer chose the PC as the shipped client does (`serve_mode_iff`).

## What is not established

Who may read a profile is the security product's decision (`auth`). Requests are taken between the
starts and stops of a history, not in the middle of one, and that a served function does what its
service promises is not claimed.
-/

namespace Zss.Zis

open Zss.Lib

/-- Every active anchor the router can reach carries the descriptor last installed in it. -/
structure World.Secured (w : World) : Prop extends World.Linked w where
  carried : ∀ path a anchor, w.Entry path a → w.serviceAnchors.read a = some anchor →
    anchor.active = true →
      ∃ plugin service status, w.installer a = some (plugin, service, status) ∧
        Carries anchor service

/-- A service the router can dispatch to. -/
def World.Dispatchable (w : World) (plugin : Plugin) (service : Service) : Prop :=
  ∃ path a anchor status, w.Entry path a ∧ w.serviceAnchors.read a = some anchor ∧
    anchor.active = true ∧ w.installer a = some (plugin, service, status)

/-- Neither the anchor found for a service nor a new one can hold its requirements. -/
def CannotEstablish (env : ServiceEnv) (w : World) (p : Addr) (service : Service) : Prop :=
  env.anchorStorage = false ∧
    ∀ a anchor, findServiceAnchor w p service.name = some (a, anchor) →
      isServiceAnchorCompatible service anchor = false

/-! ## The invariant -/

/-- What an anchor carries and whether it is active do not depend on its being discarded. -/
theorem discardServiceAnchor_spec (anchor : ServiceAnchor) :
    (discardServiceAnchor anchor).active = anchor.active ∧
      ∀ service, Carries anchor service → Carries (discardServiceAnchor anchor) service :=
  ⟨hasFlag_setFlag_apart anchor.state anchorStates_apart.2,
    fun _ h => ⟨h.serve, h.serviceVersion, h.spaceSwitch, h.specificAuth, h.saf⟩⟩

/-- Activating an anchor changes nothing it carries. -/
theorem activateServiceAnchor_carries {anchor : ServiceAnchor} {service : Service}
    (h : Carries anchor service) : Carries (activateServiceAnchor anchor) service :=
  ⟨h.serve, h.serviceVersion, h.spaceSwitch, h.specificAuth, h.saf⟩

variable {w : World}

/-- An inactive registry is secured. -/
theorem World.Secured.of_inactive (linked : w.Linked) (inactive : w.Inactive) : w.Secured :=
  { linked with
    carried := fun path a anchor hentry hread hactive => by
      rw [inactive path a anchor hentry hread] at hactive
      cases hactive }

/-- An anchor that another's installation leaves alone is carried as it was. -/
theorem World.Secured.others (secured : w.Secured) {storage : Bool} {plugin : Plugin} {p : Addr}
    {service : Service} {r : World × Option (Addr × ServicePath)}
    (h : ObtainedService storage w plugin p service r) {path : ServicePath} {b : Addr}
    {x : ServiceAnchor} (hb : ∀ path, r.2 ≠ some (b, path)) (hentry : w.Entry path b)
    (hread : r.1.serviceAnchors.read b = some x) (hactive : x.active = true) :
    ∃ old plugin service status, w.serviceAnchors.read b = some old ∧ old.active = true ∧
      w.installer b = some (plugin, service, status) ∧ Carries x service := by
  rcases h.others hb hread with hsame | ⟨old, -, -, hold, rfl⟩
  · obtain ⟨plugin, service, status, hinst, hcarries⟩ :=
      secured.carried path b x hentry hsame hactive
    exact ⟨x, plugin, service, status, hsame, hactive, hinst, hcarries⟩
  · have hold' : old.active = true := (discardServiceAnchor_spec old).1 ▸ hactive
    obtain ⟨plugin, service, status, hinst, hcarries⟩ :=
      secured.carried path b old hentry hold hold'
    exact ⟨old, plugin, service, status, hold, hold', hinst,
      (discardServiceAnchor_spec old).2 service hcarries⟩

/-- **The step lemma.** Installing one service, whatever comes of it, keeps the registry secured. -/
theorem World.Secured.installService (secured : w.Secured) {env : ServiceEnv} {plugin : Plugin}
    {p : Addr} (hp : w.Anchored p) (service : Service) :
    (installService env w plugin p service).1.Secured := by
  have installed := installService_installed env w plugin p service
  generalize Zis.installService env w plugin p service = r at installed
  cases installed with
  | @refused w' obtained =>
    obtain ⟨keeps, table, -, -⟩ := obtained.frame
    refine { secured.toLinked.of_keeps keeps table with
      carried := fun path b x hentry hread hactive => ?_ }
    obtain ⟨-, plugin, service, status, -, -, hinst, hcarries⟩ := secured.others obtained
      (fun _ h => by cases h) ((World.entry_congr table).mp hentry) hread hactive
    exact ⟨plugin, service, status, (obtained.installer b).trans hinst, hcarries⟩
  | @obtained w' a path r obtained activated =>
    obtain ⟨keeps, table, -, -⟩ := obtained.frame
    obtain ⟨chained, anchor, hread, hpath, hcarries⟩ := obtained.anchor hp
    have linked := (secured.toLinked.of_keeps keeps table).called
      (.serviceInitOutcome plugin service a env.init)
    refine { activated.linked linked chained hread hpath with
      carried := fun k b x hentry hx hactive => ?_ }
    rcases activated.entry linked hread hpath hentry hx with
      ⟨rfl, -, hinst, hstate⟩ | ⟨hb, hold, hx', hinst, -⟩
    · refine ⟨plugin, service, _, hinst, ?_⟩
      rcases hstate with ⟨rfl, -⟩ | ⟨rfl, -⟩
      · exact hcarries
      · exact activateServiceAnchor_carries hcarries
    · obtain ⟨-, plugin, service, status, -, -, hinst', hcarries'⟩ := secured.others obtained
        (fun _ h => hb (Prod.mk.inj (Option.some.inj h)).1.symm)
        ((World.entry_congr table).mp hold) hx' hactive
      exact ⟨plugin, service, status, hinst.trans ((obtained.installer b).trans hinst'), hcarries'⟩

/-- The registry is secured through a run, whatever the run installs. -/
theorem secured_runInvariant : RunInvariant (fun _ _ _ _ _ => True) World.Secured where
  quiet quiet secured :=
    { secured.toLinked.of_keeps quiet.toKeeps quiet.table with
      carried := fun path a anchor hentry hread hactive => by
        rw [quiet.anchors] at hread
        rw [quiet.installer]
        exact secured.carried path a anchor ((World.entry_congr quiet.table).mp hentry) hread
          hactive }
  install _ installing _ secured := secured.installService installing.anchored _

/-- A start leaves the registry secured. -/
theorem initServer_secured (linked : w.Linked) (env : StartEnv) : (initServer env w).1.Secured := by
  cases hanchor : initGlobalResources env w.serverAnchor with
  | none =>
    obtain ⟨-, noEntry⟩ := initServer_noServer hanchor
    exact ⟨⟨fun path a h => absurd h (noEntry path a), fun path a h => absurd h (noEntry path a)⟩,
      fun path a _ h => absurd h (noEntry path a)⟩
  | some anchor =>
    obtain ⟨hl, hi, hserver, -⟩ := cleanRegistry_spec hanchor linked
    exact (secured_runInvariant.initServer hanchor
      (startMeets_of_all (fun _ _ _ _ _ => trivial) env w) hserver (.of_inactive hl hi)).1

/-- **The run lemma.** From the first start on, the registry is secured in every state. -/
theorem visits_secured {w₀ w : World} {first : StartEnv} {es : List ServerEvent}
    (linked : w₀.Linked) (visits : zisServer.Visits (initServer first w₀).1 es w) : w.Secured := by
  refine zisServer.visits_keeps_always (I := World.Secured) (fun w e t secured hstep => ?_)
    (initServer_secured linked first) visits
  cases e with
  | start env =>
    cases hstep
    exact initServer_secured secured.toLinked env
  | stop env =>
    cases hstep
    obtain ⟨hl, hi, -⟩ := cleanupServer_spec secured.toLinked env
    exact .of_inactive hl hi

/-- The descriptor behind a served request. -/
theorem World.Secured.served (secured : w.Secured) {auth : Text → Text → Bool} {parm : RouterParm}
    {a : Addr} {anchor : ServiceAnchor} (h : Dispatched auth w parm a anchor) :
    ∃ plugin service status, w.installer a = some (plugin, service, status) ∧
      Carries anchor service :=
  secured.carried parm.targetServicePath a anchor h.found h.read h.active

/-! ## The SAF requirement -/

/-- An installation that cannot establish a service's requirements makes nothing dispatchable. -/
theorem installService_cannotEstablish {env : ServiceEnv} {p : Addr} {service : Service}
    (h : CannotEstablish env w p service) (plugin : Plugin) {plugin' : Plugin}
    {service' : Service}
    (hd : (installService env w plugin p service).1.Dispatchable plugin' service') :
    w.Dispatchable plugin' service' := by
  have installed := installService_installed env w plugin p service
  generalize Zis.installService env w plugin p service = r at installed hd
  have noAnchor : zisCreateServiceAnchor env.anchorStorage plugin service = none := by
    simp [zisCreateServiceAnchor, h.1]
  cases installed with
  | @refused w' obtained =>
    obtain ⟨path, b, x, status, hentry, hread, hactive, hinst⟩ := hd
    obtain ⟨-, table, -, -⟩ := obtained.frame
    have hentry' := (World.entry_congr table).mp hentry
    have hinst' := (obtained.installer b).symm.trans hinst
    rcases obtained.others (fun _ h => by cases h) hread with hsame | ⟨old, -, -, hold, rfl⟩
    · exact ⟨path, b, x, status, hentry', hsame, hactive, hinst'⟩
    · exact ⟨path, b, old, status, hentry', hold, (discardServiceAnchor_spec old).1 ▸ hactive, hinst'⟩
  | obtained obtained _ =>
    exfalso
    cases obtained with
    | updated hfind hcompat =>
      rw [h.2 _ _ hfind] at hcompat
      cases hcompat
    | replaced _ _ hsome => exact absurd (noAnchor.symm.trans hsome) (by simp)
    | created _ hsome => exact absurd (noAnchor.symm.trans hsome) (by simp)

/-- **No serve function runs before its descriptor's SAF profile was tested.** After any history from
any linked registry: a service is served through the descriptor last installed in its anchor, and
where that descriptor demands a specific authorization, after the test of its own class and entity
answered yes; a dispatchable service's anchor holds its requirement; and an installation that cannot
establish a requirement makes no service dispatchable. -/
theorem serve_authorized {w₀ w : World} {first : StartEnv} {es : List ServerEvent}
    (linked : w₀.Linked) (visits : zisServer.Visits (initServer first w₀).1 es w) :
    (∀ auth parm a fn, .serve a fn ∈ (zisRouteService auth w parm).1 →
      ∃ plugin service status, w.installer a = some (plugin, service, status) ∧
        fn = service.serve ∧
        (service.specificAuth = true →
          auth service.safClassName service.safEntityName = true ∧
            (zisRouteService auth w parm).1 =
              [.cmsTestAuth service.safClassName service.safEntityName true, .serve a fn])) ∧
      (∀ plugin service, w.Dispatchable plugin service → service.specificAuth = true →
        ∃ a anchor, w.serviceAnchors.read a = some anchor ∧ anchor.specificAuth = true ∧
          anchor.safClassName = service.safClassName ∧
          anchor.safEntityName = service.safEntityName) ∧
      (∀ env u plugin p service, CannotEstablish env u p service → ∀ plugin' service',
        (installService env u plugin p service).1.Dispatchable plugin' service' →
          u.Dispatchable plugin' service') := by
  have secured := visits_secured linked visits
  refine ⟨fun auth parm a fn hserve => ?_, fun plugin service hd hspecific => ?_,
    fun env u plugin p service h plugin' service' => installService_cannotEstablish h plugin⟩
  · obtain ⟨anchor, hd, rfl, hcalls⟩ := zisRouteService_serve hserve
    obtain ⟨plugin, service, status, hinst, hcarries⟩ := secured.served hd
    refine ⟨plugin, service, status, hinst, hcarries.serve, fun hspecific => ?_⟩
    have hanchor : anchor.specificAuth = true := hcarries.specificAuth.trans hspecific
    obtain ⟨hclass, hentity⟩ := hcarries.saf hspecific
    rw [← hclass, ← hentity]
    exact ⟨hd.authorized hanchor, by rw [hcalls, dispatchCalls, if_pos hanchor]⟩
  · obtain ⟨path, a, anchor, status, hentry, hread, hactive, hinst⟩ := hd
    obtain ⟨plugin', service', status', hinst', hcarries⟩ :=
      secured.carried path a anchor hentry hread hactive
    rw [hinst, Option.some.injEq, Prod.mk.injEq, Prod.mk.injEq] at hinst'
    obtain ⟨rfl, rfl, rfl⟩ := hinst'
    exact ⟨a, anchor, hread, hcarries.specificAuth.trans hspecific, hcarries.saf hspecific⟩

/-! ## A start over an older registry -/

/-- A service with a SAF profile of its own, for the current-primary mode. -/
def sampleService : Service where
  eyecatcher := serviceEyecatcher
  version := serviceVersion
  flags := serviceFlagSpecificAuth
  anchor := none
  name := ['S']
  init := none
  term := none
  serve := some 1
  serviceVersion := 1
  safClassName := ['C']
  safEntityName := ['E']

/-- The same service for the space-switch mode. -/
def sampleSpaceSwitchService : Service :=
  { sampleService with flags := setFlag serviceFlagSpecificAuth serviceFlagSpaceSwitch }

/-- A plugin with the given flags and services. -/
def samplePlugin (flags : BitVec 32) (services : List Service) : Plugin where
  eyecatcher := pluginEyecatcher
  version := pluginVersion
  flags := flags
  maxServiceCount := services.length
  name := ['P']
  nickname := ['N']
  init := none
  term := none
  handleCommand := none
  pluginVersion := 1
  services := services

/-- A start that finds one plugin and gets all the storage it asks for. -/
def sampleStart (plugin : Plugin) (init : Nat → CallbackOutcome) : StartEnv where
  devMode := false
  serverAnchorStorage := true
  serviceTableStorage := true
  lpaDelete _ := 0
  dynlinkModuleName := ['D']
  parms :=
    [{ name := pluginParmPrefix ++ ['P']
       value := some ['M']
       loaded := some plugin
       validationRecovery := true
       env :=
        { anchorStorage := true
          lpaDelete := 0
          lpaAdd := 0
          lpaModule := 1
          relocated := some plugin
          init := .returned 0
          services := fun i => ⟨true, init i, true⟩ } }]

/-- A start with one plugin for LPA, whose one service has a SAF profile. -/
def sampleSafStart : StartEnv :=
  sampleStart (samplePlugin pluginFlagLpa [sampleService]) fun _ => .returned 0

/-- A start with one plugin that stays in private storage, whose one service is for the space-switch
mode. -/
def sampleSpaceSwitchStart : StartEnv :=
  sampleStart (samplePlugin 0#32 [sampleSpaceSwitchService]) fun _ => .returned 0

/-- A registry with the active anchor of an earlier version's service `S`, too old for a SAF
profile. -/
def olderRegistry : World where
  serviceAnchors := ⟨[{
    version := 1
    flags := serviceAnchorFlagSpaceSwitch
    state := serviceAnchorStateActive
    path := ⟨['P'], ['S']⟩
    serviceVersion := 1
    serve := some 0
    safClassName := []
    safEntityName := [] }]⟩
  pluginAnchors := ⟨[{
    version := 1
    flags := 0#32
    name := ['P']
    pluginVersion := 1
    firstService := [0]
    moduleInfo := 0 }]⟩
  serverAnchor := some ⟨some [(⟨['P'], ['S']⟩, 0)], [0]⟩
  plugins := []
  calls := []

theorem olderRegistry_linked : olderRegistry.Linked where
  entry path a := by
    rintro ⟨table, htable, hget⟩
    cases htable
    simp only [crossMemoryMapGet, List.lookup_cons, List.lookup_nil] at hget
    split at hget
    · next hpath =>
      cases hget
      exact ⟨_, rfl, (eq_of_beq hpath).symm⟩
    · cases hget
  chained path a := by
    rintro ⟨table, htable, hget⟩
    cases htable
    simp only [crossMemoryMapGet, List.lookup_cons, List.lookup_nil] at hget
    split at hget
    · cases hget
      exact ⟨0, ⟨List.mem_singleton.mpr rfl, _, rfl⟩, List.mem_singleton.mpr rfl⟩
    · cases hget

/-- A request for service `S` of plugin `P`, at any version. -/
def sampleParm : RouterParm :=
  ⟨serviceRouterEyecatcher, serviceRouterVersion, ⟨['P'], ['S']⟩, serviceAnyVersion⟩

/-- Over the older registry the service gets a new anchor, and its profile is tested. -/
theorem serve_authorized_over_older :
    ∃ plugin service status,
      (initServer sampleSafStart olderRegistry).1.installer 1 =
        some (plugin, service, status) ∧
      some 1 = service.serve ∧
      (service.specificAuth = true →
        (zisRouteService (fun _ _ => true)
          (initServer sampleSafStart olderRegistry).1
          sampleParm).1 =
          [.cmsTestAuth service.safClassName service.safEntityName true, .serve 1 (some 1)]) := by
  obtain ⟨plugin, service, status, hinst, hfn, hauth⟩ :=
    (serve_authorized olderRegistry_linked
      (.here (initServer sampleSafStart olderRegistry).1 [])).1 (fun _ _ => true) sampleParm 1
      (some 1) (by decide +kernel)
  exact ⟨plugin, service, status, hinst, hfn, fun hs => (hauth hs).2⟩

/-! ## The declared mode -/

/-- A request against a router PC runs its service in the mode of the service's anchor and of the
descriptor last installed in it. -/
def RunsInMode (pc : RouterPc) (auth : Text → Text → Bool) (w : World) (parm : RouterParm) : Prop :=
  ∀ a fn, .serve a fn ∈ (pc.handler auth w parm).1 →
    ∃ anchor plugin service status, w.serviceAnchors.read a = some anchor ∧
      w.installer a = some (plugin, service, status) ∧
      anchor.spaceSwitch = pc.spaceSwitch ∧ service.spaceSwitch = pc.spaceSwitch

theorem RouterPc.handler_eq (pc : RouterPc) : pc.handler = zisRouteService := by
  cases pc <;> rfl

/-- **The mode is the issuer's choice.** After any history from any linked registry, a request runs
its service in the declared mode exactly when no anchor that passes the router's checks for it is of
the other mode. -/
theorem serve_mode_iff {w₀ w : World} {first : StartEnv} {es : List ServerEvent}
    (linked : w₀.Linked) (visits : zisServer.Visits (initServer first w₀).1 es w) (pc : RouterPc)
    (auth : Text → Text → Bool) (parm : RouterParm) :
    RunsInMode pc auth w parm ↔
      ∀ a anchor, Dispatched auth w parm a anchor → anchor.spaceSwitch = pc.spaceSwitch := by
  have secured := visits_secured linked visits
  unfold RunsInMode
  rw [pc.handler_eq]
  constructor
  · intro h a anchor hd
    have hserve : .serve a anchor.serve ∈ (zisRouteService auth w parm).1 := by
      rw [zisRouteService_of_dispatched hd]
      exact serve_mem_dispatchCalls.mpr ⟨rfl, rfl⟩
    obtain ⟨anchor', -, -, -, hread, -, hmode, -⟩ := h a anchor.serve hserve
    rw [hd.read, Option.some.injEq] at hread
    exact hread ▸ hmode
  · intro h a fn hserve
    obtain ⟨anchor, hd, -, -⟩ := zisRouteService_serve hserve
    obtain ⟨plugin, service, status, hinst, hcarries⟩ := secured.served hd
    have hmode := h a anchor hd
    exact ⟨anchor, plugin, service, status, hd.read, hinst, hmode, hcarries.spaceSwitch ▸ hmode⟩

/-- Over the older registry the current-primary router serves what the space-switch flag of no
anchor forbids. -/
theorem serve_mode_iff_over_older :
    RunsInMode .cp (fun _ _ => true)
        (initServer sampleSafStart olderRegistry).1
        sampleParm ↔
      ∀ a anchor, Dispatched (fun _ _ => true)
        (initServer sampleSafStart olderRegistry).1
        sampleParm a anchor → anchor.spaceSwitch = RouterPc.cp.spaceSwitch :=
  serve_mode_iff olderRegistry_linked (.here _ []) .cp (fun _ _ => true) sampleParm

/-- The current-primary router runs a service declared for the space-switch mode, whose module is
not in common storage. -/
theorem cp_router_runs_spaceSwitch_service :
    ¬ RunsInMode .cp (fun _ _ => true) (initServer sampleSpaceSwitchStart .ipl).1 sampleParm := by
  intro h
  obtain ⟨anchor, -, -, -, hread, -, hmode, -⟩ := h 0 (some 1) (by decide +kernel)
  have declared : ((initServer sampleSpaceSwitchStart .ipl).1.serviceAnchors.read 0).map
      (·.spaceSwitch) = some true := by decide +kernel
  rw [hread, Option.map_some, Option.some.injEq, hmode] at declared
  cases declared

/-- The shipped client's own requests run in the declared mode. -/
theorem zisCallServiceInternal_runsInMode {w₀ w : World} {first : StartEnv}
    {es : List ServerEvent} (linked : w₀.Linked)
    (visits : zisServer.Visits (initServer first w₀).1 es w) {env : ClientEnv}
    {path : ServicePath} {version : Nat} {pc : RouterPc} {parm : RouterParm}
    (h : zisCallServiceInternal env w path version = .ok (pc, parm)) (auth : Text → Text → Bool) :
    RunsInMode pc auth w parm := by
  obtain ⟨hpath, table, a, anchor, htable, hget, hread, hmode⟩ := zisCallServiceInternal_mode h
  have secured := visits_secured linked visits
  intro b fn hserve
  rw [pc.handler_eq] at hserve
  obtain ⟨x, hd, -, -⟩ := zisRouteService_serve hserve
  obtain ⟨plugin, service, status, hinst, hcarries⟩ := secured.served hd
  have same : b = a := by
    obtain ⟨table', htable', hget'⟩ := hd.found
    rw [htable, Option.some.injEq] at htable'
    rw [hpath, ← htable', hget, Option.some.injEq] at hget'
    exact hget'.symm
  subst same
  have hx : x = anchor := Option.some.inj (hd.read.symm.trans hread)
  subst hx
  exact ⟨x, plugin, service, status, hread, hinst, hmode, hcarries.spaceSwitch ▸ hmode⟩

/-- The client asks for a service of the space-switch mode. -/
theorem zisCallServiceInternal_runsInMode_sample :
    RunsInMode .ss (fun _ _ => true) (initServer sampleSpaceSwitchStart olderRegistry).1
      sampleParm :=
  zisCallServiceInternal_runsInMode olderRegistry_linked (.here _ [])
    (show zisCallServiceInternal ⟨true, true, true⟩ (initServer sampleSpaceSwitchStart olderRegistry).1
      sampleParm.targetServicePath sampleParm.serviceVersion = .ok (.ss, sampleParm) by
        decide +kernel) fun _ _ => true

end Zss.Zis
