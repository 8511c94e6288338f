import Zss.Zis.Authorization

/-!
# What a dispatched service was installed as

The router dispatches through whatever active anchor it finds. `World.Sound` is what makes that
safe: an active anchor of the service table was last installed by a plugin of the current run whose
init returned OK, for one of that plugin's own services, whose init returned OK too and which has a
serve function; the anchor bears their names and was not discarded.

Installing a service keeps this under `ServiceSound`, a condition on what the installation meets,
and not without it. The branches it excludes are those where the code touches an anchor that is
already active in this run (a second service of the same name in a plugin) and then gives up, where
it activates a service without a serve function, and where the anchor it finds bears the name of
another plugin (a module that answers with another name from LPA). A start must also have a service
table, which a failed allocation leaves missing without an error (`EventSound`).

Under these conditions every request of every run is answered soundly (`routed_sound`).

## What is not established

The condition is enough, not exact. A request meets a state between two starts or stops; a dispatch
in the middle of one is not among the runs. What a serve function does is its plugin's affair.
-/

namespace Zss.Zis

open Zss.Lib

/-! ## The property -/

/-- An anchor was last installed in this run for a service of a plugin, both initialized. -/
structure InstalledFor (w : World) (a : Addr) (anchor : ServiceAnchor) (plugin : Plugin)
    (service : Service) : Prop where
  installer : w.installer a = some (plugin, service, rcZisOk)
  listed : plugin ∈ w.plugins.map (·.descriptor)
  pluginInit : .pluginInit plugin rcZisOk ∈ w.calls
  member : service ∈ plugin.services
  path : anchor.path = ⟨plugin.name, service.name⟩
  live : anchor.discarded = false
  serve : service.serve.isSome = true

/-- A request is answered soundly: a serve function it branches to is that of the service its path
names, installed and initialized in the current run; without a branch it ends with a code other than
OK. -/
structure RoutedSound (auth : Text → Text → Bool) (w : World) (parm : RouterParm) : Prop where
  serve : ∀ a fn, .serve a fn ∈ (zisRouteService auth w parm).1 →
    ∃ anchor plugin service, w.serviceAnchors.read a = some anchor ∧
      anchor.path = parm.targetServicePath ∧ InstalledFor w a anchor plugin service ∧
      fn = service.serve
  refused : (∀ a fn, .serve a fn ∉ (zisRouteService auth w parm).1) →
    ∃ code, (zisRouteService auth w parm).2 = .rc code ∧ code ≠ rcZisSrvcOk

/-! ## The condition -/

/-- The path under which `installService` enters a service. -/
def obtainedPath (w : World) (plugin : Plugin) (p : Addr) (service : Service) : ServicePath :=
  match findServiceAnchor w p service.name with
  | some (_, anchor) =>
    if isServiceAnchorCompatible service anchor then anchor.path else ⟨plugin.name, service.name⟩
  | none => ⟨plugin.name, service.name⟩

/-- Everything `installService` needs to activate a service is there. -/
def Activates (env : ServiceEnv) (w : World) (plugin : Plugin) (p : Addr) (service : Service) :
    Prop :=
  callServiceInit env.init service = rcZisOk ∧
    (env.anchorStorage = true ∨ ∃ a anchor,
      findServiceAnchor w p service.name = some (a, anchor) ∧
        isServiceAnchorCompatible service anchor = true) ∧
    (env.mapStorage = true ∨ ∃ a, w.Entry (obtainedPath w plugin p service) a)

/-- The condition on the installation of one service. -/
structure ServiceSound (env : ServiceEnv) (w : World) (plugin : Plugin) (p : Addr)
    (service : Service) : Prop where
  /-- A service that gets activated has a serve function. -/
  serve : Activates env w plugin p service → service.serve.isSome = true
  /-- A service that gets activated does so in an anchor of its plugin's name. -/
  named : Activates env w plugin p service → ∀ a anchor,
    findServiceAnchor w p service.name = some (a, anchor) →
    isServiceAnchorCompatible service anchor = true → anchor.path.pluginName = plugin.name
  /-- An anchor that is active already is taken over completely. -/
  reused : ∀ a anchor, findServiceAnchor w p service.name = some (a, anchor) →
    anchor.active = true →
      anchor.path.pluginName = plugin.name ∧
        (isServiceAnchorCompatible service anchor = true ∨ env.anchorStorage = true) ∧
        callServiceInit env.init service = rcZisOk

/-- The condition on one event of a history. -/
def EventSound (w : World) : ServerEvent → Prop
  | .start env =>
    StartMeets ServiceSound env w ∧
      (w.serverAnchor.isSome = true ∨ env.serverAnchorStorage = true →
        w.serviceTable.isSome = true ∨ env.serviceTableStorage = true)
  | .stop _ => True

/-! ## The invariant -/

/-- What the router can reach is installed and initialized. -/
structure World.Sound (w : World) : Prop extends World.Secured w where
  installed : ∀ path a anchor, w.Entry path a → w.serviceAnchors.read a = some anchor →
    anchor.active = true → ∃ plugin service, InstalledFor w a anchor plugin service

variable {plugin : Plugin} {service : Service} {w : World} {p : Addr}

theorem InstalledFor.of_keeps {w w' : World} {a : Addr} {anchor : ServiceAnchor}
    (h : InstalledFor w a anchor plugin service) (keeps : World.Keeps w w')
    (installer : w'.installer a = w.installer a) : InstalledFor w' a anchor plugin service :=
  { h with
    installer := installer.trans h.installer
    listed := keeps.plugins plugin h.listed
    pluginInit := keeps.calls _ h.pluginInit }

theorem World.Sound.of_inactive (linked : w.Linked) (inactive : w.Inactive) : w.Sound :=
  { World.Secured.of_inactive linked inactive with
    installed := fun path a anchor hentry hread hactive => by
      rw [inactive path a anchor hentry hread] at hactive
      cases hactive }

/-- The anchor an installation obtained, before its activation: under the path the service is
entered under, bearing the service's name, not discarded, and active only if it was found so. -/
theorem ObtainedService.fresh {storage : Bool} {w w' : World} {a : Addr} {path : ServicePath}
    {anchor : ServiceAnchor} (h : ObtainedService storage w plugin p service (w', some (a, path)))
    (hread : w'.serviceAnchors.read a = some anchor) :
    path = obtainedPath w plugin p service ∧ path.serviceName = service.name ∧
      anchor.discarded = false ∧
      ((∃ old, findServiceAnchor w p service.name = some (a, old) ∧ old.path = path ∧
          isServiceAnchorCompatible service old = true ∧ anchor.active = old.active) ∨
        (path.pluginName = plugin.name ∧ anchor.active = false ∧ storage = true)) := by
  have created : ∀ {x : ServiceAnchor}, zisCreateServiceAnchor storage plugin service = some x →
      x.path = ⟨plugin.name, service.name⟩ ∧ x.discarded = false ∧ x.active = false ∧
        storage = true := by
    intro x hx
    obtain ⟨hstorage, hpath, hstate, -⟩ := zisCreateServiceAnchor_some hx
    exact ⟨hpath, by rw [ServiceAnchor.discarded, hstate, hasFlag_zero],
      by rw [ServiceAnchor.active, hstate, hasFlag_zero], hstorage⟩
  cases h with
  | @updated a old hfind hcompat =>
    obtain ⟨-, hold, hmatch⟩ := World.findServiceAnchor_some hfind
    simp only [serviceAnchorMatches, Bool.not_eq_eq_eq_not, Bool.not_true, decide_eq_true_eq]
      at hmatch
    have hanchor : anchor = zisUpdateServiceAnchor old service := by
      have hx : (w.serviceAnchors.update a fun x => zisUpdateServiceAnchor x service).read a =
        some anchor := hread
      rw [Heap.read_update_self, hold, Option.map_some, Option.some.injEq] at hx
      exact hx.symm
    obtain ⟨-, hstate, -⟩ := zisUpdateServiceAnchor_identity old service
    subst hanchor
    refine ⟨by simp [obtainedPath, hfind, hcompat], hmatch.1, ?_, .inl ⟨old, hfind, rfl, hcompat, ?_⟩⟩
    · rw [ServiceAnchor.discarded, hstate]
      exact hmatch.2.2
    · rw [ServiceAnchor.active, hstate, ServiceAnchor.active]
  | @replaced _ old x hfind hcompat hsome =>
    obtain ⟨hpath, hlive, hinactive, hstorage⟩ := created hsome
    have hx : x = anchor := Option.some.inj ((Heap.read_alloc_fresh _ _).symm.trans hread)
    subst hx
    exact ⟨by simp [obtainedPath, hfind, hcompat, hpath], by rw [hpath], hlive,
      .inr ⟨by rw [hpath], hinactive, hstorage⟩⟩
  | @created x hfind hsome =>
    obtain ⟨hpath, hlive, hinactive, hstorage⟩ := created hsome
    have hx : x = anchor := Option.some.inj ((Heap.read_alloc_fresh _ _).symm.trans hread)
    subst hx
    exact ⟨by simp [obtainedPath, hfind, hpath], by rw [hpath], hlive,
      .inr ⟨by rw [hpath], hinactive, hstorage⟩⟩

/-- Without storage for a new anchor none is obtained only then. -/
theorem ObtainedService.noStorage {storage : Bool} {w w' : World}
    (h : ObtainedService storage w plugin p service (w', none)) : storage = false := by
  cases storage with
  | false => rfl
  | true =>
    cases h with
    | discarded _ _ hnone => simp [zisCreateServiceAnchor] at hnone
    | refused _ hnone => simp [zisCreateServiceAnchor] at hnone

/-- **The step lemma.** Installing one service under the condition keeps the registry sound. -/
theorem World.Sound.installService (sound : w.Sound) {env : ServiceEnv}
    (cond : ServiceSound env w plugin p service) (installing : w.Installing plugin p)
    (member : service ∈ plugin.services) : (installService env w plugin p service).1.Sound := by
  refine { sound.toSecured.installService installing.anchored service with
    installed := fun k b x hentry hx hactive => ?_ }
  have keeps := installService_keeps env w plugin p service
  have installed := installService_installed env w plugin p service
  generalize Zis.installService env w plugin p service = r at installed hentry hx keeps
  cases installed with
  | @refused w' obtained =>
    have hentry' := (World.entry_congr obtained.frame.2.1).mp hentry
    rcases obtained.others (fun _ h => by cases h) hx with hsame | ⟨old, hfind, hcompat, -, rfl⟩
    · obtain ⟨plugin', service', hfor⟩ := sound.installed k b x hentry' hsame hactive
      exact ⟨plugin', service', hfor.of_keeps keeps (obtained.installer b)⟩
    · -- an active anchor is discarded only where it is replaced
      have hold : old.active = true := (discardServiceAnchor_spec old).1 ▸ hactive
      obtain ⟨-, hroom, -⟩ := cond.reused b old hfind hold
      rw [hcompat, obtained.noStorage] at hroom
      exact absurd hroom (by decide)
  | @obtained w' a path r obtained activated =>
    obtain ⟨obtainKeeps, table, -, -⟩ := obtained.frame
    obtain ⟨-, anchor, hread, hpath, -⟩ := obtained.anchor installing.anchored
    have linked := (sound.toLinked.of_keeps obtainKeeps table).called
      (.serviceInitOutcome plugin service a env.init)
    obtain ⟨hown, hname, hlive, hfresh⟩ := obtained.fresh hread
    rcases activated.entry linked hread hpath hentry hx with
      ⟨rfl, rfl, hinst, hstate⟩ | ⟨hb, hold, hx', hinst, hother⟩
    · rcases hstate with ⟨rfl, hfailed⟩ | ⟨rfl, hinit, hroom⟩
      · -- an anchor whose service failed is active only if it was reused
        rcases hfresh with ⟨old, hfind, -, -, hstate⟩ | ⟨-, hinactive, -⟩
        · exact absurd (cond.reused b old hfind (hstate ▸ hactive)).2.2 hfailed
        · rw [hinactive] at hactive
          cases hactive
      · have activates : Activates env w plugin p service := by
          refine ⟨hinit, ?_, ?_⟩
          · rcases hfresh with ⟨old, hfind, -, hcompat, -⟩ | ⟨-, -, hstorage⟩
            · exact .inr ⟨b, old, hfind, hcompat⟩
            · exact .inl hstorage
          · rcases hroom with hstorage | ⟨c, hc⟩
            · exact .inl hstorage
            · exact .inr ⟨c, hown ▸ (World.entry_congr table).mp hc⟩
        have hplugin : k.pluginName = plugin.name := by
          rcases hfresh with ⟨old, hfind, hold, hcompat, -⟩ | ⟨hnew, -⟩
          · exact hold ▸ cond.named activates b old hfind hcompat
          · exact hnew
        refine ⟨plugin, service, ?_⟩
        exact
          { installer := hinit ▸ hinst
            listed := keeps.plugins _ installing.listed
            pluginInit := keeps.calls _ installing.init
            member := member
            path := by
              have : k = ⟨plugin.name, service.name⟩ := by rw [← hplugin, ← hname]
              exact hpath.trans this
            live := (hasFlag_setFlag_apart anchor.state anchorStates_apart.1).trans hlive
            serve := cond.serve activates }
    · have hold' := (World.entry_congr table).mp hold
      rcases obtained.others (fun _ h => hb (Prod.mk.inj (Option.some.inj h)).1.symm) hx' with
        hsame | ⟨old, hfind, hcompat, hreadOld, rfl⟩
      · obtain ⟨plugin', service', hfor⟩ := sound.installed k b x hold' hsame hactive
        exact ⟨plugin', service', hfor.of_keeps keeps (hinst.trans (obtained.installer b))⟩
      · -- the replaced anchor's path now leads to the new one
        exfalso
        have holdActive : old.active = true := (discardServiceAnchor_spec old).1 ▸ hactive
        obtain ⟨hplugin, -, hinit⟩ := cond.reused b old hfind holdActive
        have hmatch := (World.findServiceAnchor_some hfind).2.2
        simp only [serviceAnchorMatches, decide_eq_true_eq] at hmatch
        obtain ⟨y, hy, hyk⟩ := sound.entry k b hold'
        rw [hreadOld, Option.some.injEq] at hy
        subst hy
        refine hother hinit ?_
        rw [hown, ← hyk]
        simp only [obtainedPath, hfind, hcompat, Bool.false_eq_true, ↓reduceIte]
        rw [← hplugin, ← hmatch.1]

/-- The registry stays sound, and keeps its service table, through a run that meets the
condition. -/
theorem sound_runInvariant :
    RunInvariant ServiceSound fun w => w.Sound ∧ w.serviceTable.isSome = true where
  quiet quiet h := by
    refine ⟨{ secured_runInvariant.quiet quiet h.1.toSecured with
      installed := fun path a anchor hentry hread hactive => ?_ }, quiet.table ▸ h.2⟩
    rw [quiet.anchors] at hread
    obtain ⟨plugin, service, hfor⟩ :=
      h.1.installed path a anchor ((World.entry_congr quiet.table).mp hentry) hread hactive
    exact ⟨plugin, service, hfor.of_keeps quiet.toKeeps (quiet.installer a)⟩
  install cond installing member h :=
    ⟨h.1.installService cond installing member, installService_table h.2⟩

/-- What holds between two events of a history: the registry is sound, and a server anchor has its
service table. -/
structure World.Steady (w : World) : Prop extends World.Sound w where
  table : w.serverAnchor.isSome = true → w.serviceTable.isSome = true

/-- A start that meets the condition leaves a steady registry. -/
theorem initServer_steady (linked : w.Linked) {env : StartEnv} (cond : EventSound w (.start env)) :
    (initServer env w).1.Steady := by
  cases hanchor : initGlobalResources env w.serverAnchor with
  | none =>
    obtain ⟨hserver, noEntry⟩ := initServer_noServer hanchor
    exact
      { initServer_secured linked env with
        installed := fun path a _ h => absurd h (noEntry path a)
        table := fun h => by simp [hserver] at h }
  | some anchor =>
    obtain ⟨hl, hi, hserver, htable⟩ := cleanRegistry_spec hanchor linked
    obtain ⟨-, -, htab⟩ := initGlobalResources_spec hanchor
    have hroom : w.serverAnchor.isSome = true ∨ env.serverAnchorStorage = true := by
      cases hs : w.serverAnchor with
      | some _ => exact .inl rfl
      | none =>
        refine .inr ?_
        by_contra hno
        simp [initGlobalResources, hs, Bool.not_eq_true _ ▸ hno] at hanchor
    have start := (sound_runInvariant.initServer hanchor cond.1 hserver
      ⟨.of_inactive hl hi, htable.symm ▸ htab (cond.2 hroom)⟩).1
    exact { start.1 with table := fun _ => start.2 }

/-- **The run lemma.** In a history whose events meet the condition, the registry is steady in every
state from the first start on. -/
theorem visits_steady {w₀ w : World} {first : StartEnv} {es : List ServerEvent}
    (linked : w₀.Linked) (meets : zisServer.Meets EventSound w₀ (.start first :: es))
    (visits : zisServer.Visits (initServer first w₀).1 es w) : w.Steady := by
  refine zisServer.visits_keeps (I := World.Steady) (fun w e t steady cond hstep => ?_)
    (initServer_steady linked meets.1) (meets.2 _ rfl) visits
  cases e with
  | start env =>
    cases hstep
    exact initServer_steady steady.toLinked cond
  | stop env =>
    cases hstep
    obtain ⟨hl, hi, hserver⟩ := cleanupServer_spec steady.toLinked env
    exact
      { World.Sound.of_inactive hl hi with
        table := fun h => by
          rw [hserver] at h
          exact World.serviceTable_congr hserver ▸ steady.table h }

/-- **Every request is answered soundly.** In a history whose events meet the condition, from any
linked registry on, in every state with a server anchor. -/
theorem routed_sound {w₀ w : World} {first : StartEnv} {es : List ServerEvent}
    (linked : w₀.Linked) (meets : zisServer.Meets EventSound w₀ (.start first :: es))
    (visits : zisServer.Visits (initServer first w₀).1 es w)
    (server : w.serverAnchor.isSome = true) (auth : Text → Text → Bool) (parm : RouterParm) :
    RoutedSound auth w parm := by
  have steady := visits_steady linked meets visits
  refine ⟨fun a fn hserve => ?_, fun hno => ?_⟩
  · obtain ⟨anchor, hd, rfl, -⟩ := zisRouteService_serve hserve
    obtain ⟨x, hx, hpath⟩ := steady.entry parm.targetServicePath a hd.found
    have hsame : x = anchor := Option.some.inj (hx.symm.trans hd.read)
    subst hsame
    obtain ⟨plugin, service, hfor⟩ := steady.installed _ a x hd.found hd.read hd.active
    obtain ⟨plugin', service', status, hinst, hcarries⟩ := steady.toSecured.served hd
    rw [hfor.installer, Option.some.injEq, Prod.mk.injEq, Prod.mk.injEq] at hinst
    obtain ⟨rfl, rfl, rfl⟩ := hinst
    exact ⟨x, plugin, service, hx, hpath, hfor, hcarries.serve⟩
  · rcases zisRouteService_refused hno with hrc | hnone | ⟨table, a, htable, hget, hread⟩
    · exact hrc
    · have := steady.table server
      simp [hnone] at this
    · obtain ⟨x, hx, -⟩ := steady.entry parm.targetServicePath a ⟨table, htable, hget⟩
      rw [hread] at hx
      cases hx

/-! ## Two services of one name -/

/-- A start with one plugin, whose two services bear one name; the init of the second fails. -/
def sampleDuplicateStart : StartEnv :=
  sampleStart
    (samplePlugin pluginFlagLpa [sampleService, { sampleService with init := some 2, serve := some 3 }])
    fun i => .returned (if i = 0 then 0 else 8)

/-- The router dispatches to the service whose init failed. -/
theorem router_serves_failed_service :
    ¬ RoutedSound (fun _ _ => true) (initServer sampleDuplicateStart .ipl).1 sampleParm := by
  intro h
  obtain ⟨_, plugin, service, -, -, hfor, -⟩ := h.serve 0 (some 3) (by decide +kernel)
  have status : ((initServer sampleDuplicateStart .ipl).1.installer 0).map (·.2.2) =
      some rcZisError := by decide +kernel
  rw [hfor.installer, Option.map_some, Option.some.injEq] at status
  have distinct : rcZisOk ≠ rcZisError := by decide
  exact distinct status

/-- A service with a serve function, whose plugin's chain has only inactive anchors of its name,
meets the condition. -/
theorem ServiceSound.of_inactive {env : ServiceEnv} (serve : service.serve.isSome = true)
    (found : ∀ a anchor, findServiceAnchor w p service.name = some (a, anchor) →
      anchor.path.pluginName = plugin.name ∧ anchor.active = false) :
    ServiceSound env w plugin p service where
  serve _ := serve
  named _ a anchor hfind _ := (found a anchor hfind).1
  reused a anchor hfind hactive := by
    rw [(found a anchor hfind).2] at hactive
    cases hactive

/-- The start over the older registry meets the condition: its one service has a serve function,
and the anchor it finds was cleaned. -/
theorem sampleSafStart_sound : EventSound olderRegistry (.start sampleSafStart) := by
  refine ⟨fun server hserver => ?_, fun _ => .inl rfl⟩
  cases hserver
  refine ⟨⟨fun plugin hplugin => ?_, fun _ => trivial⟩,
    fun _ => ⟨fun plugin hplugin p relocated hp hrelocated _ => ?_, fun _ => trivial⟩⟩
  · refine absurd (hplugin.symm.trans ?_) (Option.some_ne_none plugin)
    decide +kernel
  · have plugin_eq : some plugin = some (samplePlugin pluginFlagLpa [sampleService]) :=
      hplugin.symm.trans (by decide +kernel)
    cases plugin_eq
    have p_eq : some p = some 0 := hp.symm.trans (by decide +kernel)
    cases p_eq
    have relocated_eq : Relocation.install relocated =
        .install (samplePlugin pluginFlagLpa [sampleService]) :=
      hrelocated.symm.trans (by decide +kernel)
    cases relocated_eq
    refine ⟨ServiceSound.of_inactive rfl fun a anchor hfind => ?_, fun _ => trivial⟩
    have found := congrArg (Option.map fun x => (x.2.path.pluginName, x.2.active)) hfind
    have cleaned : some (anchor.path.pluginName, anchor.active) = some (['P'], false) :=
      found.symm.trans (by decide +kernel)
    exact Prod.mk.inj (Option.some.inj cleaned)

/-- Over the older registry, one service of its name is served soundly. -/
theorem routed_sound_over_older :
    RoutedSound (fun _ _ => true) (initServer sampleSafStart olderRegistry).1 sampleParm := by
  have meets : zisServer.Meets EventSound olderRegistry [.start sampleSafStart] :=
    ⟨sampleSafStart_sound, fun _ _ => trivial⟩
  exact routed_sound olderRegistry_linked meets (.here _ []) (by decide +kernel)
    (fun _ _ => true) sampleParm

end Zss.Zis
