import Zss.Zis.Dispatch

/-!
# The init and term callbacks of a run

A stop calls the term function of every service of every plugin on the server's list, whether the
service was initialized or not. `Paired` is what a run owes: a term is called only after the
service's init function was, with the anchor that one got, and once for each service a plugin has.

A plugin stays on the list when its init fails, and `installServices` leaves its loop where storage
runs out: the services that follow were never initialized, and keep the anchor field their module
gave them. `StartCovered` says which starts leave no term function among them.

## What is not established

The condition is enough, not exact. A callback is its name, its anchor and how it went, an abend
under recovery included; what else it does to its plugin is left out.
-/

namespace Zss.Zis

open Zss.Lib

/-! ## Runs -/

/-- The world, and whether a server is running: its start is over and its stop has not begun. -/
structure ServerRun where
  world : World
  running : Bool

/-- Runs of the server: a start over what is there, and a stop of a server that runs. -/
def serverRuns : Machine ServerRun ServerEvent where
  step s
    | .start env => some ⟨(initServer env s.world).1, (initServer env s.world).2 = .next⟩
    | .stop env => if s.running then some ⟨cleanupServer env s.world, false⟩ else none

/-! ## What a run owes -/

/-- The init function of a service was called with an anchor. -/
def InitCalled (calls : List Callback) (plugin : Plugin) (service : Service) (a : Addr) : Prop :=
  service.init.isSome = true ∧
    ∃ outcome, outcome ≠ .unprotected ∧ .serviceInitOutcome plugin service a outcome ∈ calls

def isServiceTerm (plugin : Plugin) (service : Service) : Callback → Bool
  | .serviceTerm p s _ => p = plugin ∧ s = service
  | _ => false

/-- The callbacks of a run, newest first: a term follows the init of its service, with its anchor,
and is called as often as the plugin has the service at most. -/
structure Paired (calls : List Callback) : Prop where
  initialized : ∀ later plugin service anchor earlier,
    calls = later ++ .serviceTerm plugin service anchor :: earlier →
      ∃ a, anchor = some a ∧ InitCalled earlier plugin service a
  once : ∀ plugin service,
    calls.countP (isServiceTerm plugin service) ≤ plugin.services.count service

/-! ## Starts that cover their services -/

/-- The loop over the services is left at this one: there is no anchor for it, or no entry. -/
def LeavesServices (env : ServiceEnv) (w : World) (plugin : Plugin) (p : Addr)
    (service : Service) : Prop :=
  CannotEstablish env w p service ∨
    (callServiceInit env.init service = rcZisOk ∧ env.mapStorage = false ∧
      ∀ a, ¬ w.Entry (obtainedPath w plugin p service) a)

/-- A service with a term function is initialized, and so is each one after it. -/
structure ServiceCovered (env : ServiceEnv) (w : World) (plugin : Plugin) (p : Addr)
    (service : Service) (rest : List Service) : Prop where
  called : service.term.isSome = true →
    service.init.isSome = true ∧ env.init ≠ .unprotected ∧ ¬ CannotEstablish env w p service
  rest : LeavesServices env w plugin p service → ∀ s ∈ rest, s.term = none

def ServicesCovered (env : Nat → ServiceEnv) (plugin : Plugin) (p : Addr) :
    Nat → List Service → World → Prop
  | _, [], _ => True
  | i, service :: rest, w =>
    ServiceCovered (env i) w plugin p service rest ∧
      ((installService (env i) w plugin p service).2.2 = .next →
        ServicesCovered env plugin p (i + 1) rest (installService (env i) w plugin p service).1)

/-- A plugin some service of which has a term function. -/
def HasTerm (plugin : Plugin) : Prop := ∃ service ∈ plugin.services, service.term.isSome = true

/-- A plugin with a term function is new to the list and its init succeeds, and its services are
covered. -/
def PluginCovered (devMode : Bool) (env : PluginEnv) (w : World) (plugin : Plugin) : Prop :=
  ∀ p relocated,
    (obtainPluginAnchor env.anchorStorage w plugin).2 = some p →
    (relocatePluginToLPAIfNeeded devMode env (obtainPluginAnchor env.anchorStorage w plugin).1
      plugin p).2 = .install relocated →
    (HasTerm relocated → relocated ∉ w.plugins.map (·.descriptor) ∧
      callPluginInit env.init relocated = rcZisOk) ∧
    (callPluginInit env.init relocated = rcZisOk →
      ServicesCovered env.services relocated p 0 relocated.services
        (initPlugin env
          (relocatePluginToLPAIfNeeded devMode env (obtainPluginAnchor env.anchorStorage w plugin).1
            plugin p).1 relocated p).1)

/-- Each plugin that one pass over the parm set comes to is covered. -/
def ParmsCovered (devMode : Bool) (dynlinkModuleName : Text) (dynamic : Bool) :
    List PluginParm → World → Prop
  | [], _ => True
  | parm :: rest, w =>
    (∀ plugin, pluginOfParm dynlinkModuleName dynamic w parm = some plugin →
        PluginCovered devMode parm.env w plugin) ∧
      ((visitPluginParm devMode dynlinkModuleName dynamic w parm).2 = .next →
        ParmsCovered devMode dynlinkModuleName dynamic rest
          (visitPluginParm devMode dynlinkModuleName dynamic w parm).1)

/-- Each plugin that a start comes to is covered. -/
def StartCovered (env : StartEnv) (w : World) : Prop :=
  ∀ anchor, initGlobalResources env w.serverAnchor = some anchor →
    ParmsCovered env.devMode env.dynlinkModuleName true env.parms (cleanRegistry env w anchor) ∧
      ((iteratePluginParms env.devMode env.dynlinkModuleName true env.parms
        (cleanRegistry env w anchor)).2 = .next →
        ParmsCovered env.devMode env.dynlinkModuleName false env.parms
          (iteratePluginParms env.devMode env.dynlinkModuleName true env.parms
            (cleanRegistry env w anchor)).1)

/-- The condition on an event; a stop needs none. -/
def EventCovered (s : ServerRun) : ServerEvent → Prop
  | .start env => StartCovered env s.world
  | .stop _ => True

/-! ## The callbacks of a start -/

/-- No term function was called. -/
def NoTerm (w : World) : Prop := ∀ plugin service anchor, .serviceTerm plugin service anchor ∉ w.calls

/-- Steps of an installation that leave the list of plugins alone and call no term function. -/
structure Grows (w w' : World) : Prop where
  plugins : w'.plugins = w.plugins
  calls : ∀ c ∈ w.calls, c ∈ w'.calls
  noTerm : NoTerm w → NoTerm w'

theorem Grows.refl (w : World) : Grows w w := ⟨rfl, fun _ h => h, fun h => h⟩

theorem Grows.trans {u v w : World} (h : Grows u v) (k : Grows v w) : Grows u w :=
  ⟨k.plugins.trans h.plugins, fun c hc => k.calls c (h.calls c hc), fun hu => k.noTerm (h.noTerm hu)⟩

variable {w w' : World} {plugin : Plugin} {p : Addr} {service : Service}

/-- A step that touches neither list. -/
theorem Grows.of_eq (plugins : w'.plugins = w.plugins) (calls : w'.calls = w.calls) : Grows w w' :=
  ⟨plugins, fun _ h => calls ▸ h, fun h plugin service anchor hin =>
    h plugin service anchor (calls ▸ hin)⟩

theorem Grows.called (w : World) {c : Callback}
    (hc : ∀ plugin service anchor, c ≠ .serviceTerm plugin service anchor) :
    Grows w (w.called c) where
  plugins := rfl
  calls _ h := List.mem_cons_of_mem _ h
  noTerm h plugin service anchor hin := by
    rcases List.mem_cons.mp hin with heq | hin
    · exact hc plugin service anchor heq.symm
    · exact h plugin service anchor hin

theorem ObtainedService.grows {storage : Bool} {r : World × Option (Addr × ServicePath)}
    (h : ObtainedService storage w plugin p service r) : Grows w r.1 := by
  have calls := h.frame.2.2.1
  cases h with
  | updated | replaced | discarded | created | refused => exact .of_eq rfl calls

theorem ActivatedService.grows {env : ServiceEnv} {a : Addr} {path : ServicePath}
    {r : World × Exit} (h : ActivatedService env w plugin service a path r) : Grows w r.1 := by
  have logged (status : Int) : Grows w (w.called (.serviceInit plugin service a status)) :=
    .called w fun _ _ _ h => by cases h
  cases h with
  | failed => exact logged _
  | noTable | noEntry => exact logged rcZisOk
  | activated => exact (logged rcZisOk).trans (.of_eq rfl rfl)

theorem installService_grows (env : ServiceEnv) (w : World) (plugin : Plugin) (p : Addr)
    (service : Service) : Grows w (installService env w plugin p service).1 := by
  have installed := installService_installed env w plugin p service
  generalize installService env w plugin p service = r at installed
  cases installed with
  | refused obtained => exact obtained.grows
  | obtained obtained activated =>
    exact obtained.grows.trans ((Grows.called _ fun _ _ _ h => by cases h).trans activated.grows)

theorem InitCalled.grows (h : Grows w w') {a : Addr}
    (called : InitCalled w.calls plugin service a) : InitCalled w'.calls plugin service a := by
  obtain ⟨hinit, outcome, hne, hin⟩ := called
  exact ⟨hinit, outcome, hne, h.calls _ hin⟩

/-- A service that no anchor is obtained for cannot be established. -/
theorem ObtainedService.cannotEstablish {env : ServiceEnv}
    (h : ObtainedService env.anchorStorage w plugin p service (w', none)) :
    CannotEstablish env w p service := by
  refine ⟨h.noStorage, fun a anchor hfind => ?_⟩
  cases h with
  | discarded hfind' hcompat =>
    rw [hfind, Option.some.injEq, Prod.mk.injEq] at hfind'
    exact hfind'.2 ▸ hcompat
  | refused hnone =>
    rw [hfind] at hnone
    cases hnone

/-- The path of the anchor that a service obtains. -/
theorem ObtainedService.path_eq {storage : Bool} {p a : Addr} {path : ServicePath}
    (h : ObtainedService storage w plugin p service (w', some (a, path))) :
    path = obtainedPath w plugin p service := by
  have created {anchor : ServiceAnchor}
      (hsome : zisCreateServiceAnchor storage plugin service = some anchor) :
      anchor.path = ⟨plugin.name, service.name⟩ := (zisCreateServiceAnchor_some hsome).2.1
  cases h with
  | updated hfind hcompat => simp [obtainedPath, hfind, hcompat]
  | replaced hfind hcompat hsome => simp [obtainedPath, hfind, hcompat, created hsome]
  | created hfind hsome => simp [obtainedPath, hfind, created hsome]

/-- **What a covered installation leaves of one service.** -/
theorem installService_covered {env : ServiceEnv} {rest : List Service}
    (covered : ServiceCovered env w plugin p service rest) :
    (service.term.isSome = true →
      ∃ a, (installService env w plugin p service).2.1 = some a ∧
        InitCalled (installService env w plugin p service).1.calls plugin service a) ∧
    (∀ rc, (installService env w plugin p service).2.2 = .error rc → ∀ s ∈ rest, s.term = none) := by
  have installed := installService_installed env w plugin p service
  generalize installService env w plugin p service = r at installed
  cases installed with
  | refused obtained =>
    refine ⟨fun hterm => absurd obtained.cannotEstablish (covered.called hterm).2.2, fun rc _ => ?_⟩
    exact covered.rest (.inl obtained.cannotEstablish)
  | @obtained w' a path r obtained activated =>
    refine ⟨fun hterm => ⟨a, rfl, ?_⟩, fun rc hexit => covered.rest (.inr ?_)⟩
    · obtain ⟨hinit, hprotected, -⟩ := covered.called hterm
      exact ⟨hinit, env.init, hprotected, activated.grows.calls _ List.mem_cons_self⟩
    · have hpath := obtained.path_eq
      have table := obtained.frame.2.1
      cases activated with
      | failed | noTable | activated => cases hexit
      | noEntry hok hstorage hnone =>
        refine ⟨hok, hstorage, fun b hb => hnone b ?_⟩
        exact (World.entry_congr table).mpr (hpath ▸ hb)

theorem installServices_grows (env : Nat → ServiceEnv) (plugin : Plugin) (p : Addr) (i : Nat)
    (services : List Service) (w : World) :
    Grows w (installServices env plugin p i services w).1 := by
  induction services generalizing i w with
  | nil => exact .refl w
  | cons service rest ih =>
    have grows := installService_grows (env i) w plugin p service
    unfold installServices
    split
    next heq =>
      rw [heq] at grows
      exact grows.trans (ih (i + 1) _)
    next heq => rwa [heq] at grows

/-- The loop over the services. -/
theorem installServices_covered {env : Nat → ServiceEnv} {services : List Service} {i : Nat}
    (covered : ServicesCovered env plugin p i services w)
    (hexit : (installServices env plugin p i services w).2.2 ≠ .abend) (s : Service)
    (b : Option Addr)
    (hin : (s, b) ∈ services.zip (installServices env plugin p i services w).2.1)
    (hterm : s.term.isSome = true) :
    ∃ a, b = some a ∧
      InitCalled (installServices env plugin p i services w).1.calls plugin s a := by
  induction services generalizing i w with
  | nil => cases hin
  | cons service rest ih =>
    obtain ⟨first, others⟩ := covered
    obtain ⟨hcalled, hleft⟩ := installService_covered first
    unfold installServices at hexit hin ⊢
    split at hexit
    next w' anchor heq =>
      rw [heq] at hcalled others
      simp only [heq] at hin ⊢
      rcases List.mem_cons.mp hin with heq' | hin
      · cases heq'
        obtain ⟨a, ha, called⟩ := hcalled hterm
        exact ⟨a, ha, called.grows (installServices_grows env plugin p (i + 1) rest w')⟩
      · exact ih (others rfl) hexit hin
    next w' anchor exit hne heq =>
      rw [heq] at hcalled hleft
      simp only [heq] at hin ⊢
      rcases List.mem_cons.mp hin with heq' | hin
      · cases heq'
        exact hcalled hterm
      · cases exit with
        | next => exact (hne rfl).elim
        | abend => exact absurd rfl hexit
        | error rc =>
          have hzip : (s, b) ∈ rest.zip (rest.map (·.anchor)) := hin
          rw [hleft rc rfl s (List.of_mem_zip hzip).1] at hterm
          cases hterm

/-! ## The plugins of a start -/

/-- What a stop can rely on: no term function was called yet, each service with one was initialized
with the anchor the server keeps for it, and its plugin is listed once. -/
structure Covered (w : World) : Prop where
  noTerm : NoTerm w
  initialized : ∀ plugin ∈ w.plugins, ∀ service anchor,
    (service, anchor) ∈ plugin.descriptor.services.zip plugin.serviceAnchors →
      service.term.isSome = true →
        ∃ a, anchor = some a ∧ InitCalled w.calls plugin.descriptor service a
  once : ∀ plugin, HasTerm plugin → (w.plugins.map (·.descriptor)).count plugin ≤ 1

theorem Covered.grows (h : Grows w w') (covered : Covered w) : Covered w' where
  noTerm := h.noTerm covered.noTerm
  initialized plugin hin service anchor hzip hterm := by
    obtain ⟨a, ha, called⟩ := covered.initialized plugin (h.plugins ▸ hin) service anchor hzip hterm
    exact ⟨a, ha, called.grows h⟩
  once plugin hterm := by
    rw [h.plugins]
    exact covered.once plugin hterm

theorem obtainPluginAnchor_grows (storage : Bool) (w : World) (plugin : Plugin) :
    Grows w (obtainPluginAnchor storage w plugin).1 := by
  unfold obtainPluginAnchor
  split
  next => exact .refl w
  next => split <;> exact .of_eq rfl rfl

theorem loadPluginToLPA_grows (env : PluginEnv) (lpaPresent : Bool) (w : World) (plugin : Plugin)
    (p : Addr) : Grows w (loadPluginToLPA env lpaPresent w plugin p).1 := by
  unfold loadPluginToLPA
  split
  next =>
    split
    next => exact .refl w
    next => cases lpaPresent <;> cases env.relocated <;> exact .of_eq rfl rfl
  next => exact .refl w

theorem relocatePluginToLPAIfNeeded_grows (devMode : Bool) (env : PluginEnv) (w : World)
    (plugin : Plugin) (p : Addr) :
    Grows w (relocatePluginToLPAIfNeeded devMode env w plugin p).1 := by
  unfold relocatePluginToLPAIfNeeded
  split
  next => exact .refl w
  next =>
    split
    next =>
      split
      next => exact .refl w
      next =>
        split
        next =>
          have removed : Grows w (w.updatePlugin p fun pa =>
              { pa with
                moduleInfo := 0
                flags := clearFlag pa.flags pluginAnchorFlagLpa }) := .of_eq rfl rfl
          exact removed.trans (loadPluginToLPA_grows env false _ plugin p)
        next => exact loadPluginToLPA_grows env true w plugin p
    next => exact loadPluginToLPA_grows env false w plugin p

/-- The plugin's init, up to the list it is put on. -/
theorem initPlugin_eq (env : PluginEnv) (w : World) (plugin : Plugin) (p : Addr) :
    (initPlugin env w plugin p).1.plugins =
        ⟨plugin, p, plugin.services.map (·.anchor)⟩ :: w.plugins ∧
      (initPlugin env w plugin p).1.calls =
        .pluginInit plugin (callPluginInit env.init plugin) :: w.calls :=
  ⟨rfl, rfl⟩

/-- A world with one plugin more at the head of its list is covered if that plugin is. -/
theorem Covered.cons (covered : Covered w) (head : InstalledPlugin)
    (hplugins : w'.plugins = head :: w.plugins) (hcalls : ∀ c ∈ w.calls, c ∈ w'.calls)
    (noTerm : NoTerm w')
    (hnew : HasTerm head.descriptor → head.descriptor ∉ w.plugins.map (·.descriptor))
    (hhead : ∀ service anchor,
      (service, anchor) ∈ head.descriptor.services.zip head.serviceAnchors →
        service.term.isSome = true →
          ∃ a, anchor = some a ∧ InitCalled w'.calls head.descriptor service a) : Covered w' where
  noTerm := noTerm
  initialized plugin hin service anchor hzip hterm := by
    rw [hplugins, List.mem_cons] at hin
    rcases hin with rfl | hin
    · exact hhead service anchor hzip hterm
    · obtain ⟨a, ha, hinit, outcome, hne, hcall⟩ :=
        covered.initialized plugin hin service anchor hzip hterm
      exact ⟨a, ha, hinit, outcome, hne, hcalls _ hcall⟩
  once plugin hterm := by
    rw [hplugins, List.map_cons, List.count_cons]
    split
    next heq =>
      have heq' : head.descriptor = plugin := beq_iff_eq.mp heq
      have hzero : (w.plugins.map (·.descriptor)).count plugin = 0 :=
        List.count_eq_zero.mpr (heq' ▸ hnew (heq' ▸ hterm))
      omega
    next => exact covered.once plugin hterm

/-- The rest of an installation calls no term function. -/
theorem installRelocatedPlugin_noTerm (env : PluginEnv) (plugin : Plugin) (p : Addr)
    (h : NoTerm w) : NoTerm (installRelocatedPlugin env w plugin p).1 := by
  have init : NoTerm (initPlugin env w plugin p).1 := by
    intro plugin' service anchor hin
    rw [(initPlugin_eq env w plugin p).2] at hin
    rcases List.mem_cons.mp hin with hin | hin
    · cases hin
    · exact h plugin' service anchor hin
  unfold installRelocatedPlugin
  dsimp only
  split
  next => exact init
  next =>
    have services := (installServices_grows env.services plugin p 0 plugin.services
      (initPlugin env w plugin p).1).noTerm init
    unfold setServiceAnchors
    split <;> exact services

/-- Installing a plugin calls no term function. -/
theorem installPlugin_noTerm (devMode : Bool) (env : PluginEnv) (plugin : Plugin) (h : NoTerm w) :
    NoTerm (installPlugin devMode env w plugin).1 := by
  have obtained := (obtainPluginAnchor_grows env.anchorStorage w plugin).noTerm h
  unfold installPlugin
  split
  next w₁ heq => rwa [heq] at obtained
  next w₁ p heq =>
    rw [heq] at obtained
    have relocated := (relocatePluginToLPAIfNeeded_grows devMode env w₁ plugin p).noTerm obtained
    split
    next heq₂ => rwa [heq₂] at relocated
    next heq₂ => rwa [heq₂] at relocated
    next w₂ plugin₂ heq₂ =>
      rw [heq₂] at relocated
      exact installRelocatedPlugin_noTerm env plugin₂ p relocated

/-- Filling in the anchor fields of the head of the list. -/
theorem setServiceAnchors_eq {head : InstalledPlugin} {rest : List InstalledPlugin}
    (h : w.plugins = head :: rest) (anchors : List (Option Addr)) :
    (setServiceAnchors w anchors).plugins = { head with serviceAnchors := anchors } :: rest ∧
      (setServiceAnchors w anchors).calls = w.calls := by
  unfold setServiceAnchors
  rw [h]
  exact ⟨rfl, rfl⟩

/-- The rest of an installation leaves a covered list, unless the server abends. -/
theorem installRelocatedPlugin_covered {env : PluginEnv} (covered : Covered w)
    (hnew : HasTerm plugin →
      plugin ∉ w.plugins.map (·.descriptor) ∧ callPluginInit env.init plugin = rcZisOk)
    (hservices : callPluginInit env.init plugin = rcZisOk →
      ServicesCovered env.services plugin p 0 plugin.services (initPlugin env w plugin p).1)
    (hexit : (installRelocatedPlugin env w plugin p).2 ≠ .abend) :
    Covered (installRelocatedPlugin env w plugin p).1 := by
  have noTerm := installRelocatedPlugin_noTerm env plugin p covered.noTerm
  obtain ⟨hplugins, hcalls⟩ := initPlugin_eq env w plugin p
  have hkeeps : ∀ c ∈ w.calls, c ∈ (initPlugin env w plugin p).1.calls := fun c hc => by
    rw [hcalls]
    exact List.mem_cons_of_mem _ hc
  unfold installRelocatedPlugin at hexit noTerm ⊢
  dsimp only at hexit noTerm ⊢
  by_cases hrc : (initPlugin env w plugin p).2 = rcZisOk
  · rw [if_neg (not_not_intro hrc)] at hexit noTerm ⊢
    have hloop := installServices_grows env.services plugin p 0 plugin.services
      (initPlugin env w plugin p).1
    have hdone : (installServices env.services plugin p 0 plugin.services
        (initPlugin env w plugin p).1).2.2 ≠ .abend := by
      intro habend
      rw [habend] at hexit
      exact hexit rfl
    obtain ⟨hset, hsetCalls⟩ := setServiceAnchors_eq (hloop.plugins.trans hplugins)
      (installServices env.services plugin p 0 plugin.services (initPlugin env w plugin p).1).2.1
    refine covered.cons _ hset (fun c hc => ?_) noTerm (fun h => (hnew h).1)
      fun service anchor hzip hterm => ?_
    · rw [hsetCalls]
      exact hloop.calls c (hkeeps c hc)
    · rw [hsetCalls]
      exact installServices_covered (hservices hrc) hdone service anchor hzip hterm
  · rw [if_pos hrc] at noTerm ⊢
    refine covered.cons _ hplugins hkeeps noTerm (fun h => (hnew h).1)
      fun service anchor hzip hterm => ?_
    exact absurd (hnew ⟨service, (List.of_mem_zip hzip).1, hterm⟩).2 hrc

/-- **A covered plugin leaves a covered list**, unless the server abends. -/
theorem installPlugin_covered {devMode : Bool} {env : PluginEnv} (covered : Covered w)
    (hplugin : PluginCovered devMode env w plugin)
    (hexit : (installPlugin devMode env w plugin).2 ≠ .abend) :
    Covered (installPlugin devMode env w plugin).1 := by
  have obtained := obtainPluginAnchor_grows env.anchorStorage w plugin
  unfold PluginCovered at hplugin
  unfold installPlugin at hexit ⊢
  split at hexit
  next w₁ heq =>
    rw [heq] at obtained
    exact covered.grows obtained
  next w₁ p heq =>
    rw [heq] at obtained hplugin
    have relocated := relocatePluginToLPAIfNeeded_grows devMode env w₁ plugin p
    specialize hplugin p
    split at hexit
    next w₂ rc heq₂ =>
      rw [heq₂] at relocated
      exact covered.grows (obtained.trans relocated)
    next => exact absurd rfl hexit
    next w₂ plugin₂ heq₂ =>
      rw [heq₂] at relocated hplugin
      obtain ⟨hnew, hservices⟩ := hplugin plugin₂ rfl rfl
      have grown := obtained.trans relocated
      refine installRelocatedPlugin_covered (covered.grows grown) (fun h => ?_) hservices hexit
      rw [grown.plugins]
      exact hnew h

/-- The visit of one parameter calls no term function, and leaves a covered list. -/
theorem visitPluginParm_covered {devMode : Bool} {dynlinkModuleName : Text} {dynamic : Bool}
    {w : World} {parm : PluginParm} :
    (NoTerm w → NoTerm (visitPluginParm devMode dynlinkModuleName dynamic w parm).1) ∧
      (Covered w →
        (∀ plugin, pluginOfParm dynlinkModuleName dynamic w parm = some plugin →
          PluginCovered devMode parm.env w plugin) →
        (visitPluginParm devMode dynlinkModuleName dynamic w parm).2 = .next →
          Covered (visitPluginParm devMode dynlinkModuleName dynamic w parm).1) := by
  unfold visitPluginParm
  split
  next => exact ⟨fun h => h, fun h _ _ => h⟩
  next plugin hplugin =>
    refine ⟨installPlugin_noTerm devMode parm.env plugin, fun covered hcovered hexit => ?_⟩
    apply installPlugin_covered covered (hcovered plugin hplugin)
    intro habend
    dsimp only at hexit
    rw [habend] at hexit
    cases hexit

/-- One pass over the parm set. -/
theorem iteratePluginParms_covered {devMode : Bool} {dynlinkModuleName : Text} {dynamic : Bool}
    {parms : List PluginParm} {w : World} :
    (NoTerm w → NoTerm (iteratePluginParms devMode dynlinkModuleName dynamic parms w).1) ∧
      (Covered w → ParmsCovered devMode dynlinkModuleName dynamic parms w →
        (iteratePluginParms devMode dynlinkModuleName dynamic parms w).2 = .next →
          Covered (iteratePluginParms devMode dynlinkModuleName dynamic parms w).1) := by
  induction parms generalizing w with
  | nil => exact ⟨fun h => h, fun h _ _ => h⟩
  | cons parm rest ih =>
    obtain ⟨hnoTerm, hcovered⟩ :=
      @visitPluginParm_covered devMode dynlinkModuleName dynamic w parm
    unfold iteratePluginParms ParmsCovered
    split
    next w' heq =>
      rw [heq] at hnoTerm hcovered ⊢
      refine ⟨fun h => ih.1 (hnoTerm h), fun covered meets hexit => ?_⟩
      exact ih.2 (hcovered covered meets.1 rfl) (meets.2 rfl) hexit
    next w' exit hne heq =>
      rw [heq] at hnoTerm
      exact ⟨hnoTerm, fun _ _ hexit => (hne hexit).elim⟩

/-- Cleaning the registry touches neither the list of plugins nor the callbacks. -/
theorem cleanPlugins_lists (devMode : Bool) (lpaDelete : Addr → Int) (w : World) :
    (cleanPlugins devMode lpaDelete w).plugins = w.plugins ∧
      (cleanPlugins devMode lpaDelete w).calls = w.calls := by
  have walk (ps : List Addr) (w : World) :
      (ps.foldl (fun w p => removePluginFromLPAIfNeeded devMode (lpaDelete p)
        (cleanPluginAnchor w p) p) w).plugins = w.plugins ∧
      (ps.foldl (fun w p => removePluginFromLPAIfNeeded devMode (lpaDelete p)
        (cleanPluginAnchor w p) p) w).calls = w.calls := by
    induction ps generalizing w with
    | nil => exact ⟨rfl, rfl⟩
    | cons p ps ih =>
      rw [List.foldl_cons]
      obtain ⟨hplugins, hcalls⟩ := ih (removePluginFromLPAIfNeeded devMode (lpaDelete p)
        (cleanPluginAnchor w p) p)
      rw [hplugins, hcalls]
      unfold removePluginFromLPAIfNeeded
      split
      next => exact ⟨rfl, rfl⟩
      next => split <;> exact ⟨rfl, rfl⟩
  exact walk _ w

/-- **A start calls no term function, and a covered start leaves a covered list.** -/
theorem initServer_covered (env : StartEnv) (w : World) :
    NoTerm (initServer env w).1 ∧
      (StartCovered env w → (initServer env w).2 = .next → Covered (initServer env w).1) := by
  unfold initServer StartCovered
  split
  next => exact ⟨fun _ _ _ h => (by cases h), fun _ h => (by cases h)⟩
  next anchor hanchor =>
    obtain ⟨hplugins, hcalls⟩ := cleanPlugins_lists env.devMode env.lpaDelete
      { w.newRun with serverAnchor := some anchor }
    have clean : Covered (cleanRegistry env w anchor) :=
      { noTerm := fun plugin service a h => by
          rw [cleanRegistry, hcalls] at h
          cases h
        initialized := fun plugin h => by
          rw [cleanRegistry, hplugins] at h
          cases h
        once := fun plugin _ => by
          rw [cleanRegistry, hplugins]
          exact Nat.zero_le 1 }
    obtain ⟨hnoTerm, hcovered⟩ := @iteratePluginParms_covered env.devMode env.dynlinkModuleName
      true env.parms (cleanRegistry env w anchor)
    unfold deployPlugins
    split
    next w' heq =>
      rw [heq] at hnoTerm hcovered
      obtain ⟨hnoTerm', hcovered'⟩ := @iteratePluginParms_covered env.devMode
        env.dynlinkModuleName false env.parms w'
      refine ⟨hnoTerm' (hnoTerm clean.noTerm), fun meets hexit => ?_⟩
      obtain ⟨first, second⟩ := meets anchor hanchor
      rw [heq] at second
      exact hcovered' (hcovered clean first rfl) (second rfl) hexit
    next w' exit hne heq =>
      rw [heq] at hnoTerm
      exact ⟨hnoTerm clean.noTerm, fun _ hexit => (hne hexit).elim⟩

/-! ## The callbacks of a stop -/

/-- The term callback of a service, if it is made. -/
def termOf (env : StopEnv) (plugin : Plugin) (s : Service × Option Addr) : Option Callback :=
  if env.serviceRecovery plugin s.1 && s.1.term.isSome then some (.serviceTerm plugin s.1 s.2)
  else none

/-- The term callbacks of one plugin, in their order. -/
def termsOf (env : StopEnv) (plugin : InstalledPlugin) : List Callback :=
  (plugin.descriptor.services.zip plugin.serviceAnchors).filterMap (termOf env plugin.descriptor) ++
  if env.pluginRecovery plugin.descriptor && plugin.descriptor.term.isSome then
    [.pluginTerm plugin.descriptor]
  else []

/-- What a stop calls is listed after what was called. -/
theorem terminatePlugins_calls (env : StopEnv) (w : World) :
    (terminatePlugins env w).calls = (w.plugins.flatMap (termsOf env)).reverse ++ w.calls := by
  have services (plugin : Plugin) (ss : List (Service × Option Addr)) (w : World) :
      (ss.foldl (fun w s => callServiceTerm env w plugin s.1 s.2) w).calls =
        (ss.filterMap (termOf env plugin)).reverse ++ w.calls := by
    induction ss generalizing w with
    | nil => rfl
    | cons s ss ih =>
      rw [List.foldl_cons, ih, callServiceTerm, List.filterMap_cons, termOf]
      by_cases hterm : (env.serviceRecovery plugin s.1 && s.1.term.isSome) = true
      · rw [if_pos hterm, if_pos hterm, List.reverse_cons, List.append_assoc]
        rfl
      · rw [if_neg hterm, if_neg hterm]
  have all (ps : List InstalledPlugin) (w : World) :
      (ps.foldl (terminatePlugin env) w).calls =
        (ps.flatMap (termsOf env)).reverse ++ w.calls := by
    induction ps generalizing w with
    | nil => rfl
    | cons p ps ih =>
      rw [List.foldl_cons, ih, terminatePlugin, callPluginTerm]
      split
      next hterm => simp [termsOf, hterm, World.called, services]
      next hterm => simp [termsOf, hterm, services]
  exact all w.plugins w

theorem mem_termsOf {env : StopEnv} {P : InstalledPlugin} {anchor : Option Addr}
    (h : .serviceTerm plugin service anchor ∈ termsOf env P) :
    P.descriptor = plugin ∧ (service, anchor) ∈ P.descriptor.services.zip P.serviceAnchors ∧
      service.term.isSome = true := by
  unfold termsOf at h
  rcases List.mem_append.mp h with h | h
  · obtain ⟨s, hs, heq⟩ := List.mem_filterMap.mp h
    unfold termOf at heq
    split at heq
    next hterm =>
      cases heq
      exact ⟨rfl, hs, (Bool.and_eq_true_iff.mp hterm).2⟩
    next => cases heq
  · split at h
    next => cases List.mem_singleton.mp h
    next => cases h

/-- The list of anchors does not make a service occur more often. -/
theorem count_zip_le {α β : Type} [BEq α] (xs : List α) (ys : List β) (x : α) :
    ((xs.zip ys).map Prod.fst).count x ≤ xs.count x := by
  induction xs generalizing ys with
  | nil => exact Nat.le_refl _
  | cons a xs ih =>
    cases ys with
    | nil => exact Nat.zero_le _
    | cons b ys =>
      rw [List.zip_cons_cons, List.map_cons, List.count_cons, List.count_cons]
      exact Nat.add_le_add_right (ih ys) _

theorem countP_isServiceTerm_eq_zero {calls : List Callback}
    (h : ∀ anchor, .serviceTerm plugin service anchor ∉ calls) :
    calls.countP (isServiceTerm plugin service) = 0 := by
  apply List.countP_eq_zero.mpr
  intro c hc hterm
  cases c with
  | serviceTerm p s anchor =>
    obtain ⟨rfl, rfl⟩ := of_decide_eq_true hterm
    exact h anchor hc
  | pluginInit | serviceInitOutcome | serviceInit | pluginTerm => cases hterm

/-- A plugin's terms call a service as often as the plugin has it, at most. -/
theorem countP_termsOf_le (env : StopEnv) (P : InstalledPlugin) (plugin : Plugin)
    (service : Service) :
    (termsOf env P).countP (isServiceTerm plugin service) ≤
      if P.descriptor = plugin then plugin.services.count service else 0 := by
  split
  next heq =>
    subst heq
    have hlast : (if env.pluginRecovery P.descriptor && P.descriptor.term.isSome then
        [Callback.pluginTerm P.descriptor] else []).countP
          (isServiceTerm P.descriptor service) = 0 := by
      split <;> rfl
    rw [termsOf, List.countP_append, hlast, Nat.add_zero, List.countP_filterMap]
    refine Nat.le_trans ?_ (count_zip_le _ P.serviceAnchors service)
    rw [List.count, List.countP_map]
    apply List.countP_mono_left
    rintro ⟨s, anchor⟩ - h
    rw [termOf] at h
    split at h
    next =>
      have hs : s = service := (of_decide_eq_true h).2
      exact beq_iff_eq.mpr hs
    next => cases h
  next hne =>
    exact Nat.le_of_eq (countP_isServiceTerm_eq_zero fun anchor hin => hne (mem_termsOf hin).1)

theorem countP_flatMap_termsOf_le (env : StopEnv) (ps : List InstalledPlugin) (plugin : Plugin)
    (service : Service) :
    (ps.flatMap (termsOf env)).countP (isServiceTerm plugin service) ≤
      (ps.map (·.descriptor)).count plugin * plugin.services.count service := by
  induction ps with
  | nil => exact Nat.zero_le _
  | cons p ps ih =>
    have head := countP_termsOf_le env p plugin service
    rw [List.flatMap_cons, List.countP_append, List.map_cons, List.count_cons, Nat.add_mul]
    by_cases heq : p.descriptor = plugin
    · rw [if_pos heq] at head
      rw [if_pos (beq_iff_eq.mpr heq), Nat.one_mul]
      omega
    · rw [if_neg heq] at head
      rw [if_neg (fun h => heq (beq_iff_eq.mp h)), Nat.zero_mul]
      omega

/-- A run without terms is paired. -/
theorem paired_of_noTerm (h : NoTerm w) : Paired w.calls where
  initialized later plugin service anchor earlier heq := by
    refine absurd ?_ (h plugin service anchor)
    rw [heq]
    exact List.mem_append_right _ List.mem_cons_self
  once plugin service := by
    rw [countP_isServiceTerm_eq_zero (h plugin service)]
    exact Nat.zero_le _

/-- **A stop over a covered list pairs its terms.** -/
theorem cleanupServer_paired (covered : Covered w) (env : StopEnv) :
    Paired (cleanupServer env w).calls := by
  have hcalls : (cleanupServer env w).calls =
      (w.plugins.flatMap (termsOf env)).reverse ++ w.calls := by
    rw [cleanupServer, (cleanPlugins_lists env.devMode env.lpaDelete _).2, terminatePlugins_calls]
  rw [hcalls]
  constructor
  case initialized =>
    intro later plugin service anchor earlier heq
    -- the term is one of the stop's, so that all of the start's callbacks came before it
    have hbase : ∃ between, earlier = between ++ w.calls ∧
        .serviceTerm plugin service anchor ∈ w.plugins.flatMap (termsOf env) := by
      rcases List.append_eq_append_iff.mp heq with ⟨middle, hlater, hmiddle⟩ | ⟨middle, hterms, htail⟩
      · refine absurd ?_ (covered.noTerm plugin service anchor)
        rw [hmiddle]
        exact List.mem_append_right _ List.mem_cons_self
      · cases middle with
        | nil =>
          refine absurd ?_ (covered.noTerm plugin service anchor)
          rw [List.nil_append] at htail
          rw [← htail]
          exact List.mem_cons_self
        | cons c middle =>
          rw [List.cons_append] at htail
          obtain ⟨rfl, hrest⟩ := List.cons.inj htail
          refine ⟨middle, hrest, List.mem_reverse.mp ?_⟩
          rw [hterms]
          exact List.mem_append_right _ List.mem_cons_self
    obtain ⟨between, hearlier, hin⟩ := hbase
    obtain ⟨P, hP, hterm⟩ := List.mem_flatMap.mp hin
    obtain ⟨rfl, hzip, hsome⟩ := mem_termsOf hterm
    obtain ⟨a, ha, hinit, outcome, hne, hcall⟩ := covered.initialized P hP service anchor hzip hsome
    refine ⟨a, ha, hinit, outcome, hne, ?_⟩
    rw [hearlier]
    exact List.mem_append_right _ hcall
  case once =>
    intro plugin service
    rw [List.countP_append, List.countP_reverse,
      countP_isServiceTerm_eq_zero (covered.noTerm plugin service), Nat.add_zero]
    by_cases hterm : HasTerm plugin
    · calc (w.plugins.flatMap (termsOf env)).countP (isServiceTerm plugin service)
        _ ≤ (w.plugins.map (·.descriptor)).count plugin * plugin.services.count service :=
          countP_flatMap_termsOf_le env w.plugins plugin service
        _ ≤ 1 * plugin.services.count service :=
          Nat.mul_le_mul_right _ (covered.once plugin hterm)
        _ = plugin.services.count service := Nat.one_mul _
    · have hnone : (w.plugins.flatMap (termsOf env)).countP (isServiceTerm plugin service) = 0 := by
        apply countP_isServiceTerm_eq_zero
        intro anchor hin
        obtain ⟨P, -, hin⟩ := List.mem_flatMap.mp hin
        obtain ⟨rfl, hzip, hsome⟩ := mem_termsOf hin
        exact hterm ⟨service, (List.of_mem_zip hzip).1, hsome⟩
      rw [hnone]
      exact Nat.zero_le _

/-! ## Every run -/

/-- What holds on the way: no term function was called while a server runs or starts, the list of a
running server is covered, and the callbacks are paired. -/
structure RunCovered (s : ServerRun) : Prop where
  covered : s.running = true → Covered s.world
  paired : Paired s.world.calls

/-- **The step lemma.** -/
theorem runCovered_step {s t : ServerRun} {e : ServerEvent} (h : RunCovered s)
    (covered : EventCovered s e) (hstep : serverRuns.step s e = some t) : RunCovered t := by
  cases e with
  | start env =>
    cases hstep
    obtain ⟨hnoTerm, hcovered⟩ := initServer_covered env s.world
    exact ⟨fun hrunning => hcovered covered (of_decide_eq_true hrunning), paired_of_noTerm hnoTerm⟩
  | stop env =>
    simp only [serverRuns] at hstep
    split at hstep
    next hrunning =>
      cases hstep
      exact ⟨fun h => (by cases h), cleanupServer_paired (h.covered hrunning) env⟩
    next => cases hstep

/-- **Init and term are paired.** Over any registry, in every run whose starts cover their services,
in every state on the way: a term function was called only after the service's init function, with
the anchor that one got, and at most once. -/
theorem visits_paired {w₀ : World} {es : List ServerEvent} {s : ServerRun}
    (meets : serverRuns.Meets EventCovered ⟨w₀.newRun, false⟩ es)
    (visits : serverRuns.Visits ⟨w₀.newRun, false⟩ es s) : Paired s.world.calls := by
  have start : RunCovered ⟨w₀.newRun, false⟩ :=
    ⟨fun h => (by cases h), paired_of_noTerm fun _ _ _ h => (by cases h)⟩
  exact (serverRuns.visits_keeps (fun _ _ _ h hc hstep => runCovered_step h hc hstep) start meets
    visits).paired

/-- A service with an init and a term function. -/
def sampleTermService : Service := { sampleService with init := some 2, term := some 3 }

def sampleTermPlugin : Plugin := samplePlugin 0#32 [sampleTermService]

def sampleStop : StopEnv := ⟨false, fun _ => 0, fun _ _ => true, fun _ => true⟩

/-- A start that installs one plugin whose init ends as given. -/
def sampleInitStart (init : CallbackOutcome) : StartEnv :=
  { sampleStart sampleTermPlugin fun _ => .returned 0 with
    parms := (sampleStart sampleTermPlugin fun _ => .returned 0).parms.map fun parm =>
      { parm with env := { parm.env with init := init } } }

/-- The plugin has no init function, and its one service gets an anchor and its init: the start
covers it. -/
theorem sampleInitStart_covered : StartCovered (sampleInitStart (.returned 0)) World.ipl := by
  intro anchor hanchor
  cases hanchor
  constructor
  · refine ⟨fun plugin hplugin => ?_, fun _ => trivial⟩
    cases hplugin
  · intro _
    refine ⟨fun plugin hplugin => ?_, fun _ => trivial⟩
    cases hplugin
    intro p relocated hp hrelocated
    cases hp
    cases hrelocated
    refine ⟨fun _ => ⟨fun h => (by cases h), rfl⟩, fun _ => ⟨?_, fun _ => trivial⟩⟩
    exact ⟨fun _ => ⟨rfl, fun h => (by cases h), fun h => (by cases h.1)⟩,
      fun _ s h => (by cases h)⟩

theorem visits_paired_sample :
    Paired (cleanupServer sampleStop
      (initServer (sampleInitStart (.returned 0)) World.ipl.newRun).1).calls := by
  have hrunning : (initServer (sampleInitStart (.returned 0)) World.ipl.newRun).2 = .next := by
    decide +kernel
  have hstart : serverRuns.step ⟨World.ipl.newRun, false⟩ (.start (sampleInitStart (.returned 0))) =
      some ⟨(initServer (sampleInitStart (.returned 0)) World.ipl.newRun).1, true⟩ := by
    simp only [serverRuns, hrunning, decide_true]
  exact @visits_paired World.ipl [.start (sampleInitStart (.returned 0)), .stop sampleStop] _
    ⟨sampleInitStart_covered, fun _ _ => ⟨trivial, fun _ _ => trivial⟩⟩
    (.next hstart (.next rfl (.here _ _)))

/-- The init of a plugin fails, and the stop calls the term function of its service, without an
init and with no anchor. -/
theorem failed_plugin_terminates_services :
    ∃ calls, (serverRuns.run ⟨World.ipl.newRun, false⟩
        [.start (sampleInitStart .recovered), .stop sampleStop]).map (·.world.calls) = some calls ∧
      ¬ Paired calls := by
  refine ⟨[.serviceTerm sampleTermPlugin sampleTermService none,
    .pluginInit sampleTermPlugin rcZisError], by decide +kernel, fun h => ?_⟩
  obtain ⟨a, ha, -⟩ := h.initialized [] sampleTermPlugin sampleTermService none _ rfl
  cases ha

end Zss.Zis
