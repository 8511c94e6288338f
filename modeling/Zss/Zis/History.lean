import Zss.Lib.Machine
import Zss.Zis.Registry

/-!
# Invariants along a history of the registry

What an invariant of the registry owes, and what it gets for it. A `RunInvariant` survives every
quiet operation and every installation of one service that meets a condition; it then survives a
whole start each of whose service installations meets the condition (`RunInvariant.initServer`).
The condition is read in the world the installation meets, before it: `ServicesMeet`, `PluginMeets`,
`ParmsMeet` and `StartMeets` walk the loops of a start to it.

A start and a stop clean the registry first or last. Over a linked registry that leaves the router
no active anchor at all (`cleanPlugins_inactive`), which is where every run begins.
-/

namespace Zss.Zis

open Zss.Lib

/-! ## Conditions on a start -/

/-- A condition on the installation of one service, read before it. -/
abbrev ServiceCondition := ServiceEnv → World → Plugin → Addr → Service → Prop

/-- Each service that `installServices` comes to meets the condition. -/
def ServicesMeet (C : ServiceCondition) (env : Nat → ServiceEnv) (plugin : Plugin) (p : Addr) :
    Nat → List Service → World → Prop
  | _, [], _ => True
  | i, service :: rest, w =>
    C (env i) w plugin p service ∧
      ((installService (env i) w plugin p service).2.2 = .next →
        ServicesMeet C env plugin p (i + 1) rest (installService (env i) w plugin p service).1)

/-- Each service that `installPlugin` comes to meets the condition. -/
def PluginMeets (C : ServiceCondition) (devMode : Bool) (env : PluginEnv) (w : World)
    (plugin : Plugin) : Prop :=
  ∀ p relocated,
    (obtainPluginAnchor env.anchorStorage w plugin).2 = some p →
    (relocatePluginToLPAIfNeeded devMode env (obtainPluginAnchor env.anchorStorage w plugin).1
      plugin p).2 = .install relocated →
    callPluginInit env.init relocated = rcZisOk →
    ServicesMeet C env.services relocated p 0 relocated.services
      (initPlugin env
        (relocatePluginToLPAIfNeeded devMode env (obtainPluginAnchor env.anchorStorage w plugin).1
          plugin p).1 relocated p).1

/-- Each service that `visitPluginParm` comes to meets the condition. -/
def ParmMeets (C : ServiceCondition) (devMode : Bool) (dynlinkModuleName : Text) (dynamic : Bool)
    (w : World) (parm : PluginParm) : Prop :=
  ∀ plugin, pluginOfParm dynlinkModuleName dynamic w parm = some plugin →
    PluginMeets C devMode parm.env w plugin

/-- Each service that one pass over the parm set comes to meets the condition. -/
def ParmsMeet (C : ServiceCondition) (devMode : Bool) (dynlinkModuleName : Text)
    (dynamic : Bool) : List PluginParm → World → Prop
  | [], _ => True
  | parm :: rest, w =>
    ParmMeets C devMode dynlinkModuleName dynamic w parm ∧
      ((visitPluginParm devMode dynlinkModuleName dynamic w parm).2 = .next →
        ParmsMeet C devMode dynlinkModuleName dynamic rest
          (visitPluginParm devMode dynlinkModuleName dynamic w parm).1)

/-- Each service that a start comes to meets the condition. -/
def StartMeets (C : ServiceCondition) (env : StartEnv) (w : World) : Prop :=
  ∀ anchor, initGlobalResources env w.serverAnchor = some anchor →
    ParmsMeet C env.devMode env.dynlinkModuleName true env.parms (cleanRegistry env w anchor) ∧
      ((iteratePluginParms env.devMode env.dynlinkModuleName true env.parms
        (cleanRegistry env w anchor)).2 = .next →
        ParmsMeet C env.devMode env.dynlinkModuleName false env.parms
          (iteratePluginParms env.devMode env.dynlinkModuleName true env.parms
            (cleanRegistry env w anchor)).1)

section Unconditional

variable {C : ServiceCondition} (all : ∀ env w plugin p service, C env w plugin p service)

include all

theorem servicesMeet_of_all (env : Nat → ServiceEnv) (plugin : Plugin) (p : Addr)
    (services : List Service) (i : Nat) (w : World) :
    ServicesMeet C env plugin p i services w := by
  induction services generalizing i w with
  | nil => trivial
  | cons service rest ih => exact ⟨all _ _ _ _ _, fun _ => ih _ _⟩

theorem parmsMeet_of_all (devMode : Bool) (dynlinkModuleName : Text) (dynamic : Bool)
    (parms : List PluginParm) (w : World) :
    ParmsMeet C devMode dynlinkModuleName dynamic parms w := by
  induction parms generalizing w with
  | nil => trivial
  | cons parm rest ih =>
    exact ⟨fun _ _ _ _ _ _ _ => servicesMeet_of_all all _ _ _ _ _ _, fun _ => ih _⟩

/-- A condition every installation meets is met by every start. -/
theorem startMeets_of_all (env : StartEnv) (w : World) : StartMeets C env w := fun _ _ =>
  ⟨parmsMeet_of_all all _ _ _ _ _, fun _ => parmsMeet_of_all all _ _ _ _ _⟩

end Unconditional

/-! ## Invariants of a run of the server -/

/-- What survives the quiet operations of a start and the conditioned installations of services. -/
structure RunInvariant (C : ServiceCondition) (I : World → Prop) : Prop where
  quiet : ∀ {w w' : World}, World.Quiet w w' → I w → I w'
  install : ∀ {env : ServiceEnv} {w : World} {plugin : Plugin} {p : Addr} {service : Service},
    C env w plugin p service → w.Installing plugin p → service ∈ plugin.services → I w →
      I (installService env w plugin p service).1

variable {w : World} {env : StartEnv}

namespace RunInvariant

variable {C : ServiceCondition} {I : World → Prop}

/-- The loop over the services. -/
theorem installServices (inv : RunInvariant C I) {env : Nat → ServiceEnv} {plugin : Plugin}
    {p : Addr} {services : List Service} (sub : ∀ s ∈ services, s ∈ plugin.services) {i : Nat}
    (meets : ServicesMeet C env plugin p i services w) (installing : w.Installing plugin p)
    (h : I w) :
    I (installServices env plugin p i services w).1 ∧
      World.Keeps w (Zis.installServices env plugin p i services w).1 := by
  induction services generalizing i w with
  | nil => exact ⟨h, .refl w⟩
  | cons service rest ih =>
    have stepKeeps := installService_keeps (env i) w plugin p service
    have stepHolds := inv.install meets.1 installing (sub service List.mem_cons_self) h
    unfold Zis.installServices
    split
    · next w' anchor heq =>
      have next := meets.2 (by rw [heq])
      rw [heq] at stepKeeps stepHolds next
      have tail := ih (fun s hs => sub s (List.mem_cons_of_mem _ hs)) next
        (installing.of_keeps stepKeeps) stepHolds
      exact ⟨tail.1, stepKeeps.trans tail.2⟩
    · next w' anchor exit _ heq =>
      rw [heq] at stepKeeps stepHolds
      exact ⟨stepHolds, stepKeeps⟩

/-- The installation of a plugin. -/
theorem installPlugin (inv : RunInvariant C I) {devMode : Bool} {env : PluginEnv}
    {plugin : Plugin} (meets : PluginMeets C devMode env w plugin)
    (server : w.serverAnchor.isSome = true) (h : I w) :
    I (installPlugin devMode env w plugin).1 ∧
      World.Keeps w (Zis.installPlugin devMode env w plugin).1 := by
  have obtained := obtainPluginAnchor_spec env.anchorStorage w plugin
  unfold PluginMeets at meets
  unfold Zis.installPlugin
  split
  · next w₁ heq =>
    rw [heq] at obtained
    exact ⟨inv.quiet obtained.1 h, obtained.1.toKeeps⟩
  next w₁ p heq =>
  rw [heq] at obtained meets
  have relocated := relocatePluginToLPAIfNeeded_quiet devMode env w₁ plugin p
  have quiet := obtained.1.trans relocated
  have anchored := relocated.anchored p (obtained.2 p rfl server)
  specialize meets p
  split
  · next w₂ rc heq₂ =>
    rw [heq₂] at quiet
    exact ⟨inv.quiet quiet h, quiet.toKeeps⟩
  · next w₂ heq₂ =>
    rw [heq₂] at quiet
    exact ⟨inv.quiet quiet h, quiet.toKeeps⟩
  next w₂ plugin₂ heq₂ =>
  rw [heq₂] at quiet anchored meets
  have init := initPlugin_spec env w₂ plugin₂ p
  have quiet₃ := quiet.trans init.1
  unfold installRelocatedPlugin
  simp only []
  split
  · exact ⟨inv.quiet quiet₃ h, quiet₃.toKeeps⟩
  · next hrc =>
    have hok : (initPlugin env w₂ plugin₂ p).2 = rcZisOk := not_not.mp hrc
    have services := inv.installServices (fun _ hs => hs)
      (meets plugin₂ rfl rfl hok) (init.2 hok anchored) (inv.quiet quiet₃ h)
    have filled := setServiceAnchors_quiet
      (Zis.installServices env.services plugin₂ p 0 plugin₂.services
        (initPlugin env w₂ plugin₂ p).1).1
      (Zis.installServices env.services plugin₂ p 0 plugin₂.services
        (initPlugin env w₂ plugin₂ p).1).2.1
    exact ⟨inv.quiet filled services.1, quiet₃.toKeeps.trans (services.2.trans filled.toKeeps)⟩

/-- The visit of one parameter. -/
theorem visitPluginParm (inv : RunInvariant C I) {devMode : Bool} {dynlinkModuleName : Text}
    {dynamic : Bool} {parm : PluginParm}
    (meets : ParmMeets C devMode dynlinkModuleName dynamic w parm)
    (server : w.serverAnchor.isSome = true) (h : I w) :
    I (visitPluginParm devMode dynlinkModuleName dynamic w parm).1 ∧
      World.Keeps w (Zis.visitPluginParm devMode dynlinkModuleName dynamic w parm).1 := by
  unfold Zis.visitPluginParm
  split
  · exact ⟨h, .refl w⟩
  · next plugin hplugin => exact inv.installPlugin (meets plugin hplugin) server h

/-- One pass over the parm set. -/
theorem iteratePluginParms (inv : RunInvariant C I) {devMode : Bool} {dynlinkModuleName : Text}
    {dynamic : Bool} {parms : List PluginParm}
    (meets : ParmsMeet C devMode dynlinkModuleName dynamic parms w)
    (server : w.serverAnchor.isSome = true) (h : I w) :
    I (iteratePluginParms devMode dynlinkModuleName dynamic parms w).1 ∧
      World.Keeps w (Zis.iteratePluginParms devMode dynlinkModuleName dynamic parms w).1 := by
  induction parms generalizing w with
  | nil => exact ⟨h, .refl w⟩
  | cons parm rest ih =>
    have visited := inv.visitPluginParm meets.1 server h
    unfold Zis.iteratePluginParms
    split
    · next w' heq =>
      have next := meets.2 (by rw [heq])
      rw [heq] at visited next
      have tail := ih next (visited.2.server server) visited.1
      exact ⟨tail.1, visited.2.trans tail.2⟩
    · next w' exit _ heq =>
      rw [heq] at visited
      exact visited

/-- **The invariant rule for a start.** What holds of the cleaned registry holds when the start is
over. -/
theorem initServer (inv : RunInvariant C I) {anchor : ServerAnchor}
    (hanchor : initGlobalResources env w.serverAnchor = some anchor) (meets : StartMeets C env w)
    (server : (cleanRegistry env w anchor).serverAnchor.isSome = true)
    (h : I (cleanRegistry env w anchor)) :
    I (initServer env w).1 ∧ World.Keeps (cleanRegistry env w anchor) (Zis.initServer env w).1 := by
  obtain ⟨first, second⟩ := meets anchor hanchor
  have pass := inv.iteratePluginParms first server h
  unfold Zis.initServer
  simp only [hanchor, deployPlugins]
  split
  · next w' heq =>
    have meets' := second (by rw [heq])
    rw [heq] at pass meets'
    have pass' := inv.iteratePluginParms meets' (pass.2.server server) pass.1
    exact ⟨pass'.1, pass.2.trans pass'.2⟩
  · next w' exit _ heq =>
    rw [heq] at pass
    exact pass

end RunInvariant

/-! ## Cleaning -/

/-- The router is left no active anchor. -/
def World.Inactive (w : World) : Prop :=
  ∀ path a anchor, w.Entry path a → w.serviceAnchors.read a = some anchor → anchor.active = false

theorem deactivateServiceAnchor_active (anchor : ServiceAnchor) :
    (deactivateServiceAnchor anchor).active = false :=
  hasFlag_clearFlag_self anchor.state serviceAnchorStateActive

theorem deactivateServiceAnchor_idem (anchor : ServiceAnchor) :
    deactivateServiceAnchor (deactivateServiceAnchor anchor) = deactivateServiceAnchor anchor := by
  simp only [deactivateServiceAnchor, clearFlag_idem]

/-- The service table is read off the server anchor. -/
theorem World.serviceTable_congr {w w' : World} (h : w'.serverAnchor = w.serverAnchor) :
    w'.serviceTable = w.serviceTable := by
  rw [serviceTable, h, serviceTable]

/-- The chain of one plugin anchor, cleaned. -/
theorem cleanPluginAnchor_spec (w : World) (p : Addr) :
    World.Keeps w (cleanPluginAnchor w p) ∧
      (cleanPluginAnchor w p).serverAnchor = w.serverAnchor ∧
      (∀ a ∈ w.serviceChain p, ∀ x, (cleanPluginAnchor w p).serviceAnchors.read a = some x →
        x.active = false) ∧
      (∀ a x, (cleanPluginAnchor w p).serviceAnchors.read a = some x →
        w.serviceAnchors.read a = some x ∨ x.active = false) := by
  have read : ∀ a, (cleanPluginAnchor w p).serviceAnchors.read a =
      if a ∈ w.serviceChain p then (w.serviceAnchors.read a).map deactivateServiceAnchor
      else w.serviceAnchors.read a := by
    intro a
    split
    · next hin => exact Heap.read_updateAll_of_mem deactivateServiceAnchor_idem hin _
    · next hout => exact Heap.read_updateAll_of_not_mem _ hout _
  refine ⟨⟨fun h => h, fun _ h => h, fun _ h => h, fun a x hx => ?_, fun _ h => h, fun _ h => h⟩,
    rfl, fun a ha x hx => ?_, fun a x hx => ?_⟩
  · rw [read]
    split
    · exact ⟨deactivateServiceAnchor x, by rw [hx, Option.map_some], rfl⟩
    · exact ⟨x, hx, rfl⟩
  · rw [read, if_pos ha, Option.map_eq_some_iff] at hx
    obtain ⟨y, -, rfl⟩ := hx
    exact deactivateServiceAnchor_active y
  · rw [read] at hx
    split at hx
    · obtain ⟨y, -, rfl⟩ := Option.map_eq_some_iff.mp hx
      exact .inr (deactivateServiceAnchor_active y)
    · exact .inl hx

/-- Removing a module from LPA is quiet, and spares the server anchor and every chain. -/
theorem removePluginFromLPAIfNeeded_quiet (devMode : Bool) (lpaDelete : Int) (w : World)
    (p : Addr) :
    World.Quiet w (removePluginFromLPAIfNeeded devMode lpaDelete w p) ∧
      (removePluginFromLPAIfNeeded devMode lpaDelete w p).serverAnchor = w.serverAnchor ∧
      ∀ q, (removePluginFromLPAIfNeeded devMode lpaDelete w p).serviceChain q =
        w.serviceChain q := by
  unfold removePluginFromLPAIfNeeded
  split
  · exact ⟨.refl w, rfl, fun _ => rfl⟩
  · split
    · refine ⟨World.updatePlugin_quiet w p fun _ => rfl, rfl, fun q => ?_⟩
      by_cases hqp : p = q
      · subst hqp
        simp [World.serviceChain, World.updatePlugin, Option.map_map, Function.comp_def]
      · simp [World.serviceChain, World.updatePlugin, Heap.read_update_ne _ _ hqp]
    · exact ⟨.refl w, rfl, fun _ => rfl⟩

/-- The walk along the chain of plugin anchors: every service anchor of a visited plugin is left
inactive. -/
theorem cleanPlugins_walk (devMode : Bool) (lpaDelete : Addr → Int) (ps : List Addr) (w : World) :
    let w' := ps.foldl (fun w p =>
      removePluginFromLPAIfNeeded devMode (lpaDelete p) (cleanPluginAnchor w p) p) w
    World.Keeps w w' ∧ w'.serverAnchor = w.serverAnchor ∧
      (∀ a x, w'.serviceAnchors.read a = some x →
        w.serviceAnchors.read a = some x ∨ x.active = false) ∧
      (∀ p ∈ ps, ∀ a ∈ w.serviceChain p, ∀ x, w'.serviceAnchors.read a = some x →
        x.active = false) := by
  induction ps generalizing w with
  | nil => exact ⟨.refl w, rfl, fun _ _ h => .inl h, fun p hp => by cases hp⟩
  | cons p ps ih =>
    have clean := cleanPluginAnchor_spec w p
    have removed := removePluginFromLPAIfNeeded_quiet devMode (lpaDelete p) (cleanPluginAnchor w p) p
    have tail := ih (removePluginFromLPAIfNeeded devMode (lpaDelete p) (cleanPluginAnchor w p) p)
    simp only [List.foldl_cons]
    obtain ⟨tailKeeps, tailServer, tailSame, tailInactive⟩ := tail
    rw [removed.1.anchors] at tailSame
    refine ⟨clean.1.trans (removed.1.toKeeps.trans tailKeeps),
      tailServer.trans (removed.2.1.trans clean.2.1), fun a x hx => ?_, fun q hq a ha x hx => ?_⟩
    · rcases tailSame a x hx with hsame | hoff
      · exact clean.2.2.2 a x hsame
      · exact .inr hoff
    · rcases List.mem_cons.mp hq with rfl | hin
      · rcases tailSame a x hx with hsame | hoff
        · exact clean.2.2.1 a ha x hsame
        · exact hoff
      · exact tailInactive q hin a ((removed.2.2 q).symm ▸ ha) x hx

/-- **Over a linked registry a cleaning leaves the router no active anchor.** -/
theorem cleanPlugins_inactive (linked : w.Linked) (devMode : Bool) (lpaDelete : Addr → Int) :
    (cleanPlugins devMode lpaDelete w).Linked ∧ (cleanPlugins devMode lpaDelete w).Inactive := by
  obtain ⟨keeps, server, -, inactive⟩ := cleanPlugins_walk devMode lpaDelete w.pluginChain w
  have table := World.serviceTable_congr server
  refine ⟨linked.of_keeps keeps table, fun path a anchor hentry hread => ?_⟩
  obtain ⟨p, hp, ha⟩ := linked.chained path a ((World.entry_congr table).mp hentry)
  exact inactive p hp.1 a ha anchor hread

/-! ## Where a run begins and ends -/

/-- The server anchor a start goes on with has the chain and the entries of the one it found. -/
theorem initGlobalResources_spec {anchor : ServerAnchor}
    (h : initGlobalResources env w.serverAnchor = some anchor) :
    w.pluginChain = anchor.firstPlugin ∧
      (∀ path a, ({ w.newRun with serverAnchor := some anchor } : World).Entry path a →
        w.Entry path a) ∧
      (w.serviceTable.isSome = true ∨ env.serviceTableStorage = true →
        anchor.serviceTable.isSome = true) := by
  unfold initGlobalResources initServiceTable at h
  cases hserver : w.serverAnchor with
  | none =>
    rw [hserver] at h
    simp only [Option.ite_none_right_eq_some, Option.some.injEq] at h
    obtain ⟨-, rfl⟩ := h
    refine ⟨by simp [World.pluginChain, hserver], fun path a hentry => ?_, fun htable => ?_⟩
    · obtain ⟨table, htable, hget⟩ := hentry
      cases hst : env.serviceTableStorage with
      | false => simp [World.serviceTable, hst] at htable
      | true =>
        simp only [World.serviceTable, hst, ↓reduceIte, Option.bind_some, Option.some.injEq]
          at htable
        subst htable
        simp [crossMemoryMapGet] at hget
    · have : env.serviceTableStorage = true := by
        simpa [World.serviceTable, hserver] using htable
      simp [this]
  | some server =>
    rw [hserver] at h
    cases htab : server.serviceTable with
    | some table =>
      simp only [htab, Option.some.injEq] at h
      subst h
      refine ⟨by simp [World.pluginChain, hserver], fun path a hentry => ?_, fun _ => by simp [htab]⟩
      simpa [World.Entry, World.serviceTable, hserver] using hentry
    | none =>
      simp only [htab, Option.some.injEq] at h
      subst h
      refine ⟨by simp [World.pluginChain, hserver], fun path a hentry => ?_, fun htable => ?_⟩
      · obtain ⟨table, htable, hget⟩ := hentry
        cases hst : env.serviceTableStorage with
        | false => simp [World.serviceTable, hst] at htable
        | true =>
          simp only [World.serviceTable, hst, ↓reduceIte, Option.bind_some, Option.some.injEq]
            at htable
          subst htable
          simp [crossMemoryMapGet] at hget
      · have : env.serviceTableStorage = true := by
          simpa [World.serviceTable, hserver, htab] using htable
        simp [this]

/-- A start that finds no server anchor and gets no storage for one leaves nothing to the router. -/
theorem initServer_noServer (h : initGlobalResources env w.serverAnchor = none) :
    (initServer env w).1.serverAnchor = none ∧
      ∀ path a, ¬ (initServer env w).1.Entry path a := by
  have hserver : w.serverAnchor = none := by
    cases hs : w.serverAnchor with
    | none => rfl
    | some server => simp [initGlobalResources, hs] at h
  have hrun : (initServer env w).1 = w.newRun := by simp only [initServer, h]
  rw [hrun]
  exact ⟨hserver, fun path a hentry => by
    simp [World.Entry, World.serviceTable, World.newRun, hserver] at hentry⟩

/-- What a start has cleaned. -/
theorem cleanRegistry_spec {anchor : ServerAnchor}
    (h : initGlobalResources env w.serverAnchor = some anchor) (linked : w.Linked) :
    (cleanRegistry env w anchor).Linked ∧ (cleanRegistry env w anchor).Inactive ∧
      (cleanRegistry env w anchor).serverAnchor.isSome = true ∧
      (cleanRegistry env w anchor).serviceTable = anchor.serviceTable := by
  obtain ⟨hchain, hentry, -⟩ := initGlobalResources_spec h
  have linked' : ({ w.newRun with serverAnchor := some anchor } : World).Linked :=
    { entry := fun path a ha => linked.entry path a (hentry path a ha)
      chained := fun path a ha => by
        obtain ⟨p, hp, hin⟩ := linked.chained path a (hentry path a ha)
        have hp' := hp.1
        rw [hchain] at hp'
        exact ⟨p, ⟨hp', hp.2⟩, hin⟩ }
  obtain ⟨keeps, server, -⟩ := cleanPlugins_walk env.devMode env.lpaDelete
    (World.pluginChain { w.newRun with serverAnchor := some anchor })
    { w.newRun with serverAnchor := some anchor }
  obtain ⟨hl, hi⟩ := cleanPlugins_inactive linked' env.devMode env.lpaDelete
  exact ⟨hl, hi, keeps.server rfl, World.serviceTable_congr server⟩

/-- The term callbacks of a stop are quiet, and spare the server anchor. -/
theorem terminatePlugins_quiet (env : StopEnv) (w : World) :
    World.Quiet w (terminatePlugins env w) ∧
      (terminatePlugins env w).serverAnchor = w.serverAnchor := by
  have service : ∀ (plugin : Plugin) (ss : List (Service × Option Addr)) (w : World),
      let w' := ss.foldl (fun w s => callServiceTerm env w plugin s.1 s.2) w
      World.Quiet w w' ∧ w'.serverAnchor = w.serverAnchor := by
    intro plugin ss
    induction ss with
    | nil => exact fun w => ⟨.refl w, rfl⟩
    | cons s ss ih =>
      intro w
      have head : World.Quiet w (callServiceTerm env w plugin s.1 s.2) ∧
          (callServiceTerm env w plugin s.1 s.2).serverAnchor = w.serverAnchor := by
        unfold callServiceTerm
        split
        · exact ⟨World.called_quiet w (fun _ _ _ _ h => by cases h), rfl⟩
        · exact ⟨.refl w, rfl⟩
      exact ⟨head.1.trans (ih _).1, (ih _).2.trans head.2⟩
  have all : ∀ (ps : List InstalledPlugin) (w : World),
      World.Quiet w (ps.foldl (terminatePlugin env) w) ∧
        (ps.foldl (terminatePlugin env) w).serverAnchor = w.serverAnchor := by
    intro ps
    induction ps with
    | nil => exact fun w => ⟨.refl w, rfl⟩
    | cons p ps ih =>
      intro w
      have head : World.Quiet w (terminatePlugin env w p) ∧
          (terminatePlugin env w p).serverAnchor = w.serverAnchor := by
        have services :=
          service p.descriptor (p.descriptor.services.zip p.serviceAnchors) w
        unfold terminatePlugin callPluginTerm
        split
        · exact ⟨services.1.trans (World.called_quiet _ fun _ _ _ _ h => by cases h), services.2⟩
        · exact services
      exact ⟨head.1.trans (ih _).1, (ih _).2.trans head.2⟩
  exact all w.plugins w

/-- What a stop leaves. -/
theorem cleanupServer_spec (linked : w.Linked) (env : StopEnv) :
    (cleanupServer env w).Linked ∧ (cleanupServer env w).Inactive ∧
      (cleanupServer env w).serverAnchor = w.serverAnchor := by
  obtain ⟨quiet, hserver⟩ := terminatePlugins_quiet env w
  obtain ⟨-, server, -⟩ := cleanPlugins_walk env.devMode env.lpaDelete
    (terminatePlugins env w).pluginChain (terminatePlugins env w)
  obtain ⟨hl, hi⟩ := cleanPlugins_inactive (linked.of_keeps quiet.toKeeps quiet.table)
    env.devMode env.lpaDelete
  exact ⟨hl, hi, server.trans hserver⟩

end Zss.Zis
