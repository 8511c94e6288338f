import Zss.Zis.Registry

/-!
# The plugin list

What the server's plugin list holds after a start: which descriptors get onto it, in which order,
and what is known of them.

One lemma carries both laws. `visitPluginParm_descriptors` says that a parameter puts at most one
descriptor on the list, the one `installedByParm` names, and touches nothing else of it. The laws
are then about `installedByParm`: whether what it names is valid, and whether its name and nickname
are new.

A descriptor is looked at before it is moved to LPA, and the copy in LPA answers with a descriptor
of its own. Nothing looks at that one, and the check of the services never refuses.

## What is not established

A plugin is its descriptor: what its module does when it is loaded is not looked at. That a copy in
LPA bears the names of the module it was made from is an assumption of the second law
(`CopiesKeepNames`).
-/

namespace Zss.Zis

open Zss.Lib

/-- The descriptors on the plugin list, the last added first. -/
def World.descriptors (w : World) : List Plugin := w.plugins.map (·.descriptor)

theorem World.descriptors_congr {w w' : World} (h : w'.plugins = w.plugins) :
    w'.descriptors = w.descriptors :=
  congrArg (List.map _) h

/-! ## What an installation puts on the list -/

/-- The descriptor to install: the plugin's own, or the one of its copy in LPA. -/
def finalDescriptor (env : PluginEnv) (plugin : Plugin) : Option Plugin :=
  if hasFlag plugin.flags pluginFlagLpa then env.relocated else some plugin

/-- The anchor an earlier run left for a plugin. -/
def World.anchorOf (w : World) (plugin : Plugin) : Option PluginAnchor :=
  (findPluginAnchor w plugin.name).bind w.pluginAnchors.read

/-- An earlier run left the module in LPA. -/
def World.inLpa (w : World) (plugin : Plugin) : Bool :=
  (w.anchorOf plugin).any fun anchor => hasFlag anchor.flags pluginAnchorFlagLpa

/-- The copy an earlier run left is used again. -/
def World.lpaReused (w : World) (devMode : Bool) (plugin : Plugin) : Bool :=
  w.inLpa plugin && !devMode &&
    (w.anchorOf plugin).any fun anchor => anchor.pluginVersion = plugin.pluginVersion

/-- The copy in LPA fails: the old one cannot be deleted, or the new one not be added, or it answers
with no descriptor. -/
def LpaCopyFails (devMode : Bool) (env : PluginEnv) (w : World) (plugin : Plugin) : Prop :=
  (w.inLpa plugin = true ∧ devMode = true ∧ env.lpaDelete ≠ 0) ∨
    hasFlag plugin.flags pluginFlagLpa = true ∧
      (w.lpaReused devMode plugin = false ∧ env.lpaAdd ≠ 0 ∨ env.relocated = none)

instance (devMode : Bool) (env : PluginEnv) (w : World) (plugin : Plugin) :
    Decidable (LpaCopyFails devMode env w plugin) :=
  inferInstanceAs (Decidable (_ ∨ _))

/-- There is an anchor for a plugin, or storage for one. -/
def AnchorAvailable (env : PluginEnv) (w : World) (plugin : Plugin) : Prop :=
  (findPluginAnchor w plugin.name).isSome = true ∨ env.anchorStorage = true

instance (env : PluginEnv) (w : World) (plugin : Plugin) :
    Decidable (AnchorAvailable env w plugin) :=
  inferInstanceAs (Decidable (_ ∨ _))

/-- The descriptor an installation puts on the list, if it gets so far. -/
def installedDescriptor (devMode : Bool) (env : PluginEnv) (w : World) (plugin : Plugin) :
    Option Plugin :=
  if AnchorAvailable env w plugin ∧ ¬ LpaCopyFails devMode env w plugin then
    finalDescriptor env plugin
  else none

section Frames

theorem createServiceAnchor_plugins (storage : Bool) (w : World) (plugin : Plugin) (p : Addr)
    (service : Service) :
    (createServiceAnchor storage w plugin p service).1.plugins = w.plugins := by
  unfold createServiceAnchor
  split <;> rfl

theorem obtainServiceAnchor_plugins (storage : Bool) (w : World) (plugin : Plugin) (p : Addr)
    (service : Service) :
    (obtainServiceAnchor storage w plugin p service).1.plugins = w.plugins := by
  unfold obtainServiceAnchor
  split
  · split
    · rfl
    · exact createServiceAnchor_plugins storage _ plugin p service
  · exact createServiceAnchor_plugins storage w plugin p service

theorem activateService_plugins (env : ServiceEnv) (w : World) (plugin : Plugin)
    (service : Service) (a : Addr) (path : ServicePath) :
    (activateService env w plugin service a path).1.plugins = w.plugins := by
  unfold activateService
  dsimp only
  split
  · rfl
  · split
    · rfl
    · split <;> rfl

/-- The installation of a service leaves the plugin list alone. -/
theorem installService_plugins (env : ServiceEnv) (w : World) (plugin : Plugin) (p : Addr)
    (service : Service) : (installService env w plugin p service).1.plugins = w.plugins := by
  have obtained := obtainServiceAnchor_plugins env.anchorStorage w plugin p service
  unfold installService
  split
  · next heq => rw [heq] at obtained; exact obtained
  · next heq =>
    rw [heq] at obtained
    exact (activateService_plugins env _ plugin service _ _).trans obtained

theorem installServices_plugins (env : Nat → ServiceEnv) (plugin : Plugin) (p : Addr)
    (services : List Service) (i : Nat) (w : World) :
    (installServices env plugin p i services w).1.plugins = w.plugins := by
  induction services generalizing i w with
  | nil => rfl
  | cons service rest ih =>
    have installed := installService_plugins (env i) w plugin p service
    unfold installServices
    split
    · next heq => rw [heq] at installed; exact (ih _ _).trans installed
    · next heq => rw [heq] at installed; exact installed

@[simp]
theorem setServiceAnchors_descriptors (w : World) (anchors : List (Option Addr)) :
    (setServiceAnchors w anchors).descriptors = w.descriptors := by
  unfold setServiceAnchors World.descriptors
  split
  · rfl
  · next head rest hplugins => simp [hplugins]

theorem loadPluginToLPA_plugins (env : PluginEnv) (lpaPresent : Bool) (w : World) (plugin : Plugin)
    (p : Addr) : (loadPluginToLPA env lpaPresent w plugin p).1.plugins = w.plugins := by
  unfold loadPluginToLPA
  split
  · split
    · rfl
    · cases lpaPresent <;> cases env.relocated <;> rfl
  · rfl

theorem relocatePluginToLPAIfNeeded_plugins (devMode : Bool) (env : PluginEnv) (w : World)
    (plugin : Plugin) (p : Addr) :
    (relocatePluginToLPAIfNeeded devMode env w plugin p).1.plugins = w.plugins := by
  unfold relocatePluginToLPAIfNeeded
  split
  · rfl
  · split
    · split
      · rfl
      · split
        · exact loadPluginToLPA_plugins env false _ plugin p
        · exact loadPluginToLPA_plugins env true w plugin p
    · exact loadPluginToLPA_plugins env false w plugin p

theorem obtainPluginAnchor_plugins (storage : Bool) (w : World) (plugin : Plugin) :
    (obtainPluginAnchor storage w plugin).1.plugins = w.plugins := by
  unfold obtainPluginAnchor
  split
  · rfl
  · split <;> rfl

/-- From its list entry on, an installation leaves the list alone, whatever fails. -/
theorem installRelocatedPlugin_descriptors (env : PluginEnv) (w : World) (plugin : Plugin)
    (p : Addr) :
    (installRelocatedPlugin env w plugin p).1.descriptors = plugin :: w.descriptors := by
  have added : (initPlugin env w plugin p).1.descriptors = plugin :: w.descriptors := rfl
  unfold installRelocatedPlugin
  dsimp only
  split
  · exact added
  · rw [setServiceAnchors_descriptors]
    exact (World.descriptors_congr (installServices_plugins _ plugin p _ 0 _)).trans added

end Frames

/-- What the second half of a relocation answers. -/
theorem loadPluginToLPA_install (env : PluginEnv) (lpaPresent : Bool) (w : World) (plugin : Plugin)
    (p : Addr) (r : Plugin) :
    (loadPluginToLPA env lpaPresent w plugin p).2 = .install r ↔
      finalDescriptor env plugin = some r ∧
        (hasFlag plugin.flags pluginFlagLpa = true → lpaPresent = true ∨ env.lpaAdd = 0) := by
  unfold loadPluginToLPA finalDescriptor
  cases hasFlag plugin.flags pluginFlagLpa with
  | false => simp
  | true =>
    cases lpaPresent <;> by_cases hadd : env.lpaAdd = 0 <;> cases env.relocated <;> simp [hadd]

variable {w : World} {plugin : Plugin} {dynlinkModuleName : Text} {parm : PluginParm}

/-- What a relocation answers, from the anchor it is given. -/
theorem relocatePluginToLPAIfNeeded_install {devMode : Bool} {env : PluginEnv} {p : Addr}
    {anchor : PluginAnchor} (hanchor : w.pluginAnchors.read p = some anchor) (r : Plugin) :
    (relocatePluginToLPAIfNeeded devMode env w plugin p).2 = .install r ↔
      finalDescriptor env plugin = some r ∧
        ¬ (hasFlag anchor.flags pluginAnchorFlagLpa = true ∧ devMode = true ∧ env.lpaDelete ≠ 0) ∧
        (hasFlag plugin.flags pluginFlagLpa = true →
          (hasFlag anchor.flags pluginAnchorFlagLpa = true ∧ devMode = false ∧
            anchor.pluginVersion = plugin.pluginVersion) ∨ env.lpaAdd = 0) := by
  unfold relocatePluginToLPAIfNeeded
  rw [hanchor]
  dsimp only
  cases hasFlag anchor.flags pluginAnchorFlagLpa with
  | false => simp [loadPluginToLPA_install]
  | true =>
    rw [if_pos rfl]
    by_cases hdelete : env.lpaDelete = 0 <;> by_cases hversion : anchor.pluginVersion =
      plugin.pluginVersion <;> cases devMode <;> simp [hdelete, hversion, loadPluginToLPA_install]

/-- The anchor an installation works on is the one an earlier run left, or one that knows of no copy
in LPA. -/
theorem obtainPluginAnchor_some {storage : Bool} {w w' : World} {p : Addr}
    (h : obtainPluginAnchor storage w plugin = (w', some p)) :
    ∃ anchor, w'.pluginAnchors.read p = some anchor ∧
      (w.anchorOf plugin = some anchor ∨
        w.anchorOf plugin = none ∧ hasFlag anchor.flags pluginAnchorFlagLpa = false) := by
  unfold obtainPluginAnchor at h
  split at h
  · next q hfound =>
    obtain ⟨rfl, hq⟩ := Prod.mk.inj h
    obtain rfl := Option.some.inj hq
    obtain ⟨-, anchor, hanchor⟩ := findPluginAnchor_anchored hfound
    exact ⟨anchor, hanchor, .inl (by rw [World.anchorOf, hfound]; exact hanchor)⟩
  · next hfound =>
    split at h
    · cases (Prod.mk.inj h).2
    · next pa hcreated =>
      obtain ⟨rfl, hp⟩ := Prod.mk.inj h
      obtain rfl := Option.some.inj hp
      refine ⟨pa, Heap.read_alloc_fresh _ _, .inr ⟨by rw [World.anchorOf, hfound]; rfl, ?_⟩⟩
      unfold zisCreatePluginAnchor at hcreated
      split at hcreated
      · obtain rfl := Option.some.inj hcreated
        exact hasFlag_zero _
      · cases hcreated

/-- An anchor is there exactly when there was one or storage for one. -/
theorem obtainPluginAnchor_isSome (env : PluginEnv) (w : World) (plugin : Plugin) :
    (obtainPluginAnchor env.anchorStorage w plugin).2.isSome = true ↔
      AnchorAvailable env w plugin := by
  unfold obtainPluginAnchor AnchorAvailable zisCreatePluginAnchor
  cases findPluginAnchor w plugin.name with
  | some p => simp
  | none => cases env.anchorStorage <;> simp

/-- A relocation from the anchor of an installation answers with the descriptor to install exactly
when the copy in LPA does not fail. -/
theorem relocate_obtained {devMode : Bool} {env : PluginEnv} {w w' : World} {plugin : Plugin}
    {p : Addr} (h : obtainPluginAnchor env.anchorStorage w plugin = (w', some p)) (r : Plugin) :
    (relocatePluginToLPAIfNeeded devMode env w' plugin p).2 = .install r ↔
      finalDescriptor env plugin = some r ∧ ¬ LpaCopyFails devMode env w plugin := by
  obtain ⟨anchor, hread, hanchor⟩ := obtainPluginAnchor_some h
  rw [relocatePluginToLPAIfNeeded_install hread]
  have copied : hasFlag plugin.flags pluginFlagLpa = true → finalDescriptor env plugin = some r →
      env.relocated ≠ none := by
    intro hlpa hfinal
    rw [finalDescriptor, if_pos hlpa] at hfinal
    simp [hfinal]
  unfold LpaCopyFails World.lpaReused World.inLpa
  rcases hanchor with found | ⟨missing, hflag⟩
  · rw [found]
    simp only [Option.any_some]
    constructor
    · rintro ⟨hfinal, hdelete, hadd⟩
      have := fun hlpa => copied hlpa hfinal
      grind
    · rintro ⟨hfinal, hfails⟩
      grind
  · rw [missing, hflag]
    simp only [Option.any_none]
    constructor
    · rintro ⟨hfinal, -, hadd⟩
      have := fun hlpa => copied hlpa hfinal
      grind
    · rintro ⟨hfinal, hfails⟩
      grind

/-- **An installation puts one descriptor on the list**, or none. -/
theorem installPlugin_descriptors (devMode : Bool) (env : PluginEnv) (w : World) (plugin : Plugin) :
    (installPlugin devMode env w plugin).1.descriptors =
      (installedDescriptor devMode env w plugin).toList ++ w.descriptors := by
  have available := obtainPluginAnchor_isSome env w plugin
  have kept := obtainPluginAnchor_plugins env.anchorStorage w plugin
  unfold installPlugin installedDescriptor
  split
  · next w' hobtain =>
    rw [hobtain] at available kept
    rw [if_neg fun h => by simpa using available.mpr h.1]
    exact World.descriptors_congr kept
  · next w' p hobtain =>
    have relocated := @relocate_obtained devMode _ _ _ _ _ hobtain
    rw [hobtain] at available kept
    have moved := relocatePluginToLPAIfNeeded_plugins devMode env w' plugin p
    have there : AnchorAvailable env w plugin := available.mp rfl
    have none_installed : (∀ r, (relocatePluginToLPAIfNeeded devMode env w' plugin p).2 ≠
        .install r) → (if AnchorAvailable env w plugin ∧ ¬ LpaCopyFails devMode env w plugin then
          finalDescriptor env plugin else none) = none := by
      intro hno
      split
      · next hok =>
        cases hfinal : finalDescriptor env plugin with
        | none => rfl
        | some r => exact absurd ((relocated r).mpr ⟨hfinal, hok.2⟩) (hno r)
      · rfl
    split
    · next heq =>
      rw [heq] at moved none_installed
      rw [none_installed fun r h => by cases h]
      exact World.descriptors_congr (moved.trans kept)
    · next heq =>
      rw [heq] at moved none_installed
      rw [none_installed fun r h => by cases h]
      exact World.descriptors_congr (moved.trans kept)
    · next w'' r heq =>
      obtain ⟨hfinal, hok⟩ := (relocated r).mp (by rw [heq])
      rw [heq] at moved
      rw [installRelocatedPlugin_descriptors, if_pos ⟨there, hok⟩, hfinal]
      exact congrArg (r :: ·) (World.descriptors_congr (moved.trans kept))

/-! ## What a parameter puts on the list -/

/-- Whether `visitPluginParm` gets to loading the module of a parameter. -/
def loadsModule (dynlinkModuleName : Text) (lookingForDynamicPlugin : Bool) (parm : PluginParm) :
    Bool :=
  pluginParmPrefix.isPrefixOf parm.name &&
    parm.value.any fun moduleName =>
      isPluginSuitable dynlinkModuleName moduleName lookingForDynamicPlugin &&
        moduleName.length ≤ 8

/-- The descriptor a parameter puts on the list. -/
def installedByParm (devMode : Bool) (dynlinkModuleName : Text) (lookingForDynamicPlugin : Bool)
    (w : World) (parm : PluginParm) : Option Plugin :=
  (pluginOfParm dynlinkModuleName lookingForDynamicPlugin w parm).bind
    (installedDescriptor devMode parm.env w)

/-- What a plugin went through that is to be installed. -/
theorem pluginOfParm_some {lookingForDynamicPlugin : Bool}
    (h : pluginOfParm dynlinkModuleName lookingForDynamicPlugin w parm = some plugin) :
    loadsModule dynlinkModuleName lookingForDynamicPlugin parm = true ∧
      parm.loaded = some plugin ∧ isPluginValid parm.validationRecovery plugin = true ∧
      isDuplicatePlugin w plugin = false := by
  unfold pluginOfParm at h
  unfold loadsModule
  split at h
  · cases h
  next hname =>
  split at h
  · cases h
  next moduleName hvalue =>
  split at h
  · cases h
  next hsuitable =>
  split at h
  · cases h
  next hlength =>
  split at h
  · cases h
  next loaded hloaded =>
  split at h
  · cases h
  next hvalid =>
  split at h
  · cases h
  next hduplicate =>
  obtain rfl := Option.some.inj h
  rw [hvalue, Option.any_some]
  refine ⟨?_, hloaded, by simpa using hvalid, by simpa using hduplicate⟩
  simp only [Bool.not_eq_true, Bool.not_eq_false'] at hname hsuitable
  simpa [hname, hsuitable] using hlength

/-- **A parameter puts at most one descriptor on the list.** -/
theorem visitPluginParm_descriptors (devMode : Bool) (dynlinkModuleName : Text)
    (lookingForDynamicPlugin : Bool) (w : World) (parm : PluginParm) :
    (visitPluginParm devMode dynlinkModuleName lookingForDynamicPlugin w parm).1.descriptors =
      (installedByParm devMode dynlinkModuleName lookingForDynamicPlugin w parm).toList ++
        w.descriptors := by
  unfold visitPluginParm installedByParm
  cases pluginOfParm dynlinkModuleName lookingForDynamicPlugin w parm with
  | none => rfl
  | some plugin => exact installPlugin_descriptors devMode parm.env w plugin

/-- What stands behind a descriptor a parameter puts on the list. -/
theorem installedByParm_some {devMode : Bool} {lookingForDynamicPlugin : Bool} {final : Plugin}
    (h : installedByParm devMode dynlinkModuleName lookingForDynamicPlugin w parm = some final) :
    ∃ plugin, pluginOfParm dynlinkModuleName lookingForDynamicPlugin w parm = some plugin ∧
      AnchorAvailable parm.env w plugin ∧ ¬ LpaCopyFails devMode parm.env w plugin ∧
      finalDescriptor parm.env plugin = some final := by
  obtain ⟨plugin, hplugin, hinstalled⟩ := Option.bind_eq_some_iff.mp h
  unfold installedDescriptor at hinstalled
  split at hinstalled
  · next hok => exact ⟨plugin, hplugin, hok.1, hok.2, hinstalled⟩
  · cases hinstalled

/-! ## Whether it is valid -/

/-- `isServiceValid`. -/
def isServiceValid (service : Service) : Bool :=
  if service.eyecatcher ≠ serviceEyecatcher then false
  else if service.version > serviceVersion then false
  else true

/-- A descriptor the server can use: its own fields and every one of its services pass. -/
structure Plugin.Valid (plugin : Plugin) : Prop where
  eyecatcher : plugin.eyecatcher = pluginEyecatcher
  version : plugin.version ≤ Zis.pluginVersion
  serviceCount : plugin.services.length ≤ plugin.maxServiceCount
  services : ∀ service ∈ plugin.services, isServiceValid service = true

/-- What a parameter adds to the list is valid, and nothing comes of an invalid descriptor or a
failed copy. -/
structure AddsOnlyValid (devMode : Bool) (dynlinkModuleName : Text)
    (lookingForDynamicPlugin : Bool) (w : World) (parm : PluginParm) : Prop where
  added : ∀ added, (visitPluginParm devMode dynlinkModuleName lookingForDynamicPlugin w
    parm).1.descriptors = added ++ w.descriptors → ∀ plugin ∈ added, plugin.Valid
  invalid : ∀ plugin, parm.loaded = some plugin → ¬ plugin.Valid →
    (visitPluginParm devMode dynlinkModuleName lookingForDynamicPlugin w parm).1.descriptors =
      w.descriptors
  failedCopy : ∀ plugin, parm.loaded = some plugin → LpaCopyFails devMode parm.env w plugin →
    (visitPluginParm devMode dynlinkModuleName lookingForDynamicPlugin w parm).1.descriptors =
      w.descriptors

/-- `isPluginValid` says all there is to say of a descriptor but for its services. -/
theorem isPluginValid_valid {recovery : Bool} (h : isPluginValid recovery plugin = true) :
    plugin.Valid ↔ ∀ service ∈ plugin.services, isServiceValid service = true := by
  unfold isPluginValid at h
  split at h
  · cases h
  split at h
  · cases h
  next heye =>
  split at h
  · cases h
  next hversion =>
  split at h
  · cases h
  next hcount =>
  refine ⟨Plugin.Valid.services, fun hservices => ⟨?_, ?_, ?_, hservices⟩⟩
  · simpa using heye
  · omega
  · omega

/-- **Only valid plugins are installed** exactly where a plugin that gets as far as its list entry
has valid services and, if it was copied to LPA, a copy that is valid itself. -/
theorem visitPluginParm_adds_valid (devMode : Bool) (dynlinkModuleName : Text)
    (lookingForDynamicPlugin : Bool) (w : World) (parm : PluginParm) :
    AddsOnlyValid devMode dynlinkModuleName lookingForDynamicPlugin w parm ↔
      ∀ plugin, pluginOfParm dynlinkModuleName lookingForDynamicPlugin w parm = some plugin →
        AnchorAvailable parm.env w plugin → ¬ LpaCopyFails devMode parm.env w plugin →
        (∀ service ∈ plugin.services, isServiceValid service = true) ∧
          (hasFlag plugin.flags pluginFlagLpa = true →
            ∀ copy, parm.env.relocated = some copy → copy.Valid) := by
  have visited := visitPluginParm_descriptors devMode dynlinkModuleName lookingForDynamicPlugin w
    parm
  constructor
  · intro h plugin hplugin available copied
    obtain ⟨-, hloaded, hvalid, -⟩ := pluginOfParm_some hplugin
    have installed : installedByParm devMode dynlinkModuleName lookingForDynamicPlugin w parm =
        finalDescriptor parm.env plugin := by
      rw [installedByParm, hplugin, Option.bind_some, installedDescriptor,
        if_pos ⟨available, copied⟩]
    rw [installed] at visited
    have there : (finalDescriptor parm.env plugin).isSome = true := by
      unfold finalDescriptor
      split
      · next hlpa =>
        refine Option.isSome_iff_ne_none.mpr fun hno => copied (.inr ⟨hlpa, .inr hno⟩)
      · rfl
    obtain ⟨final, hfinal⟩ := Option.isSome_iff_exists.mp there
    rw [hfinal] at visited
    constructor
    · rw [← isPluginValid_valid hvalid]
      by_contra hinvalid
      have := (h.invalid plugin hloaded hinvalid).symm.trans visited
      simpa using congrArg List.length this
    · intro hlpa copy hcopy
      rw [finalDescriptor, if_pos hlpa, hcopy] at hfinal
      obtain rfl := Option.some.inj hfinal
      exact h.added [copy] visited copy (List.mem_singleton_self copy)
  · intro h
    cases hinstalled : installedByParm devMode dynlinkModuleName lookingForDynamicPlugin w parm with
    | none =>
      rw [hinstalled] at visited
      refine ⟨?_, fun _ _ _ => visited, fun _ _ _ => visited⟩
      intro added hadded
      rw [visited, Option.toList_none, List.nil_append, List.self_eq_append_left] at hadded
      simp [hadded]
    | some final =>
      rw [hinstalled] at visited
      obtain ⟨plugin, hplugin, available, copied, hfinal⟩ := installedByParm_some hinstalled
      obtain ⟨-, hloaded, hvalid, -⟩ := pluginOfParm_some hplugin
      obtain ⟨services, copy⟩ := h plugin hplugin available copied
      have valid : plugin.Valid := (isPluginValid_valid hvalid).mpr services
      refine ⟨?_, ?_, ?_⟩
      · intro added hadded
        obtain rfl : [final] = added := List.append_cancel_right (visited.symm.trans hadded)
        intro added hmem
        obtain rfl := List.mem_singleton.mp hmem
        unfold finalDescriptor at hfinal
        split at hfinal
        · next hlpa => exact copy hlpa added hfinal
        · exact Option.some.inj hfinal ▸ valid
      · intro plugin' hloaded' hinvalid
        obtain rfl := Option.some.inj (hloaded.symm.trans hloaded')
        exact absurd valid hinvalid
      · intro plugin' hloaded' hfails
        obtain rfl := Option.some.inj (hloaded.symm.trans hloaded')
        exact absurd hfails copied

/-- A plugin whose one service has no eyecatcher is installed. -/
theorem invalid_service_installed :
    ¬ ∀ (devMode : Bool) (dynlinkModuleName : Text) (lookingForDynamicPlugin : Bool) (w : World)
      (parm : PluginParm),
      AddsOnlyValid devMode dynlinkModuleName lookingForDynamicPlugin w parm := by
  intro h
  let service : Service :=
    { eyecatcher := [], version := 2, flags := 0#32, anchor := none, name := "SERVICE".toList
      init := none, term := none, serve := some 1, serviceVersion := 1
      safClassName := [], safEntityName := [] }
  let plugin : Plugin :=
    { eyecatcher := pluginEyecatcher, version := 1, flags := 0#32, maxServiceCount := 1
      name := "PLUGIN".toList, nickname := "PLUG".toList, init := none, term := none
      handleCommand := none, pluginVersion := 1, services := [service] }
  let env : PluginEnv :=
    { anchorStorage := true, lpaDelete := 0, lpaAdd := 0, lpaModule := 0, relocated := none
      init := .returned 0, services := fun _ => ⟨true, .returned 0, true⟩ }
  let parm : PluginParm :=
    { name := "ZWES.PLUGIN.A".toList, value := some "MODULE".toList, loaded := some plugin
      validationRecovery := true, env := env }
  let w : World := { World.ipl with serverAnchor := some ⟨some [], []⟩ }
  have added : (visitPluginParm false "ZWESISDL".toList false w parm).1.descriptors =
      [plugin] ++ w.descriptors := by
    rw [visitPluginParm_descriptors]
    have installed : installedByParm false "ZWESISDL".toList false w parm = some plugin := by
      decide +kernel
    rw [installed]
    rfl
  have valid := (h false "ZWESISDL".toList false w parm).added [plugin] added plugin
    (List.mem_singleton_self plugin)
  have services := valid.services service (List.mem_singleton_self service)
  cases services

/-! ## Which plugins a start leaves on it -/

/-- A plugin comes from a parameter whose module is for the pass: the descriptor its module answered
with, or the one of the module's copy in LPA. -/
def FromPluginParm (dynlinkModuleName : Text) (lookingForDynamicPlugin : Bool)
    (parms : List PluginParm) (plugin : Plugin) : Prop :=
  ∃ parm ∈ parms, loadsModule dynlinkModuleName lookingForDynamicPlugin parm = true ∧
    ∃ loaded, parm.loaded = some loaded ∧ finalDescriptor parm.env loaded = some plugin

/-- No two descriptors of a list share a name or a nickname. -/
structure DistinctPlugins (descriptors : List Plugin) : Prop where
  names : (descriptors.map (·.name)).Nodup
  nicknames : (descriptors.map (·.nickname)).Nodup

/-- The copy in LPA of a module answers with the name and nickname the module answered with. -/
def CopiesKeepNames (parms : List PluginParm) : Prop :=
  ∀ parm ∈ parms, ∀ plugin, parm.loaded = some plugin →
    hasFlag plugin.flags pluginFlagLpa = true → ∀ copy, parm.env.relocated = some copy →
      copy.name = plugin.name ∧ copy.nickname = plugin.nickname

/-- The positions of the parameters whose modules a pass loads, the first at position `i`. -/
def modulesLoaded (devMode : Bool) (dynlinkModuleName : Text) (lookingForDynamicPlugin : Bool) :
    Nat → List PluginParm → World → List Nat
  | _, [], _ => []
  | i, parm :: rest, w =>
    let loaded := if loadsModule dynlinkModuleName lookingForDynamicPlugin parm then [i] else []
    match visitPluginParm devMode dynlinkModuleName lookingForDynamicPlugin w parm with
    | (w, .next) =>
      loaded ++ modulesLoaded devMode dynlinkModuleName lookingForDynamicPlugin (i + 1) rest w
    | _ => loaded

/-- The positions of the parameters whose modules `deployPlugins` loads, in that order. -/
def deployedModules (env : StartEnv) (w : World) : List Nat :=
  let first := modulesLoaded env.devMode env.dynlinkModuleName true 0 env.parms w
  match iteratePluginParms env.devMode env.dynlinkModuleName true env.parms w with
  | (w, .next) => first ++ modulesLoaded env.devMode env.dynlinkModuleName false 0 env.parms w
  | _ => first

/-- A plugin list a start leaves: distinct plugins, each from a parameter, those of the dynamic
linkage module added before all others, and no parameter's module loaded twice. -/
structure Deployed (env : StartEnv) (w : World) : Prop where
  distinct : DistinctPlugins (deployPlugins env w).1.descriptors
  order : ∃ others dynlink, (deployPlugins env w).1.descriptors = others ++ dynlink ∧
    (∀ plugin ∈ dynlink, FromPluginParm env.dynlinkModuleName true env.parms plugin) ∧
    ∀ plugin ∈ others, FromPluginParm env.dynlinkModuleName false env.parms plugin
  loads : (deployedModules env w).Nodup

/-- What a duplicate check that passes has seen. -/
theorem isDuplicatePlugin_false (h : isDuplicatePlugin w plugin = false) :
    plugin.name ∉ w.descriptors.map (·.name) ∧ plugin.nickname ∉ w.descriptors.map (·.nickname) := by
  simpa [isDuplicatePlugin, hasPluginNamed, hasPluginNicknamed, World.descriptors] using h

/-- A parameter adds a plugin of its own, with a name and a nickname that are new. -/
theorem installedByParm_new {devMode : Bool} {lookingForDynamicPlugin : Bool}
    {parms : List PluginParm} {final : Plugin} (keep : CopiesKeepNames parms)
    (hmem : parm ∈ parms)
    (h : installedByParm devMode dynlinkModuleName lookingForDynamicPlugin w parm = some final) :
    FromPluginParm dynlinkModuleName lookingForDynamicPlugin parms final ∧
      final.name ∉ w.descriptors.map (·.name) ∧
      final.nickname ∉ w.descriptors.map (·.nickname) := by
  obtain ⟨plugin, hplugin, -, -, hfinal⟩ := installedByParm_some h
  obtain ⟨hloads, hloaded, -, hduplicate⟩ := pluginOfParm_some hplugin
  obtain ⟨hname, hnickname⟩ := isDuplicatePlugin_false hduplicate
  have same : final.name = plugin.name ∧ final.nickname = plugin.nickname := by
    unfold finalDescriptor at hfinal
    split at hfinal
    · next hlpa => exact keep parm hmem plugin hloaded hlpa final hfinal
    · obtain rfl := Option.some.inj hfinal
      exact ⟨rfl, rfl⟩
  refine ⟨⟨parm, hmem, hloads, plugin, hloaded, hfinal⟩, ?_, ?_⟩
  · rwa [same.1]
  · rwa [same.2]

/-- What a pass over some of the parameters does to the list. -/
theorem iteratePluginParms_descriptors (devMode : Bool) (dynlinkModuleName : Text)
    (lookingForDynamicPlugin : Bool) {parms : List PluginParm} (keep : CopiesKeepNames parms)
    {rest : List PluginParm} (sub : rest ⊆ parms) (w : World)
    (distinct : DistinctPlugins w.descriptors) :
    DistinctPlugins (iteratePluginParms devMode dynlinkModuleName lookingForDynamicPlugin rest
        w).1.descriptors ∧
      ∃ added, (iteratePluginParms devMode dynlinkModuleName lookingForDynamicPlugin rest
          w).1.descriptors = added ++ w.descriptors ∧
        ∀ plugin ∈ added, FromPluginParm dynlinkModuleName lookingForDynamicPlugin parms plugin := by
  induction rest generalizing w with
  | nil => exact ⟨distinct, [], rfl, fun _ h => absurd h List.not_mem_nil⟩
  | cons parm rest ih =>
    obtain ⟨hmem, hrest⟩ := List.cons_subset.mp sub
    have visited := visitPluginParm_descriptors devMode dynlinkModuleName lookingForDynamicPlugin w
      parm
    have step : DistinctPlugins (visitPluginParm devMode dynlinkModuleName lookingForDynamicPlugin w
        parm).1.descriptors ∧ ∀ plugin ∈ (installedByParm devMode dynlinkModuleName
          lookingForDynamicPlugin w parm).toList,
        FromPluginParm dynlinkModuleName lookingForDynamicPlugin parms plugin := by
      rw [visited]
      cases hinstalled : installedByParm devMode dynlinkModuleName lookingForDynamicPlugin w
          parm with
      | none => exact ⟨distinct, fun _ h => absurd h List.not_mem_nil⟩
      | some final =>
        obtain ⟨hfrom, hname, hnickname⟩ := installedByParm_new keep hmem hinstalled
        refine ⟨⟨List.nodup_cons.mpr ⟨hname, distinct.names⟩,
          List.nodup_cons.mpr ⟨hnickname, distinct.nicknames⟩⟩, ?_⟩
        intro plugin hplugin
        obtain rfl := List.mem_singleton.mp hplugin
        exact hfrom
    unfold iteratePluginParms
    split
    · next w' heq =>
      rw [heq] at visited step
      obtain ⟨hdistinct, added, hadded, hfrom⟩ := ih hrest w' step.1
      refine ⟨hdistinct, added ++ (installedByParm devMode dynlinkModuleName
        lookingForDynamicPlugin w parm).toList, ?_, ?_⟩
      · rw [hadded, show w'.descriptors = _ from visited, List.append_assoc]
      · intro plugin hplugin
        exact (List.mem_append.mp hplugin).elim (hfrom plugin) (step.2 plugin)
    · next w' exit _ heq =>
      rw [heq] at visited step
      exact ⟨step.1, _, visited, step.2⟩

/-- The modules a pass loads are those of parameters that are for it, each loaded once. -/
theorem modulesLoaded_spec (devMode : Bool) (dynlinkModuleName : Text)
    (lookingForDynamicPlugin : Bool) (parms : List PluginParm) (i : Nat) (w : World) :
    (modulesLoaded devMode dynlinkModuleName lookingForDynamicPlugin i parms w).Nodup ∧
      ∀ j ∈ modulesLoaded devMode dynlinkModuleName lookingForDynamicPlugin i parms w,
        i ≤ j ∧ ∃ parm, parms[j - i]? = some parm ∧
          loadsModule dynlinkModuleName lookingForDynamicPlugin parm = true := by
  induction parms generalizing i w with
  | nil => exact ⟨List.nodup_nil, fun _ h => absurd h List.not_mem_nil⟩
  | cons parm rest ih =>
    have here : ∀ j ∈ (if loadsModule dynlinkModuleName lookingForDynamicPlugin parm = true
        then [i] else []), j = i ∧
          loadsModule dynlinkModuleName lookingForDynamicPlugin parm = true := by
      intro j hj
      split at hj
      · next hloads => exact ⟨List.mem_singleton.mp hj, hloads⟩
      · cases hj
    have once : (if loadsModule dynlinkModuleName lookingForDynamicPlugin parm = true
        then [i] else []).Nodup := by
      split
      · exact List.nodup_singleton i
      · exact List.nodup_nil
    unfold modulesLoaded
    dsimp only
    split
    · next w' heq =>
      obtain ⟨hnodup, hloaded⟩ := ih (i + 1) w'
      constructor
      · refine List.Nodup.append once hnodup ?_
        intro j hj hj'
        have := (hloaded j hj').1
        have := (here j hj).1
        omega
      · intro j hj
        rcases List.mem_append.mp hj with hj | hj
        · obtain ⟨rfl, hloads⟩ := here j hj
          exact ⟨le_rfl, parm, by simp, hloads⟩
        · obtain ⟨hle, parm', hparm', hloads⟩ := hloaded j hj
          refine ⟨by omega, parm', ?_, hloads⟩
          rw [show j - i = j - (i + 1) + 1 by omega, List.getElem?_cons_succ]
          exact hparm'
    · refine ⟨once, ?_⟩
      intro j hj
      obtain ⟨rfl, hloads⟩ := here j hj
      exact ⟨le_rfl, parm, by simp, hloads⟩

/-- A parameter is for one of the two passes at most. -/
theorem loadsModule_exclusive (h : loadsModule dynlinkModuleName true parm = true) :
    loadsModule dynlinkModuleName false parm = false := by
  unfold loadsModule at h ⊢
  cases hvalue : parm.value with
  | none => simp
  | some moduleName =>
    simp only [hvalue, Option.any_some, Bool.and_eq_true, isPluginSuitable, if_true] at h ⊢
    simp [of_decide_eq_true h.2.1]

/-- Cleaning the anchors leaves the list alone. -/
theorem cleanPlugins_plugins (devMode : Bool) (lpaDelete : Addr → Int) (w : World) :
    (cleanPlugins devMode lpaDelete w).plugins = w.plugins := by
  have cleaned : ∀ (p : Addr) (w : World),
      (removePluginFromLPAIfNeeded devMode (lpaDelete p) (cleanPluginAnchor w p) p).plugins =
        w.plugins := by
    intro p w
    unfold removePluginFromLPAIfNeeded
    split
    · rfl
    · split <;> rfl
  unfold cleanPlugins
  generalize w.pluginChain = chain
  induction chain generalizing w with
  | nil => rfl
  | cons p chain ih => exact (ih _).trans (cleaned p w)

/-- **A start deploys each plugin once.** -/
theorem deployPlugins_deployed (env : StartEnv) (w : World) (anchor : ServerAnchor)
    (keep : CopiesKeepNames env.parms) : Deployed env (cleanRegistry env w anchor) := by
  generalize hclean : cleanRegistry env w anchor = clean
  have empty : clean.descriptors = [] := by
    rw [← hclean]
    exact World.descriptors_congr (cleanPlugins_plugins env.devMode env.lpaDelete _)
  have none : DistinctPlugins clean.descriptors := by
    rw [empty]
    exact ⟨List.nodup_nil, List.nodup_nil⟩
  obtain ⟨hdistinct, dynlink, hdynlink, hfrom⟩ := iteratePluginParms_descriptors env.devMode
    env.dynlinkModuleName true keep (List.Subset.refl _) clean none
  obtain ⟨honce, hloaded⟩ := modulesLoaded_spec env.devMode env.dynlinkModuleName true env.parms 0
    clean
  rw [empty, List.append_nil] at hdynlink
  cases hpass : iteratePluginParms env.devMode env.dynlinkModuleName true env.parms clean with
  | mk w' exit =>
    rw [hpass] at hdistinct hdynlink
    by_cases hnext : exit = .next
    · subst hnext
      have deploy : deployPlugins env clean =
          iteratePluginParms env.devMode env.dynlinkModuleName false env.parms w' := by
        rw [deployPlugins, hpass]
      have modules : deployedModules env clean =
          modulesLoaded env.devMode env.dynlinkModuleName true 0 env.parms clean ++
            modulesLoaded env.devMode env.dynlinkModuleName false 0 env.parms w' := by
        rw [deployedModules, hpass]
      obtain ⟨hdistinct', others, hothers, hfrom'⟩ := iteratePluginParms_descriptors env.devMode
        env.dynlinkModuleName false keep (List.Subset.refl _) w' hdistinct
      obtain ⟨honce', hloaded'⟩ := modulesLoaded_spec env.devMode env.dynlinkModuleName false
        env.parms 0 w'
      rw [show w'.descriptors = dynlink from hdynlink] at hothers
      refine ⟨deploy ▸ hdistinct', ⟨others, dynlink, deploy ▸ hothers, hfrom, hfrom'⟩, ?_⟩
      rw [modules]
      refine List.Nodup.append honce honce' ?_
      intro j hj hj'
      obtain ⟨-, parm, hparm, hfirst⟩ := hloaded j hj
      obtain ⟨-, parm', hparm', hsecond⟩ := hloaded' j hj'
      obtain rfl := Option.some.inj (hparm.symm.trans hparm')
      rw [loadsModule_exclusive hfirst] at hsecond
      cases hsecond
    · have deploy : deployPlugins env clean = (w', exit) := by
        unfold deployPlugins
        rw [hpass]
        split
        · next heq => exact absurd (Prod.mk.inj heq).2 hnext
        · next heq => rw [heq]
      have modules : deployedModules env clean =
          modulesLoaded env.devMode env.dynlinkModuleName true 0 env.parms clean := by
        unfold deployedModules
        rw [hpass]
        dsimp only
        split
        · next heq => exact absurd (Prod.mk.inj heq).2 hnext
        · rfl
      refine ⟨deploy ▸ hdistinct, ⟨[], dynlink, deploy ▸ hdynlink, hfrom, ?_⟩, modules ▸ honce⟩
      exact fun _ h => absurd h List.not_mem_nil

/-- A parameter whose module answers with a plugin of no services, and its copy in LPA with the same
plugin. -/
def bareParm (moduleName pluginName nickname : Text) : PluginParm :=
  let plugin : Plugin :=
    { eyecatcher := pluginEyecatcher, version := 1, flags := pluginFlagLpa, maxServiceCount := 0
      name := pluginName, nickname := nickname, init := none, term := none
      handleCommand := none, pluginVersion := 1, services := [] }
  { name := pluginParmPrefix ++ pluginName, value := some moduleName, loaded := some plugin
    validationRecovery := true
    env :=
      { anchorStorage := true, lpaDelete := 0, lpaAdd := 0, lpaModule := 4096
        relocated := some plugin, init := .returned 0
        services := fun _ => ⟨true, .returned 0, true⟩ } }

/-- A start whose dynamic linkage plugin stands behind two others of one name. -/
def lateDynlinkStart : StartEnv :=
  { devMode := false, serverAnchorStorage := true, serviceTableStorage := true
    lpaDelete := fun _ => 0, dynlinkModuleName := "ZWESISDL".toList
    parms :=
      [bareParm "ZWESIS02".toList "SECMGMT".toList "SEC".toList,
        bareParm "ZWESIS03".toList "SECMGMT".toList "MGMT".toList,
        bareParm "ZWESISDL".toList "DYNLINK".toList "DYNL".toList] }

theorem lateDynlinkStart_deployed :
    Deployed lateDynlinkStart (cleanRegistry lateDynlinkStart .ipl ⟨some [], []⟩) := by
  refine deployPlugins_deployed lateDynlinkStart .ipl ⟨some [], []⟩ ?_
  intro parm hmem plugin hloaded _ copy hcopy
  simp only [lateDynlinkStart, List.mem_cons, List.not_mem_nil, or_false] at hmem
  rcases hmem with rfl | rfl | rfl <;>
    exact Option.some.inj (hloaded.symm.trans hcopy) ▸ ⟨rfl, rfl⟩

end Zss.Zis
