import Zss.Lib.Flags
import Zss.Lib.Machine
import Zss.Lib.Storage

/-!
# The dynamic linkage vector

`zisdynamic.c`, its init and its termination. The plugin publishes a vector of routine addresses in
the cross-memory server's global area. That area, the vector and the plugin's own record of it are
in common storage: they outlast the server, and the next one takes the vector up again, in place or
after giving the old one back.

A run of `dynamicPlugin` is a sequence of inits and terminations under any development-mode flags.
Two things are asked of the published address. After an init that succeeds it is a complete vector,
the plugin's own (`InstalledVector`), and this holds of every run. At any time it is no address or
that of a vector in use (`World.Published`), and here an init in development mode can fail: it gives
the published vector back before it has the next one, and without storage for that it returns with
the old address still published. `published_iff` says that nothing else goes wrong.

The routines' slot numbers are generated (`stubinit.c`), the vector's key and subpool are those of
the ZVT: all three are arguments. `rleAnchor` is the server's own, and what it is told is left out.

## What is not established

That the routine in a slot is the one its number stands for, and anything of a program that still
calls through a vector that was given back.
-/

namespace Zss.Zis.Dynamic

open Zss.Lib

/-- The name of a routine, for its address. -/
abbrev Routine := String

/-! ## The stub vector -/

def maxZisStubs : Nat := 1000

def zisStubsVersion : UInt16 := 4

def stubVecEyecatcher : String := "ZWESISSV"

def stubVecVersion : UInt8 := 1

/-- `sizeof(ZISDynStubVector)`, the header and one pointer a slot. -/
def stubVectorSize : UInt16 := 0x28 + 1000 * 8

/-- What the plugin's build takes from elsewhere: the key and the subpool of the ZVT, and the
assignments of `stubinit.c`. -/
structure Build where
  stubVecKey : UInt8
  stubVecSubpool : UInt8
  stubs : List (Fin maxZisStubs × Routine)

/-- `ZISDynStubVector`; a slot is a routine's address or NULL. -/
structure ZISDynStubVector where
  eyecatcher : String
  version : UInt8
  key : UInt8
  subpool : UInt8
  size : UInt16
  creationTime : UInt64
  jobName : String
  asid : UInt16
  stubsVersion : UInt16
  slots : List (Option Routine)

/-- What `initStubVector` reads from its surroundings. -/
structure Surroundings where
  clock : UInt64
  jobName : Option String
  asid : UInt16

def zisdynUndefinedStub : Routine := "zisdynUndefinedStub"

/-- `assignSlots`. -/
def assignSlots (stubs : List (Fin maxZisStubs × Routine)) (slots : List (Option Routine)) :
    List (Option Routine) :=
  stubs.foldl (fun slots stub => slots.set stub.1 (some stub.2)) slots

/-- `initStubVector`: it clears the vector it is given, so nothing of it remains. -/
def initStubVector (build : Build) (around : Surroundings) : ZISDynStubVector where
  eyecatcher := stubVecEyecatcher
  version := stubVecVersion
  key := build.stubVecKey
  subpool := build.stubVecSubpool
  size := stubVectorSize
  creationTime := around.clock
  jobName := around.jobName.getD "        "
  asid := around.asid
  stubsVersion := zisStubsVersion
  slots := assignSlots build.stubs (List.replicate maxZisStubs (some zisdynUndefinedStub))

/-- `isStubVectorValid`. -/
def isStubVectorValid (build : Build) (vector : ZISDynStubVector) : Bool :=
  if vector.eyecatcher ≠ stubVecEyecatcher then false
  else if vector.version > stubVecVersion then false
  else if vector.size < stubVectorSize then false
  else if vector.key ≠ build.stubVecKey then false
  else if vector.subpool ≠ build.stubVecSubpool then false
  else true

/-- Every slot of the vector holds an address. -/
def AllAssigned (slots : List (Option Routine)) : Prop :=
  slots.length = maxZisStubs ∧ ∀ slot ∈ slots, slot ≠ none

theorem assignSlots_assigned {stubs : List (Fin maxZisStubs × Routine)}
    {slots : List (Option Routine)} (h : AllAssigned slots) :
    AllAssigned (assignSlots stubs slots) := by
  induction stubs generalizing slots with
  | nil => exact h
  | cons stub stubs ih =>
    apply ih
    refine ⟨by rw [List.length_set]; exact h.1, ?_⟩
    intro slot hslot
    rcases List.mem_or_eq_of_mem_set hslot with hold | rfl
    · exact h.2 slot hold
    · exact Option.some_ne_none stub.2

theorem initStubVector_assigned (build : Build) (around : Surroundings) :
    AllAssigned (initStubVector build around).slots := by
  apply assignSlots_assigned
  refine ⟨List.length_replicate, ?_⟩
  intro slot hslot
  rw [List.eq_of_mem_replicate hslot]
  exact Option.some_ne_none zisdynUndefinedStub

theorem initStubVector_valid (build : Build) (around : Surroundings) :
    isStubVectorValid build (initStubVector build around) = true := by
  simp [isStubVectorValid, initStubVector]

/-! ## Common storage -/

/-- `DynamicPluginData`, in the plugin's anchor. -/
structure DynamicPluginData where
  initTime : UInt64
  stubVector : Option Addr

/-- The vectors in common storage, the plugin's record, the server anchor's flags and the address in
the global area. -/
structure World where
  vectors : Storage ZISDynStubVector
  pluginData : DynamicPluginData
  zisAnchorFlags : BitVec 32
  userServerDynLinkVector : Option Addr

def zisServerAnchorFlagDynlink : BitVec 32 := 0x0001

/-- The flags that `zisIsLPADevModeOn` tests: the server's two development-mode flags and the
compile-time switch. -/
structure DevMode where
  lpa : Bool
  all : Bool
  compiled : Bool

def zisIsLPADevModeOn (mode : DevMode) : Bool := (mode.lpa || mode.all) || mode.compiled

namespace World

def setInitTime (w : World) (time : UInt64) : World :=
  { w with pluginData := { w.pluginData with initTime := time } }

def setStubVector (w : World) (stubVector : Option Addr) : World :=
  { w with pluginData := { w.pluginData with stubVector := stubVector } }

/-- The published address is NULL or that of a vector in use. -/
def Published (w : World) : Prop := w.vectors.PointsIn w.userServerDynLinkVector

/-- The plugin's own address is NULL or that of a vector in use. -/
def Recorded (w : World) : Prop := w.vectors.PointsIn w.pluginData.stubVector

instance (w : World) : Decidable w.Published :=
  inferInstanceAs (Decidable (w.vectors.PointsIn w.userServerDynLinkVector))

instance (w : World) : Decidable w.Recorded :=
  inferInstanceAs (Decidable (w.vectors.PointsIn w.pluginData.stubVector))

end World

/-! ## Init and termination -/

def rcZisdynOk : Int := 0
def rcZisdynUnsupportedZis : Int := 8
def rcZisdynAllocFailed : Int := 16
def rcZisdynEnvError : Int := 17

/-- One init: the flags it runs under, the clock, whether there is a CAA, whether there is storage
for a vector, and what the vector is stamped with. -/
structure Init where
  devMode : DevMode
  initTime : UInt64
  caa : Bool
  storage : Bool
  around : Surroundings

/-- `enableDynLink`, which the server's start does before any plugin's init. -/
def enableDynLink (w : World) : World :=
  { w with zisAnchorFlags := setFlag w.zisAnchorFlags zisServerAnchorFlagDynlink }

/-- `deleteStubVector`. -/
def deleteStubVector (w : World) (a : Addr) : World := { w with vectors := w.vectors.release a }

/-- The vector that an init takes up again: not an invalid one, which it leaves where it is, and in
development mode none, which it gives back. The plugin's record is cleared in any case. -/
def takeUpStubVector (build : Build) (devMode : DevMode) (w : World) : World × Option Addr :=
  let cleared := w.setStubVector none
  match w.pluginData.stubVector with
  | none => (cleared, none)
  | some a =>
    if !(w.vectors.get a).any (isStubVectorValid build) then (cleared, none)
    else if zisIsLPADevModeOn devMode then (deleteStubVector cleared a, none)
    else (cleared, some a)

/-- The vector of this init: a new one, unless one was taken up. -/
def prepareStubVector (build : Build) (env : Init) (w : World) : Option Addr → Option (World × Addr)
  | some a =>
    some ({ w with vectors := w.vectors.modify a fun _ => initStubVector build env.around }, a)
  | none =>
    if env.storage then
      some ({ w with vectors := w.vectors.obtain (initStubVector build env.around) },
        w.vectors.fresh)
    else none

/-- `installDynamicLinkageVector`. -/
def installDynamicLinkageVector (w : World) (a : Addr) : World × Int :=
  if hasFlag w.zisAnchorFlags zisServerAnchorFlagDynlink then
    ({ w with userServerDynLinkVector := some a }, rcZisdynOk)
  else (w, rcZisdynUnsupportedZis)

/-- `initZISDynamic`. -/
def initZISDynamic (build : Build) (env : Init) (w : World) : World × Int :=
  let timed := w.setInitTime env.initTime
  if !env.caa then (timed, rcZisdynEnvError)
  else
    let (taken, stubVector) := takeUpStubVector build env.devMode timed
    match prepareStubVector build env taken stubVector with
    | none => (taken, rcZisdynAllocFailed)
    | some (prepared, a) =>
      let (installed, status) := installDynamicLinkageVector prepared a
      (installed.setStubVector (some a), status)

/-- `termZISDynamic`: the published address is withdrawn in development mode only. -/
def termZISDynamic (devMode : DevMode) (w : World) : World × Int :=
  let timed := w.setInitTime (-1)
  if zisIsLPADevModeOn devMode then ({ timed with userServerDynLinkVector := none }, rcZisdynOk)
  else (timed, rcZisdynOk)

/-- What happens to the plugin. -/
inductive Step where
  | init (env : Init)
  | term (devMode : DevMode)

/-- The plugin under a sequence of server starts and stops. -/
def dynamicPlugin (build : Build) : Machine World Step where
  step w
    | .init env => some (initZISDynamic build env (enableDynLink w)).1
    | .term devMode => some (termZISDynamic devMode w).1

/-! ## What one init does -/

/-- The published vector is the plugin's own, valid, with an address in every slot. -/
def InstalledVector (build : Build) (w : World) : Prop :=
  ∃ a vector, w.userServerDynLinkVector = some a ∧ w.pluginData.stubVector = some a ∧
    w.vectors.get a = some vector ∧ isStubVectorValid build vector = true ∧
    AllAssigned vector.slots

/-- The init gives back the vector whose address is published. -/
def deletesPublished (build : Build) (env : Init) (w : World) : Bool :=
  env.caa && zisIsLPADevModeOn env.devMode &&
    match w.pluginData.stubVector with
    | none => false
    | some a =>
      (w.vectors.get a).any (isStubVectorValid build) && w.userServerDynLinkVector = some a

section

variable {build : Build} {env : Init} {w : World}

theorem hasFlag_enableDynLink (w : World) :
    hasFlag (enableDynLink w).zisAnchorFlags zisServerAnchorFlagDynlink = true :=
  hasFlag_setFlag_self _ (by decide)

theorem takeUpStubVector_flags (devMode : DevMode) :
    (takeUpStubVector build devMode w).1.zisAnchorFlags = w.zisAnchorFlags := by
  unfold takeUpStubVector
  cases w.pluginData.stubVector with
  | none => rfl
  | some a =>
    dsimp only
    split
    next => rfl
    next => split <;> rfl

/-- A vector taken up again is the plugin's own, and nothing else has changed. -/
theorem takeUpStubVector_some {devMode : DevMode} {a : Addr}
    (h : (takeUpStubVector build devMode w).2 = some a) :
    takeUpStubVector build devMode w = (w.setStubVector none, some a) ∧
      w.pluginData.stubVector = some a := by
  unfold takeUpStubVector at h ⊢
  cases hrecord : w.pluginData.stubVector with
  | none =>
    rw [hrecord] at h
    cases h
  | some b =>
    rw [hrecord] at h
    dsimp only at h ⊢
    split at h
    next => cases h
    next hvalid =>
      split at h
      next => cases h
      next hmode =>
        cases h
        rw [if_neg hvalid, if_neg hmode]
        exact ⟨rfl, rfl⟩

/-- Taking a vector up takes the published one away exactly if it gives it back. -/
theorem takeUpStubVector_published (start : w.Published) (hcaa : env.caa = true) :
    (takeUpStubVector build env.devMode w).1.Published ↔ deletesPublished build env w = false := by
  unfold takeUpStubVector deletesPublished
  cases w.pluginData.stubVector with
  | none =>
    rw [Bool.and_false]
    exact ⟨fun _ => rfl, fun _ => start⟩
  | some a =>
    dsimp only
    rw [hcaa, Bool.true_and]
    split
    next hinvalid =>
      rw [Bool.not_eq_true'] at hinvalid
      rw [hinvalid, Bool.false_and, Bool.and_false]
      exact ⟨fun _ => rfl, fun _ => start⟩
    next hvalid =>
      rw [Bool.not_eq_true', Bool.not_eq_false] at hvalid
      rw [hvalid, Bool.true_and]
      split
      next hmode =>
        rw [hmode, Bool.true_and, decide_eq_false_iff_not]
        show (w.vectors.release a).PointsIn w.userServerDynLinkVector ↔ _
        constructor
        · intro hpub heq
          exact Storage.not_live_release_self _ a (hpub a heq)
        · intro hne
          exact Storage.PointsIn.release start hne
      next hmode =>
        rw [Bool.not_eq_true] at hmode
        rw [hmode, Bool.false_and]
        exact ⟨fun _ => rfl, fun _ => start⟩

/-- A prepared vector is a fresh start of the stubs, in use, with no other block touched. -/
theorem prepareStubVector_spec {stubVector : Option Addr} {p : World} {a : Addr}
    (hin : w.vectors.PointsIn stubVector)
    (h : prepareStubVector build env w stubVector = some (p, a)) :
    p.vectors.get a = some (initStubVector build env.around) ∧
      p.zisAnchorFlags = w.zisAnchorFlags := by
  cases stubVector with
  | some b =>
    simp only [prepareStubVector, Option.some.injEq, Prod.mk.injEq] at h
    obtain ⟨rfl, rfl⟩ := h
    obtain ⟨vector, hvector⟩ := Storage.live_iff.mp (hin b rfl)
    exact ⟨by rw [Storage.get_modify_self, hvector, Option.map_some], rfl⟩
  | none =>
    rw [prepareStubVector] at h
    split at h
    next =>
      simp only [Option.some.injEq, Prod.mk.injEq] at h
      obtain ⟨rfl, rfl⟩ := h
      exact ⟨Storage.get_obtain_fresh _ _, rfl⟩
    next => cases h

/-- Preparing fails for want of storage only, and only where no vector was taken up. -/
theorem prepareStubVector_none {stubVector : Option Addr}
    (h : prepareStubVector build env w stubVector = none) :
    stubVector = none ∧ env.storage = false := by
  cases stubVector with
  | some b => cases h
  | none =>
    rw [prepareStubVector] at h
    split at h
    next => cases h
    next hstorage => exact ⟨rfl, Bool.not_eq_true _ ▸ hstorage⟩

/-- An init that takes a vector up again gives none back. -/
theorem deletesPublished_of_taken {a : Addr}
    (h : (takeUpStubVector build env.devMode w).2 = some a) :
    deletesPublished build env w = false := by
  unfold takeUpStubVector at h
  unfold deletesPublished
  cases hrecord : w.pluginData.stubVector with
  | none => rw [Bool.and_false]
  | some b =>
    rw [hrecord] at h
    dsimp only at h ⊢
    split at h
    next => cases h
    next =>
      split at h
      next => cases h
      next hmode =>
        rw [Bool.not_eq_true] at hmode
        rw [hmode, Bool.and_false, Bool.false_and]

/-- **Init.** Once the server's start has set its flag, an init finds no CAA, or finds no storage
for the vector it needs, or installs a complete one. -/
theorem initZISDynamic_cases (build : Build) (env : Init) {w : World} (hr : w.Recorded) :
    (env.caa = false ∧
      initZISDynamic build env (enableDynLink w) =
        ((enableDynLink w).setInitTime env.initTime, rcZisdynEnvError)) ∨
    (env.caa = true ∧ env.storage = false ∧
      initZISDynamic build env (enableDynLink w) =
        ((takeUpStubVector build env.devMode ((enableDynLink w).setInitTime env.initTime)).1,
          rcZisdynAllocFailed)) ∨
    ((env.storage = true ∨ deletesPublished build env w = false) ∧
      InstalledVector build (initZISDynamic build env (enableDynLink w)).1) := by
  generalize htimed : (enableDynLink w).setInitTime env.initTime = timed
  have hrecorded : timed.Recorded := by
    subst htimed
    exact hr
  have hdeletes : deletesPublished build env w = deletesPublished build env timed := by
    subst htimed
    rfl
  have hflag : hasFlag timed.zisAnchorFlags zisServerAnchorFlagDynlink = true := by
    subst htimed
    exact hasFlag_enableDynLink w
  rw [initZISDynamic, htimed]
  cases hcaa : env.caa with
  | false => exact .inl ⟨rfl, rfl⟩
  | true =>
    refine .inr ?_
    rw [if_neg (by decide)]
    dsimp only
    cases hprepare : prepareStubVector build env (takeUpStubVector build env.devMode timed).1
        (takeUpStubVector build env.devMode timed).2 with
    | none =>
      obtain ⟨-, hstorage⟩ := prepareStubVector_none hprepare
      exact .inl ⟨rfl, hstorage, rfl⟩
    | some prepared =>
      obtain ⟨p, a⟩ := prepared
      refine .inr ⟨?_, ?_⟩
      · cases htaken : (takeUpStubVector build env.devMode timed).2 with
        | some b => exact .inr (hdeletes ▸ deletesPublished_of_taken htaken)
        | none =>
          rw [htaken, prepareStubVector] at hprepare
          split at hprepare
          next hstorage => exact .inl hstorage
          next => cases hprepare
      · have hin : (takeUpStubVector build env.devMode timed).1.vectors.PointsIn
            (takeUpStubVector build env.devMode timed).2 := by
          intro b hb
          obtain ⟨heq, hrecord⟩ := takeUpStubVector_some hb
          rw [heq]
          exact hrecorded b hrecord
        obtain ⟨hget, hflags⟩ := prepareStubVector_spec hin hprepare
        rw [takeUpStubVector_flags] at hflags
        dsimp only
        rw [installDynamicLinkageVector, hflags, if_pos hflag]
        exact ⟨a, _, rfl, rfl, hget, initStubVector_valid build env.around,
          initStubVector_assigned build env.around⟩

theorem InstalledVector.published (h : InstalledVector build w) : w.Published := by
  obtain ⟨a, vector, hpub, -, hget, -⟩ := h
  rw [World.Published, hpub, Storage.pointsIn_some]
  exact Storage.live_of_get hget

theorem InstalledVector.recorded (h : InstalledVector build w) : w.Recorded := by
  obtain ⟨a, vector, -, hrecord, hget, -⟩ := h
  rw [World.Recorded, hrecord, Storage.pointsIn_some]
  exact Storage.live_of_get hget

theorem takeUpStubVector_record (devMode : DevMode) :
    (takeUpStubVector build devMode w).1.pluginData.stubVector = none := by
  unfold takeUpStubVector
  cases w.pluginData.stubVector with
  | none => rfl
  | some a =>
    dsimp only
    split
    next => rfl
    next => split <;> rfl

theorem step_recorded (build : Build) {w w' : World} {step : Step} (hr : w.Recorded)
    (h : (dynamicPlugin build).step w step = some w') : w'.Recorded := by
  cases step with
  | init env =>
    rw [dynamicPlugin, Option.some.injEq] at h
    rcases initZISDynamic_cases build env hr with ⟨-, heq⟩ | ⟨-, -, heq⟩ | ⟨-, hinstalled⟩
    · rw [heq] at h
      exact h ▸ hr
    · rw [heq] at h
      subst h
      rw [World.Recorded, takeUpStubVector_record]
      exact Storage.pointsIn_none _
    · exact h ▸ hinstalled.recorded
  | term devMode =>
    rw [dynamicPlugin, Option.some.injEq, termZISDynamic] at h
    subst h
    split
    next => exact hr
    next => exact hr

/-- **One init.** It leaves a published address alone or replaces it by that of a vector in use,
unless it gives the published vector back and then has no storage for the next. -/
theorem init_published_iff (build : Build) (env : Init) {w : World} (hr : w.Recorded)
    (start : w.Published) :
    (initZISDynamic build env (enableDynLink w)).1.Published ↔
      (deletesPublished build env w = true → env.storage = true) := by
  rcases initZISDynamic_cases build env hr with ⟨hcaa, heq⟩ | ⟨hcaa, hs, heq⟩ | ⟨hs, hinstalled⟩
  · rw [heq, deletesPublished, hcaa]
    exact ⟨fun _ h => by simp at h, fun _ => start⟩
  · rw [heq, hs]
    refine (takeUpStubVector_published (w := (enableDynLink w).setInitTime env.initTime) start
      hcaa).trans ?_
    show deletesPublished build env w = false ↔ _
    cases deletesPublished build env w <;> simp
  · refine ⟨fun _ hdeletes => ?_, fun _ => hinstalled.published⟩
    rcases hs with hs | hs
    · exact hs
    · rw [hdeletes] at hs
      cases hs

theorem init_installed (build : Build) (env : Init) {w : World} (hr : w.Recorded)
    (hok : (initZISDynamic build env (enableDynLink w)).2 = rcZisdynOk) :
    InstalledVector build (initZISDynamic build env (enableDynLink w)).1 := by
  rcases initZISDynamic_cases build env hr with ⟨-, heq⟩ | ⟨-, -, heq⟩ | ⟨-, hinstalled⟩
  · rw [heq] at hok
    cases hok
  · rw [heq] at hok
    cases hok
  · exact hinstalled

/-- A published vector that an init gives back is the plugin's own. -/
theorem published_of_deletesPublished (hr : w.Recorded)
    (h : deletesPublished build env w = true) : w.Published := by
  unfold deletesPublished at h
  cases hrecord : w.pluginData.stubVector with
  | none =>
    rw [hrecord, Bool.and_false] at h
    cases h
  | some a =>
    rw [hrecord] at h
    simp only [Bool.and_eq_true, decide_eq_true_eq] at h
    rw [World.Published, h.2.2, ← hrecord]
    exact hr

end

/-! ## Runs -/

/-- An init that gives the published vector back has storage for the next one. -/
def HasReplacement (build : Build) (w : World) : Step → Prop
  | .init env => deletesPublished build env w = true → env.storage = true
  | .term _ => True

theorem step_published (build : Build) {w w' : World} {step : Step} (hr : w.Recorded)
    (start : w.Published) (hc : HasReplacement build w step)
    (h : (dynamicPlugin build).step w step = some w') : w'.Published := by
  cases step with
  | init env =>
    rw [dynamicPlugin, Option.some.injEq] at h
    exact h ▸ (init_published_iff build env hr start).mpr hc
  | term devMode =>
    rw [dynamicPlugin, Option.some.injEq, termZISDynamic] at h
    subst h
    split
    next => exact Storage.pointsIn_none _
    next => exact start

/-- An init in development mode that finds no storage once the published vector is given back. -/
theorem step_dangles (build : Build) {w w' : World} {step : Step} (hr : w.Recorded)
    (hc : ¬ HasReplacement build w step) (h : (dynamicPlugin build).step w step = some w') :
    ¬ w'.Published := by
  cases step with
  | init env =>
    rw [dynamicPlugin, Option.some.injEq] at h
    subst h
    intro hpublished
    apply hc
    intro hdeletes
    exact (init_published_iff build env hr (published_of_deletesPublished hr hdeletes)).mp
      hpublished hdeletes
  | term devMode => exact absurd trivial hc

/-- **The published vector, exactly.** In a run of inits and terminations from any vectors in common
storage, the published address is at all times NULL or that of a vector in use, and every init that
succeeds publishes its own complete vector, exactly if no init of the run gives the published vector
back and then has no storage for the next. -/
theorem published_iff (build : Build) {w u : World} {steps : List Step} (start : w.Published)
    (recorded : w.Recorded) (hrun : (dynamicPlugin build).run w steps = some u) :
    ((∀ v, (dynamicPlugin build).Visits w steps v → v.Published) ∧
      ∀ v, (dynamicPlugin build).Visits w steps v → ∀ env,
        (initZISDynamic build env (enableDynLink v)).2 = rcZisdynOk →
          InstalledVector build (initZISDynamic build env (enableDynLink v)).1) ↔
      (dynamicPlugin build).Meets (HasReplacement build) w steps := by
  have always : ∀ s e t, World.Recorded s → (dynamicPlugin build).step s e = some t →
      World.Recorded t := fun s e t hr hstep => step_recorded build hr hstep
  have published := (dynamicPlugin build).visits_iff_meets always
    (fun s e t hr hp hc hstep => step_published build hr hp hc hstep)
    (fun s e t hr hc hstep => step_dangles build hr hc hstep) recorded start hrun
  refine ⟨fun h => published.mp h.1, fun h => ⟨published.mpr h, ?_⟩⟩
  intro v hv env hok
  exact init_installed build env ((dynamicPlugin build).visits_keeps_always always recorded hv) hok

/-! ## A development start without storage -/

def sampleBuild : Build where
  stubVecKey := 4
  stubVecSubpool := 228
  stubs := [(⟨1, by decide⟩, "zisdynGetStubVersion"), (⟨50, by decide⟩, "zisCallService")]

/-- An init on an address space with storage or without. -/
def sampleInit (lpa storage : Bool) : Init where
  devMode := { lpa := lpa, all := false, compiled := false }
  initTime := 1
  caa := true
  storage := storage
  around := { clock := 1, jobName := some "ZWESISTC", asid := 0x40 }

/-- Common storage after an IPL. -/
def sampleWorld : World where
  vectors := Storage.empty
  pluginData := { initTime := 0, stubVector := none }
  zisAnchorFlags := 0
  userServerDynLinkVector := none

/-- A server's start, and one in development mode after it. -/
def sampleSteps (storage : Bool) : List Step :=
  [.init (sampleInit false true), .init (sampleInit true storage)]

theorem published_iff_sample :
    ((∀ v, (dynamicPlugin sampleBuild).Visits sampleWorld (sampleSteps true) v → v.Published) ∧
      ∀ v, (dynamicPlugin sampleBuild).Visits sampleWorld (sampleSteps true) v → ∀ env,
        (initZISDynamic sampleBuild env (enableDynLink v)).2 = rcZisdynOk →
          InstalledVector sampleBuild (initZISDynamic sampleBuild env (enableDynLink v)).1) ↔
      (dynamicPlugin sampleBuild).Meets (HasReplacement sampleBuild) sampleWorld
        (sampleSteps true) := by
  obtain ⟨u, hrun⟩ : ∃ u, (dynamicPlugin sampleBuild).run sampleWorld (sampleSteps true) = some u :=
    ⟨_, rfl⟩
  exact published_iff sampleBuild (by decide) (by decide) hrun

/-- A start in development mode that finds a published vector and no storage for its own: the
vector is given back, and its address stays published. -/
theorem published_vector_freed :
    ∃ u, (dynamicPlugin sampleBuild).run sampleWorld (sampleSteps false) = some u ∧
      ¬ u.Published := by
  refine ⟨_, rfl, ?_⟩
  decide +kernel

end Zss.Zis.Dynamic
