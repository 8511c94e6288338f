import Zss.Lib.Flags
import Zss.Lib.Heap

/-!
# Service and plugin descriptors, and the anchors that outlive them

A plugin module hands the server a descriptor; the server keeps an anchor for it, and one for each
of its services, in common storage, where they stay across restarts and upgrades of the server.
This module is `service.c` and the anchor half of `plugin.c`: how a service anchor is created from a
descriptor and how one left by an earlier run is brought in line with a new descriptor.

`Carries` is what both owe: the anchor serves through the descriptor's function, at its version, in
its mode, under its SAF profile. An anchor of a version that has no room for a SAF profile cannot
carry a descriptor that asks for one, which is why `update_carries` needs compatibility.

A name is one of the fixed-size, blank-padded fields of the C structures; all the code ever does
with one is compare it whole.
-/

namespace Zss.Zis

open Zss.Lib

/-- A character field or string. -/
abbrev Text := List Char

/-- A function pointer other than NULL. -/
abbrev FnPtr := Nat

/-! ## Constants -/

def rcZisOk : Int := 0
def rcZisError : Int := 8

def serviceFlagSpaceSwitch : BitVec 32 := 1#32
def serviceFlagSpecificAuth : BitVec 32 := 2#32

def serviceAnchorFlagSpaceSwitch : BitVec 32 := 1#32
def serviceAnchorFlagSpecificAuth : BitVec 32 := 2#32

def serviceAnchorStateActive : BitVec 32 := 1#32
def serviceAnchorStateDiscarded : BitVec 32 := 2#32

def serviceAnchorVersion : Int := 2
def serviceAnchorVersionSafSupport : Int := 2

def serviceVersion : Int := 2
def serviceEyecatcher : Text := ['Z', 'I', 'S', 'S', 'R', 'V', 'C', 'E']

def pluginVersion : Int := 1
def pluginAnchorVersion : Int := 1
def pluginEyecatcher : Text := ['Z', 'I', 'S', 'P', 'L', 'U', 'G', 'N']

def pluginFlagLpa : BitVec 32 := 1#32
def pluginAnchorFlagLpa : BitVec 32 := 1#32

/-- A service version that every service satisfies. -/
def serviceAnyVersion : Nat := 0xFFFFFFFF

/-! ## Descriptors and anchors -/

/-- `ZISServicePath`: how a caller names a service. -/
structure ServicePath where
  pluginName : Text
  serviceName : Text
deriving DecidableEq

/-- `ZISService`, the descriptor of one service. -/
structure Service where
  eyecatcher : Text
  version : Int
  flags : BitVec 32
  /-- The anchor field as the module returned it; the server overwrites it. -/
  anchor : Option Addr
  name : Text
  init : Option FnPtr
  term : Option FnPtr
  serve : Option FnPtr
  serviceVersion : Nat
  safClassName : Text
  safEntityName : Text
deriving DecidableEq

/-- `ZISPlugin`, the descriptor of a plugin with its `serviceCount` services. -/
structure Plugin where
  eyecatcher : Text
  version : Int
  flags : BitVec 32
  maxServiceCount : Nat
  name : Text
  nickname : Text
  init : Option FnPtr
  term : Option FnPtr
  handleCommand : Option FnPtr
  pluginVersion : Nat
  services : List Service
deriving DecidableEq

/-- `ZISServiceAnchor`, in common storage. -/
structure ServiceAnchor where
  version : Int
  flags : BitVec 32
  state : BitVec 32
  path : ServicePath
  serviceVersion : Nat
  serve : Option FnPtr
  safClassName : Text
  safEntityName : Text

/-- `ZISPluginAnchor`, in common storage. `firstService` is the chain of its service anchors. -/
structure PluginAnchor where
  version : Int
  flags : BitVec 32
  name : Text
  pluginVersion : Nat
  firstService : List Addr
  /-- The entry point of the module copy in LPA, zero where there is none. -/
  moduleInfo : Nat

def ServiceAnchor.active (a : ServiceAnchor) : Bool := hasFlag a.state serviceAnchorStateActive

def ServiceAnchor.discarded (a : ServiceAnchor) : Bool :=
  hasFlag a.state serviceAnchorStateDiscarded

def ServiceAnchor.spaceSwitch (a : ServiceAnchor) : Bool :=
  hasFlag a.flags serviceAnchorFlagSpaceSwitch

def ServiceAnchor.specificAuth (a : ServiceAnchor) : Bool :=
  hasFlag a.flags serviceAnchorFlagSpecificAuth

def Service.spaceSwitch (s : Service) : Bool := hasFlag s.flags serviceFlagSpaceSwitch

def Service.specificAuth (s : Service) : Bool := hasFlag s.flags serviceFlagSpecificAuth

/-! ## The functions of `service.c` -/

/-- The flag word a new anchor gets for a descriptor's two flags. -/
def createdFlags (spaceSwitch specificAuth : Bool) : BitVec 32 :=
  let flags := 0#32
  let flags := if spaceSwitch then setFlag flags serviceAnchorFlagSpaceSwitch else flags
  if specificAuth then setFlag flags serviceAnchorFlagSpecificAuth else flags

/-- `zisCreateServiceAnchor`; `storage` is whether `cmAlloc` had any. -/
def zisCreateServiceAnchor (storage : Bool) (plugin : Plugin) (service : Service) :
    Option ServiceAnchor :=
  if !storage then none
  else
    some
      { version := serviceAnchorVersion
        flags := createdFlags service.spaceSwitch service.specificAuth
        state := 0#32
        path := ⟨plugin.name, service.name⟩
        serviceVersion := service.serviceVersion
        serve := service.serve
        safClassName := service.safClassName
        safEntityName := service.safEntityName }

/-- `zisUpdateServiceAnchor`. The SAF fields are copied only where the anchor has them. -/
def zisUpdateServiceAnchor (anchor : ServiceAnchor) (service : Service) : ServiceAnchor :=
  let anchor :=
    { anchor with
      flags := service.flags
      serve := service.serve
      serviceVersion := service.serviceVersion }
  if service.specificAuth ∧ serviceAnchorVersionSafSupport ≤ anchor.version then
    { anchor with
      safClassName := service.safClassName
      safEntityName := service.safEntityName }
  else anchor

/-- `isServiceAnchorCompatible`, of `server.c`. -/
def isServiceAnchorCompatible (service : Service) (anchor : ServiceAnchor) : Bool :=
  let hasSAF := service.specificAuth
  if hasSAF && anchor.version < serviceAnchorVersionSafSupport then false else true

/-! ## What an anchor owes its descriptor -/

/-- An anchor carries a descriptor: it serves through its function, at its version and in its mode,
and demands exactly the authorization the descriptor demands. -/
structure Carries (anchor : ServiceAnchor) (service : Service) : Prop where
  serve : anchor.serve = service.serve
  serviceVersion : anchor.serviceVersion = service.serviceVersion
  spaceSwitch : anchor.spaceSwitch = service.spaceSwitch
  specificAuth : anchor.specificAuth = service.specificAuth
  saf : service.specificAuth = true →
    anchor.safClassName = service.safClassName ∧ anchor.safEntityName = service.safEntityName

/-- The two state bits share no bit. -/
theorem anchorStates_apart :
    Apart serviceAnchorStateActive serviceAnchorStateDiscarded ∧
      Apart serviceAnchorStateDiscarded serviceAnchorStateActive := by
  constructor <;> decide

/-- The two flags of a new anchor's flag word are the two it was made from. -/
theorem createdFlags_tests : ∀ spaceSwitch specificAuth : Bool,
    hasFlag (createdFlags spaceSwitch specificAuth) serviceAnchorFlagSpaceSwitch = spaceSwitch ∧
      hasFlag (createdFlags spaceSwitch specificAuth) serviceAnchorFlagSpecificAuth =
        specificAuth := by
  decide

/-- What a created anchor looks like. -/
theorem zisCreateServiceAnchor_some {storage : Bool} {plugin : Plugin} {service : Service}
    {anchor : ServiceAnchor} (h : zisCreateServiceAnchor storage plugin service = some anchor) :
    storage = true ∧ anchor.path = ⟨plugin.name, service.name⟩ ∧ anchor.state = 0#32 ∧
      Carries anchor service := by
  unfold zisCreateServiceAnchor at h
  cases storage with
  | false => simp at h
  | true =>
    simp only [Bool.not_true, Bool.false_eq_true, ↓reduceIte, Option.some.injEq] at h
    subst h
    have flags := createdFlags_tests service.spaceSwitch service.specificAuth
    exact ⟨rfl, rfl, rfl, rfl, rfl, flags.1, flags.2, fun _ => ⟨rfl, rfl⟩⟩

/-- An update keeps what identifies the anchor. -/
theorem zisUpdateServiceAnchor_identity (anchor : ServiceAnchor) (service : Service) :
    (zisUpdateServiceAnchor anchor service).path = anchor.path ∧
      (zisUpdateServiceAnchor anchor service).state = anchor.state ∧
      (zisUpdateServiceAnchor anchor service).version = anchor.version := by
  unfold zisUpdateServiceAnchor
  dsimp only
  split <;> exact ⟨rfl, rfl, rfl⟩

/-- **An update of a compatible anchor makes it carry the descriptor.** -/
theorem update_carries {anchor : ServiceAnchor} {service : Service}
    (compatible : isServiceAnchorCompatible service anchor = true) :
    Carries (zisUpdateServiceAnchor anchor service) service := by
  have room : service.specificAuth = true → serviceAnchorVersionSafSupport ≤ anchor.version := by
    intro hs
    simp only [isServiceAnchorCompatible, hs, Bool.true_and, decide_eq_true_eq] at compatible
    by_contra hlt
    rw [if_pos (by omega)] at compatible
    exact absurd compatible (by decide)
  unfold zisUpdateServiceAnchor
  dsimp only
  split
  · exact ⟨rfl, rfl, rfl, rfl, fun _ => ⟨rfl, rfl⟩⟩
  · next hno => exact ⟨rfl, rfl, rfl, rfl, fun hs => absurd ⟨hs, room hs⟩ hno⟩

end Zss.Zis
