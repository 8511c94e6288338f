import Zss.Zis.Server

/-!
# The service router and its client

`zisRouteService` is what both router PCs run: it copies the caller's parameter list, looks the path
up in the service table and, after its checks, branches to the serve function of the anchor it
found. A request is the parameter list and the PC it was issued against. The client's half,
`zisCallServiceInternal`, picks that PC from the flag of the anchor it sees.

The router's calls are listed in their order: the authorization test with its answer and the branch
to the serve function. How it ends is apart: with a code of its own, with whatever the serve
function returned, or by running off a structure that is not there.
-/

namespace Zss.Zis

open Zss.Lib

def rcZisSrvcOk : Int := 0
def rcZisSrvcStatusNull : Int := 2
def rcZisSrvcServiceFailed : Int := 4
def rcZisSrvcCmsFailed : Int := 8
def rcZisSrvcGlobalAreaNull : Int := 9
def rcZisSrvcSeverAnchorNull : Int := 10
def rcZisSrvcServiceTableNull : Int := 11
def rcZisSrvcBadEyecatcher : Int := 12
def rcZisSrvcBadRouterVersion : Int := 13
def rcZisSrvcServiceNotFound : Int := 14
def rcZisSrvcBadServiceVersion : Int := 15
def rcZisSrvcServiceInactive : Int := 16
def rcZisSrvcSpecificAuthFailed : Int := 17

def serviceRouterEyecatcher : Text := ['Z', 'I', 'S', 'S', 'R', 'E', 'Y', 'E']
def serviceRouterVersion : Nat := 1

/-- `ZISServiceRouterParm`, as far as the router reads it. -/
structure RouterParm where
  eyecatcher : Text
  version : Nat
  targetServicePath : ServicePath
  serviceVersion : Nat
deriving DecidableEq

/-- A call the router makes. -/
inductive RouterCall where
  | cmsTestAuth (className entityName : Text) (authorized : Bool)
  | serve (anchor : Addr) (fn : Option FnPtr)
deriving DecidableEq

/-- How the router ends. -/
inductive RouterEnd where
  | rc (code : Int)
  | served
  | abend

/-- `zisRouteService`; `auth` is `cmsTestAuth` on the caller of this request. -/
def zisRouteService (auth : Text → Text → Bool) (w : World) (parm : RouterParm) :
    List RouterCall × RouterEnd :=
  if parm.eyecatcher ≠ serviceRouterEyecatcher then ([], .rc rcZisSrvcBadEyecatcher)
  else if parm.version > serviceRouterVersion then ([], .rc rcZisSrvcBadRouterVersion)
  else
    match w.serviceTable with
    | none => ([], .abend)
    | some table =>
      match crossMemoryMapGet table parm.targetServicePath with
      | none => ([], .rc rcZisSrvcServiceNotFound)
      | some a =>
        match w.serviceAnchors.read a with
        | none => ([], .abend)
        | some anchor =>
          if parm.serviceVersion > anchor.serviceVersion ∧ parm.serviceVersion ≠ serviceAnyVersion
          then ([], .rc rcZisSrvcBadServiceVersion)
          else if !anchor.active then ([], .rc rcZisSrvcServiceInactive)
          else if anchor.specificAuth then
            if !auth anchor.safClassName anchor.safEntityName then
              ([.cmsTestAuth anchor.safClassName anchor.safEntityName false],
                .rc rcZisSrvcSpecificAuthFailed)
            else
              ([.cmsTestAuth anchor.safClassName anchor.safEntityName true, .serve a anchor.serve],
                .served)
          else ([.serve a anchor.serve], .served)

/-! ## The router PCs and the client -/

/-- The two PCs `registerZISServiceRouter` registers the router under. -/
inductive RouterPc where
  | ss
  | cp
deriving DecidableEq

/-- Whether the PC is registered with `CMS_SERVICE_FLAG_SPACE_SWITCH`. -/
def RouterPc.spaceSwitch : RouterPc → Bool
  | .ss => true
  | .cp => false

/-- The function registered for a router PC. -/
def RouterPc.handler : RouterPc →
    ((Text → Text → Bool) → World → RouterParm → List RouterCall × RouterEnd)
  | .ss => zisRouteService
  | .cp => zisRouteService

/-- What the client finds before it looks at the registry. -/
structure ClientEnv where
  statusGiven : Bool
  globalAreaFound : Bool
  serverReady : Bool

/-- `zisCallServiceInternal` up to `cmsCallService3`: a return code, or the PC it issues with the
parameter list it passes. -/
def zisCallServiceInternal (env : ClientEnv) (w : World) (path : ServicePath) (version : Nat) :
    Except Int (RouterPc × RouterParm) :=
  if !env.statusGiven then .error rcZisSrvcStatusNull
  else if !env.globalAreaFound then .error rcZisSrvcGlobalAreaNull
  else if !env.serverReady then .error rcZisSrvcCmsFailed
  else
    match w.serverAnchor with
    | none => .error rcZisSrvcSeverAnchorNull
    | some serverAnchor =>
      match serverAnchor.serviceTable with
      | none => .error rcZisSrvcServiceTableNull
      | some table =>
        match (crossMemoryMapGet table path).bind w.serviceAnchors.read with
        | none => .error rcZisSrvcServiceNotFound
        | some anchor =>
          .ok (if anchor.spaceSwitch then .ss else .cp,
            ⟨serviceRouterEyecatcher, serviceRouterVersion, path, version⟩)

/-! ## What a request comes to -/

/-- The anchor a router request comes to, past the router's own checks. -/
structure Dispatched (auth : Text → Text → Bool) (w : World) (parm : RouterParm) (a : Addr)
    (anchor : ServiceAnchor) : Prop where
  eyecatcher : parm.eyecatcher = serviceRouterEyecatcher
  version : parm.version ≤ serviceRouterVersion
  found : ∃ table, w.serviceTable = some table ∧
    crossMemoryMapGet table parm.targetServicePath = some a
  read : w.serviceAnchors.read a = some anchor
  serviceVersion : parm.serviceVersion ≤ anchor.serviceVersion ∨
    parm.serviceVersion = serviceAnyVersion
  active : anchor.active = true
  authorized : anchor.specificAuth = true →
    auth anchor.safClassName anchor.safEntityName = true

/-- A structure the router relies on is missing: the service table, or an anchor it names. -/
def RouterMissing (w : World) (parm : RouterParm) : Prop :=
  w.serviceTable = none ∨ ∃ table a, w.serviceTable = some table ∧
    crossMemoryMapGet table parm.targetServicePath = some a ∧ w.serviceAnchors.read a = none

/-- The calls of a request that is served. -/
def dispatchCalls (a : Addr) (anchor : ServiceAnchor) : List RouterCall :=
  if anchor.specificAuth then
    [.cmsTestAuth anchor.safClassName anchor.safEntityName true, .serve a anchor.serve]
  else [.serve a anchor.serve]

/-- Everything a request can come to. -/
inductive Routed (auth : Text → Text → Bool) (w : World) (parm : RouterParm) :
    List RouterCall × RouterEnd → Prop
  | refused {calls : List RouterCall} {code : Int} :
      (∀ a fn, .serve a fn ∉ calls) → code ≠ rcZisSrvcOk → Routed auth w parm (calls, .rc code)
  | missing : RouterMissing w parm → Routed auth w parm ([], .abend)
  | dispatched {a : Addr} {anchor : ServiceAnchor} :
      Dispatched auth w parm a anchor → Routed auth w parm (dispatchCalls a anchor, .served)

/-- **The router, read backwards.** -/
theorem zisRouteService_routed (auth : Text → Text → Bool) (w : World) (parm : RouterParm) :
    Routed auth w parm (zisRouteService auth w parm) := by
  have noCalls : ∀ a fn, RouterCall.serve a fn ∉ ([] : List RouterCall) := fun _ _ => by simp
  unfold zisRouteService
  split
  · exact .refused noCalls (by decide)
  next heye =>
  split
  · exact .refused noCalls (by decide)
  next hversion =>
  split
  · next hnone => exact .missing (.inl hnone)
  next table htable =>
  split
  · exact .refused noCalls (by decide)
  next a ha =>
  split
  · next hread => exact .missing (.inr ⟨table, a, htable, ha, hread⟩)
  next anchor hread =>
  split
  · exact .refused noCalls (by decide)
  next hserviceVersion =>
  split
  · exact .refused noCalls (by decide)
  next hactive =>
  simp only [Bool.not_eq_true, Bool.not_eq_false'] at hactive
  have passed (hok : anchor.specificAuth = true →
      auth anchor.safClassName anchor.safEntityName = true) :
      Routed auth w parm (dispatchCalls a anchor, .served) :=
    .dispatched ⟨not_not.mp heye, Nat.le_of_not_lt hversion, ⟨table, htable, ha⟩, hread,
      by omega, hactive, hok⟩
  split
  · next hauth =>
    split
    · exact .refused (fun _ _ => by simp) (by decide)
    · next hok =>
      have hr := passed fun _ => by simpa using hok
      rwa [dispatchCalls, if_pos hauth] at hr
  · next hauth =>
    have hr := passed fun hs => absurd hs hauth
    rwa [dispatchCalls, if_neg hauth] at hr

variable {w : World} {parm : RouterParm}

/-- A request that passes the checks is served. -/
theorem zisRouteService_of_dispatched {auth : Text → Text → Bool} {a : Addr}
    {anchor : ServiceAnchor} (h : Dispatched auth w parm a anchor) :
    zisRouteService auth w parm = (dispatchCalls a anchor, .served) := by
  obtain ⟨table, htable, hget⟩ := h.found
  have hversion : ¬ (parm.serviceVersion > anchor.serviceVersion ∧
      parm.serviceVersion ≠ serviceAnyVersion) := by
    have := h.serviceVersion
    omega
  unfold zisRouteService dispatchCalls
  rw [if_neg (not_not.mpr h.eyecatcher), if_neg (Nat.not_lt.mpr h.version)]
  simp only [htable, hget, h.read, if_neg hversion, h.active, Bool.not_true, Bool.false_eq_true,
    ↓reduceIte]
  split
  · next hauth => simp [h.authorized hauth]
  · rfl

/-- A served request ends in one call of its anchor's serve function. -/
theorem serve_mem_dispatchCalls {a b : Addr} {anchor : ServiceAnchor} {fn : Option FnPtr} :
    .serve a fn ∈ dispatchCalls b anchor ↔ a = b ∧ fn = anchor.serve := by
  unfold dispatchCalls
  split <;> simp

/-- **The router's only way to a serve function.** A branch to one goes through the active anchor
found under the requested path, after the authorization the anchor demands. -/
theorem zisRouteService_serve {auth : Text → Text → Bool} {a : Addr} {fn : Option FnPtr}
    (h : .serve a fn ∈ (zisRouteService auth w parm).1) :
    ∃ anchor, Dispatched auth w parm a anchor ∧ fn = anchor.serve ∧
      (zisRouteService auth w parm).1 = dispatchCalls a anchor := by
  have hr := zisRouteService_routed auth w parm
  generalize zisRouteService auth w parm = r at h hr
  cases hr with
  | refused hno _ => exact absurd h (hno a fn)
  | missing _ => simp at h
  | @dispatched b anchor hd =>
    obtain ⟨rfl, rfl⟩ := serve_mem_dispatchCalls.mp h
    exact ⟨anchor, hd, rfl, rfl⟩

/-- A request that reaches no serve function ends with a code other than OK, or off a missing
structure. -/
theorem zisRouteService_refused {auth : Text → Text → Bool}
    (h : ∀ a fn, RouterCall.serve a fn ∉ (zisRouteService auth w parm).1) :
    (∃ code, (zisRouteService auth w parm).2 = .rc code ∧ code ≠ rcZisSrvcOk) ∨
      RouterMissing w parm := by
  have hr := zisRouteService_routed auth w parm
  generalize zisRouteService auth w parm = r at h hr
  cases hr with
  | refused _ hcode => exact .inl ⟨_, rfl, hcode⟩
  | missing hm => exact .inr hm
  | @dispatched b anchor hd =>
    exact absurd (serve_mem_dispatchCalls.mpr ⟨rfl, rfl⟩) (h b anchor.serve)

/-- **The client keeps the mode.** The PC the client issues a call with is the one the flag of the
anchor under its path names. -/
theorem zisCallServiceInternal_mode {env : ClientEnv} {path : ServicePath} {version : Nat}
    {pc : RouterPc} (h : zisCallServiceInternal env w path version = .ok (pc, parm)) :
    parm.targetServicePath = path ∧
      ∃ table a anchor, w.serviceTable = some table ∧ crossMemoryMapGet table path = some a ∧
        w.serviceAnchors.read a = some anchor ∧ anchor.spaceSwitch = pc.spaceSwitch := by
  unfold zisCallServiceInternal at h
  split at h
  · cases h
  split at h
  · cases h
  split at h
  · cases h
  split at h
  · cases h
  next server hserver =>
  split at h
  · cases h
  next table htable =>
  split at h
  · cases h
  next anchor hanchor =>
  obtain ⟨a, hget, hread⟩ := Option.bind_eq_some_iff.mp hanchor
  simp only [Except.ok.injEq, Prod.mk.injEq] at h
  obtain ⟨rfl, rfl⟩ := h
  refine ⟨rfl, table, a, anchor, by simp [World.serviceTable, hserver, htable], hget, hread, ?_⟩
  cases anchor.spaceSwitch <;> rfl

end Zss.Zis
