import Zss.Zisaux.RequestAreas

/-!
# The lifecycle of request data

What the calls on a payload and a response ought to keep (`LifecycleKept`): a pointer leads to an object
that is allocated for its structure, or nowhere; a failed init leaves nothing allocated; an init and a
clean that succeed release what the init allocated once; and nothing is released that is not owned, nor
copied from beyond its storage. They keep it in every run in which no access fails to a new object, and
the guest leaves the pointer of a response alone and writes back no length that its storage has no room
for (`lifecycle_kept`).

## What is not established

The condition is enough, not exact, and what the guest makes of the data in a payload or a response
is not looked at.
-/

namespace Zss.Zisaux

open Zss.Lib

/-! ## What is kept -/

/-- What a state ought to be like. -/
structure RequestWorld.Sound (w : RequestWorld) : Prop where
  owned : ∀ owner a, (w.area owner).data = some a → w.Owns owner a
  faultless : w.faults = []

/-- The objects that were released for a structure. -/
def RequestWorld.releases (w : RequestWorld) (owner : Owner) : List Addr :=
  (w.released.filter fun r => r.1 = owner).map Prod.snd

/-- The structure that a call inits, and the size of its data. -/
def RequestStep.inits : RequestStep → Option (Owner × Nat)
  | .initPayload _ requestData _ => some (.payload, requestData.length)
  | .initResponse _ bufferSize _ => some (.response, bufferSize)
  | _ => none

/-- The structure that a call cleans. -/
def RequestStep.cleans : RequestStep → Option Owner
  | .cleanPayload .. => some .payload
  | .cleanResponse .. => some .response
  | _ => none

/-- What a sequence of calls ought to keep, from the start. -/
structure LifecycleKept (es : List RequestStep) : Prop where
  sound : ∀ w, requestAreas.Visits .start es w → w.Sound
  failed : ∀ es₁ e es₂ w w' reply, es = es₁ ++ e :: es₂ → requestAreas.run .start es₁ = some w →
    e.inits ≠ none → w.call e = some (w', reply) → reply.rc ≠ rcZisauxOk →
      ∀ a, w'.shared.get a = w.shared.get a
  once : ∀ owner size es₁ e mid c es₂ w w' v v' reply reply', es = es₁ ++ e :: (mid ++ c :: es₂) →
    requestAreas.run .start es₁ = some w → e.inits = some (owner, size) →
    w.call e = some (w', reply) → reply.rc = rcZisauxOk → requestAreas.run w' mid = some v →
    (∀ m ∈ mid, ∀ size, m.inits ≠ some (owner, size)) → c.cleans = some owner →
    v.call c = some (v', reply') → reply'.rc = rcZisauxOk →
      v'.releases owner = w.releases owner ++ (w'.area owner).data.toList ∧
        ((w'.area owner).data = none ↔ ¬ inlineSize < size)

/-- An init that allocates an object gets access to it. -/
def InitOutcome.Accessible (env : InitOutcome) (size : Nat) : Prop :=
  inlineSize < size → env.allocRC = rcShrmem64Ok → env.accessRC = rcShrmem64Ok

/-- The guest leaves the pointer of a response alone, and a length that its storage has room for. -/
structure SendOutcome.Fits (env : SendOutcome) (w : RequestWorld) : Prop where
  data : env.response.data = w.response.data
  length : env.response.length ≤ (w.storage .response).length

/-- The condition on a call. -/
def Careful (w : RequestWorld) : RequestStep → Prop
  | .initPayload _ requestData env => env.Accessible requestData.length
  | .initResponse _ bufferSize env => env.Accessible bufferSize
  | .sendWork _ _ env => env.Fits w
  | _ => True

instance (env : InitOutcome) (size : Nat) : Decidable (env.Accessible size) :=
  inferInstanceAs (Decidable (_ → _ → _))

instance (env : SendOutcome) (w : RequestWorld) : Decidable (env.Fits w) :=
  decidable_of_iff (env.response.data = w.response.data ∧
      env.response.length ≤ (w.storage .response).length)
    ⟨fun h => ⟨h.1, h.2⟩, fun h => ⟨h.data, h.length⟩⟩

instance (w : RequestWorld) : (e : RequestStep) → Decidable (Careful w e)
  | .initPayload _ requestData env =>
    inferInstanceAs (Decidable (env.Accessible requestData.length))
  | .initResponse _ bufferSize env => inferInstanceAs (Decidable (env.Accessible bufferSize))
  | .sendWork _ _ env => inferInstanceAs (Decidable (env.Fits w))
  | .copyResponse _ => .isTrue trivial
  | .cleanPayload .. => .isTrue trivial
  | .cleanResponse .. => .isTrue trivial

/-! ## Worlds -/

section

variable {w w' w'' : RequestWorld} {owner other : Owner} {a : Addr} {rc : Int} {area : RequestArea}

@[simp] theorem area_withArea (w : RequestWorld) (owner : Owner) (area : RequestArea) :
    (w.withArea owner area).area owner = area := by
  cases owner <;> rfl

theorem area_withArea_ne (w : RequestWorld) (area : RequestArea) (h : other ≠ owner) :
    (w.withArea owner area).area other = w.area other := by
  cases owner <;> cases other <;> first | rfl | exact absurd rfl h

@[simp] theorem shared_withArea (w : RequestWorld) (owner : Owner) (area : RequestArea) :
    (w.withArea owner area).shared = w.shared := by
  cases owner <;> rfl

@[simp] theorem faults_withArea (w : RequestWorld) (owner : Owner) (area : RequestArea) :
    (w.withArea owner area).faults = w.faults := by
  cases owner <;> rfl

@[simp] theorem released_withArea (w : RequestWorld) (owner : Owner) (area : RequestArea) :
    (w.withArea owner area).released = w.released := by
  cases owner <;> rfl

@[simp] theorem releases_withArea (w : RequestWorld) (owner other : Owner) (area : RequestArea) :
    (w.withArea owner area).releases other = w.releases other := by
  rw [RequestWorld.releases, released_withArea, RequestWorld.releases]

/-- For whom an object is allocated, and how large it is. -/
def RequestWorld.shape (w : RequestWorld) (a : Addr) : Option (Owner × Nat) :=
  (w.shared.get a).map fun object => (object.owner, object.bytes.length)

theorem owns_iff : w.Owns owner a ↔ ∃ size, w.shape a = some (owner, size) := by
  unfold RequestWorld.Owns RequestWorld.shape
  cases w.shared.get a with
  | none => simp
  | some object => simp

/-- The storage of a structure is inline, or as large as its object. -/
theorem length_storage_none (h : (w.area owner).data = none) :
    (w.storage owner).length = inlineSize := by
  rw [RequestWorld.storage, h]
  exact (w.area owner).inlineData.length_eq

theorem length_storage_some {size : Nat} (h : (w.area owner).data = some a)
    (hshape : w.shape a = some (owner, size)) : (w.storage owner).length = size := by
  have howns : w.Owns owner a := owns_iff.mpr ⟨size, hshape⟩
  obtain ⟨object, hget, hobject⟩ := Option.map_eq_some_iff.mp hshape
  rw [RequestWorld.storage, h]
  dsimp only
  rw [if_pos howns, hget]
  exact congrArg Prod.snd hobject

/-- A structure points to its own object or nowhere, and has room for its length. -/
structure AreaKept (w : RequestWorld) (owner : Owner) : Prop where
  owned : ∀ a, (w.area owner).data = some a → w.Owns owner a
  room : (w.area owner).length ≤ (w.storage owner).length

/-- A structure is as it was, with its objects. -/
structure Keeps (owner : Owner) (w w' : RequestWorld) : Prop where
  area : w'.area owner = w.area owner
  shape : ∀ a, w.Owns owner a → w'.shape a = w.shape a

theorem Keeps.trans (h : Keeps owner w w') (h' : Keeps owner w' w'') : Keeps owner w w'' where
  area := h'.area.trans h.area
  shape a howns := by
    have hw := h.shape a howns
    obtain ⟨size, hsize⟩ := owns_iff.mp howns
    rw [h'.shape a (owns_iff.mpr ⟨size, hw.trans hsize⟩), hw]

/-- The storage of a structure that is as it was is as large as before. -/
theorem Keeps.length_storage (h : Keeps owner w w')
    (howned : ∀ a, (w.area owner).data = some a → w.Owns owner a) :
    (w'.storage owner).length = (w.storage owner).length := by
  cases hdata : (w.area owner).data with
  | none =>
    rw [length_storage_none hdata, length_storage_none (by rw [h.area, hdata])]
  | some a =>
    obtain ⟨size, hsize⟩ := owns_iff.mp (howned a hdata)
    have hsize' : w'.shape a = some (owner, size) := (h.shape a (howned a hdata)).trans hsize
    rw [length_storage_some hdata hsize, length_storage_some (by rw [h.area, hdata]) hsize']

theorem Keeps.areaKept (h : Keeps owner w w') (hw : AreaKept w owner) : AreaKept w' owner where
  owned a ha := by
    rw [h.area] at ha
    obtain ⟨size, hsize⟩ := owns_iff.mp (hw.owned a ha)
    exact owns_iff.mpr ⟨size, (h.shape a (hw.owned a ha)).trans hsize⟩
  room := by
    rw [h.length_storage hw.owned, h.area]
    exact hw.room

/-- A structure with the same pointer, and a length that its storage has room for. -/
theorem AreaKept.withArea (hw : AreaKept w owner) (hdata : area.data = (w.area owner).data)
    (hlength : area.length ≤ (w.storage owner).length) :
    AreaKept (w.withArea owner area) owner where
  owned a ha := by
    rw [area_withArea, hdata] at ha
    rw [RequestWorld.Owns, shared_withArea]
    exact hw.owned a ha
  room := by
    rw [area_withArea]
    cases hdata' : (w.area owner).data with
    | none =>
      rw [length_storage_none hdata'] at hlength
      rw [length_storage_none (by rw [area_withArea, hdata, hdata'])]
      exact hlength
    | some a =>
      obtain ⟨size, hsize⟩ := owns_iff.mp (hw.owned a hdata')
      have hsize' : (w.withArea owner area).shape a = some (owner, size) := by
        rw [RequestWorld.shape, shared_withArea]
        exact hsize
      rw [length_storage_some hdata' hsize] at hlength
      rw [length_storage_some (by rw [area_withArea, hdata, hdata']) hsize']
      exact hlength

theorem keeps_withArea (w : RequestWorld) (area : RequestArea) (h : other ≠ owner) :
    Keeps other w (w.withArea owner area) where
  area := area_withArea_ne w area h
  shape a _ := by rw [RequestWorld.shape, shared_withArea, RequestWorld.shape]

theorem keeps_obtain (w : RequestWorld) (owner : Owner) (object : SharedObject) :
    Keeps owner w { w with shared := w.shared.obtain object } where
  area := by cases owner <;> rfl
  shape a howns := by
    have hne : a ≠ w.shared.fresh := by
      rintro rfl
      simp [RequestWorld.Owns] at howns
    rw [RequestWorld.shape, RequestWorld.shape, Storage.get_obtain_ne _ _ hne]

/-- The release of an object of one structure keeps the other. -/
theorem keeps_release (howns : w.Owns owner a) (rc : Int) (h : other ≠ owner) :
    Keeps other w (w.release owner a rc) where
  area := by cases other <;> rfl
  shape b hb := by
    have hne : b ≠ a := by
      rintro rfl
      exact h (Option.some.inj (hb.symm.trans howns))
    unfold RequestWorld.shape RequestWorld.release
    dsimp only
    split
    · rw [Storage.get_release_ne _ hne]
    · rfl

/-- A write into an object leaves its owner and its size. -/
theorem shape_modify (shared : Storage SharedObject) (a b : Addr) (bytes : Bytes) :
    ((shared.modify a fun object => { object with bytes := overwrite object.bytes bytes }).get b).map
        (fun object => (object.owner, object.bytes.length)) =
      (shared.get b).map fun object => (object.owner, object.bytes.length) := by
  by_cases hb : b = a
  · subst hb
    rw [Storage.get_modify_self, Option.map_map]
    congr 1
    funext object
    simp only [Function.comp_apply, length_overwrite]
  · rw [Storage.get_modify_ne _ _ hb]

theorem keeps_writeShared (w : RequestWorld) (owner : Owner) (writes : List (Addr × Bytes)) :
    Keeps owner w (w.writeShared writes) where
  area := by cases owner <;> rfl
  shape a _ := by
    unfold RequestWorld.shape RequestWorld.writeShared
    dsimp only
    generalize w.shared = shared
    induction writes generalizing shared with
    | nil => rfl
    | cons write writes ih =>
      rw [List.foldl_cons, ih]
      exact shape_modify shared write.1 a write.2

/-! ## The calls -/

/-- A cleared structure. -/
theorem areaKept_zero (w : RequestWorld) (owner : Owner) :
    AreaKept (w.withArea owner .zero) owner where
  owned a ha := by
    rw [area_withArea] at ha
    cases ha
  room := by
    rw [area_withArea]
    exact Nat.zero_le _

/-- A structure with a new object. -/
def RequestWorld.allocated (w : RequestWorld) (owner : Owner) (size : Nat) : RequestWorld :=
  { w with shared := w.shared.obtain ⟨owner, List.replicate size 0⟩ }.withArea owner
    { RequestArea.zero with data := some w.shared.fresh }

theorem shape_allocated (w : RequestWorld) (owner : Owner) (size : Nat) :
    (w.allocated owner size).shape w.shared.fresh = some (owner, size) := by
  simp [RequestWorld.shape, RequestWorld.allocated]

theorem areaKept_allocated (w : RequestWorld) (owner : Owner) (size : Nat) :
    AreaKept (w.allocated owner size) owner where
  owned a ha := by
    rw [RequestWorld.allocated, area_withArea] at ha
    obtain rfl := Option.some.inj ha
    exact owns_iff.mpr ⟨size, shape_allocated w owner size⟩
  room := by
    rw [RequestWorld.allocated, area_withArea]
    exact Nat.zero_le _

theorem keeps_allocated (w : RequestWorld) (size : Nat) (h : other ≠ owner) :
    Keeps other w (w.allocated owner size) :=
  (keeps_obtain w other _).trans (keeps_withArea _ _ h)

variable {env : InitOutcome} {reply : MgrReply} {e : RequestStep}

/-- What an init comes to, if it gets access to an object that it allocates. -/
theorem initArea_cases (w : RequestWorld) (owner : Owner) {size : Nat} (h : env.Accessible size) :
    (size ≤ inlineSize ∧
      initArea w owner size env = (w.withArea owner .zero, ⟨rcZisauxOk, none⟩)) ∨
    initArea w owner size env =
      (w.withArea owner .zero, ⟨rcZisauxShr64Error, some env.allocRSN⟩) ∨
    (inlineSize < size ∧ initArea w owner size env =
      ((w.withArea owner .zero).allocated owner size, ⟨rcZisauxOk, none⟩)) := by
  unfold initArea
  by_cases hsize : size ≤ inlineSize
  · exact .inl ⟨hsize, if_pos hsize⟩
  · have hlt : inlineSize < size := Nat.lt_of_not_le hsize
    by_cases halloc : env.allocRC = rcShrmem64Ok
    · refine .inr (.inr ⟨hlt, ?_⟩)
      have haccess := h hlt halloc
      simp only [if_neg hsize, halloc, haccess, ne_eq, not_true_eq_false, if_false]
      rfl
    · refine .inr (.inl ?_)
      simp only [if_neg hsize, ne_eq, halloc, not_false_eq_true, if_true]

/-- The data of a payload written where there is room for it. -/
theorem areaKept_writePayload {requestData : Bytes} (hw : AreaKept w .payload)
    (hroom : requestData.length ≤ (w.storage .payload).length) :
    AreaKept (writePayload w requestData) .payload := by
  unfold writePayload
  split
  · exact hw.withArea rfl hroom
  next a _ =>
    have hkeeps := keeps_writeShared w .payload [(a, requestData)]
    refine (hkeeps.areaKept hw).withArea rfl ?_
    rw [hkeeps.length_storage hw.owned]
    exact hroom

theorem keeps_writePayload (w : RequestWorld) (requestData : Bytes) :
    Keeps .response w (writePayload w requestData) := by
  unfold writePayload
  split
  · exact keeps_withArea w _ (by decide)
  next a _ =>
    exact (keeps_writeShared w .response [(a, requestData)]).trans (keeps_withArea _ _ (by decide))

/-! ## One call -/

/-- Both structures are kept, and nothing has gone wrong. -/
structure WorldKept (w : RequestWorld) : Prop where
  areas : ∀ owner, AreaKept w owner
  faultless : w.faults = []

theorem WorldKept.sound (h : WorldKept w) : w.Sound :=
  ⟨fun owner => (h.areas owner).owned, h.faultless⟩

/-- A call on one structure that keeps the other. -/
theorem WorldKept.of_one (h : WorldKept w) (hself : AreaKept w' owner)
    (hothers : ∀ other, other ≠ owner → Keeps other w w') (hfaults : w'.faults = w.faults) :
    WorldKept w' where
  areas other := by
    by_cases heq : other = owner
    · exact heq ▸ hself
    · exact (hothers other heq).areaKept (h.areas other)
  faultless := hfaults.trans h.faultless

theorem WorldKept.cleared (h : WorldKept w) (owner : Owner) :
    WorldKept (w.withArea owner .zero) :=
  h.of_one (areaKept_zero w owner) (fun _ hne => keeps_withArea w _ hne) (faults_withArea ..)

theorem WorldKept.allocated (h : WorldKept w) (owner : Owner) (size : Nat) :
    WorldKept (w.allocated owner size) :=
  h.of_one (areaKept_allocated w owner size) (fun _ hne => keeps_allocated w size hne)
    (faults_withArea ..)

/-- Where the data of an init goes. -/
theorem length_storage_allocated (w : RequestWorld) (owner : Owner) (size : Nat) :
    ((w.allocated owner size).storage owner).length = size :=
  length_storage_some (by rw [RequestWorld.allocated, area_withArea]) (shape_allocated w owner size)

theorem length_storage_zero (w : RequestWorld) (owner : Owner) :
    ((w.withArea owner .zero).storage owner).length = inlineSize :=
  length_storage_none (by rw [area_withArea]; rfl)

/-- The storage that an init leaves has room for its data, if it succeeds. -/
theorem initArea_kept (h : WorldKept w) (owner : Owner) {size : Nat}
    (haccess : env.Accessible size) :
    WorldKept (initArea w owner size env).1 ∧
      ((initArea w owner size env).2.rc = rcZisauxOk →
        size ≤ ((initArea w owner size env).1.storage owner).length) := by
  rcases initArea_cases w owner haccess with ⟨hsize, heq⟩ | heq | ⟨_, heq⟩
  · rw [heq]
    refine ⟨h.cleared owner, fun _ => ?_⟩
    rw [length_storage_zero]
    exact hsize
  · rw [heq]
    exact ⟨h.cleared owner, fun hrc => nomatch hrc⟩
  · rw [heq]
    refine ⟨(h.cleared owner).allocated owner size, fun _ => ?_⟩
    rw [length_storage_allocated]

theorem initPayload_kept (h : WorldKept w) (mgr : Manager) (requestData : Bytes)
    (haccess : env.Accessible requestData.length) :
    WorldKept (zisauxMgrInitRequestPayload mgr w requestData env).1 := by
  unfold zisauxMgrInitRequestPayload
  split
  · exact h
  · obtain ⟨hkept, hroom⟩ := initArea_kept h .payload haccess
    dsimp only
    split
    · exact hkept
    next hrc =>
      refine hkept.of_one (areaKept_writePayload (hkept.areas .payload) (hroom (not_not.mp hrc)))
        (fun other hne => ?_) ?_
      · cases other with
        | payload => exact absurd rfl hne
        | response => exact keeps_writePayload _ _
      · unfold writePayload
        split
        · exact faults_withArea ..
        · exact faults_withArea ..

theorem initResponse_kept (h : WorldKept w) (mgr : Manager) (bufferSize : Nat)
    (haccess : env.Accessible bufferSize) :
    WorldKept (zisauxMgrInitRequestResponse mgr w bufferSize env).1 := by
  unfold zisauxMgrInitRequestResponse
  split
  · exact h
  · obtain ⟨hkept, hroom⟩ := initArea_kept h .response haccess
    dsimp only
    split
    · exact hkept
    next hrc =>
      exact hkept.of_one ((hkept.areas .response).withArea rfl (hroom (not_not.mp hrc)))
        (fun _ hne => keeps_withArea _ _ hne) (faults_withArea ..)

theorem cleanArea_kept (h : WorldKept w) (mgr : Manager) (owner : Owner) (env : CleanOutcome) :
    WorldKept (cleanArea mgr w owner env).1 := by
  unfold cleanArea
  split
  · exact h
  · split
    · exact h.cleared owner
    next a hdata =>
      have howns := (h.areas owner).owned a hdata
      have hfaults : (w.release owner a env.releaseRC).faults = w.faults := if_pos howns
      have hothers : ∀ other, other ≠ owner → Keeps other w (w.release owner a env.releaseRC) :=
        fun _ hne => keeps_release howns env.releaseRC hne
      dsimp only
      split
      next hrc =>
        -- the object is still there
        have hself : Keeps owner w (w.release owner a env.releaseRC) := by
          refine ⟨by cases owner <;> rfl, fun b _ => ?_⟩
          rw [RequestWorld.shape, RequestWorld.shape, RequestWorld.release, if_neg hrc]
        exact h.of_one (hself.areaKept (h.areas owner)) hothers hfaults
      next =>
        exact h.of_one (areaKept_zero _ owner)
          (fun other hne => (hothers other hne).trans (keeps_withArea _ _ hne))
          ((faults_withArea ..).trans hfaults)

theorem sendWork_kept (h : WorldKept w) {mgr : Manager} {guestNickname : Nickname}
    {env : SendOutcome} (hfits : env.Fits w)
    (hcall : zisauxMgrSendWork mgr w guestNickname env = some (w', reply)) : WorldKept w' := by
  unfold zisauxMgrSendWork at hcall
  split at hcall
  · cases hcall
    exact h
  · split at hcall
    · cases hcall
      exact h
    · obtain ⟨commArea, _, hcall⟩ := Option.map_eq_some_iff.mp hcall
      split at hcall
      · cases hcall
        exact h
      · split at hcall
        · cases hcall
          exact h
        · cases hcall
          have hkeeps := fun owner => keeps_writeShared w owner env.writes
          refine h.of_one (((hkeeps .response).areaKept (h.areas .response)).withArea ?_ ?_)
            (fun other hne => (hkeeps other).trans (keeps_withArea _ _ hne)) (faults_withArea ..)
          · exact hfits.data
          · rw [(hkeeps .response).length_storage (h.areas .response).owned]
            exact hfits.length

theorem copyResponse_kept (h : WorldKept w) (destSize : Nat) :
    (zisauxMgrCopyRequestResponseData w destSize).1 = w := by
  unfold zisauxMgrCopyRequestResponseData
  split
  · rfl
  · exact if_pos (h.areas .response).room

theorem world_of_call {call : RequestWorld × MgrReply} (h : some call = some (w', reply)) :
    call.1 = w' :=
  congrArg Prod.fst (Option.some.inj h)

theorem reply_of_call {call : RequestWorld × MgrReply} (h : some call = some (w', reply)) :
    call.2 = reply :=
  congrArg Prod.snd (Option.some.inj h)

/-- **A careful call keeps** both structures. -/
theorem call_kept (h : WorldKept w) (hcareful : Careful w e) (hcall : w.call e = some (w', reply)) :
    WorldKept w' := by
  cases e with
  | initPayload mgr requestData env =>
    exact world_of_call hcall ▸ initPayload_kept h mgr requestData hcareful
  | initResponse mgr bufferSize env =>
    exact world_of_call hcall ▸ initResponse_kept h mgr bufferSize hcareful
  | sendWork mgr guestNickname env => exact sendWork_kept h hcareful hcall
  | copyResponse destSize =>
    have hw : (zisauxMgrCopyRequestResponseData w destSize).1 = w' :=
      world_of_call hcall
    rw [← hw, copyResponse_kept h destSize]
    exact h
  | cleanPayload mgr env =>
    exact world_of_call hcall ▸ cleanArea_kept h mgr .payload env
  | cleanResponse mgr env =>
    exact world_of_call hcall ▸ cleanArea_kept h mgr .response env

/-! ## Releases -/

/-- What a call comes to for a structure that it does not init: nothing, or its object is released. -/
def Untouched (owner : Owner) (w w' : RequestWorld) : Prop :=
  (w'.area owner).data = (w.area owner).data ∧ w'.releases owner = w.releases owner

def Released (owner : Owner) (w w' : RequestWorld) : Prop :=
  ∃ a, (w.area owner).data = some a ∧ (w'.area owner).data = none ∧
    w'.releases owner = w.releases owner ++ [a]

theorem untouched_self (owner : Owner) (w : RequestWorld) : Untouched owner w w := ⟨rfl, rfl⟩

theorem untouched_withArea (w : RequestWorld) (area : RequestArea) (h : other ≠ owner) :
    Untouched other w (w.withArea owner area) :=
  ⟨by rw [area_withArea_ne w area h], releases_withArea ..⟩

theorem releases_release (w : RequestWorld) (owner other : Owner) (a : Addr) (rc : Int) :
    (w.release owner a rc).releases other =
      w.releases other ++ if rc = rcShrmem64Ok ∧ owner = other then [a] else [] := by
  unfold RequestWorld.releases RequestWorld.release
  dsimp only
  by_cases hrc : rc = rcShrmem64Ok
  · rw [if_pos hrc, List.filter_append, List.map_append]
    by_cases howner : owner = other
    · simp [hrc, howner]
    · simp [hrc, howner]
  · rw [if_neg hrc, if_neg fun h => hrc h.1, List.append_nil]

/-- A clean of one structure does not touch the other. -/
theorem cleanArea_untouched (w : RequestWorld) (mgr : Manager) (env : CleanOutcome)
    (h : other ≠ owner) : Untouched other w (cleanArea mgr w owner env).1 := by
  unfold cleanArea
  split
  · exact untouched_self other w
  · split
    · exact untouched_withArea w _ h
    next a _ =>
      have hreleases : (w.release owner a env.releaseRC).releases other = w.releases other := by
        rw [releases_release, if_neg fun hand => h hand.2.symm, List.append_nil]
      dsimp only
      split
      · exact ⟨by cases other <;> rfl, hreleases⟩
      · refine ⟨?_, (releases_withArea ..).trans hreleases⟩
        rw [area_withArea_ne _ _ h]
        cases other <;> rfl

/-- A clean of a structure releases its object, or fails. -/
theorem cleanArea_cases (w : RequestWorld) (mgr : Manager) (owner : Owner) (env : CleanOutcome) :
    Untouched owner w (cleanArea mgr w owner env).1 ∨
      Released owner w (cleanArea mgr w owner env).1 := by
  unfold cleanArea
  split
  · exact .inl (untouched_self owner w)
  · split
    next hdata =>
      refine .inl ⟨?_, releases_withArea ..⟩
      rw [area_withArea, hdata]
      rfl
    next a hdata =>
      dsimp only
      split
      next hrc =>
        refine .inl ⟨by cases owner <;> rfl, ?_⟩
        rw [releases_release, if_neg fun hand => hrc hand.1, List.append_nil]
      next hrc =>
        refine .inr ⟨a, hdata, by rw [area_withArea]; rfl, ?_⟩
        rw [releases_withArea, releases_release, if_pos ⟨not_not.mp hrc, rfl⟩]

/-- A clean that succeeds leaves no pointer. -/
theorem cleanArea_data (w : RequestWorld) (mgr : Manager) (owner : Owner) (env : CleanOutcome)
    (hrc : (cleanArea mgr w owner env).2.rc = rcZisauxOk) :
    ((cleanArea mgr w owner env).1.area owner).data = none := by
  unfold cleanArea at hrc ⊢
  by_cases hvalid : mgr.eyecatcher ≠ zisauxMgrEyecatcher
  · rw [if_pos hvalid] at hrc
    cases hrc
  · rw [if_neg hvalid] at hrc ⊢
    cases hdata : (w.area owner).data with
    | none =>
      dsimp only
      rw [area_withArea]
      rfl
    | some a =>
      rw [hdata] at hrc
      dsimp only at hrc ⊢
      by_cases hrelease : env.releaseRC ≠ rcShrmem64Ok
      · rw [if_pos hrelease] at hrc
        cases hrc
      · rw [if_neg hrelease, area_withArea]
        rfl

/-- An init releases nothing, if it gets access to what it allocates. -/
theorem initArea_releases (w : RequestWorld) (owner other : Owner) {size : Nat}
    (h : env.Accessible size) :
    (initArea w owner size env).1.releases other = w.releases other := by
  rcases initArea_cases w owner h with ⟨_, heq⟩ | heq | ⟨_, heq⟩
  · rw [heq, releases_withArea]
  · rw [heq, releases_withArea]
  · rw [heq, RequestWorld.allocated, releases_withArea]
    exact releases_withArea ..

theorem initArea_data_ne (w : RequestWorld) {size : Nat} (haccess : env.Accessible size)
    (h : other ≠ owner) :
    ((initArea w owner size env).1.area other).data = (w.area other).data := by
  rcases initArea_cases w owner haccess with ⟨_, heq⟩ | heq | ⟨_, heq⟩
  · rw [heq, area_withArea_ne _ _ h]
  · rw [heq, area_withArea_ne _ _ h]
  · rw [heq, RequestWorld.allocated, area_withArea_ne _ _ h]
    exact congrArg RequestArea.data (area_withArea_ne w _ h)

/-- An init that succeeds leaves a pointer exactly if the data does not stand inline. -/
theorem initArea_data (w : RequestWorld) (owner : Owner) {size : Nat}
    (haccess : env.Accessible size) (hrc : (initArea w owner size env).2.rc = rcZisauxOk) :
    ((initArea w owner size env).1.area owner).data = none ↔ ¬ inlineSize < size := by
  rcases initArea_cases w owner haccess with ⟨hsize, heq⟩ | heq | ⟨hsize, heq⟩
  · rw [heq, area_withArea]
    exact iff_of_true rfl (Nat.not_lt.mpr hsize)
  · rw [heq] at hrc
    cases hrc
  · rw [heq, RequestWorld.allocated, area_withArea]
    exact iff_of_false nofun (not_not.mpr hsize)

/-- An init that fails leaves shared memory as it was. -/
theorem initArea_shared (w : RequestWorld) (owner : Owner) {size : Nat}
    (haccess : env.Accessible size) (hrc : (initArea w owner size env).2.rc ≠ rcZisauxOk) :
    (initArea w owner size env).1.shared = w.shared := by
  rcases initArea_cases w owner haccess with ⟨_, heq⟩ | heq | ⟨_, heq⟩
  · rw [heq] at hrc
    exact absurd rfl hrc
  · rw [heq, shared_withArea]
  · rw [heq] at hrc
    exact absurd rfl hrc

theorem writePayload_untouched (w : RequestWorld) (owner : Owner) (requestData : Bytes) :
    Untouched owner w (writePayload w requestData) := by
  unfold writePayload
  split
  · refine ⟨?_, releases_withArea ..⟩
    cases owner <;> rfl
  · refine ⟨?_, releases_withArea ..⟩
    cases owner <;> rfl

/-- What an init does. -/
structure InitEffect (owner : Owner) (size : Nat) (w w' : RequestWorld) (reply : MgrReply) :
    Prop where
  releases : ∀ other, w'.releases other = w.releases other
  others : ∀ other, other ≠ owner → (w'.area other).data = (w.area other).data
  failed : reply.rc ≠ rcZisauxOk → w'.shared = w.shared
  data : reply.rc = rcZisauxOk → ((w'.area owner).data = none ↔ ¬ inlineSize < size)

theorem initEffect_invalid (owner : Owner) (size : Nat) (w : RequestWorld) :
    InitEffect owner size w w ⟨rcZisauxBadEyecatcher, none⟩ :=
  ⟨fun _ => rfl, fun _ _ => rfl, fun _ => rfl, fun hrc => nomatch hrc⟩

theorem initArea_effect (w : RequestWorld) (owner : Owner) {size : Nat}
    (haccess : env.Accessible size) :
    InitEffect owner size w (initArea w owner size env).1 (initArea w owner size env).2 :=
  ⟨fun other => initArea_releases w owner other haccess,
    fun _ hne => initArea_data_ne w haccess hne, initArea_shared w owner haccess,
    initArea_data w owner haccess⟩

/-- What goes on after an init that has succeeded. -/
theorem InitEffect.untouched {size : Nat} (h : InitEffect owner size w w' reply)
    (hrc : reply.rc = rcZisauxOk) (huntouched : ∀ other, Untouched other w' w'') :
    InitEffect owner size w w'' reply where
  releases other := (huntouched other).2.trans (h.releases other)
  others other hne := (huntouched other).1.trans (h.others other hne)
  failed hfailed := absurd hrc hfailed
  data hok := by
    rw [(huntouched owner).1]
    exact h.data hok

theorem call_init {size : Nat} (hinits : e.inits = some (owner, size)) (hcareful : Careful w e)
    (hcall : w.call e = some (w', reply)) : InitEffect owner size w w' reply := by
  cases e with
  | initPayload mgr requestData env =>
    cases hinits
    rw [← world_of_call hcall, ← reply_of_call hcall]
    unfold zisauxMgrInitRequestPayload
    split
    · exact initEffect_invalid ..
    · have heffect := initArea_effect w .payload (show env.Accessible _ from hcareful)
      dsimp only
      split
      · exact heffect
      next hrc =>
        exact heffect.untouched (not_not.mp hrc) fun other => writePayload_untouched _ other _
  | initResponse mgr bufferSize env =>
    cases hinits
    rw [← world_of_call hcall, ← reply_of_call hcall]
    unfold zisauxMgrInitRequestResponse
    split
    · exact initEffect_invalid ..
    · have heffect := initArea_effect w .response (show env.Accessible _ from hcareful)
      dsimp only
      split
      · exact heffect
      next hrc =>
        refine heffect.untouched (not_not.mp hrc) fun other => ⟨?_, releases_withArea ..⟩
        cases other <;> rfl
  | sendWork | copyResponse | cleanPayload | cleanResponse => cases hinits

theorem sendWork_untouched {mgr : Manager} {guestNickname : Nickname} {env : SendOutcome}
    (hfits : env.Fits w) (hcall : zisauxMgrSendWork mgr w guestNickname env = some (w', reply))
    (owner : Owner) : Untouched owner w w' := by
  unfold zisauxMgrSendWork at hcall
  split at hcall
  · cases hcall
    exact untouched_self owner w
  · split at hcall
    · cases hcall
      exact untouched_self owner w
    · obtain ⟨commArea, _, hcall⟩ := Option.map_eq_some_iff.mp hcall
      split at hcall
      · cases hcall
        exact untouched_self owner w
      · split at hcall
        · cases hcall
          exact untouched_self owner w
        · cases hcall
          refine ⟨?_, releases_withArea ..⟩
          cases owner with
          | payload => rfl
          | response => exact hfits.data

/-- A careful call leaves a structure that it does not init, or releases its object. -/
theorem call_cases (hkept : WorldKept w) (hcareful : Careful w e)
    (hinits : ∀ size, e.inits ≠ some (owner, size)) (hcall : w.call e = some (w', reply)) :
    Untouched owner w w' ∨ Released owner w w' := by
  have hinit : ∀ {other size}, e.inits = some (other, size) → Untouched owner w w' := by
    intro other size h
    have heffect := call_init h hcareful hcall
    have hne : owner ≠ other := fun heq => hinits size (heq ▸ h)
    exact ⟨heffect.others owner hne, heffect.releases owner⟩
  have hclean : ∀ mgr other env, Untouched owner w (cleanArea mgr w other env).1 ∨
      Released owner w (cleanArea mgr w other env).1 := by
    intro mgr other env
    by_cases heq : owner = other
    · exact heq ▸ cleanArea_cases w mgr owner env
    · exact .inl (cleanArea_untouched w mgr env heq)
  cases e with
  | initPayload => exact .inl (hinit rfl)
  | initResponse => exact .inl (hinit rfl)
  | sendWork => exact .inl (sendWork_untouched hcareful hcall owner)
  | copyResponse destSize =>
    have hw : (zisauxMgrCopyRequestResponseData w destSize).1 = w' := world_of_call hcall
    rw [← hw, copyResponse_kept hkept destSize]
    exact .inl (untouched_self owner w)
  | cleanPayload mgr env => exact world_of_call hcall ▸ hclean mgr .payload env
  | cleanResponse mgr env => exact world_of_call hcall ▸ hclean mgr .response env

theorem call_clean (hcleans : e.cleans = some owner) (hcall : w.call e = some (w', reply))
    (hrc : reply.rc = rcZisauxOk) : (w'.area owner).data = none := by
  cases e with
  | cleanPayload mgr env =>
    cases hcleans
    rw [← reply_of_call hcall] at hrc
    exact world_of_call hcall ▸ cleanArea_data w mgr .payload env hrc
  | cleanResponse mgr env =>
    cases hcleans
    rw [← reply_of_call hcall] at hrc
    exact world_of_call hcall ▸ cleanArea_data w mgr .response env hrc
  | initPayload | initResponse | sendWork | copyResponse => cases hcleans

/-! ## Runs -/

theorem worldKept_start : WorldKept .start where
  areas owner := by
    constructor
    · intro a ha
      cases owner <;> cases ha
    · cases owner <;> exact Nat.zero_le _
  faultless := rfl

theorem step_kept (w : RequestWorld) (e : RequestStep) (w' : RequestWorld) (h : WorldKept w)
    (hcareful : Careful w e) (hstep : requestAreas.step w e = some w') : WorldKept w' := by
  obtain ⟨call, hcall, rfl⟩ := Option.map_eq_some_iff.mp hstep
  exact call_kept h hcareful hcall

/-- Since an init that left a pointer: the object is there, or was released. -/
def Pending (owner : Owner) (data : Option Addr) (before : List Addr) (w : RequestWorld) : Prop :=
  ((w.area owner).data = data ∧ data ≠ none ∧ w.releases owner = before) ∨
    ((w.area owner).data = none ∧ w.releases owner = before ++ data.toList)

variable {data : Option Addr} {before : List Addr}

theorem Pending.step (h : Pending owner data before w)
    (hcases : Untouched owner w w' ∨ Released owner w w') : Pending owner data before w' := by
  rcases hcases with ⟨hdata, hreleases⟩ | ⟨a, hdata, hdata', hreleases⟩
  · unfold Pending
    rw [hdata, hreleases]
    exact h
  · rcases h with ⟨heq, _, hbefore⟩ | ⟨hnone, _⟩
    · refine .inr ⟨hdata', ?_⟩
      rw [hreleases, hbefore, ← heq, hdata]
      rfl
    · rw [hdata] at hnone
      cases hnone

theorem Pending.run {mid rest : List RequestStep} (h : Pending owner data before w)
    (hkept : WorldKept w) (hmeets : requestAreas.Meets Careful w (mid ++ rest))
    (hmid : ∀ m ∈ mid, ∀ size, m.inits ≠ some (owner, size))
    (hrun : requestAreas.run w mid = some w') : Pending owner data before w' := by
  induction mid generalizing w with
  | nil =>
    cases hrun
    exact h
  | cons e mid ih =>
    obtain ⟨v, hv, hrest⟩ := requestAreas.run_cons_some hrun
    obtain ⟨hcareful, hlater⟩ := hmeets
    obtain ⟨⟨v', reply⟩, hcall, rfl⟩ := Option.map_eq_some_iff.mp hv
    obtain ⟨he, hmid⟩ := List.forall_mem_cons.mp hmid
    exact ih (h.step (call_cases hkept hcareful he hcall)) (call_kept hkept hcareful hcall)
      (hlater v' hv) hmid hrest

end

/-- **The lifecycle of request data.** -/
theorem lifecycle_kept {es : List RequestStep}
    (h : requestAreas.Meets Careful RequestWorld.start es) : LifecycleKept es where
  sound w hvisits :=
    (requestAreas.visits_keeps step_kept worldKept_start h hvisits).sound
  failed es₁ e es₂ w w' reply hes hrun hinits hcall hrc a := by
    rw [hes] at h
    obtain ⟨_, hcareful, _⟩ := requestAreas.keeps_of_append step_kept worldKept_start h hrun
    obtain ⟨⟨owner, size⟩, hinit⟩ := Option.ne_none_iff_exists'.mp hinits
    rw [(call_init hinit hcareful hcall).failed hrc]
  once owner size es₁ e mid c es₂ w w' v v' reply reply' hes hrun hinits hcall hrc hmid hothers
      hcleans hclean hrc' := by
    rw [hes] at h
    obtain ⟨hkept, hcareful, hlater⟩ :=
      requestAreas.keeps_of_append step_kept worldKept_start h hrun
    have hstep : requestAreas.step w e = some w' := by
      change (w.call e).map Prod.fst = some w'
      rw [hcall]
      rfl
    have heffect := call_init hinits hcareful hcall
    have hkept' := call_kept hkept hcareful hcall
    have hpending : Pending owner (w'.area owner).data (w.releases owner) w' := by
      by_cases hdata : (w'.area owner).data = none
      · refine .inr ⟨hdata, ?_⟩
        rw [heffect.releases, hdata, Option.toList_none, List.append_nil]
      · exact .inl ⟨rfl, hdata, heffect.releases owner⟩
    have hpending' := hpending.run hkept' (hlater w' hstep) hothers hmid
    obtain ⟨hkeptv, hcarefulv, _⟩ :=
      requestAreas.keeps_of_append step_kept hkept' (hlater w' hstep) hmid
    have hnot : ∀ size, c.inits ≠ some (owner, size) := by
      cases c <;> cases hcleans <;> exact nofun
    refine ⟨?_, heffect.data hrc⟩
    have hnone := call_clean hcleans hclean hrc'
    rcases hpending'.step (call_cases hkeptv hcarefulv hnot hclean) with
      ⟨hdata, hsome, _⟩ | ⟨_, hreleases⟩
    · exact absurd (hdata.symm.trans hnone) hsome
    · exact hreleases

/-- A manager with one guest that takes requests. -/
def managerWithGuest : Manager where
  eyecatcher := zisauxMgrEyecatcher
  hostSTC := defaultHostSTC
  ascbToComm := Table.empty
  nicknameToComm := Table.empty.put ['G'] 0
  managerTCB := 1
  commPool := Storage.empty.obtain
    { clearedCommArea with flag := zisauxHostFlagReady ||| zisauxHostFlagCommPcOn }

/-- A response of 300 bytes, of which the guest writes 280. -/
def sampleLifecycle : List RequestStep :=
  [.initPayload managerWithGuest [1, 2, 3] ⟨0, 0, 0, 0, 0⟩,
    .initResponse managerWithGuest 300 ⟨0, 0, 0, 0, 0⟩,
    .sendWork managerWithGuest ['G'] ⟨0, 0, ⟨280, .zero, some 0⟩, [(0, [7])]⟩,
    .copyResponse 300, .cleanResponse managerWithGuest ⟨0, 0⟩,
    .cleanPayload managerWithGuest ⟨0, 0⟩]

set_option maxRecDepth 4000 in
theorem lifecycle_kept_sample : LifecycleKept sampleLifecycle :=
  lifecycle_kept (by decide)

/-- An init that does not get access to its object, and the clean after it. -/
def deniedLifecycle : List RequestStep :=
  [.initResponse managerWithGuest 300 ⟨0, 0, 8, 0, 0⟩, .cleanResponse managerWithGuest ⟨0, 0⟩]

/-- A response of 16 bytes, to which the guest gives a length of 1000. -/
def longLifecycle : List RequestStep :=
  [.initResponse managerWithGuest 16 ⟨0, 0, 0, 0, 0⟩,
    .sendWork managerWithGuest ['G'] ⟨0, 0, ⟨1000, .zero, none⟩, []⟩, .copyResponse 4096]

set_option maxRecDepth 4000 in
theorem lifecycle_broken : ¬ LifecycleKept deniedLifecycle ∧ ¬ LifecycleKept longLifecycle := by
  constructor
  · intro h
    have hsound := h.sound _ (requestAreas.visits_of_run rfl)
    exact nomatch hsound.faultless
  · intro h
    have hsound := h.sound _ (requestAreas.visits_of_run rfl)
    exact nomatch hsound.faultless

end Zss.Zisaux
