import Zss.Zisaux.Manager

/-!
# The data of a request

`aux-manager.c`, the part that makes the payload and the response of a request to a guest, sends them,
copies the response out and gives their storage back. Data of at most 256 bytes stands inline, other
data in an object of shared memory. The payload goes to the guest by value; the response comes back as
the guest leaves it, its length and its pointer included.

A world is the two structures with the objects of shared memory. The calls of `shrmem64` are common-c's,
by their contract: an allocation stores an address only if it succeeds, and a release that succeeds
takes the object away. The token of each call is the manager's own and is left out, and so is
`shrmem64RemoveAccess`, whose return code is not looked at. A release of what a structure does not
own, and a copy of more than its storage holds, is noted.
-/

namespace Zss.Zisaux

open Zss.Lib

abbrev Bytes := List UInt8

def rcZisauxAuxNotReady : Int := 31
def rcZisauxBufferTooSmall : Int := 41
def rcZisauxCommPcDisabled : Int := 43

def zisauxHostFlagReady : BitVec 32 := 0x00000001

def rcShrmem64Ok : Int := 0

/-! ## Storage -/

/-- The size of the inline data. -/
def inlineSize : Nat := 256

/-- Bytes written over the first of others, as far as there are any. -/
def overwrite (old new : Bytes) : Bytes := (new ++ old.drop new.length).take old.length

theorem length_overwrite (old new : Bytes) : (overwrite old new).length = old.length := by
  rw [overwrite, List.length_take, List.length_append, List.length_drop]
  omega

/-- Inline data. -/
structure InlineData where
  bytes : Bytes
  length_eq : bytes.length = inlineSize

namespace InlineData

def zero : InlineData := ⟨List.replicate inlineSize 0, List.length_replicate ..⟩

def write (inlineData : InlineData) (bytes : Bytes) : InlineData :=
  ⟨overwrite inlineData.bytes bytes, (length_overwrite ..).trans inlineData.length_eq⟩

end InlineData

/-- `ZISAUXRequestPayload` and `ZISAUXRequestResponse`, two structures with the same fields. -/
structure RequestArea where
  length : Nat
  inlineData : InlineData
  data : Option Addr

/-- A structure of zeros. -/
def RequestArea.zero : RequestArea := ⟨0, .zero, none⟩

/-- The two structures of a request. -/
inductive Owner where
  | payload
  | response
deriving DecidableEq

/-- An object of shared memory, with the structure that it was allocated for. -/
structure SharedObject where
  owner : Owner
  bytes : Bytes

/-- What ought not to happen. -/
inductive AreaFault where
  | released (owner : Owner) (a : Addr)
  | readBeyond (length : Nat)

/-- The two structures of a request, and shared memory; with the releases that have succeeded and
what ought not to have happened. -/
structure RequestWorld where
  payload : RequestArea
  response : RequestArea
  shared : Storage SharedObject
  released : List (Owner × Addr)
  faults : List AreaFault

namespace RequestWorld

/-- Both structures cleared, and nothing allocated. -/
def start : RequestWorld := ⟨.zero, .zero, .empty, [], []⟩

variable (w : RequestWorld)

def area : Owner → RequestArea
  | .payload => w.payload
  | .response => w.response

def withArea (owner : Owner) (area : RequestArea) : RequestWorld :=
  match owner with
  | .payload => { w with payload := area }
  | .response => { w with response := area }

/-- The object at an address is allocated, for this structure. -/
def Owns (owner : Owner) (a : Addr) : Prop := (w.shared.get a).map SharedObject.owner = some owner

instance (owner : Owner) (a : Addr) : Decidable (w.Owns owner a) :=
  inferInstanceAs (Decidable (_ = _))

/-- The bytes that a structure's data stands in. -/
def storage (owner : Owner) : Bytes :=
  match (w.area owner).data with
  | none => (w.area owner).inlineData.bytes
  | some a =>
    if w.Owns owner a then ((w.shared.get a).map SharedObject.bytes).getD [] else []

/-- `shrmem64Release` for a structure. -/
def release (owner : Owner) (a : Addr) (rc : Int) : RequestWorld :=
  { w with
    shared := if rc = rcShrmem64Ok then w.shared.release a else w.shared
    released := if rc = rcShrmem64Ok then w.released ++ [(owner, a)] else w.released
    faults := if w.Owns owner a then w.faults else .released owner a :: w.faults }

end RequestWorld

/-! ## Making and cleaning -/

/-- What the calls of an init answer. -/
structure InitOutcome where
  allocRC : Int
  allocRSN : Nat
  accessRC : Int
  releaseRC : Int
  releaseRSN : Nat

/-- The storage of a structure, the same for both: the structure cleared, and an object allocated where
the data does not stand inline. The reason code of a failed access is that of the release. -/
def initArea (w : RequestWorld) (owner : Owner) (size : Nat) (env : InitOutcome) :
    RequestWorld × MgrReply :=
  let w := w.withArea owner .zero
  if size ≤ inlineSize then (w, ⟨rcZisauxOk, none⟩)
  else if env.allocRC ≠ rcShrmem64Ok then (w, ⟨rcZisauxShr64Error, some env.allocRSN⟩)
  else
    let data := w.shared.fresh
    let w := { w with shared := w.shared.obtain ⟨owner, List.replicate size 0⟩ }.withArea owner
      { RequestArea.zero with data := some data }
    if env.accessRC ≠ rcShrmem64Ok then
      (w.release owner data env.releaseRC, ⟨rcZisauxShr64Error, some env.releaseRSN⟩)
    else (w, ⟨rcZisauxOk, none⟩)

/-- The request data copied to where `copyBuffer` points. -/
def writePayload (w : RequestWorld) (requestData : Bytes) : RequestWorld :=
  match w.payload.data with
  | none =>
    w.withArea .payload
      { w.payload with
        length := requestData.length
        inlineData := w.payload.inlineData.write requestData }
  | some a =>
    { w with
      shared := w.shared.modify a fun object =>
        { object with bytes := overwrite object.bytes requestData } }.withArea .payload
      { w.payload with length := requestData.length }

/-- `zisauxMgrInitRequestPayload`. -/
def zisauxMgrInitRequestPayload (mgr : Manager) (w : RequestWorld) (requestData : Bytes)
    (env : InitOutcome) : RequestWorld × MgrReply :=
  if mgr.eyecatcher ≠ zisauxMgrEyecatcher then (w, ⟨rcZisauxBadEyecatcher, none⟩)
  else
    let (w, reply) := initArea w .payload requestData.length env
    if reply.rc ≠ rcZisauxOk then (w, reply) else (writePayload w requestData, reply)

/-- `zisauxMgrInitRequestResponse`. -/
def zisauxMgrInitRequestResponse (mgr : Manager) (w : RequestWorld) (bufferSize : Nat)
    (env : InitOutcome) : RequestWorld × MgrReply :=
  if mgr.eyecatcher ≠ zisauxMgrEyecatcher then (w, ⟨rcZisauxBadEyecatcher, none⟩)
  else
    let (w, reply) := initArea w .response bufferSize env
    if reply.rc ≠ rcZisauxOk then (w, reply)
    else (w.withArea .response { w.response with length := bufferSize }, reply)

/-- What the release of a clean answers. -/
structure CleanOutcome where
  releaseRC : Int
  releaseRSN : Nat

/-- The clean of a structure, the same for both. -/
def cleanArea (mgr : Manager) (w : RequestWorld) (owner : Owner) (env : CleanOutcome) :
    RequestWorld × MgrReply :=
  if mgr.eyecatcher ≠ zisauxMgrEyecatcher then (w, ⟨rcZisauxBadEyecatcher, none⟩)
  else
    match (w.area owner).data with
    | none => (w.withArea owner .zero, ⟨rcZisauxOk, none⟩)
    | some a =>
      let w := w.release owner a env.releaseRC
      if env.releaseRC ≠ rcShrmem64Ok then (w, ⟨rcZisauxShr64Error, some env.releaseRSN⟩)
      else (w.withArea owner .zero, ⟨rcZisauxOk, none⟩)

/-- `zisauxMgrCleanRequestPayload`. -/
def zisauxMgrCleanRequestPayload (mgr : Manager) (w : RequestWorld) (env : CleanOutcome) :
    RequestWorld × MgrReply :=
  cleanArea mgr w .payload env

/-- `zisauxMgrCleanRequestResponse`. -/
def zisauxMgrCleanRequestResponse (mgr : Manager) (w : RequestWorld) (env : CleanOutcome) :
    RequestWorld × MgrReply :=
  cleanArea mgr w .response env

/-! ## Sending -/

/-- What a call of the guest's PC routine answers: the response as the guest leaves it, and what it
writes into shared memory. -/
structure SendOutcome where
  callRC : Int
  auxRSN : Nat
  response : RequestArea
  writes : List (Addr × Bytes)

/-- Writes into objects of shared memory. -/
def RequestWorld.writeShared (w : RequestWorld) (writes : List (Addr × Bytes)) : RequestWorld :=
  { w with
    shared := writes.foldl (fun shared write => shared.modify write.1 fun object =>
      { object with bytes := overwrite object.bytes write.2 }) w.shared }

/-- `zisauxMgrSendWork`; `none` where the communication area it reads is not in use. -/
def zisauxMgrSendWork (mgr : Manager) (w : RequestWorld) (guestNickname : Nickname)
    (env : SendOutcome) : Option (RequestWorld × MgrReply) :=
  if mgr.eyecatcher ≠ zisauxMgrEyecatcher then some (w, ⟨rcZisauxBadEyecatcher, none⟩)
  else
    match mgr.nicknameToComm.get guestNickname with
    | none => some (w, ⟨rcZisauxCommNotFound, none⟩)
    | some comm =>
      (mgr.commPool.get comm).map fun commArea =>
        if !hasFlag commArea.flag zisauxHostFlagReady then (w, ⟨rcZisauxAuxNotReady, none⟩)
        else if !hasFlag commArea.flag zisauxHostFlagCommPcOn then
          (w, ⟨rcZisauxCommPcDisabled, none⟩)
        else
          ((w.writeShared env.writes).withArea .response env.response,
            ⟨env.callRC, some env.auxRSN⟩)

/-- `zisauxMgrCopyRequestResponseData`, with what it copies to a destination of a size. -/
def zisauxMgrCopyRequestResponseData (w : RequestWorld) (destSize : Nat) :
    RequestWorld × MgrReply × Bytes :=
  if destSize < w.response.length then (w, ⟨rcZisauxBufferTooSmall, none⟩, [])
  else
    let sourceData := w.storage .response
    (if w.response.length ≤ sourceData.length then w
      else { w with faults := .readBeyond w.response.length :: w.faults },
      ⟨rcZisauxOk, none⟩, sourceData.take w.response.length)

/-! ## Runs -/

/-- A call on the structures of a request, with the manager as it stands then. -/
inductive RequestStep where
  | initPayload (mgr : Manager) (requestData : Bytes) (env : InitOutcome)
  | initResponse (mgr : Manager) (bufferSize : Nat) (env : InitOutcome)
  | sendWork (mgr : Manager) (guestNickname : Nickname) (env : SendOutcome)
  | copyResponse (destSize : Nat)
  | cleanPayload (mgr : Manager) (env : CleanOutcome)
  | cleanResponse (mgr : Manager) (env : CleanOutcome)

/-- What a call leaves, and what its caller gets. -/
def RequestWorld.call (w : RequestWorld) : RequestStep → Option (RequestWorld × MgrReply)
  | .initPayload mgr requestData env => some (zisauxMgrInitRequestPayload mgr w requestData env)
  | .initResponse mgr bufferSize env => some (zisauxMgrInitRequestResponse mgr w bufferSize env)
  | .sendWork mgr guestNickname env => zisauxMgrSendWork mgr w guestNickname env
  | .copyResponse destSize =>
    let (w, reply, _) := zisauxMgrCopyRequestResponseData w destSize
    some (w, reply)
  | .cleanPayload mgr env => some (zisauxMgrCleanRequestPayload mgr w env)
  | .cleanResponse mgr env => some (zisauxMgrCleanRequestResponse mgr w env)

/-- The structures of a request under a sequence of calls. -/
def requestAreas : Machine RequestWorld RequestStep where
  step w e := (w.call e).map Prod.fst

end Zss.Zisaux
