import Zss.Datasets.Vsam
import Zss.Lib.Storage
import Zss.Lib.Table
import Zss.Lib.World

/-!
# The sessions of VSAM data sets

What stands between requests: the table of sessions, the blocks of its keys and states, and the ACBs
that are open. `sessions` is the world that the service's requests run in; it says what each call
finds and leaves, and notes where freed storage is used or freed again, a null ACB is used, a key is
read beyond its end, or a request uses an ACB that is not its own. `vsamService` takes one request
after the other.
-/

namespace Zss.Datasets

open Zss.Lib

/-! ## What stands between requests -/

/-- A user and a data set. The data set is the data component, where the catalog has one, else what
the request names. -/
structure Requester where
  username : UserName
  dataSet : Text
deriving DecidableEq

/-- What goes wrong. -/
inductive Fault where
  | usedAfterFree
  | freedTwice
  | unterminatedKey
  | nullACB
  | foreignACB
deriving DecidableEq

/-- The request that is served, and the ACBs it has used. -/
structure Serving where
  requester : Requester
  closeAfter : Bool
  used : List Addr

/-- The request has used an ACB. -/
def Serving.note (serving : Serving) (acb : Addr) : Serving :=
  { serving with used := serving.used ++ [acb] }

/-- The state of the service. The table has a session's key block and state block under its key; an
ACB has the requester that opened it. -/
structure Sessions where
  acbTable : Table Text (Addr × Addr)
  pairs : Storage DsnUidPair
  states : Storage StatefulACB
  keyBuffers : Storage Nat
  acbs : Storage Requester
  serving : Serving
  faults : List Fault

namespace Sessions

/-- What `installVSAMDatasetContentsService` leaves. -/
def empty : Sessions :=
  ⟨Table.empty, .empty, .empty, .empty, .empty, ⟨⟨⟨[], by decide, by decide⟩, []⟩, false, []⟩, []⟩

variable (w : Sessions)

/-- What a key reads, if its block was not freed. -/
def keyText : KeyRef → Option Text
  | .block pair => (w.pairs.get pair).map DsnUidPair.text
  | .array text _ => some text

/-- What is wrong with reading a key. -/
def keyFaults : KeyRef → List Fault
  | .block pair =>
    match w.pairs.get pair with
    | some key => if key.terminated then [] else [.unterminatedKey]
    | none => [.usedAfterFree]
  | .array _ terminated => if terminated then [] else [.unterminatedKey]

/-- The state that a key leads to. -/
def find (key : KeyRef) : Option Addr :=
  ((w.keyText key).bind w.acbTable.get).map Prod.snd

/-- The table after an entry is put, or taken out, under a key. -/
def tableUnder (key : KeyRef) (f : Text → Table Text (Addr × Addr)) : Table Text (Addr × Addr) :=
  match w.keyText key with
  | some text => f text
  | none => w.acbTable

/-- What is wrong with freeing a block. -/
def freeFaults {α : Type} (blocks : Storage α) (a : Addr) : List Fault :=
  if blocks.Live a then [] else [.freedTwice]

/-- What is wrong with using an ACB. -/
def useFaults (acb : Addr) : List Fault :=
  if w.acbs.get acb = some w.serving.requester then [] else [.foreignACB]

/-- An ACB used. -/
def use (acb : Addr) : Sessions :=
  { w with serving := w.serving.note acb, faults := w.faults ++ w.useFaults acb }

/-- An ACB used that may be null. -/
def usePointer : Option Addr → Sessions
  | some acb => w.use acb
  | none => { w with faults := w.faults ++ [.nullACB] }

/-- The data set of the request, once its key is made. -/
def nameDataSet (dsnData : Option CatalogName) : Serving :=
  match dsnData with
  | some name =>
    { w.serving with requester := { w.serving.requester with dataSet := name.chars } }
  | none => w.serving

/-- One call: whether it can have its answer, and what it leaves. -/
def after : Event calls → Option Sessions
  | ⟨.safeMalloc (.pair key), a⟩ =>
    if a = w.pairs.fresh then
      some { w with pairs := w.pairs.obtain key, serving := w.nameDataSet key.dsnData }
    else none
  | ⟨.safeMalloc (.state content), a⟩ =>
    if a = w.states.fresh then some { w with states := w.states.obtain content } else none
  | ⟨.safeMalloc (.keyBuffer length), a⟩ =>
    if a = w.keyBuffers.fresh then some { w with keyBuffers := w.keyBuffers.obtain length }
    else none
  | ⟨.safeFree (.pair a), _⟩ =>
    some { w with pairs := w.pairs.release a, faults := w.faults ++ freeFaults w.pairs a }
  | ⟨.safeFree (.state a), _⟩ =>
    some { w with states := w.states.release a, faults := w.faults ++ freeFaults w.states a }
  | ⟨.htGet key, found⟩ =>
    if found = w.find key then some { w with faults := w.faults ++ w.keyFaults key } else none
  | ⟨.htPut pair state, _⟩ =>
    some { w with
      acbTable := w.tableUnder (.block pair) fun text => w.acbTable.put text (pair, state)
      faults := w.faults ++ w.keyFaults (.block pair) }
  | ⟨.htRemove pair, _⟩ =>
    some { w with
      acbTable := w.tableUnder (.block pair) w.acbTable.remove
      faults := w.faults ++ w.keyFaults (.block pair) }
  | ⟨.readState state, content⟩ =>
    match w.states.get state with
    | some stored => if content = stored then some w else none
    | none => some { w with faults := w.faults ++ [.usedAfterFree] }
  | ⟨.writeState state content, _⟩ =>
    some { w with
      states := w.states.modify state fun _ => content
      faults := w.faults ++ if w.states.Live state then [] else [.usedAfterFree] }
  | ⟨.openACB .., some acb⟩ =>
    if acb = w.acbs.fresh then some { w with acbs := w.acbs.obtain w.serving.requester } else none
  | ⟨.closeACB acb, _⟩ =>
    some { w with acbs := w.acbs.release acb, faults := w.faults ++ w.useFaults acb }
  | ⟨.point acb _, _⟩ => some (w.use acb)
  | ⟨.modRPL acb _, _⟩ => some (w.use acb)
  | ⟨.getRecords acb _ _, _⟩ => some (w.use acb)
  | ⟨.rplBufLen acb, _⟩ => some (w.usePointer acb)
  | ⟨.putRecord acb, _⟩ => some (w.usePointer acb)
  | _ => some w

/-- The next request comes in. -/
def begin (request : VsamRequest) : Sessions :=
  { w with
    serving := ⟨⟨request.username, request.absolutePath⟩, isCloseAfter request.closeAfter, []⟩ }

end Sessions

/-- The world of the service. -/
def sessions : Machine Sessions (Event calls) := ⟨Sessions.after⟩

/-- A request with what is called for it. -/
structure Served where
  request : VsamRequest
  events : Trace
  runs : (serveVSAMDatasetContents request).Runs events ()

/-- The service, one request after the other. -/
def vsamService : Machine Sessions Served :=
  ⟨fun w served => sessions.run (w.begin served.request) served.events⟩

/-! ## The property -/

/-- The session table in order. Nothing has gone wrong; what is in use is what the table leads to,
each block and ACB as it should be; and a request that closes has closed the ACBs it used, of which
the table has none. -/
structure Sessions.Kept (w : Sessions) : Prop where
  faultless : w.faults = []
  pairs : ∀ pair, w.pairs.Live pair ↔ ∃ key state, w.acbTable.get key = some (pair, state)
  states : ∀ state, w.states.Live state ↔ ∃ key pair, w.acbTable.get key = some (pair, state)
  keyBuffers : ∀ buffer, w.keyBuffers.Live buffer ↔
    ∃ state content, w.states.get state = some content ∧ content.key = some buffer
  acbs : ∀ acb, w.acbs.Live acb ↔
    ∃ state content, w.states.get state = some content ∧ content.acb = some acb
  closed : w.serving.closeAfter = true → ∀ acb ∈ w.serving.used, ¬ w.acbs.Live acb ∧
    ∀ state content, w.states.get state = some content → content.acb ≠ some acb

/-- What a request must find so that the table is in order after it: its key ends where it should;
the catalog names the data component; a request that closes finds no ACB to take over, and does not
read a KSDS; what is allocated, opened and positioned is; and an update names the data component
itself, finds an ACB, and is not to close it. -/
def considerate (request : VsamRequest) : Event calls → Bool
  | ⟨.stray, rest⟩ => decide (request.username.chars.length < 8) || rest.startsWithZero
  | ⟨.returnVSAMEntries dsn, some entry⟩ =>
    (dsn != padded 44 request.absolutePath || entry.type != 'C' || entry.assoc.isSome) &&
      (!isCloseAfter request.closeAfter || entry.type != 'D' ||
        decide (vsamTypeOf entry.vsamType ≠ .ksds))
  | ⟨.htGet _, found⟩ =>
    match request.method with
    | .methodGET => !(isCloseAfter request.closeAfter && found.isSome)
    | .methodPOST => found.isSome && request.absolutePath.length == 44 &&
        !isCloseAfter request.closeAfter
  | ⟨.dynallocDataset _ ddNumber, da⟩ =>
    da.returnCode == 0 || (da.reasonCode == ddNameInUse && decide (ddNumber < 99999))
  | ⟨.openACB .., acb⟩ => acb.isSome
  | ⟨.point .., returnCode⟩ => returnCode == 0
  | _ => true

end Zss.Datasets
