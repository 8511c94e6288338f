import Zss.Lib.Machine
import Zss.Lib.Storage
import Zss.Lib.Table

/-!
# Upload sessions

The PUT requests of `unixFileService.c`. A request first prunes the sessions that timed out; then,
without a session id, it assigns one: it finds the file, checks that no session has it, registers a
session for it, opens it with truncation, tags it and issues the id. With an id it writes a chunk,
and after the last one, or a failure, the session is removed. Two tables lead from an id to a
session: `fileIDsBySessionID` has the address of a file id, and `sessionsByFileID`, which owns the
file ids and the sessions, is searched by what is stored there.

Requests run at the same time. What one does between two operations under the lock, or with a
session it has looked up, is a step of `uploads`; a label says which request moves and what the file
system answers. A file id or session that was given back is not there any more: a step that reads
one leaves the world `undefined`, and nothing follows.

Of common-c's tables `CommonC` leaves open whether `htPrune` gives keys back; an `htPut` of a known
key keeps the key and replaces the value, and gives nothing back. File names are resolved once: the
file a request opens is the one it found.
-/

namespace Zss.Unixfile

open Zss.Lib

abbrev Text := List Char

def timeoutTime : UInt32 := 600

/-! ## Data -/

structure FileID where
  iNode : Int
  deviceID : Int
deriving DecidableEq

inductive TransferType where
  | none
  | binary
  | text
deriving DecidableEq

/-- `UploadSession`. `upload` is the file it was made for, which the code has in the table's key
only; a field that is not set yet is `none`. -/
structure UploadSession where
  upload : FileID
  file : Option FileID
  timeOfLastRequest : UInt32
  sessionID : Option Nat
  targetCCSID : Int
  sourceCCSID : Int
  tType : TransferType
  userName : Option Text

/-- `UploadSessionTracker` with the file ids and sessions that were obtained for it. An entry of
`sessionsByFileID` is the address of its key and that of its session. `issued` lists the ids with
the sessions they were issued for, which the code does not. -/
structure UploadSessionTracker where
  fileIDs : Storage FileID
  sessions : Storage UploadSession
  sessionsByFileID : Table FileID (Addr × Addr)
  fileIDsBySessionID : Table Nat Addr
  sessionCounter : Nat
  issued : List (Nat × Addr)

/-- What is asked of the code that is not here: the charset table, whether `htPrune` gives the keys
back, and the file id that stands at address zero. -/
structure CommonC where
  getCharsetCode : Text → Int
  ccsidBinary : Int
  pruneFreesKeys : Bool
  nullFileID : FileID

/-- A PUT request; `sessionID` is what `strtoul` makes of the parameter. -/
structure PutRequest where
  currUnixTime : UInt32
  username : Text
  sessionID : Option Nat
  forceOverwrite : Option Text
  sourceEncoding : Option Text
  targetEncoding : Option Text
  lastChunk : Option Text
  contentLength : Nat

/-- What the caller is told. -/
inductive Reply where
  | sessionID (id : Option Nat)
  | message (text : String)
  | error (text : String) (status : Nat)

/-! ## Parameters -/

def strupcase (s : Text) : Text := s.map Char.toUpper

def isTrue (param : Option Text) : Bool :=
  param.any fun value => strupcase value = ['T', 'R', 'U', 'E']

def binaryEncoding : Text := ['B', 'I', 'N', 'A', 'R', 'Y']

structure Encoding where
  sourceCCSID : Int
  targetCCSID : Int
  transferType : TransferType

/-- `getEncodingInfoFromQueryParameters`. -/
def getEncodingInfoFromQueryParameters (c : CommonC) (source target : Text) : Encoding :=
  if strupcase source = binaryEncoding ∧ strupcase target = binaryEncoding then
    ⟨c.ccsidBinary, c.ccsidBinary, .binary⟩
  else ⟨c.getCharsetCode source, c.getCharsetCode target, .text⟩

/-- `parseEncodingParameter`. -/
def parseEncodingParameter (c : CommonC) (req : PutRequest) : Except Reply Encoding :=
  match req.sourceEncoding, req.targetEncoding with
  | some source, some target =>
    let encoding := getEncodingInfoFromQueryParameters c source target
    if (encoding.sourceCCSID = -1 ∨ encoding.targetCCSID = -1) ∧ encoding.transferType = .text then
      .error (.error "Unsupported encodings requested." 400)
    else .ok encoding
  | _, _ => .error (.error "Source encoding and/or target encoding are missing." 400)

/-- What `fileInfo`, and where the file is missing its creation, come to. -/
inductive FileOutcome where
  | existing (fileID : FileID)
  | created (fileID : FileID)
  | notCreated
  | notClosed
  | noMetadata

/-- `checkForOverwritePermission` and `handleNewFileCase`. -/
def fileToUpload (req : PutRequest) : FileOutcome → Except Reply FileID
  | .existing fileID =>
    if isTrue req.forceOverwrite then .ok fileID
    else .error (.error ("File already exists. Please choose a different file name or attach " ++
      "the forceOverwrite query parameter to your next request.") 200)
  | .created fileID => .ok fileID
  | .notCreated => .error (.error "Could not create new file." 500)
  | .notClosed => .error (.error "Could not close file." 500)
  | .noMetadata => .error (.error "Could not get metadata for file." 500)

/-! ## The tables under their lock -/

/-- `timeOutMatcher`, in unsigned words. -/
def timeOutMatcher (currTime : UInt32) (session : UploadSession) : Bool :=
  currTime - session.timeOfLastRequest ≥ timeoutTime

namespace UploadSessionTracker

/-- The pruning comes upon a session that timed out. -/
def timedOut (t : UploadSessionTracker) (currTime : UInt32) (entry : Addr × Addr) : Bool :=
  (t.sessions.get entry.2).any (timeOutMatcher currTime)

/-- The entries that a pruning takes away. -/
def expired (t : UploadSessionTracker) (currTime : UInt32) : List (FileID × Addr × Addr) :=
  t.sessionsByFileID.entries.filter fun entry => t.timedOut currTime entry.2

/-- `removeSessionTimeOuts`. -/
def removeSessionTimeOuts (c : CommonC) (t : UploadSessionTracker) (currTime : UInt32) :
    UploadSessionTracker :=
  { t with
    sessionsByFileID := t.sessionsByFileID.prune fun _ entry => t.timedOut currTime entry
    sessions := t.sessions.releaseAll ((t.expired currTime).map fun entry => entry.2.2)
    fileIDs := if c.pruneFreesKeys then
      t.fileIDs.releaseAll ((t.expired currTime).map fun entry => entry.2.1) else t.fileIDs }

/-- `addToTable` for a new session and its key. -/
def addToTable (t : UploadSessionTracker) (fileID : FileID) (key session : Addr) :
    UploadSessionTracker :=
  { t with
    sessionsByFileID := t.sessionsByFileID.put fileID
      (((t.sessionsByFileID.get fileID).map Prod.fst).getD key, session) }

/-- `removeFromTable`: the table gives back the key and the session of the entry. -/
def removeFromTable (t : UploadSessionTracker) (fileID : FileID) : UploadSessionTracker :=
  match t.sessionsByFileID.get fileID with
  | none => t
  | some (key, session) =>
    { t with
      sessionsByFileID := t.sessionsByFileID.remove fileID
      fileIDs := t.fileIDs.release key
      sessions := t.sessions.release session }

/-- `addSessionIDToTableAndIncrementCounter`; the counter is a word of 32 bits. -/
def addSessionID (t : UploadSessionTracker) (key session : Addr) : UploadSessionTracker :=
  { t with
    fileIDsBySessionID := t.fileIDsBySessionID.put (t.sessionCounter % 2 ^ 32) key
    sessions := t.sessions.modify session fun s =>
      { s with sessionID := some (t.sessionCounter % 2 ^ 32) }
    sessionCounter := t.sessionCounter + 1
    issued := (t.sessionCounter % 2 ^ 32, session) :: t.issued }

def modifySession (t : UploadSessionTracker) (session : Addr)
    (f : UploadSession → UploadSession) : UploadSessionTracker :=
  { t with sessions := t.sessions.modify session f }

end UploadSessionTracker

/-- The tracker that `installUnixFileContentsService` makes. -/
def newTracker : UploadSessionTracker where
  fileIDs := Storage.empty
  sessions := Storage.empty
  sessionsByFileID := Table.empty
  fileIDsBySessionID := Table.empty
  sessionCounter := 1
  issued := []

/-! ## A request -/

/-- What an assignment has found before it turns to the tables. -/
structure Assignment where
  req : PutRequest
  encoding : Encoding
  fileID : FileID

/-- A chunk request with the id it names and the address that the id led to. -/
structure Chunk where
  req : PutRequest
  id : Nat
  key : Option Addr

/-- What a request does next. -/
inductive Phase where
  | pruning (req : PutRequest)
  | preparing (req : PutRequest)
  | checking (asg : Assignment)
  | adding (asg : Assignment)
  | opening (asg : Assignment) (key session : Addr)
  | tagging (asg : Assignment) (key session : Addr)
  | dropping (asg : Assignment) (key session : Addr) (reply : Reply)
  | numbering (asg : Assignment) (key session : Addr)
  | naming (asg : Assignment) (key session : Addr)
  | resolving (req : PutRequest) (id : Nat)
  | looking (chunk : Chunk)
  | stamping (chunk : Chunk) (session : Addr)
  | validating (chunk : Chunk) (session : Addr)
  | writing (chunk : Chunk) (session : Addr) (lastChunk : Bool)
  | removing (chunk : Chunk) (reply : Reply)
  | forgetting (id : Nat) (reply : Reply)
  | done (reply : Reply)

/-- How a step of a request goes: there is none, it reads what is not there, or it is made. -/
inductive Effect where
  | over
  | undefined
  | moved (t : UploadSessionTracker) (next : Phase)

/-- A session as `assignSessionIDToCaller` registers it. -/
def newSession (asg : Assignment) : UploadSession where
  upload := asg.fileID
  file := none
  timeOfLastRequest := asg.req.currUnixTime
  sessionID := none
  targetCCSID := asg.encoding.targetCCSID
  sourceCCSID := asg.encoding.sourceCCSID
  tType := asg.encoding.transferType
  userName := none

/-- A file id read through its address. -/
def readFileID (c : CommonC) (t : UploadSessionTracker) : Option Addr → Option FileID
  | none => some c.nullFileID
  | some key => t.fileIDs.get key

/-- The status of writing a chunk: an empty one is not written, and an unknown transfer type
fails. -/
def writeStatus (req : PutRequest) (session : UploadSession) (written : Bool) : Bool :=
  match session.tType with
  | .none => false
  | _ => req.contentLength = 0 ∨ written

/-- The step of an assignment or a chunk request that uses its session. -/
def useSession (t : UploadSessionTracker) (session : Addr) (f : UploadSession → Effect) : Effect :=
  ((t.sessions.get session).map f).getD .undefined

/-- One step of `serveUnixFileContents` for a PUT request, of `assignSessionIDToCaller` or of
`doChunking`. `file` is what the file turns out to be, `ok` whether the file operation succeeds. -/
def Phase.step (c : CommonC) (t : UploadSessionTracker) (file : FileOutcome) (ok : Bool) :
    Phase → Effect
  | .pruning req =>
    .moved (t.removeSessionTimeOuts c req.currUnixTime)
      (match req.sessionID with
      | none => .preparing req
      | some id => .resolving req (id % 2 ^ 32))
  | .preparing req =>
    .moved t
      (match parseEncodingParameter c req with
      | .error reply => .done reply
      | .ok encoding =>
        match fileToUpload req file with
        | .error reply => .done reply
        | .ok fileID => .checking ⟨req, encoding, fileID⟩)
  | .checking asg =>
    .moved t
      (if (t.sessionsByFileID.get asg.fileID).isSome then
        .done (.error "Duplicate in table. Requested resource is busy. Please try again later." 403)
      else .adding asg)
  | .adding asg =>
    let obtained := { t with
      fileIDs := t.fileIDs.obtain asg.fileID, sessions := t.sessions.obtain (newSession asg) }
    .moved (obtained.addToTable asg.fileID t.fileIDs.fresh t.sessions.fresh)
      (.opening asg t.fileIDs.fresh t.sessions.fresh)
  | .opening asg key session =>
    .moved t
      (if ok then .tagging asg key session
      else .dropping asg key session
        (.error "Could not open file. Requested resource is busy. Please try again later." 403))
  | .tagging asg key session =>
    if !ok then .moved t (.dropping asg key session (.error "Could not tag file." 500))
    else useSession t session fun _ =>
      .moved (t.modifySession session fun s => { s with file := some asg.fileID })
        (.numbering asg key session)
  | .dropping _ key _ reply =>
    match t.fileIDs.get key with
    | none => .undefined
    | some fileID => .moved (t.removeFromTable fileID) (.done reply)
  | .numbering asg key session =>
    useSession t session fun _ => .moved (t.addSessionID key session) (.naming asg key session)
  | .naming asg _ session =>
    useSession t session fun s =>
      .moved (t.modifySession session fun s => { s with userName := some (asg.req.username.take 9) })
        (.done (.sessionID s.sessionID))
  | .resolving req id => .moved t (.looking ⟨req, id, t.fileIDsBySessionID.get id⟩)
  | .looking chunk =>
    match readFileID c t chunk.key with
    | none => .undefined
    | some fileID =>
      .moved t
        (match t.sessionsByFileID.get fileID with
        | none => .done (.error "Session identifier is invalid." 403)
        | some (_, session) => .stamping chunk session)
  | .stamping chunk session =>
    useSession t session fun _ =>
      .moved (t.modifySession session fun s => { s with
        timeOfLastRequest := chunk.req.currUnixTime }) (.validating chunk session)
  | .validating chunk session =>
    useSession t session fun s =>
      .moved t
        (if s.userName ≠ some chunk.req.username then
          .done (.error "User is not associated with the provided session identifier." 400)
        else
          match chunk.req.lastChunk with
          | none => .done (.error "Last chunk is missing." 400)
          | some value => .writing chunk session (isTrue (some value)))
  | .writing chunk session lastChunk =>
    useSession t session fun s =>
      .moved t
        (if !writeStatus chunk.req s ok then
          .removing chunk (.error "Failed to write chunk to file." 500)
        else if lastChunk then .removing chunk (.message "Successfully wrote file.")
        else .done (.message "Successfully wrote chunk to file."))
  | .removing chunk reply =>
    match readFileID c t chunk.key with
    | none => .undefined
    | some fileID => .moved (t.removeFromTable fileID) (.forgetting chunk.id reply)
  | .forgetting id reply =>
    .moved { t with fileIDsBySessionID := t.fileIDsBySessionID.remove id } (.done reply)
  | .done _ => .over

/-! ## Requests at the same time -/

/-- The tracker, the requests in the order they came, and whether one of them read what was given
back. -/
structure Uploads where
  tracker : UploadSessionTracker
  requests : List Phase
  undefined : Bool

inductive UploadStep where
  | arrive (req : PutRequest)
  | advance (request : Nat) (file : FileOutcome) (ok : Bool)

/-- What the request at an index does next. -/
def Uploads.stepOf (c : CommonC) (w : Uploads) (request : Nat) (file : FileOutcome) (ok : Bool) :
    Effect :=
  ((w.requests[request]?).map (Phase.step c w.tracker file ok)).getD .over

/-- The PUT service under requests in any order, each making one step at a time. -/
def uploads (c : CommonC) : Machine Uploads UploadStep where
  step w
    | .arrive req =>
      if w.undefined then none else some { w with requests := w.requests ++ [.pruning req] }
    | .advance request file ok =>
      if w.undefined then none
      else
        match w.stepOf c request file ok with
        | .over => none
        | .undefined => some { w with undefined := true }
        | .moved t next =>
          some { tracker := t, requests := w.requests.set request next, undefined := false }

/-- The service as it is installed. -/
def newUploads : Uploads where
  tracker := newTracker
  requests := []
  undefined := false

end Zss.Unixfile
