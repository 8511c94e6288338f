import Zss.Unixfile.UploadClock

/-!
# Refused uploads

What a PUT request leaves behind that is answered with an error before it came to writing. `alone`
runs the steps of one request by itself and writes down what it does besides: the file handles it
opens and closes, and where it reads a query parameter or a table entry that is not there. Its steps
are the `Phase.step`s of `uploads`, with no other request in between.

`Phase.Come` says what was done on the way to each phase and `Refused` what that comes to in a
refusal. `refused_keeps` is what a refusal leaves alone: everything but what its pruning took away
and the time of the session it found.

## What is not established

What other requests do meanwhile (`Zss.Unixfile.UploadSessions`), and what a read of a parameter or
an entry that is not there finds: it is noted, not followed.
-/

namespace Zss.Unixfile

open Zss.Lib

/-! ## What a request does -/

/-- A file handle: of the file a request creates, of the one it opens for its session, the one a
session holds, or whatever stands where a session's handle was never set. -/
inductive Handle where
  | made
  | upload
  | held (session : Addr)
  | unset (session : Addr)
deriving DecidableEq

/-- What may be read though it is not there: the query parameter, or the file id that no session id
leads to. -/
inductive Missing where
  | forceOverwrite
  | fileID
deriving DecidableEq

inductive Deed where
  | opened (handle : Handle)
  | closed (handle : Handle)
  | read (missing : Missing)
  | wrote
deriving DecidableEq

/-- The handle that the destructors close. -/
def UploadSessionTracker.handle (t : UploadSessionTracker) (session : Addr) : Handle :=
  if ((t.sessions.get session).bind (·.file)).isSome then .held session else .unset session

/-- `parseForceOverwriteParameter` reads the parameter without a look whether it is there. -/
def PutRequest.parameterDeeds (req : PutRequest) : List Deed :=
  if req.forceOverwrite.isNone then [.read .forceOverwrite] else []

/-- `handleNewFileCase` opens the file it creates and closes it at once. -/
def FileOutcome.deeds : FileOutcome → List Deed
  | .created _ | .notClosed | .noMetadata => [.opened .made, .closed .made]
  | .existing _ | .notCreated => []

/-- The deeds of a chunk request on the way to its session; `fileIDHasher` reads the file id. -/
def idDeeds (key : Option Addr) : List Deed :=
  if key.isNone then [.read .fileID] else []

/-- What a step does besides its part in the tables. -/
def Phase.acts (c : CommonC) (file : FileOutcome) (ok : Bool) : Phase → List Deed
  | .preparing req =>
    req.parameterDeeds ++
      match parseEncodingParameter c req with
      | .error _ => []
      | .ok _ => file.deeds
  | .opening _ _ _ => if ok then [.opened .upload] else []
  | .looking chunk => idDeeds chunk.key
  | .writing _ _ _ => [.wrote]
  | _ => []

/-- The handles that go with the entries that are given back. -/
def UploadSessionTracker.closes (t : UploadSessionTracker) (entries : List (Addr × Addr)) :
    List Deed :=
  entries.map fun entry => .closed (t.handle entry.2)

/-- What a step does, with the handles that the tables' destructors close. -/
def Phase.deeds (c : CommonC) (t : UploadSessionTracker) (file : FileOutcome) (ok : Bool)
    (phase : Phase) : List Deed :=
  phase.acts c file ok ++ t.closes (phase.releases c t)

/-! ## A request by itself -/

/-- The tracker, the phase the one request is in, and what it has done. -/
structure Alone where
  tracker : UploadSessionTracker
  phase : Phase
  deeds : List Deed

/-- One request, step by step; a label says what the file system answers. -/
def alone (c : CommonC) : Machine Alone (FileOutcome × Bool) where
  step a answer :=
    match a.phase.step c a.tracker answer.1 answer.2 with
    | .moved t next =>
      some ⟨t, next, a.deeds ++ a.phase.deeds c a.tracker answer.1 answer.2⟩
    | _ => none

/-- A request that comes to a tracker. -/
def arriving (t : UploadSessionTracker) (req : PutRequest) : Alone := ⟨t, .pruning req, []⟩

variable {c : CommonC} {t t' : UploadSessionTracker} {req : PutRequest}

theorem alone_step {a b : Alone} {answer : FileOutcome × Bool}
    (h : (alone c).step a answer = some b) :
    a.phase.step c a.tracker answer.1 answer.2 = .moved b.tracker b.phase ∧
      b.deeds = a.deeds ++ a.phase.deeds c a.tracker answer.1 answer.2 := by
  simp only [alone] at h
  split at h
  next heffect =>
    cases h
    exact ⟨heffect, rfl⟩
  next => cases h

/-! ## How a request is refused -/

/-- The tracker once a request has pruned it. -/
def pruned (c : CommonC) (t : UploadSessionTracker) (req : PutRequest) : UploadSessionTracker :=
  t.removeSessionTimeOuts c req.currUnixTime

/-- The handles of the sessions that the pruning takes away. -/
def pruningDeeds (t : UploadSessionTracker) (req : PutRequest) : List Deed :=
  t.closes ((t.expired req.currUnixTime).map Prod.snd)

/-- What an assignment has done once it knows its file. -/
def preparedDeeds (t : UploadSessionTracker) (req : PutRequest) (file : FileOutcome) : List Deed :=
  pruningDeeds t req ++ (req.parameterDeeds ++ file.deeds)

/-- The address of the file id that the request's session id leads to. -/
def idKey (t : UploadSessionTracker) (req : PutRequest) : Option Addr :=
  req.sessionID.bind fun id => t.fileIDsBySessionID.get (id % 2 ^ 32)

/-- What a chunk request has done once it knows its session. -/
def lookedDeeds (t : UploadSessionTracker) (req : PutRequest) : List Deed :=
  pruningDeeds t req ++ idDeeds (idKey t req)

/-- The session that the request's id leads to. -/
def sessionOf (c : CommonC) (t : UploadSessionTracker) (req : PutRequest) : Option Addr :=
  req.sessionID.bind fun _ => (readFileID c t (idKey t req)).bind fun fileID =>
    (t.sessionsByFileID.get fileID).map Prod.snd

def busyText : String := "Could not open file. Requested resource is busy. Please try again later."

def untaggableText : String := "Could not tag file."

def invalidText : String := "Session identifier is invalid."

/-- **A refusal.** What a request has done that is answered with an error before it writes. -/
inductive Refused (c : CommonC) (t : UploadSessionTracker) (req : PutRequest) :
    UploadSessionTracker → String → List Deed → Prop
  /-- The parameters or the file do not do, or the file has a session. -/
  | unregistered {text : String} (file : FileOutcome) (assigns : req.sessionID = none)
      (busy : text ≠ busyText) (untaggable : text ≠ untaggableText) :
      Refused c t req (pruned c t req) text (preparedDeeds t req file)
  /-- The session is taken back that was registered for a file that cannot be opened. -/
  | busy (file : FileOutcome) (asg : Assignment) (assigns : req.sessionID = none)
      (new : (pruned c t req).sessionsByFileID.get asg.fileID = none) :
      Refused c t req ((addedTracker (pruned c t req) asg).removeFromTable asg.fileID) busyText
        (preparedDeeds t req file ++ [.closed (.unset (pruned c t req).sessions.fresh)])
  /-- The session is taken back that was registered for a file that was opened. -/
  | untaggable (file : FileOutcome) (asg : Assignment) (assigns : req.sessionID = none)
      (new : (pruned c t req).sessionsByFileID.get asg.fileID = none) :
      Refused c t req ((addedTracker (pruned c t req) asg).removeFromTable asg.fileID)
        untaggableText (preparedDeeds t req file ++
          [.opened .upload, .closed (.unset (pruned c t req).sessions.fresh)])
  /-- The id leads to no session. -/
  | unknown (chunks : req.sessionID.isSome) (none : sessionOf c (pruned c t req) req = none) :
      Refused c t req (pruned c t req) invalidText (lookedDeeds t req)
  /-- The session is another user's, or `lastChunk` is missing. -/
  | stamped {text : String} {session : Addr} (chunk : Chunk) (same : chunk.req = req)
      (found : sessionOf c (pruned c t req) req = some session)
      (busy : text ≠ busyText) (untaggable : text ≠ untaggableText) (known : text ≠ invalidText) :
      Refused c t req (stampedTracker (pruned c t req) chunk session) text (lookedDeeds t req)

/-- What was done on the way to a phase. -/
def Phase.Come (c : CommonC) (t : UploadSessionTracker) (req : PutRequest)
    (now : UploadSessionTracker) (deeds : List Deed) : Phase → Prop
  | .pruning r => r = req ∧ now = t ∧ deeds = []
  | .preparing r => r = req ∧ req.sessionID = none ∧ now = pruned c t req ∧
      deeds = pruningDeeds t req
  | .checking _ => req.sessionID = none ∧ now = pruned c t req ∧
      ∃ file, deeds = preparedDeeds t req file
  | .adding asg => req.sessionID = none ∧ now = pruned c t req ∧
      now.sessionsByFileID.get asg.fileID = none ∧ ∃ file, deeds = preparedDeeds t req file
  | .opening asg key session => req.sessionID = none ∧ now = addedTracker (pruned c t req) asg ∧
      key = (pruned c t req).fileIDs.fresh ∧ session = (pruned c t req).sessions.fresh ∧
      (pruned c t req).sessionsByFileID.get asg.fileID = none ∧
      ∃ file, deeds = preparedDeeds t req file
  | .tagging asg key session => req.sessionID = none ∧ now = addedTracker (pruned c t req) asg ∧
      key = (pruned c t req).fileIDs.fresh ∧ session = (pruned c t req).sessions.fresh ∧
      (pruned c t req).sessionsByFileID.get asg.fileID = none ∧
      ∃ file, deeds = preparedDeeds t req file ++ [.opened .upload]
  | .dropping asg key session reply => req.sessionID = none ∧
      now = addedTracker (pruned c t req) asg ∧ key = (pruned c t req).fileIDs.fresh ∧
      session = (pruned c t req).sessions.fresh ∧
      (pruned c t req).sessionsByFileID.get asg.fileID = none ∧
      ∃ file, (reply = .error busyText 403 ∧ deeds = preparedDeeds t req file) ∨
        (reply = .error untaggableText 500 ∧
          deeds = preparedDeeds t req file ++ [.opened .upload])
  | .numbering _ _ _ | .naming _ _ _ => True
  | .resolving r id => r = req ∧ req.sessionID.map (· % 2 ^ 32) = some id ∧
      now = pruned c t req ∧ deeds = pruningDeeds t req
  | .looking chunk => chunk.req = req ∧ req.sessionID.isSome ∧
      chunk.key = idKey (pruned c t req) req ∧ now = pruned c t req ∧ deeds = pruningDeeds t req
  | .stamping chunk session => chunk.req = req ∧
      sessionOf c (pruned c t req) req = some session ∧ now = pruned c t req ∧
      deeds = lookedDeeds t req
  | .validating chunk session => chunk.req = req ∧
      sessionOf c (pruned c t req) req = some session ∧
      now = stampedTracker (pruned c t req) chunk session ∧ deeds = lookedDeeds t req
  | .writing _ _ _ => True
  | .removing _ _ | .forgetting _ _ => .wrote ∈ deeds
  | .done reply => ∀ text status, reply = .error text status → .wrote ∈ deeds ∨
      Refused c t req now text deeds

theorem parseEncodingParameter_error {reply : Reply}
    (h : parseEncodingParameter c req = .error reply) : ∃ text, reply = .error text 400 ∧
      text ≠ busyText ∧ text ≠ untaggableText := by
  rw [parseEncodingParameter] at h
  split at h
  next =>
    dsimp only at h
    split at h
    next =>
      cases h
      exact ⟨_, rfl, by decide, by decide⟩
    next => cases h
  next =>
    cases h
    exact ⟨_, rfl, by decide, by decide⟩

theorem fileToUpload_error {file : FileOutcome} {reply : Reply}
    (h : fileToUpload req file = .error reply) : ∃ text status, reply = .error text status ∧
      text ≠ busyText ∧ text ≠ untaggableText := by
  cases file with
  | existing fileID =>
    rw [fileToUpload] at h
    split at h
    next => cases h
    next =>
      cases h
      exact ⟨_, _, rfl, by decide, by decide⟩
  | created fileID => cases h
  | notCreated | notClosed | noMetadata =>
    cases h
    exact ⟨_, _, rfl, by decide, by decide⟩

/-- The session that was just registered has its entry, and no handle. -/
theorem addedTracker_closes {asg : Assignment}
    (hnew : t.sessionsByFileID.get asg.fileID = none) :
    (addedTracker t asg).closes (((addedTracker t asg).fileIDs.get t.fileIDs.fresh).bind
      (addedTracker t asg).sessionsByFileID.get).toList = [.closed (.unset t.sessions.fresh)] := by
  have hkey : (addedTracker t asg).fileIDs.get t.fileIDs.fresh = some asg.fileID :=
    Storage.get_obtain_fresh _ _
  rw [hkey, Option.bind_some, addedTracker_table hnew, Table.get_put_self]
  simp [UploadSessionTracker.closes, UploadSessionTracker.handle, addedTracker_session, newSession]

theorem preparing_deeds {now : UploadSessionTracker} {file known : FileOutcome} {ok : Bool}
    (h : Phase.acts c file ok (.preparing req) = req.parameterDeeds ++ known.deeds) :
    pruningDeeds t req ++ Phase.deeds c now file ok (.preparing req) =
      preparedDeeds t req known := by
  rw [Phase.deeds, h]
  exact congrArg _ (List.append_nil _)

theorem looking_deeds {now : UploadSessionTracker} {chunk : Chunk} {file : FileOutcome} {ok : Bool}
    (hkey : chunk.key = idKey (pruned c t chunk.req) chunk.req) :
    pruningDeeds t chunk.req ++ Phase.deeds c now file ok (.looking chunk) =
      lookedDeeds t chunk.req := by
  rw [Phase.deeds, Phase.acts, hkey]
  exact congrArg _ (List.append_nil _)

theorem sessionOf_of_key {fileID : FileID} {key : Option Addr} (hid : req.sessionID.isSome)
    (hkey : key = idKey t req) (hfile : readFileID c t key = some fileID) :
    sessionOf c t req = (t.sessionsByFileID.get fileID).map Prod.snd := by
  obtain ⟨id, hid'⟩ := Option.isSome_iff_exists.mp hid
  rw [sessionOf, hid', Option.bind_some, ← hkey, hfile, Option.bind_some]

/-- **The way of a request.** A step goes on as its phase tells. -/
theorem step_come {a b : Alone} {answer : FileOutcome × Bool}
    (come : a.phase.Come c t req a.tracker a.deeds) (h : (alone c).step a answer = some b) :
    b.phase.Come c t req b.tracker b.deeds := by
  obtain ⟨hstep, hdeeds⟩ := alone_step h
  obtain ⟨now, phase, deeds⟩ := a
  obtain ⟨now', next, deeds'⟩ := b
  obtain ⟨file, ok⟩ := answer
  dsimp only at come hstep hdeeds ⊢
  subst hdeeds
  cases Phase.stepped hstep with
  | assigns hid =>
    obtain ⟨rfl, rfl, rfl⟩ := come
    exact ⟨rfl, hid, rfl, rfl⟩
  | continues hid =>
    obtain ⟨rfl, rfl, rfl⟩ := come
    exact ⟨rfl, by rw [hid, Option.map_some], rfl, rfl⟩
  | @noEncoding r _ hencoding =>
    obtain ⟨rfl, hid, rfl, rfl⟩ := come
    obtain ⟨text, rfl, hbusy, htag⟩ := parseEncodingParameter_error hencoding
    rintro text' status ⟨⟩
    have hnothing : Phase.acts c file ok (.preparing r) =
        r.parameterDeeds ++ FileOutcome.deeds .notCreated := by
      rw [Phase.acts, hencoding]
      rfl
    rw [preparing_deeds hnothing]
    exact .inr (.unregistered _ hid hbusy htag)
  | noFile hencoding hfile =>
    obtain ⟨rfl, hid, rfl, rfl⟩ := come
    obtain ⟨text, status, rfl, hbusy, htag⟩ := fileToUpload_error hfile
    rintro text' status' ⟨⟩
    rw [preparing_deeds (by rw [Phase.acts, hencoding])]
    exact .inr (.unregistered _ hid hbusy htag)
  | prepared hencoding hfile =>
    obtain ⟨rfl, hid, rfl, rfl⟩ := come
    exact ⟨hid, rfl, file, preparing_deeds (by rw [Phase.acts, hencoding])⟩
  | @duplicate asg _ =>
    obtain ⟨hid, rfl, known, rfl⟩ := come
    have hdeeds : preparedDeeds t req known ++ Phase.deeds c (pruned c t req) file ok
        (.checking asg) = preparedDeeds t req known := List.append_nil _
    rintro text status ⟨⟩
    rw [hdeeds]
    exact .inr (.unregistered _ hid (by decide) (by decide))
  | unique hnew =>
    obtain ⟨hid, rfl, known, rfl⟩ := come
    exact ⟨hid, rfl, hnew, known, List.append_nil _⟩
  | added =>
    obtain ⟨hid, rfl, hnew, known, rfl⟩ := come
    exact ⟨hid, rfl, rfl, rfl, hnew, known, List.append_nil _⟩
  | opened hok =>
    obtain ⟨hid, rfl, rfl, rfl, hnew, known, rfl⟩ := come
    exact ⟨hid, rfl, rfl, rfl, hnew, known, by rw [hok]; rfl⟩
  | busy hok =>
    obtain ⟨hid, rfl, rfl, rfl, hnew, known, rfl⟩ := come
    exact ⟨hid, rfl, rfl, rfl, hnew, known, .inl ⟨rfl, by rw [hok]; exact List.append_nil _⟩⟩
  | untaggable hok =>
    obtain ⟨hid, rfl, rfl, rfl, hnew, known, rfl⟩ := come
    exact ⟨hid, rfl, rfl, rfl, hnew, known, .inr ⟨rfl, List.append_nil _⟩⟩
  | @dropped asg _ _ _ fileID hkey' =>
    obtain ⟨hid, rfl, rfl, rfl, hnew, known, hreply⟩ := come
    have hkey : (addedTracker (pruned c t req) asg).fileIDs.get (pruned c t req).fileIDs.fresh =
      some asg.fileID := Storage.get_obtain_fresh _ _
    rw [hkey, Option.some.injEq] at hkey'
    subst hkey'
    intro text status heq
    simp only [Phase.deeds, Phase.acts, Phase.releases, List.nil_append, addedTracker_closes hnew]
    rcases hreply with ⟨rfl, rfl⟩ | ⟨rfl, rfl⟩
    · cases heq
      exact .inr (.busy known asg hid hnew)
    · cases heq
      rw [List.append_assoc]
      exact .inr (.untaggable known asg hid hnew)
  | tagged | numbered | valid => trivial
  | named | wrote => rintro text status ⟨⟩
  | resolved =>
    obtain ⟨rfl, hid, rfl, rfl⟩ := come
    obtain ⟨id', hid', rfl⟩ := Option.map_eq_some_iff.mp hid
    refine ⟨rfl, by rw [hid', Option.isSome_some], ?_, rfl, List.append_nil _⟩
    rw [idKey, hid', Option.bind_some]
  | unknown hfile hentry =>
    obtain ⟨rfl, hid, hkey, rfl, rfl⟩ := come
    rintro text status ⟨⟩
    rw [looking_deeds hkey]
    exact .inr (.unknown hid (by rw [sessionOf_of_key hid hkey hfile, hentry, Option.map_none]))
  | found hfile hentry =>
    obtain ⟨rfl, hid, hkey, rfl, rfl⟩ := come
    exact ⟨rfl, by rw [sessionOf_of_key hid hkey hfile, hentry, Option.map_some], rfl,
      looking_deeds hkey⟩
  | stamped =>
    obtain ⟨rfl, hsession, rfl, rfl⟩ := come
    exact ⟨rfl, hsession, rfl, List.append_nil _⟩
  | @otherUser chunk session _ _ _ | @noLastChunk chunk session _ _ _ _ =>
    obtain ⟨rfl, hsession, rfl, rfl⟩ := come
    have hdeeds : lookedDeeds t chunk.req ++ Phase.deeds c
        (stampedTracker (pruned c t chunk.req) chunk session) file ok
        (.validating chunk session) = lookedDeeds t chunk.req := List.append_nil _
    rintro text status ⟨⟩
    rw [hdeeds]
    exact .inr (.stamped chunk rfl hsession (by decide) (by decide) (by decide))
  | ended => exact List.mem_append_right _ (List.mem_cons_self ..)
  | removed => exact List.mem_append_left _ come
  | forgotten => exact fun _ _ _ => .inl (List.mem_append_left _ come)

/-- A request that is answered with an error before it writes is refused in one of these ways. -/
theorem refused_of_run {answers : List (FileOutcome × Bool)} {text : String} {status : Nat}
    {deeds : List Deed} (hrun : (alone c).run (arriving t req) answers =
      some ⟨t', .done (.error text status), deeds⟩) (hwrote : .wrote ∉ deeds) :
    Refused c t req t' text deeds := by
  have come := (alone c).visits_keeps_always
    (I := fun a => a.phase.Come c t req a.tracker a.deeds) (fun _ _ _ => step_come)
    (s := arriving t req) ⟨rfl, rfl, rfl⟩ ((alone c).visits_of_run hrun)
  exact (come text status rfl).resolve_left hwrote

/-! ## What a refusal leaves alone -/

/-- The tables, the counter, the file ids and the sessions are the same. -/
structure SameUploads (t t' : UploadSessionTracker) : Prop where
  entries : ∀ fileID, t'.sessionsByFileID.get fileID = t.sessionsByFileID.get fileID
  ids : ∀ id, t'.fileIDsBySessionID.get id = t.fileIDsBySessionID.get id
  counter : t'.sessionCounter = t.sessionCounter
  fileIDs : ∀ key, t'.fileIDs.get key = t.fileIDs.get key
  sessions : ∀ s, t'.sessions.get s = t.sessions.get s

theorem SameUploads.refl (t : UploadSessionTracker) : SameUploads t t :=
  ⟨fun _ => rfl, fun _ => rfl, rfl, fun _ => rfl, fun _ => rfl⟩

/-- What was opened is closed exactly once, and nothing else is closed. -/
def ClosesOwn (deeds : List Deed) : Prop :=
  ∀ handle, (.opened handle ∈ deeds → deeds.count (.closed handle) = 1) ∧
    (.opened handle ∉ deeds → .closed handle ∉ deeds)

/-- A session that is registered and taken back at once leaves nothing behind. -/
theorem sameUploads_takenBack {asg : Assignment}
    (hnew : t.sessionsByFileID.get asg.fileID = none) :
    SameUploads t ((addedTracker t asg).removeFromTable asg.fileID) := by
  have hentry : (addedTracker t asg).sessionsByFileID.get asg.fileID =
      some (t.fileIDs.fresh, t.sessions.fresh) := by
    rw [addedTracker_table hnew, Table.get_put_self]
  rw [removeFromTable_eq hentry]
  refine ⟨fun fileID => ?_, fun _ => rfl, rfl, fun key => ?_, fun s => ?_⟩
  · show ((addedTracker t asg).sessionsByFileID.remove asg.fileID).get fileID = _
    by_cases heq : fileID = asg.fileID
    · rw [heq, Table.get_remove_self, hnew]
    · rw [Table.get_remove_ne _ heq, addedTracker_table hnew, Table.get_put_ne _ _ heq]
  · exact Storage.get_release_obtain _ _ _
  · exact Storage.get_release_obtain _ _ _

/-- Where nothing timed out, the pruning does nothing. -/
theorem sameUploads_pruned (h : t.expired req.currUnixTime = []) :
    SameUploads t (pruned c t req) ∧ pruningDeeds t req = [] := by
  have hreleased := removeSessionTimeOuts_released (c := c) (t := t) req.currUnixTime
  rw [h] at hreleased
  refine ⟨⟨fun fileID => ?_, fun _ => rfl, rfl, fun key => hreleased.keys key List.not_mem_nil,
    fun s => ?_⟩, ?_⟩
  · exact Option.ext fun entry => (hreleased.table fileID entry).trans
      ⟨And.left, fun h => ⟨h, List.not_mem_nil⟩⟩
  · rw [pruned, hreleased.sessions]
    rfl
  · rw [pruningDeeds, h]
    rfl

theorem closesOwn_prepared (file : FileOutcome) :
    ClosesOwn (req.parameterDeeds ++ file.deeds) := by
  intro handle
  unfold PutRequest.parameterDeeds
  cases file <;> split <;> cases handle <;> simp [FileOutcome.deeds]

theorem closesOwn_idDeeds (key : Option Addr) : ClosesOwn (idDeeds key) := by
  intro handle
  unfold idDeeds
  split <;> simp

theorem read_notMem_pruningDeeds (missing : Missing) : .read missing ∉ pruningDeeds t req := by
  simp [pruningDeeds, UploadSessionTracker.closes]

/-- What a refused request leaves: beside the sessions that its pruning takes away, the one its id
leads to may bear another time, which is the request's if the session is its user's. -/
structure RefusalKept (c : CommonC) (t : UploadSessionTracker) (req : PutRequest)
    (t' : UploadSessionTracker) (text : String) (deeds : List Deed) : Prop where
  entries : ∀ fileID, t'.sessionsByFileID.get fileID = (pruned c t req).sessionsByFileID.get fileID
  ids : ∀ id, t'.fileIDsBySessionID.get id = t.fileIDsBySessionID.get id
  counter : t'.sessionCounter = t.sessionCounter
  fileIDs : ∀ key, t'.fileIDs.get key = (pruned c t req).fileIDs.get key
  others : ∀ s, sessionOf c (pruned c t req) req ≠ some s →
    t'.sessions.get s = (pruned c t req).sessions.get s
  found : ∀ s, sessionOf c (pruned c t req) req = some s → ∃ time, t'.sessions.get s =
    ((pruned c t req).sessions.get s).map fun x => { x with timeOfLastRequest := time }
  own : ∀ s x, sessionOf c (pruned c t req) req = some s →
    (pruned c t req).sessions.get s = some x → x.userName = some req.username →
    t'.sessions.get s = some { x with timeOfLastRequest := req.currUnixTime }
  handles : text ≠ busyText → text ≠ untaggableText →
    ∃ own, deeds = pruningDeeds t req ++ own ∧ ClosesOwn own
  reads : (req.sessionID = none → req.forceOverwrite.isSome) →
    (req.sessionID.isSome → (idKey t req).isSome) → ∀ missing, .read missing ∉ deeds

/-- A refusal that ends with the tables as the pruning left them. -/
theorem RefusalKept.of_same {text : String} {deeds : List Deed}
    (same : SameUploads (pruned c t req) t')
    (hnone : sessionOf c (pruned c t req) req = none)
    (handles : text ≠ busyText → text ≠ untaggableText →
      ∃ own, deeds = pruningDeeds t req ++ own ∧ ClosesOwn own)
    (reads : (req.sessionID = none → req.forceOverwrite.isSome) →
      (req.sessionID.isSome → (idKey t req).isSome) → ∀ missing, .read missing ∉ deeds) :
    RefusalKept c t req t' text deeds where
  entries := same.entries
  ids := same.ids
  counter := same.counter
  fileIDs := same.fileIDs
  others s _ := same.sessions s
  found s h := by
    rw [hnone] at h
    cases h
  own s x h := by
    rw [hnone] at h
    cases h
  handles := handles
  reads := reads

theorem read_notMem_preparedDeeds {file : FileOutcome} (assigns : req.sessionID = none)
    (given : req.sessionID = none → req.forceOverwrite.isSome) (missing : Missing) :
    .read missing ∉ preparedDeeds t req file := by
  have hforce := given assigns
  have hparam : req.parameterDeeds = [] := by
    rw [PutRequest.parameterDeeds, if_neg]
    rwa [← Option.not_isSome, Bool.not_eq_true', Bool.not_eq_false]
  rw [preparedDeeds, hparam, List.nil_append, List.mem_append, not_or]
  refine ⟨read_notMem_pruningDeeds missing, ?_⟩
  cases file <;> simp [FileOutcome.deeds]

theorem read_notMem_lookedDeeds (chunks : req.sessionID.isSome)
    (known : req.sessionID.isSome → (idKey t req).isSome) (missing : Missing) :
    .read missing ∉ lookedDeeds t req := by
  have hid : idDeeds (idKey t req) = [] := by
    rw [idDeeds, if_neg]
    rw [← Option.not_isSome, known chunks]
    exact Bool.false_ne_true
  rw [lookedDeeds, hid, List.append_nil]
  exact read_notMem_pruningDeeds missing

theorem sessionOf_assigns (assigns : req.sessionID = none) : sessionOf c t req = none := by
  rw [sessionOf, assigns, Option.bind_none]

theorem Refused.kept {text : String} {deeds : List Deed} (h : Refused c t req t' text deeds) :
    RefusalKept c t req t' text deeds := by
  cases h with
  | unregistered file assigns busy untaggable =>
    exact .of_same (.refl _) (sessionOf_assigns assigns)
      (fun _ _ => ⟨_, rfl, closesOwn_prepared file⟩)
      (fun given _ => read_notMem_preparedDeeds assigns given)
  | busy file asg assigns new =>
    refine .of_same (sameUploads_takenBack new) (sessionOf_assigns assigns)
      (fun hbusy _ => absurd rfl hbusy) fun given _ missing hmem => ?_
    rcases List.mem_append.mp hmem with hmem | hmem
    · exact read_notMem_preparedDeeds assigns given missing hmem
    · cases List.mem_singleton.mp hmem
  | untaggable file asg assigns new =>
    refine .of_same (sameUploads_takenBack new) (sessionOf_assigns assigns)
      (fun _ htag => absurd rfl htag) fun given _ missing hmem => ?_
    rcases List.mem_append.mp hmem with hmem | hmem
    · exact read_notMem_preparedDeeds assigns given missing hmem
    · simp at hmem
  | unknown chunks none =>
    exact .of_same (.refl _) none (fun _ _ => ⟨_, rfl, closesOwn_idDeeds _⟩)
      (fun _ known => read_notMem_lookedDeeds chunks known)
  | stamped chunk same found busy untaggable known =>
    rename_i session
    have hself : (stampedTracker (pruned c t req) chunk session).sessions.get session =
        ((pruned c t req).sessions.get session).map fun x =>
          { x with timeOfLastRequest := req.currUnixTime } := by
      rw [stampedTracker, UploadSessionTracker.modifySession, Storage.get_modify_self, same]
    refine ⟨fun _ => rfl, fun _ => rfl, rfl, fun _ => rfl, fun s hs => ?_, fun s hs => ?_,
      fun s x hs hx _ => ?_, fun _ _ => ⟨_, rfl, closesOwn_idDeeds _⟩, fun _ hknown => ?_⟩
    · refine Storage.get_modify_ne _ _ ?_
      rintro rfl
      exact hs found
    · rw [found, Option.some.injEq] at hs
      subst hs
      exact ⟨_, hself⟩
    · rw [found, Option.some.injEq] at hs
      subst hs
      rw [hself, hx, Option.map_some]
    · refine read_notMem_lookedDeeds ?_ hknown
      cases hid : req.sessionID with
      | none =>
        rw [sessionOf_assigns hid] at found
        cases found
      | some id => rfl

/-- **Refused uploads.** A PUT request that is answered with an error before it writes leaves the
two tables, the counter and the file ids as its pruning of the timed-out sessions leaves them,
whichever the error; of the sessions only the one its id leads to bears another time. What it opened it closed
exactly once, and nothing else but the handles of the sessions it pruned, unless the file it
registered could not be opened or tagged; and it reads no parameter or table entry that is not
there, if an assignment has `forceOverwrite` and a session id leads to a file id. -/
theorem refused_keeps {answers : List (FileOutcome × Bool)} {text : String} {status : Nat}
    {deeds : List Deed} (hrun : (alone c).run (arriving t req) answers =
      some ⟨t', .done (.error text status), deeds⟩) (hwrote : .wrote ∉ deeds) :
    (t.expired req.currUnixTime = [] →
      SameUploads t (pruned c t req) ∧ pruningDeeds t req = []) ∧
    RefusalKept c t req t' text deeds :=
  ⟨sameUploads_pruned, (refused_of_run hrun hwrote).kept⟩

/-! ## A refused request beside an old session -/

/-- A request without encodings. -/
def sampleRefused (currUnixTime : UInt32) : PutRequest :=
  { sampleAssignment currUnixTime with sourceEncoding := none }

/-- A tracker with one session, made at time zero. -/
def sampleTracker : UploadSessionTracker where
  fileIDs := ⟨⟨[some sampleFile]⟩⟩
  sessions := ⟨⟨[some {
    upload := sampleFile, file := some sampleFile, timeOfLastRequest := 0, sessionID := some 1
    targetCCSID := 65535, sourceCCSID := 65535, tType := .binary
    userName := some ['U', 'S', 'E', 'R'] }]⟩⟩
  sessionsByFileID := Table.empty.put sampleFile (0, 0)
  fileIDsBySessionID := Table.empty.put 1 0
  sessionCounter := 2
  issued := [(1, 0)]

theorem refused_keeps_sample :
    (sampleTracker.expired (sampleRefused 700).currUnixTime = [] → SameUploads sampleTracker
      (pruned sampleCommonC sampleTracker (sampleRefused 700)) ∧
        pruningDeeds sampleTracker (sampleRefused 700) = []) ∧
    RefusalKept sampleCommonC sampleTracker (sampleRefused 700)
      (pruned sampleCommonC sampleTracker (sampleRefused 700))
      "Source encoding and/or target encoding are missing." [.closed (.held 0)] :=
  have hrun : (alone sampleCommonC).run (arriving sampleTracker (sampleRefused 700))
      [(.notCreated, true), (.notCreated, true)] =
    some ⟨pruned sampleCommonC sampleTracker (sampleRefused 700),
      .done (.error "Source encoding and/or target encoding are missing." 400),
      [.closed (.held 0)]⟩ := rfl
  refused_keeps hrun (by decide)

/-- A refusal leaves everything as it was, closes what it opened and nothing else, and reads nothing
that is not there. -/
def RefusalsUntouched (c : CommonC) : Prop :=
  ∀ steps w, (uploads c).run newUploads steps = some w → ∀ req answers t' text status deeds,
    (alone c).run (arriving w.tracker req) answers =
      some ⟨t', .done (.error text status), deeds⟩ → .wrote ∉ deeds →
    SameUploads w.tracker t' ∧ ClosesOwn deeds ∧ ∀ missing, .read missing ∉ deeds

/-- A request that is refused for its encodings has pruned the session of another upload. -/
theorem refusal_prunes : ¬ RefusalsUntouched sampleCommonC := by
  intro h
  have hw : (uploads sampleCommonC).run newUploads
      ([.arrive (sampleAssignment 0)] ++ advances 0 8) =
    some ⟨sampleTracker, [.done (.sessionID (some 1))], false⟩ := rfl
  have hrun : (alone sampleCommonC).run (arriving sampleTracker (sampleRefused 700))
      [(.notCreated, true), (.notCreated, true)] =
    some ⟨pruned sampleCommonC sampleTracker (sampleRefused 700),
      .done (.error "Source encoding and/or target encoding are missing." 400),
      [.closed (.held 0)]⟩ := rfl
  obtain ⟨-, hcloses, -⟩ := h _ _ hw _ _ _ _ _ _ hrun (by decide)
  exact (hcloses (.held 0)).2 (by decide) (by decide)

end Zss.Unixfile
