import Zss.Unixfile.Upload

/-!
# One session for a file

What requests that run at the same time owe each other: a file has at most one session, a file that
has a session is not opened with truncation for another, and the session a chunk request has looked
up is there until the request is done with it (`Exclusive`). The check for a session and its
registration are two operations, and the session is used outside the lock, so runs break it.
`exclusive_iff` says which runs keep it, by what each step does to the others.

A step gives entries back, adds one, or leaves the table and the files of the sessions alone
(`Phase.step_moved`). In any run the table has the file id and the session of each of its entries
(`Owned`); if no entry is replaced, it has every session there is (`Registered`).

## What is not established

That a request is ever done, and what bytes of a file are written by whom: a session that is used by
one request at a time may still be sent its chunks in a wrong order.
-/

namespace Zss.Unixfile

open Zss.Lib

/-! ## What a request is about to do to others -/

/-- The session that a chunk request has looked up and goes on to use. -/
def Phase.chunkSession : Phase → Option Addr
  | .stamping _ session => some session
  | .validating _ session => some session
  | .writing _ session _ => some session
  | _ => none

/-- The file that an assignment opens next, with truncation, and the session it does so for. -/
def Phase.opens : Phase → Option (FileID × Addr)
  | .opening asg _ session => some (asg.fileID, session)
  | _ => none

/-- The entries that the request gives back next. -/
def Phase.releases (c : CommonC) (t : UploadSessionTracker) : Phase → List (Addr × Addr)
  | .pruning req => (t.expired req.currUnixTime).map Prod.snd
  | .dropping _ key _ _ => ((t.fileIDs.get key).bind t.sessionsByFileID.get).toList
  | .removing chunk _ => ((readFileID c t chunk.key).bind t.sessionsByFileID.get).toList
  | _ => []

/-- The file that the request registers a session for next. -/
def Phase.adds : Phase → Option FileID
  | .adding asg => some asg.fileID
  | _ => none

/-! ## The property -/

/-- At most one session a file, none truncated by another's assignment, none taken from a chunk
request that uses it. -/
structure Exclusive (w : Uploads) : Prop where
  once : ∀ s s' session session', w.tracker.sessions.get s = some session →
    w.tracker.sessions.get s' = some session' → session.upload = session'.upload → s = s'
  untruncated : ∀ phase ∈ w.requests, ∀ fileID s, phase.opens = some (fileID, s) →
    ∀ s' session', w.tracker.sessions.get s' = some session' → session'.upload = fileID → s' = s
  used : ∀ phase ∈ w.requests, ∀ s, phase.chunkSession = some s → w.tracker.sessions.Live s

/-- What a request does next leaves the others alone: it gives back no session that a chunk request
uses, and registers one only for a file that has none and that no other request is opening. -/
def Phase.Considerate (c : CommonC) (w : Uploads) (phase : Phase) : Prop :=
  (∀ entry ∈ phase.releases c w.tracker, ∀ other ∈ w.requests,
    other.chunkSession ≠ some entry.2) ∧
  ∀ fileID ∈ phase.adds, w.tracker.sessionsByFileID.get fileID = none ∧
    ∀ other ∈ w.requests, other.opens.map Prod.fst ≠ some fileID

/-- The request that moves is considerate. -/
def Considerate (c : CommonC) (w : Uploads) : UploadStep → Prop
  | .arrive _ => True
  | .advance request _ _ => ∀ phase ∈ w.requests[request]?, phase.Considerate c w

/-! ## The tracker in any run -/

/-- The table has the file id and the session of each of its entries. -/
def Owned (t : UploadSessionTracker) : Prop :=
  ∀ fileID entry, t.sessionsByFileID.get fileID = some entry →
    t.fileIDs.get entry.1 = some fileID ∧
      ∃ session, t.sessions.get entry.2 = some session ∧ session.upload = fileID

/-- The table has every session there is. -/
def Registered (t : UploadSessionTracker) : Prop :=
  ∀ s session, t.sessions.get s = some session →
    ∃ key, t.sessionsByFileID.get session.upload = some (key, s)

/-- Entries of the table were given back, with their sessions, and maybe their keys. -/
structure Released (t t' : UploadSessionTracker) (entries : List (Addr × Addr)) : Prop where
  known : ∀ entry ∈ entries, ∃ fileID, t.sessionsByFileID.get fileID = some entry
  table : ∀ fileID entry, t'.sessionsByFileID.get fileID = some entry ↔
    t.sessionsByFileID.get fileID = some entry ∧ entry ∉ entries
  sessions : ∀ s, t'.sessions.get s = if s ∈ entries.map Prod.snd then none else t.sessions.get s
  keys : ∀ key, key ∉ entries.map Prod.fst → t'.fileIDs.get key = t.fileIDs.get key
  fresh : t'.sessions.fresh = t.sessions.fresh

/-- The table, its keys and the files of the sessions are as they were. -/
structure Kept (t t' : UploadSessionTracker) : Prop where
  table : t'.sessionsByFileID = t.sessionsByFileID
  keys : t'.fileIDs = t.fileIDs
  uploads : ∀ s, (t'.sessions.get s).map (·.upload) = (t.sessions.get s).map (·.upload)
  fresh : t'.sessions.fresh = t.sessions.fresh

section

variable {c : CommonC} {t t' : UploadSessionTracker} {entries : List (Addr × Addr)}

theorem Owned.entry_eq (owned : Owned t) {f f' : FileID} {e e' : Addr × Addr}
    (he : t.sessionsByFileID.get f = some e) (he' : t.sessionsByFileID.get f' = some e')
    (hs : e.2 = e'.2 ∨ e.1 = e'.1) : e = e' := by
  obtain ⟨hkey, session, hsession, hupload⟩ := owned f e he
  obtain ⟨hkey', session', hsession', hupload'⟩ := owned f' e' he'
  have hf : f = f' := by
    rcases hs with hs | hk
    · rw [hs, hsession', Option.some.injEq] at hsession
      rw [← hupload, ← hupload', hsession]
    · rw [hk, hkey', Option.some.injEq] at hkey
      exact hkey.symm
  subst hf
  rw [he, Option.some.injEq] at he'
  exact he'

theorem Owned.of_released (owned : Owned t) (h : Released t t' entries) : Owned t' := by
  intro fileID entry hentry
  obtain ⟨hold, hnot⟩ := (h.table fileID entry).mp hentry
  obtain ⟨hkey, session, hsession, hupload⟩ := owned fileID entry hold
  refine ⟨?_, session, ?_, hupload⟩
  · rw [h.keys entry.1 fun hmem => ?_, hkey]
    obtain ⟨other, hother, heq⟩ := List.mem_map.mp hmem
    obtain ⟨f, hf⟩ := h.known other hother
    exact hnot (owned.entry_eq hf hold (.inr heq) ▸ hother)
  · rw [h.sessions, if_neg, hsession]
    intro hmem
    obtain ⟨other, hother, heq⟩ := List.mem_map.mp hmem
    obtain ⟨f, hf⟩ := h.known other hother
    exact hnot (owned.entry_eq hf hold (.inl heq) ▸ hother)

variable {s : Addr} {phase : Phase} {i : Nat}

theorem Released.session_of_get (h : Released t t' entries) {session : UploadSession}
    (hs : t'.sessions.get s = some session) :
    t.sessions.get s = some session ∧ s ∉ entries.map Prod.snd := by
  rw [h.sessions] at hs
  split at hs
  next => cases hs
  next hnot => exact ⟨hs, hnot⟩

theorem Registered.of_released (registered : Registered t) (h : Released t t' entries) :
    Registered t' := by
  intro s session hs
  obtain ⟨hold, hnot⟩ := h.session_of_get hs
  obtain ⟨key, hkey⟩ := registered s session hold
  exact ⟨key, (h.table _ _).mpr ⟨hkey, fun hmem => hnot (List.mem_map.mpr ⟨_, hmem, rfl⟩)⟩⟩

theorem Kept.session (h : Kept t t') {session : UploadSession}
    (hs : t.sessions.get s = some session) :
    ∃ session', t'.sessions.get s = some session' ∧ session'.upload = session.upload := by
  have heq := h.uploads s
  rw [hs, Option.map_some, Option.map_eq_some_iff] at heq
  exact heq

theorem Kept.session_of_get (h : Kept t t') {session' : UploadSession}
    (hs : t'.sessions.get s = some session') :
    ∃ session, t.sessions.get s = some session ∧ session.upload = session'.upload := by
  have heq := h.uploads s
  rw [hs, Option.map_some, eq_comm, Option.map_eq_some_iff] at heq
  exact heq

theorem Owned.of_kept (owned : Owned t) (h : Kept t t') : Owned t' := by
  intro fileID entry hentry
  rw [h.table] at hentry
  obtain ⟨hkey, session, hsession, hupload⟩ := owned fileID entry hentry
  obtain ⟨session', hsession', heq⟩ := h.session hsession
  exact ⟨h.keys ▸ hkey, session', hsession', heq.trans hupload⟩

theorem Registered.of_kept (registered : Registered t) (h : Kept t t') : Registered t' := by
  intro s session' hs
  obtain ⟨session, hold, heq⟩ := h.session_of_get hs
  obtain ⟨key, hkey⟩ := registered s session hold
  exact ⟨key, by rw [h.table, ← heq, hkey]⟩

/-! ## The operations -/

theorem removeFromTable_released (owned : Owned t) (fileID : FileID) :
    Released t (t.removeFromTable fileID) (t.sessionsByFileID.get fileID).toList := by
  unfold UploadSessionTracker.removeFromTable
  cases hentry : t.sessionsByFileID.get fileID with
  | none =>
    refine ⟨nofun, fun f e => ?_, fun s => by simp, fun key _ => rfl, rfl⟩
    simp
  | some entry =>
    refine ⟨?_, ?_, ?_, ?_, Storage.fresh_release _ _⟩
    · intro e he
      rw [Option.toList_some, List.mem_singleton] at he
      exact ⟨fileID, he ▸ hentry⟩
    · intro f e
      rw [Option.toList_some, List.mem_singleton]
      refine Table.get_remove_iff.trans ⟨fun ⟨hne, he⟩ => ⟨he, ?_⟩, fun ⟨he, hne⟩ => ⟨?_, he⟩⟩
      · rintro rfl
        exact hne ((owned f e he).1.symm.trans (owned fileID e hentry).1 |> Option.some.inj)
      · rintro rfl
        rw [hentry, Option.some.injEq] at he
        exact hne he.symm
    · intro s
      simp only [Option.toList_some, List.map_cons, List.map_nil, List.mem_singleton]
      split
      next heq => rw [heq, Storage.get_release_self]
      next hne => rw [Storage.get_release_ne _ hne]
    · intro key hkey
      simp only [Option.toList_some, List.map_cons, List.map_nil, List.mem_singleton] at hkey
      exact Storage.get_release_ne _ hkey

theorem mem_expired {now : UInt32} {fileID : FileID} {entry : Addr × Addr} :
    (fileID, entry) ∈ t.expired now ↔
      t.sessionsByFileID.get fileID = some entry ∧ t.timedOut now entry = true := by
  rw [UploadSessionTracker.expired, List.mem_filter, Table.mem_entries]

theorem removeSessionTimeOuts_released (now : UInt32) :
    Released t (t.removeSessionTimeOuts c now) ((t.expired now).map Prod.snd) := by
  have hmem : ∀ fileID entry, t.sessionsByFileID.get fileID = some entry →
      (entry ∈ (t.expired now).map Prod.snd ↔ t.timedOut now entry = true) := by
    intro fileID entry hentry
    constructor
    · intro h
      obtain ⟨⟨f, e⟩, he, rfl⟩ := List.mem_map.mp h
      exact (mem_expired.mp he).2
    · intro h
      exact List.mem_map.mpr ⟨(fileID, entry), mem_expired.mpr ⟨hentry, h⟩, rfl⟩
  refine ⟨?_, ?_, ?_, ?_, Storage.fresh_releaseAll _ _⟩
  · intro entry hentry
    obtain ⟨⟨f, e⟩, he, rfl⟩ := List.mem_map.mp hentry
    exact ⟨f, (mem_expired.mp he).1⟩
  · intro fileID entry
    refine Table.get_prune_iff.trans (and_congr_right fun hentry => ?_)
    rw [hmem fileID entry hentry, Bool.not_eq_true]
  · intro s
    refine (Storage.get_releaseAll _ _ s).trans ?_
    rw [List.map_map]
    rfl
  · intro key hkey
    rw [List.map_map] at hkey
    unfold UploadSessionTracker.removeSessionTimeOuts
    dsimp only
    split
    next => exact (Storage.get_releaseAll _ _ key).trans (if_neg hkey)
    next => rfl

theorem modifySession_kept (session : Addr) {f : UploadSession → UploadSession}
    (hf : ∀ s, (f s).upload = s.upload) : Kept t (t.modifySession session f) := by
  refine ⟨rfl, rfl, fun s => ?_, Storage.fresh_modify _ _ _⟩
  by_cases hs : s = session
  · subst hs
    rw [UploadSessionTracker.modifySession, Storage.get_modify_self, Option.map_map]
    congr 1
    funext x
    exact hf x
  · rw [UploadSessionTracker.modifySession, Storage.get_modify_ne _ _ hs]

theorem addSessionID_kept (key session : Addr) : Kept t (t.addSessionID key session) := by
  obtain ⟨table, keys, uploads, fresh⟩ := modifySession_kept (t := t) session
    (f := fun s => { s with sessionID := some (t.sessionCounter % 2 ^ 32) }) fun _ => rfl
  exact ⟨table, keys, uploads, fresh⟩

theorem Kept.refl (t : UploadSessionTracker) : Kept t t := ⟨rfl, rfl, fun _ => rfl, rfl⟩

/-! ## What a step does -/

/-- The tracker once a session was registered for an assignment. -/
def addedTracker (t : UploadSessionTracker) (asg : Assignment) : UploadSessionTracker :=
  UploadSessionTracker.addToTable
    { t with
      fileIDs := t.fileIDs.obtain asg.fileID, sessions := t.sessions.obtain (newSession asg) }
    asg.fileID t.fileIDs.fresh t.sessions.fresh

theorem useSession_moved {session : Addr} {f : UploadSession → Effect} {next : Phase}
    (h : useSession t session f = .moved t' next) :
    ∃ s, t.sessions.get session = some s ∧ f s = .moved t' next := by
  rw [useSession] at h
  cases hs : t.sessions.get session with
  | none =>
    rw [hs] at h
    cases h
  | some s =>
    rw [hs] at h
    exact ⟨s, rfl, h⟩

/-- What a step of a request can do, with the guards of its branches. -/
inductive Phase.Stepped (c : CommonC) (t : UploadSessionTracker) (file : FileOutcome) (ok : Bool) :
    Phase → UploadSessionTracker → Phase → Prop
  | assigns {req : PutRequest} (hid : req.sessionID = none) :
      Stepped c t file ok (.pruning req) (t.removeSessionTimeOuts c req.currUnixTime)
        (.preparing req)
  | continues {req : PutRequest} {id : Nat} (hid : req.sessionID = some id) :
      Stepped c t file ok (.pruning req) (t.removeSessionTimeOuts c req.currUnixTime)
        (.resolving req (id % 2 ^ 32))
  | noEncoding {req : PutRequest} {reply : Reply}
      (hencoding : parseEncodingParameter c req = .error reply) :
      Stepped c t file ok (.preparing req) t (.done reply)
  | noFile {req : PutRequest} {encoding : Encoding} {reply : Reply}
      (hencoding : parseEncodingParameter c req = .ok encoding)
      (hfile : fileToUpload req file = .error reply) :
      Stepped c t file ok (.preparing req) t (.done reply)
  | prepared {req : PutRequest} {encoding : Encoding} {fileID : FileID}
      (hencoding : parseEncodingParameter c req = .ok encoding)
      (hfile : fileToUpload req file = .ok fileID) :
      Stepped c t file ok (.preparing req) t (.checking ⟨req, encoding, fileID⟩)
  | duplicate {asg : Assignment} (hentry : (t.sessionsByFileID.get asg.fileID).isSome) :
      Stepped c t file ok (.checking asg) t (.done (.error
        "Duplicate in table. Requested resource is busy. Please try again later." 403))
  | unique {asg : Assignment} (hnew : t.sessionsByFileID.get asg.fileID = none) :
      Stepped c t file ok (.checking asg) t (.adding asg)
  | added {asg : Assignment} :
      Stepped c t file ok (.adding asg) (addedTracker t asg)
        (.opening asg t.fileIDs.fresh t.sessions.fresh)
  | opened {asg : Assignment} {key session : Addr} (hok : ok = true) :
      Stepped c t file ok (.opening asg key session) t (.tagging asg key session)
  | busy {asg : Assignment} {key session : Addr} (hok : ok = false) :
      Stepped c t file ok (.opening asg key session) t (.dropping asg key session (.error
        "Could not open file. Requested resource is busy. Please try again later." 403))
  | untaggable {asg : Assignment} {key session : Addr} (hok : ok = false) :
      Stepped c t file ok (.tagging asg key session) t
        (.dropping asg key session (.error "Could not tag file." 500))
  | tagged {asg : Assignment} {key session : Addr} (hok : ok = true) :
      Stepped c t file ok (.tagging asg key session)
        (t.modifySession session fun s => { s with file := some asg.fileID })
        (.numbering asg key session)
  | dropped {asg : Assignment} {key session : Addr} {reply : Reply} {fileID : FileID}
      (hkey : t.fileIDs.get key = some fileID) :
      Stepped c t file ok (.dropping asg key session reply) (t.removeFromTable fileID) (.done reply)
  | numbered {asg : Assignment} {key session : Addr} :
      Stepped c t file ok (.numbering asg key session) (t.addSessionID key session)
        (.naming asg key session)
  | named {asg : Assignment} {key session : Addr} {s : UploadSession} :
      Stepped c t file ok (.naming asg key session)
        (t.modifySession session fun s => { s with userName := some (asg.req.username.take 9) })
        (.done (.sessionID s.sessionID))
  | resolved {req : PutRequest} {id : Nat} :
      Stepped c t file ok (.resolving req id) t (.looking ⟨req, id, t.fileIDsBySessionID.get id⟩)
  | unknown {chunk : Chunk} {fileID : FileID} (hfile : readFileID c t chunk.key = some fileID)
      (hentry : t.sessionsByFileID.get fileID = none) :
      Stepped c t file ok (.looking chunk) t (.done (.error "Session identifier is invalid." 403))
  | found {chunk : Chunk} {fileID : FileID} {key session : Addr}
      (hfile : readFileID c t chunk.key = some fileID)
      (hentry : t.sessionsByFileID.get fileID = some (key, session)) :
      Stepped c t file ok (.looking chunk) t (.stamping chunk session)
  | stamped {chunk : Chunk} {session : Addr} :
      Stepped c t file ok (.stamping chunk session)
        (t.modifySession session fun s => { s with timeOfLastRequest := chunk.req.currUnixTime })
        (.validating chunk session)
  | otherUser {chunk : Chunk} {session : Addr} {s : UploadSession}
      (hs : t.sessions.get session = some s) (hother : s.userName ≠ some chunk.req.username) :
      Stepped c t file ok (.validating chunk session) t
        (.done (.error "User is not associated with the provided session identifier." 400))
  | noLastChunk {chunk : Chunk} {session : Addr} {s : UploadSession}
      (hs : t.sessions.get session = some s) (hsame : s.userName = some chunk.req.username)
      (hlast : chunk.req.lastChunk = none) :
      Stepped c t file ok (.validating chunk session) t
        (.done (.error "Last chunk is missing." 400))
  | valid {chunk : Chunk} {session : Addr} {lastChunk : Bool} :
      Stepped c t file ok (.validating chunk session) t (.writing chunk session lastChunk)
  | ended {chunk : Chunk} {session : Addr} {lastChunk : Bool} {reply : Reply} :
      Stepped c t file ok (.writing chunk session lastChunk) t (.removing chunk reply)
  | wrote {chunk : Chunk} {session : Addr} :
      Stepped c t file ok (.writing chunk session false) t
        (.done (.message "Successfully wrote chunk to file."))
  | removed {chunk : Chunk} {reply : Reply} {fileID : FileID}
      (hkey : readFileID c t chunk.key = some fileID) :
      Stepped c t file ok (.removing chunk reply) (t.removeFromTable fileID)
        (.forgetting chunk.id reply)
  | forgotten {id : Nat} {reply : Reply} :
      Stepped c t file ok (.forgetting id reply)
        { t with fileIDsBySessionID := t.fileIDsBySessionID.remove id } (.done reply)

theorem Phase.stepped {phase next : Phase} {file : FileOutcome} {ok : Bool}
    (h : phase.step c t file ok = .moved t' next) : phase.Stepped c t file ok t' next := by
  cases phase with
  | pruning req =>
    cases h
    cases hid : req.sessionID with
    | none => exact .assigns hid
    | some id => exact .continues hid
  | preparing req =>
    cases h
    cases hencoding : parseEncodingParameter c req with
    | error reply => exact .noEncoding hencoding
    | ok encoding =>
      cases hfile : fileToUpload req file with
      | error reply => exact .noFile hencoding hfile
      | ok fileID => exact .prepared hencoding hfile
  | checking asg =>
    cases h
    split
    next hentry => exact .duplicate hentry
    next hnew => exact .unique (Option.not_isSome_iff_eq_none.mp hnew)
  | adding asg =>
    cases h
    exact .added
  | opening asg key session =>
    cases h
    cases ok with
    | true => exact .opened rfl
    | false => exact .busy rfl
  | tagging asg key session =>
    cases ok with
    | true =>
      obtain ⟨s, -, h⟩ := useSession_moved h
      cases h
      exact .tagged rfl
    | false =>
      cases h
      exact .untaggable rfl
  | dropping asg key session reply =>
    rw [Phase.step] at h
    split at h
    next => cases h
    next hkey =>
      cases h
      exact .dropped hkey
  | numbering asg key session =>
    obtain ⟨s, -, h⟩ := useSession_moved h
    cases h
    exact .numbered
  | naming asg key session =>
    obtain ⟨s, -, h⟩ := useSession_moved h
    cases h
    exact .named
  | resolving req id =>
    cases h
    exact .resolved
  | looking chunk =>
    rw [Phase.step] at h
    split at h
    next => cases h
    next hfile =>
      cases h
      split
      next hentry => exact .unknown hfile hentry
      next hentry => exact .found hfile hentry
  | stamping chunk session =>
    obtain ⟨s, -, h⟩ := useSession_moved h
    cases h
    exact .stamped
  | validating chunk session =>
    obtain ⟨s, hs, h⟩ := useSession_moved h
    cases h
    split
    next hother => exact .otherUser hs hother
    next hsame =>
      split
      next hlast => exact .noLastChunk hs (not_not.mp hsame) hlast
      next => exact .valid
  | writing chunk session lastChunk =>
    obtain ⟨s, -, h⟩ := useSession_moved h
    cases h
    split
    next => exact .ended
    next =>
      cases lastChunk with
      | true => exact .ended
      | false => exact .wrote
  | removing chunk reply =>
    rw [Phase.step] at h
    split at h
    next => cases h
    next hkey =>
      cases h
      exact .removed hkey
  | forgetting id reply =>
    cases h
    exact .forgotten
  | done reply => cases h

/-- **A step.** It gives entries back, registers a session, or keeps the table and the files of the
sessions; in the last case it goes on with its session or with that of an entry. -/
theorem Phase.step_moved (owned : Owned t) {phase next : Phase} {file : FileOutcome} {ok : Bool}
    (h : phase.step c t file ok = .moved t' next) :
    (Released t t' (phase.releases c t) ∧ phase.adds = none ∧ next.chunkSession = none ∧
      next.opens = none) ∨
    (∃ asg, phase = .adding asg ∧ t' = addedTracker t asg ∧
      next = .opening asg t.fileIDs.fresh t.sessions.fresh) ∨
    (Kept t t' ∧ phase.releases c t = [] ∧ phase.adds = none ∧ next.opens = none ∧
      ∀ s, next.chunkSession = some s → phase.chunkSession = some s ∨
        ∃ fileID key, t.sessionsByFileID.get fileID = some (key, s)) := by
  cases Phase.stepped h with
  | assigns | continues => exact .inl ⟨removeSessionTimeOuts_released _, rfl, rfl, rfl⟩
  | added => exact .inr (.inl ⟨_, rfl, rfl, rfl⟩)
  | tagged | named =>
    exact .inr (.inr ⟨modifySession_kept _ fun _ => rfl, rfl, rfl, rfl, nofun⟩)
  | numbered => exact .inr (.inr ⟨addSessionID_kept _ _, rfl, rfl, rfl, nofun⟩)
  | dropped hkey | removed hkey =>
    refine .inl ⟨?_, rfl, rfl, rfl⟩
    rw [Phase.releases, hkey, Option.bind_some]
    exact removeFromTable_released owned _
  | found _ hentry =>
    refine .inr (.inr ⟨.refl t, rfl, rfl, rfl, fun s hs => .inr ?_⟩)
    cases hs
    exact ⟨_, _, hentry⟩
  | stamped =>
    exact .inr (.inr ⟨modifySession_kept _ fun _ => rfl, rfl, rfl, rfl, fun _ hs => .inl hs⟩)
  | valid => exact .inr (.inr ⟨.refl t, rfl, rfl, rfl, fun _ hs => .inl hs⟩)
  | forgotten => exact .inr (.inr ⟨⟨rfl, rfl, fun _ => rfl, rfl⟩, rfl, rfl, rfl, nofun⟩)
  | _ => exact .inr (.inr ⟨.refl t, rfl, rfl, rfl, nofun⟩)

/-- A step that reads what was given back gives nothing back and adds nothing. -/
theorem Phase.step_undefined {file : FileOutcome} {ok : Bool}
    (h : phase.step c t file ok = .undefined) : phase.releases c t = [] ∧ phase.adds = none := by
  cases phase with
  | dropping asg key session reply =>
    rw [Phase.step] at h
    split at h
    next hkey =>
      rw [Phase.releases, hkey]
      exact ⟨rfl, rfl⟩
    next => cases h
  | removing chunk reply =>
    rw [Phase.step] at h
    split at h
    next hkey =>
      rw [Phase.releases, hkey]
      exact ⟨rfl, rfl⟩
    next => cases h
  | pruning req => cases h
  | adding asg => cases h
  | _ => exact ⟨rfl, rfl⟩

theorem addedTracker_session (asg : Assignment) (s : Addr) :
    (addedTracker t asg).sessions.get s =
      if s = t.sessions.fresh then some (newSession asg) else t.sessions.get s := by
  show (t.sessions.obtain (newSession asg)).get s = _
  split
  next heq => rw [heq, Storage.get_obtain_fresh]
  next hne => rw [Storage.get_obtain_ne _ _ hne]

theorem addedTracker_live {asg : Assignment} (h : t.sessions.Live s) :
    (addedTracker t asg).sessions.Live s := Storage.Live.obtain h (newSession asg)

theorem addedTracker_fresh (asg : Assignment) :
    (addedTracker t asg).sessions.fresh = t.sessions.fresh + 1 := Storage.fresh_obtain _ _

theorem Owned.of_added (owned : Owned t) (asg : Assignment) : Owned (addedTracker t asg) := by
  intro fileID entry hentry
  have hkeys : ∀ key f, t.fileIDs.get key = some f →
      (addedTracker t asg).fileIDs.get key = some f := fun key f => Storage.get_obtain_of_get
  rcases Table.get_put_iff.mp hentry with ⟨rfl, rfl⟩ | ⟨-, hold⟩
  · refine ⟨?_, newSession asg, by rw [addedTracker_session, if_pos rfl], rfl⟩
    cases hknown : t.sessionsByFileID.get asg.fileID with
    | none =>
      rw [Option.map_none, Option.getD_none]
      exact Storage.get_obtain_fresh _ _
    | some known =>
      rw [Option.map_some, Option.getD_some]
      exact hkeys known.1 _ (owned _ known hknown).1
  · obtain ⟨hkey, session, hsession, hupload⟩ := owned fileID entry hold
    refine ⟨hkeys _ _ hkey, session, ?_, hupload⟩
    rw [addedTracker_session, if_neg (Storage.ne_fresh_of_live (Storage.live_of_get hsession)),
      hsession]

theorem Registered.of_added (registered : Registered t) {asg : Assignment}
    (hnew : t.sessionsByFileID.get asg.fileID = none) : Registered (addedTracker t asg) := by
  intro s session hs
  rw [addedTracker_session] at hs
  split at hs
  next heq =>
    cases hs
    subst heq
    exact ⟨_, Table.get_put_self _ _ _⟩
  next =>
    obtain ⟨key, hkey⟩ := registered s session hs
    refine ⟨key, (Table.get_put_ne _ _ ?_).trans hkey⟩
    intro heq
    rw [heq, hnew] at hkey
    cases hkey

/-! ## What a step of the service does -/

variable {w w' : Uploads}

/-- A step of the service is an arrival, a request that reads what was given back, or one that
moves. -/
theorem uploads_step {step : UploadStep} (h : (uploads c).step w step = some w') :
    (∃ req, step = .arrive req ∧ w' = { w with requests := w.requests ++ [.pruning req] }) ∨
    (∃ request file ok phase, step = .advance request file ok ∧
      w.requests[request]? = some phase ∧ phase.step c w.tracker file ok = .undefined ∧
      w' = { w with undefined := true }) ∨
    (∃ request file ok phase t next, step = .advance request file ok ∧
      w.requests[request]? = some phase ∧ phase.step c w.tracker file ok = .moved t next ∧
      w' = ⟨t, w.requests.set request next, false⟩) := by
  cases step with
  | arrive req =>
    simp only [uploads] at h
    split at h
    next => cases h
    next => exact .inl ⟨req, rfl, (Option.some.inj h).symm⟩
  | advance request file ok =>
    simp only [uploads, Uploads.stepOf] at h
    split at h
    next => cases h
    next =>
      cases hphase : w.requests[request]? with
      | none =>
        rw [hphase] at h
        cases h
      | some phase =>
        simp only [hphase, Option.map_some, Option.getD_some] at h
        split at h
        next => cases h
        next heffect =>
          exact .inr (.inl ⟨request, file, ok, phase, rfl, hphase, heffect,
            (Option.some.inj h).symm⟩)
        next t next heffect =>
          exact .inr (.inr ⟨request, file, ok, phase, t, next, rfl, hphase, heffect,
            (Option.some.inj h).symm⟩)

/-- A request that is not the one that moves is still there. -/
theorem mem_set_of_ne {phases : List Phase} {phase other next : Phase}
    (hi : phases[i]? = some phase) (hother : other ∈ phases) (hne : other ≠ phase) :
    other ∈ phases.set i next := by
  obtain ⟨j, hj⟩ := List.mem_iff_getElem?.mp hother
  have hij : i ≠ j := by
    rintro rfl
    rw [hi, Option.some.injEq] at hj
    exact hne hj.symm
  exact List.mem_iff_getElem?.mpr ⟨j, by rw [List.getElem?_set_ne hij, hj]⟩

/-- What every run keeps. -/
structure Sound (w : Uploads) : Prop where
  owned : Owned w.tracker
  opened : ∀ phase ∈ w.requests, ∀ fileID s, phase.opens = some (fileID, s) →
    s < w.tracker.sessions.fresh

theorem step_sound {step : UploadStep} (sound : Sound w) (h : (uploads c).step w step = some w') :
    Sound w' := by
  rcases uploads_step h with ⟨req, rfl, rfl⟩ | ⟨i, file, ok, phase, rfl, hphase, -, rfl⟩ |
    ⟨i, file, ok, phase, t, next, rfl, hphase, hmoved, rfl⟩
  · refine ⟨sound.owned, fun q hq fileID s hs => ?_⟩
    rcases List.mem_append.mp hq with hq | hq
    · exact sound.opened q hq fileID s hs
    · rw [List.mem_singleton.mp hq] at hs
      cases hs
  · exact ⟨sound.owned, sound.opened⟩
  · rcases Phase.step_moved sound.owned hmoved with ⟨hreleased, -, -, hopens⟩ |
      ⟨asg, rfl, rfl, rfl⟩ | ⟨hkept, -, -, hopens, -⟩
    · refine ⟨sound.owned.of_released hreleased, fun q hq fileID s hs => ?_⟩
      rcases List.mem_or_eq_of_mem_set hq with hq | rfl
      · exact hreleased.fresh ▸ sound.opened q hq fileID s hs
      · rw [hopens] at hs
        cases hs
    · refine ⟨sound.owned.of_added asg, fun q hq fileID s hs => ?_⟩
      rw [addedTracker_fresh]
      rcases List.mem_or_eq_of_mem_set hq with hq | rfl
      · exact Nat.lt_succ_of_lt (sound.opened q hq fileID s hs)
      · cases hs
        exact Nat.lt_succ_self _
    · refine ⟨sound.owned.of_kept hkept, fun q hq fileID s hs => ?_⟩
      rcases List.mem_or_eq_of_mem_set hq with hq | rfl
      · exact hkept.fresh ▸ sound.opened q hq fileID s hs
      · rw [hopens] at hs
        cases hs

/-! ## Considerate steps keep the property -/

theorem Exclusive.of_arrived (exclusive : Exclusive w) (req : PutRequest) :
    Exclusive { w with requests := w.requests ++ [.pruning req] } where
  once := exclusive.once
  untruncated q hq fileID s hs := by
    rcases List.mem_append.mp hq with hq | hq
    · exact exclusive.untruncated q hq fileID s hs
    · rw [List.mem_singleton.mp hq] at hs
      cases hs
  used q hq s hs := by
    rcases List.mem_append.mp hq with hq | hq
    · exact exclusive.used q hq s hs
    · rw [List.mem_singleton.mp hq] at hs
      cases hs

/-- Giving back what no chunk request uses. -/
theorem Exclusive.of_released (exclusive : Exclusive w) {next : Phase}
    {entries : List (Addr × Addr)} (h : Released w.tracker t entries) (hopens : next.opens = none)
    (huses : next.chunkSession = none)
    (hunused : ∀ entry ∈ entries, ∀ other ∈ w.requests, other.chunkSession ≠ some entry.2) :
    Exclusive ⟨t, w.requests.set i next, false⟩ where
  once s s' session session' hs hs' :=
    exclusive.once s s' session session' (h.session_of_get hs).1 (h.session_of_get hs').1
  untruncated q hq fileID s hs s' session' hs' := by
    rcases List.mem_or_eq_of_mem_set hq with hq | rfl
    · exact exclusive.untruncated q hq fileID s hs s' session' (h.session_of_get hs').1
    · rw [hopens] at hs
      cases hs
  used q hq s hs := by
    rcases List.mem_or_eq_of_mem_set hq with hq | rfl
    · have hnot : s ∉ entries.map Prod.snd := by
        intro hmem
        obtain ⟨entry, hentry, heq⟩ := List.mem_map.mp hmem
        exact hunused entry hentry q hq (heq ▸ hs)
      have hlive := exclusive.used q hq s hs
      rw [Storage.Live] at hlive ⊢
      rw [h.sessions, if_neg hnot]
      exact hlive
    · rw [huses] at hs
      cases hs

/-- Registering a session for a file that has none and that nobody is opening. -/
theorem Exclusive.of_added (exclusive : Exclusive w) (registered : Registered w.tracker)
    {asg : Assignment} (hnew : w.tracker.sessionsByFileID.get asg.fileID = none)
    (hunopened : ∀ other ∈ w.requests, other.opens.map Prod.fst ≠ some asg.fileID) :
    Exclusive ⟨addedTracker w.tracker asg, w.requests.set i
      (.opening asg w.tracker.fileIDs.fresh w.tracker.sessions.fresh), false⟩ := by
  have hold : ∀ s session, w.tracker.sessions.get s = some session →
      session.upload ≠ asg.fileID := by
    intro s session hs heq
    obtain ⟨key, hkey⟩ := registered s session hs
    rw [heq, hnew] at hkey
    cases hkey
  refine ⟨?_, ?_, ?_⟩
  · intro s s' session session' hs hs' heq
    rw [addedTracker_session] at hs hs'
    split at hs
    next hfresh =>
      cases hs
      split at hs'
      next hfresh' => rw [hfresh, hfresh']
      next => exact absurd heq.symm (hold s' session' hs')
    next =>
      split at hs'
      next =>
        cases hs'
        exact absurd heq (hold s session hs)
      next => exact exclusive.once s s' session session' hs hs' heq
  · intro q hq fileID s hs s' session' hs' heq
    rw [addedTracker_session] at hs'
    rcases List.mem_or_eq_of_mem_set hq with hq | rfl
    · split at hs'
      next =>
        cases hs'
        exact absurd (by rw [hs, ← heq]; rfl) (hunopened q hq)
      next => exact exclusive.untruncated q hq fileID s hs s' session' hs' heq
    · cases hs
      split at hs'
      next hfresh => exact hfresh
      next => exact absurd heq (hold s' session' hs')
  · intro q hq s hs
    rcases List.mem_or_eq_of_mem_set hq with hq | rfl
    · exact addedTracker_live (exclusive.used q hq s hs)
    · cases hs

/-- Going on with one's own session or with that of an entry. -/
theorem Exclusive.of_kept (exclusive : Exclusive w) (owned : Owned w.tracker) {phase next : Phase}
    (hphase : w.requests[i]? = some phase) (h : Kept w.tracker t) (hopens : next.opens = none)
    (huses : ∀ s, next.chunkSession = some s → phase.chunkSession = some s ∨
      ∃ fileID key, w.tracker.sessionsByFileID.get fileID = some (key, s)) :
    Exclusive ⟨t, w.requests.set i next, false⟩ where
  once s s' session session' hs hs' heq := by
    obtain ⟨old, hold, hupload⟩ := h.session_of_get hs
    obtain ⟨old', hold', hupload'⟩ := h.session_of_get hs'
    exact exclusive.once s s' old old' hold hold' (by rw [hupload, hupload', heq])
  untruncated q hq fileID s hs s' session' hs' heq := by
    rcases List.mem_or_eq_of_mem_set hq with hq | rfl
    · obtain ⟨old', hold', hupload'⟩ := h.session_of_get hs'
      exact exclusive.untruncated q hq fileID s hs s' old' hold' (hupload'.trans heq)
    · rw [hopens] at hs
      cases hs
  used q hq s hs := by
    have hlive : w.tracker.sessions.Live s := by
      rcases List.mem_or_eq_of_mem_set hq with hq | rfl
      · exact exclusive.used q hq s hs
      · rcases huses s hs with hold | ⟨fileID, key, hentry⟩
        · exact exclusive.used phase (List.mem_of_getElem? hphase) s hold
        · obtain ⟨-, session, hsession, -⟩ := owned fileID _ hentry
          exact Storage.live_of_get hsession
    obtain ⟨session, hsession⟩ := Storage.live_iff.mp hlive
    obtain ⟨session', hsession', -⟩ := h.session hsession
    exact Storage.live_of_get hsession'

theorem step_exclusive {step : UploadStep} (sound : Sound w) (exclusive : Exclusive w)
    (registered : Registered w.tracker) (hc : Considerate c w step)
    (h : (uploads c).step w step = some w') : Exclusive w' ∧ Registered w'.tracker := by
  rcases uploads_step h with ⟨req, rfl, rfl⟩ | ⟨i, file, ok, phase, rfl, hphase, -, rfl⟩ |
    ⟨i, file, ok, phase, t, next, rfl, hphase, hmoved, rfl⟩
  · exact ⟨exclusive.of_arrived req, registered⟩
  · exact ⟨⟨exclusive.once, exclusive.untruncated, exclusive.used⟩, registered⟩
  · obtain ⟨hunused, hadds⟩ := hc phase hphase
    rcases Phase.step_moved sound.owned hmoved with ⟨hreleased, -, huses, hopens⟩ |
      ⟨asg, rfl, rfl, rfl⟩ | ⟨hkept, -, -, hopens, huses⟩
    · exact ⟨exclusive.of_released hreleased hopens huses hunused,
        registered.of_released hreleased⟩
    · obtain ⟨hnew, hunopened⟩ := hadds asg.fileID rfl
      exact ⟨exclusive.of_added registered hnew hunopened, registered.of_added hnew⟩
    · exact ⟨exclusive.of_kept sound.owned hphase hkept hopens huses, registered.of_kept hkept⟩

/-! ## Other steps break it -/

/-- Who gives entries back uses no session itself. -/
theorem Phase.chunkSession_of_releases {entry : Addr × Addr} (h : entry ∈ phase.releases c t) :
    phase.chunkSession = none := by
  cases phase with
  | stamping chunk session => cases h
  | validating chunk session => cases h
  | writing chunk session lastChunk => cases h
  | _ => rfl

/-- Who gives nothing back and registers nothing is considerate. -/
theorem Phase.considerate_of_idle (hreleases : phase.releases c w.tracker = [])
    (hadds : phase.adds = none) : phase.Considerate c w := by
  refine ⟨fun entry hentry => ?_, fun fileID hfile => ?_⟩
  · rw [hreleases] at hentry
    cases hentry
  · rw [hadds] at hfile
    cases hfile

/-- A step that is not considerate takes a session from a chunk request, or makes a second session
for a file, or one that an assignment under way will truncate. -/
theorem step_not_exclusive {step : UploadStep} (sound : Sound w) (hc : ¬ Considerate c w step)
    (h : (uploads c).step w step = some w') : ¬ Exclusive w' := by
  intro exclusive
  rcases uploads_step h with ⟨req, rfl, rfl⟩ | ⟨i, file, ok, phase, rfl, hphase, hundef, rfl⟩ |
    ⟨i, file, ok, phase, t, next, rfl, hphase, hmoved, rfl⟩
  · exact hc trivial
  · obtain ⟨hreleases, hadds⟩ := Phase.step_undefined hundef
    apply hc
    intro phase' hphase'
    rw [hphase, Option.mem_some] at hphase'
    subst hphase'
    exact Phase.considerate_of_idle hreleases hadds
  · apply hc
    intro phase' hphase'
    rw [hphase, Option.mem_some] at hphase'
    subst hphase'
    rcases Phase.step_moved sound.owned hmoved with ⟨hreleased, hadds, -, -⟩ |
      ⟨asg, rfl, rfl, rfl⟩ | ⟨hkept, hreleases, hadds, -, -⟩
    · refine ⟨fun entry hentry other hother hused => ?_, fun fileID hfile => ?_⟩
      on_goal 2 => rw [hadds] at hfile; cases hfile
      have hne : other ≠ phase := by
        rintro rfl
        rw [Phase.chunkSession_of_releases hentry] at hused
        cases hused
      have hlive := exclusive.used other (mem_set_of_ne hphase hother hne) entry.2 hused
      rw [Storage.Live, hreleased.sessions, if_pos (List.mem_map_of_mem hentry)] at hlive
      cases hlive
    · refine ⟨fun entry hentry => absurd hentry List.not_mem_nil, fun fileID hfile => ?_⟩
      rw [Phase.adds, Option.mem_some] at hfile
      subst hfile
      have hnewest : (addedTracker w.tracker asg).sessions.get w.tracker.sessions.fresh =
          some (newSession asg) := by rw [addedTracker_session, if_pos rfl]
      constructor
      · by_contra hknown
        obtain ⟨entry, hentry⟩ := Option.ne_none_iff_exists'.mp hknown
        obtain ⟨-, session, hsession, hupload⟩ := sound.owned _ entry hentry
        have hne := Storage.ne_fresh_of_live (Storage.live_of_get hsession)
        refine hne (exclusive.once entry.2 _ session (newSession asg) ?_ hnewest hupload)
        rw [addedTracker_session, if_neg hne, hsession]
      · intro other hother hopens
        have hne : other ≠ .adding asg := by
          rintro rfl
          cases hopens
        obtain ⟨⟨fileID, s⟩, hs, hfile⟩ := Option.map_eq_some_iff.mp hopens
        have hlt := sound.opened other hother fileID s hs
        have heq := exclusive.untruncated other (mem_set_of_ne hphase hother hne) fileID s hs _
          (newSession asg) hnewest hfile.symm
        exact absurd heq (Nat.ne_of_gt hlt)
    · exact Phase.considerate_of_idle hreleases hadds

end

/-! ## Runs -/

theorem newUploads_sound : Sound newUploads where
  owned _ _ h := by cases h
  opened _ hq := by cases hq

theorem newUploads_registered : Registered newUploads.tracker := by
  intro s session hs
  rw [newUploads, newTracker, Storage.get_empty] at hs
  cases hs

theorem newUploads_exclusive : Exclusive newUploads where
  once s s' session session' hs := by
    rw [newUploads, newTracker, Storage.get_empty] at hs
    cases hs
  untruncated q hq := by cases hq
  used q hq := by cases hq

def sampleCommonC : CommonC where
  getCharsetCode _ := 819
  ccsidBinary := 65535
  pruneFreesKeys := true
  nullFileID := ⟨0, 0⟩

/-- A request for a session on an existing file. -/
def sampleAssignment (currUnixTime : UInt32) : PutRequest where
  currUnixTime := currUnixTime
  username := ['U', 'S', 'E', 'R']
  sessionID := none
  forceOverwrite := some ['T', 'R', 'U', 'E']
  sourceEncoding := some binaryEncoding
  targetEncoding := some binaryEncoding
  lastChunk := none
  contentLength := 0

def sampleFile : FileID := ⟨5, 1⟩

/-- A request makes its next steps, with the file there and every operation a success. -/
def advances (request count : Nat) : List UploadStep :=
  List.replicate count (.advance request (.existing sampleFile) true)

end Zss.Unixfile
