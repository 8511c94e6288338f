import Zss.Lib.WordClock
import Zss.Unixfile.UploadTables

/-!
# The time-out of an upload

The PUT requests under the clock they read. A request reads it once, when it starts, and keeps the
reading in an unsigned word through its table steps, while other requests start and make theirs. A
session bears the reading of the request that made it or stamped it last, and a pruning takes away
the sessions that are 600 seconds old by its own reading.

`clocked` runs the service under a clock that counts on without end, and writes down for each
session who it was made for, the time it bears and the latest request of its own user on it. A
request is on a session from when it made it or found it by its id. `prunes_in_time` says of which
runs no pruning comes before its time.

## What is not established

The condition is enough, not exact. A clock that is set back is not among the runs, and no session
is said to be pruned: only when one may be.
-/

namespace Zss.Unixfile

open Zss.Lib WordClock

/-! ## The clock -/

/-- What there is to say of a session in seconds: for whom it was made, when the request started
that made or stamped it last, and when the latest one of its user did that made or found it. -/
structure SessionRecord where
  owner : Text
  stamp : Nat
  latest : Nat

/-- The service under the clock; `starts` has what the clock showed to each request, `records` what
is known of each session, in the order of their addresses. -/
structure Clocked where
  uploads : Uploads
  clock : Nat
  starts : List Nat
  records : List SessionRecord

inductive ClockStep where
  | tick (seconds : Nat)
  | serve (step : UploadStep)

/-- A request starts with what it reads of the clock. -/
def UploadStep.startingAt (clock : Nat) : UploadStep → UploadStep
  | .arrive req => .arrive { req with currUnixTime := reading clock }
  | step => step

/-- What a step from one phase to the next adds to the records. -/
def Phase.record (start : Nat) (records : List SessionRecord) : Phase → Phase → List SessionRecord
  | .adding asg, _ => records ++ [⟨asg.req.username, start, start⟩]
  | .stamping _ session, _ => records.modify session fun r => { r with stamp := start }
  | .looking chunk, .stamping _ session =>
    records.modify session fun r =>
      if chunk.req.username = r.owner then { r with latest := max r.latest start } else r
  | _, _ => records

namespace Clocked

/-- What was read of the clock, after a step of the service. -/
def startsAfter (w : Clocked) : UploadStep → List Nat
  | .arrive _ => w.starts ++ [w.clock]
  | .advance _ _ _ => w.starts

/-- What is known of the sessions, after a step that leads to `u`. -/
def recordsAfter (w : Clocked) (u : Uploads) : UploadStep → List SessionRecord
  | .arrive _ => w.records
  | .advance i _ _ =>
    match w.uploads.requests[i]?, u.requests[i]?, w.starts[i]? with
    | some phase, some next, some start =>
      if u.undefined then w.records else phase.record start w.records next
    | _, _, _ => w.records

/-- The state of the clocked service once the service came to `u`. -/
def after (w : Clocked) (step : UploadStep) (u : Uploads) : Clocked where
  uploads := u
  clock := w.clock
  starts := w.startsAfter step
  records := w.recordsAfter u step

end Clocked

/-- The PUT service under a clock that never goes back. -/
def clocked (c : CommonC) : Machine Clocked ClockStep where
  step w
    | .tick seconds => some { w with clock := w.clock + seconds }
    | .serve step => ((uploads c).step w.uploads (step.startingAt w.clock)).map (w.after step)

/-- The service as it is installed, at some time. -/
def installedAt (clock : Nat) : Clocked where
  uploads := newUploads
  clock := clock
  starts := []
  records := []

/-! ## The time-out -/

/-- The sessions that a pruning takes away. -/
def Phase.prunes (t : UploadSessionTracker) : Phase → List Addr
  | .pruning req => (t.expired req.currUnixTime).map fun entry => entry.2.2
  | _ => []

/-- A step of the service takes away no session by pruning before `timeoutTime` went by from the
latest request of its own user on it to the start of the request that prunes. -/
def PrunesInTime (w : Clocked) : ClockStep → Prop
  | .serve (.advance i _ _) =>
    ∀ phase ∈ w.uploads.requests[i]?, ∀ session ∈ phase.prunes w.uploads.tracker,
      ∃ start ∈ w.starts[i]?, ∃ record ∈ w.records[session]?,
        record.latest + timeoutTime.toNat ≤ start
  | _ => True

instance (w : Clocked) : (step : ClockStep) → Decidable (PrunesInTime w step)
  | .serve (.advance i _ _) => inferInstanceAs (Decidable
      (∀ phase ∈ w.uploads.requests[i]?, ∀ session ∈ phase.prunes w.uploads.tracker,
        ∃ start ∈ w.starts[i]?, ∃ record ∈ w.records[session]?,
          record.latest + timeoutTime.toNat ≤ start))
  | .serve (.arrive _) | .tick _ => inferInstanceAs (Decidable True)

/-- A request of the session's own user has found the session and is about to stamp it. -/
def Phase.AwaitsStamp (records : List SessionRecord) (session : Addr) : Phase → Prop
  | .stamping chunk found =>
    found = session ∧ ∃ record ∈ records[session]?, chunk.req.username = record.owner
  | _ => False

instance (records : List SessionRecord) (session : Addr) :
    (phase : Phase) → Decidable (phase.AwaitsStamp records session)
  | .stamping chunk found => inferInstanceAs (Decidable (found = session ∧
      ∃ record ∈ records[session]?, chunk.req.username = record.owner))
  | .pruning _ | .preparing _ | .checking _ | .adding _ | .opening _ _ _ | .tagging _ _ _
  | .dropping _ _ _ _ | .numbering _ _ _ | .naming _ _ _ | .resolving _ _ | .looking _
  | .validating _ _ | .writing _ _ _ | .removing _ _ | .forgetting _ _ | .done _ =>
    inferInstanceAs (Decidable False)

/-- The request does what comes next in the order in which the requests read the clock: it stamps no
session that a later request stamped, and it prunes while no session is registered that a later
request stamped, and none that timed out waits for the stamp of a request of its own user. -/
def Phase.InOrder (w : Clocked) (start : Nat) (phase : Phase) : Prop :=
  match phase with
  | .pruning _ =>
    (∀ entry ∈ w.uploads.tracker.sessionsByFileID.entries,
      ∀ record ∈ w.records[entry.2.2]?, record.stamp ≤ start) ∧
    ∀ session ∈ phase.prunes w.uploads.tracker, ∀ other ∈ w.uploads.requests,
      ¬ other.AwaitsStamp w.records session
  | .stamping _ session => ∀ record ∈ w.records[session]?, record.stamp ≤ start
  | _ => True

/-- A step comes in the order in which the requests read the clock. -/
def InOrder (w : Clocked) : ClockStep → Prop
  | .serve (.advance i _ _) =>
    ∀ phase ∈ w.uploads.requests[i]?, ∀ start ∈ w.starts[i]?, phase.InOrder w start
  | _ => True

instance (w : Clocked) (start : Nat) : (phase : Phase) → Decidable (phase.InOrder w start)
  | .pruning req => inferInstanceAs (Decidable
      ((∀ entry ∈ w.uploads.tracker.sessionsByFileID.entries,
        ∀ record ∈ w.records[entry.2.2]?, record.stamp ≤ start) ∧
      ∀ session ∈ (Phase.pruning req).prunes w.uploads.tracker, ∀ other ∈ w.uploads.requests,
        ¬ other.AwaitsStamp w.records session))
  | .stamping _ session =>
    inferInstanceAs (Decidable (∀ record ∈ w.records[session]?, record.stamp ≤ start))
  | .preparing _ | .checking _ | .adding _ | .opening _ _ _ | .tagging _ _ _ | .dropping _ _ _ _
  | .numbering _ _ _ | .naming _ _ _ | .resolving _ _ | .looking _ | .validating _ _
  | .writing _ _ _ | .removing _ _ | .forgetting _ _ | .done _ => inferInstanceAs (Decidable True)

instance (w : Clocked) : (step : ClockStep) → Decidable (InOrder w step)
  | .serve (.advance i _ _) => inferInstanceAs (Decidable
      (∀ phase ∈ w.uploads.requests[i]?, ∀ start ∈ w.starts[i]?, phase.InOrder w start))
  | .serve (.arrive _) | .tick _ => inferInstanceAs (Decidable True)

/-! ## What a step does to the times -/

/-- The request that a phase belongs to, as long as it is needed. -/
def Phase.req : Phase → Option PutRequest
  | .pruning req | .preparing req | .resolving req _ => some req
  | .checking asg | .adding asg | .opening asg _ _ | .tagging asg _ _ | .dropping asg _ _ _
  | .numbering asg _ _ | .naming asg _ _ => some asg.req
  | .looking chunk | .stamping chunk _ | .validating chunk _ | .writing chunk _ _
  | .removing chunk _ => some chunk.req
  | .forgetting _ _ | .done _ => none

/-- No session comes and none is stamped; some may be given back. -/
structure SameTimes (t t' : UploadSessionTracker) : Prop where
  fresh : t'.sessions.fresh = t.sessions.fresh
  time : ∀ s session', t'.sessions.get s = some session' →
    ∃ session, t.sessions.get s = some session ∧
      session'.timeOfLastRequest = session.timeOfLastRequest

variable {c : CommonC} {t t' : UploadSessionTracker}

theorem SameTimes.refl (t : UploadSessionTracker) : SameTimes t t := ⟨rfl, fun _ s h => ⟨s, h, rfl⟩⟩

theorem SameTimes.of_released {entries : List (Addr × Addr)} (h : Released t t' entries) :
    SameTimes t t' := by
  refine ⟨h.fresh, fun s session' hs => ?_⟩
  rw [h.sessions] at hs
  split at hs
  next => cases hs
  next => exact ⟨session', hs, rfl⟩

theorem SameTimes.of_modified {session : Addr} {f : UploadSession → UploadSession}
    (h : t'.sessions = t.sessions.modify session f)
    (hf : ∀ s, (f s).timeOfLastRequest = s.timeOfLastRequest) : SameTimes t t' := by
  refine ⟨by rw [h, Storage.fresh_modify], fun s session' hs => ?_⟩
  rw [h] at hs
  by_cases heq : s = session
  · subst heq
    rw [Storage.get_modify_self, Option.map_eq_some_iff] at hs
    obtain ⟨old, hold, rfl⟩ := hs
    exact ⟨old, hold, hf old⟩
  · rw [Storage.get_modify_ne _ _ heq] at hs
    exact ⟨session', hs, rfl⟩

/-- The tracker once a session was stamped. -/
def stampedTracker (t : UploadSessionTracker) (chunk : Chunk) (session : Addr) :
    UploadSessionTracker :=
  t.modifySession session fun s => { s with timeOfLastRequest := chunk.req.currUnixTime }

def Phase.isStamping : Phase → Bool
  | .stamping _ _ => true
  | _ => false

/-- The step neither makes nor stamps a session, and does not find one to be stamped; as long as its
request is needed it is the same. -/
structure Phase.Idle (phase next : Phase) : Prop where
  record : ∀ start records, phase.record start records next = records
  stamps : phase.isStamping = false
  finds : next.isStamping = false
  req : next.req = none ∨ next.req = phase.req

/-- **The times of a step.** It makes a session, stamps one, finds the one it stamps next, or leaves
the times alone. -/
theorem Phase.step_times (owned : Owned t) {phase next : Phase} {file : FileOutcome} {ok : Bool}
    (h : phase.step c t file ok = .moved t' next) :
    (∃ asg, phase = .adding asg ∧ t' = addedTracker t asg ∧
      next = .opening asg t.fileIDs.fresh t.sessions.fresh) ∨
    (∃ chunk session, phase = .stamping chunk session ∧ t' = stampedTracker t chunk session ∧
      next = .validating chunk session) ∨
    (∃ chunk session, phase = .looking chunk ∧ t' = t ∧ next = .stamping chunk session) ∨
    (SameTimes t t' ∧ phase.Idle next) := by
  cases Phase.stepped h with
  | added => exact .inl ⟨_, rfl, rfl, rfl⟩
  | stamped => exact .inr (.inl ⟨_, _, rfl, rfl, rfl⟩)
  | found => exact .inr (.inr (.inl ⟨_, _, rfl, rfl, rfl⟩))
  | assigns | continues =>
    exact .inr (.inr (.inr ⟨.of_released (removeSessionTimeOuts_released _), fun _ _ => rfl, rfl,
      rfl, .inr rfl⟩))
  | tagged | numbered =>
    exact .inr (.inr (.inr ⟨.of_modified rfl fun _ => rfl, fun _ _ => rfl, rfl, rfl, .inr rfl⟩))
  | named =>
    exact .inr (.inr (.inr ⟨.of_modified rfl fun _ => rfl, fun _ _ => rfl, rfl, rfl, .inl rfl⟩))
  | dropped | removed =>
    exact .inr (.inr (.inr ⟨.of_released (removeFromTable_released owned _), fun _ _ => rfl, rfl,
      rfl, .inl rfl⟩))
  | forgotten =>
    exact .inr (.inr (.inr ⟨⟨rfl, fun _ s hs => ⟨s, hs, rfl⟩⟩, fun _ _ => rfl, rfl, rfl,
      .inl rfl⟩))
  | prepared | unique | opened | busy | untaggable | resolved | valid | ended =>
    exact .inr (.inr (.inr ⟨.refl t, fun _ _ => rfl, rfl, rfl, .inr rfl⟩))
  | noEncoding | noFile | duplicate | unknown | otherUser | noLastChunk | wrote =>
    exact .inr (.inr (.inr ⟨.refl t, fun _ _ => rfl, rfl, rfl, .inl rfl⟩))

/-! ## What a step of the clocked service does -/

variable {w w' : Clocked}

/-- The state once a request started. -/
def Clocked.arrived (w : Clocked) (req : PutRequest) : Clocked where
  uploads := { w.uploads with requests :=
    w.uploads.requests ++ [.pruning { req with currUnixTime := reading w.clock }] }
  clock := w.clock
  starts := w.starts ++ [w.clock]
  records := w.records

/-- The state once a request moved on. -/
def Clocked.moved (w : Clocked) (i start : Nat) (phase : Phase) (t : UploadSessionTracker)
    (next : Phase) : Clocked where
  uploads := ⟨t, w.uploads.requests.set i next, false⟩
  clock := w.clock
  starts := w.starts
  records := phase.record start w.records next

/-- A step of the clocked service lets time go by, starts a request with what it reads of the clock,
comes upon what was given back, or moves a request on. -/
theorem clocked_step {step : ClockStep} (hstarts : w.starts.length = w.uploads.requests.length)
    (h : (clocked c).step w step = some w') :
    (∃ seconds, w' = { w with clock := w.clock + seconds }) ∨
    (∃ req, w' = w.arrived req) ∨
    w' = { w with uploads := { w.uploads with undefined := true } } ∨
    (∃ i file ok phase start t next, step = .serve (.advance i file ok) ∧
      w.uploads.requests[i]? = some phase ∧ w.starts[i]? = some start ∧
      phase.step c w.uploads.tracker file ok = .moved t next ∧
      w' = w.moved i start phase t next) := by
  cases step with
  | tick seconds => exact .inl ⟨seconds, (Option.some.inj h).symm⟩
  | serve step =>
    simp only [clocked, Option.map_eq_some_iff] at h
    obtain ⟨u, hu, rfl⟩ := h
    cases step with
    | arrive req =>
      obtain ⟨req', hreq, rfl⟩ | ⟨_, _, _, _, hreq, -⟩ | ⟨_, _, _, _, _, _, hreq, -⟩ :=
        uploads_step hu
      · cases hreq
        exact .inr (.inl ⟨req, rfl⟩)
      · cases hreq
      · cases hreq
    | advance i file ok =>
      obtain ⟨_, hreq, -⟩ | ⟨_, _, _, phase, hreq, hphase, -, rfl⟩ |
        ⟨_, _, _, phase, t, next, hreq, hphase, hmoved, rfl⟩ := uploads_step hu
      · cases hreq
      · cases hreq
        refine .inr (.inr (.inl ?_))
        simp only [Clocked.after, Clocked.startsAfter, Clocked.recordsAfter, ite_true]
        split <;> rfl
      · cases hreq
        have hi : i < w.starts.length := hstarts ▸ (List.getElem?_eq_some_iff.mp hphase).1
        have hstart : w.starts[i]? = some w.starts[i] := List.getElem?_eq_getElem hi
        refine .inr (.inr (.inr ⟨i, file, ok, phase, _, t, next, rfl, hphase, hstart, hmoved, ?_⟩))
        have hnext : (w.uploads.requests.set i next)[i]? = some next := by
          rw [List.getElem?_set_self (hstarts ▸ hi)]
        simp [Clocked.after, Clocked.startsAfter, Clocked.recordsAfter, Clocked.moved, hphase,
          hnext, hstart]

/-! ## The times there are -/

/-- Requests and sessions bear what was read of the clock, as it is written down. -/
structure Dated (w : Clocked) : Prop where
  sound : Sound w.uploads
  starts : w.starts.length = w.uploads.requests.length
  records : w.records.length = w.uploads.tracker.sessions.fresh
  readings : ∀ (i : Nat) (phase : Phase) (start : Nat), w.uploads.requests[i]? = some phase →
    w.starts[i]? = some start → ∀ req, phase.req = some req → req.currUnixTime = reading start
  stamps : ∀ (s : Addr) (session : UploadSession) (record : SessionRecord),
    w.uploads.tracker.sessions.get s = some session → w.records[s]? = some record →
    session.timeOfLastRequest = reading record.stamp

/-- Every session has its record. -/
theorem Dated.record_of_get (dated : Dated w) {s : Addr} {session : UploadSession}
    (h : w.uploads.tracker.sessions.get s = some session) :
    ∃ record, w.records[s]? = some record := by
  have hlt : s < w.records.length :=
    dated.records ▸ Storage.lt_fresh_of_live (Storage.live_of_get h)
  exact ⟨w.records[s], List.getElem?_eq_getElem hlt⟩

/-- Every request has its start. -/
theorem Dated.start_of_get (dated : Dated w) {i : Nat} {phase : Phase}
    (h : w.uploads.requests[i]? = some phase) : ∃ start, w.starts[i]? = some start := by
  have hlt : i < w.starts.length := dated.starts ▸ (List.getElem?_eq_some_iff.mp h).1
  exact ⟨w.starts[i], List.getElem?_eq_getElem hlt⟩

theorem getElem?_append_singleton {α : Type} {xs : List α} {i : Nat} {x y : α}
    (h : (xs ++ [x])[i]? = some y) : xs[i]? = some y ∨ (i = xs.length ∧ y = x) := by
  rw [List.getElem?_append] at h
  split at h
  next => exact .inl h
  next hge =>
    obtain ⟨hi, hy⟩ := List.getElem?_eq_some_iff.mp h
    rw [List.length_singleton] at hi
    exact .inr ⟨by omega, by simpa using hy.symm⟩

/-- A request that finds a session leaves its stamp alone, and at most makes it the latest. -/
theorem found_record {chunk : Chunk} {session s : Addr} {start : Nat} {records : List SessionRecord}
    {record : SessionRecord} (h : ((Phase.looking chunk).record start records
      (.stamping chunk session))[s]? = some record) :
    ∃ old, records[s]? = some old ∧ record.stamp = old.stamp ∧ record.owner = old.owner ∧
      (record.latest = old.latest ∨ (s = session ∧ chunk.req.username = record.owner ∧
        record.latest = start)) := by
  rw [Phase.record, List.getElem?_modify, Option.map_eq_map, Option.map_eq_some_iff] at h
  obtain ⟨old, hold, rfl⟩ := h
  refine ⟨old, hold, ?_⟩
  split
  next heq =>
    split
    next howner =>
      refine ⟨rfl, rfl, ?_⟩
      rcases Nat.le_total old.latest start with hle | hle
      · exact .inr ⟨heq.symm, howner, Nat.max_eq_right hle⟩
      · exact .inl (Nat.max_eq_left hle)
    next => exact ⟨rfl, rfl, .inl rfl⟩
  next => exact ⟨rfl, rfl, .inl rfl⟩

theorem Dated.of_arrived (dated : Dated w) (req : PutRequest)
    (sound : Sound (w.arrived req).uploads) : Dated (w.arrived req) where
  sound := sound
  starts := by
    show (w.starts ++ [w.clock]).length = (w.uploads.requests ++ [_]).length
    rw [List.length_append, List.length_append, dated.starts, List.length_singleton,
      List.length_singleton]
  records := dated.records
  stamps := dated.stamps
  readings := by
    intro i phase start hphase hstart req' hreq
    rcases getElem?_append_singleton hphase with hphase | ⟨hi, rfl⟩
    · rcases getElem?_append_singleton hstart with hstart | ⟨hi, -⟩
      · exact dated.readings i phase start hphase hstart req' hreq
      · exact absurd (dated.starts ▸ (List.getElem?_eq_some_iff.mp hphase).1) (by omega)
    · rcases getElem?_append_singleton hstart with hstart | ⟨-, rfl⟩
      · exact absurd (dated.starts ▸ (List.getElem?_eq_some_iff.mp hstart).1) (by omega)
      · cases hreq
        rfl

section

variable {i start : Nat} {phase next : Phase} {file : FileOutcome} {ok : Bool}

/-- The request that moves goes on with the reading it had. -/
theorem Dated.readings_moved (dated : Dated w) (hphase : w.uploads.requests[i]? = some phase)
    (hreq : next.req = none ∨ next.req = phase.req) (j : Nat) (other : Phase) (start' : Nat)
    (hother : (w.uploads.requests.set i next)[j]? = some other)
    (hstart : w.starts[j]? = some start') (req : PutRequest) (h : other.req = some req) :
    req.currUnixTime = reading start' := by
  by_cases hij : i = j
  · subst hij
    rw [List.getElem?_set_self (List.getElem?_eq_some_iff.mp hphase).1, Option.some.injEq] at hother
    subst hother
    rcases hreq with hreq | hreq
    · rw [hreq] at h
      cases h
    · exact dated.readings i phase start' hphase hstart req (hreq ▸ h)
  · rw [List.getElem?_set_ne hij] at hother
    exact dated.readings j other start' hother hstart req h

theorem Dated.of_moved (dated : Dated w) (hphase : w.uploads.requests[i]? = some phase)
    (hstart : w.starts[i]? = some start)
    (hmoved : phase.step c w.uploads.tracker file ok = .moved t next)
    (sound : Sound (w.moved i start phase t next).uploads) :
    Dated (w.moved i start phase t next) := by
  have hstarts : w.starts.length = (w.uploads.requests.set i next).length := by
    rw [List.length_set, dated.starts]
  rcases Phase.step_times dated.sound.owned hmoved with ⟨asg, rfl, rfl, rfl⟩ |
    ⟨chunk, session, rfl, rfl, rfl⟩ | ⟨chunk, session, rfl, rfl, rfl⟩ | ⟨htimes, hidle⟩
  · refine ⟨sound, hstarts, ?_, dated.readings_moved hphase (.inr rfl), ?_⟩
    · show (w.records ++ [_]).length = (addedTracker w.uploads.tracker asg).sessions.fresh
      rw [addedTracker_fresh, List.length_append, dated.records, List.length_singleton]
    · intro s session record hs hrecord
      rw [Clocked.moved, addedTracker_session] at hs
      split at hs
      next heq =>
        cases hs
        rcases getElem?_append_singleton hrecord with hrecord | ⟨-, rfl⟩
        · have hlt := (List.getElem?_eq_some_iff.mp hrecord).1
          rw [dated.records, heq] at hlt
          exact absurd hlt (Nat.lt_irrefl _)
        · exact dated.readings i _ start hphase hstart _ rfl
      next hne =>
        rcases getElem?_append_singleton hrecord with hrecord | ⟨heq, -⟩
        · exact dated.stamps s session record hs hrecord
        · exact absurd (heq.trans dated.records) hne
  · refine ⟨sound, hstarts, ?_, dated.readings_moved hphase (.inr rfl), ?_⟩
    · show (w.records.modify session _).length = (w.uploads.tracker.sessions.modify session _).fresh
      rw [List.length_modify, Storage.fresh_modify, dated.records]
    · intro s old record hs hrecord
      by_cases heq : s = session
      · subst heq
        simp only [Clocked.moved, stampedTracker, UploadSessionTracker.modifySession,
          Storage.get_modify_self, Option.map_eq_some_iff] at hs
        obtain ⟨_, -, rfl⟩ := hs
        simp only [Clocked.moved, Phase.record, List.getElem?_modify_eq, Option.map_eq_map,
          Option.map_eq_some_iff] at hrecord
        obtain ⟨_, -, rfl⟩ := hrecord
        exact dated.readings i _ start hphase hstart _ rfl
      · simp only [Clocked.moved, stampedTracker, UploadSessionTracker.modifySession,
          Storage.get_modify_ne _ _ heq] at hs
        simp only [Clocked.moved, Phase.record,
          List.getElem?_modify_ne _ _ (Ne.symm heq)] at hrecord
        exact dated.stamps s old record hs hrecord
  · refine ⟨sound, hstarts, ?_, dated.readings_moved hphase (.inr rfl), ?_⟩
    · show (w.records.modify session _).length = w.uploads.tracker.sessions.fresh
      rw [List.length_modify, dated.records]
    · intro s old record hs hrecord
      obtain ⟨record', hrecord', hstamp, -⟩ := found_record hrecord
      rw [hstamp]
      exact dated.stamps s old record' hs hrecord'
  · refine ⟨sound, hstarts, ?_, dated.readings_moved hphase hidle.req, ?_⟩
    · show (phase.record start w.records next).length = t.sessions.fresh
      rw [hidle.record, dated.records, htimes.fresh]
    · intro s session' record hs hrecord
      simp only [Clocked.moved, hidle.record] at hrecord
      obtain ⟨session, hsession, heq⟩ := htimes.time s session' hs
      rw [heq]
      exact dated.stamps s session record hsession hrecord

end

theorem clocked_sound {step : ClockStep} (sound : Sound w.uploads)
    (h : (clocked c).step w step = some w') : Sound w'.uploads := by
  cases step with
  | tick seconds =>
    cases h
    exact sound
  | serve step =>
    simp only [clocked, Option.map_eq_some_iff] at h
    obtain ⟨u, hu, rfl⟩ := h
    exact step_sound sound hu

theorem step_dated {step : ClockStep} (dated : Dated w) (h : (clocked c).step w step = some w') :
    Dated w' := by
  have hsound := clocked_sound dated.sound h
  rcases clocked_step dated.starts h with ⟨seconds, rfl⟩ | ⟨req, rfl⟩ | rfl |
    ⟨i, file, ok, phase, start, t, next, -, hphase, hstart, hmoved, rfl⟩
  · exact ⟨hsound, dated.starts, dated.records, dated.readings, dated.stamps⟩
  · exact dated.of_arrived req hsound
  · exact ⟨hsound, dated.starts, dated.records, dated.readings, dated.stamps⟩
  · exact dated.of_moved hphase hstart hmoved hsound

/-! ## Steps in order -/

/-- The request at an index has found the session and is about to stamp it, as its latest one. -/
def Clocked.LatestAwaits (w : Clocked) (s : Addr) (record : SessionRecord) (i : Nat) : Prop :=
  ∃ chunk, w.uploads.requests[i]? = some (.stamping chunk s) ∧ chunk.req.username = record.owner ∧
    w.starts[i]? = some record.latest

/-- A session bears the time of the latest request of its own user on it or a later one, if that
request is not about to stamp it. -/
def Followed (w : Clocked) : Prop :=
  ∀ (s : Addr) (record : SessionRecord), w.records[s]? = some record →
    record.latest ≤ record.stamp ∨ ∃ i, w.LatestAwaits s record i

section

variable {i start : Nat} {phase next : Phase} {file : FileOutcome} {ok : Bool}

/-- What another request is about to do, it is after a step still. -/
theorem Clocked.LatestAwaits.moved {s : Addr} {record record' : SessionRecord} {j : Nat}
    (h : w.LatestAwaits s record j) (hne : i ≠ j) (howner : record'.owner = record.owner)
    (hlatest : record'.latest = record.latest) :
    (w.moved i start phase t next).LatestAwaits s record' j := by
  obtain ⟨chunk, hj, hchunk, hstart⟩ := h
  refine ⟨chunk, ?_, hchunk.trans howner.symm, hlatest ▸ hstart⟩
  show (w.uploads.requests.set i next)[j]? = _
  rw [List.getElem?_set_ne hne, hj]

/-- The request that is about to stamp is not one in another phase. -/
theorem Clocked.LatestAwaits.ne {s : Addr} {record : SessionRecord} {j : Nat}
    (h : w.LatestAwaits s record j) (hphase : w.uploads.requests[i]? = some phase)
    (hstamp : ∀ chunk, phase ≠ .stamping chunk s) : i ≠ j := by
  rintro rfl
  obtain ⟨chunk, hj, -⟩ := h
  rw [hphase, Option.some.injEq] at hj
  exact hstamp chunk hj

theorem not_stamping (h : phase.isStamping = false) {s : Addr} (chunk : Chunk) :
    phase ≠ .stamping chunk s := by
  rintro rfl
  cases h

theorem Followed.of_moved (followed : Followed w) (dated : Dated w)
    (hphase : w.uploads.requests[i]? = some phase) (hstart : w.starts[i]? = some start)
    (hmoved : phase.step c w.uploads.tracker file ok = .moved t next)
    (horder : phase.InOrder w start) : Followed (w.moved i start phase t next) := by
  intro s record hrecord
  rcases Phase.step_times dated.sound.owned hmoved with ⟨asg, rfl, rfl, rfl⟩ |
    ⟨chunk, session, rfl, rfl, rfl⟩ | ⟨chunk, session, rfl, rfl, rfl⟩ | ⟨htimes, hidle⟩
  · rcases getElem?_append_singleton hrecord with hrecord | ⟨-, rfl⟩
    · rcases followed s record hrecord with hle | ⟨j, hj⟩
      · exact .inl hle
      · exact .inr ⟨j, hj.moved (hj.ne hphase (not_stamping rfl)) rfl rfl⟩
    · exact .inl le_rfl
  · by_cases heq : s = session
    · subst heq
      simp only [Clocked.moved, Phase.record, List.getElem?_modify_eq, Option.map_eq_map,
        Option.map_eq_some_iff] at hrecord
      obtain ⟨old, hold, rfl⟩ := hrecord
      rcases followed s old hold with hle | ⟨j, hj⟩
      · exact .inl (hle.trans (horder old hold))
      · by_cases hij : i = j
        · subst hij
          obtain ⟨_, -, -, hlatest⟩ := hj
          rw [hstart, Option.some.injEq] at hlatest
          exact .inl hlatest.ge
        · exact .inr ⟨j, hj.moved hij rfl rfl⟩
    · simp only [Clocked.moved, Phase.record, List.getElem?_modify_ne _ _ (Ne.symm heq)] at hrecord
      rcases followed s record hrecord with hle | ⟨j, hj⟩
      · exact .inl hle
      · refine .inr ⟨j, hj.moved (hj.ne hphase ?_) rfl rfl⟩
        rintro chunk' hchunk
        cases hchunk
        exact heq rfl
  · obtain ⟨old, hold, hstamp, howner, hlatest | ⟨rfl, hown, hlatest⟩⟩ := found_record hrecord
    · rcases followed s old hold with hle | ⟨j, hj⟩
      · exact .inl (by rw [hlatest, hstamp]; exact hle)
      · exact .inr ⟨j, hj.moved (hj.ne hphase (not_stamping rfl)) howner hlatest⟩
    · refine .inr ⟨i, chunk, ?_, hown, hlatest ▸ hstart⟩
      exact List.getElem?_set_self (List.getElem?_eq_some_iff.mp hphase).1
  · simp only [Clocked.moved, hidle.record] at hrecord
    rcases followed s record hrecord with hle | ⟨j, hj⟩
    · exact .inl hle
    · exact .inr ⟨j, hj.moved (hj.ne hphase (not_stamping hidle.stamps)) rfl rfl⟩

end

theorem step_followed {step : ClockStep} (dated : Dated w) (followed : Followed w)
    (horder : InOrder w step) (h : (clocked c).step w step = some w') : Followed w' := by
  rcases clocked_step dated.starts h with ⟨seconds, rfl⟩ | ⟨req, rfl⟩ | rfl |
    ⟨i, file, ok, phase, start, t, next, rfl, hphase, hstart, hmoved, rfl⟩
  · exact followed
  · intro s record hrecord
    rcases followed s record hrecord with hle | ⟨j, chunk, hj, howner, hlatest⟩
    · exact .inl hle
    · refine .inr ⟨j, chunk, ?_, howner, ?_⟩
      · exact List.getElem?_append_left (List.getElem?_eq_some_iff.mp hj).1 ▸ hj
      · exact List.getElem?_append_left (List.getElem?_eq_some_iff.mp hlatest).1 ▸ hlatest
  · exact followed
  · exact followed.of_moved dated hphase hstart hmoved (horder phase hphase start hstart)

/-- A pruning in order takes away what was not used for long enough. -/
theorem prunesInTime_of_inOrder {step : ClockStep} (dated : Dated w) (followed : Followed w)
    (horder : InOrder w step) : PrunesInTime w step := by
  match step with
  | .tick _ => trivial
  | .serve (.arrive _) => trivial
  | .serve (.advance i file ok) =>
    intro phase hphase s hs
    cases phase with
    | pruning req =>
      obtain ⟨⟨fileID, entry⟩, hentry, rfl⟩ := List.mem_map.mp hs
      obtain ⟨hknown, hout⟩ := mem_expired.mp hentry
      obtain ⟨start, hstart⟩ := dated.start_of_get hphase
      obtain ⟨session, hsession, hage⟩ := (Option.any_eq_true _ _).mp hout
      obtain ⟨record, hrecord⟩ := dated.record_of_get hsession
      obtain ⟨hstamps, hawaits⟩ := horder _ hphase start hstart
      have hstamp : record.stamp ≤ start :=
        hstamps _ (Table.mem_entries.mpr hknown) record hrecord
      have hlatest : record.latest ≤ record.stamp := by
        rcases followed _ record hrecord with hle | ⟨j, chunk, hj, howner, -⟩
        · exact hle
        · exact absurd ⟨rfl, record, hrecord, howner⟩
            (hawaits _ hs _ (List.mem_of_getElem? hj))
      have hold : record.stamp + timeoutTime.toNat ≤ start := by
        rw [timeOutMatcher, dated.readings i _ start hphase hstart req rfl,
          dated.stamps _ session record hsession hrecord, decide_eq_true_iff] at hage
        exact elapsed_of_age hstamp (UInt32.le_iff_toNat_le.mp hage)
      exact ⟨start, hstart, record, hrecord, by omega⟩
    | _ => cases hs

/-! ## Runs -/

theorem installedAt_dated (clock : Nat) : Dated (installedAt clock) where
  sound := newUploads_sound
  starts := rfl
  records := rfl
  readings _ _ _ h := by cases h
  stamps s session _ h := by
    rw [installedAt, newUploads, newTracker, Storage.get_empty] at h
    cases h

theorem installedAt_followed (clock : Nat) : Followed (installedAt clock) := by
  intro s record h
  cases h

/-- **Uploads time out in time.** Whatever requests come, whenever they start and in whatever order
they make their steps, under a clock that may wrap in its word: no pruning takes a session away
before 600 seconds went by from the latest request of its own user on it, if the requests stamp and
prune in the order in which they read the clock, and no timed-out session that is pruned waits for
the stamp of a request of its user. -/
theorem prunes_in_time (c : CommonC) (clock : Nat) {steps : List ClockStep}
    (inOrder : (clocked c).Meets InOrder (installedAt clock) steps) :
    (clocked c).Meets PrunesInTime (installedAt clock) steps :=
  (clocked c).meets_of_keeps (I := fun w => Dated w ∧ Followed w)
    (fun _ _ _ inv horder h => ⟨step_dated inv.1 h, step_followed inv.1 inv.2 horder h⟩)
    (fun _ _ inv horder => prunesInTime_of_inOrder inv.1 inv.2 horder)
    ⟨installedAt_dated clock, installedAt_followed clock⟩ inOrder

/-- Steps that request `i` makes with the file there and every operation a success. -/
def serves (i count : Nat) : List ClockStep := (advances i count).map .serve

theorem prunes_in_time_sample :
    (clocked sampleCommonC).Meets PrunesInTime (installedAt 0)
      ([.serve (.arrive (sampleAssignment 0))] ++ serves 0 8 ++
        [.tick 700, .serve (.arrive (sampleAssignment 0))] ++ serves 1 1) :=
  prunes_in_time sampleCommonC 0 (by decide +kernel)

/-- A request reads the clock, and before it prunes, one that started a second later makes a session
and gets its id: the session is taken away at once. -/
theorem young_session_pruned :
    ¬ (clocked sampleCommonC).Meets PrunesInTime (installedAt 1000)
      ([.serve (.arrive (sampleAssignment 0)), .tick 1, .serve (.arrive (sampleAssignment 0))] ++
        serves 1 8 ++ serves 0 1) := by
  decide +kernel

end Zss.Unixfile
