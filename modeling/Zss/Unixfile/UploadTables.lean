import Zss.Unixfile.UploadSessions

/-!
# The two tables of upload sessions

`fileIDsBySessionID` and `sessionsByFileID` are changed one after the other, so they agree only
between assignments and cleanups (`Consistent`). A pruning changes the second alone, and what it
leaves in the first goes on leading somewhere: to a file id that was given back, or to the next
session of the file. `consistent_tables` says when the tables do agree: if no pruning finds a session
that timed out, no session is registered for a file that has one or for the file id that a missing
id is read as, the counter does not come around, and no request goes on with what another has given
back.

The invariant is in two parts: what the tables are to each other at any time (`Tables`), and what
each request knows of them where it stands (`Phase.Holds`).

## What is not established

The condition is enough, not exact. A table operation is one step, as its lock has it; what the lock
itself does is not looked at.
-/

namespace Zss.Unixfile

open Zss.Lib

/-! ## The property -/

/-- The session that an id leads to, as `doChunking` looks it up. -/
def resolve (c : CommonC) (t : UploadSessionTracker) (id : Nat) : Option Addr :=
  ((readFileID c t (t.fileIDsBySessionID.get id)).bind t.sessionsByFileID.get).map Prod.snd

/-- The tables agree, lead to what is in use, and the id of a session that is gone leads nowhere. -/
structure Consistent (c : CommonC) (t : UploadSessionTracker) : Prop where
  exact : ∀ id fileID,
    (∃ key, t.fileIDsBySessionID.get id = some key ∧ t.fileIDs.get key = some fileID) ↔
      ∃ key s session, t.sessionsByFileID.get fileID = some (key, s) ∧
        t.sessions.get s = some session ∧ session.sessionID = some id
  keys : ∀ id key, t.fileIDsBySessionID.get id = some key → t.fileIDs.Live key
  entries : ∀ fileID entry, t.sessionsByFileID.get fileID = some entry →
    t.fileIDs.Live entry.1 ∧ t.sessions.Live entry.2
  ended : ∀ id s, (id, s) ∈ t.issued → ¬ t.sessions.Live s → resolve c t id = none

/-- The request is in the middle of an assignment or of a cleanup. -/
def Phase.midway : Phase → Bool
  | .opening .. => true
  | .tagging .. => true
  | .dropping .. => true
  | .numbering .. => true
  | .forgetting .. => true
  | _ => false

/-- Nothing was read that had been given back, and between assignments and cleanups the tables are
consistent. -/
def TablesConsistent (c : CommonC) (w : Uploads) : Prop :=
  w.undefined = false ∧ ((∀ phase ∈ w.requests, phase.midway = false) → Consistent c w.tracker)

/-- The step of a request finds nothing timed out, registers a session only for a file that has none
and is not the one read for a missing id, issues an id that was not issued before, and reads only
what is in use. -/
def Phase.Orderly (c : CommonC) (t : UploadSessionTracker) : Phase → Prop
  | .pruning req => t.expired req.currUnixTime = []
  | .adding asg => t.sessionsByFileID.get asg.fileID = none ∧ asg.fileID ≠ c.nullFileID
  | .numbering _ _ _ => t.sessionCounter ≤ 2 ^ 32
  | .naming _ _ session => t.sessions.Live session
  | .looking chunk => ∀ key ∈ chunk.key, t.fileIDs.Live key
  | .stamping _ session => t.sessions.Live session
  | .validating _ session => t.sessions.Live session
  | .writing _ session _ => t.sessions.Live session
  | .removing chunk _ => ∀ key ∈ chunk.key, t.fileIDs.Live key
  | _ => True

instance (c : CommonC) (t : UploadSessionTracker) (phase : Phase) :
    Decidable (phase.Orderly c t) := by
  unfold Phase.Orderly
  split <;> infer_instance

/-- The request that moves is orderly. -/
def Orderly (c : CommonC) (w : Uploads) : UploadStep → Prop
  | .arrive _ => True
  | .advance request _ _ => ∀ phase ∈ w.requests[request]?, phase.Orderly c w.tracker

instance (c : CommonC) (w : Uploads) : (step : UploadStep) → Decidable (Orderly c w step)
  | .arrive _ => inferInstanceAs (Decidable True)
  | .advance request _ _ =>
    inferInstanceAs (Decidable (∀ phase ∈ w.requests[request]?, phase.Orderly c w.tracker))

/-! ## The invariant -/

/-- What the tables are to each other. -/
structure Tables (c : CommonC) (t : UploadSessionTracker) : Prop where
  owned : Owned t
  registered : Registered t
  keys : ∀ key fileID, t.fileIDs.get key = some fileID →
    ∃ s, t.sessionsByFileID.get fileID = some (key, s)
  notNull : t.sessionsByFileID.get c.nullFileID = none
  counter : 1 ≤ t.sessionCounter ∧ t.sessionCounter ≤ 2 ^ 32 + 1
  below : ∀ id s, (id, s) ∈ t.issued →
    s < t.sessions.fresh ∧ ∃ n, 1 ≤ n ∧ n < t.sessionCounter ∧ id = n % 2 ^ 32
  once : ∀ id s s', (id, s) ∈ t.issued → (id, s') ∈ t.issued → s = s'
  issued : ∀ id s session, (id, s) ∈ t.issued → t.sessions.get s = some session →
    session.sessionID = some id
  numbered : ∀ id s session, t.sessions.get s = some session → session.sessionID = some id →
    (id, s) ∈ t.issued ∧ ∃ key, t.fileIDsBySessionID.get id = some key ∧
      t.sessionsByFileID.get session.upload = some (key, s)
  known : ∀ id key, t.fileIDsBySessionID.get id = some key →
    key < t.fileIDs.fresh ∧ ∃ s, (id, s) ∈ t.issued
  live : ∀ id key fileID, t.fileIDsBySessionID.get id = some key →
    t.fileIDs.get key = some fileID → ∃ s session, t.sessionsByFileID.get fileID = some (key, s) ∧
      t.sessions.get s = some session ∧ session.sessionID = some id

/-- The session of an assignment that has no id yet. -/
def Phase.assigns : Phase → Option Addr
  | .opening _ _ session => some session
  | .tagging _ _ session => some session
  | .dropping _ _ session _ => some session
  | .numbering _ _ session => some session
  | _ => none

/-- The entry is registered, and its session has no id. -/
def Unnumbered (t : UploadSessionTracker) (asg : Assignment) (key session : Addr) : Prop :=
  t.sessionsByFileID.get asg.fileID = some (key, session) ∧
    ∃ s, t.sessions.get session = some s ∧ s.sessionID = none

/-- The id led to the key, and does so as long as the key is in use. -/
def LedTo (t : UploadSessionTracker) (id : Nat) (key : Addr) : Prop :=
  key < t.fileIDs.fresh ∧ (t.fileIDs.Live key → t.fileIDsBySessionID.get id = some key)

/-- What a request knows of the tables. -/
def Phase.Holds (t : UploadSessionTracker) : Phase → Prop
  | .opening asg key session => Unnumbered t asg key session
  | .tagging asg key session => Unnumbered t asg key session
  | .dropping asg key session _ => Unnumbered t asg key session
  | .numbering asg key session => Unnumbered t asg key session
  | .looking chunk => ∀ key ∈ chunk.key, LedTo t chunk.id key
  | .stamping chunk _ => ∃ key, chunk.key = some key ∧ LedTo t chunk.id key
  | .validating chunk _ => ∃ key, chunk.key = some key ∧ LedTo t chunk.id key
  | .writing chunk _ _ => ∃ key, chunk.key = some key ∧ LedTo t chunk.id key
  | .removing chunk _ => ∃ key, chunk.key = some key ∧ LedTo t chunk.id key
  | .forgetting id _ => (∃ s, (id, s) ∈ t.issued) ∧
    ∀ key, t.fileIDsBySessionID.get id = some key → ¬ t.fileIDs.Live key
  | _ => True

/-- What an orderly run keeps. -/
structure Ordered (c : CommonC) (w : Uploads) : Prop where
  tables : Tables c w.tracker
  defined : w.undefined = false
  holds : ∀ phase ∈ w.requests, phase.Holds w.tracker
  apart : ∀ (i j : Nat) (s : Addr), w.requests[i]?.bind Phase.assigns = some s →
    w.requests[j]?.bind Phase.assigns = some s → i = j
  unnumbered : ∀ s session, w.tracker.sessions.get s = some session → session.sessionID = none →
    ∃ phase ∈ w.requests, phase.assigns = some s
  forgotten : ∀ id key, w.tracker.fileIDsBySessionID.get id = some key →
    ¬ w.tracker.fileIDs.Live key → ∃ reply, .forgetting id reply ∈ w.requests

section

variable {c : CommonC} {t t' : UploadSessionTracker} {w w' : Uploads}

/-- Between assignments and cleanups the invariant is the property. -/
theorem Ordered.consistent (ordered : Ordered c w) : TablesConsistent c w := by
  refine ⟨ordered.defined, fun quiet => ?_⟩
  have tables := ordered.tables
  have inUse : ∀ id key, w.tracker.fileIDsBySessionID.get id = some key →
      w.tracker.fileIDs.Live key := by
    intro id key hkey
    by_contra hdead
    obtain ⟨reply, hmem⟩ := ordered.forgotten id key hkey hdead
    cases quiet _ hmem
  refine ⟨?_, inUse, ?_, ?_⟩
  · intro id fileID
    constructor
    · rintro ⟨key, hkey, hfile⟩
      exact ⟨key, tables.live id key fileID hkey hfile⟩
    · rintro ⟨key, s, session, hentry, hsession, hid⟩
      obtain ⟨-, key', hkey', hentry'⟩ := tables.numbered id s session hsession hid
      obtain ⟨hfile, session', hsession', hupload⟩ := tables.owned fileID (key, s) hentry
      rw [hsession, Option.some.injEq] at hsession'
      subst hsession'
      rw [hupload, hentry, Option.some.injEq, Prod.mk.injEq] at hentry'
      exact ⟨key', hkey', hentry'.1 ▸ hfile⟩
  · intro fileID entry hentry
    obtain ⟨hfile, session, hsession, -⟩ := tables.owned fileID entry hentry
    exact ⟨Storage.live_of_get hfile, Storage.live_of_get hsession⟩
  · intro id s hissued hdead
    cases hkey : w.tracker.fileIDsBySessionID.get id with
    | none =>
      rw [resolve, hkey, readFileID, Option.bind_some, tables.notNull]
      rfl
    | some key =>
      obtain ⟨fileID, hfile⟩ := Storage.live_iff.mp (inUse id key hkey)
      obtain ⟨s', session, -, hsession, hid⟩ := tables.live id key fileID hkey hfile
      obtain ⟨hissued', -⟩ := tables.numbered id s' session hsession hid
      rw [tables.once id s s' hissued hissued'] at hdead
      exact absurd (Storage.live_of_get hsession) hdead

/-! ## Steps that leave the tables alone -/

/-- The tables, and of the sessions their files and ids, are as they were. -/
structure Alike (t t' : UploadSessionTracker) : Prop where
  table : ∀ fileID, t'.sessionsByFileID.get fileID = t.sessionsByFileID.get fileID
  keys : t'.fileIDs = t.fileIDs
  ids : t'.fileIDsBySessionID = t.fileIDsBySessionID
  counter : t'.sessionCounter = t.sessionCounter
  issued : t'.issued = t.issued
  sessions : ∀ s, (t'.sessions.get s).map (fun x => (x.upload, x.sessionID)) =
    (t.sessions.get s).map fun x => (x.upload, x.sessionID)
  fresh : t'.sessions.fresh = t.sessions.fresh

theorem Alike.refl (t : UploadSessionTracker) : Alike t t :=
  ⟨fun _ => rfl, rfl, rfl, rfl, rfl, fun _ => rfl, rfl⟩

variable {s : Addr} {id i : Nat} {phase : Phase}

theorem Alike.session (h : Alike t t') {session : UploadSession}
    (hs : t.sessions.get s = some session) :
    ∃ session', t'.sessions.get s = some session' ∧ session'.upload = session.upload ∧
      session'.sessionID = session.sessionID := by
  have heq := h.sessions s
  rw [hs, Option.map_some, Option.map_eq_some_iff] at heq
  obtain ⟨session', hs', heq⟩ := heq
  exact ⟨session', hs', congrArg Prod.fst heq, congrArg Prod.snd heq⟩

theorem Alike.symm (h : Alike t t') : Alike t' t where
  table f := (h.table f).symm
  keys := h.keys.symm
  ids := h.ids.symm
  counter := h.counter.symm
  issued := h.issued.symm
  sessions s := (h.sessions s).symm
  fresh := h.fresh.symm

theorem modifySession_alike (session : Addr) {f : UploadSession → UploadSession}
    (hf : ∀ s, (f s).upload = s.upload ∧ (f s).sessionID = s.sessionID) :
    Alike t (t.modifySession session f) := by
  refine ⟨fun _ => rfl, rfl, rfl, rfl, rfl, fun s => ?_, Storage.fresh_modify _ _ _⟩
  by_cases hs : s = session
  · subst hs
    rw [UploadSessionTracker.modifySession, Storage.get_modify_self, Option.map_map]
    congr 1
    funext x
    exact Prod.ext (hf x).1 (hf x).2
  · rw [UploadSessionTracker.modifySession, Storage.get_modify_ne _ _ hs]

/-- A pruning that finds nothing timed out. -/
theorem removeSessionTimeOuts_alike {now : UInt32} (h : t.expired now = []) :
    Alike t (t.removeSessionTimeOuts c now) := by
  have hreleased : Released t (t.removeSessionTimeOuts c now) [] := by
    have := removeSessionTimeOuts_released (c := c) (t := t) now
    rwa [h] at this
  refine ⟨fun fileID => ?_, ?_, rfl, rfl, rfl, fun s => ?_, hreleased.fresh⟩
  · ext entry
    rw [hreleased.table]
    simp
  · unfold UploadSessionTracker.removeSessionTimeOuts
    dsimp only
    rw [h]
    split <;> rfl
  · rw [hreleased.sessions]
    rfl

theorem Alike.owned (h : Alike t t') (owned : Owned t) : Owned t' := by
  intro fileID entry hentry
  rw [h.table] at hentry
  obtain ⟨hkey, session, hsession, hupload⟩ := owned fileID entry hentry
  obtain ⟨session', hsession', heq, -⟩ := h.session hsession
  exact ⟨h.keys ▸ hkey, session', hsession', heq.trans hupload⟩

theorem Tables.of_alike (tables : Tables c t) (h : Alike t t') : Tables c t' where
  owned := h.owned tables.owned
  registered s session' hs' := by
    obtain ⟨session, hs, hupload, -⟩ := h.symm.session hs'
    obtain ⟨key, hkey⟩ := tables.registered s session hs
    exact ⟨key, by rw [h.table, ← hupload, hkey]⟩
  keys key fileID hkey := by
    obtain ⟨s, hs⟩ := tables.keys key fileID (h.keys ▸ hkey)
    exact ⟨s, by rw [h.table, hs]⟩
  notNull := by rw [h.table, tables.notNull]
  counter := h.counter ▸ tables.counter
  below id s hmem := by
    rw [h.fresh, h.counter]
    exact tables.below id s (h.issued ▸ hmem)
  once id s s' hs hs' := tables.once id s s' (h.issued ▸ hs) (h.issued ▸ hs')
  issued id s session' hmem hs' := by
    obtain ⟨session, hs, -, hid⟩ := h.symm.session hs'
    exact hid ▸ tables.issued id s session (h.issued ▸ hmem) hs
  numbered id s session' hs' hid' := by
    obtain ⟨session, hs, hupload, hid⟩ := h.symm.session hs'
    obtain ⟨hmem, key, hkey, hentry⟩ := tables.numbered id s session hs (hid.trans hid')
    exact ⟨h.issued ▸ hmem, key, h.ids ▸ hkey, by rw [h.table, ← hupload, hentry]⟩
  known id key hkey := by
    rw [h.keys, h.issued]
    exact tables.known id key (h.ids ▸ hkey)
  live id key fileID hkey hfile := by
    obtain ⟨s, session, hentry, hs, hid⟩ := tables.live id key fileID (h.ids ▸ hkey)
      (h.keys ▸ hfile)
    obtain ⟨session', hs', -, heq⟩ := h.session hs
    exact ⟨s, session', by rw [h.table, hentry], hs', heq.trans hid⟩

theorem Unnumbered.of_alike {asg : Assignment} {key session : Addr}
    (held : Unnumbered t asg key session) (h : Alike t t') : Unnumbered t' asg key session := by
  obtain ⟨hentry, s, hs, hid⟩ := held
  obtain ⟨s', hs', -, heq⟩ := h.session hs
  exact ⟨by rw [h.table, hentry], s', hs', heq.trans hid⟩

theorem LedTo.of_alike {key : Addr} (led : LedTo t id key) (h : Alike t t') : LedTo t' id key := by
  rw [LedTo, h.keys, h.ids]
  exact led

/-- What a request knows, carried over to other tables. -/
theorem Phase.Holds.mono {phase : Phase} (holds : phase.Holds t)
    (hassigned : ∀ asg key session, phase.assigns = some session →
      Unnumbered t asg key session → Unnumbered t' asg key session)
    (hled : ∀ id key, LedTo t id key → LedTo t' id key)
    (hforgets : ∀ id, (∃ s, (id, s) ∈ t.issued) →
      (∀ key, t.fileIDsBySessionID.get id = some key → ¬ t.fileIDs.Live key) →
      (∃ s, (id, s) ∈ t'.issued) ∧
        ∀ key, t'.fileIDsBySessionID.get id = some key → ¬ t'.fileIDs.Live key) :
    phase.Holds t' := by
  cases phase with
  | opening asg key session => exact hassigned asg key session rfl holds
  | tagging asg key session => exact hassigned asg key session rfl holds
  | dropping asg key session reply => exact hassigned asg key session rfl holds
  | numbering asg key session => exact hassigned asg key session rfl holds
  | looking chunk => exact fun key hkey => hled chunk.id key (holds key hkey)
  | stamping chunk session | validating chunk session =>
    obtain ⟨key, hkey, h⟩ := holds
    exact ⟨key, hkey, hled chunk.id key h⟩
  | writing chunk session lastChunk =>
    obtain ⟨key, hkey, h⟩ := holds
    exact ⟨key, hkey, hled chunk.id key h⟩
  | removing chunk reply =>
    obtain ⟨key, hkey, h⟩ := holds
    exact ⟨key, hkey, hled chunk.id key h⟩
  | forgetting id reply => exact hforgets id holds.1 holds.2
  | _ => trivial

theorem Phase.Holds.of_alike (holds : phase.Holds t) (h : Alike t t') : phase.Holds t' := by
  refine holds.mono (fun asg key session _ held => held.of_alike h)
    (fun id key led => led.of_alike h) fun id hissued hdead => ?_
  rw [h.issued, h.ids, h.keys]
  exact ⟨hissued, hdead⟩

/-- The session of an assignment under way is registered and has no id. -/
theorem Phase.Holds.unnumbered (holds : phase.Holds t) {session : Addr}
    (h : phase.assigns = some session) : ∃ asg key, Unnumbered t asg key session := by
  cases phase with
  | opening asg key session =>
    cases h
    exact ⟨asg, key, holds⟩
  | tagging asg key session =>
    cases h
    exact ⟨asg, key, holds⟩
  | dropping asg key session reply =>
    cases h
    exact ⟨asg, key, holds⟩
  | numbering asg key session =>
    cases h
    exact ⟨asg, key, holds⟩
  | _ => cases h

/-! ## A request that moves -/

/-- The invariant after a request has moved, from what the move does to the tables, to the others
and to the request itself. -/
theorem Ordered.of_moved (ordered : Ordered c w) {phase next : Phase}
    (hphase : w.requests[i]? = some phase) (htables : Tables c t)
    (hothers : ∀ (j : Nat) (other : Phase), j ≠ i → w.requests[j]? = some other → other.Holds t)
    (hnext : next.Holds t)
    (hassigns : ∀ s, next.assigns = some s → phase.assigns = some s ∨
      ∀ (j : Nat) (other : Phase), w.requests[j]? = some other → other.assigns ≠ some s)
    (hunnumbered : ∀ s session, t.sessions.get s = some session → session.sessionID = none →
      next.assigns = some s ∨ phase.assigns ≠ some s ∧
        ∃ old, w.tracker.sessions.get s = some old ∧ old.sessionID = none)
    (hforgotten : ∀ id key, t.fileIDsBySessionID.get id = some key → ¬ t.fileIDs.Live key →
      (∃ reply, next = .forgetting id reply) ∨ (∀ reply, phase ≠ .forgetting id reply) ∧
        w.tracker.fileIDsBySessionID.get id = some key ∧ ¬ w.tracker.fileIDs.Live key) :
    Ordered c ⟨t, w.requests.set i next, false⟩ where
  tables := htables
  defined := rfl
  holds q hq := by
    obtain ⟨j, hj⟩ := List.mem_iff_getElem?.mp hq
    by_cases hij : i = j
    · subst hij
      rw [List.getElem?_set_self (List.getElem?_eq_some_iff.mp hphase).1, Option.some.injEq] at hj
      exact hj ▸ hnext
    · rw [List.getElem?_set_ne hij] at hj
      exact hothers j q (Ne.symm hij) hj
  apart j k s hj hk := by
    have hmoved : ∀ j, (w.requests.set i next)[j]?.bind Phase.assigns = some s →
        (j = i ∧ next.assigns = some s) ∨
        (j ≠ i ∧ w.requests[j]?.bind Phase.assigns = some s) := by
      intro j hj
      by_cases hij : i = j
      · subst hij
        rw [List.getElem?_set_self (List.getElem?_eq_some_iff.mp hphase).1, Option.bind_some] at hj
        exact .inl ⟨rfl, hj⟩
      · rw [List.getElem?_set_ne hij] at hj
        exact .inr ⟨Ne.symm hij, hj⟩
    have hself : ∀ k, next.assigns = some s → k ≠ i →
        w.requests[k]?.bind Phase.assigns = some s → False := by
      intro k hn hki hk
      rcases hassigns s hn with hold | hnew
      · exact hki (ordered.apart k i s hk (by rw [hphase, Option.bind_some, hold]))
      · obtain ⟨other, hother, hs⟩ := Option.bind_eq_some_iff.mp hk
        exact hnew k other hother hs
    rcases hmoved j hj with ⟨hji, hn⟩ | ⟨hji, hold⟩
    · rcases hmoved k hk with ⟨hki, -⟩ | ⟨hki, hold⟩
      · exact hji.trans hki.symm
      · exact (hself k hn hki hold).elim
    · rcases hmoved k hk with ⟨-, hn⟩ | ⟨-, hold'⟩
      · exact (hself j hn hji hold).elim
      · exact ordered.apart j k s hold hold'
  unnumbered s session hs hid := by
    rcases hunnumbered s session hs hid with hn | ⟨hp, old, hold, hoid⟩
    · exact ⟨next, List.mem_iff_getElem?.mpr
        ⟨i, List.getElem?_set_self (List.getElem?_eq_some_iff.mp hphase).1⟩, hn⟩
    · obtain ⟨other, hother, hs'⟩ := ordered.unnumbered s old hold hoid
      have hne : other ≠ phase := by
        rintro rfl
        exact hp hs'
      exact ⟨other, mem_set_of_ne hphase hother hne, hs'⟩
  forgotten id key hkey hdead := by
    rcases hforgotten id key hkey hdead with ⟨reply, rfl⟩ | ⟨hp, hold, hdead'⟩
    · exact ⟨reply, List.mem_iff_getElem?.mpr
        ⟨i, List.getElem?_set_self (List.getElem?_eq_some_iff.mp hphase).1⟩⟩
    · obtain ⟨reply, hmem⟩ := ordered.forgotten id key hold hdead'
      exact ⟨reply, mem_set_of_ne hphase hmem (Ne.symm (hp reply))⟩

/-- A move that leaves the tables alone. -/
theorem Ordered.of_alike (ordered : Ordered c w) {phase next : Phase}
    (hphase : w.requests[i]? = some phase) (h : Alike w.tracker t) (hnext : next.Holds t)
    (hassigns : next.assigns = phase.assigns)
    (hforgets : ∀ id reply, phase ≠ .forgetting id reply) :
    Ordered c ⟨t, w.requests.set i next, false⟩ := by
  refine ordered.of_moved hphase (ordered.tables.of_alike h)
    (fun j other _ hj => (ordered.holds other (List.mem_of_getElem? hj)).of_alike h) hnext
    (fun s hs => .inl (hassigns ▸ hs)) ?_ ?_
  · intro s session hs hid
    by_cases hp : phase.assigns = some s
    · exact .inl (hassigns.trans hp)
    · obtain ⟨old, hold, -, heq⟩ := h.symm.session hs
      exact .inr ⟨hp, old, hold, heq.trans hid⟩
  · intro id key hkey hdead
    rw [h.ids] at hkey
    rw [h.keys] at hdead
    exact .inr ⟨hforgets id, hkey, hdead⟩

/-! ## Registering a session -/

section

variable {asg : Assignment}

theorem addedTracker_table (hnew : t.sessionsByFileID.get asg.fileID = none) :
    (addedTracker t asg).sessionsByFileID =
      t.sessionsByFileID.put asg.fileID (t.fileIDs.fresh, t.sessions.fresh) := by
  show t.sessionsByFileID.put asg.fileID
    (((t.sessionsByFileID.get asg.fileID).map Prod.fst).getD _, _) = _
  rw [hnew, Option.map_none, Option.getD_none]

/-- An entry of another file is not touched. -/
theorem addedTracker_entry (hnew : t.sessionsByFileID.get asg.fileID = none) {fileID : FileID}
    {entry : Addr × Addr} (h : t.sessionsByFileID.get fileID = some entry) :
    (addedTracker t asg).sessionsByFileID.get fileID = some entry := by
  rw [addedTracker_table hnew]
  refine (Table.get_put_ne _ _ ?_).trans h
  rintro rfl
  rw [hnew] at h
  cases h

theorem addedTracker_old {session : UploadSession} (h : t.sessions.get s = some session) :
    (addedTracker t asg).sessions.get s = some session := by
  rw [addedTracker_session, if_neg (Storage.ne_fresh_of_live (Storage.live_of_get h)), h]

theorem addedTracker_key {key : Addr} (h : key < t.fileIDs.fresh) :
    (addedTracker t asg).fileIDs.get key = t.fileIDs.get key :=
  Storage.get_obtain_ne _ _ (Nat.ne_of_lt h)

theorem addedTracker_keyLive {key : Addr} (h : key < t.fileIDs.fresh) :
    (addedTracker t asg).fileIDs.Live key ↔ t.fileIDs.Live key := by
  rw [Storage.Live, addedTracker_key h, Storage.Live]

theorem addedTracker_unnumbered (hnew : t.sessionsByFileID.get asg.fileID = none) :
    Unnumbered (addedTracker t asg) asg t.fileIDs.fresh t.sessions.fresh := by
  refine ⟨?_, newSession asg, by rw [addedTracker_session, if_pos rfl], rfl⟩
  rw [addedTracker_table hnew]
  exact Table.get_put_self _ _ _

theorem Tables.of_added (tables : Tables c t) (hnew : t.sessionsByFileID.get asg.fileID = none)
    (hnull : asg.fileID ≠ c.nullFileID) : Tables c (addedTracker t asg) where
  owned := tables.owned.of_added asg
  registered := tables.registered.of_added hnew
  keys key fileID hkey := by
    by_cases hk : key = t.fileIDs.fresh
    · subst hk
      have hfile : (addedTracker t asg).fileIDs.get t.fileIDs.fresh = some asg.fileID :=
        Storage.get_obtain_fresh _ _
      rw [hfile, Option.some.injEq] at hkey
      exact ⟨_, hkey ▸ (addedTracker_unnumbered hnew).1⟩
    · have hold : t.fileIDs.get key = some fileID := (Storage.get_obtain_ne _ _ hk).symm.trans hkey
      obtain ⟨s, hs⟩ := tables.keys key fileID hold
      exact ⟨s, addedTracker_entry hnew hs⟩
  notNull := by
    rw [addedTracker_table hnew]
    exact (Table.get_put_ne _ _ (Ne.symm hnull)).trans tables.notNull
  counter := tables.counter
  below id s hmem := by
    obtain ⟨hlt, hn⟩ := tables.below id s hmem
    exact ⟨by rw [addedTracker_fresh]; exact Nat.lt_succ_of_lt hlt, hn⟩
  once := tables.once
  issued id s session hmem hs := by
    rw [addedTracker_session, if_neg (Nat.ne_of_lt (tables.below id s hmem).1)] at hs
    exact tables.issued id s session hmem hs
  numbered id s session hs hid := by
    rw [addedTracker_session] at hs
    split at hs
    next =>
      cases hs
      cases hid
    next =>
      obtain ⟨hmem, key, hkey, hentry⟩ := tables.numbered id s session hs hid
      exact ⟨hmem, key, hkey, addedTracker_entry hnew hentry⟩
  known id key hkey := by
    obtain ⟨hlt, hissued⟩ := tables.known id key hkey
    refine ⟨?_, hissued⟩
    show key < (t.fileIDs.obtain asg.fileID).fresh
    rw [Storage.fresh_obtain]
    exact Nat.lt_succ_of_lt hlt
  live id key fileID hkey hfile := by
    rw [addedTracker_key (tables.known id key hkey).1] at hfile
    obtain ⟨s, session, hentry, hs, hid⟩ := tables.live id key fileID hkey hfile
    exact ⟨s, session, addedTracker_entry hnew hentry, addedTracker_old hs, hid⟩

theorem Ordered.of_added (ordered : Ordered c w) (hphase : w.requests[i]? = some (.adding asg))
    (hnew : w.tracker.sessionsByFileID.get asg.fileID = none) (hnull : asg.fileID ≠ c.nullFileID) :
    Ordered c ⟨addedTracker w.tracker asg, w.requests.set i
      (.opening asg w.tracker.fileIDs.fresh w.tracker.sessions.fresh), false⟩ := by
  have tables := ordered.tables
  refine ordered.of_moved hphase (tables.of_added hnew hnull) ?_ (addedTracker_unnumbered hnew)
    ?_ ?_ ?_
  · intro j other _ hj
    refine (ordered.holds other (List.mem_of_getElem? hj)).mono ?_ ?_ ?_
    · rintro asg' key session - ⟨hentry, s, hs, hid⟩
      exact ⟨addedTracker_entry hnew hentry, s, addedTracker_old hs, hid⟩
    · rintro id key ⟨hlt, hled⟩
      refine ⟨?_, fun hlive => hled ((addedTracker_keyLive hlt).mp hlive)⟩
      show key < (w.tracker.fileIDs.obtain asg.fileID).fresh
      rw [Storage.fresh_obtain]
      exact Nat.lt_succ_of_lt hlt
    · intro id hissued hdead
      refine ⟨hissued, fun key hkey hlive => hdead key hkey ?_⟩
      exact (addedTracker_keyLive (tables.known id key hkey).1).mp hlive
  · intro s hs
    refine .inr fun j other hj hassigns => ?_
    obtain ⟨asg', key, -, session, hsession, -⟩ :=
      (ordered.holds other (List.mem_of_getElem? hj)).unnumbered hassigns
    cases hs
    exact Storage.ne_fresh_of_live (Storage.live_of_get hsession) rfl
  · intro s session hs hid
    rw [addedTracker_session] at hs
    split at hs
    next heq => exact .inl (by rw [heq]; rfl)
    next => exact .inr ⟨nofun, session, hs, hid⟩
  · intro id key hkey hdead
    refine .inr ⟨nofun, hkey, fun hlive => hdead ?_⟩
    exact (addedTracker_keyLive (tables.known id key hkey).1).mpr hlive

end

/-! ## Issuing an id -/

section

variable {asg : Assignment} {key session : Addr}

/-- A counter that has not come around stands for an id that was not issued. -/
theorem Tables.unissued (tables : Tables c t) (hc : t.sessionCounter ≤ 2 ^ 32) (s : Addr) :
    (t.sessionCounter % 2 ^ 32, s) ∉ t.issued := by
  intro hmem
  obtain ⟨-, n, hpos, hlt, heq⟩ := tables.below _ s hmem
  omega

theorem addSessionID_self {old : UploadSession} (h : t.sessions.get session = some old) :
    (t.addSessionID key session).sessions.get session =
      some { old with sessionID := some (t.sessionCounter % 2 ^ 32) } := by
  rw [UploadSessionTracker.addSessionID, Storage.get_modify_self, h, Option.map_some]

theorem addSessionID_other (hne : s ≠ session) :
    (t.addSessionID key session).sessions.get s = t.sessions.get s :=
  Storage.get_modify_ne _ _ hne

theorem addSessionID_id (hne : id ≠ t.sessionCounter % 2 ^ 32) :
    (t.addSessionID key session).fileIDsBySessionID.get id = t.fileIDsBySessionID.get id :=
  Table.get_put_ne _ _ hne

theorem addSessionID_new :
    (t.addSessionID key session).fileIDsBySessionID.get (t.sessionCounter % 2 ^ 32) = some key :=
  Table.get_put_self _ _ _

theorem mem_addSessionID :
    (id, s) ∈ (t.addSessionID key session).issued ↔
      (id = t.sessionCounter % 2 ^ 32 ∧ s = session) ∨ (id, s) ∈ t.issued := by
  show (id, s) ∈ (_, session) :: t.issued ↔ _
  rw [List.mem_cons, Prod.mk.injEq]

/-- An id that leads somewhere is not the next one. -/
theorem Tables.ne_next (tables : Tables c t) (hc : t.sessionCounter ≤ 2 ^ 32) {k : Addr}
    (h : t.fileIDsBySessionID.get id = some k) : id ≠ t.sessionCounter % 2 ^ 32 := by
  rintro rfl
  obtain ⟨-, s, hs⟩ := tables.known _ k h
  exact tables.unissued hc s hs

theorem Tables.of_numbered (tables : Tables c t) (hc : t.sessionCounter ≤ 2 ^ 32)
    (held : Unnumbered t asg key session) : Tables c (t.addSessionID key session) := by
  obtain ⟨hentry, old, hold, hnone⟩ := held
  obtain ⟨hfile, old', hold', hupload⟩ := tables.owned asg.fileID (key, session) hentry
  rw [hold, Option.some.injEq] at hold'
  subst hold'
  have hkept := addSessionID_kept (t := t) key session
  have unissued : ∀ id, (id, session) ∉ t.issued := by
    intro id hmem
    have := tables.issued id session old hmem hold
    rw [hnone] at this
    cases this
  refine ⟨tables.owned.of_kept hkept, tables.registered.of_kept hkept, tables.keys,
    tables.notNull, ?_, ?_, ?_, ?_, ?_, ?_, ?_⟩
  · exact ⟨Nat.le_add_left 1 _, Nat.succ_le_succ hc⟩
  · intro id s hmem
    rw [hkept.fresh]
    rcases mem_addSessionID.mp hmem with ⟨rfl, rfl⟩ | hmem
    · exact ⟨Storage.lt_fresh_of_live (Storage.live_of_get hold), _, tables.counter.1,
        Nat.lt_succ_self _, rfl⟩
    · obtain ⟨hlt, n, hpos, hn, rfl⟩ := tables.below id s hmem
      exact ⟨hlt, n, hpos, Nat.lt_succ_of_lt hn, rfl⟩
  · intro id s s' hs hs'
    rcases mem_addSessionID.mp hs with ⟨hid, rfl⟩ | hmem
    · rcases mem_addSessionID.mp hs' with ⟨-, rfl⟩ | hmem'
      · rfl
      · exact absurd (hid ▸ hmem') (tables.unissued hc s')
    · rcases mem_addSessionID.mp hs' with ⟨hid, -⟩ | hmem'
      · exact absurd (hid ▸ hmem) (tables.unissued hc s)
      · exact tables.once id s s' hmem hmem'
  · intro id s session' hmem hs
    rcases mem_addSessionID.mp hmem with ⟨rfl, rfl⟩ | hmem'
    · rw [addSessionID_self hold, Option.some.injEq] at hs
      rw [← hs]
    · have hne : s ≠ session := by
        rintro rfl
        exact unissued id hmem'
      rw [addSessionID_other hne] at hs
      exact tables.issued id s session' hmem' hs
  · intro id s session' hs hid
    by_cases hne : s = session
    · subst hne
      rw [addSessionID_self hold, Option.some.injEq] at hs
      subst hs
      cases hid
      exact ⟨mem_addSessionID.mpr (.inl ⟨rfl, rfl⟩), key, addSessionID_new, hupload ▸ hentry⟩
    · rw [addSessionID_other hne] at hs
      obtain ⟨hmem, k, hk, hentry'⟩ := tables.numbered id s session' hs hid
      refine ⟨mem_addSessionID.mpr (.inr hmem), k, ?_, hentry'⟩
      rw [addSessionID_id (tables.ne_next hc hk), hk]
  · intro id k hk
    by_cases hid : id = t.sessionCounter % 2 ^ 32
    · subst hid
      rw [addSessionID_new, Option.some.injEq] at hk
      subst hk
      exact ⟨Storage.lt_fresh_of_live (Storage.live_of_get hfile), session,
        mem_addSessionID.mpr (.inl ⟨rfl, rfl⟩)⟩
    · rw [addSessionID_id hid] at hk
      obtain ⟨hlt, s, hs⟩ := tables.known id k hk
      exact ⟨hlt, s, mem_addSessionID.mpr (.inr hs)⟩
  · intro id k fileID hk hkf
    by_cases hid : id = t.sessionCounter % 2 ^ 32
    · subst hid
      rw [addSessionID_new, Option.some.injEq] at hk
      subst hk
      have hkf' : t.fileIDs.get key = some fileID := hkf
      rw [hfile, Option.some.injEq] at hkf'
      subst hkf'
      exact ⟨session, _, hentry, addSessionID_self hold, rfl⟩
    · rw [addSessionID_id hid] at hk
      obtain ⟨s, session', hentry', hs, hsid⟩ := tables.live id k fileID hk hkf
      have hne : s ≠ session := by
        rintro rfl
        rw [hold, Option.some.injEq] at hs
        rw [← hs, hnone] at hsid
        cases hsid
      exact ⟨s, session', hentry', by rw [addSessionID_other hne, hs], hsid⟩

theorem Ordered.of_numbered (ordered : Ordered c w)
    (hphase : w.requests[i]? = some (.numbering asg key session))
    (hc : w.tracker.sessionCounter ≤ 2 ^ 32) :
    Ordered c ⟨w.tracker.addSessionID key session,
      w.requests.set i (.naming asg key session), false⟩ := by
  have tables := ordered.tables
  have held : Unnumbered w.tracker asg key session :=
    ordered.holds _ (List.mem_of_getElem? hphase)
  have ⟨_, old, hold, _⟩ := held
  refine ordered.of_moved hphase (tables.of_numbered hc held) ?_ trivial nofun ?_ ?_
  · intro j other hji hj
    refine (ordered.holds other (List.mem_of_getElem? hj)).mono ?_ ?_ ?_
    · rintro asg' key' s hs ⟨hentry', session', hsession', hid⟩
      have hne : s ≠ session := by
        rintro rfl
        exact hji (ordered.apart j i s (by rw [hj]; exact hs) (by rw [hphase]; rfl))
      exact ⟨hentry', session', by rw [addSessionID_other hne, hsession'], hid⟩
    · rintro id k ⟨hlt, hled⟩
      refine ⟨hlt, fun hlive => ?_⟩
      rw [addSessionID_id (tables.ne_next hc (hled hlive)), hled hlive]
    · rintro id ⟨s, hs⟩ hdead
      refine ⟨⟨s, mem_addSessionID.mpr (.inr hs)⟩, fun k hk => ?_⟩
      have hid : id ≠ w.tracker.sessionCounter % 2 ^ 32 := by
        rintro rfl
        exact tables.unissued hc s hs
      rw [addSessionID_id hid] at hk
      exact hdead k hk
  · intro s session' hs hid
    have hne : s ≠ session := by
      rintro rfl
      rw [addSessionID_self hold, Option.some.injEq] at hs
      rw [← hs] at hid
      cases hid
    rw [addSessionID_other hne] at hs
    exact .inr ⟨fun h => hne (Option.some.inj h).symm, session', hs, hid⟩
  · intro id k hk hdead
    by_cases hid : id = w.tracker.sessionCounter % 2 ^ 32
    · subst hid
      rw [addSessionID_new, Option.some.injEq] at hk
      subst hk
      exact absurd (Storage.live_of_get (tables.owned _ _ held.1).1) hdead
    · rw [addSessionID_id hid] at hk
      exact .inr ⟨nofun, hk, hdead⟩

end

/-! ## Removing an entry, and an id -/

section

variable {fileID : FileID} {key session : Addr}

/-- The tables without an entry. -/
theorem removeFromTable_eq (hentry : t.sessionsByFileID.get fileID = some (key, session)) :
    t.removeFromTable fileID = { t with
      sessionsByFileID := t.sessionsByFileID.remove fileID
      fileIDs := t.fileIDs.release key
      sessions := t.sessions.release session } := by
  rw [UploadSessionTracker.removeFromTable, hentry]

theorem removeFromTable_key (hentry : t.sessionsByFileID.get fileID = some (key, session))
    {k : Addr} {f : FileID} (h : (t.removeFromTable fileID).fileIDs.get k = some f) :
    k ≠ key ∧ t.fileIDs.get k = some f := by
  rw [removeFromTable_eq hentry] at h
  have hne : k ≠ key := by
    rintro rfl
    rw [Storage.get_release_self] at h
    cases h
  rw [Storage.get_release_ne _ hne] at h
  exact ⟨hne, h⟩

theorem removeFromTable_session (hentry : t.sessionsByFileID.get fileID = some (key, session))
    {x : UploadSession} (h : (t.removeFromTable fileID).sessions.get s = some x) :
    s ≠ session ∧ t.sessions.get s = some x := by
  rw [removeFromTable_eq hentry] at h
  have hne : s ≠ session := by
    rintro rfl
    rw [Storage.get_release_self] at h
    cases h
  rw [Storage.get_release_ne _ hne] at h
  exact ⟨hne, h⟩

theorem removeFromTable_session_ne (hentry : t.sessionsByFileID.get fileID = some (key, session))
    (hne : s ≠ session) : (t.removeFromTable fileID).sessions.get s = t.sessions.get s := by
  rw [removeFromTable_eq hentry]
  exact Storage.get_release_ne _ hne

/-- An entry with another session is still there. -/
theorem removeFromTable_entry (hentry : t.sessionsByFileID.get fileID = some (key, session))
    {f : FileID} {k s : Addr} (hne : s ≠ session ∨ k ≠ key)
    (h : t.sessionsByFileID.get f = some (k, s)) :
    (t.removeFromTable fileID).sessionsByFileID.get f = some (k, s) := by
  rw [removeFromTable_eq hentry]
  refine (Table.get_remove_ne _ ?_).trans h
  rintro rfl
  rw [hentry, Option.some.injEq, Prod.mk.injEq] at h
  rcases hne with hne | hne
  · exact hne h.2.symm
  · exact hne h.1.symm

theorem removeFromTable_ids (hentry : t.sessionsByFileID.get fileID = some (key, session)) :
    (t.removeFromTable fileID).fileIDsBySessionID = t.fileIDsBySessionID ∧
      (t.removeFromTable fileID).sessionCounter = t.sessionCounter ∧
      (t.removeFromTable fileID).issued = t.issued ∧
      (t.removeFromTable fileID).fileIDs.fresh = t.fileIDs.fresh ∧
      (t.removeFromTable fileID).sessions.fresh = t.sessions.fresh := by
  rw [removeFromTable_eq hentry]
  exact ⟨rfl, rfl, rfl, Storage.fresh_release _ _, Storage.fresh_release _ _⟩

theorem Tables.of_removed (tables : Tables c t)
    (hentry : t.sessionsByFileID.get fileID = some (key, session)) :
    Tables c (t.removeFromTable fileID) := by
  have hreleased := removeFromTable_released tables.owned fileID
  obtain ⟨ids, counter, issued, keysFresh, sessionsFresh⟩ := removeFromTable_ids hentry
  refine ⟨tables.owned.of_released hreleased, tables.registered.of_released hreleased,
    ?_, ?_, ?_, ?_, ?_, ?_, ?_, ?_, ?_⟩
  · intro k f hk
    obtain ⟨hne, hold⟩ := removeFromTable_key hentry hk
    obtain ⟨s, hs⟩ := tables.keys k f hold
    exact ⟨s, removeFromTable_entry hentry (.inr hne) hs⟩
  · cases hnull : (t.removeFromTable fileID).sessionsByFileID.get c.nullFileID with
    | none => rfl
    | some entry =>
      have hold := ((hreleased.table _ _).mp hnull).1
      rw [tables.notNull] at hold
      cases hold
  · exact counter ▸ tables.counter
  · intro id s hmem
    rw [sessionsFresh, counter]
    exact tables.below id s (issued ▸ hmem)
  · intro id s s' hs hs'
    exact tables.once id s s' (issued ▸ hs) (issued ▸ hs')
  · intro id s x hmem hs
    exact tables.issued id s x (issued ▸ hmem) (removeFromTable_session hentry hs).2
  · intro id s x hs hid
    obtain ⟨hne, hold⟩ := removeFromTable_session hentry hs
    obtain ⟨hmem, k, hk, hentry'⟩ := tables.numbered id s x hold hid
    exact ⟨issued ▸ hmem, k, ids ▸ hk, removeFromTable_entry hentry (.inl hne) hentry'⟩
  · intro id k hk
    rw [keysFresh, issued]
    exact tables.known id k (ids ▸ hk)
  · intro id k f hk hkf
    obtain ⟨hne, hold⟩ := removeFromTable_key hentry hkf
    obtain ⟨s, x, hentry', hs, hid⟩ := tables.live id k f (ids ▸ hk) hold
    have hsne : s ≠ session := by
      rintro rfl
      have := tables.owned.entry_eq hentry' hentry (.inl rfl)
      exact hne (congrArg Prod.fst this)
    exact ⟨s, x, removeFromTable_entry hentry (.inl hsne) hentry',
      by rw [removeFromTable_session_ne hentry hsne, hs], hid⟩

/-- A request that removes an entry: that of its own session without an id, or that its id led
to. -/
theorem Ordered.of_removed (ordered : Ordered c w) {phase next : Phase}
    (hphase : w.requests[i]? = some phase)
    (hentry : w.tracker.sessionsByFileID.get fileID = some (key, session))
    (hnext : next.Holds (w.tracker.removeFromTable fileID)) (hassigns : next.assigns = none)
    (hforgets : ∀ id reply, phase ≠ .forgetting id reply)
    (hother : ∀ j other, j ≠ i → w.requests[j]? = some other → other.assigns ≠ some session)
    (hown : ∀ s, phase.assigns = some s → s = session)
    (hids : ∀ id, w.tracker.fileIDsBySessionID.get id = some key →
      ∃ reply, next = .forgetting id reply) :
    Ordered c ⟨w.tracker.removeFromTable fileID, w.requests.set i next, false⟩ := by
  have tables := ordered.tables
  obtain ⟨ids, -, issued, keysFresh, -⟩ := removeFromTable_ids hentry
  have live : ∀ k, (w.tracker.removeFromTable fileID).fileIDs.Live k →
      k ≠ key ∧ w.tracker.fileIDs.Live k := by
    intro k hk
    obtain ⟨f, hf⟩ := Storage.live_iff.mp hk
    obtain ⟨hne, hold⟩ := removeFromTable_key hentry hf
    exact ⟨hne, Storage.live_of_get hold⟩
  refine ordered.of_moved hphase (tables.of_removed hentry) ?_ hnext
    (fun s hs => by rw [hassigns] at hs; cases hs) ?_ ?_
  · intro j other hji hj
    refine (ordered.holds other (List.mem_of_getElem? hj)).mono ?_ ?_ ?_
    · rintro asg' key' s hs ⟨hentry', x, hx, hid⟩
      have hne : s ≠ session := by
        rintro rfl
        exact hother j other hji hj hs
      exact ⟨removeFromTable_entry hentry (.inl hne) hentry', x,
        by rw [removeFromTable_session_ne hentry hne, hx], hid⟩
    · rintro id k ⟨hlt, hled⟩
      rw [LedTo, keysFresh, ids]
      exact ⟨hlt, fun hlive => hled (live k hlive).2⟩
    · intro id hissued hdead
      rw [issued, ids]
      exact ⟨hissued, fun k hk hlive => hdead k hk (live k hlive).2⟩
  · intro s x hs hid
    obtain ⟨hne, hold⟩ := removeFromTable_session hentry hs
    exact .inr ⟨fun h => hne (hown s h), x, hold, hid⟩
  · intro id k hk hdead
    rw [ids] at hk
    by_cases hkey : k = key
    · exact .inl (hids id (hkey ▸ hk))
    · refine .inr ⟨hforgets id, hk, fun hlive => hdead ?_⟩
      obtain ⟨f, hf⟩ := Storage.live_iff.mp hlive
      rw [removeFromTable_eq hentry]
      exact (Storage.live_release_ne hkey).mpr hlive

end

theorem Tables.of_forgotten (tables : Tables c t)
    (hdead : ∀ key, t.fileIDsBySessionID.get id = some key → ¬ t.fileIDs.Live key) :
    Tables c { t with fileIDsBySessionID := t.fileIDsBySessionID.remove id } :=
  { tables with
    numbered := fun id' s session hs hid => by
      obtain ⟨hmem, key, hkey, hentry⟩ := tables.numbered id' s session hs hid
      refine ⟨hmem, key, Table.get_remove_iff.mpr ⟨?_, hkey⟩, hentry⟩
      rintro rfl
      exact hdead key hkey (Storage.live_of_get (tables.owned _ _ hentry).1)
    known := fun id' key hkey => tables.known id' key (Table.get_remove_iff.mp hkey).2
    live := fun id' key fileID hkey => tables.live id' key fileID (Table.get_remove_iff.mp hkey).2 }

theorem Ordered.of_forgotten (ordered : Ordered c w) {reply : Reply}
    (hphase : w.requests[i]? = some (.forgetting id reply)) :
    Ordered c ⟨{ w.tracker with
      fileIDsBySessionID := w.tracker.fileIDsBySessionID.remove id },
      w.requests.set i (.done reply), false⟩ := by
  obtain ⟨-, hdead⟩ := ordered.holds _ (List.mem_of_getElem? hphase)
  refine ordered.of_moved hphase (ordered.tables.of_forgotten hdead) ?_ trivial nofun ?_ ?_
  · intro j other _ hj
    refine (ordered.holds other (List.mem_of_getElem? hj)).mono (fun _ _ _ _ held => held) ?_ ?_
    · rintro id' key ⟨hlt, hled⟩
      refine ⟨hlt, fun hlive => Table.get_remove_iff.mpr ⟨?_, hled hlive⟩⟩
      rintro rfl
      exact hdead key (hled hlive) hlive
    · intro id' hissued hdead'
      exact ⟨hissued, fun key hkey => hdead' key (Table.get_remove_iff.mp hkey).2⟩
  · exact fun s session hs hid => .inr ⟨nofun, session, hs, hid⟩
  · intro id' key hkey hnot
    obtain ⟨hne, hold⟩ := Table.get_remove_iff.mp hkey
    refine .inr ⟨fun reply' heq => ?_, hold, hnot⟩
    cases heq
    exact hne rfl

/-! ## Runs -/

theorem useSession_defined {session : Addr} (hlive : t.sessions.Live session)
    {g : UploadSession → UploadSessionTracker} {next : UploadSession → Phase} :
    useSession t session (fun s => .moved (g s) (next s)) ≠ .undefined := by
  obtain ⟨s, hs⟩ := Storage.live_iff.mp hlive
  rw [useSession, hs, Option.map_some, Option.getD_some]
  exact Effect.noConfusion

theorem readFileID_defined {key : Option Addr} (h : ∀ k ∈ key, t.fileIDs.Live k) :
    readFileID c t key ≠ none := by
  cases key with
  | none => exact Option.some_ne_none _
  | some k =>
    obtain ⟨fileID, hf⟩ := Storage.live_iff.mp (h k rfl)
    rw [readFileID, hf]
    exact Option.some_ne_none _

/-- An orderly step reads only what is in use. -/
theorem Phase.step_defined (tables : Tables c t) (holds : phase.Holds t)
    (orderly : phase.Orderly c t) (file : FileOutcome) (ok : Bool) :
    phase.step c t file ok ≠ .undefined := by
  cases phase with
  | tagging asg key session =>
    obtain ⟨-, s, hs, -⟩ := holds
    rw [Phase.step]
    split
    next => exact Effect.noConfusion
    next => exact useSession_defined (Storage.live_of_get hs)
  | dropping asg key session reply =>
    obtain ⟨hentry, -⟩ := holds
    rw [Phase.step, (tables.owned _ _ hentry).1]
    exact Effect.noConfusion
  | numbering asg key session =>
    obtain ⟨-, s, hs, -⟩ := holds
    rw [Phase.step]
    exact useSession_defined (Storage.live_of_get hs)
  | naming asg key session =>
    rw [Phase.step]
    exact useSession_defined orderly
  | looking chunk =>
    rw [Phase.step]
    split
    next hnone => exact absurd hnone (readFileID_defined orderly)
    next => exact Effect.noConfusion
  | stamping chunk session | validating chunk session =>
    rw [Phase.step]
    exact useSession_defined orderly
  | writing chunk session lastChunk =>
    rw [Phase.step]
    exact useSession_defined orderly
  | removing chunk reply =>
    rw [Phase.step]
    split
    next hnone => exact absurd hnone (readFileID_defined orderly)
    next => exact Effect.noConfusion
  | _ => exact Effect.noConfusion

theorem Ordered.of_arrived (ordered : Ordered c w) (req : PutRequest) :
    Ordered c { w with requests := w.requests ++ [.pruning req] } where
  tables := ordered.tables
  defined := ordered.defined
  holds q hq := by
    rcases List.mem_append.mp hq with hq | hq
    · exact ordered.holds q hq
    · rw [List.mem_singleton.mp hq]
      trivial
  apart j k s hj hk := by
    have hold : ∀ j : Nat, (w.requests ++ [.pruning req])[j]?.bind Phase.assigns = some s →
        w.requests[j]?.bind Phase.assigns = some s := by
      intro j hj
      obtain ⟨q, hq, hs⟩ := Option.bind_eq_some_iff.mp hj
      by_cases hlt : j < w.requests.length
      · rw [List.getElem?_append_left hlt] at hq
        rw [hq, Option.bind_some, hs]
      · rw [List.getElem?_append_right (Nat.not_lt.mp hlt)] at hq
        rw [List.mem_singleton.mp (List.mem_of_getElem? hq)] at hs
        cases hs
    exact ordered.apart j k s (hold j hj) (hold k hk)
  unnumbered s session hs hid := by
    obtain ⟨q, hq, hassigns⟩ := ordered.unnumbered s session hs hid
    exact ⟨q, List.mem_append_left _ hq, hassigns⟩
  forgotten id key hkey hdead := by
    obtain ⟨reply, hmem⟩ := ordered.forgotten id key hkey hdead
    exact ⟨reply, List.mem_append_left _ hmem⟩

/-- A failed assignment takes its own session away. -/
theorem Ordered.of_dropped (ordered : Ordered c w) {asg : Assignment} {key session : Addr}
    {reply : Reply} (hphase : w.requests[i]? = some (.dropping asg key session reply)) :
    Ordered c ⟨w.tracker.removeFromTable asg.fileID, w.requests.set i (.done reply), false⟩ := by
  have held : Unnumbered w.tracker asg key session :=
    ordered.holds _ (List.mem_of_getElem? hphase)
  obtain ⟨hentry, old, hold, hnone⟩ := held
  refine ordered.of_removed hphase hentry trivial rfl nofun ?_ ?_ ?_
  · intro j other hji hj hs
    exact hji (ordered.apart j i session (by rw [hj]; exact hs) (by rw [hphase]; rfl))
  · intro s hs
    exact (Option.some.inj hs).symm
  · intro id hid
    obtain ⟨s, x, hentry', hx, hxid⟩ := ordered.tables.live id key asg.fileID hid
      (ordered.tables.owned _ _ hentry).1
    rw [hentry, Option.some.injEq, Prod.mk.injEq] at hentry'
    rw [← hentry'.2, hold, Option.some.injEq] at hx
    rw [← hx, hnone] at hxid
    cases hxid

/-- A cleanup takes the session away that the request's id leads to. -/
theorem Ordered.of_cleaned (ordered : Ordered c w) {chunk : Chunk} {reply : Reply} {key : Addr}
    {fileID : FileID} (hphase : w.requests[i]? = some (.removing chunk reply))
    (hkey : chunk.key = some key) (hfile : w.tracker.fileIDs.get key = some fileID) :
    Ordered c ⟨w.tracker.removeFromTable fileID,
      w.requests.set i (.forgetting chunk.id reply), false⟩ := by
  have tables := ordered.tables
  obtain ⟨k, hk, hled⟩ : ∃ k, chunk.key = some k ∧ LedTo w.tracker chunk.id k :=
    ordered.holds _ (List.mem_of_getElem? hphase)
  rw [hkey, Option.some.injEq] at hk
  subst hk
  have hid := hled.2 (Storage.live_of_get hfile)
  obtain ⟨s, x, hentry, hx, hxid⟩ := tables.live chunk.id key fileID hid hfile
  obtain ⟨ids, -, issued, -, -⟩ := removeFromTable_ids hentry
  refine ordered.of_removed hphase hentry ?_ rfl nofun ?_ nofun ?_
  · refine ⟨issued ▸ (tables.known chunk.id key hid).2, fun k hk hlive => ?_⟩
    rw [ids, hid, Option.some.injEq] at hk
    obtain ⟨f, hf⟩ := Storage.live_iff.mp hlive
    exact (removeFromTable_key hentry hf).1 hk.symm
  · intro j other _ hj hs
    obtain ⟨asg', key', -, y, hy, hnone⟩ :=
      (ordered.holds other (List.mem_of_getElem? hj)).unnumbered hs
    rw [hx, Option.some.injEq] at hy
    rw [← hy, hxid] at hnone
    cases hnone
  · intro id' hid'
    obtain ⟨s', x', hentry', hx', hxid'⟩ := tables.live id' key fileID hid' hfile
    rw [hentry, Option.some.injEq, Prod.mk.injEq] at hentry'
    rw [← hentry'.2, hx, Option.some.injEq] at hx'
    rw [← hx', hxid, Option.some.injEq] at hxid'
    exact ⟨reply, hxid' ▸ rfl⟩

theorem step_ordered {step : UploadStep} (ordered : Ordered c w) (hc : Orderly c w step)
    (h : (uploads c).step w step = some w') : Ordered c w' := by
  rcases uploads_step h with ⟨req, rfl, rfl⟩ | ⟨i, file, ok, phase, rfl, hphase, hundef, rfl⟩ |
    ⟨i, file, ok, phase, t, next, rfl, hphase, hmoved, rfl⟩
  · exact ordered.of_arrived req
  · exact absurd hundef (Phase.step_defined ordered.tables
      (ordered.holds phase (List.mem_of_getElem? hphase)) (hc phase hphase) file ok)
  · have orderly := hc phase hphase
    have holds := ordered.holds phase (List.mem_of_getElem? hphase)
    have tables := ordered.tables
    cases Phase.stepped hmoved with
    | assigns | continues =>
      exact ordered.of_alike hphase (removeSessionTimeOuts_alike orderly) trivial rfl nofun
    | added => exact ordered.of_added hphase orderly.1 orderly.2
    | @tagged asg key session =>
      have alike := modifySession_alike (t := w.tracker) session
        (f := fun s => { s with file := some asg.fileID }) fun _ => ⟨rfl, rfl⟩
      exact ordered.of_alike hphase alike (Unnumbered.of_alike holds alike) rfl nofun
    | @dropped asg key session reply fileID hkey =>
      rw [(tables.owned _ _ holds.1).1, Option.some.injEq] at hkey
      exact hkey ▸ ordered.of_dropped hphase
    | numbered => exact ordered.of_numbered hphase orderly
    | named =>
      exact ordered.of_alike hphase (modifySession_alike _ fun _ => ⟨rfl, rfl⟩) trivial rfl nofun
    | @resolved req id =>
      refine ordered.of_alike hphase (Alike.refl _) (fun key hkey => ?_) rfl nofun
      exact ⟨(tables.known id key hkey).1, fun _ => hkey⟩
    | @found chunk fileID key session hfile hentry =>
      refine ordered.of_alike hphase (Alike.refl _) ?_ rfl nofun
      cases hkey : chunk.key with
      | none =>
        rw [hkey, readFileID, Option.some.injEq] at hfile
        rw [← hfile, tables.notNull] at hentry
        cases hentry
      | some key => exact ⟨key, hkey, holds key hkey⟩
    | @stamped chunk session =>
      have alike := modifySession_alike (t := w.tracker) session
        (f := fun s => { s with timeOfLastRequest := chunk.req.currUnixTime }) fun _ => ⟨rfl, rfl⟩
      obtain ⟨key, hkey, hled⟩ := holds
      exact ordered.of_alike hphase alike ⟨key, hkey, hled.of_alike alike⟩ rfl nofun
    | removed hfile =>
      obtain ⟨key, hkey, -⟩ := holds
      rw [hkey, readFileID] at hfile
      exact ordered.of_cleaned hphase hkey hfile
    | forgotten => exact ordered.of_forgotten hphase
    | opened | busy | untaggable | valid | ended =>
      exact ordered.of_alike hphase (Alike.refl _) holds rfl nofun
    | noEncoding | noFile | prepared | duplicate | unique | unknown | otherUser | noLastChunk
    | wrote =>
      exact ordered.of_alike hphase (Alike.refl _) trivial rfl nofun

end

theorem newTracker_tables {c : CommonC} : Tables c newTracker where
  owned := newUploads_sound.owned
  registered := newUploads_registered
  keys key fileID hkey := by
    rw [newTracker, Storage.get_empty] at hkey
    cases hkey
  notNull := Table.get_empty _
  counter := ⟨Nat.le_refl 1, by decide⟩
  below _ _ hmem := by cases hmem
  once _ _ _ hmem := by cases hmem
  issued _ _ _ hmem := by cases hmem
  numbered id s session hs := by
    rw [newTracker, Storage.get_empty] at hs
    cases hs
  known id key hkey := by
    rw [newTracker, Table.get_empty] at hkey
    cases hkey
  live id key fileID hkey := by
    rw [newTracker, Table.get_empty] at hkey
    cases hkey

theorem newUploads_ordered {c : CommonC} : Ordered c newUploads where
  tables := newTracker_tables
  defined := rfl
  holds _ hq := by cases hq
  apart _ _ _ hj := by cases hj
  unnumbered s session hs := by
    rw [newUploads, newTracker, Storage.get_empty] at hs
    cases hs
  forgotten _ _ hkey := by cases hkey

/-- **The two tables agree.** Under any requests in any order of their steps, if every step is
orderly, nothing is read that was given back; and whenever no request is in the middle of an
assignment or a cleanup, an id leads to a file id exactly if the session registered for it has that
id, all that the tables lead to is in use, and the id of a session that is gone leads nowhere. -/
theorem consistent_tables {c : CommonC} {steps : List UploadStep} {v : Uploads}
    (meets : (uploads c).Meets (Orderly c) newUploads steps)
    (visits : (uploads c).Visits newUploads steps v) : TablesConsistent c v :=
  ((uploads c).visits_keeps (fun _ _ _ ordered hc h => step_ordered ordered hc h)
    newUploads_ordered meets visits).consistent

/-! ## A session that timed out -/

/-- A chunk for a session. -/
def sampleChunk (id : Nat) (lastChunk : Text) : PutRequest :=
  { sampleAssignment 1 with sessionID := some id, lastChunk := some lastChunk, contentLength := 4 }

/-- A session is assigned, gets its only chunk, and another session of the file follows. -/
def sampleUpload : List UploadStep :=
  [.arrive (sampleAssignment 0)] ++ advances 0 8 ++
    [.arrive (sampleChunk 1 ['T', 'R', 'U', 'E'])] ++ advances 1 8 ++
    [.arrive (sampleAssignment 2)] ++ advances 2 8

theorem consistent_tables_sample :
    ∃ v, (uploads sampleCommonC).run newUploads sampleUpload = some v ∧
      TablesConsistent sampleCommonC v := by
  refine ⟨_, rfl, ?_⟩
  exact @consistent_tables sampleCommonC sampleUpload _ (by decide +kernel)
    ((uploads sampleCommonC).visits_of_run rfl)

/-- A session times out, and another is assigned for its file: the id of the first leads to a file
id that was given back, or, if pruning does not give keys back, to the second session. -/
theorem expired_id_leads_on :
    (∃ v, (uploads sampleCommonC).run newUploads ([.arrive (sampleAssignment 0)] ++ advances 0 8 ++
        [.arrive (sampleAssignment 600)] ++ advances 1 8) = some v ∧
      ¬ TablesConsistent sampleCommonC v) ∧
    ∃ v, (uploads { sampleCommonC with pruneFreesKeys := false }).run newUploads
        ([.arrive (sampleAssignment 0)] ++ advances 0 8 ++
          [.arrive (sampleAssignment 600)] ++ advances 1 8) = some v ∧
      resolve { sampleCommonC with pruneFreesKeys := false } v.tracker 1 =
        resolve { sampleCommonC with pruneFreesKeys := false } v.tracker 2 ∧
      ¬ TablesConsistent { sampleCommonC with pruneFreesKeys := false } v := by
  refine ⟨⟨_, rfl, ?_⟩, _, rfl, by decide +kernel, ?_⟩
  · rintro ⟨-, h⟩
    have consistent := h (by decide +kernel)
    exact absurd (consistent.keys 1 0 (by decide +kernel)) (by decide +kernel)
  · rintro ⟨-, h⟩
    have consistent := h (by decide +kernel)
    exact absurd (consistent.ended 1 0 (by decide +kernel) (by decide +kernel)) (by decide +kernel)

end Zss.Unixfile
