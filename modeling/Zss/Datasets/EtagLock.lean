import Zss.Datasets.Faithful

/-!
# The etag lock of a data set

An update that is not forced must carry the etag of what the data set contains. The etag is that of
the bytes of the records, one after the other: it does not see where a record ends, and not whether
there are empty ones. So the lock holds of data sets whose records have one length, and of no others
that can be updated (`locked_iff`). An update returns the etag of the bytes it gave to `fwrite`; where
it has not found the DSCB it does not pad them, and the data set of fixed-length records contains
other bytes than that.

## What is not established

The digest is taken to be injective. An update is looked at by itself, and nothing is said of two at
a time.
-/

namespace Zss.Datasets

open Zss.Lib

section

variable (hash : Bytes → Bytes) (hex : Bytes → Text) (D : Dataset)

/-! ## The property -/

/-- A run of a program while the data set has certain contents. -/
def FaithfulRun (contents : List Bytes) {α : Type} (p : Handler α) (events : Trace) (a : α) : Prop :=
  p.Runs events a ∧ ∀ e ∈ events, Faithful hash hex D contents e

/-- A read of the contents has sent the etag. -/
def Streamed (path : Text) (contents : List Bytes) (e : Text) : Prop :=
  ∃ events, FaithfulRun hash hex D contents (respondWithDataset path) events () ∧
    e ∈ etagsSent events

/-- The etag was computed again from the contents. -/
def Recomputed (path : Text) (contents : List Bytes) (e : Text) : Prop :=
  ∃ ddPath events lrecl events',
    FaithfulRun hash hex D contents
      (getLreclOrRespondError (extractDatasetAndMemberName path).dsn ddPath) events lrecl ∧
    lrecl ≠ 0 ∧ FaithfulRun hash hex D contents (getDatasetETag ddPath lrecl) events' (some e)

/-- An update that left the contents has sent the etag. -/
def Returned (path : Text) (contents : List Bytes) (e : Text) : Prop :=
  ∃ before, D.Fits before ∧ ∃ records lastEtag force events,
    FaithfulRun hash hex D before (updateDatasetWithJSON path records lastEtag force) events () ∧
    contents = recordsLeft D events ∧ e ∈ etagsSent events

/-- The lock. An update that is not forced opens the data set for writing only with the etag of its
contents, which was sent for no other contents; and the etags sent or computed for the same contents
are the same. -/
structure Locked (path : Text) : Prop where
  own : ∀ contents, D.Fits contents → ∀ records e events,
    FaithfulRun hash hex D contents (updateDatasetWithJSON path records (some e) false) events () →
    events.any opensForWriting = true → ∀ e', Streamed hash hex D path contents e' → e' = e
  only : ∀ contents, D.Fits contents → ∀ records e events,
    FaithfulRun hash hex D contents (updateDatasetWithJSON path records (some e) false) events () →
    events.any opensForWriting = true → ∀ contents', D.Fits contents' →
    Streamed hash hex D path contents' e ∨ Returned hash hex D path contents' e →
    contents' = contents
  agree : ∀ contents, D.Fits contents → ∀ e, Streamed hash hex D path contents e →
    (∀ e', Recomputed hash hex D path contents e' → e' = e) ∧
      ∀ e', Returned hash hex D path contents e' → e' = e

/-- If the data set can be read and updated at all, its records have one length, and the update has
seen so, or the length is one byte. -/
def Lockable (path : Text) : Prop :=
  isDatasetPathValid path = true → D.lrecl (extractDatasetAndMemberName path).dsn ≠ 0 →
    ∀ type, D.recordType (extractDatasetAndMemberName path).dsn = some type →
      D.fixed = true ∧ (type.isFixed = true ∨ D.capacity = 1)

end

section

variable {hash : Bytes → Bytes} {hex : Bytes → Text} {D : Dataset} {contents : List Bytes}

/-! ## What an update shows -/

/-- What is seen of an update: when it opens the data set, and from which bytes its etag is. -/
structure UpdateSeen (hash : Bytes → Bytes) (hex : Bytes → Text) (D : Dataset) (dsn : Text)
    (opens : Prop) (events : Trace) : Prop where
  opened : events.any opensForWriting = true → opens
  sent : ∀ e ∈ etagsSent events, ∃ type, D.recordType dsn = some type ∧
    (∀ bytes ∈ events.filterMap bytesWritten, WrittenFrom D type bytes) ∧
    e = etagOf hash hex (events.filterMap bytesWritten).flatten

variable {dsn : Text} {opens opens' : Prop} {events events' : Trace}

theorem UpdateSeen.of_quiet (quiet : Quiet events) : UpdateSeen hash hex D dsn opens events where
  opened h := by
    rw [quiet.any_opens] at h
    cases h
  sent e he := by
    rw [quiet.etagsSent] at he
    cases he

theorem UpdateSeen.quiet_append (quiet : Quiet events)
    (seen : UpdateSeen hash hex D dsn opens events') :
    UpdateSeen hash hex D dsn opens (events ++ events') where
  opened h := by
    rw [List.any_append, quiet.any_opens, Bool.false_or] at h
    exact seen.opened h
  sent e he := by
    rw [etagsSent, List.filterMap_append] at he
    rw [List.filterMap_append, quiet.bytesWritten, List.nil_append]
    exact seen.sent e (by rwa [← etagsSent, quiet.etagsSent, List.nil_append] at he)

theorem UpdateSeen.append_quiet (seen : UpdateSeen hash hex D dsn opens events)
    (quiet : Quiet events') : UpdateSeen hash hex D dsn opens (events ++ events') where
  opened h := by
    rw [List.any_append, quiet.any_opens, Bool.or_false] at h
    exact seen.opened h
  sent e he := by
    rw [etagsSent, List.filterMap_append] at he
    rw [List.filterMap_append, quiet.bytesWritten, List.append_nil]
    refine seen.sent e ?_
    rwa [← etagsSent, ← etagsSent, quiet.etagsSent, List.append_nil] at he

theorem UpdateSeen.mono (seen : UpdateSeen hash hex D dsn opens events) (h : opens → opens') :
    UpdateSeen hash hex D dsn opens' events :=
  ⟨fun ho => h (seen.opened ho), seen.sent⟩

/-- A silent program, then one whose effects are seen. -/
theorem Silent.seen_bind {α β : Type} {p : Handler α} {k : α → Handler β} {mid : α → Prop}
    (hp : Silent hash hex D contents p mid)
    (hk : ∀ a, mid a → (k a).Ensures (Faithful hash hex D contents) fun events _ =>
      UpdateSeen hash hex D dsn opens events) :
    (p >>= k).Ensures (Faithful hash hex D contents) fun events _ =>
      UpdateSeen hash hex D dsn opens events :=
  Program.Ensures.bind_of hp fun _ a ⟨quiet, hmid⟩ =>
    (hk a hmid).mono fun _ _ seen => .quiet_append quiet seen

theorem Silent.seen {α : Type} {p : Handler α} {post : α → Prop}
    (h : Silent hash hex D contents p post) :
    p.Ensures (Faithful hash hex D contents) fun events _ =>
      UpdateSeen hash hex D dsn opens events :=
  Program.Ensures.mono h fun _ _ ⟨quiet, _⟩ => .of_quiet quiet

variable {type : RecordType} {recordArray : List JsonItem}

/-- Records are written, and a response is sent with the etag of their bytes. -/
theorem UpdateSeen.of_written {written quietly : Trace} {response : Response} {datasetPath : Text}
    {rc : Int} (hopens : opens) (hrecord : D.recordType dsn = some type)
    (hetags : etagsSent written = [])
    (hall : ∀ bytes ∈ written.filterMap bytesWritten, WrittenFrom D type bytes)
    (quiet : Quiet quietly)
    (h : ∀ e, response.etag = some e →
      e = etagOf hash hex (written.filterMap bytesWritten).flatten) :
    UpdateSeen hash hex D dsn opens
      (written ++ (quietly ++ [⟨.respond response, ()⟩, ⟨.fclose datasetPath, rc⟩])) where
  opened _ := hopens
  sent e he := by
    have hbytes : (written ++ (quietly ++ ([⟨.respond response, ()⟩, ⟨.fclose datasetPath, rc⟩] :
        Trace))).filterMap bytesWritten = written.filterMap bytesWritten := by
      rw [List.filterMap_append, List.filterMap_append, quiet.bytesWritten, List.nil_append]
      exact List.append_nil _
    rw [etagsSent, List.filterMap_append, List.filterMap_append, ← etagsSent, ← etagsSent, hetags,
      quiet.etagsSent, List.nil_append, List.nil_append] at he
    obtain ⟨event, hevent, hsent⟩ := List.mem_filterMap.mp he
    rw [hbytes]
    refine ⟨type, hrecord, hall, h e ?_⟩
    rcases List.mem_cons.mp hevent with rfl | hevent
    · exact hsent
    · rw [List.mem_singleton.mp hevent] at hsent
      cases hsent

/-- **The writing part of an update.** Its etag is that of the bytes it has written. -/
theorem writeDataset_ensures {dsn : Text} (datasetPath : Text)
    (hrecord : D.recordType dsn = some type) (records : List Bytes) :
    (writeDataset datasetPath type records).Ensures (Faithful hash hex D contents) fun events _ =>
      UpdateSeen hash hex D dsn (D.recordType dsn ≠ none) events := by
  have hopens : D.recordType dsn ≠ none := by
    rw [hrecord]
    exact Option.some_ne_none type
  refine .ask_bind fun opened _ => ?_
  -- the data set is opened here; the rest is seen as if it were not
  suffices h : Program.Ensures (Faithful hash hex D contents) _ fun events _ =>
      UpdateSeen hash hex D dsn (D.recordType dsn ≠ none) events from
    h.mono fun events _ seen => ⟨fun _ => hopens, seen.sent⟩
  cases opened with
  | false => exact (respondWithError_silent _ _).seen
  | true =>
    refine (Silent.skip fun _ => ⟨rfl, rfl, rfl⟩).seen_bind fun rcEtag _ => ?_
    refine .bind_of (writeRecords_ensures datasetPath type records _) ?_
    rintro written loop ⟨hetags, hopened, hall, hrc, hdigested⟩
    refine .bind_of (finishDigest_silent _ _) fun finishing finished ⟨quiet, hfinished⟩ => ?_
    refine .bind_of (printEtag_silent finished) fun printing etag ⟨quiet', hetag⟩ => ?_
    refine .ask_bind fun _ _ => .ask_bind fun _ _ => .ret ?_
    rw [← List.append_assoc finishing]
    refine .of_written hopens hrecord hetags hall (quiet.append quiet') (fun e he => ?_)
    obtain ⟨hzero, heq⟩ := etag_of_finished hfinished hetag he
    rw [heq, hdigested (hrc ▸ hzero), List.nil_append]

theorem updateDatasetWithJSONInternal_ensures (datasetPath dsn : Text)
    (recordArray : List JsonItem) :
    (updateDatasetWithJSONInternal datasetPath dsn recordArray).Ensures
      (Faithful hash hex D contents) fun events _ =>
        UpdateSeen hash hex D dsn (D.recordType dsn ≠ none) events := by
  refine (checkDatasetType_silent datasetPath dsn).seen_bind fun type htype => ?_
  cases type with
  | none => exact (Silent.ret trivial : Silent _ _ _ _ _ fun _ => True).seen
  | some type =>
    dsimp only
    split
    next => exact (respondWithError_silent _ _).seen
    next records _ => exact writeDataset_ensures datasetPath (htype type rfl) records

/-- **The update of an allocated data set.** Not forced, it opens the data set only if that can be
read, and with the etag of what it contains. -/
theorem updateAllocated_ensures {datasetPath ddPath : Text} {name : DatasetAndMember}
    {lastEtag : Option Text} {force : Bool} (hfits : force = false → D.Fits contents) :
    (updateAllocated datasetPath name ddPath recordArray lastEtag force).Ensures
      (Faithful hash hex D contents) fun events _ =>
        UpdateSeen hash hex D name.dsn (D.recordType name.dsn ≠ none ∧ (force = false →
          D.lrecl name.dsn ≠ 0 ∧ lastEtag = some (etagOf hash hex contents.flatten))) events := by
  unfold updateAllocated
  split
  next hforce =>
    refine (updateDatasetWithJSONInternal_ensures _ _ _).mono fun events _ seen => seen.mono ?_
    intro hopens
    refine ⟨hopens, fun h => ?_⟩
    rw [h] at hforce
    cases hforce
  next hforce =>
    have hunforced := eq_false_of_ne_true hforce
    refine (getLreclOrRespondError_silent name.dsn ddPath).seen_bind fun lrecl hlrecl => ?_
    split
    next => exact (Silent.ret trivial : Silent _ _ _ _ _ fun _ => True).seen
    next hne =>
      have hread := hlrecl hne
      have hsize : D.capacity ≤ lrecl := by
        rw [hread]
        exact Dataset.capacity_le_lrecl (hread ▸ hne)
      refine (getDatasetETag_silent (hfits hunforced) hne hsize).seen_bind fun eTag heTag => ?_
      cases eTag with
      | none => exact (respondWithError_silent _ _).seen
      | some eTag =>
        dsimp only
        split
        next => exact (respondWithError_silent _ _).seen
        next heq =>
          refine (updateDatasetWithJSONInternal_ensures _ _ _).mono fun events _ seen =>
            seen.mono fun hopens => ⟨hopens, fun _ => ⟨hread ▸ hne, ?_⟩⟩
          rw [← Classical.not_not.mp heq, heTag eTag rfl]

theorem updateDatasetWithJSON_ensures {datasetPath : Text} {lastEtag : Option Text} {force : Bool}
    (hfits : force = false → D.Fits contents) :
    (updateDatasetWithJSON datasetPath recordArray lastEtag force).Ensures
      (Faithful hash hex D contents) fun events _ =>
        UpdateSeen hash hex D (extractDatasetAndMemberName datasetPath).dsn
          (isDatasetPathValid datasetPath = true ∧
            D.recordType (extractDatasetAndMemberName datasetPath).dsn ≠ none ∧
            (force = false → D.lrecl (extractDatasetAndMemberName datasetPath).dsn ≠ 0 ∧
              lastEtag = some (etagOf hash hex contents.flatten))) events := by
  unfold updateDatasetWithJSON
  split
  next => exact (respondWithError_silent _ _).seen
  next hvalid =>
    split
    next => exact (respondWithError_silent _ _).seen
    next =>
      refine (Silent.skip fun _ => ⟨rfl, rfl, rfl⟩).seen_bind fun da _ => ?_
      dsimp only
      split
      next => exact (respondWithError_silent _ _).seen
      next =>
        refine .bind_of (updateAllocated_ensures hfits) fun events _ seen => ?_
        refine .ask_bind fun _ _ => .ret (.append_quiet (seen.mono fun hopens => ?_) ?_)
        · rw [Bool.not_eq_true, Bool.not_eq_false'] at hvalid
          exact ⟨hvalid, hopens⟩
        · exact quiet_cons rfl rfl rfl quiet_nil

/-- The etags of a run's responses are of a kind. -/
def Sends (kind : Text → Prop) (events : Trace) : Prop := ∀ e ∈ etagsSent events, kind e

theorem Sends.of_quiet {kind : Text → Prop} (quiet : Quiet events) : Sends kind events := by
  intro e he
  rw [quiet.etagsSent] at he
  cases he

theorem Sends.append {kind : Text → Prop} (h : Sends kind events) (h' : Sends kind events') :
    Sends kind (events ++ events') := by
  intro e he
  rw [etagsSent, List.filterMap_append] at he
  exact (List.mem_append.mp he).elim (h e) (h' e)

theorem Silent.sends {α : Type} {p : Handler α} {post : α → Prop} {kind : Text → Prop}
    (h : Silent hash hex D contents p post) :
    p.Ensures (Faithful hash hex D contents) fun events _ => Sends kind events :=
  Program.Ensures.mono h fun _ _ ⟨quiet, _⟩ => .of_quiet quiet

theorem respondWithDatasetInternal_ensures (dsn ddName : Text) (hfits : D.Fits contents) :
    (respondWithDatasetInternal dsn ddName).Ensures (Faithful hash hex D contents) fun events _ =>
      Sends (fun e => D.lrecl dsn ≠ 0 ∧ e = etagOf hash hex contents.flatten) events := by
  refine .bind_of (getLreclOrRespondError_silent _ _) fun reading lrecl ⟨quiet, hlrecl⟩ => ?_
  split
  next => exact .ret (.append (.of_quiet quiet) (.of_quiet quiet_nil))
  next hne =>
    have hread := hlrecl hne
    have hsize : D.capacity ≤ lrecl := by
      rw [hread]
      exact Dataset.capacity_le_lrecl (hread ▸ hne)
    refine .bind_of (streamDataset_silent hfits hne hsize) ?_
    rintro streaming streamed ⟨quiet', -, hetag⟩
    refine .ask fun _ _ => .append (.of_quiet quiet) (.append (.of_quiet quiet') ?_)
    intro e he
    obtain ⟨event, hevent, hsent⟩ := List.mem_filterMap.mp he
    rw [List.mem_singleton.mp hevent] at hsent
    exact ⟨hread ▸ hne, hetag e hsent⟩

/-- **The read service.** The etag it sends is that of the bytes of the records. -/
theorem respondWithDataset_ensures (path : Text) (hfits : D.Fits contents) :
    (respondWithDataset path).Ensures (Faithful hash hex D contents) fun events _ =>
      Sends (fun e => isDatasetPathValid path = true ∧
        D.lrecl (extractDatasetAndMemberName path).dsn ≠ 0 ∧
          e = etagOf hash hex contents.flatten) events := by
  unfold respondWithDataset
  split
  next => exact (respondWithError_silent _ _).sends
  next hvalid =>
    rw [Bool.not_eq_true, Bool.not_eq_false'] at hvalid
    refine .ask_bind fun da _ => ?_
    have hquiet : Quiet [⟨_, da⟩] := quiet_cons rfl rfl rfl quiet_nil
    dsimp only
    split
    next =>
      exact (respondWithError_silent _ _).sends.mono fun _ _ h => (Sends.of_quiet hquiet).append h
    next =>
      refine .bind_of (respondWithDatasetInternal_ensures _ _ hfits) fun events _ h => ?_
      have hsent : Sends (fun e => isDatasetPathValid path = true ∧
          D.lrecl (extractDatasetAndMemberName path).dsn ≠ 0 ∧
            e = etagOf hash hex contents.flatten) events := fun e he => ⟨hvalid, h e he⟩
      refine .ask_bind fun _ _ => .ret ((Sends.of_quiet hquiet).append (hsent.append (.of_quiet ?_)))
      exact quiet_cons rfl rfl rfl quiet_nil

/-! ## The etags -/

variable {path : Text} {e : Text}

theorem Streamed.eq (hfits : D.Fits contents) (h : Streamed hash hex D path contents e) :
    isDatasetPathValid path = true ∧ D.lrecl (extractDatasetAndMemberName path).dsn ≠ 0 ∧
      e = etagOf hash hex contents.flatten := by
  obtain ⟨events, ⟨runs, faithful⟩, hsent⟩ := h
  exact (respondWithDataset_ensures path hfits).of_runs runs faithful e hsent

theorem Recomputed.eq (hfits : D.Fits contents) (h : Recomputed hash hex D path contents e) :
    e = etagOf hash hex contents.flatten := by
  obtain ⟨ddPath, events, lrecl, events', ⟨runs, faithful⟩, hne, runs', faithful'⟩ := h
  have hread := ((getLreclOrRespondError_silent _ ddPath).of_runs runs faithful).2 hne
  have hsize : D.capacity ≤ lrecl := by
    rw [hread]
    exact Dataset.capacity_le_lrecl (hread ▸ hne)
  exact ((getDatasetETag_silent hfits hne hsize).of_runs runs' faithful').2 e rfl

/-- An etag returned is that of the bytes written, of which the contents are made. -/
theorem Returned.eq (h : Returned hash hex D path contents e) :
    ∃ (type : RecordType) (bytes : List Bytes),
      D.recordType (extractDatasetAndMemberName path).dsn = some type ∧
      (∀ b ∈ bytes, WrittenFrom D type b) ∧ contents = bytes.map D.stored ∧
        e = etagOf hash hex bytes.flatten := by
  obtain ⟨before, hbefore, records, lastEtag, force, events, ⟨runs, faithful⟩, hcontents, hsent⟩ := h
  have seen := (updateDatasetWithJSON_ensures fun _ => hbefore).of_runs runs faithful
  obtain ⟨type, htype, hwritten, he⟩ := seen.sent e hsent
  exact ⟨type, _, htype, hwritten, hcontents, he⟩

/-- Where the update has seen that records have one length, or that is one byte, it writes whole
records. -/
theorem WrittenFrom.full {dsn : Text} {type : RecordType} {bytes : Bytes}
    (h : WrittenFrom D type bytes) (htype : D.recordType dsn = some type)
    (hwhole : type.isFixed = true ∨ D.capacity = 1) : bytes.length = D.capacity := by
  obtain ⟨record, hlength⟩ := h
  have hnonempty : 1 ≤ (if record = [] then [blank] else record).length := by
    split
    next => exact Nat.le_refl 1
    next hne => exact List.length_pos_iff.mpr hne
  rw [hlength, printRecord]
  rcases hwhole with hfixed | hone
  · rw [if_pos hfixed, List.length_append, List.length_replicate,
      (Dataset.maxRecordLength_of_isFixed htype hfixed).2]
    omega
  · rw [hone]
    refine Nat.min_eq_right ?_
    split
    next =>
      rw [List.length_append]
      omega
    next => exact hnonempty

/-- Contents that were written whole, or whose records take any length, are what was written. -/
theorem map_stored_of_lockable (h : Lockable D path) (hvalid : isDatasetPathValid path = true)
    (hread : D.lrecl (extractDatasetAndMemberName path).dsn ≠ 0)
    (htype : D.recordType (extractDatasetAndMemberName path).dsn = some type) {bytes : List Bytes}
    (hwritten : ∀ b ∈ bytes, WrittenFrom D type b) : bytes.map D.stored = bytes := by
  have hwhole := (h hvalid hread type htype).2
  refine (List.map_congr_left fun b hb => ?_).trans (List.map_id bytes)
  exact Dataset.stored_of_full ((hwritten b hb).full htype hwhole)

/-- The lock holds of data sets that it can hold of. -/
theorem locked_of_lockable (hash_injective : Function.Injective hash)
    (hex_injective : Function.Injective hex) (h : Lockable D path) : Locked hash hex D path := by
  have bytes_eq {b b' : Bytes} (heq : etagOf hash hex b = etagOf hash hex b') : b = b' :=
    hash_injective (hex_injective heq)
  refine ⟨?_, ?_, ?_⟩
  · rintro contents hfits records e events ⟨runs, faithful⟩ hopens e' hstreamed
    have seen := (updateDatasetWithJSON_ensures fun _ => hfits).of_runs runs faithful
    obtain ⟨-, -, hunforced⟩ := seen.opened hopens
    rw [(hstreamed.eq hfits).2.2, Option.some.inj (hunforced rfl).2]
  · rintro contents hfits records e events ⟨runs, faithful⟩ hopens contents' hfits' hissued
    have seen := (updateDatasetWithJSON_ensures fun _ => hfits).of_runs runs faithful
    obtain ⟨hvalid, htype, hunforced⟩ := seen.opened hopens
    obtain ⟨hread, he⟩ := hunforced rfl
    obtain ⟨type, htype⟩ := Option.ne_none_iff_exists'.mp htype
    have hfixed := (h hvalid hread type htype).1
    refine Dataset.eq_of_flatten_eq hfixed (Dataset.capacity_pos hfixed hread) hfits' hfits ?_
    refine bytes_eq ?_
    rw [← Option.some.inj he]
    rcases hissued with hstreamed | hreturned
    · exact (hstreamed.eq hfits').2.2.symm
    · obtain ⟨type', bytes, htype', hwritten, rfl, he'⟩ := hreturned.eq
      rw [map_stored_of_lockable h hvalid hread htype' hwritten]
      exact he'.symm
  · intro contents hfits e hstreamed
    obtain ⟨hvalid, hread, rfl⟩ := hstreamed.eq hfits
    refine ⟨fun e' hrecomputed => hrecomputed.eq hfits, fun e' hreturned => ?_⟩
    obtain ⟨type, bytes, htype, hwritten, rfl, he'⟩ := hreturned.eq
    rw [map_stored_of_lockable h hvalid hread htype hwritten]
    exact he'

/-! ## Runs that break the lock -/

/-- A world in which everything succeeds that can. -/
def answers (hash : Bytes → Bytes) (hex : Bytes → Text) (D : Dataset) (contents : List Bytes) :
    (c : Call) → c.Answer
  | .returnEntries _ => D.entries
  | .obtainDSCB1 _ _ => D.dscb
  | .fopen _ _ => true
  | .fldata _ => D.info
  | .fread _ _ size => contents.map fun r => ⟨r.take size, false⟩
  | .fwrite _ buffer => ⟨min buffer.length D.capacity, false⟩
  | .fclose _ => 0
  | .icsfDigestInit => 0
  | .icsfDigestUpdate _ => 0
  | .icsfDigestFinish digested => ⟨0, hash digested⟩
  | .simpleHexPrint bytes => hex bytes
  | .stray => ⟨1, [0]⟩
  | c => c.anyAnswer

theorem faithful_answers (c : Call) :
    Faithful hash hex D contents ⟨c, answers hash hex D contents c⟩ := by
  cases c with
  | fopen => exact fun _ => rfl
  | fread => exact fun _ => rfl
  | icsfDigestFinish => exact fun _ => rfl
  | returnEntries => exact rfl
  | obtainDSCB1 => exact rfl
  | fldata => exact rfl
  | fwrite => exact rfl
  | icsfDigestUpdate => exact rfl
  | simpleHexPrint => exact rfl
  | _ => trivial

theorem faithfulRun_answers {α : Type} (p : Handler α) :
    FaithfulRun hash hex D contents p (p.exec (answers hash hex D contents)).1
      (p.eval (answers hash hex D contents)) := by
  refine ⟨Program.runs_exec _ p, fun e he => ?_⟩
  obtain ⟨c, answer⟩ := e
  rw [show answer = _ from Program.answer_of_mem_exec _ he]
  exact faithful_answers c

theorem eval_fldata (path : Text) :
    (call (.fldata path)).eval (answers hash hex D contents) = D.info := rfl

theorem eval_obtainDSCB1 (dsn volser : Text) :
    (call (.obtainDSCB1 dsn volser)).eval (answers hash hex D contents) = D.dscb := rfl

theorem isSupported_one (dsorg : WriteDsorg) (bytes : Bytes) :
    dsorg.isSupported ⟨1, bytes⟩ = decide (dsorg ≠ .unsupported) := by
  cases dsorg <;> rfl

theorem eval_getVolserForDataset (dsn : Text) :
    (getVolserForDataset dsn).eval (answers hash hex D contents) = D.volser dsn := by
  unfold getVolserForDataset Dataset.volser
  split
  next => rfl
  next => rfl

theorem eval_lookupDscb (dsn : Text) :
    (lookupDscb dsn).eval (answers hash hex D contents) = D.dscbOf dsn := by
  rw [lookupDscb, Program.eval_bind, eval_getVolserForDataset, Dataset.dscbOf]
  cases D.volser dsn <;> rfl

theorem eval_getLreclOrRespondError (dsn ddPath : Text) :
    (getLreclOrRespondError dsn ddPath).eval (answers hash hex D contents) = D.lrecl dsn := by
  rw [getLreclOrRespondError, Program.eval_bind, Program.eval_ask, Dataset.lrecl]
  show (lookupDscb dsn >>= _).eval _ = _
  rw [Program.eval_bind, eval_lookupDscb]
  cases D.dscbOf dsn with
  | some d =>
    rw [Program.eval_bind]
    dsimp only
    split <;> rfl
  | none =>
    rw [Program.eval_bind, eval_fldata]
    cases D.info with
    | none => rfl
    | some i =>
      rw [Program.eval_bind]
      dsimp only
      split <;> rfl

theorem eval_checkDatasetType (datasetPath dsn : Text) :
    (checkDatasetType datasetPath dsn).eval (answers hash hex D contents) = D.recordType dsn := by
  rw [checkDatasetType, Program.eval_bind, eval_getVolserForDataset, Dataset.recordType]
  cases D.volser dsn with
  | some volser =>
    rw [Program.eval_bind, eval_obtainDSCB1]
    cases D.dscb with
    | none => rfl
    | some d =>
      dsimp only
      rw [checkDscbType, Program.eval_bind]
      have hmember : (List.take 8 [(0 : UInt8)]).any (· ≠ blank) = true := by decide
      have hrest : (call .stray).eval (answers hash hex D contents) = ⟨1, [0]⟩ := rfl
      rw [hrest]
      dsimp only
      rw [hmember, Bool.not_true, Bool.and_false, if_neg Bool.false_ne_true, isSupported_one]
      by_cases hdsorg : isSupportedWriteDsorg d = .unsupported
      · rw [hdsorg, if_pos (Or.inl rfl)]
        rfl
      · rw [decide_eq_true hdsorg, if_neg (show ¬ (!true) = true from Bool.false_ne_true)]
        by_cases hU : getRecordLengthType d = some 'U'
        · rw [if_pos hU, if_pos (Or.inr hU)]
          rfl
        · rw [if_neg hU, if_neg (not_or.mpr ⟨hdsorg, hU⟩)]
          rfl
  | none =>
    rw [checkFileType, Program.eval_bind]
    show (call (.fldata datasetPath) >>= _).eval _ = _
    rw [Program.eval_bind, eval_fldata]
    cases D.info with
    | none => rfl
    | some i =>
      dsimp only
      split
      next => rfl
      next =>
        split
        next => rfl
        next => split <;> rfl

theorem eval_digestReads (reads : List Read) (digested : Bytes) :
    ((digestReads reads 0 digested).eval (answers hash hex D contents)).1 = 0 := by
  induction reads generalizing digested with
  | nil => rfl
  | cons read reads ih =>
    rw [digestReads]
    split
    next => rw [Program.eval_bind]; exact ih _
    next =>
      split
      next => rfl
      next => exact ih digested

theorem eval_streamReads (reads : List Read) (digested : Bytes) :
    ((streamReads reads 0 digested).eval (answers hash hex D contents)).2.1 = 0 := by
  induction reads generalizing digested with
  | nil => rfl
  | cons read reads ih =>
    rw [streamReads]
    split
    next =>
      rw [if_pos rfl, Program.eval_bind, Program.eval_bind]
      exact ih _
    next =>
      split
      next => rfl
      next => rw [Program.eval_bind]; exact ih digested

theorem eval_getDatasetETag (filename : Text) (recordLength : Nat) :
    (getDatasetETag filename recordLength).eval (answers hash hex D contents) ≠ none := by
  rw [getDatasetETag]
  generalize readMode recordLength = modeAndSize
  obtain ⟨mode, size⟩ := modeAndSize
  show Program.eval _ (digestReads (contents.map fun r => ⟨r.take size, false⟩) 0 [] >>= _) ≠ none
  rw [Program.eval_bind]
  have hrc := @eval_digestReads hash hex D contents (contents.map fun r => ⟨r.take size, false⟩) []
  generalize Program.eval _ (digestReads _ 0 []) = result at hrc ⊢
  obtain ⟨rc, digested⟩ := result
  subst hrc
  exact Option.some_ne_none _

theorem eval_streamDataset (filename : Text) (recordLength : Nat) :
    ((streamDataset filename recordLength).eval (answers hash hex D contents)).etag ≠ none := by
  rw [streamDataset]
  generalize readMode recordLength = modeAndSize
  obtain ⟨mode, size⟩ := modeAndSize
  show DatasetStream.etag (Program.eval _
    (streamReads (contents.map fun r => ⟨r.take size, false⟩) 0 [] >>= _)) ≠ none
  rw [Program.eval_bind]
  have hrc := @eval_streamReads hash hex D contents (contents.map fun r => ⟨r.take size, false⟩) []
  generalize Program.eval _ (streamReads _ 0 []) = result at hrc ⊢
  obtain ⟨records, rc, digested⟩ := result
  subst hrc
  exact Option.some_ne_none _

theorem eval_getDatasetETag_eq (hfits : D.Fits contents) (filename : Text) {recordLength : Nat}
    (hne : recordLength ≠ 0) (hle : D.capacity ≤ recordLength) :
    (getDatasetETag filename recordLength).eval (answers hash hex D contents) =
      some (etagOf hash hex contents.flatten) := by
  obtain ⟨runs, faithful⟩ := @faithfulRun_answers hash hex D contents _
    (getDatasetETag filename recordLength)
  obtain ⟨e, he⟩ := Option.ne_none_iff_exists'.mp
    (@eval_getDatasetETag hash hex D contents filename recordLength)
  rw [he, ((getDatasetETag_silent hfits hne hle).of_runs runs faithful).2 e he]

/-- Contents that can be read are read with an etag. -/
theorem streamed_of_readable (hfits : D.Fits contents) (hvalid : isDatasetPathValid path = true)
    (hread : D.lrecl (extractDatasetAndMemberName path).dsn ≠ 0) :
    Streamed hash hex D path contents (etagOf hash hex contents.flatten) := by
  let name := extractDatasetAndMemberName path
  let streamed := (streamDataset (ddPathOf []) (D.lrecl name.dsn)).eval (answers hash hex D contents)
  have hresponse : ⟨.respond ⟨200, none, streamed.records, streamed.etag⟩, ()⟩ ∈
      ((respondWithDataset path).exec (answers hash hex D contents)).1 := by
    rw [respondWithDataset, hvalid, if_neg (show ¬ (!true) = true from Bool.false_ne_true)]
    refine Program.mem_exec_bind _ (Program.mem_exec_bind_left _ ?_)
    refine Program.mem_exec_bind _ ?_
    rw [eval_getLreclOrRespondError, if_neg hread]
    exact Program.mem_exec_bind _ (List.mem_singleton_self _)
  obtain ⟨e, he⟩ := Option.ne_none_iff_exists'.mp
    (@eval_streamDataset hash hex D contents (ddPathOf []) (D.lrecl name.dsn))
  have hstreamed : Streamed hash hex D path contents e :=
    ⟨_, faithfulRun_answers _, List.mem_filterMap.mpr ⟨_, hresponse, he⟩⟩
  rwa [← (hstreamed.eq hfits).2.2]

/-- An update of what can be updated, from its etag on. -/
theorem exec_updateDatasetWithJSON (hvalid : isDatasetPathValid path = true)
    {lastEtag : Option Text} {force : Bool} (hetag : force = true ∨ lastEtag ≠ none)
    {e : Event calls}
    (he : e ∈ ((updateAllocated path (extractDatasetAndMemberName path) (ddPathOf []) recordArray
      lastEtag force).exec (answers hash hex D contents)).1) :
    e ∈ ((updateDatasetWithJSON path recordArray lastEtag force).exec
      (answers hash hex D contents)).1 := by
  have hgiven : ¬ (lastEtag = none ∧ force = false) := by
    rintro ⟨rfl, rfl⟩
    simp at hetag
  rw [updateDatasetWithJSON, hvalid, if_neg (show ¬ (!true) = true from Bool.false_ne_true),
    if_neg hgiven]
  exact Program.mem_exec_bind _ (Program.mem_exec_bind_left _ he)

theorem eval_writeRecords (type : RecordType) (records : List Bytes) (loop : WriteLoop) :
    ((writeRecords path type records loop).eval (answers hash hex D contents)).rcEtag =
      loop.rcEtag := by
  obtain ⟨runs, faithful⟩ := @faithfulRun_answers hash hex D contents _
    (writeRecords path type records loop)
  exact ((writeRecords_ensures path type records loop).of_runs runs faithful).2.2.2.1

/-- What is done once the checks are passed is done. -/
theorem exec_updateDatasetWithJSONInternal {dsn : Text} {records : List Bytes}
    (htype : D.recordType dsn = some type)
    (hrecords : validateRecords type.maxRecordLength 0 recordArray = .ok records)
    {e : Event calls}
    (he : e ∈ ((writeDataset path type records).exec (answers hash hex D contents)).1) :
    e ∈ ((updateDatasetWithJSONInternal path dsn recordArray).exec
      (answers hash hex D contents)).1 := by
  rw [updateDatasetWithJSONInternal]
  refine Program.mem_exec_bind _ ?_
  rw [eval_checkDatasetType, htype]
  dsimp only
  rw [hrecords]
  exact he

theorem opens_unforced (hfits : D.Fits contents) (hvalid : isDatasetPathValid path = true)
    (hread : D.lrecl (extractDatasetAndMemberName path).dsn ≠ 0)
    (htype : D.recordType (extractDatasetAndMemberName path).dsn ≠ none) :
    (((updateDatasetWithJSON path [] (some (etagOf hash hex contents.flatten)) false).exec
      (answers hash hex D contents)).1).any opensForWriting = true := by
  obtain ⟨type, htype⟩ := Option.ne_none_iff_exists'.mp htype
  refine List.any_eq_true.mpr ⟨⟨.fopen path "wb, recfm=*, type=record", true⟩, ?_, rfl⟩
  refine exec_updateDatasetWithJSON hvalid (.inr (Option.some_ne_none _)) ?_
  rw [updateAllocated, if_neg Bool.false_ne_true]
  refine Program.mem_exec_bind _ ?_
  rw [eval_getLreclOrRespondError, if_neg hread]
  refine Program.mem_exec_bind _ ?_
  rw [eval_getDatasetETag_eq hfits _ hread (Dataset.capacity_le_lrecl hread)]
  dsimp only
  rw [if_neg (Classical.not_not.mpr rfl)]
  exact exec_updateDatasetWithJSONInternal htype rfl (Program.mem_exec_ask _)

/-- What is opened is written, and an etag is sent. -/
theorem exec_writeDataset (type : RecordType) (records : List Bytes) :
    (∀ e ∈ ((writeRecords path type records ⟨0, 0, []⟩).exec (answers hash hex D contents)).1,
      e ∈ ((writeDataset path type records).exec (answers hash hex D contents)).1) ∧
    ∃ etag, etag ∈ etagsSent
      ((writeDataset path type records).exec (answers hash hex D contents)).1 := by
  have hrc := @eval_writeRecords hash hex D contents path type records ⟨0, 0, []⟩
  constructor
  · intro e he
    exact Program.mem_exec_bind _ (Program.mem_exec_bind _ (Program.mem_exec_bind_left _ he))
  · generalize hloop : (writeRecords path type records ⟨0, 0, []⟩).eval
      (answers hash hex D contents) = loop at hrc
    refine ⟨hex (hash loop.digested), List.mem_filterMap.mpr
      ⟨⟨.respond ⟨201, some ⟨"Updated dataset %s with %d records",
        [.text path, .int loop.recordsWritten]⟩, [], some (hex (hash loop.digested))⟩, ()⟩, ?_, rfl⟩⟩
    refine Program.mem_exec_bind _ (Program.mem_exec_bind _ (Program.mem_exec_bind _ ?_))
    rw [show (call .icsfDigestInit).eval (answers hash hex D contents) = 0 from rfl, hloop,
      finishDigest, if_pos hrc]
    exact Program.mem_exec_bind _ (Program.mem_exec_bind _ (Program.mem_exec_ask _))

/-- Records no shorter than before, with the same bytes in all, are the same. -/
theorem stored_eq_of_flatten_eq {bytes : List Bytes}
    (h : (bytes.map D.stored).flatten = bytes.flatten) : ∀ b ∈ bytes, D.stored b = b := by
  have longer (b : Bytes) : b.length ≤ (D.stored b).length := by
    unfold Dataset.stored
    split
    next => exact List.length_append ▸ Nat.le_add_right _ _
    next => exact Nat.le_refl _
  have longer_all (bs : List Bytes) : bs.flatten.length ≤ ((bs.map D.stored).flatten).length := by
    induction bs with
    | nil => exact Nat.le_refl 0
    | cons b bs ih =>
      simp only [List.map_cons, List.flatten_cons, List.length_append]
      exact Nat.add_le_add (longer b) ih
  induction bytes with
  | nil => nofun
  | cons b bs ih =>
    rw [List.map_cons, List.flatten_cons, List.flatten_cons] at h
    have hlength := congrArg List.length h
    rw [List.length_append, List.length_append] at hlength
    have hb := longer b
    have hbs := longer_all bs
    obtain ⟨heq, hrest⟩ := List.append_inj h (by omega)
    exact List.forall_mem_cons.mpr ⟨heq, ih hrest⟩

/-- Who does not pad the records of a fixed-length data set has not found its DSCB. -/
theorem recordType_of_not_isFixed {dsn : Text} (hfixed : D.fixed = true)
    (htype : D.recordType dsn = some type) (hnot : type.isFixed = false) : type = ⟨80, false⟩ := by
  unfold Dataset.recordType at htype
  split at htype
  next =>
    split at htype
    next d hd =>
      split at htype
      next => cases htype
      next =>
        cases htype
        exact absurd ((D.dscb_type d hd).mpr hfixed) (of_decide_eq_false hnot)
    next =>
      cases htype
      rfl
  next =>
    split at htype
    next i hi =>
      have hF := (D.info_type i hi).mpr hfixed
      split at htype
      next => cases htype
      next =>
        split at htype
        next => cases htype
        next =>
          split at htype
          next => cases htype
          next =>
            cases htype
            rw [hF] at hnot
            cases hnot
    next => cases htype

/-- An update that has not seen that records have one length writes a short one, and its etag is not
that of what the data set contains. -/
theorem short_record_disagrees (hash_injective : Function.Injective hash)
    (hex_injective : Function.Injective hex) (locked : Locked hash hex D path)
    (hvalid : isDatasetPathValid path = true)
    (hread : D.lrecl (extractDatasetAndMemberName path).dsn ≠ 0) (hfixed : D.fixed = true)
    (htype : D.recordType (extractDatasetAndMemberName path).dsn = some ⟨80, false⟩) :
    D.capacity = 1 := by
  have hpos := Dataset.capacity_pos hfixed hread
  have hempty : D.Fits [] := nofun
  have hrecords : validateRecords 80 0 [some [0x78]] = .ok [[0x78]] := rfl
  let events :=
    ((updateDatasetWithJSON path [some [0x78]] none true).exec (answers hash hex D [])).1
  have hdone {e : Event calls}
      (he : e ∈ ((writeDataset path ⟨80, false⟩ [[0x78]]).exec (answers hash hex D [])).1) :
      e ∈ events := by
    refine exec_updateDatasetWithJSON hvalid (.inl rfl) ?_
    rw [updateAllocated, if_pos rfl]
    exact exec_updateDatasetWithJSONInternal htype hrecords he
  obtain ⟨hwrites, etag, hetag⟩ := @exec_writeDataset hash hex D [] path ⟨80, false⟩ [[0x78]]
  -- the etag returned is that of the bytes written
  have hsent : etag ∈ etagsSent events := by
    obtain ⟨event, hevent, hsent⟩ := List.mem_filterMap.mp hetag
    exact List.mem_filterMap.mpr ⟨event, hdone hevent, hsent⟩
  have hwritten : [0x78] ∈ events.filterMap bytesWritten := by
    refine List.mem_filterMap.mpr ⟨⟨.fwrite path [0x78], ⟨min 1 D.capacity, false⟩⟩, ?_, ?_⟩
    · exact hdone (hwrites _ (Program.mem_exec_bind _ (Program.mem_exec_ask _)))
    · rw [Nat.min_eq_left hpos]
      rfl
  obtain ⟨runs, faithful⟩ := @faithfulRun_answers hash hex D [] _
    (updateDatasetWithJSON path [some [0x78]] none true)
  have seen := (updateDatasetWithJSON_ensures fun _ => hempty).of_runs runs faithful
  obtain ⟨type, -, hall, hbytes⟩ := seen.sent etag hsent
  -- and so is that of what they left
  have hfits : D.Fits (recordsLeft D events) := by
    refine Dataset.fits_stored fun b hb => ?_
    obtain ⟨record, hlength⟩ := hall b hb
    exact hlength ▸ Nat.min_le_right _ _
  have hagree := (locked.agree _ hfits _ (streamed_of_readable hfits hvalid hread)).2 etag
    ⟨[], hempty, _, _, _, _, ⟨runs, faithful⟩, rfl, hsent⟩
  rw [hbytes] at hagree
  have hsame := stored_eq_of_flatten_eq (hash_injective (hex_injective hagree)).symm _ hwritten
  have hlength := congrArg List.length hsame
  rw [Dataset.stored, if_pos hfixed, List.length_append, List.length_replicate] at hlength
  simp only [List.length_singleton] at hlength
  omega

/-- **The lock, exactly.** An update that is not forced opens the data set only with the etag of its
contents, sent for no others, and all etags of the same contents agree, exactly if the data set
cannot be read and updated at all, or has records of one length, which the update has seen or which
is one byte. -/
theorem locked_iff (hash_injective : Function.Injective hash)
    (hex_injective : Function.Injective hex) (D : Dataset) (path : Text) :
    Locked hash hex D path ↔ Lockable D path := by
  refine ⟨fun locked hvalid hread type htype => ?_, locked_of_lockable hash_injective hex_injective⟩
  have hnone : D.recordType (extractDatasetAndMemberName path).dsn ≠ none := by
    rw [htype]
    exact Option.some_ne_none type
  have hfixed : D.fixed = true := by
    by_contra hvariable
    -- an empty record is not seen in the etag
    have hempty : D.Fits [] := nofun
    have hone : D.Fits [[]] := by
      intro r hr
      rw [List.mem_singleton.mp hr]
      exact ⟨Nat.zero_le _, fun h => absurd h hvariable⟩
    have hopens := @opens_unforced hash hex D [] path hempty hvalid hread hnone
    have := locked.only [] hempty [] _ _ (faithfulRun_answers _) hopens [[]] hone
      (.inl (streamed_of_readable hone hvalid hread))
    cases this
  refine ⟨hfixed, ?_⟩
  by_cases hseen : type.isFixed = true
  · exact .inl hseen
  · rw [recordType_of_not_isFixed hfixed htype (eq_false_of_ne_true hseen)] at htype
    exact .inr (short_record_disagrees hash_injective hex_injective locked hvalid hread hfixed htype)

end

/-! ## Two data sets -/

/-- SHA-1 of the bytes of the samples, and something else for every other string of bytes. -/
def sampleHash (bytes : Bytes) : Bytes :=
  if bytes = [0x81, 0x82] then
    [0xc3, 0xf7, 0x8a, 0xc4, 0xa1, 0x2e, 0xcb, 0xd3, 0xbd, 0xb9, 0xec, 0x19, 0x48, 0x36,
      0x5f, 0x16, 0x78, 0x71, 0x21, 0x98]
  else 0 :: bytes

theorem sampleHash_injective : Function.Injective sampleHash := by
  intro b b' h
  unfold sampleHash at h
  split at h
  next hb =>
    split at h
    next hb' => rw [hb, hb']
    next => cases h
  next =>
    split at h
    next => cases h
    next => exact (List.cons.inj h).2

/-- A hexadecimal digit. -/
def hexDigit (n : Nat) : Char := if n < 10 then Char.ofNat (48 + n) else Char.ofNat (87 + n)

theorem hexDigit_injective : ∀ m < 16, ∀ n < 16, hexDigit m = hexDigit n → m = n := by decide

/-- Two hexadecimal digits for each byte. -/
def sampleHex (bytes : Bytes) : Text :=
  bytes.flatMap fun b => [hexDigit (b.toNat / 16), hexDigit (b.toNat % 16)]

theorem sampleHex_injective : Function.Injective sampleHex := by
  intro b b' h
  induction b generalizing b' with
  | nil =>
    cases b' with
    | nil => rfl
    | cons => cases h
  | cons x b ih =>
    cases b' with
    | nil => cases h
    | cons x' b' =>
      have hx := x.toNat_lt
      have hx' := x'.toNat_lt
      obtain ⟨hhigh, h⟩ := List.cons.inj h
      obtain ⟨hlow, h⟩ := List.cons.inj h
      have high := hexDigit_injective _ (by omega) _ (by omega) hhigh
      have low := hexDigit_injective _ (by omega) _ (by omega) hlow
      have hbyte : x = x' := UInt8.toNat_inj.mp (by omega)
      rw [hbyte, ih h]

def samplePath : Text := ['/', '/', apostrophe, 'A', '.', 'B', apostrophe]

/-- A sequential data set of variable-length records, of up to four bytes. -/
def variableDataset : Dataset where
  fixed := false
  capacity := 4
  entries := [⟨'A', some ['V', 'O', 'L', '0', '0', '1']⟩]
  dscb := some ⟨List.replicate 38 0 ++ [0x40, 0x00, 0x40, 0x00, 0x00, 0x08, 0x00, 0x08]⟩
  info := none
  dscb_type := by
    rintro d ⟨⟩
    decide
  dscb_length := by
    rintro d ⟨⟩
    decide
  info_type := nofun
  info_length := nofun

/-- A data set of fixed-length records whose DSCB is not found. -/
def fixedDataset (capacity : Nat) : Dataset where
  fixed := true
  capacity := capacity
  entries := [⟨'A', some ['V', 'O', 'L', '0', '0', '1']⟩]
  dscb := none
  info := some ⟨false, true, capacity, false, false, false⟩
  dscb_type := nofun
  dscb_length := nofun
  info_type := by
    rintro i ⟨⟩
    exact iff_of_true rfl rfl
  info_length := by
    rintro i ⟨⟩
    exact ⟨Nat.le_refl _, fun _ => rfl⟩

theorem locked_iff_sample :
    Locked sampleHash sampleHex (fixedDataset 1) samplePath ↔ Lockable (fixedDataset 1) samplePath :=
  locked_iff sampleHash_injective sampleHex_injective (fixedDataset 1) samplePath

/-- An etag sent for one record opens the data set while it contains two with the same bytes; and an
update of fixed-length records may return an etag that a read does not send. -/
theorem split_record_unnoticed :
    (∃ e events, Streamed sampleHash sampleHex variableDataset samplePath [[0x81, 0x82]] e ∧
      FaithfulRun sampleHash sampleHex variableDataset [[0x81], [0x82]]
        (updateDatasetWithJSON samplePath [] (some e) false) events () ∧
      events.any opensForWriting = true) ∧
    ¬ Locked sampleHash sampleHex variableDataset samplePath ∧
    ¬ Locked sampleHash sampleHex (fixedDataset 2) samplePath := by
  have hone : variableDataset.Fits [[0x81, 0x82]] := by decide
  have htwo : variableDataset.Fits [[0x81], [0x82]] := by decide
  have hstreamed : Streamed sampleHash sampleHex variableDataset samplePath [[0x81, 0x82]]
      (etagOf sampleHash sampleHex [0x81, 0x82]) :=
    streamed_of_readable hone (by decide) (by decide)
  have hopens := @opens_unforced sampleHash sampleHex variableDataset [[0x81], [0x82]] samplePath
    htwo (by decide) (by decide) (by decide)
  have hrun := @faithfulRun_answers sampleHash sampleHex variableDataset [[0x81], [0x82]] _
    (updateDatasetWithJSON samplePath [] (some (etagOf sampleHash sampleHex [0x81, 0x82])) false)
  refine ⟨⟨_, _, hstreamed, hrun, hopens⟩, fun locked => ?_, fun locked => ?_⟩
  · cases locked.only _ htwo _ _ _ hrun hopens _ hone (.inl hstreamed)
  · have := short_record_disagrees sampleHash_injective sampleHex_injective locked (by decide)
      (by decide) rfl (by decide)
    cases this

end Zss.Datasets
