import Zss.Datasets.Faithful
import Zss.Lib.Embedding

/-!
# What an update writes of what it validated

`updateDatasetWithJSONInternal` validates all records before it opens the data set, and then formats
and writes them one by one. The two loops disagree on what stands beyond the record length: the first
lets pass what is not above a blank, the second gives `fwrite` the length of the untruncated text. A
write that is short or fails is not noticed, and the member test of a partitioned data set reads the
bytes behind the data set name. `updatesValidated_iff` says of which runs the rest holds.

## What is not established

That what was written stays, and what other updates write meanwhile.
-/

namespace Zss.Datasets

open Zss.Lib

/-! ## What is seen of a run -/

/-- The data set was opened for writing. -/
def openedForWriting : Event calls → Bool
  | ⟨.fopen _ mode, opened⟩ => mode == "wb, recfm=*, type=record" && opened
  | _ => false

def opensFile : Event calls → Bool
  | ⟨.fopen _ _, opened⟩ => opened
  | _ => false

def closesFile : Event calls → Bool
  | ⟨.fclose _, _⟩ => true
  | _ => false

/-- The bytes that `fwrite` is given the length of. -/
def offeredTo : Event calls → Option Bytes
  | ⟨.fwrite _ buffer, _⟩ => some buffer
  | _ => none

/-- A write that took less than it was given, or failed. -/
def cutShort : Event calls → Bool
  | ⟨.fwrite _ buffer, written⟩ => decide (written.count < buffer.length) || written.error
  | _ => false

def reportsSuccess : Event calls → Bool
  | ⟨.respond response, _⟩ => response.success
  | _ => false

/-- The request is refused for the whole of a partitioned data set. -/
def refusesPds : Event calls → Bool
  | ⟨.respond response, _⟩ => decide (response.msg = some "Overwrite of PDS not supported")
  | _ => false

def foundDscb : Event calls → Option Dscb
  | ⟨.obtainDSCB1 .., dscb⟩ => dscb
  | _ => none

def strayBytes : Event calls → Option Bytes
  | ⟨.stray, rest⟩ => some rest.bytes
  | _ => none

/-- The record format F or V of a DSCB, with the maximum record length. -/
def Dscb.recordType (dscb : Dscb) : Option RecordType :=
  match getRecordLengthType dscb with
  | some 'F' => some ⟨getMaxRecordLength dscb, true⟩
  | some 'V' => some ⟨getMaxRecordLength dscb, false⟩
  | _ => none

/-- The record format F or V of an open file. -/
def FileInfo.recordType (info : FileInfo) : Option RecordType :=
  if info.recfmF then some ⟨info.maxreclen, true⟩
  else if info.recfmU then none
  else some ⟨info.maxreclen, false⟩

/-- The record type that is found; where the VTOC does not have the data set, the default. -/
def typeFound : Event calls → Option RecordType
  | ⟨.obtainDSCB1 .., none⟩ => some ⟨80, false⟩
  | ⟨.obtainDSCB1 .., some dscb⟩ => dscb.recordType
  | ⟨.fldata _, some info⟩ => info.recordType
  | _ => none

/-! ## The property -/

/-- Every element is a string with nothing but blanks beyond the maximum length. -/
def Writable (type : RecordType) (records : List JsonItem) : Prop :=
  ∀ item ∈ records, ∃ record, item = some record ∧
    ∀ b ∈ record.drop type.maxRecordLength, b = blank

/-- An element cut to the maximum length, padded to it if the length is fixed; a blank for an empty
one. -/
def cut (type : RecordType) (record : Bytes) : Bytes :=
  let text := (if record = [] then [blank] else record).take type.maxRecordLength
  if type.isFixed then text ++ List.replicate (type.maxRecordLength - text.length) blank else text

/-- What `snprintf` leaves in the record buffer of an element, before the end. -/
def formatted (type : RecordType) (record : Bytes) : Bytes :=
  (printRecord type record).take type.maxRecordLength

/-- An update writes what it validated. -/
structure WritesValidated (type : RecordType) (records : List JsonItem) (events : Trace) : Prop where
  refused : ¬ Writable type records → ∀ e ∈ events, openedForWriting e = false
  written : Writable type records → (∃ e ∈ events, openedForWriting e = true) →
    (∀ e ∈ events, cutShort e = false) →
    events.filterMap bytesWritten = records.filterMap (Option.map (cut type))
  held : ∀ (i : Nat) bytes record, (events.filterMap offeredTo)[i]? = some bytes →
    records[i]? = some (some record) → bytes.length ≤ (formatted type record).length
  ended : (∃ e ∈ events, cutShort e = true) → (∀ e ∈ events, reportsSuccess e = false) ∧
    events.countP closesFile = events.countP opensFile

/-- The data set is found to be a partitioned one of record format F or V. -/
def FindsPds (events : Trace) : Prop :=
  ∃ dscb, events.findSome? foundDscb = some dscb ∧
    isSupportedWriteDsorg dscb = .supportedPds ∧ dscb.recordType.isSome = true

/-- The path names a member. -/
def NamesMember (datasetPath : Text) : Prop :=
  isDamemberEmpty (extractDatasetAndMemberName datasetPath).memberName = false

/-- An update writes what it validated, and a partitioned data set only in a member. -/
structure UpdatesValidated (datasetPath : Text) (records : List JsonItem) (events : Trace) :
    Prop where
  writes : ∀ type, events.findSome? typeFound = some type → WritesValidated type records events
  member : FindsPds events → ((∀ e ∈ events, refusesPds e = false) ↔ NamesMember datasetPath)

/-! ## The condition -/

/-- Every element is a string with nothing above a blank beyond the maximum length. -/
def Passes (type : RecordType) (records : List JsonItem) : Prop :=
  ∀ item ∈ records, ∃ record, item = some record ∧
    ∀ b ∈ record.drop type.maxRecordLength, b ≤ blank

/-- No element is longer than the maximum length, nor empty where that is zero. -/
def Within (type : RecordType) (records : List JsonItem) : Prop :=
  ∀ record, some record ∈ records → max 1 record.length ≤ type.maxRecordLength

/-- Of the eight bytes that stand behind the data set name, one is not blank. -/
def StandsBehind (rest : Bytes) : Prop := (rest.take 8).any (· ≠ blank) = true

/-- Elements that are let pass into a data set that opens are not too long, and their writes complete;
and a member's name stands behind that of the data set exactly if a member is named. -/
structure UpdateSound (datasetPath : Text) (records : List JsonItem) (events : Trace) : Prop where
  complete : ∀ type, events.findSome? typeFound = some type → Passes type records →
    (∃ e ∈ events, openedForWriting e = true) →
    Within type records ∧ ∀ e ∈ events, cutShort e = false
  member : FindsPds events → ∀ rest, events.findSome? strayBytes = some rest →
    (StandsBehind rest ↔ NamesMember datasetPath)

/-! ## Formatting -/

theorem length_printRecord (type : RecordType) (record : Bytes) :
    max 1 record.length ≤ (printRecord type record).length := by
  unfold printRecord
  cases record with
  | nil => cases type.isFixed <;> simp
  | cons b record => cases type.isFixed <;> simp

theorem formatted_eq_cut (type : RecordType) (record : Bytes) :
    formatted type record = cut type record := by
  unfold formatted printRecord cut
  generalize (if record = [] then [blank] else record) = text
  cases type.isFixed with
  | false => rfl
  | true =>
    simp only [if_true, List.take_append, List.take_replicate, List.length_take]
    congr 2
    omega

/-- What is within the record length is written as it is formatted. -/
theorem printRecord_eq_cut {type : RecordType} {record : Bytes}
    (h : max 1 record.length ≤ type.maxRecordLength) :
    printRecord type record = cut type record ∧
      (printRecord type record).length ≤ type.maxRecordLength := by
  have hlength : (printRecord type record).length ≤ type.maxRecordLength := by
    unfold printRecord
    cases record with
    | nil => cases type.isFixed <;> simp at h ⊢ <;> omega
    | cons b record => cases type.isFixed <;> simp at h ⊢ <;> omega
  refine ⟨?_, hlength⟩
  rw [← formatted_eq_cut, formatted, List.take_of_length_le hlength]

/-- What `fwrite` is given for an element. -/
def Offers (type : RecordType) (record bytes : Bytes) : Prop :=
  ∃ after, bytes = offered type.maxRecordLength (printRecord type record) after

theorem Offers.length {type : RecordType} {record bytes : Bytes} (h : Offers type record bytes) :
    bytes.length = (printRecord type record).length := by
  obtain ⟨after, rfl⟩ := h
  exact length_offered _ _ _

theorem Offers.eq_cut {type : RecordType} {record bytes : Bytes} (h : Offers type record bytes)
    (hwithin : max 1 record.length ≤ type.maxRecordLength) : bytes = cut type record := by
  obtain ⟨after, rfl⟩ := h
  obtain ⟨hcut, hlength⟩ := printRecord_eq_cut hwithin
  rw [offered, if_pos hlength, hcut]

/-- A length that is within what was formatted is that of an element within the record length. -/
theorem Offers.within {type : RecordType} {record bytes : Bytes} (h : Offers type record bytes)
    (hheld : bytes.length ≤ (formatted type record).length) :
    max 1 record.length ≤ type.maxRecordLength := by
  rw [h.length, formatted, List.length_take] at hheld
  exact Nat.le_trans (length_printRecord type record) (by omega)

/-! ## The parts of an update -/

/-- An event of a check: nothing is written, and no success reported. -/
def Checking (e : Event calls) : Prop :=
  openedForWriting e = false ∧ offeredTo e = none ∧ reportsSuccess e = false

/-- A check that has found the record type, and refused a partitioned data set by what stands behind
its name. -/
structure Checked (events : Trace) (result : Option RecordType) : Prop where
  checking : ∀ e ∈ events, Checking e
  typed : ∀ type, events.findSome? typeFound = some type → ∀ found, result = some found → found = type
  member : FindsPds events → ∃ rest, events.findSome? strayBytes = some rest ∧
    ((∀ e ∈ events, refusesPds e = false) ↔ StandsBehind rest)

/-- An event that neither finds nor refuses. -/
def Unfinding (e : Event calls) : Prop :=
  typeFound e = none ∧ foundDscb e = none ∧ refusesPds e = false

theorem findSome?_typeFound_of {events : Trace} (h : ∀ e ∈ events, Unfinding e) :
    events.findSome? typeFound = none :=
  List.findSome?_eq_none_iff.mpr fun e he => (h e he).1

theorem findSome?_foundDscb_of {events : Trace} (h : ∀ e ∈ events, Unfinding e) :
    events.findSome? foundDscb = none :=
  List.findSome?_eq_none_iff.mpr fun e he => (h e he).2.1

/-- What stands before a check without finding anything or touching stray storage. -/
theorem Checked.append {events events' : Trace} {result : Option RecordType}
    (hchecking : ∀ e ∈ events, Checking e) (hunfinding : ∀ e ∈ events, Unfinding e)
    (hstray : ∀ e ∈ events, strayBytes e = none) (h : Checked events' result) :
    Checked (events ++ events') result := by
  refine ⟨List.forall_mem_append.mpr ⟨hchecking, h.checking⟩, fun type htype => ?_, ?_⟩
  · rw [List.findSome?_append, findSome?_typeFound_of hunfinding, Option.none_or] at htype
    exact h.typed type htype
  · rintro ⟨dscb, hfound, hdscb⟩
    rw [List.findSome?_append, findSome?_foundDscb_of hunfinding, Option.none_or] at hfound
    obtain ⟨rest, hrest, hiff⟩ := h.member ⟨dscb, hfound, hdscb⟩
    refine ⟨rest, ?_, ?_⟩
    · rw [List.findSome?_append, List.findSome?_eq_none_iff.mpr hstray, Option.none_or, hrest]
    · rw [← hiff, List.forall_mem_append]
      exact ⟨And.right, fun hall => ⟨fun e he => (hunfinding e he).2.2, hall⟩⟩

theorem Dscb.recordType_eq {dscb : Dscb} {type : RecordType} (h : dscb.recordType = some type) :
    type = ⟨getMaxRecordLength dscb, getRecordLengthType dscb = some 'F'⟩ ∧
      getRecordLengthType dscb ≠ some 'U' := by
  unfold Dscb.recordType at h
  split at h
  next hF =>
    rw [hF]
    exact ⟨(Option.some.inj h).symm, by decide⟩
  next hV =>
    rw [hV]
    exact ⟨(Option.some.inj h).symm, by decide⟩
  next => cases h

/-- The events of a check of a DSCB begin with where it is found and with what stands behind the name. -/
theorem Checked.ofDscb {dsn volser : Text} {dscb : Dscb} {rest : Stray} {events : Trace}
    {result : Option RecordType} (hchecking : ∀ e ∈ events, Checking e)
    (htype : ∀ e ∈ events, typeFound e = none)
    (htyped : ∀ found, result = some found →
      found = ⟨getMaxRecordLength dscb, getRecordLengthType dscb = some 'F'⟩)
    (hmember : isSupportedWriteDsorg dscb = .supportedPds → dscb.recordType.isSome = true →
      ((∀ e ∈ events, refusesPds e = false) ↔ StandsBehind rest.bytes)) :
    Checked (⟨.obtainDSCB1 dsn volser, some dscb⟩ :: ⟨.stray, rest⟩ :: events) result where
  checking := List.forall_mem_cons.mpr ⟨⟨rfl, rfl, rfl⟩,
    List.forall_mem_cons.mpr ⟨⟨rfl, rfl, rfl⟩, hchecking⟩⟩
  typed type hfound found hresult := by
    have hnone : events.findSome? typeFound = none := List.findSome?_eq_none_iff.mpr htype
    have hdscb : dscb.recordType = some type := by
      simp only [List.findSome?_cons, typeFound, hnone] at hfound
      cases hd : dscb.recordType with
      | none => rw [hd] at hfound; cases hfound
      | some t => rw [hd] at hfound; exact hfound
    rw [htyped found hresult, (Dscb.recordType_eq hdscb).1]
  member := by
    rintro ⟨dscb', hfound, hpds, htype⟩
    obtain rfl : dscb = dscb' := Option.some.inj hfound
    refine ⟨rest.bytes, rfl, ?_⟩
    rw [← hmember hpds htype, List.forall_mem_cons, List.forall_mem_cons]
    exact ⟨fun h => h.2.2, fun h => ⟨rfl, rfl, h⟩⟩

theorem checkDscbType_checked (dsn volser : Text) (dscb : Dscb) :
    (checkDscbType dscb).Ensures (fun _ => True) fun events result =>
      Checked (⟨.obtainDSCB1 dsn volser, some dscb⟩ :: events) result := by
  refine .ask_bind fun rest _ => ?_
  dsimp only
  split
  next hunsupported =>
    refine .ask_bind fun _ _ => .ret (.ofDscb ?_ ?_ nofun fun hpds _ => ?_)
    · exact List.forall_mem_singleton.mpr ⟨rfl, rfl, rfl⟩
    · exact List.forall_mem_singleton.mpr rfl
    · rw [hpds] at hunsupported
      cases hunsupported
  next =>
    split
    next hrefused =>
      refine .ask_bind fun _ _ => .ret (.ofDscb ?_ ?_ nofun fun _ _ => ?_)
      · exact List.forall_mem_singleton.mpr ⟨rfl, rfl, rfl⟩
      · exact List.forall_mem_singleton.mpr rfl
      · refine iff_of_false (fun h => ?_) fun hstands => ?_
        · cases h _ (List.mem_singleton.mpr rfl)
        · simp only [Bool.and_eq_true, Bool.not_eq_true'] at hrefused
          rw [StandsBehind, hrefused.2] at hstands
          cases hstands
    next hmember =>
      split
      next hundefined =>
        refine .ask_bind fun _ _ => .ret (.ofDscb ?_ ?_ nofun fun _ htype => ?_)
        · exact List.forall_mem_singleton.mpr ⟨rfl, rfl, rfl⟩
        · exact List.forall_mem_singleton.mpr rfl
        · obtain ⟨type, heq⟩ := Option.isSome_iff_exists.mp htype
          exact absurd hundefined (Dscb.recordType_eq heq).2
      next =>
        refine .ret (.ofDscb nofun nofun (fun found h => (Option.some.inj h).symm) fun hpds _ => ?_)
        refine iff_of_true nofun ?_
        simp only [hpds, decide_true, Bool.true_and, Bool.not_eq_true', Bool.not_eq_false] at hmember
        exact hmember

/-- The events of a check of an open file. -/
theorem Checked.ofFile {datasetPath : Text} {info : Option FileInfo} {events : Trace}
    {result : Option RecordType} (hchecking : ∀ e ∈ events, Checking e)
    (hunfinding : ∀ e ∈ events, typeFound e = none ∧ foundDscb e = none)
    (htyped : ∀ type, info.bind FileInfo.recordType = some type → ∀ found, result = some found →
      found = type) :
    Checked (⟨.fopen datasetPath "rb, recfm=*, type=record", true⟩ ::
      ⟨.fldata datasetPath, info⟩ :: events) result where
  checking := List.forall_mem_cons.mpr ⟨⟨rfl, rfl, rfl⟩,
    List.forall_mem_cons.mpr ⟨⟨rfl, rfl, rfl⟩, hchecking⟩⟩
  typed type hfound found hresult := by
    have hnone : events.findSome? typeFound = none :=
      List.findSome?_eq_none_iff.mpr fun e he => (hunfinding e he).1
    refine htyped type ?_ found hresult
    cases info with
    | none =>
      simp only [List.findSome?_cons, typeFound, hnone] at hfound
      cases hfound
    | some info =>
      simp only [List.findSome?_cons, typeFound, hnone] at hfound
      rw [Option.bind_some]
      cases ht : info.recordType with
      | none => rw [ht] at hfound; cases hfound
      | some t => rw [ht] at hfound; exact hfound
  member := by
    rintro ⟨dscb, hfound, -⟩
    have hnone : events.findSome? foundDscb = none :=
      List.findSome?_eq_none_iff.mpr fun e he => (hunfinding e he).2
    simp only [List.findSome?_cons, foundDscb, hnone] at hfound
    cases hfound

/-- A check of an open file that responds and closes it. -/
theorem refusedFile_checked (datasetPath : Text) (info : Option FileInfo) (status : Nat)
    (msg : Message) (hstatus : ¬ status < 300) :
    (respondWithError status msg >>= fun _ => call (.fclose datasetPath) >>= fun _ => .ret none :
      Handler (Option RecordType)).Ensures (fun _ => True) fun events result =>
        Checked (⟨.fopen datasetPath "rb, recfm=*, type=record", true⟩ ::
          ⟨.fldata datasetPath, info⟩ :: events) result := by
  refine .ask_bind fun _ _ => .ask_bind fun _ _ => .ret (.ofFile ?_ ?_ fun _ _ => nofun)
  · exact List.forall_mem_cons.mpr ⟨⟨rfl, rfl, decide_eq_false hstatus⟩,
      List.forall_mem_singleton.mpr ⟨rfl, rfl, rfl⟩⟩
  · exact List.forall_mem_cons.mpr ⟨⟨rfl, rfl⟩, List.forall_mem_singleton.mpr ⟨rfl, rfl⟩⟩

theorem checkFileType_checked (datasetPath : Text) :
    (checkFileType datasetPath).Ensures (fun _ => True) Checked := by
  refine .ask_bind fun opened _ => ?_
  cases opened with
  | false =>
    refine .ask_bind fun _ _ => .ret ⟨?_, fun _ _ => nofun, ?_⟩
    · exact List.forall_mem_cons.mpr ⟨⟨rfl, rfl, rfl⟩, List.forall_mem_singleton.mpr ⟨rfl, rfl, rfl⟩⟩
    · rintro ⟨dscb, hfound, -⟩
      cases hfound
  | true =>
    refine .ask_bind fun info _ => ?_
    cases info with
    | none => exact refusedFile_checked datasetPath none _ _ (by decide)
    | some info =>
      dsimp only
      split
      next => exact refusedFile_checked datasetPath (some info) _ _ (by decide)
      split
      next => exact refusedFile_checked datasetPath (some info) _ _ (by decide)
      split
      next => exact refusedFile_checked datasetPath (some info) _ _ (by decide)
      next hformat =>
        refine .ask_bind fun _ _ => .ret (.ofFile ?_ ?_ fun type htype found hresult => ?_)
        · exact List.forall_mem_singleton.mpr ⟨rfl, rfl, rfl⟩
        · exact List.forall_mem_singleton.mpr ⟨rfl, rfl⟩
        · rw [Option.bind_some, FileInfo.recordType] at htype
          rw [← Option.some.inj hresult]
          cases hF : info.recfmF with
          | true =>
            rw [hF, if_pos rfl] at htype
            exact Option.some.inj htype
          | false =>
            cases hU : info.recfmU with
            | true =>
              rw [hF, hU] at hformat
              exact absurd rfl hformat
            | false =>
              rw [hF, hU] at htype
              exact Option.some.inj htype

theorem getVolserForDataset_asks (dsn : Text) :
    (getVolserForDataset dsn).Asks (fun c => c = Call.returnEntries dsn) := by
  unfold getVolserForDataset
  split
  next => exact .ret _
  next => exact .ask_bind rfl fun _ => .ret _

theorem checkDatasetType_checked (datasetPath dsn : Text) :
    (checkDatasetType datasetPath dsn).Ensures (fun _ => True) Checked := by
  have hvolser : (getVolserForDataset dsn).Ensures (fun _ => True) fun events _ =>
      ∀ e ∈ events, Checking e ∧ Unfinding e ∧ strayBytes e = none := by
    intro events _ runs _ e he
    have hcall := (getVolserForDataset_asks dsn).of_runs runs e he
    obtain ⟨c, answer⟩ := e
    cases hcall
    exact ⟨⟨rfl, rfl, rfl⟩, ⟨rfl, rfl, rfl⟩, rfl⟩
  refine .bind_of hvolser fun events volser hevents => ?_
  refine @Program.Ensures.mono _ _ _ Checked _ _ ?_ fun events' result h =>
    h.append (fun e he => (hevents e he).1) (fun e he => (hevents e he).2.1)
      fun e he => (hevents e he).2.2
  cases volser with
  | none => exact checkFileType_checked datasetPath
  | some volser =>
    refine .ask_bind fun dscb _ => ?_
    cases dscb with
    | some dscb => exact checkDscbType_checked dsn volser dscb
    | none =>
      refine .ret ⟨List.forall_mem_singleton.mpr ⟨rfl, rfl, rfl⟩, fun type htype found hresult => ?_, ?_⟩
      · exact Option.some.inj (hresult.symm.trans htype)
      · rintro ⟨dscb, hfound, -⟩
        cases hfound

/-! ## Validation and the write loop -/

theorem validateRecords_ok {maxRecordLength i : Nat} {items : List JsonItem} {records : List Bytes}
    (h : validateRecords maxRecordLength i items = .ok records) :
    items = records.map some ∧ ∀ record ∈ records, ∀ b ∈ record.drop maxRecordLength, b ≤ blank := by
  induction items generalizing i records with
  | nil =>
    cases h
    exact ⟨rfl, nofun⟩
  | cons item items ih =>
    cases item with
    | none => cases h
    | some record =>
      unfold validateRecords at h
      split at h
      next => cases h
      next hbeyond =>
        cases hrest : validateRecords maxRecordLength (i + 1) items with
        | error message => rw [hrest] at h; cases h
        | ok rest =>
          rw [hrest] at h
          cases h
          obtain ⟨heq, hall⟩ := ih hrest
          refine ⟨by rw [heq, List.map_cons], List.forall_mem_cons.mpr ⟨fun b hb => ?_, hall⟩⟩
          by_contra hlt
          exact hbeyond (List.any_eq_true.mpr ⟨b, hb, decide_eq_true (UInt8.not_le.mp hlt)⟩)

/-- What is said of an element that does not pass names it. -/
theorem validateRecords_error {maxRecordLength i : Nat} {items : List JsonItem} {message : Message}
    (h : validateRecords maxRecordLength i items = .error message) : message.args ≠ [] := by
  induction items generalizing i with
  | nil => cases h
  | cons item items ih =>
    cases item with
    | none =>
      cases h
      exact List.cons_ne_nil _ _
    | some record =>
      unfold validateRecords at h
      split at h
      next =>
        cases h
        exact List.cons_ne_nil _ _
      next =>
        cases hrest : validateRecords maxRecordLength (i + 1) items with
        | ok rest => rw [hrest] at h; cases h
        | error message' =>
          rw [hrest] at h
          cases h
          exact ih hrest

/-- **The write loop** gives `fwrite` one text for each element. -/
theorem writeRecords_offers (datasetPath : Text) (type : RecordType) (records : List Bytes)
    (loop : WriteLoop) :
    (writeRecords datasetPath type records loop).Ensures (fun _ => True) fun events _ =>
      (∀ e ∈ events, Unfinding e) ∧
        List.Forall₂ (Offers type) records (events.filterMap offeredTo) := by
  induction records generalizing loop with
  | nil => exact .ret ⟨nofun, .nil⟩
  | cons record records ih =>
    refine .ask_bind fun after _ => .ask_bind fun written _ => ?_
    dsimp only
    split
    next hnegative => exact absurd hnegative.1 (Int.not_lt.mpr (Int.natCast_nonneg _))
    next =>
      split
      next =>
        refine .ask_bind fun rcEtag _ => (ih _).mono ?_
        intro events _ ⟨hall, hoffers⟩
        refine ⟨?_, .cons ⟨after.bytes, rfl⟩ hoffers⟩
        refine List.forall_mem_cons.mpr ⟨⟨rfl, rfl, rfl⟩, ?_⟩
        refine List.forall_mem_cons.mpr ⟨⟨rfl, rfl, rfl⟩, ?_⟩
        exact List.forall_mem_cons.mpr ⟨⟨rfl, rfl, rfl⟩, hall⟩
      next =>
        refine (ih _).mono ?_
        intro events _ ⟨hall, hoffers⟩
        refine ⟨?_, .cons ⟨after.bytes, rfl⟩ hoffers⟩
        refine List.forall_mem_cons.mpr ⟨⟨rfl, rfl, rfl⟩, ?_⟩
        exact List.forall_mem_cons.mpr ⟨⟨rfl, rfl, rfl⟩, hall⟩

/-- The end of a digest and its print. -/
theorem printEtag_unfinding (rcEtag : Int) (digested : Bytes) :
    (finishDigest rcEtag digested >>= printEtag).Ensures (fun _ => True) fun events _ =>
      ∀ e ∈ events, Unfinding e ∧ offeredTo e = none := by
  have hprint : ∀ finished, (printEtag finished).Ensures (fun _ => True) fun events _ =>
      ∀ e ∈ events, Unfinding e ∧ offeredTo e = none := by
    intro finished
    unfold printEtag
    split
    next =>
      exact .ask_bind fun _ _ => .ret (List.forall_mem_singleton.mpr ⟨⟨rfl, rfl, rfl⟩, rfl⟩)
    next => exact .ret nofun
  unfold finishDigest
  split
  next =>
    refine .ask_bind fun finished _ => (hprint finished).mono fun events _ h => ?_
    exact List.forall_mem_cons.mpr ⟨⟨⟨rfl, rfl, rfl⟩, rfl⟩, h⟩
  next => exact hprint _

/-- A run that has not opened the data set for writing. -/
def Unopened (events : Trace) : Prop :=
  ∀ e ∈ events, openedForWriting e = false ∧ offeredTo e = none

/-- A run that has opened the data set, given `fwrite` a text for each element, and reported success. -/
structure Opened (type : RecordType) (records : List Bytes) (events : Trace) : Prop where
  opened : ∃ e ∈ events, openedForWriting e = true
  offers : List.Forall₂ (Offers type) records (events.filterMap offeredTo)
  success : ∃ e ∈ events, reportsSuccess e = true

/-- **Writing the data set.** However the writes end, success is reported. -/
theorem writeDataset_opened (datasetPath : Text) (type : RecordType) (records : List Bytes) :
    (writeDataset datasetPath type records).Ensures (fun _ => True) fun events _ =>
      (∀ e ∈ events, Unfinding e) ∧ (Unopened events ∨ Opened type records events) := by
  refine .ask_bind fun opened _ => ?_
  cases opened with
  | false =>
    refine .ask_bind fun _ _ => .ret ⟨?_, .inl ?_⟩
    · exact List.forall_mem_cons.mpr ⟨⟨rfl, rfl, rfl⟩,
        List.forall_mem_singleton.mpr ⟨rfl, rfl, rfl⟩⟩
    · exact List.forall_mem_cons.mpr ⟨⟨rfl, rfl⟩, List.forall_mem_singleton.mpr ⟨rfl, rfl⟩⟩
  | true =>
    refine .ask_bind fun rcEtag _ => ?_
    refine .bind_of (writeRecords_offers datasetPath type records ⟨0, rcEtag, []⟩) ?_
    intro written loop ⟨hwritten, hoffers⟩
    change Program.Ensures _ (finishDigest loop.rcEtag loop.digested >>= fun finished =>
      printEtag finished >>= _) _
    rw [← Program.bind_assoc]
    refine .bind_of (printEtag_unfinding loop.rcEtag loop.digested) fun printed etag hprinted => ?_
    refine .ask_bind fun _ _ => .ask_bind fun _ _ => .ret ?_
    have hnone : printed.filterMap offeredTo = [] :=
      List.filterMap_eq_nil_iff.mpr fun e he => (hprinted e he).2
    refine ⟨?_, .inr ⟨⟨_, List.mem_cons_self .., rfl⟩, ?_, ?_⟩⟩
    · refine List.forall_mem_cons.mpr ⟨⟨rfl, rfl, rfl⟩, ?_⟩
      refine List.forall_mem_cons.mpr ⟨⟨rfl, rfl, rfl⟩, ?_⟩
      refine List.forall_mem_append.mpr ⟨hwritten, ?_⟩
      refine List.forall_mem_append.mpr ⟨fun e he => (hprinted e he).1, ?_⟩
      exact List.forall_mem_cons.mpr ⟨⟨rfl, rfl, rfl⟩,
        List.forall_mem_singleton.mpr ⟨rfl, rfl, rfl⟩⟩
    · simp only [List.filterMap_cons, List.filterMap_append, List.filterMap_nil, offeredTo, hnone,
        List.append_nil]
      exact hoffers
    · refine ⟨_, List.mem_cons_of_mem _ (List.mem_cons_of_mem _ (List.mem_append_right _
        (List.mem_append_right _ (List.mem_cons_self ..)))), ?_⟩
      rfl

/-! ## What an update writes -/

variable {type : RecordType} {items : List JsonItem} {records : List Bytes} {events : Trace}

theorem cutShort_of_not_offered {e : Event calls} (h : offeredTo e = none) : cutShort e = false := by
  obtain ⟨c, answer⟩ := e
  cases c <;> first | rfl | cases h

/-- Nothing is wrong with what is not written. -/
theorem Unopened.validated (h : Unopened events) : WritesValidated type items events where
  refused _ e he := (h e he).1
  written _ := by
    rintro ⟨e, he, hopened⟩
    rw [(h e he).1] at hopened
    cases hopened
  held i bytes record hbytes := by
    rw [List.filterMap_eq_nil_iff.mpr fun e he => (h e he).2] at hbytes
    cases hbytes
  ended := by
    rintro ⟨e, he, hshort⟩
    rw [cutShort_of_not_offered (h e he).2] at hshort
    cases hshort

/-- A write that is complete takes what it is given. -/
theorem bytesWritten_of_complete {e : Event calls} (h : cutShort e = false) :
    bytesWritten e = offeredTo e := by
  obtain ⟨c, answer⟩ := e
  cases c
  case fwrite path buffer =>
    simp only [cutShort, Bool.or_eq_false_iff, decide_eq_false_iff_not, Nat.not_lt] at h
    exact congrArg some (List.take_of_length_le h.1)
  all_goals rfl

theorem Opened.filterMap_eq (h : Opened type records events) (hwithin : Within type (records.map some)) :
    events.filterMap offeredTo = records.map (cut type) := by
  have hoffers := h.offers
  clear h
  generalize events.filterMap offeredTo = texts at hoffers
  induction hoffers with
  | nil => rfl
  | cons hoffer _ ih =>
    rw [List.map_cons, hoffer.eq_cut (hwithin _ (List.mem_cons_self ..)),
      ih fun record hrecord => hwithin record (List.mem_cons_of_mem _ hrecord)]

/-- **Of the runs that open the data set**, those write what they validated whose elements are not too
long and whose writes complete. -/
theorem Opened.validated_iff (h : Opened type records events) :
    WritesValidated type (records.map some) events ↔
      Within type (records.map some) ∧ ∀ e ∈ events, cutShort e = false := by
  constructor
  · intro hvalid
    refine ⟨fun record hrecord => ?_, fun e he => ?_⟩
    · obtain ⟨i, hi, hget⟩ := List.mem_iff_getElem.mp hrecord
      rw [List.getElem_map] at hget
      obtain rfl := Option.some.inj hget
      rw [List.length_map] at hi
      have hlength := h.offers.length_eq
      have hoffer := h.offers.get hi (hlength ▸ hi)
      refine Offers.within hoffer (hvalid.held i _ _ ?_ ?_)
      · exact List.getElem?_eq_getElem (hlength ▸ hi)
      · rw [List.getElem?_map, List.getElem?_eq_getElem hi]
        rfl
    · by_contra hshort
      obtain ⟨e', he', hsuccess⟩ := h.success
      have hended := (hvalid.ended ⟨e, he, Bool.eq_true_of_not_eq_false hshort⟩).1 e' he'
      rw [hsuccess] at hended
      cases hended
  · rintro ⟨hwithin, hcomplete⟩
    have hnone : ¬ ∃ e ∈ events, cutShort e = true := by
      rintro ⟨e, he, hshort⟩
      rw [hcomplete e he] at hshort
      cases hshort
    refine ⟨fun hnot => absurd ?_ hnot, fun _ _ _ => ?_, fun i bytes record hbytes hrecord => ?_,
      fun hshort => absurd hshort hnone⟩
    · intro item hitem
      obtain ⟨record, _, rfl⟩ := List.mem_map.mp hitem
      have hlength := hwithin record hitem
      refine ⟨record, rfl, fun b hb => ?_⟩
      rw [List.drop_eq_nil_of_le (by omega)] at hb
      cases hb
    · rw [List.filterMap_congr fun e he => bytesWritten_of_complete (hcomplete e he),
        h.filterMap_eq hwithin, List.filterMap_map]
      exact (congrFun (List.filterMap_eq_map (f := cut type)) records).symm
    · rw [h.filterMap_eq hwithin, List.getElem?_map] at hbytes
      rw [List.getElem?_map] at hrecord
      cases hget : records[i]? with
      | none => rw [hget] at hbytes; cases hbytes
      | some r =>
        rw [hget] at hbytes hrecord
        cases hbytes
        cases hrecord
        exact Nat.le_of_eq (congrArg List.length (formatted_eq_cut type record).symm)

/-! ## An update and its checks -/

variable {datasetPath : Text} {result : Option RecordType} {events' : Trace}

theorem Checked.unopened_append (check : Checked events result) (h : Unopened events') :
    Unopened (events ++ events') :=
  List.forall_mem_append.mpr ⟨fun e he => ⟨(check.checking e he).1, (check.checking e he).2.1⟩, h⟩

theorem Checked.opened_append (check : Checked events result) (h : Opened type records events') :
    Opened type records (events ++ events') := by
  obtain ⟨e, he, hopened⟩ := h.opened
  obtain ⟨e', he', hsuccess⟩ := h.success
  have hnone : events.filterMap offeredTo = [] :=
    List.filterMap_eq_nil_iff.mpr fun e he => (check.checking e he).2.1
  refine ⟨⟨e, List.mem_append_right _ he, hopened⟩, ?_,
    ⟨e', List.mem_append_right _ he', hsuccess⟩⟩
  rw [List.filterMap_append, hnone]
  exact h.offers

/-- How a request goes on after a check. -/
def GoesOn (items : List JsonItem) (result : Option RecordType) (events : Trace) : Prop :=
  Unopened events ∨ ∃ found records, result = some found ∧ items = records.map some ∧
    (∀ record ∈ records, ∀ b ∈ record.drop found.maxRecordLength, b ≤ blank) ∧
    Opened found records events

theorem Checked.writes_iff (check : Checked events result) (goesOn : GoesOn items result events')
    (htype : events.findSome? typeFound = some type) :
    WritesValidated type items (events ++ events') ↔
      (Passes type items → (∃ e ∈ events ++ events', openedForWriting e = true) →
        Within type items ∧ ∀ e ∈ events ++ events', cutShort e = false) := by
  rcases goesOn with hunopened | ⟨found, records, hresult, rfl, hpass, hopened⟩
  · have hall := check.unopened_append hunopened
    refine iff_of_true hall.validated fun _ => ?_
    rintro ⟨e, he, h⟩
    rw [(hall e he).1] at h
    cases h
  · obtain rfl := check.typed type htype found hresult
    have hall := check.opened_append hopened
    rw [hall.validated_iff]
    refine ⟨fun h _ _ => h, fun h => h ?_ hall.opened⟩
    intro item hitem
    obtain ⟨record, hrecord, rfl⟩ := List.mem_map.mp hitem
    exact ⟨record, rfl, hpass record hrecord⟩

theorem Checked.member_iff (check : Checked events result) (hrest : ∀ e ∈ events', Unfinding e)
    (hpds : FindsPds events) (named : Prop) :
    ((∀ e ∈ events ++ events', refusesPds e = false) ↔ named) ↔
      ∀ rest, (events ++ events').findSome? strayBytes = some rest →
        (StandsBehind rest ↔ named) := by
  obtain ⟨rest, hstray, hstands⟩ := check.member hpds
  have hrefuses : (∀ e ∈ events ++ events', refusesPds e = false) ↔ StandsBehind rest := by
    rw [← hstands, List.forall_mem_append]
    exact ⟨And.left, fun h => ⟨h, fun e he => (hrest e he).2.2⟩⟩
  rw [hrefuses, List.findSome?_append, hstray, Option.some_or]
  constructor
  · intro h rest' heq
    rw [← Option.some.inj heq]
    exact h
  · intro h
    exact h rest rfl

theorem Checked.updates_iff (check : Checked events result) (hrest : ∀ e ∈ events', Unfinding e)
    (goesOn : GoesOn items result events') :
    UpdatesValidated datasetPath items (events ++ events') ↔
      UpdateSound datasetPath items (events ++ events') := by
  have hfound : ∀ type, (events ++ events').findSome? typeFound = some type →
      events.findSome? typeFound = some type := by
    intro type htype
    rwa [List.findSome?_append, findSome?_typeFound_of hrest, Option.or_none] at htype
  have hpds : FindsPds (events ++ events') → FindsPds events := by
    rintro ⟨dscb, h, hdscb⟩
    rw [List.findSome?_append, findSome?_foundDscb_of hrest, Option.or_none] at h
    exact ⟨dscb, h, hdscb⟩
  constructor
  · intro h
    exact ⟨fun type htype => (check.writes_iff goesOn (hfound type htype)).mp (h.writes type htype),
      fun hfinds => (check.member_iff hrest (hpds hfinds) _).mp (h.member hfinds)⟩
  · intro h
    exact ⟨fun type htype => (check.writes_iff goesOn (hfound type htype)).mpr
        (h.complete type htype),
      fun hfinds => (check.member_iff hrest (hpds hfinds) _).mpr (h.member hfinds)⟩

theorem updateDatasetWithJSONInternal_updates (datasetPath dsn : Text) (items : List JsonItem) :
    (updateDatasetWithJSONInternal datasetPath dsn items).Ensures (fun _ => True) fun events _ =>
      UpdatesValidated datasetPath items events ↔ UpdateSound datasetPath items events := by
  refine .bind_of (checkDatasetType_checked datasetPath dsn) fun events result check => ?_
  cases result with
  | none => exact .ret (check.updates_iff nofun (.inl nofun))
  | some found =>
    dsimp only
    split
    next message herror =>
      refine .ask_bind fun _ _ => .ret (check.updates_iff ?_ (.inl ?_))
      · refine List.forall_mem_singleton.mpr ⟨rfl, rfl, decide_eq_false fun heq => ?_⟩
        exact validateRecords_error herror (congrArg Message.args (Option.some.inj heq))
      · exact List.forall_mem_singleton.mpr ⟨rfl, rfl⟩
    next records hok =>
      obtain ⟨hitems, hpass⟩ := validateRecords_ok hok
      refine (writeDataset_opened datasetPath found records).mono ?_
      rintro events' _ ⟨hrest, hopen⟩
      refine check.updates_iff hrest (hopen.imp_right fun hopened => ?_)
      exact ⟨found, records, rfl, hitems, hpass, hopened⟩

/-- **Which updates write what they validated.** -/
theorem updatesValidated_iff {datasetPath dsn : Text} {items : List JsonItem} {events : Trace}
    (runs : (updateDatasetWithJSONInternal datasetPath dsn items).Runs events ()) :
    UpdatesValidated datasetPath items events ↔ UpdateSound datasetPath items events :=
  (updateDatasetWithJSONInternal_updates datasetPath dsn items).of_runs runs fun _ _ => trivial

/-- A data set of fixed-length records of four bytes that is found, opens, and is written to. -/
def sampleUpdateAnswers (dsorg : UInt8) (behind : Bytes) (taken : Bytes → Written) :
    (c : Call) → c.Answer
  | .returnEntries _ => [⟨'A', some ['V', 'O', 'L', '0', '0', '1']⟩]
  | .obtainDSCB1 .. => some ⟨List.replicate 38 0 ++ [dsorg, 0x00, 0x80, 0x00, 0x00, 0x00, 0x00, 0x04]⟩
  | .fopen .. => true
  | .fwrite _ buffer => taken buffer
  | .stray => ⟨0, behind⟩
  | c => c.anyAnswer

def sampleUpdatePath : Text := ['/', '/', apostrophe, 'A', '.', 'B', apostrophe]

/-- The update of `A.B` with one record. -/
def sampleUpdate (record : Bytes) : Handler Unit :=
  updateDatasetWithJSONInternal sampleUpdatePath (extractDatasetAndMemberName sampleUpdatePath).dsn
    [some record]

/-- Every byte is taken. -/
def takesAll (buffer : Bytes) : Written := ⟨buffer.length, false⟩

/-- One record in a data set that is found and takes it. -/
theorem updatesValidated_iff_sample :
    UpdatesValidated sampleUpdatePath [some [0xC1]]
        ((sampleUpdate [0xC1]).exec (sampleUpdateAnswers 0x40 [] takesAll)).1 ↔
      UpdateSound sampleUpdatePath [some [0xC1]]
        ((sampleUpdate [0xC1]).exec (sampleUpdateAnswers 0x40 [] takesAll)).1 :=
  updatesValidated_iff (Program.runs_exec _ _)

/-- A blank behind four bytes makes the length of the write five, and a tab there is not refused; a
write that takes nothing ends in success; and a partitioned data set is written to without a member if
something stands behind its name. -/
theorem update_not_validated :
    (∃ events, (sampleUpdate [0xC1, 0xC2, 0xC3, 0xC4, 0x40]).Runs events () ∧
      ¬ UpdatesValidated sampleUpdatePath [some [0xC1, 0xC2, 0xC3, 0xC4, 0x40]] events) ∧
    (∃ events, (sampleUpdate [0xC1, 0xC2, 0xC3, 0xC4, 0x05]).Runs events () ∧
      ¬ UpdatesValidated sampleUpdatePath [some [0xC1, 0xC2, 0xC3, 0xC4, 0x05]] events) ∧
    (∃ events, (sampleUpdate [0xC1]).Runs events () ∧ (∃ e ∈ events, cutShort e = true) ∧
      ¬ UpdatesValidated sampleUpdatePath [some [0xC1]] events) ∧
    ∃ events, (sampleUpdate [0xC1]).Runs events () ∧ FindsPds events ∧
      ¬ UpdatesValidated sampleUpdatePath [some [0xC1]] events := by
  refine ⟨⟨_, Program.runs_exec (sampleUpdateAnswers 0x40 [] takesAll) _, fun h => ?_⟩,
    ⟨_, Program.runs_exec (sampleUpdateAnswers 0x40 [] takesAll) _, fun h => ?_⟩,
    ⟨_, Program.runs_exec (sampleUpdateAnswers 0x40 [] fun _ => ⟨0, true⟩) _, ?_, fun h => ?_⟩,
    ⟨_, Program.runs_exec (sampleUpdateAnswers 0x02 [0xC1] takesAll) _, ?_, fun h => ?_⟩⟩
  · exact absurd ((h.writes ⟨4, true⟩ rfl).held 0 _ _ rfl rfl) (by decide)
  · have hopens := (h.writes ⟨4, true⟩ rfl).refused
      (fun hall => by
        obtain ⟨record, heq, hblank⟩ := hall _ (List.mem_singleton.mpr rfl)
        cases heq
        cases hblank 0x05 (by decide))
      ⟨.fopen sampleUpdatePath "wb, recfm=*, type=record", true⟩
      (List.mem_of_getElem? (i := 3) rfl)
    cases hopens
  · exact ⟨_, List.mem_of_getElem? (i := 6) rfl, rfl⟩
  · have hended := (h.writes ⟨4, true⟩ rfl).ended ⟨_, List.mem_of_getElem? (i := 6) rfl, rfl⟩
    exact absurd hended.1 (by decide)
  · exact ⟨_, rfl, by decide, by decide⟩
  · have hnamed := (h.member ⟨_, rfl, by decide, by decide⟩).mp (by decide)
    cases hnamed

end Zss.Datasets
