import Zss.Datasets.ResponseTexts
import Zss.Datasets.Vsam

/-!
# The texts that the services print

`Placed` says of a call that the message it prints, if it prints one, is one of `ResponseText`, with
names in it that were accepted, and goes into the array of that place. The services that read and
update data sets, with VSAM or without, make no other calls: their handlers are gone through one by
one.
-/

namespace Zss.Datasets

open Zss.Lib

/-! ## What is printed -/

/-- The array that a service prints the message of a response into, by the format. -/
def bufferOf (format : String) : Option Nat :=
  if format = "Dataset '%44.44s(%8.8s)' busy (%s)" ∨
      format = "Device not available for dataset '%44.44s(%8.8s)' (%s)" ∨
      format = "Catalog not available for dataset '%44.44s(%8.8s)' (%s)" ∨
      format = "DYNALLOC failed with RC = %d, DYN RC = %d, RSN = 0x%08X, dsn='%44.44s(%8.8s)', (%s)"
    then some 100
  else if format = "Record #%d with contents \"%s\" is longer than the max record length of %d" ∨
      format = "Array position %d is not a string, but must be for record updating" ∨
      format = "Updated dataset %s with %d records" then some 1024
  else none

/-- The message that a response was printed from, with its array. A message without values is sent as
it stands; those of the responses with status 201 are printed within bounds, or before. -/
def Response.formatted (response : Response) : Option Formatted :=
  match response.msg with
  | some ⟨format, arg :: args⟩ =>
    if response.status = 201 then none
    else (bufferOf format).map fun capacity => ⟨capacity, ⟨format, arg :: args⟩⟩
  | _ => none

/-- The message that a call prints, with its array. -/
def CopyCall.formatted : CopyCall → Option Formatted
  | .sprintf _ capacity message => some ⟨capacity, message⟩
  | .base (.respond response) => response.formatted
  | _ => none

/-- What a call prints is the text of a place. -/
def Placed (c : CopyCall) : Prop :=
  ∀ formatted, c.formatted = some formatted →
    ∃ text : ResponseText, text.Accepted ∧ formatted = text.formatted

/-- The same of a call of a service that does not copy. -/
def BasePlaced (c : Call) : Prop := Placed (.base c)

theorem placed_of_none {c : CopyCall} (h : c.formatted = none) : Placed c := by
  intro formatted hformatted
  rw [h] at hformatted
  cases hformatted

theorem placed_sprintf {text : ResponseText} (h : text.Accepted) (buffer : Buffer) :
    Placed (.sprintf buffer text.capacity text.message) := by
  intro formatted hformatted
  cases hformatted
  exact ⟨text, h, rfl⟩

/-- A text that a service prints with a response is printed into the array of its place. -/
theorem bufferOf_message (text : ResponseText) {capacity : Nat}
    (h : bufferOf text.message.format = some capacity) : capacity = text.capacity := by
  cases text with
  | dynalloc da name site =>
    by_cases hknown : da.Known
    · rcases ResponseText.message_known hknown name site with hmessage | hmessage | hmessage <;>
        rw [hmessage] at h <;> exact (Option.some.inj h).symm
    · rw [ResponseText.message_unknown hknown] at h
      exact (Option.some.inj h).symm
  | tooLong | notString | updated => exact (Option.some.inj h).symm
  | noDscb | doesNotExist | vsamDetected | notOpened | noMember | noStorage | notDeleted
  | memberDeleted | deleted | pasted | pastedAll => exact nomatch h

/-- The response of a place. -/
theorem basePlaced_respond {text : ResponseText} (h : text.Accepted) (status : Nat) :
    BasePlaced (.respond ⟨status, some text.message, [], none⟩) := by
  intro formatted hformatted
  change Response.formatted _ = _ at hformatted
  unfold Response.formatted at hformatted
  split at hformatted
  next format arg args hmessage =>
    rw [Option.some.injEq] at hmessage
    split at hformatted
    · cases hformatted
    · obtain ⟨capacity, hbuffer, rfl⟩ := Option.map_eq_some_iff.mp hformatted
      have hcapacity : capacity = text.capacity :=
        bufferOf_message text (hmessage.symm ▸ hbuffer)
      exact ⟨text, h, by rw [ResponseText.formatted, hmessage, hcapacity]⟩
  next => cases hformatted

theorem respondWithError_plain (status : Nat) (text : String) :
    (respondWithError status text).Asks BasePlaced :=
  .ask (placed_of_none rfl)

theorem respondWithError_placed {text : ResponseText} (h : text.Accepted) (status : Nat) :
    (respondWithError status text.message).Asks BasePlaced :=
  .ask (basePlaced_respond h status)

theorem respondWithError_dynalloc (da : Dynalloc) (name : DatasetAndMember) (site : Char)
    (status : Nat) :
    (respondWithError status (getDYNALLOCErrorCodeAndMsg da name [site]).2).Asks BasePlaced :=
  have h : (ResponseText.dynalloc da name site).Accepted := trivial
  respondWithError_placed h status

/-! ## Reading -/

section

variable (dsn ddPath filename datasetPath : Text) (rcEtag : Int) (digested : Bytes)

/-- A call that prints no message. -/
theorem silent {c : Call} (h : CopyCall.formatted (.base c) = none) : BasePlaced c :=
  placed_of_none h

theorem getVolserForDataset_placed : (getVolserForDataset dsn).Asks BasePlaced := by
  unfold getVolserForDataset
  split
  · exact .ret _
  · exact .ask_bind (silent rfl) fun _ => .ret _

theorem lookupDscb_placed : (lookupDscb dsn).Asks BasePlaced := by
  refine .bind (getVolserForDataset_placed dsn) fun volser => ?_
  cases volser with
  | none => exact .ret _
  | some volser => exact .ask (silent rfl)

theorem getLreclOrRespondError_placed : (getLreclOrRespondError dsn ddPath).Asks BasePlaced := by
  refine .ask_bind (silent rfl) fun opened => ?_
  split
  · refine .bind (lookupDscb_placed dsn) fun dscb => ?_
    cases dscb with
    | some dscb =>
      refine .ask_bind (silent rfl) fun _ => ?_
      split
      · exact .bind (respondWithError_plain ..) fun _ => .ret _
      · exact .ret _
    | none =>
      refine .ask_bind (silent rfl) fun info => ?_
      cases info with
      | some info =>
        refine .ask_bind (silent rfl) fun _ => ?_
        split
        · exact .bind (respondWithError_plain ..) fun _ => .ret _
        · exact .ret _
      | none =>
        exact .ask_bind (silent rfl) fun _ => .bind (respondWithError_plain ..) fun _ => .ret _
  · exact .bind (respondWithError_plain ..) fun _ => .ret _

theorem finishDigest_placed : (finishDigest rcEtag digested).Asks BasePlaced := by
  unfold finishDigest
  split
  · exact .ask (silent rfl)
  · exact .ret _

theorem printEtag_placed (finished : Finished) : (printEtag finished).Asks BasePlaced := by
  unfold printEtag
  split
  · exact .ask_bind (silent rfl) fun _ => .ret _
  · exact .ret _

theorem digestReads_placed (reads : List Read) :
    (digestReads reads rcEtag digested).Asks BasePlaced := by
  induction reads generalizing rcEtag digested with
  | nil => exact .ret _
  | cons read reads ih =>
    unfold digestReads
    split
    · exact .ask_bind (silent rfl) fun _ => ih _ _
    · split
      · exact .ret _
      · exact ih _ _

theorem getDatasetETag_placed (recordLength : Nat) :
    (getDatasetETag filename recordLength).Asks BasePlaced := by
  refine .ask_bind (silent rfl) fun opened => ?_
  split
  · refine .ask_bind (silent rfl) fun rcEtag => ?_
    split
    · exact .ask_bind (silent rfl) fun _ => .ret _
    · refine .ask_bind (silent rfl) fun reads => ?_
      refine .bind (digestReads_placed _ _ reads) fun (rcEtag, digested) => ?_
      refine .ask_bind (silent rfl) fun _ => ?_
      exact .bind (finishDigest_placed rcEtag digested) printEtag_placed
  · exact .ask_bind (silent rfl) fun _ => printEtag_placed _

theorem streamReads_placed (reads : List Read) :
    (streamReads reads rcEtag digested).Asks BasePlaced := by
  induction reads generalizing rcEtag digested with
  | nil => exact .ret _
  | cons read reads ih =>
    unfold streamReads
    split
    · split
      · exact .ask_bind (silent rfl) fun _ => .bind (ih _ _) fun _ => .ret _
      · exact .bind (ih _ _) fun _ => .ret _
    · split
      · exact .ret _
      · exact .bind (ih _ _) fun _ => .ret _

theorem streamDataset_placed (recordLength : Nat) :
    (streamDataset filename recordLength).Asks BasePlaced := by
  refine .ask_bind (silent rfl) fun opened => ?_
  split
  · refine .ask_bind (silent rfl) fun rcEtag => .ask_bind (silent rfl) fun reads => ?_
    refine .bind (streamReads_placed _ _ reads) fun (records, rcEtag, digested) => ?_
    refine .ask_bind (silent rfl) fun _ => ?_
    refine .bind (finishDigest_placed rcEtag digested) fun finished => ?_
    exact .bind (printEtag_placed finished) fun _ => .ret _
  · exact .ask_bind (silent rfl) fun _ => .bind (printEtag_placed _) fun _ => .ret _

theorem respondWithDatasetInternal_placed (ddName : Text) :
    (respondWithDatasetInternal dsn ddName).Asks BasePlaced := by
  refine .bind (getLreclOrRespondError_placed ..) fun lrecl => ?_
  split
  · exact .ret _
  · exact .bind (streamDataset_placed ..) fun _ => .ask (silent rfl)

theorem respondWithDataset_placed (absolutePath : Text) :
    (respondWithDataset absolutePath).Asks BasePlaced := by
  unfold respondWithDataset
  split
  · exact respondWithError_plain ..
  · refine .ask_bind (silent rfl) fun da => ?_
    split
    · exact respondWithError_dynalloc da _ 'r' _
    · refine .bind (respondWithDatasetInternal_placed ..) fun _ => ?_
      exact .ask_bind (silent rfl) fun _ => .ret _

/-! ## Updating -/

theorem checkDscbType_placed (dscb : Dscb) : (checkDscbType dscb).Asks BasePlaced := by
  refine .ask_bind (silent rfl) fun rest => ?_
  dsimp only
  split
  · exact .bind (respondWithError_plain ..) fun _ => .ret _
  · split
    · exact .bind (respondWithError_plain ..) fun _ => .ret _
    · split
      · exact .bind (respondWithError_plain ..) fun _ => .ret _
      · exact .ret _

theorem checkFileType_placed : (checkFileType datasetPath).Asks BasePlaced := by
  -- each refusal responds, closes and ends
  have refused : ∀ status (text : String),
      (respondWithError status text >>= fun _ => call (.fclose datasetPath) >>= fun _ =>
        (pure none : Handler (Option RecordType))).Asks BasePlaced := fun status text =>
    .bind (respondWithError_plain status text) fun _ => .ask_bind (silent rfl) fun _ => .ret _
  refine .ask_bind (silent rfl) fun opened => ?_
  split
  · refine .ask_bind (silent rfl) fun info => ?_
    cases info with
    | none => exact refused _ _
    | some info =>
      dsimp only
      split
      · exact refused _ _
      · split
        · exact refused _ _
        · split
          · exact refused _ _
          · exact .ask_bind (silent rfl) fun _ => .ret _
  · exact .bind (respondWithError_plain ..) fun _ => .ret _

theorem checkDatasetType_placed : (checkDatasetType datasetPath dsn).Asks BasePlaced := by
  refine .bind (getVolserForDataset_placed dsn) fun volser => ?_
  cases volser with
  | none => exact checkFileType_placed datasetPath
  | some volser =>
    refine .ask_bind (silent rfl) fun dscb => ?_
    cases dscb with
    | none => exact .ret _
    | some dscb => exact checkDscbType_placed dscb

/-- A check of records fails with the text of a place. -/
theorem validateRecords_text {maxRecordLength i : Nat} {records : List JsonItem} {message : Message}
    (h : validateRecords maxRecordLength i records = .error message) :
    ∃ text : ResponseText, text.Accepted ∧ message = text.message := by
  induction records generalizing i with
  | nil => cases h
  | cons item rest ih =>
    cases item with
    | none =>
      cases h
      exact ⟨.notString i, trivial, rfl⟩
    | some record =>
      unfold validateRecords at h
      split at h
      · cases h
        exact ⟨.tooLong (i + 1) record maxRecordLength, trivial, rfl⟩
      · cases hrest : validateRecords maxRecordLength (i + 1) rest with
        | error message' =>
          rw [hrest] at h
          cases h
          exact ih hrest
        | ok records =>
          rw [hrest] at h
          cases h

theorem writeRecords_placed (type : RecordType) (records : List Bytes) (loop : WriteLoop) :
    (writeRecords datasetPath type records loop).Asks BasePlaced := by
  induction records generalizing loop with
  | nil => exact .ret _
  | cons record rest ih =>
    refine .ask_bind (silent rfl) fun after => .ask_bind (silent rfl) fun written => ?_
    split
    · exact .bind (respondWithError_plain ..) fun _ => .ask_bind (silent rfl) fun _ => .ret _
    · split
      · exact .ask_bind (silent rfl) fun _ => ih _
      · exact ih _

theorem writeDataset_placed (type : RecordType) (records : List Bytes) :
    (writeDataset datasetPath type records).Asks BasePlaced := by
  refine .ask_bind (silent rfl) fun opened => ?_
  split
  · refine .ask_bind (silent rfl) fun rcEtag => ?_
    refine .bind (writeRecords_placed ..) fun loop => ?_
    refine .bind (finishDigest_placed ..) fun finished => ?_
    refine .bind (printEtag_placed finished) fun etag => ?_
    exact .ask_bind (silent rfl) fun _ => .ask_bind (silent rfl) fun _ => .ret _
  · exact respondWithError_plain ..

theorem updateDatasetWithJSONInternal_placed (recordArray : List JsonItem) :
    (updateDatasetWithJSONInternal datasetPath dsn recordArray).Asks BasePlaced := by
  refine .bind (checkDatasetType_placed ..) fun type => ?_
  cases type with
  | none => exact .ret _
  | some type =>
    dsimp only
    split
    next message hrecords =>
      obtain ⟨text, htext, rfl⟩ := validateRecords_text hrecords
      exact respondWithError_placed htext _
    next records _ => exact writeDataset_placed ..

theorem updateAllocated_placed (name : DatasetAndMember) (recordArray : List JsonItem)
    (lastEtag : Option Text) (force : Bool) :
    (updateAllocated datasetPath name ddPath recordArray lastEtag force).Asks BasePlaced := by
  unfold updateAllocated
  split
  · exact updateDatasetWithJSONInternal_placed ..
  · refine .bind (getLreclOrRespondError_placed ..) fun lrecl => ?_
    split
    · exact .ret _
    · refine .bind (getDatasetETag_placed ..) fun eTag => ?_
      cases eTag with
      | none => exact respondWithError_plain ..
      | some eTag =>
        dsimp only
        split
        · exact respondWithError_plain ..
        · exact updateDatasetWithJSONInternal_placed ..

theorem updateDatasetWithJSON_placed (recordArray : List JsonItem) (lastEtag : Option Text)
    (force : Bool) :
    (updateDatasetWithJSON datasetPath recordArray lastEtag force).Asks BasePlaced := by
  unfold updateDatasetWithJSON
  split
  · exact respondWithError_plain ..
  · split
    · exact respondWithError_plain ..
    · refine .ask_bind (silent rfl) fun da => ?_
      split
      · exact respondWithError_dynalloc da _ 'w' _
      · exact .bind (updateAllocated_placed ..) fun _ => .ask_bind (silent rfl) fun _ => .ret _

theorem updateDataset_placed (request : UpdateRequest) (absolutePath : Text) :
    (updateDataset request absolutePath).Asks BasePlaced := by
  refine .ask_bind (silent rfl) fun convertedBody => ?_
  cases convertedBody with
  | none => exact respondWithError_plain ..
  | some convertedBody =>
    refine .ask_bind (silent rfl) fun body => ?_
    cases body with
    | invalid => exact respondWithError_plain ..
    | notObject => exact .ret _
    | object etag records => exact updateDatasetWithJSON_placed ..

end

/-! ## VSAM -/

section

variable (dsn : Text) (component : Component)

theorem searchCatalog_placed : (searchCatalog dsn).Asks BasePlaced := by
  refine .ask_bind (silent rfl) fun entry => ?_
  cases entry with
  | none => exact .bind (respondWithError_plain ..) fun _ => .ret _
  | some entry =>
    dsimp only
    split
    · exact .ask_bind (silent rfl) fun _ => .ret _
    · split
      · exact .ret _
      · exact .bind (respondWithError_plain ..) fun _ => .ret _

theorem lookupACB_placed (key : KeyRef) : (lookupACB key).Asks BasePlaced := by
  refine .ask_bind (silent rfl) fun state => ?_
  cases state with
  | none => exact .ret _
  | some state => exact .ask_bind (silent rfl) fun _ => .ret _

theorem retryDynalloc_placed (left : Nat) (last : Nat × DynallocDD) :
    (retryDynalloc dsn left last).Asks BasePlaced := by
  induction left generalizing last with
  | zero => exact .ret _
  | succ left ih =>
    unfold retryDynalloc
    split
    · exact .ask_bind (silent rfl) fun _ => ih _
    · exact .ret _

theorem allocateDD_placed : (allocateDD dsn).Asks BasePlaced :=
  .ask_bind (silent rfl) fun _ => retryDynalloc_placed dsn _ _

theorem pointFirst_placed (state acb : Addr) (type : VsamType) (keyLen : Nat) :
    (pointFirst state acb type keyLen).Asks BasePlaced := by
  unfold pointFirst
  split
  · exact .ask_bind (silent rfl) fun _ => .ask_bind (silent rfl) fun _ => .ret _
  · exact .ask (silent rfl)

theorem openSession_placed : (openSession dsn component).Asks BasePlaced := by
  refine .bind (allocateDD_placed dsn) fun (ddNumber, da) => ?_
  dsimp only
  split
  · exact .bind (respondWithError_plain ..) fun _ => .ret _
  · refine .ask_bind (silent rfl) fun state => .ask_bind (silent rfl) fun acb => ?_
    cases acb with
    | none => exact .bind (respondWithError_plain ..) fun _ => .ret _
    | some acb =>
      refine .ask_bind (silent rfl) fun _ => .bind (pointFirst_placed ..) fun returnCode => ?_
      split
      · exact .bind (respondWithError_plain ..) fun _ => .ret _
      · exact .ret _

theorem streamVSAMDataset_placed (acb : Addr) (rplParms : Option VsamType) :
    (streamVSAMDataset acb rplParms component).Asks BasePlaced :=
  .ask_bind (silent rfl) fun _ => .ask_bind (silent rfl) fun _ => .ask (silent rfl)

theorem closeSession_placed (acb state pair : Addr) :
    (closeSession acb state pair).Asks BasePlaced :=
  .ask_bind (silent rfl) fun _ => .ask_bind (silent rfl) fun _ => .ask_bind (silent rfl) fun _ =>
    .ask (silent rfl)

theorem serveFound_placed (closeAfter : Bool) (pair state acb : Addr) :
    (serveFound closeAfter component pair state acb).Asks BasePlaced := by
  refine .ask_bind (silent rfl) fun _ => .bind (streamVSAMDataset_placed ..) fun _ => ?_
  split
  · exact closeSession_placed ..
  · exact .ret _

theorem serveOpened_placed (closeAfter : Bool) (pair : Addr) :
    (serveOpened dsn closeAfter component pair).Asks BasePlaced := by
  refine .bind (openSession_placed ..) fun opened => ?_
  cases opened with
  | none => exact .ret _
  | some opened =>
    refine .ask_bind (silent rfl) fun _ => .bind (streamVSAMDataset_placed ..) fun _ => ?_
    split
    · exact closeSession_placed ..
    · exact .ret _

theorem serveComponent_placed (username : UserName) (closeAfter : Bool) :
    (serveComponent dsn username closeAfter component).Asks BasePlaced := by
  refine .ask_bind (silent rfl) fun rest => .ask_bind (silent rfl) fun pair => ?_
  refine .bind (lookupACB_placed _) fun found => ?_
  cases found with
  | none => exact serveOpened_placed ..
  | some found => exact serveFound_placed ..

theorem respondWithVSAMDataset_placed (absolutePath : Text) (username : UserName)
    (closeArg : Option Text) :
    (respondWithVSAMDataset absolutePath username closeArg).Asks BasePlaced := by
  unfold respondWithVSAMDataset
  split
  · exact respondWithError_plain ..
  · refine .bind (searchCatalog_placed _) fun component => ?_
    cases component with
    | none => exact .ret _
    | some component => exact serveComponent_placed ..

theorem checkVSAMRecords_text {maxRecordLength : Int} {i : Nat} {records : List JsonItem}
    {message : Message} (h : checkVSAMRecords maxRecordLength i records = .error message) :
    ∃ text : ResponseText, text.Accepted ∧ message = text.message := by
  induction records generalizing i with
  | nil => cases h
  | cons item rest ih =>
    cases item with
    | none =>
      cases h
      exact ⟨.notString i, trivial, rfl⟩
    | some record =>
      unfold checkVSAMRecords at h
      split at h
      · cases h
        exact ⟨.tooLong (i + 1) record maxRecordLength, trivial, rfl⟩
      · cases hrest : checkVSAMRecords maxRecordLength (i + 1) rest with
        | error message' =>
          rw [hrest] at h
          cases h
          exact ih hrest
        | ok records =>
          rw [hrest] at h
          cases h

theorem putRecords_placed (outACB : Option Addr) (records : List Bytes) (recordsWritten : Nat) :
    (putRecords outACB records recordsWritten).Asks BasePlaced := by
  induction records generalizing recordsWritten with
  | nil => exact .ret _
  | cons record rest ih =>
    refine .ask_bind (silent rfl) fun status => ?_
    split
    · exact .bind (respondWithError_plain ..) fun _ => .ret _
    · exact ih _

theorem updateVSAMDatasetWithJSON_placed (recordArray : List JsonItem) (username : UserName) :
    (updateVSAMDatasetWithJSON recordArray dsn username).Asks BasePlaced := by
  refine .ask_bind (silent rfl) fun rest => .bind (lookupACB_placed _) fun found => ?_
  refine .ask_bind (silent rfl) fun maxRecordLength => ?_
  split
  next message hrecords =>
    obtain ⟨text, htext, rfl⟩ := checkVSAMRecords_text hrecords
    exact respondWithError_placed htext _
  next records _ =>
    refine .bind (putRecords_placed ..) fun recordsWritten => ?_
    have h : (ResponseText.updated dsn recordsWritten).Accepted := trivial
    exact respondWithError_placed h HTTP_STATUS_OK

theorem updateVSAMDataset_placed (contentBody : Bytes) (username : UserName)
    (absolutePath : Text) :
    (updateVSAMDataset contentBody username absolutePath).Asks BasePlaced := by
  refine .ask_bind (silent rfl) fun convertedBody => ?_
  cases convertedBody with
  | none => exact respondWithError_plain ..
  | some convertedBody =>
    refine .ask_bind (silent rfl) fun body => ?_
    cases body with
    | invalid => exact respondWithError_plain ..
    | notObject => exact .ret _
    | object etag records => exact updateVSAMDatasetWithJSON_placed ..

theorem serveVSAMDatasetContents_placed (request : VsamRequest) :
    (serveVSAMDatasetContents request).Asks BasePlaced := by
  unfold serveVSAMDatasetContents
  cases request.method with
  | methodGET => exact respondWithVSAMDataset_placed ..
  | methodPOST => exact updateVSAMDataset_placed ..

end

end Zss.Datasets
