import Zss.Datasets.Creation

/-!
# Copying a data set

`copyDatasetAndRespond` is the copy service. It pastes a data set or a member as a data set, as a
member of a partitioned data set, or a whole partitioned data set member by member;
`streamDatasetForCopyAndRespond` copies the records of each. What a step has made is deleted where the
step goes wrong in `readWriteToDatasetAndRespond` or below it.
-/

namespace Zss.Datasets

open Zss.Lib Zss.Lib.Json

def ERROR_COPYING_DATASET : Int := -19

/-! ## Records -/

/-- The capacity of the array that records are read into. -/
def RecordInfo.bufferSize (info : RecordInfo) : Nat := (info.recordLength + 1).toNat

/-- A record right-padded with blanks, if the target is found to be fixed. -/
def padRecord (info : RecordInfo) (bytes : Bytes) : CopyHandler Bytes := do
  if (bytes.length : Int) < info.recordLength then
    if ← equalsText info.recordFormat ['F'] then
      copyCall (.fill .record info.bufferSize info.recordLength.toNat)
      pure (bytes ++ List.replicate (info.recordLength.toNat - bytes.length) blank)
    else pure bytes
  else pure bytes

/-- A write is taken for good: it was complete, or the target is found to be variable. -/
def writeAccepted (info : RecordInfo) (buffer : Bytes) (written : Written) : CopyHandler Bool :=
  if written.count = buffer.length then pure true else equalsText info.recordFormat ['V']

/-- How the loop over the records ends. -/
inductive LoopEnd where
  | copied (recordsWritten : Int) (rcEtag : Int) (digested : Bytes)
  | writeError
  | readError

/-- The loop of `streamDatasetForCopyAndRespond`. -/
def copyReads (info : RecordInfo) (targetDataset : Text) :
    List Read → Int → Int → Bytes → CopyHandler LoopEnd
  | [], recordsWritten, rcEtag, digested => pure (.copied recordsWritten rcEtag digested)
  | read :: reads, recordsWritten, rcEtag, digested => do
    copyCall (.fill .record info.bufferSize read.bytes.length)
    if 0 < read.bytes.length ∧ read.error = false then
      let buffer ← padRecord info read.bytes
      let written ← base (call (.fwrite targetDataset buffer))
      -- the count is never negative
      if ← writeAccepted info buffer written then
        if rcEtag = 0 then
          let writtenBytes := buffer.take written.count
          let rcEtag ← base (call (.icsfDigestUpdate writtenBytes))
          copyReads info targetDataset reads (wrap32 (recordsWritten + 1)) rcEtag
            (digestedAfter rcEtag digested writtenBytes)
        else copyReads info targetDataset reads (wrap32 (recordsWritten + 1)) rcEtag digested
      else pure .writeError
    else if read.error then pure .readError
    else copyReads info targetDataset reads recordsWritten rcEtag digested

/-- The return code of a copy, with the message and the etag that it leaves. -/
structure CopyResult where
  rc : Int
  msg : Message
  etag : CString

/-- A copy that has failed leaves nothing to be sent. -/
def CopyResult.error (rc : Int) : CopyResult := ⟨rc, "", .unwritten⟩

def copyMessage (targetDataset : Text) (recordsWritten : Int) : Message :=
  ⟨"Pasted dataset %s with %d records", [.text targetDataset, .int recordsWritten]⟩

/-- The end of a copy that went well. -/
def finishCopy (sourceDataset targetDataset : Text) (recordsWritten rcEtag : Int) (digested : Bytes) :
    CopyHandler CopyResult := do
  let finished ← base (finishDigest rcEtag digested)
  copyCall (.sprintf .msgBuffer 128 (copyMessage targetDataset recordsWritten))
  let etag ← base (printEtag finished)
  let _ ← base (call (.fclose sourceDataset))
  let _ ← base (call (.fclose targetDataset))
  pure ⟨0, copyMessage targetDataset recordsWritten,
    match etag with
    | some etag => .live etag
    | none => .unwritten⟩

/-- Both files closed, an error sent, and the target deleted. -/
def abandonCopy (sourceDataset targetDataset : Text) (msg : Message) : CopyHandler CopyResult := do
  let _ ← base (call (.fclose sourceDataset))
  let _ ← base (call (.fclose targetDataset))
  base (respondWithError HTTP_STATUS_INTERNAL_SERVER_ERROR msg)
  let _ ← deleteDatasetOrMember targetDataset
  pure (.error ERROR_COPYING_DATASET)

/-- `streamDatasetForCopyAndRespond` once both files are open. -/
def streamRecords (sourceDataset : Text) (sourceRecordLen : Nat) (targetDataset : Text)
    (isTargetMember : Bool) : CopyHandler CopyResult := do
  let rcEtag ← base (call .icsfDigestInit)
  let info ← getTargetDsnRecordInfo targetDataset
  if isTargetMember ∧ info.recordLength < sourceRecordLen then
    abandonCopy sourceDataset targetDataset
      "Cannot copy dataset. Record length for target dataset is shorter than the source"
  else
    let reads ← base (call (.fread sourceDataset "rb, type=record" sourceRecordLen))
    match ← copyReads info targetDataset reads 0 rcEtag [] with
    | .writeError =>
      abandonCopy sourceDataset targetDataset "Copy Failed. Error writing to dataset"
    | .readError =>
      abandonCopy sourceDataset targetDataset "Copy Failed. Error writing to the dataset"
    | .copied recordsWritten rcEtag digested =>
      finishCopy sourceDataset targetDataset recordsWritten rcEtag digested

/-- `streamDatasetForCopyAndRespond`. -/
def streamDatasetForCopyAndRespond (sourceDataset : Text) (sourceRecordLen : Nat)
    (targetDataset : Text) (isTargetMember : Bool) : CopyHandler CopyResult := do
  if ← base (call (.fopen sourceDataset "rb, type=record")) then
    if ← base (call (.fopen targetDataset "wb, recfm=*, type=record")) then
      streamRecords sourceDataset sourceRecordLen targetDataset isTargetMember
    else
      let _ ← deleteDatasetOrMember targetDataset
      base (respondWithError HTTP_STATUS_NOT_FOUND
        "Target dataset could not be opened or does not exist")
      let _ ← base (call (.fclose sourceDataset))
      pure (.error ERROR_OPENING_DATASET)
  else
    let _ ← deleteDatasetOrMember targetDataset
    base (respondWithError HTTP_STATUS_NOT_FOUND
      "Source dataset could not be opened or does not exist")
    pure (.error ERROR_OPENING_DATASET)

/-- `readWriteToDatasetAndRespond`. -/
def readWriteToDatasetAndRespond (sourceDataset targetDataset : Text) (isTargetMember : Bool) :
    CopyHandler CopyResult := do
  let name := extractDatasetAndMemberName sourceDataset
  let da ← base (call (.dynallocAllocDataset name.dsn name.memberName "DYNALLOC_DISP_SHR"))
  if da.rc ≠ .ok then
    let _ ← deleteDatasetOrMember targetDataset
    let (responseCode, responseMessage) ← dynallocMessage da name
    base (respondWithMessage responseCode responseMessage)
    pure (.error ERROR_ALLOCATING_DATASET)
  else
    let ddPath := ddPathOf da.ddName
    let lrecl ← base (getLreclOrRespondError name.dsn ddPath)
    if lrecl = 0 then
      let _ ← base (call (.dynallocUnallocDatasetByDDName da.ddName))
      let _ ← deleteDatasetOrMember targetDataset
      pure (.error ERROR_COPYING_DATASET)
    else
      let result ← streamDatasetForCopyAndRespond ddPath lrecl targetDataset isTargetMember
      let _ ← base (call (.dynallocUnallocDatasetByDDName da.ddName))
      pure result

/-! ## Pasting -/

/-- The response to a copy, if it went well. -/
def respondCopied (result : CopyResult) : CopyHandler Unit := do
  if 0 ≤ result.rc then
    let etag ← readString result.etag
    base (call (.respond ⟨201, some result.msg, [], some etag⟩))
  else pure ()

/-- `pasteAsDatasetMember`. -/
def pasteAsDatasetMember (sourceDataset targetDataset : Text) : CopyHandler Unit := do
  let rc ← createDataset targetDataset []
  if rc ≠ 0 then pure ()
  else
    let result ← readWriteToDatasetAndRespond sourceDataset targetDataset true
    respondCopied result

/-- The name in a path without a member. -/
def datasetOfPath (path : Text) : Text := (path.drop 3).dropLast

/-- The path of a member. -/
def memberPath (dataset memName : Text) : Text :=
  ['/', '/', apostrophe] ++ dataset ++ ['('] ++ memName ++ [')', apostrophe]

/-- The loop of `pastePDSDirectory`: it came to the end. -/
def pasteMembers (sourceDataset targetDataset : Text) : List Json → CopyHandler Bool
  | [] => pure true
  | memberObject :: members =>
    match memberObject.asObject with
    | none => pasteMembers sourceDataset targetDataset members
    | some properties => do
      let memName ← readString (.ofOption (properties.getString "name"))
      let newMemberName := memberPath (datasetOfPath targetDataset) memName
      copyCall (.fill .memberName 44 (newMemberName.length + 1))
      let sourceMemberName := memberPath (datasetOfPath sourceDataset) memName
      copyCall (.fill .memberName 44 (sourceMemberName.length + 1))
      let rc ← createDataset newMemberName []
      if rc ≠ 0 then pure false
      else
        let result ← readWriteToDatasetAndRespond sourceMemberName newMemberName false
        if result.rc < 0 then pure false
        else pasteMembers sourceDataset targetDataset members

/-- `pastePDSDirectory`. -/
def pastePDSDirectory (metadata : Json) (sourceDataset targetDataset : Text) :
    CopyHandler Unit := do
  match firstDataset metadata with
  | none => pure ()
  | some dataset =>
    if ← pasteMembers sourceDataset targetDataset (dataset.getArray "members") then
      let msg : Message := ⟨"Pasted dataset %s", [.text targetDataset]⟩
      copyCall (.sprintf .msgBuffer 128 msg)
      base (call (.respond ⟨201, some msg, [], none⟩))
    else pure ()

/-! ## The copy service -/

/-- The target is made, and the source is pasted into it. -/
def pasteAsDataset (metadata : Json) (attributes : CopyAttributes)
    (sourceDataset targetDataset : Text) : CopyHandler Unit := do
  let rc ← createDataset targetDataset attributes.datasetAttributes
  if rc ≠ 0 then pure ()
  else if attributes.isPDS = 1 then
    if isDamemberEmpty (extractDatasetAndMemberName targetDataset).memberName then
      pastePDSDirectory metadata sourceDataset targetDataset
    else
      base (respondWithError HTTP_STATUS_BAD_REQUEST
        "Invalid Target. Cannot paste PDS(E) as a member")
  else
    let result ← readWriteToDatasetAndRespond sourceDataset targetDataset false
    respondCopied result

/-- A source that exists is copied to a target that does not. -/
def copyToNew (sourceDataset targetDataset : Text) : CopyHandler Unit := do
  let source := extractDatasetAndMemberName sourceDataset
  let isSourceMember := !isDamemberEmpty source.memberName
  let isTargetMember := !isDamemberEmpty (extractDatasetAndMemberName targetDataset).memberName
  let metadata ←
    getDatasetMetadata source sourceDataset (some "true") (some "true") (some "true")
  let attributes ← setAttrForDSCopyAndRespondIfError metadata isSourceMember
  if attributes.isPDS < 0 then pure ()
  else if isTargetMember ∧ (attributes.isPDS = 0 ∨ isSourceMember) then
    let targetDsnExists ← checkIfDatasetExistsAndRespond targetDataset false
    if targetDsnExists < 0 then pure ()
    else if targetDsnExists = 0 then
      base (respondWithJsonError HTTP_STATUS_BAD_REQUEST
        "Cannot paste member. Target dataset does not exist.")
    else pasteAsDatasetMember sourceDataset targetDataset
  else pasteAsDataset metadata attributes sourceDataset targetDataset

/-- `copyDatasetAndRespond` for valid paths. -/
def copyValid (sourceDataset targetDataset : Text) : CopyHandler Unit := do
  let isSourceMember := !isDamemberEmpty (extractDatasetAndMemberName sourceDataset).memberName
  let isTargetMember := !isDamemberEmpty (extractDatasetAndMemberName targetDataset).memberName
  let type ← base (getCSIType sourceDataset)
  if type.any isVsam then
    base (respondWithError HTTP_STATUS_BAD_REQUEST "Copy not supported for VSAM DATASET")
  else
    let srcDsnExists ← checkIfDatasetExistsAndRespond sourceDataset isSourceMember
    if srcDsnExists < 0 then pure ()
    else if srcDsnExists = 0 then
      base (respondWithJsonError HTTP_STATUS_BAD_REQUEST "Source dataset does not exist")
    else
      let tarDsnExists ← checkIfDatasetExistsAndRespond targetDataset isTargetMember
      if tarDsnExists < 0 then pure ()
      else if tarDsnExists = 1 then
        base (respondWithJsonError HTTP_STATUS_BAD_REQUEST "Target dataset already exists")
      else copyToNew sourceDataset targetDataset

/-- `copyDatasetAndRespond`. -/
def copyDatasetAndRespond (sourceDataset targetDataset : Option Text) : CopyHandler Unit :=
  let source := sourceDataset.getD []
  let target := targetDataset.getD []
  if source.length < 1 then
    base (respondWithError HTTP_STATUS_BAD_REQUEST "No source dataset name given")
  else if target.length < 1 then
    base (respondWithError HTTP_STATUS_BAD_REQUEST "No target dataset name given")
  else if !isDatasetPathValid source then
    base (respondWithError HTTP_STATUS_BAD_REQUEST "Invalid dataset path")
  else if !isDatasetPathValid target then
    base (respondWithError HTTP_STATUS_BAD_REQUEST "Invalid dataset path")
  else copyValid source target

end Zss.Datasets
