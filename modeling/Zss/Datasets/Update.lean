import Zss.Datasets.Read

/-!
# Updating a data set

`updateDataset` converts and parses the body; `updateDatasetWithJSON` allocates the data set and, if
the client does not force the update, compares the etag of its contents with the client's;
`updateDatasetWithJSONInternal` checks the type of the data set and the records, opens the data set
for writing, and writes a record for each of the body's with a digest of its own.
-/

namespace Zss.Datasets

open Zss.Lib

/-! ## Checks -/

/-- What a type check leaves: the record length, and whether records are padded to it. -/
structure RecordType where
  maxRecordLength : Nat
  isFixed : Bool
deriving DecidableEq

/-- What the caller of `isSupportedWriteDsorg` gets. -/
def WriteDsorg.isSupported (rest : Stray) : WriteDsorg → Bool
  | .supported => true
  | .supportedPds => true
  | .unsupported => false
  | .undefined => rest.int ≠ 0

/-- The data set type check where the DSCB was found. `none` where it has responded. -/
def checkDscbType (dscb : Dscb) : Handler (Option RecordType) := do
  let rest ← call .stray
  -- the eight bytes after the data set name are taken for the member name
  let isMember := (rest.bytes.take 8).any (· ≠ blank)
  if !(isSupportedWriteDsorg dscb).isSupported rest then
    respondWithError HTTP_STATUS_BAD_REQUEST "Unsupported dataset type"
    pure none
  else if isSupportedWriteDsorg dscb = .supportedPds && !isMember then
    respondWithError HTTP_STATUS_BAD_REQUEST "Overwrite of PDS not supported"
    pure none
  else if getRecordLengthType dscb = some 'U' then
    respondWithError HTTP_STATUS_BAD_REQUEST "Undefined-length dataset"
    pure none
  else pure (some ⟨getMaxRecordLength dscb, getRecordLengthType dscb = some 'F'⟩)

/-- The data set type check where the volume was not found. `none` where it has responded. -/
def checkFileType (datasetPath : Text) : Handler (Option RecordType) := do
  if ← call (.fopen datasetPath "rb, recfm=*, type=record") then
    match ← call (.fldata datasetPath) with
    | none =>
      respondWithError HTTP_STATUS_INTERNAL_SERVER_ERROR "Could not read dataset information"
      let _ ← call (.fclose datasetPath)
      pure none
    | some info =>
      if info.dsorgVSAM || info.dsorgHFS || info.dsorgHiper then
        respondWithError HTTP_STATUS_BAD_REQUEST "Dataset type not supported"
        let _ ← call (.fclose datasetPath)
        pure none
      else if info.maxreclen = 0 then
        respondWithError HTTP_STATUS_INTERNAL_SERVER_ERROR "Could not discover record length"
        let _ ← call (.fclose datasetPath)
        pure none
      else if !info.recfmF && info.recfmU then
        respondWithError HTTP_STATUS_BAD_REQUEST "Undefined-length dataset"
        let _ ← call (.fclose datasetPath)
        pure none
      else
        let _ ← call (.fclose datasetPath)
        pure (some ⟨info.maxreclen, info.recfmF⟩)
  else
    respondWithError HTTP_STATUS_NOT_FOUND "File could not be opened or does not exist"
    pure none

/-- The data set type check. Where the VTOC does not have the data set, nothing is checked. -/
def checkDatasetType (datasetPath dsn : Text) : Handler (Option RecordType) := do
  match ← getVolserForDataset dsn with
  | some volser =>
    match ← call (.obtainDSCB1 dsn volser) with
    | some dscb => checkDscbType dscb
    | none => pure (some ⟨80, false⟩)
  | none => checkFileType datasetPath

/-- The record length validation, from the record at an index on: what to respond, or the records. -/
def validateRecords (maxRecordLength : Nat) : Nat → List JsonItem → Except Message (List Bytes)
  | _, [] => .ok []
  | i, some record :: rest =>
    if (record.drop maxRecordLength).any (0x40 < ·) then
      .error ⟨"Record #%d with contents \"%s\" is longer than the max record length of %d",
        [.int (i + 1), .bytes record, .int maxRecordLength]⟩
    else (validateRecords maxRecordLength (i + 1) rest).map (record :: ·)
  | i, none :: _ =>
    .error ⟨"Array position %d is not a string, but must be for record updating", [.int i]⟩

/-! ## Writing -/

/-- What `snprintf` would print of a record, if the buffer held it. -/
def printRecord (type : RecordType) (record : Bytes) : Bytes :=
  let record := if record = [] then [blank] else record
  if type.isFixed then record ++ List.replicate (type.maxRecordLength - record.length) blank
  else record

/-- The bytes given to `fwrite`: as many as `snprintf` would have printed, from a buffer that holds
no more than the record length, the final zero after it, and then whatever stands there. -/
def offered (maxRecordLength : Nat) (printed after : Bytes) : Bytes :=
  if printed.length ≤ maxRecordLength then printed
  else (printed.take maxRecordLength ++ 0 ::
    (after ++ List.replicate printed.length 0)).take printed.length

/-- What the write loop has come to. -/
structure WriteLoop where
  recordsWritten : Nat
  rcEtag : Int
  digested : Bytes

/-- The write loop. -/
def writeRecords (datasetPath : Text) (type : RecordType) :
    List Bytes → WriteLoop → Handler WriteLoop
  | [], loop => pure loop
  | record :: rest, loop => do
    let after ← call .stray
    let buffer := offered type.maxRecordLength (printRecord type record) after.bytes
    let written ← call (.fwrite datasetPath buffer)
    let recordsWritten := loop.recordsWritten + 1
    -- `bytesWritten` is an `int`, but `fwrite` returns no negative count
    if (written.count : Int) < 0 ∧ written.error then
      respondWithError HTTP_STATUS_INTERNAL_SERVER_ERROR "Error writing to dataset"
      let _ ← call (.fclose datasetPath)
      pure { loop with recordsWritten }
    else if loop.rcEtag = 0 then
      let rcEtag ← call (.icsfDigestUpdate (buffer.take written.count))
      writeRecords datasetPath type rest
        ⟨recordsWritten, rcEtag, digestedAfter rcEtag loop.digested (buffer.take written.count)⟩
    else writeRecords datasetPath type rest { loop with recordsWritten }

/-- The data set opened for writing and written, where all checks are passed. -/
def writeDataset (datasetPath : Text) (type : RecordType) (records : List Bytes) :
    Handler Unit := do
  if ← call (.fopen datasetPath "wb, recfm=*, type=record") then
    let rcEtag ← call .icsfDigestInit
    let loop ← writeRecords datasetPath type records ⟨0, rcEtag, []⟩
    let finished ← finishDigest loop.rcEtag loop.digested
    let etag ← printEtag finished
    call (.respond ⟨201, some ⟨"Updated dataset %s with %d records",
      [.text datasetPath, .int loop.recordsWritten]⟩, [], etag⟩)
    let _ ← call (.fclose datasetPath)
    pure ()
  else respondWithError HTTP_STATUS_NOT_FOUND "File could not be opened or does not exist"

/-- `updateDatasetWithJSONInternal`. -/
def updateDatasetWithJSONInternal (datasetPath dsn : Text) (recordArray : List JsonItem) :
    Handler Unit := do
  match ← checkDatasetType datasetPath dsn with
  | none => pure ()
  | some type =>
    match validateRecords type.maxRecordLength 0 recordArray with
    | .error errorMessage => respondWithError HTTP_STATUS_BAD_REQUEST errorMessage
    | .ok records => writeDataset datasetPath type records

/-! ## The update service -/

/-- The update of an allocated data set: its contents must have the client's etag, unless forced. -/
def updateAllocated (datasetPath : Text) (name : DatasetAndMember) (ddPath : Text)
    (recordArray : List JsonItem) (lastEtag : Option Text) (force : Bool) : Handler Unit := do
  if force then updateDatasetWithJSONInternal datasetPath name.dsn recordArray
  else
    let lrecl ← getLreclOrRespondError name.dsn ddPath
    if lrecl = 0 then pure ()
    else
      match ← getDatasetETag ddPath lrecl with
      | none => respondWithError HTTP_STATUS_INTERNAL_SERVER_ERROR "Could not generate etag"
      | some eTag =>
        if some eTag ≠ lastEtag then
          respondWithError HTTP_STATUS_BAD_REQUEST ("Provided etag did not match system etag. " ++
            "To write, read the dataset again and resolve the difference, then retry.")
        else updateDatasetWithJSONInternal datasetPath name.dsn recordArray

/-- `updateDatasetWithJSON`. -/
def updateDatasetWithJSON (datasetPath : Text) (recordArray : List JsonItem)
    (lastEtag : Option Text) (force : Bool) : Handler Unit := do
  if !isDatasetPathValid datasetPath then
    respondWithError HTTP_STATUS_BAD_REQUEST "Invalid dataset name"
  else if lastEtag = none ∧ force = false then
    respondWithError HTTP_STATUS_BAD_REQUEST "No etag given"
  else
    let name := extractDatasetAndMemberName datasetPath
    let da ← call (.dynallocAllocDataset name.dsn name.memberName "DYNALLOC_DISP_OLD")
    if da.rc ≠ .ok then
      let (responseCode, responseMessage) := getDYNALLOCErrorCodeAndMsg da name ['w']
      respondWithMessage responseCode responseMessage
    else
      updateAllocated datasetPath name (ddPathOf da.ddName) recordArray lastEtag force
      let _ ← call (.dynallocUnallocDatasetByDDName da.ddName)
      pure ()

/-- A request to update a data set: the body, and what is used of the query and the headers. -/
structure UpdateRequest where
  contentBody : Bytes
  force : Option Text
  etagHeader : Option Text

/-- `updateDataset`. -/
def updateDataset (request : UpdateRequest) (absolutePath : Text) : Handler Unit := do
  let force := request.force == some ['t', 'r', 'u', 'e']
  match ← call (.convertCharset request.contentBody) with
  | none =>
    respondWithError HTTP_STATUS_INTERNAL_SERVER_ERROR "Could not translate character set to EBCDIC"
  | some convertedBody =>
    match ← call (.jsonParseUpdate convertedBody) with
    | .invalid =>
      respondWithError HTTP_STATUS_BAD_REQUEST "POST body could not be parsed as JSON format"
    | .notObject => pure ()
    | .object etag records =>
      updateDatasetWithJSON absolutePath records (etag <|> request.etagHeader) force

end Zss.Datasets
