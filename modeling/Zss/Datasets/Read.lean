import Zss.Datasets.Calls

/-!
# Reading a data set

`getLreclOrRespondError` finds the record length, or responds; `streamDataset` prints the records
with their etag, and `getDatasetETag` computes the etag alone, with a loop of its own.
`respondWithDataset` is the read service.
-/

namespace Zss.Datasets

open Zss.Lib

def DATA_STREAM_BUFFER_SIZE : Nat := 4096

/-! ## Lookups -/

/-- `getVolserForDataset`. -/
def getVolserForDataset (dsn : Text) : Handler (Option Text) :=
  if dsn.any fun c => c == '(' || c == '*' || c == '$' then pure none
  else do
    let entries ← call (.returnEntries dsn)
    pure (entries.head?.bind CatalogEntry.volser)

/-- The DSCB of a data set, where the catalog has its volume and the VTOC has it. -/
def lookupDscb (dsn : Text) : Handler (Option Dscb) := do
  match ← getVolserForDataset dsn with
  | none => pure none
  | some volser => call (.obtainDSCB1 dsn volser)

/-- `getLreclOrRespondError`; zero where it has responded, and where the length found is zero. -/
def getLreclOrRespondError (dsn ddPath : Text) : Handler Nat := do
  if ← call (.fopen ddPath "r") then
    match ← lookupDscb dsn with
    | some dscb =>
      let _ ← call (.fclose ddPath)
      if getRecordLengthType dscb = some 'U' then
        respondWithError HTTP_STATUS_BAD_REQUEST "Undefined-length dataset"
        pure 0
      else pure (getMaxRecordLength dscb)
    | none =>
      match ← call (.fldata ddPath) with
      | some info =>
        let _ ← call (.fclose ddPath)
        if info.recfmU then
          respondWithError HTTP_STATUS_BAD_REQUEST "Undefined-length dataset"
          pure 0
        else pure info.maxreclen
      | none =>
        let _ ← call (.fclose ddPath)
        respondWithError HTTP_STATUS_INTERNAL_SERVER_ERROR "Could not read dataset information"
        pure 0
  else
    respondWithError HTTP_STATUS_NOT_FOUND "File could not be opened or does not exist"
    pure 0

/-! ## Etags -/

/-- How records are read: the mode of the file and the size of a read. -/
def readMode (recordLength : Nat) : String × Nat :=
  if recordLength < 1 then ("rb", DATA_STREAM_BUFFER_SIZE) else ("rb, type=record", recordLength)

/-- The end of a digest, if nothing has failed so far. -/
def finishDigest (rcEtag : Int) (digested : Bytes) : Handler Finished :=
  if rcEtag = 0 then call (.icsfDigestFinish digested) else pure ⟨rcEtag, []⟩

/-- The etag of a digest, if it has come to an end. -/
def printEtag (finished : Finished) : Handler (Option Text) :=
  if finished.rc = 0 then do
    let eTag ← call (.simpleHexPrint finished.hash)
    pure (some eTag)
  else pure none

/-- What was digested once an update returned: one that fails takes nothing in. -/
def digestedAfter (rcEtag : Int) (digested buffer : Bytes) : Bytes :=
  if rcEtag = 0 then digested ++ buffer else digested

/-- The loop of `getDatasetETag`: the return code of the last update, and what was digested. An update
that failed is forgotten with the next one that does not. -/
def digestReads : List Read → Int → Bytes → Handler (Int × Bytes)
  | [], rcEtag, digested => pure (rcEtag, digested)
  | read :: reads, rcEtag, digested =>
    if 0 < read.bytes.length ∧ read.error = false then do
      let rcEtag ← call (.icsfDigestUpdate read.bytes)
      digestReads reads rcEtag (digestedAfter rcEtag digested read.bytes)
    else if read.error then pure (rcEtag, digested)
    else digestReads reads rcEtag digested

/-- `getDatasetETag`. -/
def getDatasetETag (filename : Text) (recordLength : Nat) : Handler (Option Text) := do
  let (mode, size) := readMode recordLength
  if ← call (.fopen filename mode) then
    let rcEtag ← call .icsfDigestInit
    if rcEtag ≠ 0 then
      let _ ← call (.fclose filename)
      pure none
    else
      let reads ← call (.fread filename mode size)
      let (rcEtag, digested) ← digestReads reads rcEtag []
      let _ ← call (.fclose filename)
      let finished ← finishDigest rcEtag digested
      printEtag finished
  else
    -- the return code is zero, and the digest was not written
    let digest ← call .stray
    printEtag ⟨0, digest.bytes⟩

/-- What `streamDataset` has printed: the records, and the etag if there is one. -/
structure DatasetStream where
  records : List Bytes
  etag : Option Text

/-- The loop of `streamDataset`: the records printed, the return code, and what was digested. -/
def streamReads : List Read → Int → Bytes → Handler (List Bytes × Int × Bytes)
  | [], rcEtag, digested => pure ([], rcEtag, digested)
  | read :: reads, rcEtag, digested =>
    if 0 < read.bytes.length ∧ read.error = false then
      if rcEtag = 0 then do
        let rcEtag ← call (.icsfDigestUpdate read.bytes)
        let (records, finished) ← streamReads reads rcEtag (digestedAfter rcEtag digested read.bytes)
        pure (read.bytes :: records, finished)
      else do
        let (records, finished) ← streamReads reads rcEtag digested
        pure (read.bytes :: records, finished)
    else if read.error then pure ([], rcEtag, digested)
    else do
      -- an empty record
      let (records, finished) ← streamReads reads rcEtag digested
      pure ([] :: records, finished)

/-- `streamDataset`. -/
def streamDataset (filename : Text) (recordLength : Nat) : Handler DatasetStream := do
  let (mode, size) := readMode recordLength
  if ← call (.fopen filename mode) then
    let rcEtag ← call .icsfDigestInit
    let reads ← call (.fread filename mode size)
    let (records, rcEtag, digested) ← streamReads reads rcEtag []
    let _ ← call (.fclose filename)
    let finished ← finishDigest rcEtag digested
    let etag ← printEtag finished
    pure ⟨records, etag⟩
  else
    -- neither the return code nor the digest was written
    let rest ← call .stray
    let etag ← printEtag ⟨rest.int, rest.bytes⟩
    pure ⟨[], etag⟩

/-! ## The read service -/

/-- `getDYNALLOCErrorCodeAndMsg`. -/
def getDYNALLOCErrorCodeAndMsg (da : Dynalloc) (name : DatasetAndMember) (site : Text) :
    Nat × Message :=
  let args := [.text name.dsn, .text name.memberName, .text site]
  if da.rc = .svc99Failed ∧ da.sysRC = 4 ∧ (da.sysRSN = 0x020C0000 ∨ da.sysRSN = 0x02100000) then
    (HTTP_STATUS_FORBIDDEN, ⟨"Dataset '%44.44s(%8.8s)' busy (%s)", args⟩)
  else if da.rc = .svc99Failed ∧ da.sysRC = 4 ∧ da.sysRSN = 0x02180000 then
    (HTTP_STATUS_NOT_FOUND, ⟨"Device not available for dataset '%44.44s(%8.8s)' (%s)", args⟩)
  else if da.rc = .svc99Failed ∧ da.sysRC = 4 ∧ da.sysRSN = 0x023C0000 then
    (HTTP_STATUS_NOT_FOUND, ⟨"Catalog not available for dataset '%44.44s(%8.8s)' (%s)", args⟩)
  else (HTTP_STATUS_INTERNAL_SERVER_ERROR,
    ⟨"DYNALLOC failed with RC = %d, DYN RC = %d, RSN = 0x%08X, dsn='%44.44s(%8.8s)', (%s)",
      [.dynalloc da.rc, .int da.sysRC, .int da.sysRSN] ++ args⟩)

/-- The path of an allocated data set. -/
def ddPathOf (ddName : Text) : Text := ['D', 'D', ':'] ++ padded 8 (ddName.take 8)

/-- `respondWithDatasetInternal`. -/
def respondWithDatasetInternal (dsn ddName : Text) : Handler Unit := do
  let ddPath := ddPathOf ddName
  let lrecl ← getLreclOrRespondError dsn ddPath
  if lrecl = 0 then pure ()
  else
    let streamed ← streamDataset ddPath lrecl
    call (.respond ⟨200, none, streamed.records, streamed.etag⟩)

/-- `respondWithDataset`. -/
def respondWithDataset (absolutePath : Text) : Handler Unit := do
  if !isDatasetPathValid absolutePath then
    respondWithError HTTP_STATUS_BAD_REQUEST "Invalid dataset name"
  else
    let name := extractDatasetAndMemberName absolutePath
    let da ← call (.dynallocAllocDataset name.dsn name.memberName "DYNALLOC_DISP_SHR")
    if da.rc ≠ .ok then
      let (responseCode, responseMessage) := getDYNALLOCErrorCodeAndMsg da name ['r']
      respondWithMessage responseCode responseMessage
    else
      respondWithDatasetInternal name.dsn da.ddName
      let _ ← call (.dynallocUnallocDatasetByDDName da.ddName)
      pure ()

end Zss.Datasets
