import Zss.Datasets.Copy
import Zss.Datasets.Update

/-!
# The data set services

A request to the services that read, update, list, make, delete or copy a data set, and what each does
with it. `respondWithDatasetMetadata` and `createDatasetAndRespond` are the services around the
functions that the copy service has of its own too.
-/

namespace Zss.Datasets

open Zss.Lib

/-! ## Listing -/

/-- A request for metadata: the data set as it stands in the path and decoded from there, and what is
used of the query. -/
structure MetadataRequest where
  datasetOrMember : Text
  percentDecoded : Text
  addQualifiers : Option String
  detail : Option String
  listMembers : Option String
  includeMigrated : Option String
  resumeName : Option Text
  resumeCatalogName : Option Text

namespace MetadataRequest

/-- An error where a name is too long. The service goes on after it. -/
def respondIfLong (name : Text) (msg : String) : CopyHandler Unit :=
  if 44 < name.length then base (respondWithError HTTP_STATUS_BAD_REQUEST msg) else pure ()

/-- The checks of the names that a listing is resumed from. -/
def checkResume (request : MetadataRequest) : CopyHandler Unit :=
  match request.resumeName, request.resumeCatalogName with
  | some resumeName, none => do
    respondIfLong resumeName "Malformed resume dataset name"
    base (respondWithError HTTP_STATUS_BAD_REQUEST "Missing resume catalog name")
  | some resumeName, some resumeCatalogName => do
    respondIfLong resumeName "Malformed resume dataset name"
    respondIfLong resumeCatalogName "Malformed resume catalog name"
  | none, some resumeCatalogName => do
    respondIfLong resumeCatalogName "Malformed resume catalog name"
    base (respondWithError HTTP_STATUS_BAD_REQUEST "Missing resume dataset name")
  | none, none => pure ()

/-- The details of an entry may be shown. -/
def shows (request : MetadataRequest) (entry : NamedEntry) : Bool :=
  !entry.entry.volume.isMigrated || request.includeMigrated == some "true"

/-- What is asked for the details of an entry. -/
def listDetails (request : MetadataRequest) (entry : NamedEntry) : CopyHandler Json.Properties :=
  if request.detail = some "true" ∧ request.shows entry then
    addDetailedDatasetMetadata entry.name (entry.entry.volume.volser.getD [])
  else pure []

/-- What is asked for the members of an entry. -/
def listMembersOf (request : MetadataRequest) (name : DatasetAndMember) (entry : NamedEntry) :
    CopyHandler Json.Properties :=
  if (request.listMembers = some "true" ∨ 0 < position (indexOf request.datasetOrMember '(')) ∧
      request.shows entry then
    addMemberedDatasetMetadata entry.name (entry.entry.volume.volser.getD []) name.memberName
      (memberNameLength request.datasetOrMember)
  else pure []

def listEntries (request : MetadataRequest) (name : DatasetAndMember) :
    List NamedEntry → CopyHandler Unit
  | [] => pure ()
  | entry :: entries => do
    let _ ← request.listDetails entry
    let _ ← request.listMembersOf name entry
    request.listEntries name entries

end MetadataRequest

/-- `respondWithDatasetMetadata`. Of what it prints, nothing is kept. -/
def respondWithDatasetMetadata (request : MetadataRequest) : CopyHandler Unit := do
  let absDsPath := ['/', '/', apostrophe] ++ request.percentDecoded ++ [apostrophe]
  if request.datasetOrMember.length < 1 then
    base (respondWithError HTTP_STATUS_BAD_REQUEST "No dataset name given")
  else if !isDatasetPathValid absDsPath then
    base (respondWithError HTTP_STATUS_BAD_REQUEST "Invalid dataset path")
  else
    request.checkResume
    let name := extractDatasetAndMemberName absDsPath
    let entries ← copyCall (.listEntries
      (metadataFilter name.dsn request.datasetOrMember request.addQualifiers))
    request.listEntries name entries
    base (call (.respond ⟨HTTP_STATUS_OK, none, [], none⟩))

/-! ## Making -/

/-- `createDatasetAndRespond`. -/
def createDatasetAndRespond (absolutePath : Text) (contentBody : Bytes) : CopyHandler Unit := do
  if !isDatasetPathValid absolutePath then
    base (respondWithError HTTP_STATUS_BAD_REQUEST "Invalid dataset name")
  else
    match ← base (call (.convertCharset contentBody)) with
    | none => pure ()
    | some convertedBody =>
      let returnCode ← createDataset absolutePath (convertedBody.map fun c => Char.ofNat c.toNat)
      if returnCode = 0 then
        base (call (.respond ⟨HTTP_STATUS_OK, some "Successfully created dataset", [], none⟩))
      else pure ()

/-! ## Requests -/

/-- A request to the data set services. -/
inductive DatasetRequest where
  | read (absolutePath : Text)
  | update (request : UpdateRequest) (absolutePath : Text)
  | vsam (request : VsamRequest)
  | metadata (request : MetadataRequest)
  | create (absolutePath : Text) (contentBody : Bytes)
  | delete (absolutePath : Text)
  | copy (sourceDataset targetDataset : Option Text)

/-- What is done about a request. -/
def DatasetRequest.serve : DatasetRequest → CopyHandler Unit
  | read absolutePath => base (respondWithDataset absolutePath)
  | update request absolutePath => base (updateDataset request absolutePath)
  | vsam request => base (serveVSAMDatasetContents request)
  | metadata request => respondWithDatasetMetadata request
  | create absolutePath contentBody => createDatasetAndRespond absolutePath contentBody
  | delete absolutePath => deleteDatasetFromRequest absolutePath
  | copy sourceDataset targetDataset => copyDatasetAndRespond sourceDataset targetDataset

end Zss.Datasets
