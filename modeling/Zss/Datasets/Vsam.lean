import Zss.Datasets.Calls

/-!
# VSAM data sets

The services that read and update a VSAM data set through an ACB that stays open between requests.
`respondWithVSAMDataset` looks the data component up in the catalog and the ACB in the session table,
under the component and the user, opens one if there is none, streams the records, and closes the
ACB if the request says so. `updateVSAMDataset` takes its ACB from the table.
-/

namespace Zss.Datasets

open Zss.Lib

/-! ## The catalog -/

/-- What the catalog search leaves of a data component. -/
structure Component where
  dsnData : Option CatalogName
  vsamType : UInt16
  ciSize : Nat
  maxlrecl : Nat
  keyLoc : Nat
  keyLen : Nat

/-- The fields of the entry of a data component. -/
def VsamEntry.component (entry : VsamEntry) : Component :=
  ⟨some entry.name, entry.vsamType, entry.ciSize, entry.maxlrecl, entry.keyLoc, entry.keyLen⟩

/-- The data component of a cluster, once its own entry is looked up. -/
def clusterComponent (assoc : Option CatalogName) : Option VsamEntry → Component
  | some entry =>
    if entry.type = 'D' then entry.component else ⟨assoc, 0, 0, 0, 0, 0⟩
  -- storage at address zero is no entry of a data component
  | none => ⟨assoc, 0, 0, 0, 0, 0⟩

/-- The catalog search of `respondWithVSAMDataset`. `none` where it has responded. -/
def searchCatalog (dsn : Text) : Handler (Option Component) := do
  match ← call (.returnVSAMEntries dsn) with
  | none =>
    respondWithError HTTP_STATUS_BAD_REQUEST "Not Found in Catalog"
    pure none
  | some entry =>
    if entry.type = 'C' then
      let dataEntry ← call (.returnVSAMEntries ((entry.assoc.map CatalogName.chars).getD []))
      pure (some (clusterComponent entry.assoc dataEntry))
    else if entry.type = 'D' then pure (some entry.component)
    else
      respondWithError HTTP_STATUS_BAD_REQUEST "Not Found in Catalog"
      pure none

/-! ## Sessions -/

def CSI_VSAMTYPE_KSDS : UInt16 := 0x8000
def CSI_VSAMTYPE_RRDS : UInt16 := 0x0200
def CSI_VSAMTYPE_LDS : UInt16 := 0x0004
def CSI_VSAMTYPE_VRRDS : UInt16 := 0x0001

/-- The type that the code takes a data set for; it gives the options of the ACB and its RPL. -/
def vsamTypeOf (vsamType : UInt16) : VsamType :=
  if vsamType &&& CSI_VSAMTYPE_KSDS ≠ 0 then .ksds
  else if vsamType &&& (CSI_VSAMTYPE_RRDS ||| CSI_VSAMTYPE_VRRDS) ≠ 0 then .rrds
  else if vsamType &&& CSI_VSAMTYPE_LDS ≠ 0 then .lds
  else .esds

/-- The ACB that stands in the table under a key, with its state. -/
def lookupACB (key : KeyRef) : Handler (Option (Addr × Addr)) := do
  match ← call (.htGet key) with
  | none => pure none
  | some state =>
    let content ← call (.readState state)
    pure (content.acb.map fun acb => (state, acb))

/-- The DD name is in use. -/
def ddNameInUse : Nat := 0x4100000

/-- The further tries of an allocation, each with the next DD name: `MVD00001` to `MVD99999`. -/
def retryDynalloc (dsn : Text) : Nat → Nat × DynallocDD → Handler (Nat × DynallocDD)
  | 0, last => pure last
  | left + 1, last =>
    if last.2.reasonCode = ddNameInUse then do
      let da ← call (.dynallocDataset dsn (99999 - left))
      retryDynalloc dsn left (99999 - left, da)
    else pure last

/-- The allocation: the number of the last DD name tried, and what it came to. -/
def allocateDD (dsn : Text) : Handler (Nat × DynallocDD) := do
  let da ← call (.dynallocDataset dsn 0)
  retryDynalloc dsn 99999 (0, da)

/-- The search argument of a new ACB; the return code of the point, if there is one. -/
def pointFirst (state acb : Addr) (type : VsamType) (keyLen : Nat) : Handler Int :=
  if type = .ksds then do
    let key ← call (.safeMalloc (.keyBuffer (keyLen + 1)))
    call (.writeState state ⟨some acb, type, some key⟩)
    -- the return code is still that of the allocation
    pure 0
  else call (.point acb type)

/-- A new ACB with its state. `none` where it has responded. -/
def openSession (dsn : Text) (component : Component) : Handler (Option (Addr × Addr)) := do
  let (ddNumber, da) ← allocateDD dsn
  if da.returnCode ≠ 0 then
    respondWithError HTTP_STATUS_INTERNAL_SERVER_ERROR "Unable to allocate a DD for ACB"
    pure none
  else
    let type := vsamTypeOf component.vsamType
    let maxbuffer := if type = .lds then component.ciSize else component.maxlrecl
    let state ← call (.safeMalloc (.state ⟨none, type, none⟩))
    match ← call (.openACB ddNumber type component.maxlrecl maxbuffer) with
    | none =>
      respondWithError HTTP_STATUS_INTERNAL_SERVER_ERROR "ACB Not Opened"
      pure none
    | some acb =>
      call (.writeState state ⟨some acb, type, none⟩)
      let returnCode ← pointFirst state acb type component.keyLen
      if returnCode ≠ 0 then
        respondWithError HTTP_STATUS_INTERNAL_SERVER_ERROR
          "Could not POINT to the designated search argument."
        pure none
      else pure (some (state, acb))

/-! ## Reading -/

/-- What the loop of `streamVSAMDataset` prints: a key and its record, one after the other. -/
def streamedRecords : List VsamRead → List Bytes
  | [] => []
  | read :: reads =>
    if read.status = 0 then read.key :: read.record :: streamedRecords reads
    else if read.record = [] ∨ read.eof then []
    else [read.key, read.record]

/-- The records of an ACB as a response. -/
def streamVSAMDataset (acb : Addr) (rplParms : Option VsamType) (component : Component) :
    Handler Unit := do
  call (.modRPL acb rplParms)
  let reads ← call (.getRecords acb component.keyLoc component.keyLen)
  call (.respond ⟨200, none, streamedRecords reads, none⟩)

/-- The end of a request with `closeAfter`. -/
def closeSession (acb state pair : Addr) : Handler Unit := do
  call (.closeACB acb)
  call (.htRemove pair)
  call (.safeFree (.pair pair))
  call (.safeFree (.state state))

/-- The records from an ACB of the table. -/
def serveFound (closeAfter : Bool) (component : Component) (pair state acb : Addr) :
    Handler Unit := do
  call (.safeFree (.pair pair))
  -- the options of the RPL were not set
  streamVSAMDataset acb none component
  if closeAfter then closeSession acb state pair else pure ()

/-- The records from a new ACB. -/
def serveOpened (dsn : Text) (closeAfter : Bool) (component : Component) (pair : Addr) :
    Handler Unit := do
  match ← openSession dsn component with
  | none => pure ()
  | some (state, acb) =>
    call (.htPut pair state)
    streamVSAMDataset acb (some (vsamTypeOf component.vsamType)) component
    if closeAfter then closeSession acb state pair else pure ()

/-- What stands behind the key is a zero byte. -/
def Stray.startsWithZero (rest : Stray) : Bool := rest.bytes.head? == some 0

/-- What follows once the catalog has the component. -/
def serveComponent (dsn : Text) (username : UserName) (closeAfter : Bool) (component : Component) :
    Handler Unit := do
  let rest ← call .stray
  let pair ← call (.safeMalloc (.pair ⟨component.dsnData, username, rest.startsWithZero⟩))
  match ← lookupACB (.block pair) with
  | some (state, acb) => serveFound closeAfter component pair state acb
  | none => serveOpened dsn closeAfter component pair

/-- The request says `closeAfter=true`. -/
def isCloseAfter (closeArg : Option Text) : Bool := closeArg == some ['t', 'r', 'u', 'e']

/-- `respondWithVSAMDataset`. -/
def respondWithVSAMDataset (absolutePath : Text) (username : UserName) (closeArg : Option Text) :
    Handler Unit := do
  if 44 < absolutePath.length then
    respondWithError HTTP_STATUS_BAD_REQUEST "Dataset Name must be 44 bytes of less"
  else
    let dsn := padded 44 absolutePath
    match ← searchCatalog dsn with
    | none => pure ()
    | some component => serveComponent dsn username (isCloseAfter closeArg) component

/-! ## Updating -/

/-- The key that an update makes: the path is not padded, so that a short one ends the string. -/
def updateKey (dsn : Text) (username : UserName) (rest : Stray) : KeyRef :=
  if dsn.length < 44 then .array dsn true
  else .array (dsn.take 44 ++ username.chars)
    (decide (username.chars.length < 8) || rest.startsWithZero)

/-- The check of the records, from the one at an index on: what to respond, or the records. -/
def checkVSAMRecords (maxRecordLength : Int) : Nat → List JsonItem → Except Message (List Bytes)
  | _, [] => .ok []
  | i, some record :: rest =>
    if maxRecordLength < record.length then
      .error ⟨"Record #%d with contents \"%s\" is longer than the max record length of %d",
        [.int (i + 1), .bytes record, .int maxRecordLength]⟩
    else (checkVSAMRecords maxRecordLength (i + 1) rest).map (record :: ·)
  | i, none :: _ =>
    .error ⟨"Array position %d is not a string, but must be for record updating", [.int i]⟩

/-- The write loop: how many records were written. It responds where it breaks off. -/
def putRecords (outACB : Option Addr) : List Bytes → Nat → Handler Nat
  | [], recordsWritten => pure recordsWritten
  | _ :: rest, recordsWritten => do
    let status ← call (.putRecord outACB)
    if status ≠ 0 then
      respondWithError HTTP_STATUS_INTERNAL_SERVER_ERROR "Error writing to dataset"
      pure recordsWritten
    else putRecords outACB rest (recordsWritten + 1)

/-- `updateVSAMDatasetWithJSON`. -/
def updateVSAMDatasetWithJSON (recordArray : List JsonItem) (dsn : Text) (username : UserName) :
    Handler Unit := do
  let rest ← call .stray
  let found ← lookupACB (updateKey dsn username rest)
  let outACB := found.map Prod.snd
  -- without an ACB this is the RPL of a null pointer
  let maxRecordLength ← call (.rplBufLen outACB)
  match checkVSAMRecords maxRecordLength 0 recordArray with
  | .error errorMessage => respondWithError HTTP_STATUS_BAD_REQUEST errorMessage
  | .ok records =>
    let recordsWritten ← putRecords outACB records 0
    respondWithError HTTP_STATUS_OK
      ⟨"Updated dataset %s with %d records", [.text dsn, .int recordsWritten]⟩

/-- `updateVSAMDataset`. -/
def updateVSAMDataset (contentBody : Bytes) (username : UserName) (absolutePath : Text) :
    Handler Unit := do
  match ← call (.convertCharset contentBody) with
  | none =>
    respondWithError HTTP_STATUS_INTERNAL_SERVER_ERROR "Could not translate character set to EBCDIC"
  | some convertedBody =>
    match ← call (.jsonParseUpdate convertedBody) with
    | .invalid =>
      respondWithError HTTP_STATUS_BAD_REQUEST "POST body could not be parsed as JSON format"
    | .notObject => pure ()
    | .object _ records => updateVSAMDatasetWithJSON records absolutePath username

/-! ## The service -/

/-- The methods of the service that come to an ACB. -/
inductive VsamMethod where
  | methodGET
  | methodPOST

/-- A request to the service. -/
structure VsamRequest where
  method : VsamMethod
  username : UserName
  absolutePath : Text
  closeAfter : Option Text
  contentBody : Bytes

/-- `serveVSAMDatasetContents`, for these methods. -/
def serveVSAMDatasetContents (request : VsamRequest) : Handler Unit :=
  match request.method with
  | .methodGET =>
    respondWithVSAMDataset request.absolutePath request.username request.closeAfter
  | .methodPOST => updateVSAMDataset request.contentBody request.username request.absolutePath

end Zss.Datasets
