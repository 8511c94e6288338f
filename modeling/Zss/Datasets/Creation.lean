import Zss.Datasets.Metadata
import Zss.Datasets.Vsam

/-!
# Making and deleting data sets and members

`createDataset` makes a data set from attributes in JSON, each of which `setDatasetAttributesForCreation`
turns into text units, or a member of a partitioned data set that there is. `deleteDatasetOrMember`
deletes either.
-/

namespace Zss.Datasets

open Zss.Lib Zss.Lib.Json

def ERROR_DECODING_DATASET : Int := -2
def ERROR_OPENING_DATASET : Int := -4
def ERROR_ALLOCATING_DATASET : Int := -5
def ERROR_DEALLOCATING_DATASET : Int := -6
def ERROR_BAD_DATASET_NAME : Int := -8
def ERROR_INCORRECT_DATASET_TYPE : Int := -10
def ERROR_MEMBER_ALREADY_EXISTS : Int := -12
def ERROR_DATASET_OR_MEMBER_NOT_EXIST : Int := -14
def ERROR_VSAM_DATASET_DETECTED : Int := -15
def ERROR_DELETING_DATASET_OR_MEMBER : Int := -16
def ERROR_INVALID_JSON_BODY : Int := -17

def VOLSER_SIZE : Nat := 6
def CLASS_WRITER_SIZE : Nat := 8
def DATASET_NAME_LEN : Nat := 44
def DD_NAME_LEN : Nat := 8
def TOTAL_TEXT_UNITS : Nat := 23

/-! ## Attributes -/

/-- `getDSSizeValueFromType`. -/
def getDSSizeValueFromType (quantity : Int) (spaceType : Text) : Int :=
  if spaceType = "CYL".toList then quantity
  else if spaceType = "TRK".toList then quantity
  else if spaceType = "BYTE".toList then quantity.tdiv bytesPerTrack
  else if spaceType = "KB".toList then (wrap32 (quantity * 1024)).tdiv bytesPerTrack
  else if spaceType = "MB".toList then (wrap32 (quantity * 1048576)).tdiv bytesPerCylinder
  else quantity

/-- A quantity of 24 bits under a key, if the object has the property and it is in range. -/
def quantityUnit (object : Properties) (property : String) (key : TextUnitKey) (scale : Int → Int) :
    List TextUnit :=
  let size := object.getNumber property
  if object.hasKey property ∧ size ≤ 0xFFFFFF ∧ 0 ≤ size then [⟨key, .int24 (scale size)⟩] else []

/-- A string of at most a size under a key. -/
def stringUnit (value : Json) (size : Nat) (key : TextUnitKey) : List TextUnit :=
  match value.asString with
  | some text => if text.length ≤ size then [⟨key, .string size text⟩] else []
  | none => []

/-- A unit made of the named value that is at hand, if there is one. -/
def parmDefnUnit (parmDefn : Option ParmDefn) (unit : ParmDefn → TextUnit) : List TextUnit :=
  (parmDefn.map unit).toList

/-- The unit that a space type is counted in. Any other text leaves the key at what it was. -/
def spaceUnit (parmDefn : Option ParmDefn) (spaceType : Text) : List TextUnit :=
  if spaceType = "CYL".toList then [⟨.dalcyl, .boolean⟩]
  else if spaceType = "TRK".toList then [⟨.daltrk, .boolean⟩]
  else if spaceType = "BYTE".toList then [⟨.daltrk, .boolean⟩]
  else if spaceType = "KB".toList then [⟨.daltrk, .boolean⟩]
  else if spaceType = "MB".toList then [⟨.dalcyl, .boolean⟩]
  else parmDefnUnit parmDefn fun value => ⟨.parmDefn value, .boolean⟩

def blkszUnit (valueInt : Int) : List TextUnit :=
  if valueInt = 0 then []
  else if valueInt ≤ 0x7FF8 ∧ 0 ≤ valueInt then [⟨.dalblksz, .int16 valueInt⟩]
  else if valueInt ≤ 0x80000000 then [⟨.dalblksz, .longint valueInt⟩]
  else []

def lreclUnit (valueInt : Int) : List TextUnit :=
  if valueInt = 0x8000 ∨ (valueInt ≤ 0x7FF8 ∧ 0 ≤ valueInt) then [⟨.dallrecl, .int16 valueInt⟩]
  else []

def recfmOf (text : Text) : Recfm :=
  ⟨text.contains 'A', text.contains 'B', text.contains 'V', text.contains 'F', text.contains 'U'⟩

def avgrUnit (parmDefn : Option ParmDefn) (text : Text) : List TextUnit :=
  if text = ['M'] then [⟨.dalavgr, .defn .mrec⟩]
  else if text = ['K'] then [⟨.dalavgr, .defn .krec⟩]
  else if text = ['U'] then [⟨.dalavgr, .defn .urec⟩]
  else parmDefnUnit parmDefn fun value => ⟨.dalavgr, .defn value⟩

def dsntUnit (parmDefn : Option ParmDefn) (text : Text) : List TextUnit :=
  if text = "PDSE".toList then [⟨.daldsnt, .defn .pdse⟩]
  else if text = "PDS".toList then [⟨.daldsnt, .defn .pds⟩]
  else if text = "HFS".toList then [⟨.daldsnt, .defn .hfs⟩]
  else if text = "EXTREQ".toList then [⟨.daldsnt, .defn .extreq⟩]
  else if text = "EXTPREF".toList then [⟨.daldsnt, .defn .extpref⟩]
  else if text = "BASIC".toList then [⟨.daldsnt, .defn .basic⟩]
  else if text = "LARGE".toList then [⟨.daldsnt, .defn .large⟩]
  else parmDefnUnit parmDefn fun value => ⟨.daldsnt, .defn value⟩

/-- The units of a string property; none where the value is no string. -/
def textUnits (value : Json) (units : Text → List TextUnit) : List TextUnit :=
  match value.asString with
  | some text => units text
  | none => []

/-- The text units that a property is turned into, with what `parmDefn` is before it. -/
def attributeUnits (object : Properties) (parmDefn : Option ParmDefn) (propString : String)
    (value : Json) : List TextUnit :=
  if propString = "dsorg" then
    textUnits value fun text =>
      [⟨.daldsorg, .defn (if text = "PS".toList then .dsorgPS else .dsorgPO)⟩]
  else if propString = "blksz" then blkszUnit value.asNumber
  else if propString = "lrecl" then lreclUnit value.asNumber
  else if propString = "volser" then stringUnit value VOLSER_SIZE .dalvlser
  else if propString = "recfm" then textUnits value fun text => [⟨.dalrecfm, .recfm (recfmOf text)⟩]
  else if propString = "blkln" ∧ !object.hasKey "space" then
    (if value.asNumber ≤ 0xFFFF ∧ 0 ≤ value.asNumber then [⟨.dalblkln, .int24 value.asNumber⟩]
      else []) ++
    quantityUnit object "prime" .dalprime id ++ quantityUnit object "secnd" .dalsecnd id
  else if propString = "ndisp" then
    textUnits value fun text =>
      [⟨.dalndisp, .defn (if text = "KEEP".toList then .dispKeep else .dispCatlg)⟩]
  else if propString = "strcls" then stringUnit value CLASS_WRITER_SIZE .dalstcl
  else if propString = "mngcls" then stringUnit value CLASS_WRITER_SIZE .dalmgcl
  else if propString = "datacls" then stringUnit value CLASS_WRITER_SIZE .daldacl
  else if propString = "space" then
    textUnits value fun text =>
      spaceUnit parmDefn text ++ quantityUnit object "prime" .dalprime (getDSSizeValueFromType · text) ++
        quantityUnit object "secnd" .dalsecnd (getDSSizeValueFromType · text)
  else if propString = "dir" then
    if value.asNumber ≤ 0xFFFFFF ∧ 0 ≤ value.asNumber then [⟨.daldir, .int24 value.asNumber⟩] else []
  else if propString = "avgr" then textUnits value (avgrUnit parmDefn)
  else if propString = "dsnt" then textUnits value (dsntUnit parmDefn)
  else []

/-- Text units set one after the other: the last return code, and what is set. -/
def setTextUnits : List TextUnit → Int → List TextUnit → CopyHandler (Int × List TextUnit)
  | [], rc, units => pure (rc, units)
  | unit :: rest, _, units => do
    let rc ← copyCall (.setTextUnit unit)
    setTextUnits rest rc (if rc = 0 then units ++ [unit] else units)

/-- The loop of `setDatasetAttributesForCreation`. `parmDefn` is reset behind each property. -/
def setProperties (object : Properties) :
    Option ParmDefn → Properties → Int → List TextUnit → CopyHandler (Int × List TextUnit)
  | _, [], rc, units => pure (rc, units)
  | parmDefn, (propString, value) :: rest, rc, units => do
    let (rc, units) ← setTextUnits (attributeUnits object parmDefn propString value) rc units
    if rc = -1 then pure (rc, units) else setProperties object none rest rc units

/-- The unit that is set before the loop. -/
def dalstatsUnit : TextUnit := ⟨.dalstats, .defn .dispNew⟩

/-- `setDatasetAttributesForCreation`. `parmDefn` is as the first unit left it when the loop begins. -/
def setDatasetAttributesForCreation (object : Properties) (units : List TextUnit) :
    CopyHandler (Int × List TextUnit) := do
  let (rc, units) ← setTextUnits [dalstatsUnit] 0 units
  setProperties object (some .dispNew) object rc units

/-! ## Making -/

/-- A DD name as `MVD%05d` prints it. -/
def ddNameOf (ddNumber : Nat) : Text :=
  let digits := decimal ddNumber
  "MVD".toList ++ List.replicate (5 - digits.length) '0' ++ digits

def ddNameUnit (ddNumber : Nat) : TextUnit := ⟨.dalddnam, .string DD_NAME_LEN (ddNameOf ddNumber)⟩

/-- Text units set as long as that works. -/
def setWhileOk : List TextUnit → List TextUnit → CopyHandler (Int × List TextUnit)
  | [], units => pure (0, units)
  | unit :: rest, units => do
    let rc ← copyCall (.setTextUnit unit)
    if rc = 0 then setWhileOk rest (units ++ [unit]) else pure (rc, units)

/-- The text units of a new data set: the return code, and what is set. -/
def datasetUnits (dsn : Text) (json : Json) : CopyHandler (Int × List TextUnit) :=
  match json.asObject with
  | none => pure (0, [])
  | some properties => do
    let (rc, units) ← setWhileOk [⟨.daldsnam, .string DATASET_NAME_LEN dsn⟩, ddNameUnit 0] []
    if rc = 0 then setDatasetAttributesForCreation properties units else pure (rc, units)

/-- The further tries of `createDataset`, each with the next DD name. -/
def retryNewDataset : Nat → List TextUnit → Nat × NewDataset → CopyHandler (Nat × NewDataset)
  | 0, _, last => pure last
  | left + 1, units, last =>
    if last.2.reasonCode = ddNameInUse then do
      let ddNumber := 99999 - left
      let rc ← copyCall (.setTextUnit (ddNameUnit ddNumber))
      let units := if rc = 0 then units.set 1 (ddNameUnit ddNumber) else units
      let made ← copyCall (.dynallocNewDataset units)
      retryNewDataset left units (ddNumber, made)
    else pure last

/-- The allocation of `createDataset`: the number of the last DD name, and the return code. -/
def allocateNewDataset (returnCode : Int) (units : List TextUnit) : CopyHandler (Nat × Int) :=
  if returnCode = 0 then do
    let made ← copyCall (.dynallocNewDataset units)
    let (ddNumber, made) ← retryNewDataset 99999 units (0, made)
    pure (ddNumber, made.returnCode)
  else pure (0, returnCode)

/-- `getDSCB`; the DSCB is empty where the VTOC does not have it. -/
def getDSCB (dsn : Text) : Handler (Option Dscb) := do
  match ← getVolserForDataset dsn with
  | none => pure none
  | some volser =>
    let dscb ← call (.obtainDSCB1 dsn volser)
    pure (some (dscb.getD ⟨[]⟩))

/-- The last part of `createDatasetMember`. -/
def makeMember (absolutePath : Text) : CopyHandler Int := do
  if ← base (call (.fopen absolutePath "w")) then
    let closed ← base (call (.fclose absolutePath))
    if closed = 0 then pure 0
    else
      base (respondWithJsonError HTTP_STATUS_INTERNAL_SERVER_ERROR "Could not close dataset")
      pure ERROR_CLOSING_DATASET
  else
    base (respondWithJsonError HTTP_STATUS_BAD_REQUEST "Bad dataset name")
    pure ERROR_BAD_DATASET_NAME

/-- What `createDatasetMember` does about a member that is there. -/
def replaceMember (absolutePath : Text) (overwrite : Bool) : CopyHandler Int := do
  let closed ← base (call (.fclose absolutePath))
  if closed ≠ 0 then
    base (respondWithJsonError HTTP_STATUS_INTERNAL_SERVER_ERROR "Could not close dataset")
    pure ERROR_CLOSING_DATASET
  else if overwrite then makeMember absolutePath
  else
    base (respondWithJsonError HTTP_STATUS_BAD_REQUEST
      "Member already exists and overwrite not specified")
    pure ERROR_MEMBER_ALREADY_EXISTS

/-- `createDatasetMember`. -/
def createDatasetMember (dsn absolutePath : Text) : CopyHandler Int := do
  match ← base (getDSCB dsn) with
  | none =>
    base (respondWithJsonError HTTP_STATUS_BAD_REQUEST "Error decoding dataset")
    pure ERROR_DECODING_DATASET
  | some dscb =>
    if !isPartionedDataset dscb then
      base (respondWithJsonError HTTP_STATUS_BAD_REQUEST "Dataset must be PDS/E")
      pure ERROR_INCORRECT_DATASET_TYPE
    else
      let overwriteParam ← copyCall (.getQueryParam "overwrite")
      if ← base (call (.fopen absolutePath "r")) then
        replaceMember absolutePath (overwriteParam = some "true".toList)
      else makeMember absolutePath

/-- `createDataset`. -/
def createDataset (absolutePath datasetAttributes : Text) : CopyHandler Int := do
  let name := extractDatasetAndMemberName absolutePath
  if !isDamemberEmpty name.memberName then createDatasetMember name.dsn absolutePath
  else
    match ← copyCall (.jsonParse datasetAttributes) with
    | none =>
      base (respondWithError HTTP_STATUS_BAD_REQUEST "Invalid JSON request body")
      pure ERROR_INVALID_JSON_BODY
    | some json =>
      let (rc, units) ← datasetUnits name.dsn json
      let (ddNumber, returnCode) ← allocateNewDataset rc units
      if returnCode ≠ 0 then
        base (respondWithError HTTP_STATUS_INTERNAL_SERVER_ERROR "Unable to allocate a DD for ACB")
        pure ERROR_ALLOCATING_DATASET
      else
        let da ← base (call (.dynallocUnallocDatasetByDDName (ddNameOf ddNumber)))
        if da.rc ≠ .ok then
          base (respondWithError HTTP_STATUS_INTERNAL_SERVER_ERROR "Unable to deallocate DDNAME")
          pure ERROR_DEALLOCATING_DATASET
        else pure 0

/-! ## Deleting -/

/-- The message about a failed allocation, printed into an array of 100 characters. -/
def dynallocMessage (da : Dynalloc) (name : DatasetAndMember) : CopyHandler (Nat × Message) := do
  let (responseCode, responseMessage) := getDYNALLOCErrorCodeAndMsg da name ['r']
  copyCall (.sprintf .responseMessage 100 responseMessage)
  pure (responseCode, responseMessage)

/-- `getCSIType`; `none` unless there is one entry. -/
def getCSIType (absolutePath : Text) : Handler (Option Char) := do
  let entries ← call (.returnEntries (extractDatasetAndMemberName absolutePath).dsn)
  match entries with
  | [entry] => pure (some entry.type)
  | _ => pure none

/-- `isVsam`. -/
def isVsam (type : Char) : Bool := ['R', 'D', 'G', 'I', 'C'].contains type

/-- `memberExists`. -/
def memberExists (dsn memberName : Text) : CopyHandler Bool := do
  let members ← copyCall (.getPDSMembers dsn)
  pure (members.contains memberName)

/-- What `deleteDatasetOrMember` comes to: its return code, and the code and the message that it
leaves for the response. The response code is set only where it fails. -/
structure Deletion where
  rc : Int
  responseCode : Nat
  responseMessage : Message

/-- The message of a deletion printed. -/
def printDeletion (rc : Int) (responseCode : Nat) (responseMessage : Message) :
    CopyHandler Deletion := do
  copyCall (.sprintf .responseMessage 100 responseMessage)
  pure ⟨rc, responseCode, responseMessage⟩

/-- A deletion that ends with the return code of an allocation or an unallocation. -/
def printDynallocDeletion (rc : Int) (da : Dynalloc) (name : DatasetAndMember) :
    CopyHandler Deletion :=
  let (responseCode, responseMessage) := getDYNALLOCErrorCodeAndMsg da name ['r']
  printDeletion rc responseCode responseMessage

/-- The branch of `deleteDatasetOrMember` for a data set. -/
def deleteDataset (name : DatasetAndMember) (absolutePath ddName : Text) : CopyHandler Deletion := do
  let da ← copyCall (.dynallocUnallocAndDelete ddName)
  if da.rc ≠ .ok then printDynallocDeletion ERROR_DEALLOCATING_DATASET da name
  else
    printDeletion 0 0 ⟨"Data set %s was deleted successfully", [.text (absolutePath.drop 3).dropLast]⟩

/-- The last part of the branch for a member: it is deleted, and everything is given back. -/
def stowMember (name : DatasetAndMember) (ddName : Text) : CopyHandler Deletion := do
  let stowReturnCode ← copyCall (.bpamDeleteMember ddName name.memberName)
  copyCall .free24
  copyCall (.closeSAM ddName)
  let da ← base (call (.dynallocUnallocDatasetByDDName ddName))
  if stowReturnCode ≠ 0 then
    printDeletion ERROR_DELETING_DATASET_OR_MEMBER HTTP_STATUS_INTERNAL_SERVER_ERROR
      ⟨"Member %8.8s could not be deleted\n", [.text name.memberName]⟩
  else if da.rc ≠ .ok then printDynallocDeletion ERROR_ALLOCATING_DATASET da name
  else
    printDeletion 0 0 ⟨"Data set member %8.8s was deleted successfully", [.text name.memberName]⟩

/-- The branch of `deleteDatasetOrMember` for a member. -/
def deleteMember (name : DatasetAndMember) (ddName : Text) : CopyHandler Deletion := do
  if ← copyCall (.openSAM ddName) then
    if ← memberExists name.dsn name.memberName then
      if ← copyCall .malloc24 then stowMember name ddName
      else
        let failed ← printDeletion ERROR_ALLOCATING_DATASET HTTP_STATUS_INTERNAL_SERVER_ERROR
          "Could not allocate member name"
        copyCall (.closeSAM ddName)
        pure failed
    else
      let failed ← printDeletion ERROR_DATASET_OR_MEMBER_NOT_EXIST HTTP_STATUS_NOT_FOUND
        "Data set member does not exist"
      copyCall (.closeSAM ddName)
      let _ ← base (call (.dynallocUnallocDatasetByDDName ddName))
      pure failed
  else
    printDeletion ERROR_OPENING_DATASET HTTP_STATUS_INTERNAL_SERVER_ERROR
      "Data set could not be opened"

/-- `deleteDatasetOrMember`. -/
def deleteDatasetOrMember (absolutePath : Text) : CopyHandler Deletion := do
  let name := extractDatasetAndMemberName absolutePath
  match ← base (getCSIType absolutePath) with
  | none =>
    printDeletion ERROR_DATASET_OR_MEMBER_NOT_EXIST HTTP_STATUS_NOT_FOUND
      ⟨"Dataset or member does not exist '%44.44s(%8.8s)' (%s)",
        [.text name.dsn, .text name.memberName, .text ['r']]⟩
  | some type =>
    if isVsam type then
      printDeletion ERROR_VSAM_DATASET_DETECTED HTTP_STATUS_BAD_REQUEST
        "VSAM dataset detected. Please use regular dataset route"
    else
      let da ← base (call (.dynallocAllocDataset name.dsn (List.replicate 8 ' ')
        "DYNALLOC_DISP_OLD"))
      if da.rc ≠ .ok then printDynallocDeletion ERROR_ALLOCATING_DATASET da name
      else if isDamemberEmpty name.memberName then deleteDataset name absolutePath da.ddName
      else deleteMember name da.ddName

/-- `deleteDatasetFromRequest`. -/
def deleteDatasetFromRequest (absolutePath : Text) : CopyHandler Unit := do
  if !isDatasetPathValid absolutePath then
    base (respondWithError HTTP_STATUS_BAD_REQUEST "Invalid dataset name")
  else
    let deletion ← deleteDatasetOrMember absolutePath
    if 0 ≤ deletion.rc then
      base (call (.respond ⟨HTTP_STATUS_OK, some deletion.responseMessage, [], none⟩))
    else base (respondWithError deletion.responseCode deletion.responseMessage)

end Zss.Datasets
