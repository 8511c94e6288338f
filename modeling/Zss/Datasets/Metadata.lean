import Mathlib.Data.List.DropRight
import Zss.Datasets.CopyCalls

/-!
# Data set metadata

`getDatasetMetadata` lists the data sets under a filter, with what their DSCBs say and, for a
partitioned one, its members. The copy service asks it three things: whether a data set exists
(`checkIfDatasetExistsAndRespond`), how the source is made (`getDatasetAttributes`), and what records
the target takes (`getTargetDsnRecordInfo`); the last two read the first data set of the listing.
-/

namespace Zss.Datasets

open Zss.Lib Zss.Lib.Json

def ERROR_CLOSING_DATASET : Int := -3
def ERROR_UNDEFINED_LENGTH_DATASET : Int := -7
def ERROR_DATASET_NOT_EXIST : Int := -11

/-! ## Details of a DSCB -/

def bytesPerTrack : Nat := 56664
def bytesPerCylinder : Nat := 849960

inductive DatasetAllocType where
  | byte
  | cyl
  | trk
  | block
  | kb
  | mb
deriving DecidableEq

/-- How the space of a data set is counted: what it is called, and how numbers of it are scaled. -/
structure SpaceType where
  space : Option Text
  sizeType : DatasetAllocType
  primarySizeDiv : Nat
  scxtvMult : Nat

def Dscb.blockSize (dscb : Dscb) : Nat := (dscb.at 86).toNat * 256 + (dscb.at 87).toNat

def Dscb.scxtv (dscb : Dscb) : Nat := (dscb.at 80).toNat * 256 + (dscb.at 81).toNat

def Dscb.scal3 (dscb : Dscb) : Nat :=
  (dscb.at 95).toNat * 65536 + (dscb.at 96).toNat * 256 + (dscb.at 97).toNat

/-- The first part of `addDetailsFromDSCB`. -/
def Dscb.spaceType (dscb : Dscb) : SpaceType :=
  let spac := dscb.at 94
  if spac &&& 0xc0 = 0xc0 then ⟨some "CYL".toList, .cyl, 1, 1⟩
  else if spac &&& 0x80 ≠ 0 then
    if spac &&& 0x10 ≠ 0 then
      let cxtf := dscb.at 79
      let scxtvMult :=
        if cxtf &&& 0x04 ≠ 0 then 65536 else if cxtf &&& 0x08 ≠ 0 then 256 else 1
      if cxtf &&& 0x40 ≠ 0 then ⟨some "MB".toList, .mb, 1048576, scxtvMult⟩
      else if cxtf &&& 0x20 ≠ 0 then ⟨some "KB".toList, .kb, 1024, scxtvMult⟩
      else if cxtf &&& 0x10 ≠ 0 then ⟨some "BYTE".toList, .byte, 1, scxtvMult⟩
      else ⟨none, .byte, 1, scxtvMult⟩
    else ⟨some "TRK".toList, .trk, 1, 1⟩
  else if spac &&& 0x40 ≠ 0 then ⟨some "BLK".toList, .block, dscb.blockSize, 1⟩
  else ⟨some "TRK".toList, .trk, 1, 1⟩

/-- A cylinder number of an extent, from the position of its four bytes. -/
def Dscb.cylinder (dscb : Dscb) (offset : Nat) : UInt32 :=
  (dscb.at (offset + 2)).toUInt32 <<< 24 ||| (dscb.at (offset + 3) &&& 0xf0).toUInt32 <<< 16 |||
    (dscb.at offset).toUInt32 <<< 8 ||| (dscb.at (offset + 1)).toUInt32

/-- The size of the first extent, in 32 bits as the code computes it. -/
def Dscb.primarySizeBytes (dscb : Dscb) : Nat :=
  let diffcyl := dscb.cylinder 111 - dscb.cylinder 107
  let difftrk := (dscb.at 114 &&& 0x0f).toUInt32 - (dscb.at 110 &&& 0x0f).toUInt32 + 1
  (diffcyl * UInt32.ofNat bytesPerCylinder + difftrk * UInt32.ofNat bytesPerTrack).toNat

/-- The secondary quantity of `addDetailsFromDSCB`. -/
def Dscb.secnd (dscb : Dscb) : Int :=
  let type := dscb.spaceType
  if dscb.scxtv ≠ 0 then
    if type.sizeType = .block then
      if 0 < type.primarySizeDiv then
        (wrap32 (type.scxtvMult * dscb.scxtv * dscb.scal3)).tdiv type.primarySizeDiv
      else 0
    else wrap32 (type.scxtvMult * dscb.scxtv)
  else dscb.scal3

/-- The primary quantity of `addDetailsFromDSCB`. A quotient by a block size of zero, on which the code
ends, is 0 here. -/
def Dscb.prime (dscb : Dscb) : Int :=
  let type := dscb.spaceType
  if type.sizeType = .cyl then dscb.primarySizeBytes / bytesPerCylinder
  else if type.sizeType = .trk then dscb.primarySizeBytes / bytesPerTrack
  else if dscb.scxtv ≠ 0 then
    if 0 < type.primarySizeDiv then
      if type.sizeType = .block then
        (wrap32 (dscb.scal3 * dscb.blockSize)).tdiv type.primarySizeDiv
      else
        (wrap32 (dscb.scal3 * dscb.blockSize * (bytesPerTrack / dscb.blockSize : Nat))).tdiv
          type.primarySizeDiv
    else 0
  else dscb.scal3

/-- The record format as `addDetailsFromDSCB` prints it. -/
def Dscb.recfmProperties (dscb : Dscb) : Properties :=
  let recfm := dscb.at 84
  let recLen := getRecordLengthType dscb
  (match recLen with
    | some type => [("recordLength", string [type])]
    | none => []) ++
  (if recfm &&& 0x10 ≠ 0 then [("isBlocked", boolean true)] else []) ++
  (if recfm &&& 0x0f ≠ 0 then
    if recLen = some 'V' then [("isSpanned", boolean true)]
    else if recLen = some 'F' then [("isStandard", boolean true)]
    else []
  else []) ++
  [("carriageControl", string
    (if recfm &&& 0x04 ≠ 0 then "ansi".toList
    else if recfm &&& 0x02 ≠ 0 then "machine".toList
    else "unknown".toList))]

/-- The organization as `addDetailsFromDSCB` prints it. -/
def Dscb.dsorgProperties (dscb : Dscb) : Properties :=
  let dsorgHigh := dscb.at 82
  let dsorgLow := dscb.at 83
  (if dsorgHigh &&& 0x40 ≠ 0 then [("organization", string "sequential".toList)]
  else if dsorgHigh &&& 0x20 ≠ 0 then []
  else if dsorgHigh &&& 0x10 ≠ 0 then []
  else if dsorgHigh &&& 0x02 ≠ 0 then
    if dscb.at 78 &&& 0x0a = 0x0a then [("organization", string "hfs".toList)]
    else [("organization", string "partitioned".toList), ("isPDSDir", boolean true)] ++
      if dscb.at 78 &&& 0x0a = 0x08 then [("isPDSE", boolean true)] else []
  else []) ++
  (if dsorgLow &&& 0x80 ≠ 0 then []
  else if dsorgLow &&& 0x08 ≠ 0 then
    [("organization", string "vsam".toList), ("keylen", number ((dscb.at 90).toNat * 4096)),
      ("keyoffset", number ((dscb.at 91).toNat * 256))]
  else []) ++
  [("maxRecordLen", number (getMaxRecordLength dscb)), ("totalBlockSize", number dscb.blockSize)]

/-- `addDetailsFromDSCB`. -/
def addDetailsFromDSCB (dscb : Dscb) : Properties :=
  (match dscb.spaceType.space with
    | some space => [("space", string space)]
    | none => []) ++
  [("secnd", number dscb.secnd), ("prime", number dscb.prime),
    ("recfm", object dscb.recfmProperties), ("dsorg", object dscb.dsorgProperties)]

/-- `isPartionedDataset`. -/
def isPartionedDataset (dscb : Dscb) : Bool := dscb.at 82 &&& 0x02 ≠ 0

/-! ## Listings -/

/-- The property that says that there is no DSCB. -/
def dscbError (name : Text) : Properties :=
  [("error", string ("Type 1 or 8 DSCB for dataset ".toList ++ name ++ " not found".toList))]

/-- What is printed where there is no DSCB. -/
def printDscbError (name : Text) : CopyHandler Properties := do
  copyCall (.sprintf .dscbBuffer 100 ⟨"Type 1 or 8 DSCB for dataset %s not found", [.text name]⟩)
  pure (dscbError name)

/-- `addDetailedDatasetMetadata`. -/
def addDetailedDatasetMetadata (name volser : Text) : CopyHandler Properties := do
  match ← base (call (.obtainDSCB1 name volser)) with
  | some dscb => pure (addDetailsFromDSCB dscb)
  | none => printDscbError name

/-- A character below the blank of the native code page. -/
def unprintable (c : Char) : Bool := c.toNat < 0x20 || (0x7f ≤ c.toNat && c.toNat < 0xa0)

/-- The members that match a query and have printable names. -/
def matchingMembers (query : Text) : List Text → CopyHandler (List Text)
  | [] => pure []
  | memberName :: members => do
    let matched ← copyCall (.matchWithWildcards query memberName)
    let rest ← matchingMembers query members
    pure (if matched && !(memberName.take 8).any unprintable then memberName.take 8 :: rest
      else rest)

/-- The members as they are printed. -/
def memberObjects (names : List Text) : List Json :=
  names.map fun name => object [("name", string name)]

/-- What the members are matched with. -/
def theQuery (memberQuery : Text) (memberLength : Int) : Text :=
  if memberLength < 1 then ['*'] else memberQuery.take memberLength.toNat

/-- `addMemberedDatasetMetadata`. -/
def addMemberedDatasetMetadata (name volser memberQuery : Text) (memberLength : Int) :
    CopyHandler Properties := do
  match ← base (call (.obtainDSCB1 name volser)) with
  | none => printDscbError name
  | some dscb =>
    if !isPartionedDataset dscb then pure []
    else
      let members ← copyCall (.getPDSMembers name)
      if members = [] then pure []
      else
        let listed ← matchingMembers (theQuery memberQuery memberLength) members
        pure [("members", array (memberObjects listed))]

/-- `nullTerminate`: without the blanks at the end. -/
def trimmed (t : Text) : Text := t.rdropWhile (· == ' ')

/-- `indexOfString`, with `none` for -1. -/
def indexOfString (t sub : Text) : Option Nat :=
  (List.range (t.length + 1)).find? fun i => sub.isPrefixOf (t.drop i)

/-- `lastIndexOf`, with `none` for -1. -/
def lastIndexOf (t : Text) (c : Char) : Option Nat :=
  (List.range t.length).reverse.find? fun i => (t.drop i).head? == some c

/-- A position as a number, -1 for none. -/
def position (i : Option Nat) : Int := (i.map Int.ofNat).getD (-1)

/-- The filter that `getDatasetMetadata` lists under. -/
def metadataFilter (dsn path : Text) (addQualifiersArg : Option String) : Text :=
  let name := trimmed dsn
  let dsnLen := path.length
  if addQualifiersArg = some "true" ∧ dsnLen ≤ 44 then
    let dblAsteriskPos := position (indexOfString name ['*', '*'])
    let periodPos := position (lastIndexOf name '.')
    if dblAsteriskPos = (dsnLen : Int) - 2 ∧ periodPos = dblAsteriskPos - 1 then name
    else if dsnLen ≤ 41 then name ++ ['.', '*', '*']
    else name
  else name

/-- What of an entry is looked at besides its name. -/
structure EntryVolume where
  volser : Option Text
  isMigrated : Bool

def CatalogEntry.volume (entry : CatalogEntry) : EntryVolume :=
  let volser := if ['A', 'B', 'D', 'H'].contains entry.type then entry.volser else none
  ⟨volser, volser = some "MIGRAT".toList || volser = some "ARCIVE".toList⟩

/-- The details of an entry, if they are asked for. -/
def entryDetails (detailArg : Option String) (entry : NamedEntry) : CopyHandler Properties :=
  if detailArg = some "true" ∧ !entry.entry.volume.isMigrated then
    addDetailedDatasetMetadata entry.name (entry.entry.volume.volser.getD [])
  else pure []

/-- The length of the member name in a path; -1 where there is none. -/
def memberNameLength (path : Text) : Int :=
  position (indexOf path ')') - position (indexOf path '(') - 1

/-- The members of an entry, if they are asked for. -/
def entryMembers (name : DatasetAndMember) (path : Text) (listMembersArg : Option String)
    (entry : NamedEntry) : CopyHandler Properties :=
  if (listMembersArg = some "true" ∨ 0 < position (indexOf path '(')) ∧
      !entry.entry.volume.isMigrated then
    addMemberedDatasetMetadata entry.name (entry.entry.volume.volser.getD []) name.memberName
      (memberNameLength path)
  else pure []

/-- What is printed of an entry before its details. -/
def entryProperties (entry : NamedEntry) : Properties :=
  [("name", string entry.name), ("csiEntryType", string [entry.entry.type])] ++
    match entry.entry.volume.volser with
    | some volser => [("volser", string volser)]
    | none => []

/-- An entry of a listing as it is printed. -/
def entryMetadata (name : DatasetAndMember) (path : Text) (detailArg listMembersArg : Option String)
    (entry : NamedEntry) : CopyHandler Json := do
  let details ← entryDetails detailArg entry
  let members ← entryMembers name path listMembersArg entry
  pure (object (entryProperties entry ++ details ++ members))

/-- The entries of a listing as they are printed. -/
def entriesMetadata (name : DatasetAndMember) (path : Text)
    (detailArg listMembersArg : Option String) : List NamedEntry → CopyHandler (List Json)
  | [] => pure []
  | entry :: entries => do
    let json ← entryMetadata name path detailArg listMembersArg entry
    let rest ← entriesMetadata name path detailArg listMembersArg entries
    pure (json :: rest)

/-- `getDatasetMetadata`, with unprintable members and migrated data sets left out. -/
def getDatasetMetadata (name : DatasetAndMember) (path : Text)
    (addQualifiersArg detailArg listMembersArg : Option String) : CopyHandler Json := do
  let entries ← copyCall (.listEntries (metadataFilter name.dsn path addQualifiersArg))
  let datasets ← entriesMetadata name path detailArg listMembersArg entries
  pure (object [("datasets", array datasets)])

/-- The first data set of a listing. -/
def firstDataset (metadata : Json) : Option Properties :=
  (Properties.getArray (metadata.asObject.getD []) "datasets").head?.bind asObject

/-! ## What the copy service reads of them -/

/-- What `getDatasetAttributes` finds. -/
structure DatasetAttributes where
  organization : CString
  space : CString
  recordLength : CString
  prime : Int
  secnd : Int
  maxRecordLen : Int
  totalBlockSize : Int
  isBlocked : Bool
  isPDSE : Bool

/-- The attributes as they are before anything is found. -/
def DatasetAttributes.none : DatasetAttributes :=
  ⟨.absent, .absent, .absent, 0, 0, 0, 0, false, false⟩

/-- The attributes that a data set is printed with. -/
def DatasetAttributes.ofProperties (dataset : Properties) : DatasetAttributes :=
  let dsOrg := dataset.getObject "dsorg"
  let recfm := dataset.getObject "recfm"
  { organization := .ofOption (dsOrg.getString "organization")
    space := .ofOption (dataset.getString "space")
    recordLength := .ofOption (recfm.getString "recordLength")
    prime := dataset.getNumber "prime"
    secnd := dataset.getNumber "secnd"
    maxRecordLen := dsOrg.getNumber "maxRecordLen"
    totalBlockSize := dsOrg.getNumber "totalBlockSize"
    isBlocked := recfm.getBoolean "isBlocked"
    isPDSE := dsOrg.getBoolean "isPDSE" }

/-- The attributes once the storage of the parser is given back. -/
def DatasetAttributes.slhFree (attributes : DatasetAttributes) : DatasetAttributes :=
  { attributes with
    organization := attributes.organization.release
    space := attributes.space.release
    recordLength := attributes.recordLength.release }

/-- `getDatasetAttributes`. -/
def getDatasetAttributes (metadata : Json) : DatasetAttributes :=
  match firstDataset metadata with
  | some dataset => (DatasetAttributes.ofProperties dataset).slhFree
  | none => .none

/-- What records a target takes. -/
structure RecordInfo where
  recordFormat : CString
  recordLength : Int

/-- What `getTargetDsnRecordInfo` reads of the metadata. -/
def recordInfoOf (metadata : Json) : RecordInfo :=
  match firstDataset metadata with
  | some dataset =>
    ⟨(CString.ofOption ((dataset.getObject "recfm").getString "recordLength")).release,
      (dataset.getObject "dsorg").getNumber "maxRecordLen"⟩
  | none => ⟨.absent, 0⟩

/-- `getTargetDsnRecordInfo`. -/
def getTargetDsnRecordInfo (targetDataset : Text) : CopyHandler RecordInfo := do
  let name := extractDatasetAndMemberName targetDataset
  let metadata ← getDatasetMetadata name targetDataset (some "true") (some "true") (some "true")
  pure (recordInfoOf metadata)

/-- `checkIfDatasetExistsAndRespond`. -/
def checkIfDatasetExistsAndRespond (dataset : Text) (isMember : Bool) : CopyHandler Int := do
  if isMember then
    if ← base (call (.fopen dataset "r")) then
      let closed ← base (call (.fclose dataset))
      if closed ≠ 0 then
        base (respondWithJsonError HTTP_STATUS_INTERNAL_SERVER_ERROR "Could not close dataset")
        pure ERROR_CLOSING_DATASET
      else pure 1
    else pure 0
  else
    let name := extractDatasetAndMemberName dataset
    let metadata ← getDatasetMetadata name dataset (some "true") none none
    if 0 < (Properties.getArray (metadata.asObject.getD []) "datasets").length then pure 1 else pure 0

/-! ## The attributes of a copy -/

/-- The text that `setAttrForDSCopyAndRespondIfError` prints. -/
def attributesText (organization space : Text) (totalBlockSize maxRecordLen : Int) (recFormat : Text)
    (dirBlock prime secnd : Int) (dsnt : Text) : Text :=
  "\x7b\"ndisp\": \"CATALOG\",\"status\": \"NEW\",\"dsorg\": \"".toList ++ organization ++
    "\",\"space\": \"".toList ++ space ++ "\",\"blksz\": ".toList ++ decimal totalBlockSize ++
    ",\"lrecl\": ".toList ++ decimal maxRecordLen ++ ",\"recfm\": \"".toList ++ recFormat ++
    "\",\"close\": \"true\",\"dir\": ".toList ++ decimal dirBlock ++ ",\"prime\": ".toList ++
    decimal prime ++ ",\"secnd\": ".toList ++ decimal secnd ++
    ",\"avgr\": \"U\",\"dsnt\": \"".toList ++ dsnt ++ "\"\x7d".toList

/-- What `setAttrForDSCopyAndRespondIfError` comes to: a return code below zero, or one that says
whether the target is partitioned, with the attributes. -/
structure CopyAttributes where
  isPDS : Int
  datasetAttributes : Text

/-- The text of the attributes, with the strings that were read for it. -/
def DatasetAttributes.text (attributes : DatasetAttributes) (isPDS : Bool) (recFormat space : Text) :
    Text :=
  attributesText (if isPDS then "PO".toList else "PS".toList) space attributes.totalBlockSize
    attributes.maxRecordLen recFormat (if isPDS then 10 else 0) attributes.prime attributes.secnd
    (if isPDS then if attributes.isPDSE then "PDSE".toList else "PDS".toList else [])

/-- The attributes printed for the new data set. -/
def printAttributes (attributes : DatasetAttributes) (isPDS : Bool) : CopyHandler Text := do
  let recordLength ← readString attributes.recordLength
  copyCall (.fill .recFormat 3 (recordLength.length + 1))
  let recFormat := recordLength ++ if attributes.isBlocked then ['B'] else []
  copyCall (.fill .recFormat 3 (recFormat.length + 1))
  let space ← readString attributes.space
  let text := attributes.text isPDS recFormat space
  copyCall (.fill .datasetAttributes 300 (text.length + 1))
  pure text

/-- `setAttrForDSCopyAndRespondIfError`, once it has the attributes. -/
def setAttributes (attributes : DatasetAttributes) (isSourceMember : Bool) :
    CopyHandler CopyAttributes := do
  if ← equalsText attributes.recordLength ['U'] then
    base (respondWithError HTTP_STATUS_BAD_REQUEST "Undefined-length dataset")
    pure ⟨ERROR_UNDEFINED_LENGTH_DATASET, []⟩
  else if attributes.organization = .absent then
    base (respondWithError HTTP_STATUS_BAD_REQUEST "Source dataset does not exist")
    pure ⟨ERROR_DATASET_NOT_EXIST, []⟩
  else
    let sequential ← equalsText attributes.organization "sequential".toList
    let isPDS := !(sequential || isSourceMember)
    let text ← printAttributes attributes isPDS
    pure ⟨if isPDS then 1 else 0, text⟩

/-- `setAttrForDSCopyAndRespondIfError`. -/
def setAttrForDSCopyAndRespondIfError (metadata : Json) (isSourceMember : Bool) :
    CopyHandler CopyAttributes :=
  setAttributes (getDatasetAttributes metadata) isSourceMember

end Zss.Datasets
