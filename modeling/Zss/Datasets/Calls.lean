import Zss.Lib.Heap
import Zss.Lib.Program

/-!
# The data set services and what they call

The handlers of `datasetjson.c` as programs over an interface: the catalog, the VTOC, dynamic
allocation, record input and output, ICSF, conversion, the JSON parser, the table of VSAM sessions
with its storage and its ACBs, and the response. What a call comes to is its answer; a handler
decides only what the code decides. The file calls name the path that was opened. `fread` stands for
the reads of one loop: its answer is what each of them returns up to the end of the file; so does
`getRecords` for those of a loop over a VSAM data set.

Where the code goes on with storage that it has not written, it asks for it (`stray`). A null string
that is compared differs from every text, as storage at address zero does on z/OS.
-/

namespace Zss.Datasets

open Zss.Lib

abbrev Text := List Char

abbrev Bytes := List UInt8

/-- The blank of the native code page. -/
def blank : UInt8 := 0x40

/-! ## Messages and responses -/

/-- The return codes of dynamic allocation that are told apart. -/
inductive DynallocRC where
  | ok
  | svc99Failed
  | other (rc : Int)
deriving DecidableEq

/-- What a `sprintf` directive is filled with. -/
inductive Arg where
  | int (n : Int)
  | text (t : Text)
  | bytes (b : Bytes)
  | dynalloc (rc : DynallocRC)
deriving DecidableEq

/-- A text, as the format and the arguments it is printed from. -/
structure Message where
  format : String
  args : List Arg
deriving DecidableEq

instance : Coe String Message := ⟨fun format => ⟨format, []⟩⟩

/-- A finished response. -/
structure Response where
  status : Nat
  msg : Option Message
  records : List Bytes
  etag : Option Text

/-- The response reports success. -/
def Response.success (r : Response) : Bool := r.status < 300

/-! ## Answers -/

/-- What is used of a catalog entry: its type, and the first volume if it has one. -/
structure CatalogEntry where
  type : Char
  volser : Option Text
deriving DecidableEq

/-- A format 1 DSCB without its key. -/
structure Dscb where
  bytes : Bytes

/-- What is used of `fldata_t`. -/
structure FileInfo where
  recfmU : Bool
  recfmF : Bool
  maxreclen : Nat
  dsorgVSAM : Bool
  dsorgHFS : Bool
  dsorgHiper : Bool

/-- One `fread`: the bytes, and `ferror` after it. -/
structure Read where
  bytes : Bytes
  error : Bool

/-- One `fwrite`: the bytes it took, and `ferror` after it. -/
structure Written where
  count : Nat
  error : Bool

/-- What the end of a digest comes to. -/
structure Finished where
  rc : Int
  hash : Bytes

structure Dynalloc where
  rc : DynallocRC
  sysRC : Int
  sysRSN : Nat
  ddName : Text

/-- What storage holds that the code has not written. -/
structure Stray where
  int : Int
  bytes : Bytes

/-- A record of an update's body: a string, or something else. -/
abbrev JsonItem := Option Bytes

/-- What the update takes from its parsed body. -/
inductive UpdateBody where
  | invalid
  | notObject
  | object (etag : Option Text) (records : List JsonItem)
deriving DecidableEq

/-! ## VSAM -/

/-- A name as the catalog has it. -/
structure CatalogName where
  chars : Text
  length_eq : chars.length = 44
  no_null : Char.ofNat 0 ∉ chars

/-- The name of a user. -/
structure UserName where
  chars : Text
  length_le : chars.length ≤ 8
  no_null : Char.ofNat 0 ∉ chars
deriving DecidableEq

/-- What is used of the catalog entry of a cluster or a component; a field it has no value of is
zero. -/
structure VsamEntry where
  type : Char
  name : CatalogName
  assoc : Option CatalogName
  vsamType : UInt16
  ciSize : Nat
  maxlrecl : Nat
  keyLoc : Nat
  keyLen : Nat

inductive VsamType where
  | ksds
  | esds
  | lds
  | rrds
deriving DecidableEq

/-- `StatefulACB`, with the key buffer of a KSDS; the other positions are not used again. -/
structure StatefulACB where
  acb : Option Addr
  type : VsamType
  key : Option Addr
deriving DecidableEq

/-- The key of a session: the data component, zeros if there is none, and the user. Behind a name of
eight characters stands a byte that is not written. -/
structure DsnUidPair where
  dsnData : Option CatalogName
  username : UserName
  endsInZero : Bool

namespace DsnUidPair

/-- The pair as a string. -/
def text (pair : DsnUidPair) : Text :=
  match pair.dsnData with
  | some name => name.chars ++ pair.username.chars
  | none => []

/-- The string ends where the pair ends. -/
def terminated (pair : DsnUidPair) : Bool :=
  pair.dsnData.isNone || decide (pair.username.chars.length < 8) || pair.endsInZero

end DsnUidPair

/-- A key for the session table: one in a block of its own, or one in an array. -/
inductive KeyRef where
  | block (pair : Addr)
  | array (text : Text) (terminated : Bool)

/-- A block that is obtained, with what is written into it at once. -/
inductive Block where
  | pair (key : DsnUidPair)
  | state (content : StatefulACB)
  | keyBuffer (length : Nat)

/-- A block that is given back. -/
inductive BlockRef where
  | pair (a : Addr)
  | state (a : Addr)

structure DynallocDD where
  returnCode : Int
  reasonCode : Nat

/-- One `getRecord`: the key and the record, and the status of the RPL after it. -/
structure VsamRead where
  key : Bytes
  record : Bytes
  status : Nat
  eof : Bool

/-! ## Calls -/

inductive Call where
  | returnEntries (dsn : Text)
  | obtainDSCB1 (dsn volser : Text)
  | fopen (path : Text) (mode : String)
  | fldata (path : Text)
  | fread (path : Text) (mode : String) (size : Nat)
  | fwrite (path : Text) (buffer : Bytes)
  | fclose (path : Text)
  | icsfDigestInit
  | icsfDigestUpdate (buffer : Bytes)
  | icsfDigestFinish (digested : Bytes)
  | simpleHexPrint (hash : Bytes)
  | dynallocAllocDataset (dsn member : Text) (disp : String)
  | dynallocUnallocDatasetByDDName (ddName : Text)
  | convertCharset (body : Bytes)
  | jsonParseUpdate (text : Bytes)
  | stray
  | respond (response : Response)
  | returnVSAMEntries (dsn : Text)
  | dynallocDataset (dsn : Text) (ddNumber : Nat)
  | safeMalloc (block : Block)
  | safeFree (block : BlockRef)
  | htGet (key : KeyRef)
  | htPut (pair state : Addr)
  | htRemove (pair : Addr)
  | readState (state : Addr)
  | writeState (state : Addr) (content : StatefulACB)
  | openACB (ddNumber : Nat) (type : VsamType) (maxlrecl maxbuffer : Nat)
  | closeACB (acb : Addr)
  | point (acb : Addr) (type : VsamType)
  | modRPL (acb : Addr) (rplParms : Option VsamType)
  | getRecords (acb : Addr) (keyLoc keyLen : Nat)
  | rplBufLen (acb : Option Addr)
  | putRecord (acb : Option Addr)

@[reducible] def Call.Answer : Call → Type
  | .returnEntries _ => List CatalogEntry
  | .obtainDSCB1 .. => Option Dscb
  | .fopen .. => Bool
  | .fldata _ => Option FileInfo
  | .fread .. => List Read
  | .fwrite .. => Written
  | .fclose _ => Int
  | .icsfDigestInit => Int
  | .icsfDigestUpdate _ => Int
  | .icsfDigestFinish _ => Finished
  | .simpleHexPrint _ => Text
  | .dynallocAllocDataset .. => Dynalloc
  | .dynallocUnallocDatasetByDDName _ => Dynalloc
  | .convertCharset _ => Option Bytes
  | .jsonParseUpdate _ => UpdateBody
  | .stray => Stray
  | .respond _ => Unit
  | .returnVSAMEntries _ => Option VsamEntry
  | .dynallocDataset .. => DynallocDD
  | .safeMalloc _ => Addr
  | .safeFree _ => Unit
  | .htGet _ => Option Addr
  | .htPut .. => Unit
  | .htRemove _ => Unit
  | .readState _ => StatefulACB
  | .writeState .. => Unit
  | .openACB .. => Option Addr
  | .closeACB _ => Unit
  | .point .. => Int
  | .modRPL .. => Unit
  | .getRecords .. => List VsamRead
  | .rplBufLen _ => Int
  | .putRecord _ => Nat

/-- An answer to every call, where nothing depends on it. -/
def Call.anyAnswer : (c : Call) → c.Answer
  | .returnEntries _ => []
  | .obtainDSCB1 .. => none
  | .fopen .. => false
  | .fldata _ => none
  | .fread .. => []
  | .fwrite .. => ⟨0, false⟩
  | .fclose _ => 0
  | .icsfDigestInit => 0
  | .icsfDigestUpdate _ => 0
  | .icsfDigestFinish _ => ⟨0, []⟩
  | .simpleHexPrint _ => []
  | .dynallocAllocDataset .. => ⟨.ok, 0, 0, []⟩
  | .dynallocUnallocDatasetByDDName _ => ⟨.ok, 0, 0, []⟩
  | .convertCharset _ => none
  | .jsonParseUpdate _ => .invalid
  | .stray => ⟨0, []⟩
  | .respond _ => ()
  | .returnVSAMEntries _ => none
  | .dynallocDataset .. => ⟨0, 0⟩
  | .safeMalloc _ => 0
  | .safeFree _ => ()
  | .htGet _ => none
  | .htPut .. => ()
  | .htRemove _ => ()
  | .readState _ => ⟨none, .esds, none⟩
  | .writeState .. => ()
  | .openACB .. => none
  | .closeACB _ => ()
  | .point .. => 0
  | .modRPL .. => ()
  | .getRecords .. => []
  | .rplBufLen _ => 0
  | .putRecord _ => 0

@[reducible] def calls : Interface := ⟨Call, Call.Answer⟩

abbrev Handler := Program calls

abbrev Trace := List (Event calls)

/-- A call as a handler makes it. -/
abbrev call (c : Call) : Handler c.Answer := Program.ask (I := calls) c

/-! ## Responding -/

def respondWithError (status : Nat) (msg : Message) : Handler Unit :=
  call (.respond ⟨status, some msg, [], none⟩)

/-- `respondWithMessage` and `respondWithJsonError`, which differ in the layout of the body. -/
abbrev respondWithMessage := respondWithError

@[inherit_doc respondWithMessage] abbrev respondWithJsonError := respondWithError

def HTTP_STATUS_OK : Nat := 200
def HTTP_STATUS_BAD_REQUEST : Nat := 400
def HTTP_STATUS_FORBIDDEN : Nat := 403
def HTTP_STATUS_NOT_FOUND : Nat := 404
def HTTP_STATUS_INTERNAL_SERVER_ERROR : Nat := 500

/-! ## Paths and names -/

/-- The position of a character, as `strchr` finds it. -/
def indexOf (t : Text) (c : Char) : Option Nat := t.findIdx? (· == c)

def apostrophe : Char := Char.ofNat 39

/-- `isDatasetPathValid`. -/
def isDatasetPathValid (path : Text) : Bool :=
  let dsnStart := path.drop 3
  let dsnEnd := path.length - 5
  5 ≤ path.length && path.length ≤ 58 && path.take 3 == ['/', '/', apostrophe] &&
    path.drop (path.length - 1) == [apostrophe] &&
    match indexOf dsnStart '(', indexOf dsnStart ')' with
    | some leftParen, some rightParen =>
      1 ≤ leftParen && leftParen ≤ 44 && rightParen == dsnEnd &&
        leftParen + 1 < rightParen && rightParen ≤ leftParen + 9
    | none, none => 1 ≤ dsnEnd + 1 && dsnEnd + 1 ≤ 44
    | _, _ => false

/-- A name in a field of blanks. -/
def padded (width : Nat) (name : Text) : Text :=
  name ++ List.replicate (width - name.length) ' '

/-- A data set name and a member name. -/
structure DatasetAndMember where
  dsn : Text
  memberName : Text

/-- `extractDatasetAndMemberName`. -/
def extractDatasetAndMemberName (datasetPath : Text) : DatasetAndMember :=
  match indexOf datasetPath '(', indexOf datasetPath ')' with
  | some leftParen, some rightParen =>
    ⟨(padded 44 ((datasetPath.take leftParen).drop 3)).map Char.toUpper,
      (padded 8 ((datasetPath.take rightParen).drop (leftParen + 1))).map Char.toUpper⟩
  | _, _ =>
    ⟨(padded 44 ((datasetPath.take (datasetPath.length - 1)).drop 3)).map Char.toUpper,
      List.replicate 8 ' '⟩

/-- `IS_DAMEMBER_EMPTY`. -/
def isDamemberEmpty (memberName : Text) : Bool := memberName == List.replicate 8 ' '

/-! ## The DSCB -/

/-- The byte at an offset of the whole DSCB. -/
def Dscb.at (dscb : Dscb) (offset : Nat) : UInt8 := dscb.bytes.getD (offset - 44) 0

/-- `getRecordLengthType`; `none` where it ends without a value. -/
def getRecordLengthType (dscb : Dscb) : Option Char :=
  let recfm := dscb.at 84
  if recfm &&& 0xc0 = 0xc0 then some 'U'
  else if recfm &&& 0x80 ≠ 0 then some 'F'
  else if recfm &&& 0x40 ≠ 0 then some 'V'
  else none

/-- `getMaxRecordLength`. -/
def getMaxRecordLength (dscb : Dscb) : Nat := (dscb.at 88).toNat * 256 + (dscb.at 89).toNat

/-- What `isSupportedWriteDsorg` says; `undefined` where it ends without a value. -/
inductive WriteDsorg where
  | supported
  | supportedPds
  | unsupported
  | undefined
deriving DecidableEq

/-- `isSupportedWriteDsorg`. -/
def isSupportedWriteDsorg (dscb : Dscb) : WriteDsorg :=
  let dsorgHigh := dscb.at 82
  let dsorgLow := dscb.at 83
  if dsorgHigh &&& 0x40 ≠ 0 then .supported
  else if dsorgHigh &&& 0x20 ≠ 0 then .unsupported
  else if dsorgHigh &&& 0x10 ≠ 0 then .unsupported
  else if dsorgHigh &&& 0x02 ≠ 0 then
    if dscb.at 78 &&& 0x0a = 0x0a then .unsupported else .supportedPds
  else if dsorgHigh &&& 0x01 ≠ 0 then .unsupported
  else if dsorgLow &&& 0x80 ≠ 0 then .unsupported
  else if dsorgLow &&& 0x08 ≠ 0 then .unsupported
  else .undefined

end Zss.Datasets
