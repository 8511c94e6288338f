import Zss.Datasets.Read
import Zss.Lib.Embedding
import Zss.Lib.Json

/-!
# What the copy service calls

The copy service lists a catalog, reads strings, prints into arrays of its own, makes text units and
allocates new data sets, and deletes members. These calls stand beside those of the other data set
services, which it uses too.

A string that was found in storage in use is read without a call; where the code reads one that is
not there, whose storage was given back, or which nothing was written to, it asks (`stringAt`). An
array on the stack has a capacity, and what is put into it a size: `fill` records both, and `sprintf`
the message that is printed. The printing and the parsing of metadata are taken together: the JSON
that is printed is the JSON that is parsed.
-/

namespace Zss.Datasets

open Zss.Lib

/-! ## Strings and arrays -/

/-- A string, by the storage that it is in. -/
inductive CString where
  | absent
  | live (text : Text)
  | freed (text : Text)
  | unwritten
deriving DecidableEq

namespace CString

/-- The string once its storage is given back. -/
def release : CString → CString
  | live text => freed text
  | s => s

/-- What a lookup of a string comes to. -/
def ofOption : Option Text → CString
  | some text => live text
  | none => absent

/-- A read of the string finds what was put there, and its storage is in use. -/
def inUse : CString → Bool
  | live _ => true
  | _ => false

end CString

/-- The arrays that are filled. -/
inductive Buffer where
  | record
  | memberName
  | responseMessage
  | msgBuffer
  | dscbBuffer
  | datasetAttributes
  | recFormat

/-! ## Text units -/

/-- The named values of text units. -/
inductive ParmDefn where
  | dispNew
  | dispKeep
  | dispCatlg
  | dsorgPS
  | dsorgPO
  | mrec
  | krec
  | urec
  | pdse
  | pds
  | hfs
  | extreq
  | extpref
  | basic
  | large

/-- The keys of text units; a key may also be the number of a named value. -/
inductive TextUnitKey where
  | daldsnam
  | dalddnam
  | dalstats
  | daldsorg
  | dalblksz
  | dallrecl
  | dalvlser
  | dalrecfm
  | dalblkln
  | dalprime
  | dalsecnd
  | dalndisp
  | dalstcl
  | dalmgcl
  | daldacl
  | dalcyl
  | daltrk
  | daldir
  | dalavgr
  | daldsnt
  | parmDefn (value : ParmDefn)

/-- The bits of a record format. -/
structure Recfm where
  a : Bool
  b : Bool
  v : Bool
  f : Bool
  u : Bool

inductive TextUnitValue where
  | boolean
  | defn (value : ParmDefn)
  | recfm (value : Recfm)
  | int16 (value : Int)
  | int24 (value : Int)
  | longint (value : Int)
  | string (size : Nat) (value : Text)

structure TextUnit where
  key : TextUnitKey
  value : TextUnitValue

/-! ## Calls -/

/-- An entry of a listing: its name in a field of blanks, and what else is used of it. -/
structure NamedEntry where
  name : Text
  entry : CatalogEntry
deriving DecidableEq

/-- What the allocation of a new data set comes to; of what is made, the volume and the DSCB. -/
structure NewDataset where
  returnCode : Int
  reasonCode : Nat
  volser : Text
  dscb : Dscb

inductive CopyCall where
  | base (c : Call)
  | listEntries (filter : Text)
  | getPDSMembers (dsn : Text)
  | matchWithWildcards (query memberName : Text)
  | stringAt (s : CString)
  | fill (buffer : Buffer) (capacity used : Nat)
  | sprintf (buffer : Buffer) (capacity : Nat) (message : Message)
  | getQueryParam (name : String)
  | jsonParse (text : Text)
  | setTextUnit (unit : TextUnit)
  | dynallocNewDataset (units : List TextUnit)
  | dynallocUnallocAndDelete (ddName : Text)
  | openSAM (ddName : Text)
  | closeSAM (ddName : Text)
  | malloc24
  | free24
  | bpamDeleteMember (ddName memberName : Text)

@[reducible] def CopyCall.Answer : CopyCall → Type
  | .base c => c.Answer
  | .listEntries _ => List NamedEntry
  | .getPDSMembers _ => List Text
  | .matchWithWildcards .. => Bool
  | .stringAt _ => Text
  | .fill .. => Unit
  | .sprintf .. => Unit
  | .getQueryParam _ => Option Text
  | .jsonParse _ => Option Json
  | .setTextUnit _ => Int
  | .dynallocNewDataset _ => NewDataset
  | .dynallocUnallocAndDelete _ => Dynalloc
  | .openSAM _ => Bool
  | .closeSAM _ => Unit
  | .malloc24 => Bool
  | .free24 => Unit
  | .bpamDeleteMember .. => Int

/-- An answer to every call, where nothing depends on it. -/
def CopyCall.anyAnswer : (c : CopyCall) → c.Answer
  | .base c => c.anyAnswer
  | .listEntries _ => []
  | .getPDSMembers _ => []
  | .matchWithWildcards .. => false
  | .stringAt _ => []
  | .fill .. => ()
  | .sprintf .. => ()
  | .getQueryParam _ => none
  | .jsonParse _ => none
  | .setTextUnit _ => 0
  | .dynallocNewDataset _ => ⟨0, 0, [], ⟨[]⟩⟩
  | .dynallocUnallocAndDelete _ => ⟨.ok, 0, 0, []⟩
  | .openSAM _ => false
  | .closeSAM _ => ()
  | .malloc24 => false
  | .free24 => ()
  | .bpamDeleteMember .. => 0

@[reducible] def copyCalls : Interface := ⟨CopyCall, CopyCall.Answer⟩

abbrev CopyHandler := Program copyCalls

/-- A call as the copy service makes it. -/
abbrev copyCall (c : CopyCall) : CopyHandler c.Answer := Program.ask (I := copyCalls) c

/-- The calls of the other services, made by this one. -/
def baseCalls : calls.Embedding copyCalls := ⟨.base, fun _ answer => answer⟩

/-- What the other services do, done by this one. -/
abbrev base {α : Type} (p : Handler α) : CopyHandler α := p.embed baseCalls

/-- The string as it is read. -/
def readString : CString → CopyHandler Text
  | .live text => pure text
  | s => copyCall (.stringAt s)

/-- `strcmp` finds the string equal to a text. -/
def equalsText (s : CString) (text : Text) : CopyHandler Bool := do
  let found ← readString s
  pure (found == text)

/-- A number as `%d` prints it. -/
def decimal (n : Int) : Text := (toString n).toList

/-- The value of 32-bit arithmetic. -/
def wrap32 (n : Int) : Int := n.bmod (2 ^ 32)

end Zss.Datasets
