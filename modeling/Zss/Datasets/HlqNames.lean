import Zss.Datasets.CopyCalls
import Zss.Lib.World

/-!
# The high-level qualifiers

`respondWithHLQNames` lists the data sets under each letter. The listing and the 29 parameter blocks
that it was made with are kept between requests; a request may ask for them to be made anew. What is
kept is storage, so the handler is a program over what it does with storage: each read, each block
that is obtained or freed.
-/

namespace Zss.Datasets

open Zss.Lib Zss.Lib.Json

/-- An address, or null. -/
abbrev Pointer := Option Addr

/-- What stands between requests. -/
structure MetadataQueryCache where
  cachedHLQSet : Pointer
  cachedCSIParmblocks : Pointer
deriving DecidableEq

structure EntryDataSet where
  entries : Pointer
  length : Nat
deriving DecidableEq

/-- What is read of a `csi_parmblock`. -/
structure CsiParmblock where
  isResume : Char
  resumeName : Text
  catalogName : Text
deriving DecidableEq

/-- What `getHLQs` comes to: the set that it returns, with the parameter blocks it has put into the
array and the entries of the set. -/
structure Hlqs where
  set : Addr
  parmblocks : List CsiParmblock
  entries : List NamedEntry

/-! ## Calls -/

inductive HlqCall where
  | readCache
  | writeCache (cache : MetadataQueryCache)
  | readSet (set : Pointer)
  | entryAt (entries : Pointer) (i : Nat)
  | readEntry (entry : Pointer)
  | parmblockAt (parmblocks : Pointer) (i : Nat)
  | readParmblock (parmblock : Pointer)
  | safeMalloc31
  | getHLQs (typesArg : Option Text) (workAreaSizeArg : Int) (parmblocks : Addr)
  | safeFree (block : Pointer)
  | respond (json : Json)

@[reducible] def HlqCall.Answer : HlqCall → Type
  | .readCache => MetadataQueryCache
  | .writeCache _ => Unit
  | .readSet _ => EntryDataSet
  | .entryAt .. => Pointer
  | .readEntry _ => NamedEntry
  | .parmblockAt .. => Pointer
  | .readParmblock _ => CsiParmblock
  | .safeMalloc31 => Addr
  | .getHLQs .. => Hlqs
  | .safeFree _ => Unit
  | .respond _ => Unit

@[reducible] def hlqCalls : Interface := ⟨HlqCall, HlqCall.Answer⟩

abbrev HlqHandler := Program hlqCalls

/-- A call as the handler makes it. -/
abbrev hlqCall (c : HlqCall) : HlqHandler c.Answer := Program.ask (I := hlqCalls) c

/-! ## The handler -/

/-- What is used of a request. -/
structure HlqRequest where
  updateCache : Option Text
  types : Option Text
  workAreaSize : Option Int

def HlqRequest.updatesCache (request : HlqRequest) : Bool :=
  request.updateCache == some "true".toList

def hlqFirstChar : List Char :=
  ['A', 'B', 'C', 'D', 'E', 'F', 'G', 'H', 'I', 'J', 'K', 'L', 'M', 'N', 'O', 'P', 'Q', 'R', 'S', 'T',
    'U', 'V', 'W', 'X', 'Y', 'Z', '$', '@', '#']

/-- The loop that frees the entries, from an index on, and with each a parameter block. -/
def freeEntries (entries parmblocks : Pointer) : Nat → Nat → HlqHandler Unit
  | 0, _ => pure ()
  | n + 1, i => do
    let entry ← hlqCall (.entryAt entries i)
    -- the size of the entry
    let _ ← hlqCall (.readEntry entry)
    hlqCall (.safeFree entry)
    let parmblock ← hlqCall (.parmblockAt parmblocks i)
    hlqCall (.safeFree parmblock)
    freeEntries entries parmblocks n (i + 1)

/-- The cached set freed. -/
def freeCachedSet (cache : MetadataQueryCache) : HlqHandler Unit := do
  let set ← hlqCall (.readSet cache.cachedHLQSet)
  freeEntries set.entries cache.cachedCSIParmblocks set.length 0
  hlqCall (.safeFree set.entries)
  hlqCall (.safeFree cache.cachedHLQSet)

/-- The set made anew, with an array for its parameter blocks. -/
def makeHLQSet (request : HlqRequest) : HlqHandler MetadataQueryCache := do
  let returnParmsArray ← hlqCall .safeMalloc31
  let hlqs ← hlqCall (.getHLQs request.types (request.workAreaSize.getD 0) returnParmsArray)
  pure ⟨some hlqs.set, some returnParmsArray⟩

/-- The set and the parameter blocks that a request is answered from. -/
def getHLQSet (request : HlqRequest) (cache : MetadataQueryCache) :
    HlqHandler MetadataQueryCache :=
  match cache.cachedHLQSet with
  | none => makeHLQSet request
  | some _ =>
    if request.updatesCache then do
      freeCachedSet cache
      makeHLQSet request
    else pure cache

/-- What is printed of a parameter block. -/
def CsiParmblock.json (letter : Char) (returnParms : CsiParmblock) : Json :=
  if returnParms.isResume = 'Y' then
    object [("name", string [letter]), ("hasMore", number 1),
      ("resumeName", string returnParms.resumeName),
      ("resumeCatalogName", string returnParms.catalogName)]
  else object [("name", string [letter]), ("hasMore", number 0)]

/-- The loop that prints the parameter blocks, from an index on. -/
def printParmblocks (parmblocks : Pointer) : List Char → Nat → HlqHandler (List Json)
  | [], _ => pure []
  | letter :: letters, i => do
    let parmblock ← hlqCall (.parmblockAt parmblocks i)
    let returnParms ← hlqCall (.readParmblock parmblock)
    let rest ← printParmblocks parmblocks letters (i + 1)
    pure (returnParms.json letter :: rest)

/-- What is printed of an entry, unless its name is blank. -/
def hlqEntryJson (entry : NamedEntry) : List Json :=
  if entry.name.all (· == ' ') then []
  else
    [object ([("name", string entry.name), ("type", string [entry.entry.type])] ++
      match if ['A', 'B', 'D', 'H'].contains entry.entry.type then entry.entry.volser else none with
      | some volser => [("VOLSER", string volser)]
      | none => [])]

/-- The loop that prints the entries, from an index on. -/
def printEntries (entries : Pointer) : Nat → Nat → HlqHandler (List Json)
  | 0, _ => pure []
  | n + 1, i => do
    let entry ← hlqCall (.entryAt entries i)
    let json ←
      match entry with
      | some address => do
        let data ← hlqCall (.readEntry (some address))
        pure (hlqEntryJson data)
      | none => pure []
    let rest ← printEntries entries n (i + 1)
    pure (json ++ rest)

/-- `respondWithHLQNames`. -/
def respondWithHLQNames (request : HlqRequest) : HlqHandler Unit := do
  let cached ← hlqCall .readCache
  let cache ← getHLQSet request cached
  let csiResults ← printParmblocks cache.cachedCSIParmblocks hlqFirstChar 0
  let hlqSet ← hlqCall (.readSet cache.cachedHLQSet)
  let datasets ← printEntries hlqSet.entries hlqSet.length 0
  hlqCall (.writeCache cache)
  hlqCall (.respond (object [("csiResults", array csiResults), ("datasets", array datasets)]))

end Zss.Datasets
