import Zss.Zis.Service

/-!
# The parameters of the server

The parameter set of `parm.c` and the PARMLIB member it is read from: the trim of a record, the
handler that joins records and puts the parameters, the loop over a member, and `zisReadParmlib`
around it with the outcomes of the logical PARMLIB service.

The short-lived heap is an argument: from a state and a size, the state after an allocation, or
nothing. A record is as long as its member's record size says; the source's is eighty.
-/

namespace Zss.Zis

/-! ## Constants -/

def rcZisparmOk : Int := 0
def rcZisparmMemberNotFound : Int := 2
def rcZisparmDdnameTooLong : Int := 8
def rcZisparmMemberNameTooLong : Int := 9
def rcZisparmParmlibAllocFailed : Int := 10
def rcZisparmReadBufferAllocFailed : Int := 11
def rcZisparmParmlibReadFailed : Int := 12
def rcZisparmParmlibFreeFailed : Int := 13
def rcZisparmSlhAllocFailed : Int := 16
def rcZisparmContinuationTooLong : Int := 19

def iefprmlbRecordSize : Nat := 80
def iefprmlbHeaderSize : Nat := 24

def rcIefprmlbOk : Int := 0
def rcIefprmlbWarn : Int := 4
def rcIefprmlbFailed : Int := 12
def rsnIefprmlbAlreadyAllocated : Int := 1
def rsnIefprmlbMemberNotFound : Int := 1
def rsnIefprmlbBufferFull : Int := 10

def readBufferDefaultSize : Nat := 1024 * 1024

/-- The size of `currRecord`. -/
def currRecordSize : Nat := 4096

def zisParmSetEntrySize : Nat := 32

def nul : Char := Char.ofNat 0

/-! ## The parameter set -/

/-- A parameter; its key or its value is missing where there was no storage for it. -/
structure ZisParmSetEntry where
  key : Option Text
  value : Option Text
deriving DecidableEq

/-- A parameter set, with the keys and values put into it so far, which the code does not keep. -/
structure ZisParmSet (σ : Type) where
  slh : σ
  entries : List ZisParmSetEntry
  puts : List (Text × Text)
deriving DecidableEq

/-- `findEntry`, of a set with a key in each entry. One without, which only a failed put leaves, is
nobody's here, where the code ends in a comparison with NULL (`findEntryChecked`). -/
def findEntry (entries : List ZisParmSetEntry) (name : Text) : Option Nat :=
  entries.findIdx? fun entry => entry.key = some name

section

variable {σ : Type} (slhAlloc : σ → Nat → Option σ)

/-- The entry for a name, found or made at the end of the list. -/
def takeEntry (parms : ZisParmSet σ) (name : Text) : Option (ZisParmSet σ × Nat) :=
  match findEntry parms.entries name with
  | some entry => some (parms, entry)
  | none =>
    (slhAlloc parms.slh zisParmSetEntrySize).map fun slh =>
      ({ parms with slh := slh, entries := parms.entries ++ [⟨none, none⟩] }, parms.entries.length)

/-- The key of an entry, copied where it has none. -/
def putKey (parms : ZisParmSet σ) (entry : Nat) (name : Text) : Option (ZisParmSet σ) :=
  if (parms.entries[entry]?.bind ZisParmSetEntry.key).isSome then some parms
  else
    (slhAlloc parms.slh (name.length + 1)).map fun slh =>
      { parms with
        slh := slh
        entries := parms.entries.modify entry fun e => { e with key := some name } }

/-- `zisPutParmValue`. -/
def zisPutParmValue (parms : ZisParmSet σ) (name value : Text) : Int × ZisParmSet σ :=
  match takeEntry slhAlloc parms name with
  | none => (rcZisparmSlhAllocFailed, parms)
  | some (parms, entry) =>
    match putKey slhAlloc parms entry name with
    | none => (rcZisparmSlhAllocFailed, parms)
    | some parms =>
      match slhAlloc parms.slh (value.length + 1) with
      | none =>
        (rcZisparmSlhAllocFailed,
          { parms with entries := parms.entries.modify entry fun e => { e with value := none } })
      | some slh =>
        (rcZisparmOk,
          { slh := slh
            entries := parms.entries.modify entry fun e => { e with value := some value }
            puts := parms.puts ++ [(name, value)] })

/-! ## The records of a member -/

/-- `getTrimmedSlice`. -/
def getTrimmedSlice (string : Text) (length : Nat) : Text :=
  (((string.take length).dropWhile (· = ' ')).reverse.dropWhile (· = ' ')).reverse

/-- `isParmCommentedOut`. -/
def isParmCommentedOut (parm : Text) : Bool :=
  ['*'].isPrefixOf parm || ['/', '/', '*'].isPrefixOf parm

/-- What the string functions see of a text with a terminator behind it. -/
def cString (text : Text) : Text := text.takeWhile (· ≠ nul)

/-- A parameter split at its first equal sign. -/
def splitParm (record : Text) : Text × Text :=
  (record.takeWhile (· ≠ '='), (record.dropWhile (· ≠ '=')).drop 1)

/-- `ParmRecordVisitorData`; `currRecordLen` is the length of `currRecord`. -/
structure ParmRecordVisitorData (σ : Type) where
  parmSet : ZisParmSet σ
  currRecordStart : Nat
  currRecordEnd : Nat
  currRecord : Text

/-- `handleParmRecord` from the trimmed record on. -/
def handleTrimmedRecord (slice : Text) (context : ParmRecordVisitorData σ) :
    Int × ParmRecordVisitorData σ :=
  if context.currRecord.isEmpty && isParmCommentedOut slice then (rcZisparmOk, context)
  else if context.currRecord.length + slice.length + 1 > currRecordSize then
    (rcZisparmContinuationTooLong, context)
  else
    let currRecord := context.currRecord ++ slice
    if slice.getLast? = some '\\' then
      (rcZisparmOk, { context with currRecord := currRecord.dropLast })
    else
      match slhAlloc context.parmSet.slh (currRecord.length + 1) with
      | none => (rcZisparmSlhAllocFailed, { context with currRecord := currRecord })
      | some slh =>
        let parm := splitParm (cString currRecord)
        let put := zisPutParmValue slhAlloc { context.parmSet with slh := slh } parm.1 parm.2
        (put.1, { context with parmSet := put.2, currRecord := [] })

/-- `handleParmRecord`. -/
def handleParmRecord (record : Text) (recordLength : Nat) (context : ParmRecordVisitorData σ) :
    Int × ParmRecordVisitorData σ :=
  let currRecordEnd := context.currRecordEnd + 1
  let currRecordStart :=
    if context.currRecord.isEmpty then currRecordEnd else context.currRecordStart
  handleTrimmedRecord slhAlloc (getTrimmedSlice record recordLength)
    { context with currRecordStart := currRecordStart, currRecordEnd := currRecordEnd }

/-- `iterateMember` with `handleParmRecord`. -/
def iterateMember (recordSize : Nat) :
    List Text → ParmRecordVisitorData σ → Int × ParmRecordVisitorData σ
  | [], context => (rcZisparmOk, context)
  | record :: records, context =>
    match handleParmRecord slhAlloc record recordSize context with
    | (visitorRC, context) =>
      if visitorRC ≠ rcZisparmOk then (visitorRC, context)
      else iterateMember recordSize records context

/-! ## The member -/

structure ZisParmStatus where
  internalRC : Int
  internalRSN : Int
deriving DecidableEq

/-- One turn of the read loop: whether there is storage for its buffer, and what the service
returns. -/
structure ReadAttempt where
  storage : Bool
  readRC : Int
  readRSN : Int
  sizeRequired : Nat

/-- What `zisReadParmlib` meets: the outcomes of the logical PARMLIB service, and the records of the
member where they are read. -/
structure ParmlibEnv where
  allocRC : Int
  allocRSN : Int
  first : ReadAttempt
  second : ReadAttempt
  records : List Text
  freeRC : Int
  freeRSN : Int

/-- The read loop: its status, whether there is a read buffer, and the codes of the service. -/
def readMember : List ReadAttempt → Nat → ZisParmStatus → Int × Bool × ZisParmStatus
  | [], _, readStatus => (rcZisparmOk, false, readStatus)
  | attempt :: attempts, readBufferSize, readStatus =>
    if readBufferSize ≤ iefprmlbHeaderSize ∨ !attempt.storage then
      (rcZisparmReadBufferAllocFailed, false, readStatus)
    else if attempt.readRC = rcIefprmlbOk then (rcZisparmOk, true, readStatus)
    else if attempt.readRC = rcIefprmlbFailed ∧ attempt.readRSN = rsnIefprmlbMemberNotFound then
      (rcZisparmMemberNotFound, true, readStatus)
    else if attempt.readRC = rcIefprmlbFailed ∧ attempt.readRSN = rsnIefprmlbBufferFull then
      readMember attempts attempt.sizeRequired readStatus
    else (rcZisparmParmlibReadFailed, true, ⟨attempt.readRC, attempt.readRSN⟩)

/-- The allocation of the DD and the read of the member. -/
def readLogicalMember (env : ParmlibEnv) (readStatus : ZisParmStatus) :
    Int × Bool × ZisParmStatus :=
  if env.allocRC = rcIefprmlbOk ∨
      env.allocRC = rcIefprmlbWarn ∧ env.allocRSN = rsnIefprmlbAlreadyAllocated then
    readMember [env.first, env.second] readBufferDefaultSize readStatus
  else (rcZisparmParmlibAllocFailed, false, ⟨env.allocRC, env.allocRSN⟩)

/-- The records of the member that was read put into the parameter set. A second full buffer leaves
no buffer and no error; the member is then looked for at address zero, which has no model. -/
def handleMember (recordSize : Nat) (env : ParmlibEnv) (parms : ZisParmSet σ)
    (read : Int × Bool × ZisParmStatus) : Option (Int × ZisParmSet σ × ZisParmStatus) :=
  match read with
  | (status, buffer, readStatus) =>
    if status ≠ rcZisparmOk then some (status, parms, readStatus)
    else if !buffer then none
    else
      match iterateMember slhAlloc recordSize env.records ⟨parms, 0, 0, []⟩ with
      | (iterateRC, context) =>
        if iterateRC ≠ rcZisparmOk then
          some (iterateRC, context.parmSet, ⟨context.currRecordStart, context.currRecordEnd⟩)
        else some (rcZisparmOk, context.parmSet, readStatus)

/-- `zisReadParmlib`: the return code, the parameter set and the codes it leaves. -/
def zisReadParmlib (recordSize : Nat) (env : ParmlibEnv) (parms : ZisParmSet σ)
    (ddname member : Text) (readStatus : ZisParmStatus) :
    Option (Int × ZisParmSet σ × ZisParmStatus) :=
  if ddname.length > 8 then some (rcZisparmDdnameTooLong, parms, readStatus)
  else if member.length > 8 then some (rcZisparmMemberNameTooLong, parms, readStatus)
  else
    (handleMember slhAlloc recordSize env parms (readLogicalMember env readStatus)).map
      fun (status, parms, readStatus) =>
        if env.allocRC = rcIefprmlbOk ∧ env.freeRC ≠ rcIefprmlbOk ∧ status ≠ rcZisparmOk then
          (rcZisparmParmlibFreeFailed, parms, ⟨env.freeRC, env.freeRSN⟩)
        else (status, parms, readStatus)

end

/-! ## What a put does -/

/-- The entries with a value for a key, in the place the key has or behind all others. -/
def putEntry (entries : List ZisParmSetEntry) (parm : Text × Text) : List ZisParmSetEntry :=
  match findEntry entries parm.1 with
  | some entry => entries.modify entry fun e => { e with value := some parm.2 }
  | none => entries ++ [⟨some parm.1, some parm.2⟩]

/-- A parameter was put into a set. -/
structure ZisParmSet.Put {σ : Type} (parms : ZisParmSet σ) (parm : Text × Text)
    (parms' : ZisParmSet σ) : Prop where
  puts : parms'.puts = parms.puts ++ [parm]
  entries : parms'.entries = putEntry parms.entries parm

/-- A put fails for want of storage only. -/
theorem zisPutParmValue_rc {σ : Type} (slhAlloc : σ → Nat → Option σ) (parms : ZisParmSet σ)
    (name value : Text) :
    (zisPutParmValue slhAlloc parms name value).1 = rcZisparmOk ∨
      (zisPutParmValue slhAlloc parms name value).1 = rcZisparmSlhAllocFailed := by
  unfold zisPutParmValue
  split
  · exact .inr rfl
  split
  · exact .inr rfl
  split
  · exact .inr rfl
  · exact .inl rfl

/-- **A member is refused for two reasons.** A line with its continuations is too long, or there is
no storage. -/
theorem iterateMember_rc {σ : Type} (slhAlloc : σ → Nat → Option σ) (recordSize : Nat)
    (records : List Text) (context : ParmRecordVisitorData σ) :
    (iterateMember slhAlloc recordSize records context).1 ∈
      [rcZisparmOk, rcZisparmContinuationTooLong, rcZisparmSlhAllocFailed] := by
  have handled : ∀ (slice : Text) (context : ParmRecordVisitorData σ),
      (handleTrimmedRecord slhAlloc slice context).1 ∈
        [rcZisparmOk, rcZisparmContinuationTooLong, rcZisparmSlhAllocFailed] := by
    intro slice context
    unfold handleTrimmedRecord
    split
    · simp
    split
    · simp
    dsimp only
    split
    · simp
    split
    · simp
    · next slh _ =>
      rcases zisPutParmValue_rc slhAlloc { context.parmSet with slh := slh }
        (splitParm (cString (context.currRecord ++ slice))).1
        (splitParm (cString (context.currRecord ++ slice))).2 with h | h <;> simp [h]
  induction records generalizing context with
  | nil => simp [iterateMember]
  | cons record records ih =>
    rw [iterateMember]
    split
    next visitorRC after hvisit =>
    split
    · have visited : (handleParmRecord slhAlloc record recordSize context).1 ∈
          [rcZisparmOk, rcZisparmContinuationTooLong, rcZisparmSlhAllocFailed] := handled _ _
      exact congrArg Prod.fst hvisit ▸ visited
    · exact ih after

theorem findEntry_some {entries : List ZisParmSetEntry} {name : Text} {entry : Nat}
    (h : findEntry entries name = some entry) :
    entries[entry]?.bind ZisParmSetEntry.key = some name := by
  obtain ⟨hlt, hkey, -⟩ := List.findIdx?_eq_some_iff_getElem.mp h
  rw [List.getElem?_eq_getElem hlt]
  simpa using hkey

theorem modify_last {entries : List ZisParmSetEntry} (last : ZisParmSetEntry)
    (f : ZisParmSetEntry → ZisParmSetEntry) :
    (entries ++ [last]).modify entries.length f = entries ++ [f last] := by
  induction entries with
  | nil => rfl
  | cons entry entries ih => simpa using ih

/-- **A put that succeeds puts its parameter.** -/
theorem zisPutParmValue_ok {σ : Type} {slhAlloc : σ → Nat → Option σ} {parms parms' : ZisParmSet σ}
    {name value : Text} (h : zisPutParmValue slhAlloc parms name value = (rcZisparmOk, parms')) :
    parms.Put (name, value) parms' := by
  have failed : (rcZisparmSlhAllocFailed : Int) ≠ rcZisparmOk := by decide
  simp only [zisPutParmValue] at h
  split at h
  · exact absurd (congrArg Prod.fst h) failed
  next taken entry htaken =>
  split at h
  · exact absurd (congrArg Prod.fst h) failed
  next keyed hkeyed =>
  split at h
  · exact absurd (congrArg Prod.fst h) failed
  next slh hslh =>
  obtain rfl := (Prod.mk.inj h).2.symm
  unfold takeEntry at htaken
  unfold putKey at hkeyed
  split at htaken
  · next i hfound =>
    obtain ⟨rfl, rfl⟩ := Prod.mk.inj (Option.some.inj htaken)
    rw [findEntry_some hfound, Option.isSome_some, if_pos rfl, Option.some.injEq] at hkeyed
    obtain rfl := hkeyed
    refine ⟨rfl, ?_⟩
    simp only [putEntry, hfound]
  · next hfound =>
    obtain ⟨slh', hslh', heq⟩ := Option.map_eq_some_iff.mp htaken
    obtain ⟨rfl, rfl⟩ := Prod.mk.inj heq
    rw [List.getElem?_append_right le_rfl, Nat.sub_self] at hkeyed
    obtain ⟨slh'', hslh'', rfl⟩ := Option.map_eq_some_iff.mp hkeyed
    refine ⟨rfl, ?_⟩
    simp only [putEntry, hfound, modify_last]

end Zss.Zis
