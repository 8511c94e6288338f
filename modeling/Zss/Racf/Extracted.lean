import Mathlib.Algebra.Order.Ring.Nat
import Mathlib.Logic.Function.Basic
import Zss.Lib.Rules
import Zss.Racf.Extraction

/-!
# What the extraction services come to

`extractionRules` are the rules of the calls: R_admin is asked once, for the caller the service runs
for and in the class it read, with storage that has room for as many entries as it is asked for; an
entry is copied from that storage while it is held, to where the caller has room; and storage is
given back with the size it was obtained with.

`extractionService_keeps` says of every service and every run that it keeps these rules, that it
gives its storage back, and what its caller then finds: in the buffer, in the parm list and in the
return code. A return code is tied to the check that has it: `Refused` to the first check that a parm
list does not pass, `Unasked` to the call that did not provide what R_admin needs.

## What is not established

A run is one that returns. The copies from and to the caller may abend, and the services have no
recovery: such a run ends at the copy, with the rules kept up to there and the storage still held.
Nothing is said of what R_admin stores, only of what becomes of it.
-/

namespace Zss.Racf

open Zss.Lib Program
open Zss.Tss (Text CountedText printedString rcRadminOk zisSecurityClassMaxLength)

/-! ## The rules of the calls -/

/-- What R_admin was asked, and what it answered. -/
structure Answered (Info : Type) where
  request : RadminRequest
  answer : RadminAnswer Info request.capacity

/-- The caller the service runs for, the class parameter it read, the storage it holds with its
sizes, what it asked of R_admin, and the caller's buffer. -/
structure ExtractionUse (Info Entry : Type) where
  caller : Option CountedText
  className : Option Text
  buffers : List (Nat × Nat)
  answered : Option (Answered Info)
  result : Nat → Entry

/-- The class parameter is there, and no longer than a class. -/
def isClass : Except Int CountedText → Bool
  | .ok parm => parm.length ≤ zisSecurityClassMaxLength
  | .error _ => false

/-- What is asked for is there: the caller, the class parameter, or storage. -/
def Provides {Info Write : Type} : Event (extractionCalls Info Write) → Prop
  | ⟨.secmgmtGetCallerUserID, (caller : Option CountedText)⟩ => caller.isSome
  | ⟨.cmsGetConfigParm _, (parm : Except Int CountedText)⟩ => isClass parm
  | ⟨.safeMalloc64v3 _, (buffer : Option Nat)⟩ => buffer.isSome
  | _ => True

section

variable {Info Entry : Type} (radmin : RadminExtraction) (service : ExtractionService Info Entry)
  (allowed : Event (extractionCalls Info service.Write) → Prop)

def ExtractionUse.start (result : Nat → Entry) : ExtractionUse Info Entry :=
  ⟨none, none, [], none, result⟩

/-- Storage is held with room for so many bytes. -/
def ExtractionUse.hasRoom (use : ExtractionUse Info Entry) (buffer size : Nat) : Bool :=
  use.buffers.any fun held => held.1 = buffer ∧ size ≤ held.2

/-- R_admin stored an entry in storage that is held still. -/
def ExtractionUse.readable (use : ExtractionUse Info Entry) (index : Nat) : Bool :=
  use.answered.any fun answered =>
    index < answered.answer.entries.length ∧ use.hasRoom answered.request.buffer 0

/-- The caller's buffer after a copy. -/
def ExtractionUse.copied (use : ExtractionUse Info Entry) (index : Nat) (write : service.Write) :
    ExtractionUse Info Entry :=
  { use with result := Function.update use.result index (service.apply (use.result index) write) }

/-- The rules, for a caller whose buffer holds so many entries. -/
def extractionRules (capacity : Nat) :
    Machine (ExtractionUse Info Entry) (Event (extractionCalls Info service.Write)) where
  step use
    | ⟨.secmgmtGetCallerUserID, (caller : Option CountedText)⟩ => some { use with caller := caller }
    | ⟨.cmsGetConfigParm _, (parm : Except Int CountedText)⟩ =>
      some { use with className := parm.toOption.map fun parm => printedString parm.value }
    | ⟨.safeMalloc64v3 size, (buffer : Option Nat)⟩ =>
      some { use with buffers := buffer.toList.map (·, size) ++ use.buffers }
    | ⟨.radminExtract request, (answer : RadminAnswer Info request.capacity)⟩ =>
      if use.answered.isNone ∧ use.caller = some request.userID ∧
          request.className = use.className ∧
          use.hasRoom request.buffer (service.infoSize * request.capacity) then
        some { use with answered := some ⟨request, answer⟩ }
      else none
    | ⟨.cmCopyToSecondary index write, _⟩ =>
      if index < capacity ∧ use.readable index then some (use.copied service index write) else none
    | ⟨.safeFree64v3 buffer size, _⟩ =>
      if (buffer, size) ∈ use.buffers then
        some { use with buffers := use.buffers.erase (buffer, size) }
      else none

/-- A buffer whose first entries are these. -/
def overwritten (before : Nat → Entry) (entries : List Entry) (i : Nat) : Entry :=
  entries[i]?.getD (before i)

/-- The class is the class parameter, or none where the service has none. -/
def ClassRead (className : Option Text) : Prop :=
  if service.codes.userClass.isSome then
    ∃ userClassParm,
      allowed ⟨.cmsGetConfigParm zisParmlibParmSecmgmtUserClass, .ok userClassParm⟩ ∧
        userClassParm.length ≤ zisSecurityClassMaxLength ∧
        className = some (printedString userClassParm.value)
  else className = none

/-- The class of a parm list has room in a class, where the service looks at it. -/
def ClassFits (parm : ExtractionParmList) : Prop :=
  service.codes.userClass.isSome → ∀ className, parm.className = some className →
    className.length ≤ zisSecurityClassMaxLength

/-- A parm list that a service accepts. -/
structure Accepts (parm : ExtractionParmList) : Prop where
  eyecatcher : parm.eyecatcher = service.eyecatcher.take 8
  className : ClassFits service parm
  name : parm.name.length ≤ service.maxNameLength
  resultBuffer : parm.resultBuffer.isSome

/-- Why a parm list is refused: the first check that it does not pass, with the code of this
check. -/
inductive Refused : Option ExtractionParmList → Int → Prop
  | parmlistNull : Refused none service.codes.parmlistNull
  | badEyecatcher {parm : ExtractionParmList}
      (other : parm.eyecatcher ≠ service.eyecatcher.take 8) :
      Refused (some parm) service.codes.badEyecatcher
  | classTooLong {parm : ExtractionParmList} {codes : ClassCodes} {className : CountedText}
      (eyecatcher : parm.eyecatcher = service.eyecatcher.take 8)
      (looks : service.codes.userClass = some codes) (given : parm.className = some className)
      (long : zisSecurityClassMaxLength < className.length) :
      Refused (some parm) codes.classTooLong
  | nameTooLong {parm : ExtractionParmList}
      (eyecatcher : parm.eyecatcher = service.eyecatcher.take 8) (fits : ClassFits service parm)
      (long : service.maxNameLength < parm.name.length) :
      Refused (some parm) service.codes.nameTooLong
  | resultBuffNull {parm : ExtractionParmList}
      (eyecatcher : parm.eyecatcher = service.eyecatcher.take 8) (fits : ClassFits service parm)
      (short : parm.name.length ≤ service.maxNameLength) (null : parm.resultBuffer = none) :
      Refused (some parm) service.codes.resultBuffNull

/-- Why the class could not be read: the code for what the class parameter is, with the output
fields. -/
inductive Unread (output : ExtractionOutput) : Int → ExtractionOutput → Prop
  | userClassNotRead {codes : ClassCodes} {getParmRC : Int}
      (looks : service.codes.userClass = some codes)
      (given : allowed ⟨.cmsGetConfigParm zisParmlibParmSecmgmtUserClass, .error getParmRC⟩) :
      Unread output codes.userClassNotRead { output with internalServiceRC := getParmRC }
  | classTooLong {codes : ClassCodes} {userClassParm : CountedText}
      (looks : service.codes.userClass = some codes)
      (given : allowed ⟨.cmsGetConfigParm zisParmlibParmSecmgmtUserClass, .ok userClassParm⟩)
      (long : zisSecurityClassMaxLength < userClassParm.length) :
      Unread output codes.classTooLong output

/-- Why R_admin was not asked: the call that did not provide what it needs, with the code for this
call. -/
inductive Unasked (parm : ExtractionParmList) : Int → ExtractionOutput → Prop
  | impersonationMissing (given : allowed ⟨.secmgmtGetCallerUserID, (none : Option CountedText)⟩) :
      Unasked parm service.codes.impersonationMissing parm.output
  | unread {rc : Int} {output : ExtractionOutput}
      (unread : Unread service allowed parm.output rc output) : Unasked parm rc output
  | allocFailed
      (given : allowed ⟨.safeMalloc64v3 (service.infoSize * parm.capacity.toNat),
        (none : Option Nat)⟩) :
      Unasked parm service.codes.allocFailed parm.output

/-- R_admin was asked for what the parm list asks for, in the class that was read. -/
structure Answered.AsksFor (answered : Answered Info) (parm : ExtractionParmList) : Prop where
  given : allowed ⟨.radminExtract answered.request, answered.answer⟩
  className : ClassRead service allowed answered.request.className
  name : answered.request.name = startName service parm.name
  capacity : answered.request.capacity = parm.capacity.toNat

/-- The output fields where all entries are copied. -/
def ExtractionService.listedOutput (output : ExtractionOutput) (extracted : BitVec 32) :
    ExtractionOutput :=
  { output with
    entriesExtracted := extracted
    entriesFound := if service.codes.insufficientSpace.isSome then extracted
      else output.entriesFound }

/-- What a service comes to: by the parm list and the answer of R_admin, the caller's buffer, and
the return code with the parm list that is copied back. -/
inductive Outcome (before : Nat → Entry) :
    Option ExtractionParmList → Option (Answered Info) → (Nat → Entry) →
      Int × Option ExtractionParmList → Prop
  /-- Nothing is copied back of a parm list that is not valid. -/
  | refused {parm : Option ExtractionParmList} {rc : Int} (reason : Refused service parm rc) :
      Outcome before parm none before (rc, none)
  /-- R_admin is not asked; at most the internal return code is set. -/
  | unasked {parm : ExtractionParmList} {rc : Int} {output : ExtractionOutput}
      (valid : Accepts service parm) (reason : Unasked service allowed parm rc output) :
      Outcome before (some parm) none before (rc, some { parm with output := output })
  /-- All entries are copied, and they are counted. -/
  | listed {parm : ExtractionParmList} {answered : Answered Info} {extracted : BitVec 32}
      (valid : Accepts service parm) (asks : answered.AsksFor service allowed parm)
      (ok : answered.answer.rc = rcRadminOk)
      (counted : extracted.toNat = answered.answer.entries.length) :
      Outcome before (some parm) (some answered)
        (overwritten before (answered.answer.entries.map service.entry))
        (0, some { parm with output := service.listedOutput parm.output extracted })
  /-- No entry is copied where they are too many, but the caller is told how many there are. -/
  | tooSmall {parm : ExtractionParmList} {answered : Answered Info} {insufficientSpace : Int}
      (valid : Accepts service parm) (asks : answered.AsksFor service allowed parm)
      (code : service.codes.insufficientSpace = some insufficientSpace)
      (full : answered.answer.rc = radmin.insuffSpace) :
      Outcome before (some parm) (some answered) before (insufficientSpace, some { parm with
        output := { parm.output with
          entriesExtracted := 0#32
          entriesFound := BitVec.ofInt 32 answered.answer.status.reasonCode } })
  /-- No entry is copied, and the caller is told why. -/
  | failed {parm : ExtractionParmList} {answered : Answered Info}
      (valid : Accepts service parm) (asks : answered.AsksFor service allowed parm)
      (bad : answered.answer.rc ≠ rcRadminOk)
      (other : service.codes.insufficientSpace.isSome → answered.answer.rc ≠ radmin.insuffSpace) :
      Outcome before (some parm) (some answered) before
        (service.codes.internalServiceFailed, some { parm with
          output := parm.output.failed answered.answer })

/-- There is a parm list, and the service accepts it. -/
def IsValid (parm : Option ExtractionParmList) : Prop :=
  ∃ valid, parm = some valid ∧ Accepts service valid

/-- The storage is given back, R_admin is asked wherever the rest is there, and the caller finds
what it should. -/
structure Extracted (before : Nat → Entry) (parm : Option ExtractionParmList)
    (use : ExtractionUse Info Entry) (reply : Int × Option ExtractionParmList) : Prop where
  released : use.buffers = []
  asked : IsValid service parm → (∀ e, allowed e → Provides e) → use.answered.isSome
  outcome : Outcome radmin service allowed before parm use.answered use.result reply

/-- What reading the class leaves: a class that is noted, or how the service ends without one. -/
inductive ClassLeft (use : ExtractionUse Info Entry) (output : ExtractionOutput) :
    ExtractionUse Info Entry → Except (Int × ExtractionOutput) (Option Text) → Prop
  | read {className : Option Text} (read : ClassRead service allowed className) :
      ClassLeft use output { use with className := className } (.ok className)
  | ended {use' : ExtractionUse Info Entry} {rc : Int} {output' : ExtractionOutput}
      (same : use' = { use with className := use'.className })
      (unread : Unread service allowed output rc output') :
      ClassLeft use output use' (.error (rc, output'))

/-! ## The copies -/

variable {service allowed} {capacity : Nat}

theorem copyEntry_keeps (writes : List service.Write) {use : ExtractionUse Info Entry} {index : Nat}
    (room : index < capacity) (readable : use.readable index = true) :
    Keeps (extractionRules service capacity) allowed use (copyEntry index writes) fun use' _ =>
      use' = { use with
        result := Function.update use.result index
          (writes.foldl service.apply (use.result index)) } := by
  induction writes generalizing use with
  | nil => exact .ret (by simp)
  | cons write writes ih =>
    refine .ask_bind fun _ _ => ⟨use.copied service index write, if_pos ⟨room, readable⟩, ?_⟩
    refine (@ih (use.copied service index write) readable).mono fun use' _ h => ?_
    rw [h]
    simp [ExtractionUse.copied]

/-- The caller's buffer with entries from an index on. -/
def overwrittenFrom (before : Nat → Entry) (index : Nat) (entries : List Entry) (i : Nat) : Entry :=
  if index ≤ i then (entries[i - index]?).getD (before i) else before i

theorem overwrittenFrom_zero (before : Nat → Entry) (entries : List Entry) :
    overwrittenFrom before 0 entries = overwritten before entries := by
  funext i
  simp [overwrittenFrom, overwritten]

theorem overwrittenFrom_nil (before : Nat → Entry) (index : Nat) :
    overwrittenFrom before index [] = before := by
  funext i
  simp [overwrittenFrom]

theorem overwrittenFrom_cons (before : Nat → Entry) (index : Nat) (entry : Entry)
    (entries : List Entry) :
    overwrittenFrom (Function.update before index entry) (index + 1) entries =
      overwrittenFrom before index (entry :: entries) := by
  funext i
  rcases Nat.lt_trichotomy i index with hlt | rfl | hlt
  · have hne : i ≠ index := hlt.ne
    simp [overwrittenFrom, hne, Nat.not_le.mpr hlt, Nat.not_le.mpr (Nat.lt_succ_of_lt hlt)]
  · simp [overwrittenFrom]
  · have hne : i ≠ index := hlt.ne'
    have hsub : i - index = (i - (index + 1)) + 1 := by omega
    simp [overwrittenFrom, hne, hlt.le, Nat.succ_le_of_lt hlt, hsub]

theorem copyEntries_keeps (src : List Info) {use : ExtractionUse Info Entry} {index : Nat}
    (room : index + src.length ≤ capacity)
    (readable : ∀ i < index + src.length, use.readable i = true) :
    Keeps (extractionRules service capacity) allowed use (copyEntries service.writes index src)
      fun use' _ => use' = { use with
        result := overwrittenFrom use.result index (src.map service.entry) } := by
  induction src generalizing use index with
  | nil => exact .ret (by simp [overwrittenFrom_nil])
  | cons info src ih =>
    rw [List.length_cons] at room readable
    refine (copyEntry_keeps (service.writes info) (by omega) (readable index (by omega))).bind ?_
    rintro use' ⟨⟩ rfl
    rw [service.complete]
    have room' : index + 1 + src.length ≤ capacity := by omega
    have readable' : ∀ i < index + 1 + src.length, use.readable i = true :=
      fun i hi => readable i (by omega)
    let next : ExtractionUse Info Entry :=
      { use with result := Function.update use.result index (service.entry info) }
    refine (@ih next (index + 1) room' readable').mono fun use'' _ h => ?_
    rw [h]
    simp [next, overwrittenFrom_cons]

/-! ## The services -/

/-- What is copied back to the caller. -/
def ExtractionParmList.reply (parm : ExtractionParmList) (result : Int × ExtractionOutput) :
    Int × Option ExtractionParmList :=
  (result.1, some { parm with output := result.2 })

variable {parm : ExtractionParmList} {rc : Int}

theorem takeAnswer_keeps (valid : Accepts service parm) {use : ExtractionUse Info Entry}
    (answered : Answered Info) (asks : answered.AsksFor service allowed parm)
    (noted : use.answered = some answered) (held : use.hasRoom answered.request.buffer 0 = true) :
    Keeps (extractionRules service parm.capacity.toNat) allowed use
      (takeAnswer radmin service answered.answer parm.output) fun use' result =>
        use'.buffers = use.buffers ∧ use'.answered = use.answered ∧
          Outcome radmin service allowed use.result (some parm) use'.answered use'.result
            (parm.reply result) := by
  have entries_le : answered.answer.entries.length ≤ parm.capacity.toNat :=
    asks.capacity ▸ answered.answer.entries_le
  have counted : (BitVec.ofNat 32 answered.answer.entries.length).toNat =
      answered.answer.entries.length := by
    rw [BitVec.toNat_ofNat]
    exact Nat.mod_eq_of_lt (entries_le.trans_lt parm.capacity.isLt)
  have readable : ∀ i < 0 + answered.answer.entries.length, use.readable i = true := by
    intro i hi
    simp only [ExtractionUse.readable, noted, Option.any_some, decide_eq_true_eq]
    exact ⟨by omega, held⟩
  unfold takeAnswer
  by_cases ok : answered.answer.rc = rcRadminOk
  · rw [if_pos ok]
    dsimp only
    rw [counted, List.take_length]
    refine (copyEntries_keeps answered.answer.entries (by omega) readable).bind ?_
    rintro use' ⟨⟩ rfl
    cases code : service.codes.insufficientSpace with
    | some insufficientSpace =>
      have output (extracted : BitVec 32) : service.listedOutput parm.output extracted =
          { parm.output with entriesExtracted := extracted, entriesFound := extracted } := by
        simp [ExtractionService.listedOutput, code]
      refine .ret ⟨rfl, rfl, ?_⟩
      rw [noted, overwrittenFrom_zero, ← output]
      exact .listed valid asks ok counted
    | none =>
      have output (extracted : BitVec 32) : service.listedOutput parm.output extracted =
          { parm.output with entriesExtracted := extracted } := by
        simp [ExtractionService.listedOutput, code]
      refine .ret ⟨rfl, rfl, ?_⟩
      rw [noted, overwrittenFrom_zero, ← output]
      exact .listed valid asks ok counted
  · rw [if_neg ok]
    cases code : service.codes.insufficientSpace with
    | some insufficientSpace =>
      dsimp only
      by_cases full : answered.answer.rc = radmin.insuffSpace
      · rw [if_pos full]
        refine .ret ⟨rfl, rfl, ?_⟩
        rw [noted]
        exact .tooSmall valid asks code full
      · rw [if_neg full]
        refine .ret ⟨rfl, rfl, ?_⟩
        rw [noted]
        exact .failed valid asks ok fun _ => full
    | none =>
      refine .ret ⟨rfl, rfl, ?_⟩
      rw [noted]
      exact .failed valid asks ok fun some => by simp [code] at some

theorem ExtractionCodes.userClass_mem {codes : ExtractionCodes} {classCodes : ClassCodes}
    (h : codes.userClass = some classCodes) :
    classCodes.classTooLong ∈ codes.refusals ∧ classCodes.userClassNotRead ∈ codes.refusals := by
  simp [ExtractionCodes.refusals, h]

/-- The codes of the parm lists that are refused are refusals. -/
theorem Refused.mem {parm : Option ExtractionParmList} (h : Refused service parm rc) :
    rc ∈ service.codes.refusals := by
  cases h with
  | classTooLong _ looks => exact (ExtractionCodes.userClass_mem looks).1
  | _ => simp [ExtractionCodes.refusals]

theorem Unasked.mem {output : ExtractionOutput} (h : Unasked service allowed parm rc output) :
    rc ∈ service.codes.refusals := by
  cases h with
  | unread unread =>
    cases unread with
    | userClassNotRead looks => exact (ExtractionCodes.userClass_mem looks).2
    | classTooLong looks => exact (ExtractionCodes.userClass_mem looks).1
  | _ => simp [ExtractionCodes.refusals]

/-- Where R_admin is not asked, something that it needs was not provided. -/
theorem Unasked.not_provides {output : ExtractionOutput}
    (h : Unasked service allowed parm rc output) : ¬ ∀ e, allowed e → Provides e := by
  intro provides
  cases h with
  | impersonationMissing given | allocFailed given =>
    exact absurd (provides _ given) (by simp [Provides])
  | unread unread =>
    cases unread with
    | userClassNotRead _ given => exact absurd (provides _ given) (by simp [Provides, isClass])
    | classTooLong _ given long =>
      have provided := provides _ given
      simp only [Provides, isClass, decide_eq_true_eq] at provided
      omega

/-- A parm list that is accepted is not refused. -/
theorem Accepts.not_refused (h : Accepts service parm) : ¬ Refused service (some parm) rc := by
  intro reason
  cases reason with
  | badEyecatcher other => exact other h.eyecatcher
  | classTooLong _ looks given long =>
    exact absurd (h.className (by simp [looks]) _ given) (not_le.mpr long)
  | nameTooLong _ _ long => exact absurd h.name (not_le.mpr long)
  | resultBuffNull _ _ _ null => simpa [null] using h.resultBuffer

/-- A validator accepts a parm list or tells why not. -/
theorem validateParmList_cases (service : ExtractionService Info Entry) (parm : ExtractionParmList) :
    validateParmList service parm = 0 ∧ Accepts service parm ∨
      Refused service (some parm) (validateParmList service parm) := by
  unfold validateParmList
  split
  next other => exact .inr (.badEyecatcher other)
  next same =>
  have eyecatcher : parm.eyecatcher = service.eyecatcher.take 8 := not_not.mp same
  split
  next rc refused =>
    simp only [refusedClass, Option.bind_eq_bind, Option.bind_eq_some_iff] at refused
    obtain ⟨codes, looks, className, given, code⟩ := refused
    split at code
    next long =>
      cases code
      exact .inr (.classTooLong eyecatcher looks given long)
    next => cases code
  next accepted =>
  have fits : ClassFits service parm := by
    intro looks className given
    obtain ⟨codes, looks⟩ := Option.isSome_iff_exists.mp looks
    simp only [refusedClass, looks, given, Option.bind_eq_bind, Option.bind_some] at accepted
    split at accepted
    · cases accepted
    · exact not_lt.mp ‹_›
  split
  next long => exact .inr (.nameTooLong eyecatcher fits long)
  next short =>
  split
  next null => exact .inr (.resultBuffNull eyecatcher fits (not_lt.mp short) (by simpa using null))
  next there => exact .inl ⟨rfl, eyecatcher, fits, not_lt.mp short,
      by simpa [Option.isSome_iff_ne_none] using there⟩

theorem readUserClass_keeps {use : ExtractionUse Info Entry} (output : ExtractionOutput)
    (unread : use.className = none) :
    Keeps (extractionRules service capacity) allowed use (readUserClass service output)
      (ClassLeft service allowed use output) := by
  unfold readUserClass
  cases code : service.codes.userClass with
  | none =>
    have read : ClassRead service allowed none := by simp [ClassRead, code]
    have left : ClassLeft service allowed use output { use with className := none } (.ok none) :=
      .read read
    exact .ret (unread ▸ left)
  | some codes =>
    refine .ask_bind fun parm given => ⟨_, rfl, ?_⟩
    cases parm with
    | error getParmRC => exact .ret (.ended rfl (.userClassNotRead code given))
    | ok userClassParm =>
      dsimp only
      split
      next long => exact .ret (.ended rfl (.classTooLong code given long))
      next short =>
        have read : ClassRead service allowed (some (printedString userClassParm.value)) := by
          rw [ClassRead, if_pos (by simp [code])]
          exact ⟨userClassParm, given, not_lt.mp short, rfl⟩
        exact .ret (.read read)

theorem extract_keeps (valid : Accepts service parm) (before : Nat → Entry) :
    Keeps (extractionRules service parm.capacity.toNat) allowed (.start before)
      (extract radmin service parm) fun use result =>
        Extracted radmin service allowed before (some parm) use (parm.reply result) := by
  have unasked {rc : Int} {output : ExtractionOutput} (className : Option Text)
      (caller : Option CountedText) (reason : Unasked service allowed parm rc output) :
      Extracted radmin service allowed before (some parm) ⟨caller, className, [], none, before⟩
        (parm.reply (rc, output)) :=
    ⟨rfl, fun _ provides => absurd provides reason.not_provides, .unasked valid reason⟩
  refine .ask_bind fun caller given => ⟨_, rfl, ?_⟩
  cases caller with
  | none => exact .ret (unasked _ _ (.impersonationMissing given))
  | some caller =>
    refine (readUserClass_keeps parm.output rfl).bind ?_
    intro use ended left
    cases left with
    | ended same unread =>
      rw [same]
      exact .ret (unasked _ _ (.unread unread))
    | @read className className_read =>
      refine .ask_bind fun buffer given => ⟨_, rfl, ?_⟩
      cases buffer with
      | none => exact .ret (unasked _ _ (.allocFailed given))
      | some tmpResultBuffer =>
        let size := service.infoSize * parm.capacity.toNat
        let request : RadminRequest := ⟨caller, className, startName service parm.name,
          parm.capacity.toNat, tmpResultBuffer⟩
        let held : ExtractionUse Info Entry :=
          ⟨some caller, className, [(tmpResultBuffer, size)], none, before⟩
        have asked (answer : RadminAnswer Info request.capacity) :
            (extractionRules service parm.capacity.toNat).step held
              ⟨.radminExtract request, answer⟩ =
            some { held with answered := some ⟨request, answer⟩ } :=
          if_pos ⟨rfl, rfl, rfl, by simp [ExtractionUse.hasRoom, held, request, size]⟩
        refine .ask_bind fun answer given => ⟨_, asked answer, ?_⟩
        have room : ExtractionUse.hasRoom { held with answered := some ⟨request, answer⟩ }
            tmpResultBuffer 0 = true := by
          simp [ExtractionUse.hasRoom, held]
        have asks : Answered.AsksFor service allowed ⟨request, answer⟩ parm :=
          ⟨given, className_read, rfl, rfl⟩
        refine (takeAnswer_keeps radmin valid ⟨request, answer⟩ asks rfl room).bind ?_
        rintro use' result ⟨buffers, noted, outcome⟩
        have kept : use'.buffers = [(tmpResultBuffer, size)] := buffers
        have mem : (tmpResultBuffer, size) ∈ use'.buffers := by simp [kept]
        have released : use'.buffers.erase (tmpResultBuffer, size) = [] := by
          rw [kept]
          exact List.erase_cons_head ..
        have isSome : use'.answered.isSome := by simp [noted]
        exact .ask_bind fun _ _ => ⟨_, if_pos mem, .ret ⟨released, fun _ _ => isSome, outcome⟩⟩

/-- The entries there is room for. -/
def roomOf (parm : Option ExtractionParmList) : Nat := parm.elim 0 fun parm => parm.capacity.toNat

theorem extractionService_keeps (parm : Option ExtractionParmList) (before : Nat → Entry) :
    Keeps (extractionRules service (roomOf parm)) allowed (.start before)
      (extractionService radmin service parm) (Extracted radmin service allowed before parm) := by
  cases parm with
  | none => exact .ret ⟨rfl, fun ⟨_, h, _⟩ => (nomatch h), .refused .parmlistNull⟩
  | some parm =>
    unfold extractionService
    dsimp only
    rcases validateParmList_cases service parm with ⟨accepted, valid⟩ | reason
    · rw [if_neg (not_not.mpr accepted)]
      exact (extract_keeps radmin valid before).bind fun use result h => .ret h
    · have bad := (service.failing _ (List.mem_cons_of_mem _ reason.mem)).1
      rw [if_pos bad]
      refine .ret ⟨rfl, ?_, .refused reason⟩
      rintro ⟨valid, ⟨⟩, accepted⟩
      exact absurd reason accepted.not_refused

end

/-- What a service does: for every parm list, every buffer of the caller and whatever is answered. -/
def Serves {Info Entry : Type} (radmin : RadminExtraction) (service : ExtractionService Info Entry)
    (run : Option ExtractionParmList →
      Program (extractionCalls Info service.Write) (Int × Option ExtractionParmList)) : Prop :=
  ∀ parm before allowed, Keeps (extractionRules service (roomOf parm)) allowed (.start before)
    (run parm) (Extracted radmin service allowed before parm)

/-- **The extraction services serve their callers.** In every run, whatever the answers, each of the
five keeps the rules of its calls, gives its storage back, and leaves its caller with all the entries
that R_admin found, or with none and the reason. -/
theorem extractions_served (radmin : RadminExtraction) :
    Serves radmin (userProfilesService radmin) (zisUserProfilesServiceFunctionRACF radmin) ∧
      Serves radmin (genresProfilesService radmin) (zisGenresProfilesServiceFunctionRACF radmin) ∧
      Serves radmin (genresAccessListService radmin)
        (zisGenresAccessListServiceFunctionRACF radmin) ∧
      Serves radmin (groupProfilesService radmin) (zisGroupProfilesServiceFunctionRACF radmin) ∧
      Serves radmin (groupAccessListService radmin)
        (zisGroupAccessListServiceFunctionRACF radmin) :=
  ⟨fun parm before _ => extractionService_keeps radmin parm before,
    fun parm before _ => extractionService_keeps radmin parm before,
    fun parm before _ => extractionService_keeps radmin parm before,
    fun parm before _ => extractionService_keeps radmin parm before,
    fun parm before _ => extractionService_keeps radmin parm before⟩

end Zss.Racf
