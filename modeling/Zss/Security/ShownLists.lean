import Mathlib.Algebra.Order.Ring.Nat
import Zss.Racf.Extracted
import Zss.Security.AccessLists

/-!
# The access lists that are shown

The handlers of access lists over the service that answers them, from the request to R_admin and
back: a handler asks its client for a list, the client makes a parm list of the request, the service
runs on it, and what this one leaves in the parm list and in the buffer is what the client reads.

R_admin has one list for a class and a name, `RacfDatabase`. `access_lists_shown` says that the list
shown is this list, whole, that it is shown only for a request that is admitted, and that such a list
is shown wherever nothing fails and it has no more entries than the handler would ever make room for;
however many these are, two calls are enough.

## What is not established

The list is R_admin's when it is asked: that it does not change between the two calls is part of
`RacfDatabase`. Which error a client gets is not said here, and neither is anything of a run that is
cut short by an abend.
-/

namespace Zss.Security

open Zss.Lib Program
open Zss.Racf (ExtractionService ExtractionParmList ExtractionUse RadminAnswer RadminExtraction
  RadminAccessListEntry Answered Extracted ClassRead Provides extractionCalls extractionRules
  extractionService extractionService_keeps genresAccessListService groupAccessListService
  overwritten roomOf startName Accepts IsValid)
open Zss.Tss (CountedText printedString rcRadminOk zeroBuffer)
open Zss.Zis (rcZisSrvcOk rcZisSrvcServiceFailed rcZisSrvcCmsFailed)

/-! ## The request of the client -/

def AccessKind.maxNameLength : AccessKind → Nat
  | .profile => zisSecurityProfileMaxLength
  | .group => zisSecurityGroupMaxLength

/-- A text in a field of a parm list. -/
def counted (size : Nat) (text : Text) : CountedText :=
  ⟨text.length, text ++ zeroBuffer (size - text.length)⟩

section

variable {α : Type} {kind : AccessKind}

def AccessRequest.className : {kind : AccessKind} → AccessRequest kind → Option Text
  | _, .profile className _ => some (className.getD [])
  | _, .group _ => none

/-- The name whose list is asked for. -/
def AccessRequest.name : {kind : AccessKind} → AccessRequest kind → Text
  | _, .profile _ profileName => profileName.getD []
  | _, .group groupName => groupName.getD []

/-- The parm list that `zisExtractGenresAccessList` or `zisExtractGroupAccessList` passes. -/
def AccessRequest.parmList (service : ExtractionService RadminAccessListEntry α)
    (request : AccessRequest kind) (resultBuffer capacity : Nat) : ExtractionParmList where
  eyecatcher := service.eyecatcher.take 8
  className := request.className.map (counted zisSecurityClassMaxLength)
  name := counted kind.maxNameLength request.name
  capacity := BitVec.ofNat 32 capacity
  resultBuffer := some resultBuffer
  output := ⟨0#32, 0#32, 0, 0, ⟨0, 0, 0⟩⟩

/-! ## The answers -/

/-- What R_admin knows: the class parameter, and the access list for a name, in a class or of
groups. -/
structure RacfDatabase where
  userClass : CountedText
  accessList : Option Text → Text → List RadminAccessListEntry
  userClass_le : userClass.length ≤ zisSecurityClassMaxLength

variable (radmin : RadminExtraction) (db : RacfDatabase)
  (service : ExtractionService RadminAccessListEntry α) (steady : Prop)

/-- The answers to a service. R_admin stores a list whole or says how long it is. Where all is steady
nothing fails. -/
def RacfDatabase.Answers :
    Event (extractionCalls RadminAccessListEntry service.Write) → Prop
  | ⟨.secmgmtGetCallerUserID, (caller : Option CountedText)⟩ => steady → caller.isSome
  | ⟨.cmsGetConfigParm _, (parm : Except Int CountedText)⟩ =>
    (∀ userClass, parm = .ok userClass → userClass = db.userClass) ∧
      (steady → parm = .ok db.userClass)
  | ⟨.safeMalloc64v3 _, (buffer : Option Nat)⟩ => steady → buffer.isSome
  | ⟨.radminExtract request, (answer : RadminAnswer RadminAccessListEntry request.capacity)⟩ =>
    let accessList := db.accessList request.className (request.name.getD [])
    (answer.rc = rcRadminOk → answer.entries = accessList) ∧
      (answer.rc = radmin.insuffSpace → request.capacity < accessList.length ∧
        answer.status.reasonCode = accessList.length) ∧
      (steady → answer.rc = rcRadminOk ∨ answer.rc = radmin.insuffSpace)
  | _ => True

/-- What the client reads after a run of the service: the return code, the output fields of the parm
list, and the buffer. -/
structure Reports {capacity : Nat} (answer : ServiceAnswer α capacity)
    (use : ExtractionUse RadminAccessListEntry α) (reply : Int × Option ExtractionParmList) :
    Prop where
  serviceRC : answer.serviceRC = reply.1
  output : ∀ parm, reply.2 = some parm →
    answer.entriesExtracted = parm.output.entriesExtracted.toNat ∧
      answer.entriesFound = parm.output.entriesFound.toNat ∧
      answer.internalServiceRC = parm.output.internalServiceRC ∧
      answer.internalServiceRSN = parm.output.internalServiceRSN ∧
      answer.safStatus =
        (parm.output.safStatus.safRC, parm.output.safStatus.racfRC, parm.output.safStatus.racfRSN)
  entries : reply.1 = 0 →
    answer.entries = (List.range answer.entriesExtracted).map use.result

/-- The answer comes from a run of the service, where this one could be called. -/
structure AnsweredBy (request : AccessRequest kind) (resultBuffer : Nat) {capacity : Nat}
    (answer : ServiceAnswer α capacity) : Prop where
  called : steady → answer.cmsCallRC = rcCmsOk
  ran : answer.cmsCallRC = rcCmsOk → ∃ before events reply use,
    (extractionService radmin service (some (request.parmList service resultBuffer capacity))).Runs
        events reply ∧
      (∀ e ∈ events, db.Answers radmin service steady e) ∧
      (extractionRules service capacity).run (.start before) events = some use ∧
      Reports answer use reply

/-- The answers to a handler. -/
def FromRacf : Event (accessCalls α) → Prop
  | ⟨.safeMalloc _, (buffer : Option Nat)⟩ => steady → buffer.isSome
  | ⟨.zisExtractAccessList _ request resultBuffer _, (answer : ServiceAnswer α _)⟩ =>
    ∀ buffer, resultBuffer = some buffer → request.refusal resultBuffer = none →
      AnsweredBy radmin db service steady request buffer answer
  | _ => True

/-- The list that R_admin has for a request, as the caller sees it. -/
def RacfDatabase.listFor (request : AccessRequest kind) : List α :=
  (db.accessList
    (if service.codes.userClass.isSome then some (printedString db.userClass.value) else none)
    (printedString request.name)).map service.entry

/-- A service for a kind of access lists. -/
structure ServiceFor (kind : AccessKind) (service : ExtractionService RadminAccessListEntry α) :
    Prop where
  insufficient : service.codes.insufficientSpace = some kind.insufficientSpace
  maxNameLength : service.maxNameLength = kind.maxNameLength
  named : service.emptyIsNull = false

/-! ## The service for a request -/

variable {radmin db service steady} {request : AccessRequest kind}

theorem printed_counted (size : Nat) (text : Text) :
    (counted size text).printed = printedString text := by
  simp [counted, CountedText.printed, CountedText.text, printedString]

theorem startName_parmList (serves : ServiceFor kind service) (buffer capacity : Nat) :
    startName service (request.parmList service buffer capacity).name =
      some (printedString request.name) := by
  simp [startName, serves.named, AccessRequest.parmList, printed_counted]

theorem length_of_not_tooLong {name : Option Text} {size : Nat} (h : ¬ tooLong name size = true) :
    (name.getD []).length ≤ size := by
  cases name with
  | none => exact Nat.zero_le _
  | some name => simpa [tooLong] using h

variable {buffer maxSize : Nat}

/-- The names that the client accepts have room in a parm list. -/
theorem names_fit (accepted : request.refusal (some buffer) = none) :
    (∀ className, request.className = some className →
      className.length ≤ zisSecurityClassMaxLength) ∧
      request.name.length ≤ kind.maxNameLength := by
  cases request with
  | group groupName =>
    have refusal : (AccessRequest.group groupName).refusal (some buffer) =
        if groupName.isNone then some rcZisSrvcGrpalsrvGroupNull
        else if tooLong groupName zisSecurityGroupMaxLength then
          some rcZisSrvcGrpalsrvGroupTooLong
        else none := rfl
    rw [refusal] at accepted
    have short : ¬ tooLong groupName zisSecurityGroupMaxLength = true := by
      intro long
      rw [if_pos long] at accepted
      split at accepted <;> cases accepted
    exact ⟨(fun _ h => nomatch h), length_of_not_tooLong short⟩
  | profile className profileName =>
    have refusal : (AccessRequest.profile className profileName).refusal (some buffer) =
        if tooLong className zisSecurityClassMaxLength then some rcZisSrvcAcslsrvClassTooLong
        else if profileName.isNone then some rcZisSrvcAcslsrvProfileNull
        else if tooLong profileName zisSecurityProfileMaxLength then
          some rcZisSrvcAcslsrvProfileTooLong
        else none := rfl
    rw [refusal] at accepted
    split at accepted
    · cases accepted
    next shortClass =>
    have short : ¬ tooLong profileName zisSecurityProfileMaxLength = true := by
      intro long
      rw [if_pos long] at accepted
      split at accepted <;> cases accepted
    refine ⟨?_, length_of_not_tooLong short⟩
    rintro _ ⟨⟩
    exact length_of_not_tooLong shortClass

/-- What the client accepts the service accepts. -/
theorem parmList_valid (serves : ServiceFor kind service)
    (accepted : request.refusal (some buffer) = none) (capacity : Nat) :
    IsValid service (some (request.parmList service buffer capacity)) := by
  obtain ⟨shortClass, shortName⟩ := names_fit accepted
  have accepts : Accepts service (request.parmList service buffer capacity) := by
    refine ⟨rfl, fun _ className given => ?_, ?_, rfl⟩
    · obtain ⟨text, hclass, rfl⟩ := Option.map_eq_some_iff.mp given
      exact shortClass text hclass
    · rw [serves.maxNameLength]
      exact shortName
  exact ⟨_, rfl, accepts⟩

theorem answers_provides (steadily : steady)
    (e : Event (extractionCalls RadminAccessListEntry service.Write))
    (answers : db.Answers radmin service steady e) : Provides e := by
  obtain ⟨call, answer⟩ := e
  cases call with
  | secmgmtGetCallerUserID => exact answers steadily
  | cmsGetConfigParm name =>
    have read : answer = .ok db.userClass := answers.2 steadily
    rw [read]
    exact decide_eq_true db.userClass_le
  | safeMalloc64v3 size => exact answers steadily
  | _ => trivial

/-- R_admin is asked for the list of the request. -/
theorem asked_list (serves : ServiceFor kind service) {buffer capacity : Nat}
    {answered : Answered RadminAccessListEntry}
    (asks : answered.AsksFor service (db.Answers radmin service steady)
      (request.parmList service buffer capacity)) :
    (db.accessList answered.request.className (answered.request.name.getD [])).map service.entry =
      db.listFor service request := by
  have className := asks.className
  rw [asks.name, startName_parmList serves, RacfDatabase.listFor]
  unfold ClassRead at className
  split at className
  next some =>
    obtain ⟨userClassParm, given, -, h⟩ := className
    rw [h, given.1 userClassParm rfl, if_pos some, Option.getD_some]
  next none => rw [className, if_neg none, Option.getD_some]

theorem range_overwritten (before : Nat → α) (entries : List α) :
    (List.range entries.length).map (overwritten before entries) = entries := by
  apply List.ext_getElem
  · simp
  · intro i hi hi'
    simp [overwritten, hi']

/-- What a run of the service comes to for its caller. -/
inductive ListAnswer (kind : AccessKind) (steady : Prop) (full : List α) (capacity : Nat)
    (result : Nat → α) : Int × Option ExtractionParmList → Prop
  | listed {parm : ExtractionParmList}
      (counted : parm.output.entriesExtracted.toNat = full.length)
      (copied : (List.range full.length).map result = full) :
      ListAnswer kind steady full capacity result (0, some parm)
  | tooSmall {parm : ExtractionParmList}
      (counted : parm.output.entriesFound.toNat = full.length % 4294967296)
      (more : capacity < full.length) :
      ListAnswer kind steady full capacity result (kind.insufficientSpace, some parm)
  | failed {reply : Int × Option ExtractionParmList} (bad : reply.1 ≠ 0)
      (other : reply.1 ≠ kind.insufficientSpace) (unsteady : ¬ steady) :
      ListAnswer kind steady full capacity result reply

theorem service_answers (serves : ServiceFor kind service) {buffer capacity : Nat}
    (fits : capacity < 4294967296) (accepted : request.refusal (some buffer) = none)
    {before : Nat → α} {use : ExtractionUse RadminAccessListEntry α}
    {reply : Int × Option ExtractionParmList}
    (extracted : Extracted radmin service (db.Answers radmin service steady) before
      (some (request.parmList service buffer capacity)) use reply) :
    ListAnswer kind steady (db.listFor service request) capacity use.result reply := by
  have unsteady (unasked : use.answered = none) : ¬ steady := by
    intro steadily
    have asked := extracted.asked (parmList_valid serves accepted capacity)
      (answers_provides steadily)
    simp [unasked] at asked
  have outcome := extracted.outcome
  have code_ne {rc : Int} (bad : service.codes.insufficientSpace ≠ some rc) :
      rc ≠ kind.insufficientSpace := by
    rintro rfl
    exact bad serves.insufficient
  have room : (request.parmList service buffer capacity).capacity.toNat = capacity := by
    simpa [AccessRequest.parmList] using fits
  obtain ⟨caller, className, buffers, answered, result⟩ := use
  cases outcome with
  | refused reason =>
    obtain ⟨bad, other⟩ := service.failing _ (List.mem_cons_of_mem _ reason.mem)
    exact .failed bad (code_ne other) (unsteady rfl)
  | unasked valid reason =>
    obtain ⟨bad, other⟩ := service.failing _ (List.mem_cons_of_mem _ reason.mem)
    exact .failed bad (code_ne other) (unsteady rfl)
  | listed valid asks ok counted =>
    have list := asked_list serves asks
    rw [← asks.given.1 ok] at list
    refine .listed ?_ ?_
    · rw [← list, List.length_map]
      exact counted
    · rw [← list]
      exact range_overwritten _ _
  | tooSmall valid asks code full =>
    obtain rfl := Option.some.inj (code.symm.trans serves.insufficient)
    obtain ⟨more, reason⟩ := asks.given.2.1 full
    have list := asked_list serves asks
    have length := congrArg List.length list
    rw [List.length_map] at length
    rw [length] at more reason
    refine .tooSmall ?_ ?_
    · simp [reason]
    · rw [asks.capacity, room] at more
      exact more
  | failed valid asks bad other =>
    obtain ⟨bad', other'⟩ := service.failing _ (List.mem_cons_self ..)
    refine .failed bad' (code_ne other') fun steadily => ?_
    rcases asks.given.2.2 steadily with ok | full
    · exact bad ok
    · exact other (by simp [serves.insufficient]) full

/-! ## The client -/

/-- The client refuses no name of the request. -/
def AccessRequest.Accepted (request : AccessRequest kind) : Prop :=
  ∀ buffer, request.refusal (some buffer) = none

/-- Which buffer there is makes no difference. -/
theorem AccessRequest.accepted_of {request : AccessRequest kind}
    (h : request.refusal (some buffer) = none) : request.Accepted := by
  intro buffer'
  cases request with
  | profile className profileName => exact h
  | group groupName => exact h

/-- What an extraction comes to. -/
inductive Extracts (request : AccessRequest kind) (steady : Prop) (full : List α) {capacity : Nat}
    (answer : ServiceAnswer α capacity) (vars : AccessVars) : Int × AccessVars → Prop
  | listed (accepted : request.Accepted) (entries : answer.entries = full) :
      Extracts request steady full answer vars
        (rcZisSrvcOk, { vars with entriesExtracted := full.length })
  | tooSmall (more : capacity < full.length) :
      Extracts request steady full answer vars
        (kind.insufficientBuffer, { vars with entriesExtracted := full.length % 4294967296 })
  | failed {zisRC : Int} {vars' : AccessVars} (bad : zisRC ≠ rcZisSrvcOk)
      (other : zisRC ≠ kind.insufficientBuffer) (why : ¬ (steady ∧ request.Accepted)) :
      Extracts request steady full answer vars (zisRC, vars')

theorem extractAccessList_extracts (serves : ServiceFor kind service) {buffer capacity : Nat}
    (fits : capacity < 4294967296) (answer : ServiceAnswer α capacity) (vars : AccessVars)
    (given : FromRacf radmin db service steady
      ⟨.zisExtractAccessList kind request (some buffer) capacity, answer⟩) :
    Extracts request steady (db.listFor service request) answer vars
      (extractAccessList request (some buffer) answer vars) := by
  have failed_ne {rc : Int} (h : rc = rcZisSrvcCmsFailed ∨ rc = rcZisSrvcServiceFailed) :
      rc ≠ rcZisSrvcOk ∧ rc ≠ kind.insufficientBuffer := by
    rcases h with rfl | rfl <;> cases kind <;> decide
  have insufficient_ne : (0 : Int) ≠ kind.insufficientSpace := by cases kind <;> decide
  unfold extractAccessList
  split
  next rc refused =>
    obtain ⟨bad, other⟩ := AccessRequest.refusal_some refused
    exact .failed bad other fun ⟨_, accepted⟩ => by simp [accepted buffer] at refused
  next accepted =>
  have answered := given buffer rfl accepted
  split
  next uncalled =>
    obtain ⟨bad, other⟩ := failed_ne (.inl rfl)
    exact .failed bad other fun ⟨steadily, _⟩ => uncalled (answered.called steadily)
  next called =>
  obtain ⟨before, events, reply, use, runs, allowed, hrun, reports⟩ :=
    answered.ran (not_not.mp called)
  have room : roomOf (some (request.parmList service buffer capacity)) = capacity := by
    simpa [roomOf, AccessRequest.parmList] using fits
  obtain ⟨use', hrun', extracted⟩ := (extractionService_keeps radmin
    (some (request.parmList service buffer capacity)) before).of_runs runs allowed
  rw [room, hrun] at hrun'
  cases hrun'
  have listAnswer := service_answers serves fits accepted extracted
  cases listAnswer with
  | @listed parm counted copied =>
    have serviceRC : answer.serviceRC = rcAccessListOk := reports.serviceRC
    have notFull : answer.serviceRC ≠ kind.insufficientSpace := serviceRC ▸ insufficient_ne
    have extractedCount : answer.entriesExtracted = (db.listFor service request).length :=
      (reports.output parm rfl).1.trans counted
    have entries : answer.entries = db.listFor service request := by
      rw [reports.entries rfl, extractedCount, copied]
    rw [if_neg notFull, if_neg (not_not.mpr serviceRC), extractedCount]
    exact .listed (AccessRequest.accepted_of accepted) entries
  | @tooSmall parm counted more =>
    have found : answer.entriesFound = (db.listFor service request).length % 4294967296 :=
      (reports.output parm rfl).2.1.trans counted
    rw [if_pos reports.serviceRC, found]
    exact .tooSmall more
  | failed bad other unsteady =>
    obtain ⟨bad', other'⟩ := failed_ne (.inr rfl)
    rw [← reports.serviceRC] at bad other
    have bad : answer.serviceRC ≠ rcAccessListOk := bad
    rw [if_neg other, if_pos bad]
    exact .failed bad' other' fun h => unsteady h.1

/-! ## The handlers -/

/-- A list that is to be shown. -/
def Showable (request : AccessRequest kind) (steady : Prop) (full : List α) (maxSize : Nat) : Prop :=
  steady ∧ request.Accepted ∧ full.length ≤ maxSize

/-- What the loop of a handler leaves: an error that is sent; the list, in a buffer; or an error. -/
inductive ListLeft (request : AccessRequest kind) (steady : Prop) (full : List α) (maxSize : Nat)
    (use : AccessUse α) : Option (Option Nat × Int × AccessVars) → Prop
  | responded {response : Response α} (buffers : use.buffers = [])
      (responses : use.responses = [response]) (error : response.isError = true)
      (why : ¬ Showable request steady full maxSize) :
      ListLeft request steady full maxSize use none
  | listed {buffer size : Nat} {vars : AccessVars} (buffers : use.buffers = [(buffer, size)])
      (responses : use.responses = [])
      (readable : use.readable kind (some buffer) vars.entriesExtracted = some full)
      (accepted : request.Accepted) (fits : full.length ≤ maxSize) :
      ListLeft request steady full maxSize use (some (some buffer, rcZisSrvcOk, vars))
  | failed {resultBuffer : Option Nat} {size : Nat} {zisRC : Int} {vars : AccessVars}
      (buffers : use.buffers = resultBuffer.toList.map (·, size)) (responses : use.responses = [])
      (bad : zisRC ≠ rcZisSrvcOk) (why : ¬ Showable request steady full maxSize) :
      ListLeft request steady full maxSize use (some (resultBuffer, zisRC, vars))

/-- A turn of the loop. The next one has a buffer for as many entries as there are, as far as their
number goes into a word. -/
theorem fetchLoop_turn (serves : ServiceFor kind service) {maxSize turns capacity : Nat}
    (word : maxSize < 4294967296) (fits : capacity ≤ maxSize) {zisRC : Int} {vars : AccessVars}
    {use : AccessUse α} (buffers : use.buffers = []) (responses : use.responses = [])
    (next : ∀ use' vars', use'.buffers = [] → use'.responses = [] →
      capacity < (db.listFor service request).length →
      (db.listFor service request).length % 4294967296 ≤ maxSize →
      Keeps (accessRules α) (FromRacf radmin db service steady) use'
        (fetchLoop request maxSize turns ((db.listFor service request).length % 4294967296)
          kind.insufficientBuffer vars')
        (ListLeft request steady (db.listFor service request) maxSize)) :
    Keeps (accessRules α) (FromRacf radmin db service steady) use
      (fetchLoop request maxSize (turns + 1) capacity zisRC vars)
      (ListLeft request steady (db.listFor service request) maxSize) := by
  unfold fetchLoop
  refine .ask_bind fun buffer given => ⟨_, rfl, ?_⟩
  cases buffer with
  | none =>
    refine .ask_bind fun _ _ => ⟨_, rfl, .ret (.responded ?_ (congrArg (· ++ [_]) responses) rfl ?_)⟩
    · simp [buffers]
    · exact fun showable => by simpa using given showable.1
  | some buffer =>
    let held : AccessUse α := { use with buffers := [(buffer, kind.entrySize * capacity)] }
    have same : { use with
        buffers := (some buffer).toList.map (·, kind.entrySize * capacity) ++ use.buffers } =
        held := by
      simp [held, buffers]
    rw [same]
    have room : held.hasRoom buffer (kind.entrySize * capacity) = true := by
      simp [held, AccessUse.hasRoom]
    refine .ask_bind fun answer given =>
      ⟨held.after request (some buffer) answer, if_pos (by simpa using room), ?_⟩
    have extracts := extractAccessList_extracts serves (fits.trans_lt word) answer vars given
    have readable_after := after_readable held request answer vars buffer
    generalize hresult : extractAccessList request (some buffer) answer vars = result
      at extracts readable_after
    cases extracts with
    | listed accepted entries =>
      dsimp only
      rw [if_neg kind.insufficientBuffer_ne.symm]
      have readable := readable_after rfl room
      rw [entries] at readable
      have le := answer.entries_le
      rw [entries] at le
      exact .ret (.listed rfl responses readable accepted (le.trans fits))
    | failed bad other why =>
      dsimp only
      rw [if_neg other]
      have buffers' : (held.after request (some buffer) answer).buffers =
          (some buffer).toList.map (·, kind.entrySize * capacity) := rfl
      exact .ret (.failed buffers' responses bad fun showable => why ⟨showable.1, showable.2.1⟩)
    | tooSmall more =>
      dsimp only
      rw [if_pos rfl]
      let freed : AccessUse α := { held.after request (some buffer) answer with buffers := [] }
      have released : (accessRules α).step (held.after request (some buffer) answer)
          ⟨.safeFree (some buffer), ()⟩ = some freed := by
        simp [accessRules, AccessUse.hasRoom, AccessUse.after, held, freed]
      refine .ask_bind fun _ _ => ⟨freed, released, ?_⟩
      by_cases range : outOfRange maxSize ((db.listFor service request).length % 4294967296) = true
      · rw [if_pos range]
        refine .ask_bind fun _ _ =>
          ⟨_, rfl, .ret (.responded rfl (congrArg (· ++ [_]) responses) rfl fun showable => ?_)⟩
        have short := Nat.mod_eq_of_lt (showable.2.2.trans_lt word)
        have le := showable.2.2
        simp only [outOfRange, short, decide_eq_true_eq] at range
        omega
      · rw [if_neg range]
        simp only [outOfRange, decide_eq_true_eq, not_or, not_lt] at range
        exact next freed _ rfl responses more range.2

theorem fetchLoop_lists (serves : ServiceFor kind service) {maxSize defaultSize : Nat}
    (word : maxSize < 4294967296) (fits : defaultSize ≤ maxSize) :
    Keeps (accessRules α) (FromRacf radmin db service steady) .unused
      (fetchLoop request maxSize 2 defaultSize rcZisSrvcOk .zero)
      (ListLeft request steady (db.listFor service request) maxSize) := by
  refine fetchLoop_turn serves word fits rfl rfl fun use vars buffers responses _ range => ?_
  refine fetchLoop_turn serves word range buffers responses
    fun use' vars' buffers' responses' more _ => ?_
  -- a buffer for all of a list that is to be shown was not too small
  have why : ¬ Showable request steady (db.listFor service request) maxSize := fun showable => by
    rw [Nat.mod_eq_of_lt (showable.2.2.trans_lt word)] at more
    exact lt_irrefl _ more
  have none_held : use'.buffers = (none : Option Nat).toList.map (·, 0) := buffers'
  exact .ret (.failed none_held responses' kind.insufficientBuffer_ne why)

/-- One response: the whole list, of a request that is admitted and no longer than the handler makes
room for, or an error; and the list wherever all is steady and it may be shown. Every buffer is
freed. -/
def Shows (steady admitted : Prop) (full : List α) (maxSize : Nat) (use : AccessUse α) : Prop :=
  use.buffers = [] ∧ ∃ response, use.responses = [response] ∧
    (response = .list full ∧ admitted ∧ full.length ≤ maxSize ∨
      response.isError = true ∧ ¬ (steady ∧ admitted ∧ full.length ≤ maxSize))

theorem Shows.congr {admitted admitted' : Prop} {full : List α} {use : AccessUse α}
    (h : Shows steady admitted full maxSize use) (same : admitted ↔ admitted') :
    Shows steady admitted' full maxSize use :=
  propext same ▸ h

theorem fetchAndRespond_shows (serves : ServiceFor kind service) {maxSize defaultSize : Nat}
    (word : maxSize < 4294967296) (fits : defaultSize ≤ maxSize) :
    Keeps (accessRules α) (FromRacf radmin db service steady) .unused
      (fetchAndRespond request defaultSize maxSize)
      fun use _ => Shows steady request.Accepted (db.listFor service request) maxSize use := by
  unfold fetchAndRespond
  refine (fetchLoop_lists serves word fits).bind fun use left hleft => ?_
  cases hleft with
  | responded buffers responses error why =>
    exact .ret ⟨buffers, _, responses, .inr ⟨error, why⟩⟩
  | @listed buffer size vars buffers responses readable accepted fits =>
    dsimp only
    rw [if_pos rfl]
    let shown : AccessUse α := { use with
      responses := use.responses ++ [.list (db.listFor service request)] }
    have shows : (accessRules α).step use
        ⟨.respondWithAccessList kind (some buffer) vars.entriesExtracted, ()⟩ = some shown := by
      simp [accessRules, readable, shown]
    refine .ask_bind fun _ _ => ⟨shown, shows, ?_⟩
    have released : (accessRules α).step shown ⟨.safeFree (some buffer), ()⟩ =
        some { shown with buffers := [] } := by
      simp [accessRules, AccessUse.hasRoom, shown, buffers]
    refine .ask fun _ _ => ⟨_, released, rfl, _, ?_, .inl ⟨rfl, accepted, fits⟩⟩
    simp [shown, responses]
  | @failed resultBuffer size zisRC vars buffers responses bad why =>
    dsimp only
    rw [if_neg bad]
    let told : AccessUse α := { use with
      responses := use.responses ++ [.zisError kind zisRC vars.status] }
    refine .ask_bind fun _ _ => ⟨told, rfl, ?_⟩
    have released : (accessRules α).step told ⟨.safeFree resultBuffer, ()⟩ =
        some { told with buffers := [] } := by
      cases resultBuffer with
      | none => simp [accessRules, told, buffers]
      | some buffer => simp [accessRules, AccessUse.hasRoom, told, buffers]
    have sent : told.responses = [.zisError kind zisRC vars.status] := by
      simp [told, responses]
    exact .ask fun _ _ => ⟨_, released, rfl, _, sent, .inr ⟨rfl, why⟩⟩

/-- A request that is not admitted. -/
theorem refused_shows {admitted : Prop} {full : List α} (status : Nat) (message : String)
    (refused : ¬ admitted) :
    Keeps (accessRules α) (FromRacf radmin db service steady) .unused
      (respondWithError status message) fun use _ => Shows steady admitted full maxSize use :=
  .ask fun _ _ => ⟨_, rfl, rfl, _, rfl, .inr ⟨rfl, fun h => refused h.2.1⟩⟩

end

/-- **Access lists are shown whole.** A handler over the service of RACF responds once, with the whole
list that R_admin has for the name, or with an error. It is the list only if the request is admitted
and the list has at most 8192 entries, and where nothing fails, exactly then. -/
theorem access_lists_shown (radmin : RadminExtraction) (db : RacfDatabase) (steady : Prop) :
    (∀ commonParms : ClassMgmtCommonParms,
      Keeps (accessRules Tss.ZisGenresAccessEntry)
        (FromRacf radmin db (genresAccessListService radmin) steady) .unused
        (respondToProfileAccessListGET commonParms) fun use _ =>
          Shows steady (commonParms.className = [] ∧ commonParms.accessListEntryID = [] ∧
              commonParms.profileName.length ≤ zisSecurityProfileMaxLength)
            ((db.accessList (some (printedString db.userClass.value))
              (printedString commonParms.profileName)).map (genresAccessListService radmin).entry)
            classMgmtAccessListMaxSize use) ∧
      (∀ commonParms : GroupMgmtCommonParms,
        Keeps (accessRules Tss.ZisGroupAccessEntry)
          (FromRacf radmin db (groupAccessListService radmin) steady) .unused
          (respondToGroupAccessListGET commonParms) fun use _ =>
            Shows steady (commonParms.accessListEntryID = [] ∧
                commonParms.groupName.length ≤ zisSecurityGroupMaxLength)
              ((db.accessList none (printedString commonParms.groupName)).map
                (groupAccessListService radmin).entry)
              groupMgmtAccessListMaxSize use) := by
  constructor
  · intro commonParms
    unfold respondToProfileAccessListGET
    split
    next named =>
      exact refused_shows _ _ fun ⟨none_named, _⟩ => by simp [none_named] at named
    next unnamed =>
    split
    next one =>
      exact refused_shows _ _ fun ⟨_, none_one, _⟩ => by simp [none_one] at one
    next whole =>
    have serves : ServiceFor .profile (genresAccessListService radmin) := ⟨rfl, rfl, rfl⟩
    refine (fetchAndRespond_shows serves (by decide) (by decide)).mono fun use _ shows => ?_
    have none_named : commonParms.className = [] := by simpa using unnamed
    have none_one : commonParms.accessListEntryID = [] := by simpa using whole
    refine shows.congr ⟨fun accepted => ⟨none_named, none_one, (names_fit (accepted 0)).2⟩, ?_⟩
    rintro ⟨-, -, short⟩ buffer
    simp [AccessRequest.refusal, tooLong, none_named, short]
  · intro commonParms
    unfold respondToGroupAccessListGET
    split
    next one =>
      exact refused_shows _ _ fun ⟨none_one, _⟩ => by simp [none_one] at one
    next whole =>
    have serves : ServiceFor .group (groupAccessListService radmin) := ⟨rfl, rfl, rfl⟩
    refine (fetchAndRespond_shows serves (by decide) (by decide)).mono fun use _ shows => ?_
    have none_one : commonParms.accessListEntryID = [] := by simpa using whole
    refine shows.congr ⟨fun accepted => ⟨none_one, (names_fit (accepted 0)).2⟩, ?_⟩
    rintro ⟨-, short⟩ buffer
    simp [AccessRequest.refusal, tooLong, short]

end Zss.Security
