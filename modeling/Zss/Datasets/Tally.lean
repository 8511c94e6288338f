import Zss.Datasets.Lookups

/-!
# Responses counted

A tally of what a service does: how many responses it has sent, whether one of them reported success,
whether a step of the change that was asked for has failed, and whether the service has come where it
sends no response, or goes on after an error (`Tally.slips`). It follows the files that are open and
the progress of a copy, as far as that tells what a failure means. It says of a run whether a step fails
whose result the services do not look at (`Tally.ignores`).

Whether a failure is looked at is seen where the service goes on: a refused text unit where a data set
is allocated after it, a short write of a copy where the format of the target is then found to be
variable, and the close of a file that was written unless the copy is given up.
-/

namespace Zss.Datasets

open Zss.Lib

/-! ## The tally -/

/-- How far a copy is: its source or its target is open, its records are read, a write was short, or it
is to be given up. -/
inductive CopyPhase where
  | none
  | source
  | target
  | copying
  | short
  | abandoned
deriving DecidableEq

/-- What is counted of a run. -/
structure Tally where
  /-- A file is open from which the record length is to be found. -/
  measuring : Bool
  /-- The files that records are written to. -/
  written : List Text
  /-- A file is open that makes a member. -/
  creating : Bool
  /-- A new data set is allocated. -/
  making : Bool
  copy : CopyPhase
  /-- A text unit was refused, and there was no response since. -/
  unset : Bool
  responses : Nat
  succeeded : Bool
  failed : Bool
  slipped : Bool

/-- The mode of files that records are written to. -/
def writeMode : String := "wb, recfm=*, type=record"

/-- The phase of a copy once a file is open. -/
def CopyPhase.opened (phase : CopyPhase) (mode : String) : CopyPhase :=
  if mode = "rb" ∨ mode = "rb, type=record" then .source
  else if mode = writeMode ∧ phase = .source then .target
  else .none

/-- The record length that is found is zero, and taken for an error that has been responded to. -/
def zeroLength : Event calls → Bool
  | ⟨.obtainDSCB1 .., some dscb⟩ =>
    getRecordLengthType dscb ≠ some 'U' && getMaxRecordLength dscb == 0
  | ⟨.fldata _, some info⟩ => !info.recfmU && info.maxreclen == 0
  | _ => false

namespace Tally

/-- The tally once an event of the services that read and write has happened. -/
def baseNext (s : Tally) : Event calls → Tally
  | ⟨.respond response, _⟩ =>
    { s with
      responses := s.responses + 1
      succeeded := s.succeeded || response.success
      unset := false }
  | ⟨.fopen path mode, opened⟩ =>
    if opened then
      { s with
        measuring := mode == "r"
        creating := mode == "w"
        written := if mode = writeMode then path :: s.written else s.written
        copy := s.copy.opened mode }
    else { s with failed := s.failed || mode == "w" || mode == writeMode, copy := .none }
  | ⟨.fclose path, rc⟩ =>
    { s with
      measuring := false
      creating := false
      written := s.written.filter (· ≠ path)
      -- the source of a copy is closed before its target
      copy := if s.written = [] ∨ s.written.contains path then .none else s.copy
      failed := s.failed || (s.creating || s.written.contains path) && rc ≠ 0 }
  | ⟨.fread .., reads⟩ =>
    { s with
      failed := s.failed || s.written ≠ [] && reads.any Read.error
      copy :=
        if s.copy = .target then (if reads.any Read.error then .abandoned else .copying)
        else s.copy }
  | ⟨.fwrite _ buffer, written⟩ =>
    { s with
      failed := s.failed || written.count ≠ buffer.length || written.error
      copy := if s.copy = .copying ∧ written.count ≠ buffer.length then .short else s.copy }
  | ⟨.dynallocAllocDataset .., da⟩ => { s with failed := s.failed || da.rc ≠ .ok }
  | ⟨.dynallocUnallocDatasetByDDName _, da⟩ =>
    { s with making := false, failed := s.failed || s.making && da.rc ≠ .ok }
  | ⟨.putRecord _, status⟩ => { s with failed := s.failed || status ≠ 0 }
  | _ => s

/-- There is no response to what has happened, or the service goes on after an error. Where the body of
a creation cannot be converted, nothing is sent. -/
def baseSlips (creates : Bool) (s : Tally) : Event calls → Bool
  | ⟨.convertCharset _, converted⟩ => creates && converted.isNone
  | ⟨.jsonParseUpdate _, body⟩ => body == .notObject
  | ⟨.putRecord _, status⟩ => status ≠ 0
  | e => s.measuring && zeroLength e

/-- A step fails whose result is not looked at. An update looks at no write, a copy at its count; the
close of a file that was written is followed by success, unless the copy is given up. -/
def baseIgnores (s : Tally) : Event calls → Bool
  | ⟨.fwrite _ buffer, written⟩ =>
    (s.copy = .none && (written.count ≠ buffer.length || written.error)) ||
      (s.copy = .copying && written.count = buffer.length && written.error)
  | ⟨.fclose path, rc⟩ =>
    s.written.contains path && rc ≠ 0 && (s.copy = .none || s.copy = .copying)
  | _ => false

/-- The tally once an event has happened. -/
def next (s : Tally) : Event copyCalls → Tally
  | ⟨.base c, answer⟩ => s.baseNext ⟨c, answer⟩
  | ⟨.setTextUnit _, rc⟩ => { s with failed := s.failed || rc ≠ 0, unset := s.unset || rc ≠ 0 }
  | ⟨.stringAt _, text⟩ =>
    -- a short write is compared with the format of the target
    { s with copy :=
        if s.copy = .short then (if text = ['V'] then .copying else .abandoned) else s.copy }
  | ⟨.dynallocNewDataset _, made⟩ =>
    { s with
      making := made.returnCode = 0
      failed := s.failed || made.returnCode ≠ 0 && made.reasonCode ≠ ddNameInUse }
  | ⟨.dynallocUnallocAndDelete _, da⟩ => { s with failed := s.failed || da.rc ≠ .ok }
  | ⟨.bpamDeleteMember .., rc⟩ => { s with failed := s.failed || rc ≠ 0 }
  | _ => s

def slips (creates : Bool) (s : Tally) : Event copyCalls → Bool
  | ⟨.base c, answer⟩ => s.baseSlips creates ⟨c, answer⟩
  | _ => false

def ignores (s : Tally) : Event copyCalls → Bool
  | ⟨.base c, answer⟩ => s.baseIgnores ⟨c, answer⟩
  | ⟨.dynallocNewDataset _, _⟩ => s.unset
  | ⟨.stringAt _, text⟩ => s.copy = .short && text = ['V']
  | _ => false

/-- Nothing is open or allocated. -/
def idle (responses : Nat) (succeeded failed slipped : Bool) : Tally :=
  ⟨false, [], false, false, .none, false, responses, succeeded, failed, slipped⟩

/-- The tally before a request. -/
def start : Tally := idle 0 false false false

end Tally

/-- The world that counts. -/
def tally (creates : Bool) : Machine Tally (Event copyCalls) where
  step s e := some { s.next e with slipped := s.slipped || s.slips creates e }

/-- No step of the run fails unseen. -/
def NothingIgnored (creates : Bool) (events : List (Event copyCalls)) : Prop :=
  (tally creates).Meets (fun s e => s.ignores e = false) Tally.start events

instance (creates : Bool) (events : List (Event copyCalls)) :
    Decidable (NothingIgnored creates events) :=
  inferInstanceAs (Decidable ((tally creates).Meets _ _ _))

/-- **One response, and an honest one.** -/
structure AnswersOnce (creates : Bool) (events : List (Event copyCalls)) : Prop where
  once : ∀ t, (tally creates).run Tally.start events = some t → t.responses = 1
  honest : ∀ t, (tally creates).run Tally.start events = some t → t.succeeded = true →
    t.failed = false

/-! ## Following a service -/

/-- The world that counts, where nothing fails unseen. -/
abbrev counted (creates : Bool) : Machine Tally (Event copyCalls) :=
  (tally creates).given fun s e => s.ignores e = false

/-- The same for the services that do not copy. -/
def baseCounted (creates : Bool) : Machine Tally (Event calls) where
  step s e :=
    if s.baseIgnores e = false then
      some { s.baseNext e with slipped := s.slipped || s.baseSlips creates e }
    else none

section

variable (creates : Bool) {α β : Type}

/-- What a service comes to. -/
abbrev Counts (s : Tally) (p : CopyHandler α) (post : α → Tally → Prop) : Prop :=
  Program.Leads (counted creates) (fun _ => True) s p post

abbrev BaseCounts (s : Tally) (p : Handler α) (post : α → Tally → Prop) : Prop :=
  Program.Leads (baseCounted creates) (fun _ => True) s p post

variable {creates} {s : Tally}

theorem BaseCounts.base {p : Handler α} {post : α → Tally → Prop} (h : BaseCounts creates s p post) :
    Counts creates s (base p) post :=
  h.embed baseCalls (fun _ _ _ => rfl) fun _ _ _ => trivial

theorem baseCounts_call {c : Call} {post : c.Answer → Tally → Prop}
    (h : ∀ answer t, (baseCounted creates).step s ⟨c, answer⟩ = some t → post answer t) :
    BaseCounts creates s (call c) post :=
  Program.Leads.ask fun answer t _ ht => h answer t ht

/-- A call of the other services whose answers lead to a tally each, then what follows. -/
theorem base_next {c : Call} {k : c.Answer → CopyHandler β} {post : β → Tally → Prop}
    (next : c.Answer → Tally)
    (hstep : ∀ answer, (baseCounted creates).step s ⟨c, answer⟩ = some (next answer))
    (hk : ∀ answer, Counts creates (next answer) (k answer) post) :
    Counts creates s (base (call c) >>= k) post := by
  have answered : Counts creates s (base (call c)) fun answer t => t = next answer :=
    (baseCounts_call fun answer t ht =>
      (Option.some.inj ((hstep answer).symm.trans ht)).symm).base
  refine answered.bind_of ?_
  rintro answer _ rfl
  exact hk answer

/-- A call of the other services that leaves the tally, then what follows. -/
theorem base_same {c : Call} {k : c.Answer → CopyHandler β} {post : β → Tally → Prop}
    (hstep : ∀ answer, (baseCounted creates).step s ⟨c, answer⟩ = some s)
    (hk : ∀ answer, Counts creates s (k answer) post) :
    Counts creates s (base (call c) >>= k) post :=
  base_next (fun _ => s) hstep hk

/-- What keeps the tally where each of its calls does. -/
theorem counts_of_asks {P : CopyCall → Prop} {p : CopyHandler α} (h : p.Asks P)
    (hstep : ∀ c answer t, P c → (counted creates).step s ⟨c, answer⟩ = some t → t = s) :
    Counts creates s p fun _ t => t = s :=
  h.keeps (fun _ c answer t hc heq ht => hstep c answer t hc (heq ▸ ht)) rfl

theorem baseCounts_of_asks {P : Call → Prop} {p : Handler α} (h : p.Asks P)
    (hstep : ∀ c answer t, P c → (baseCounted creates).step s ⟨c, answer⟩ = some t → t = s) :
    BaseCounts creates s p fun _ t => t = s :=
  h.keeps (fun _ c answer t hc heq ht => hstep c answer t hc (heq ▸ ht)) rfl

/-- Nothing is measured, and no short write is compared: what looks is not counted. -/
def Tally.calm (s : Tally) : Bool := !s.measuring && s.copy != .short

/-- The tally stays where it is when it is calm and a program only looks. -/
theorem step_looks {c : CopyCall} (h : c.looksUp = true) (hs : s.calm = true)
    (answer : c.Answer) : (counted creates).step s ⟨c, answer⟩ = some s := by
  obtain ⟨hmeasuring, hshort⟩ : s.measuring = false ∧ s.copy ≠ .short := by
    simpa [Tally.calm] using hs
  have plain : some { s with slipped := s.slipped || false } = some s := by rw [Bool.or_false]
  have unmeasured : some { s with slipped := s.slipped || (s.measuring && false) } = some s := by
    rw [Bool.and_false, Bool.or_false]
  cases c with
  | base c =>
    cases c with
    | returnEntries => exact unmeasured
    | obtainDSCB1 =>
      obtain ⟨measuring, written, creating, making, copy, unset, responses, succeeded, failed,
        slipped⟩ := s
      subst hmeasuring
      exact plain
    | _ => cases h
  | stringAt string =>
    have compared : (counted creates).step s ⟨.stringAt string, answer⟩ =
        some { s with slipped := s.slipped || false } := by
      simp [counted, Machine.given, tally, Tally.ignores, Tally.next, Tally.slips, hshort]
    exact compared.trans plain
  | listEntries | getPDSMembers | matchWithWildcards | fill | sprintf => exact plain
  | _ => cases h

/-- A call that only looks, then what follows. -/
theorem looks_bind {c : CopyCall} {k : c.Answer → CopyHandler β} {post : β → Tally → Prop}
    (h : c.looksUp = true) (hs : s.calm = true)
    (hk : ∀ answer, Counts creates s (k answer) post) : Counts creates s (copyCall c >>= k) post :=
  .same (step_looks h hs) hk

theorem Looks.counts {p : CopyHandler α} (h : Looks p) (hs : s.calm = true) :
    Counts creates s p fun _ t => t = s := by
  refine counts_of_asks h fun c answer t hc ht => ?_
  rw [step_looks hc hs] at ht
  exact (Option.some.inj ht).symm

end

end Zss.Datasets
