import Zss.Datasets.Tally

/-!
# How often the services respond

The services that read and update data sets, with VSAM or without, followed with the tally. Each part
leaves the tally where it was and lets the service go on, or has responded with an error, or has come
where nothing is sent.
-/

namespace Zss.Datasets

open Zss.Lib

namespace Tally

variable (t : Tally)

/-- An error was sent. -/
def Refused : Prop := ∃ failed, t = idle 1 false failed false

/-- Nothing was sent, and nothing will be. -/
def Lost : Prop := ∃ failed, t = idle 0 false failed true

/-- Success was reported, and rightly. -/
def Served : Prop := t = idle 1 true false false

/-- One response was sent, and an honest one. -/
def Answered : Prop := t.Served ∨ t.Refused

end Tally

variable {creates : Bool}

/-! ## Responding -/

variable {status : Nat} {α : Type}

theorem respondWithError_counts (hstatus : 300 ≤ status) (msg : Message) (responses : Nat)
    (succeeded failed slipped : Bool) :
    BaseCounts creates (.idle responses succeeded failed slipped) (respondWithError status msg)
      fun _ t => t = .idle (responses + 1) succeeded failed slipped := by
  have hnot : ¬ status < 300 := Nat.not_lt.mpr hstatus
  have hstep : (baseCounted creates).step (.idle responses succeeded failed slipped)
      ⟨.respond ⟨status, some msg, [], none⟩, ()⟩ =
        some (.idle (responses + 1) succeeded failed slipped) := by
    simp [baseCounted, Tally.baseIgnores, Tally.baseNext, Tally.baseSlips, Tally.idle, zeroLength,
      Response.success, hnot]
  exact baseCounts_call fun _ t ht => (Option.some.inj (hstep.symm.trans ht)).symm

/-- An error where nothing was sent before. -/
theorem refuses (hstatus : 300 ≤ status) (msg : Message) :
    BaseCounts creates .start (respondWithError status msg) fun _ t => t.Refused :=
  (respondWithError_counts hstatus msg 0 false false false).mono fun _ _ ht => ⟨false, ht⟩

/-- An error, and then the end. -/
theorem refuses_then (hstatus : 300 ≤ status) (msg : Message) (a : α) :
    BaseCounts creates .start (respondWithError status msg >>= fun _ => pure a)
      fun b t => b = a ∧ t.Refused :=
  .bind_of (refuses hstatus msg) fun _ _ ht => .ret ⟨rfl, ht⟩

theorem getDYNALLOCErrorCode_le (da : Dynalloc) (name : DatasetAndMember) (site : Text) :
    300 ≤ (getDYNALLOCErrorCodeAndMsg da name site).1 := by
  unfold getDYNALLOCErrorCodeAndMsg
  split
  · exact (by decide : 300 ≤ HTTP_STATUS_FORBIDDEN)
  · split
    · exact (by decide : 300 ≤ HTTP_STATUS_NOT_FOUND)
    · split
      · exact (by decide : 300 ≤ HTTP_STATUS_NOT_FOUND)
      · exact (by decide : 300 ≤ HTTP_STATUS_INTERNAL_SERVER_ERROR)

/-! ## What is not counted -/

/-- The call is not counted: one of a digest, of the session table, of its storage or its ACBs. -/
def Call.uncounted : Call → Bool
  | .respond _ => false
  | .obtainDSCB1 .. => false
  | .fopen .. => false
  | .fldata _ => false
  | .fread .. => false
  | .fwrite .. => false
  | .fclose _ => false
  | .dynallocAllocDataset .. => false
  | .dynallocUnallocDatasetByDDName _ => false
  | .convertCharset _ => false
  | .jsonParseUpdate _ => false
  | .putRecord _ => false
  | _ => true

/-- What a step that is taken does. -/
theorem baseCounted_step {s t : Tally} {e : Event calls}
    (h : (baseCounted creates).step s e = some t) : s.baseIgnores e = false ∧
      t = { s.baseNext e with slipped := s.slipped || s.baseSlips creates e } := by
  obtain ⟨hfine, ht⟩ := Option.ite_none_right_eq_some.mp h
  exact ⟨hfine, (Option.some.inj ht).symm⟩

theorem step_uncounted {c : Call} (h : c.uncounted = true) (s : Tally) (answer : c.Answer) :
    (baseCounted creates).step s ⟨c, answer⟩ = some s := by
  have same : some { s with slipped := s.slipped || (s.measuring && false) } = some s := by
    rw [Bool.and_false, Bool.or_false]
  cases c with
  | respond | obtainDSCB1 | fopen | fldata | fread | fwrite | fclose | dynallocAllocDataset
  | dynallocUnallocDatasetByDDName | convertCharset | jsonParseUpdate | putRecord => cases h
  | _ => exact same

/-- The program makes no call that is counted. -/
abbrev Uncounted {α : Type} (p : Handler α) : Prop := p.Asks fun c : Call => c.uncounted = true

theorem Uncounted.counts {p : Handler α} (h : Uncounted p) (s : Tally) :
    BaseCounts creates s p fun _ t => t = s := by
  refine baseCounts_of_asks h fun c answer t hc ht => ?_
  exact (Option.some.inj ((step_uncounted hc s answer).symm.trans ht)).symm

/-- A call that is not counted, then what follows. -/
theorem uncounted_bind {s : Tally} {c : Call} {k : c.Answer → Handler α} {post : α → Tally → Prop}
    (h : c.uncounted = true) (hk : ∀ answer, BaseCounts creates s (k answer) post) :
    BaseCounts creates s (call c >>= k) post :=
  .same (step_uncounted h s) hk

theorem finishDigest_uncounted (rcEtag : Int) (digested : Bytes) :
    Uncounted (finishDigest rcEtag digested) := by
  unfold finishDigest
  split
  · exact .ask rfl
  · exact .ret _

theorem printEtag_uncounted (finished : Finished) :
    Uncounted (printEtag finished) := by
  unfold printEtag
  split
  · exact .ask_bind rfl fun _ => .ret _
  · exact .ret _

theorem digestReads_uncounted (reads : List Read) (rcEtag : Int) (digested : Bytes) :
    Uncounted (digestReads reads rcEtag digested) := by
  induction reads generalizing rcEtag digested with
  | nil => exact .ret _
  | cons read reads ih =>
    unfold digestReads
    split
    · exact .ask_bind rfl fun _ => ih _ _
    · split
      · exact .ret _
      · exact ih _ _

theorem streamReads_uncounted (reads : List Read) (rcEtag : Int) (digested : Bytes) :
    Uncounted (streamReads reads rcEtag digested) := by
  induction reads generalizing rcEtag digested with
  | nil => exact .ret _
  | cons read reads ih =>
    unfold streamReads
    split
    · split
      · exact .ask_bind rfl fun _ => .bind (ih _ _) fun _ => .ret _
      · exact .bind (ih _ _) fun _ => .ret _
    · split
      · exact .ret _
      · exact .bind (ih _ _) fun _ => .ret _

/-! ## The record length -/

/-- The tally while the record length is looked up. -/
def Tally.measured (slipped : Bool) : Tally := { Tally.start with measuring := true, slipped }

/-- A DSCB with a record length of zero. -/
def Dscb.isZeroLength (dscb : Dscb) : Bool :=
  getRecordLengthType dscb ≠ some 'U' && getMaxRecordLength dscb == 0

theorem lookupDscb_measured (dsn : Text) :
    BaseCounts creates (.measured false) (lookupDscb dsn) fun dscb t =>
      t = .measured (dscb.elim false Dscb.isZeroLength) := by
  unfold lookupDscb getVolserForDataset
  split
  next => exact .ret rfl
  next =>
    rw [Program.bind_assoc]
    refine .same (fun _ => rfl) fun entries => ?_
    rw [Program.pure_eq, Program.ret_bind]
    cases entries.head?.bind CatalogEntry.volser with
    | none => exact .ret rfl
    | some volser =>
      refine baseCounts_call fun dscb t ht => ?_
      cases dscb with
      | none => exact (Option.some.inj ht).symm
      | some dscb => exact (Option.some.inj ht).symm

/-- What the lookup of the record length comes to. -/
def Measured (lrecl : Nat) (t : Tally) : Prop :=
  (lrecl ≠ 0 ∧ t = .start) ∨ (lrecl = 0 ∧ (t.Refused ∨ t.Lost))

theorem measured_of_found {length : Nat} {slipped : Bool} (h : slipped = true ↔ length = 0) :
    Measured length (.idle 0 false false slipped) := by
  cases slipped with
  | false => exact .inl ⟨fun hzero => Bool.false_ne_true (h.mpr hzero), rfl⟩
  | true => exact .inr ⟨h.mp rfl, .inr ⟨false, rfl⟩⟩

theorem step_close_measured (slipped : Bool) (path : Text) (rc : Int) :
    (baseCounted creates).step (.measured slipped) ⟨.fclose path, rc⟩ =
      some (.idle 0 false false slipped) := by
  cases slipped <;> rfl

theorem getLreclOrRespondError_counts (dsn ddPath : Text) :
    BaseCounts creates .start (getLreclOrRespondError dsn ddPath) Measured := by
  have refused : ∀ (status : Nat) (msg : Message), 300 ≤ status →
      BaseCounts creates .start (respondWithError status msg >>= fun _ => pure 0) Measured :=
    fun status msg hstatus => (refuses_then hstatus msg 0).mono
      fun lrecl t ⟨hzero, ht⟩ => .inr ⟨hzero, .inl ht⟩
  refine .next (fun opened => if opened then .measured false else .start)
    (fun opened => by cases opened <;> rfl) fun opened => ?_
  cases opened with
  | false => exact refused _ _ (by decide)
  | true =>
    refine .bind_of (lookupDscb_measured dsn) ?_
    rintro dscb _ rfl
    cases dscb with
    | some dscb =>
      refine .next _ (step_close_measured _ _) fun _ => ?_
      split
      next hU =>
        rw [Option.elim_some, show dscb.isZeroLength = false by simp [Dscb.isZeroLength, hU]]
        exact refused _ _ (by decide)
      next hU => exact .ret (measured_of_found (by simp [Dscb.isZeroLength, hU]))
    | none =>
      refine .next (fun info => .measured (info.elim false fun info =>
        !info.recfmU && info.maxreclen == 0)) (fun info => by cases info <;> rfl) fun info => ?_
      cases info with
      | none =>
        refine .next (fun _ => .start) (fun _ => rfl) fun _ => ?_
        exact refused _ _ (by decide)
      | some info =>
        refine .next _ (step_close_measured _ _) fun _ => ?_
        split
        next hU =>
          rw [Option.elim_some, show (!info.recfmU && info.maxreclen == 0) = false by simp [hU]]
          exact refused _ _ (by decide)
        next hU => exact .ret (measured_of_found (by simp [hU]))

/-! ## Reading -/

/-- A service has come to its end: with one response, or with none. -/
def Tally.Ended (t : Tally) : Prop := t.Answered ∨ t.Lost

theorem Tally.Ended.idle {t : Tally} (h : t.Ended) :
    ∃ responses succeeded failed slipped, t = .idle responses succeeded failed slipped := by
  rcases h with (rfl | ⟨failed, rfl⟩) | ⟨failed, rfl⟩ <;> exact ⟨_, _, _, _, rfl⟩

theorem step_unalloc_idle (responses : Nat) (succeeded failed slipped : Bool) (ddName : Text)
    (da : Dynalloc) :
    (baseCounted creates).step (.idle responses succeeded failed slipped)
      ⟨.dynallocUnallocDatasetByDDName ddName, da⟩ =
        some (.idle responses succeeded failed slipped) := by
  simp [baseCounted, Tally.baseIgnores, Tally.baseNext, Tally.baseSlips, Tally.idle, zeroLength]

/-- The data set is given back at the end. -/
theorem ended_unalloc {t : Tally} (h : t.Ended) (ddName : Text) :
    BaseCounts creates t (call (.dynallocUnallocDatasetByDDName ddName) >>= fun _ => pure ())
      fun _ u => u.Ended := by
  obtain ⟨responses, succeeded, failed, slipped, rfl⟩ := h.idle
  exact .same (step_unalloc_idle _ _ _ _ _) fun _ => .ret h

/-- Where no record length is found, the service ends. -/
theorem Measured.ended {lrecl : Nat} {t : Tally} (h : Measured lrecl t) (hzero : lrecl = 0) :
    t.Ended := by
  rcases h with ⟨hne, -⟩ | ⟨-, ht | ht⟩
  · exact absurd hzero hne
  · exact .inl (.inr ht)
  · exact .inr ht

theorem Measured.start {lrecl : Nat} {t : Tally} (h : Measured lrecl t) (hne : lrecl ≠ 0) :
    t = .start := by
  rcases h with ⟨-, rfl⟩ | ⟨hzero, -⟩
  · rfl
  · exact absurd hzero hne

/-- The tally while a file is read, which may be the source of a copy. -/
def Tally.reading : Tally := { Tally.start with copy := .source }

theorem step_open_read (lrecl : Nat) (path : Text) (opened : Bool) :
    (baseCounted creates).step .start ⟨.fopen path (readMode lrecl).1, opened⟩ =
      some (if opened then .reading else .start) := by
  have hmode : (readMode lrecl).1 = "rb" ∨ (readMode lrecl).1 = "rb, type=record" := by
    unfold readMode
    split
    · exact .inl rfl
    · exact .inr rfl
  rcases hmode with h | h
  all_goals
    rw [h]
    cases opened <;> rfl

theorem getDatasetETag_counts (filename : Text) (recordLength : Nat) :
    BaseCounts creates .start (getDatasetETag filename recordLength) fun _ t => t = .start := by
  unfold getDatasetETag
  dsimp only
  refine .next _ (step_open_read _ _) fun opened => ?_
  cases opened with
  | true =>
    simp only [↓reduceIte]
    refine uncounted_bind rfl fun rcEtag => ?_
    split
    · exact .next (fun _ => Tally.start) (fun _ => rfl) fun _ => .ret rfl
    · refine .next (fun _ => Tally.reading) (fun _ => rfl) fun reads => ?_
      refine .bind_of ((digestReads_uncounted reads _ _).counts _) ?_
      rintro ⟨rcEtag, digested⟩ _ rfl
      refine .next (fun _ => Tally.start) (fun _ => rfl) fun _ => ?_
      refine .bind_of ((finishDigest_uncounted _ _).counts _) ?_
      rintro finished _ rfl
      exact (printEtag_uncounted finished).counts _
  | false => exact uncounted_bind rfl fun _ => (printEtag_uncounted _).counts _

theorem streamDataset_counts (filename : Text) (recordLength : Nat) :
    BaseCounts creates .start (streamDataset filename recordLength) fun _ t => t = .start := by
  unfold streamDataset
  dsimp only
  refine .next _ (step_open_read _ _) fun opened => ?_
  cases opened with
  | true =>
    refine uncounted_bind rfl fun rcEtag => .next (fun _ => Tally.reading) (fun _ => rfl) fun reads => ?_
    refine .bind_of ((streamReads_uncounted reads _ _).counts _) ?_
    rintro ⟨records, rcEtag, digested⟩ _ rfl
    refine .next (fun _ => Tally.start) (fun _ => rfl) fun _ => ?_
    refine .bind_of ((finishDigest_uncounted _ _).counts _) ?_
    rintro finished _ rfl
    exact .bind_of ((printEtag_uncounted finished).counts _) fun _ _ ht => .ret ht
  | false =>
    refine uncounted_bind rfl fun _ => ?_
    exact .bind_of ((printEtag_uncounted _).counts _) fun _ _ ht => .ret ht

theorem respondWithDatasetInternal_counts (dsn ddName : Text) :
    BaseCounts creates .start (respondWithDatasetInternal dsn ddName) fun _ t => t.Ended := by
  refine .bind_of (getLreclOrRespondError_counts _ _) fun lrecl t hlrecl => ?_
  split
  next hzero => exact .ret (hlrecl.ended hzero)
  next hne =>
    rw [hlrecl.start hne]
    refine .bind_of (streamDataset_counts _ _) ?_
    rintro streamed _ rfl
    exact baseCounts_call fun _ t ht => .inl (.inl (Option.some.inj ht).symm)

/-- An allocation that fails is responded to. -/
theorem refuses_dynalloc (da : Dynalloc) (name : DatasetAndMember) (site : Text) :
    BaseCounts creates (.idle 0 false true false)
      (respondWithMessage (getDYNALLOCErrorCodeAndMsg da name site).1
        (getDYNALLOCErrorCodeAndMsg da name site).2) fun _ t => t.Refused :=
  (respondWithError_counts (getDYNALLOCErrorCode_le da name site) _ _ _ _ _).mono
    fun _ _ ht => ⟨true, ht⟩

theorem step_alloc_start (dsn member : Text) (disp : String) (da : Dynalloc) :
    (baseCounted creates).step .start ⟨.dynallocAllocDataset dsn member disp, da⟩ =
      some (.idle 0 false (da.rc ≠ .ok) false) := by
  simp [baseCounted, Tally.baseIgnores, Tally.baseNext, Tally.baseSlips, Tally.idle, Tally.start,
    zeroLength]

theorem respondWithDataset_counts (absolutePath : Text) :
    BaseCounts creates .start (respondWithDataset absolutePath) fun _ t => t.Ended := by
  unfold respondWithDataset
  split
  · exact (refuses (by decide) _).mono fun _ _ ht => .inl (.inr ht)
  · refine .next _ (step_alloc_start _ _ _) fun da => ?_
    by_cases hok : da.rc = .ok
    · rw [if_neg (not_not.mpr hok), hok]
      exact .bind_of (respondWithDatasetInternal_counts _ _) fun _ t ht => ended_unalloc ht _
    · rw [if_pos hok, decide_eq_true hok]
      exact (refuses_dynalloc da _ ['r']).mono fun _ _ ht => .inl (.inr ht)

/-! ## Updating -/

/-- A check has responded, or lets the service go on. -/
def LetsOn {α : Type} (checked : Option α) (t : Tally) : Prop :=
  match checked with
  | some _ => t = .start
  | none => t.Refused

theorem checkDscbType_counts (dscb : Dscb) :
    BaseCounts creates .start (checkDscbType dscb) LetsOn := by
  have refused : ∀ msg : String, BaseCounts creates .start
      (respondWithError HTTP_STATUS_BAD_REQUEST msg >>= fun _ =>
        (pure none : Handler (Option RecordType))) LetsOn := fun msg =>
    (refuses_then (by decide) msg none).mono fun _ _ ⟨hnone, ht⟩ => hnone ▸ ht
  refine uncounted_bind rfl fun rest => ?_
  dsimp only
  split
  · exact refused _
  · split
    · exact refused _
    · split
      · exact refused _
      · exact .ret rfl

theorem checkFileType_counts (datasetPath : Text) :
    BaseCounts creates .start (checkFileType datasetPath) LetsOn := by
  -- each refusal responds, closes and ends
  have refused : ∀ {status : Nat} (msg : String), 300 ≤ status → BaseCounts creates .start
      (respondWithError status msg >>= fun _ => call (.fclose datasetPath) >>= fun _ =>
        (pure none : Handler (Option RecordType))) LetsOn := by
    intro status msg hstatus
    refine .bind_of (respondWithError_counts hstatus msg 0 false false false) ?_
    rintro _ _ rfl
    exact .same (fun _ => rfl) fun _ => .ret ⟨false, rfl⟩
  refine .same (fun opened => by cases opened <;> rfl) fun opened => ?_
  split
  · refine .same (fun _ => rfl) fun info => ?_
    cases info with
    | none => exact refused _ (by decide)
    | some info =>
      dsimp only
      split
      · exact refused _ (by decide)
      · split
        · exact refused _ (by decide)
        · split
          · exact refused _ (by decide)
          · exact .same (fun _ => rfl) fun _ => .ret rfl
  · exact (refuses_then (by decide) _ none).mono fun _ _ ⟨hnone, ht⟩ => hnone ▸ ht

theorem checkDatasetType_counts (datasetPath dsn : Text) :
    BaseCounts creates .start (checkDatasetType datasetPath dsn) LetsOn := by
  have looked : BaseCounts creates .start (getVolserForDataset dsn) fun _ t => t = .start := by
    unfold getVolserForDataset
    split
    · exact .ret rfl
    · exact .same (fun _ => rfl) fun _ => .ret rfl
  refine .bind_of looked ?_
  rintro volser _ rfl
  cases volser with
  | none => exact checkFileType_counts datasetPath
  | some volser =>
    refine .same (fun _ => rfl) fun dscb => ?_
    cases dscb with
    | none => exact .ret rfl
    | some dscb => exact checkDscbType_counts dscb

/-- The tally while records are written. -/
def Tally.writing (path : Text) : Tally := { Tally.start with written := [path] }

/-- What an update writes is taken, so that the tally stays. -/
theorem fwrite_counts {s : Tally} (hs : s.copy = .none) (path : Text) (buffer : Bytes) :
    BaseCounts creates s (call (.fwrite path buffer)) fun _ t => t = s := by
  refine baseCounts_call fun written t ht => ?_
  obtain ⟨hfine, rfl⟩ := baseCounted_step ht
  obtain ⟨hcount, herror⟩ : written.count = buffer.length ∧ written.error = false := by
    simpa [Tally.baseIgnores, hs] using hfine
  simp [Tally.baseNext, Tally.baseSlips, zeroLength, hcount, herror]

theorem writeRecords_counts (datasetPath : Text) (type : RecordType) (records : List Bytes)
    (loop : WriteLoop) :
    BaseCounts creates (.writing datasetPath) (writeRecords datasetPath type records loop)
      fun _ t => t = .writing datasetPath := by
  induction records generalizing loop with
  | nil => exact .ret rfl
  | cons record rest ih =>
    refine uncounted_bind rfl fun after => .bind_of (fwrite_counts rfl _ _) ?_
    rintro written _ rfl
    split
    next hnegative => exact absurd hnegative.1 (Int.not_lt.mpr (Int.natCast_nonneg _))
    next =>
      split
      · exact uncounted_bind rfl fun _ => ih _
      · exact ih _

/-- A file that was written is closed, which does not fail. -/
theorem close_written {responses : Nat} {succeeded : Bool} {path : Text} {rc : Int} {t : Tally}
    (ht : (baseCounted creates).step
      { Tally.idle responses succeeded false false with written := [path] }
      ⟨.fclose path, rc⟩ = some t) : t = .idle responses succeeded false false := by
  obtain ⟨hfine, rfl⟩ := baseCounted_step ht
  have hrc : rc = 0 := by
    simpa [Tally.baseIgnores, Tally.idle] using hfine
  simp [Tally.baseNext, Tally.baseSlips, Tally.idle, zeroLength, hrc]

theorem writeDataset_counts (datasetPath : Text) (type : RecordType) (records : List Bytes) :
    BaseCounts creates .start (writeDataset datasetPath type records) fun _ t => t.Answered := by
  refine .next (fun opened => if opened then .writing datasetPath else .idle 0 false true false)
    (fun opened => by cases opened <;> rfl) fun opened => ?_
  split
  · refine uncounted_bind rfl fun rcEtag => .bind_of (writeRecords_counts _ _ _ _) ?_
    rintro loop _ rfl
    refine .bind_of ((finishDigest_uncounted _ _).counts _) ?_
    rintro finished _ rfl
    refine .bind_of ((printEtag_uncounted finished).counts _) ?_
    rintro etag _ rfl
    refine .next (fun _ => { Tally.idle 1 true false false with written := [datasetPath] })
      (fun _ => rfl) fun _ => ?_
    exact .ask_bind fun rc t _ ht => .ret (.inl (close_written ht))
  · exact (respondWithError_counts (by decide) _ _ _ _ _).mono fun _ _ ht => .inr ⟨true, ht⟩

theorem updateDatasetWithJSONInternal_counts (datasetPath dsn : Text)
    (recordArray : List JsonItem) :
    BaseCounts creates .start (updateDatasetWithJSONInternal datasetPath dsn recordArray)
      fun _ t => t.Answered := by
  refine .bind_of (checkDatasetType_counts _ _) fun type t ht => ?_
  cases type with
  | none => exact .ret (.inr ht)
  | some type =>
    rw [show t = .start from ht]
    dsimp only
    split
    · exact (refuses (by decide) _).mono fun _ _ ht => .inr ht
    · exact writeDataset_counts _ _ _

theorem updateAllocated_counts (datasetPath : Text) (name : DatasetAndMember) (ddPath : Text)
    (recordArray : List JsonItem) (lastEtag : Option Text) (force : Bool) :
    BaseCounts creates .start
      (updateAllocated datasetPath name ddPath recordArray lastEtag force) fun _ t => t.Ended := by
  have refused : ∀ {status : Nat} (msg : Message), 300 ≤ status →
      BaseCounts creates .start (respondWithError status msg) fun _ t => t.Ended :=
    fun msg hstatus => (refuses hstatus msg).mono fun _ _ ht => .inl (.inr ht)
  have updated : BaseCounts creates .start
      (updateDatasetWithJSONInternal datasetPath name.dsn recordArray) fun _ t => t.Ended :=
    (updateDatasetWithJSONInternal_counts _ _ _).mono fun _ _ ht => .inl ht
  unfold updateAllocated
  split
  · exact updated
  · refine .bind_of (getLreclOrRespondError_counts _ _) fun lrecl t hlrecl => ?_
    split
    next hzero => exact .ret (hlrecl.ended hzero)
    next hne =>
      rw [hlrecl.start hne]
      refine .bind_of (getDatasetETag_counts _ _) ?_
      rintro eTag _ rfl
      cases eTag with
      | none => exact refused _ (by decide)
      | some eTag =>
        dsimp only
        split
        · exact refused _ (by decide)
        · exact updated

theorem updateDatasetWithJSON_counts (datasetPath : Text) (recordArray : List JsonItem)
    (lastEtag : Option Text) (force : Bool) :
    BaseCounts creates .start (updateDatasetWithJSON datasetPath recordArray lastEtag force)
      fun _ t => t.Ended := by
  have refused : ∀ msg : Message, BaseCounts creates .start
      (respondWithError HTTP_STATUS_BAD_REQUEST msg) fun _ t => t.Ended :=
    fun msg => (refuses (by decide) msg).mono fun _ _ ht => .inl (.inr ht)
  unfold updateDatasetWithJSON
  split
  · exact refused _
  · split
    · exact refused _
    · refine .next _ (step_alloc_start _ _ _) fun da => ?_
      by_cases hok : da.rc = .ok
      · rw [if_neg (not_not.mpr hok), hok]
        exact .bind_of (updateAllocated_counts _ _ _ _ _ _) fun _ t ht => ended_unalloc ht _
      · rw [if_pos hok, decide_eq_true hok]
        exact (refuses_dynalloc da _ ['w']).mono fun _ _ ht => .inl (.inr ht)

theorem updateDataset_counts (request : UpdateRequest) (absolutePath : Text) :
    BaseCounts false .start (updateDataset request absolutePath) fun _ t => t.Ended := by
  have refused : ∀ {status : Nat} (msg : Message), 300 ≤ status →
      BaseCounts false .start (respondWithError status msg) fun _ t => t.Ended :=
    fun msg hstatus => (refuses hstatus msg).mono fun _ _ ht => .inl (.inr ht)
  refine .same (fun _ => rfl) fun convertedBody => ?_
  cases convertedBody with
  | none => exact refused _ (by decide)
  | some convertedBody =>
    refine .next (fun body => .idle 0 false false (body == .notObject))
      (fun _ => rfl) fun body => ?_
    cases body with
    | invalid => exact refused _ (by decide)
    | notObject => exact .ret (.inr ⟨false, rfl⟩)
    | object etag records => exact updateDatasetWithJSON_counts _ _ _ _

/-! ## VSAM -/

/-- An error was sent, and a success after it. -/
def Tally.Doubled (t : Tally) : Prop := t = .idle 2 true true true

/-- An error on the way of a VSAM service, and then the end. -/
theorem refuses_checked (hstatus : 300 ≤ status) (msg : String) :
    BaseCounts creates .start
      (respondWithError status msg >>= fun _ => (pure none : Handler (Option α))) LetsOn :=
  (refuses_then hstatus msg none).mono fun _ _ ⟨hnone, ht⟩ => hnone ▸ ht

theorem searchCatalog_counts (dsn : Text) :
    BaseCounts creates .start (searchCatalog dsn) LetsOn := by
  refine uncounted_bind rfl fun entry => ?_
  cases entry with
  | none => exact refuses_checked (by decide) _
  | some entry =>
    dsimp only
    split
    · exact uncounted_bind rfl fun _ => .ret rfl
    · split
      · exact .ret rfl
      · exact refuses_checked (by decide) _

theorem lookupACB_uncounted (key : KeyRef) : Uncounted (lookupACB key) := by
  refine .ask_bind rfl fun state => ?_
  cases state with
  | none => exact .ret _
  | some state => exact .ask_bind rfl fun _ => .ret _

theorem allocateDD_uncounted (dsn : Text) : Uncounted (allocateDD dsn) := by
  have retry : ∀ left last, Uncounted (retryDynalloc dsn left last) := by
    intro left
    induction left with
    | zero => exact fun _ => .ret _
    | succ left ih =>
      intro last
      unfold retryDynalloc
      split
      · exact .ask_bind rfl fun _ => ih _
      · exact .ret _
  exact .ask_bind rfl fun _ => retry _ _

theorem pointFirst_uncounted (state acb : Addr) (type : VsamType) (keyLen : Nat) :
    Uncounted (pointFirst state acb type keyLen) := by
  unfold pointFirst
  split
  · exact .ask_bind rfl fun _ => .ask_bind rfl fun _ => .ret _
  · exact .ask rfl

theorem openSession_counts (dsn : Text) (component : Component) :
    BaseCounts creates .start (openSession dsn component) LetsOn := by
  refine .bind_of ((allocateDD_uncounted dsn).counts _) ?_
  rintro ⟨ddNumber, da⟩ _ rfl
  dsimp only
  split
  · exact refuses_checked (by decide) _
  · refine uncounted_bind rfl fun state => uncounted_bind rfl fun acb => ?_
    cases acb with
    | none => exact refuses_checked (by decide) _
    | some acb =>
      refine uncounted_bind rfl fun _ => .bind_of ((pointFirst_uncounted _ _ _ _).counts _) ?_
      rintro returnCode _ rfl
      split
      · exact refuses_checked (by decide) _
      · exact .ret rfl

theorem streamVSAMDataset_counts (acb : Addr) (rplParms : Option VsamType) (component : Component) :
    BaseCounts creates .start (streamVSAMDataset acb rplParms component)
      fun _ t => t = .idle 1 true false false :=
  uncounted_bind rfl fun _ => uncounted_bind rfl fun _ =>
    baseCounts_call fun _ _ ht => (Option.some.inj ht).symm

theorem closeSession_uncounted (acb state pair : Addr) : Uncounted (closeSession acb state pair) :=
  .ask_bind rfl fun _ => .ask_bind rfl fun _ => .ask_bind rfl fun _ => .ask rfl

/-- The records of an ACB, and then the end. -/
theorem streamed_counts (acb state pair : Addr) (rplParms : Option VsamType)
    (component : Component) (closeAfter : Bool) :
    BaseCounts creates .start (streamVSAMDataset acb rplParms component >>= fun _ =>
      if closeAfter then closeSession acb state pair else pure ()) fun _ t => t.Answered := by
  refine .bind_of (streamVSAMDataset_counts _ _ _) ?_
  rintro _ _ rfl
  split
  · exact ((closeSession_uncounted _ _ _).counts _).mono fun _ _ ht => .inl ht
  · exact .ret (.inl rfl)

theorem serveComponent_counts (dsn : Text) (username : UserName) (closeAfter : Bool)
    (component : Component) :
    BaseCounts creates .start (serveComponent dsn username closeAfter component)
      fun _ t => t.Answered := by
  refine uncounted_bind rfl fun rest => uncounted_bind rfl fun pair => ?_
  refine .bind_of ((lookupACB_uncounted _).counts _) ?_
  rintro found _ rfl
  cases found with
  | some found => exact uncounted_bind rfl fun _ => streamed_counts _ _ _ _ _ _
  | none =>
    refine .bind_of (openSession_counts dsn component) fun opened t ht => ?_
    cases opened with
    | none => exact .ret (.inr ht)
    | some opened =>
      rw [show t = .start from ht]
      exact uncounted_bind rfl fun _ => streamed_counts _ _ _ _ _ _

theorem respondWithVSAMDataset_counts (absolutePath : Text) (username : UserName)
    (closeArg : Option Text) :
    BaseCounts creates .start (respondWithVSAMDataset absolutePath username closeArg)
      fun _ t => t.Answered := by
  unfold respondWithVSAMDataset
  split
  · exact (refuses (by decide) _).mono fun _ _ ht => .inr ht
  · refine .bind_of (searchCatalog_counts _) fun component t ht => ?_
    cases component with
    | none => exact .ret (.inr ht)
    | some component =>
      rw [show t = .start from ht]
      exact serveComponent_counts _ _ _ _

/-- The write loop goes through, or has responded and goes on. -/
theorem putRecords_counts (outACB : Option Addr) (records : List Bytes) (recordsWritten : Nat) :
    BaseCounts creates .start (putRecords outACB records recordsWritten)
      fun _ t => t = .start ∨ t = .idle 1 false true true := by
  induction records generalizing recordsWritten with
  | nil => exact .ret (.inl rfl)
  | cons record rest ih =>
    refine .next (fun status => .idle 0 false (status ≠ 0) (status ≠ 0)) (fun _ => rfl)
      fun status => ?_
    by_cases hstatus : status = 0
    · subst hstatus
      exact ih _
    · rw [if_pos hstatus, decide_eq_true hstatus]
      refine .bind_of (respondWithError_counts (by decide) _ _ _ _ _) ?_
      rintro _ _ rfl
      exact .ret (.inr rfl)

theorem updateVSAMDatasetWithJSON_counts (recordArray : List JsonItem) (dsn : Text)
    (username : UserName) :
    BaseCounts creates .start (updateVSAMDatasetWithJSON recordArray dsn username)
      fun _ t => t.Answered ∨ t.Doubled := by
  refine uncounted_bind rfl fun rest => .bind_of ((lookupACB_uncounted _).counts _) ?_
  rintro found _ rfl
  refine uncounted_bind rfl fun maxRecordLength => ?_
  split
  · exact (refuses (by decide) _).mono fun _ _ ht => .inl (.inr ht)
  · refine .bind_of (putRecords_counts _ _ _) ?_
    rintro recordsWritten _ (rfl | rfl)
    · exact baseCounts_call fun _ t ht => .inl (.inl (Option.some.inj ht).symm)
    · exact baseCounts_call fun _ t ht => .inr (Option.some.inj ht).symm

theorem serveVSAMDatasetContents_counts (request : VsamRequest) :
    BaseCounts false .start (serveVSAMDatasetContents request)
      fun _ t => t.Ended ∨ t.Doubled := by
  unfold serveVSAMDatasetContents
  cases request.method with
  | methodGET =>
    exact (respondWithVSAMDataset_counts _ _ _).mono fun _ _ ht => .inl (.inl ht)
  | methodPOST =>
    have refused : ∀ {status : Nat} (msg : Message), 300 ≤ status →
        BaseCounts false .start (respondWithError status msg) fun _ t => t.Ended ∨ t.Doubled :=
      fun msg hstatus => (refuses hstatus msg).mono fun _ _ ht => .inl (.inl (.inr ht))
    refine .same (fun _ => rfl) fun convertedBody => ?_
    cases convertedBody with
    | none => exact refused _ (by decide)
    | some convertedBody =>
      refine .next (fun body => .idle 0 false false (body == .notObject))
        (fun _ => rfl) fun body => ?_
      cases body with
      | invalid => exact refused _ (by decide)
      | notObject => exact .ret (.inl (.inr ⟨false, rfl⟩))
      | object etag records =>
        exact (updateVSAMDatasetWithJSON_counts _ _ _).mono fun _ _ ht => ht.imp .inl id

end Zss.Datasets
