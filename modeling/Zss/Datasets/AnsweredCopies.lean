import Zss.Datasets.Answered

/-!
# How often a copy responds

The services that make, delete and copy data sets, followed with the tally as those that read and update
them were. A copy has responded where a part of it fails, but for a record length of zero; a deletion
on the way sends nothing.
-/

namespace Zss.Datasets

open Zss.Lib Zss.Lib.Json

variable {creates : Bool}

/-! ## Steps -/

/-- What a step that is taken does. -/
theorem counted_step {s t : Tally} {e : Event copyCalls}
    (h : (counted creates).step s e = some t) : s.ignores e = false ∧
      t = { s.next e with slipped := s.slipped || s.slips creates e } := by
  obtain ⟨hfine, ht⟩ := Option.ite_none_right_eq_some.mp h
  exact ⟨hfine, (Option.some.inj ht).symm⟩

variable {status : Nat} {α : Type} {t : Tally}

/-- An error where nothing was sent before. -/
theorem copyRefuses (hstatus : 300 ≤ status) (msg : Message) :
    Counts creates .start (base (respondWithError status msg)) fun _ t => t.Refused :=
  (refuses hstatus msg).base

/-- An error, and then the end. -/
theorem copyRefuses_then (hstatus : 300 ≤ status) (msg : Message) (a : α) :
    Counts creates .start (base (respondWithError status msg) >>= fun _ => pure a)
      fun b t => b = a ∧ t.Refused :=
  .bind_of (copyRefuses hstatus msg) fun _ _ ht => .ret ⟨rfl, ht⟩

/-- An error after a failure. -/
theorem copyRefuses_failed (hstatus : 300 ≤ status) (msg : Message) (a : α) (failed : Bool) :
    Counts creates (.idle 0 false failed false)
      (base (respondWithError status msg) >>= fun _ => pure a) fun b t => b = a ∧ t.Refused := by
  refine .bind_of (respondWithError_counts hstatus msg _ _ _ _).base ?_
  rintro _ _ rfl
  exact .ret ⟨rfl, failed, rfl⟩

/-- A return code that tells whether a part has responded. -/
def Coded (rc : Int) (t : Tally) : Prop := (rc = 0 ∧ t = .start) ∨ (rc ≠ 0 ∧ t.Refused)

/-! ## Text units -/

/-- The call sets a text unit. -/
def CopyCall.setsTextUnit : CopyCall → Bool
  | .setTextUnit _ => true
  | _ => false

abbrev SetsUnits {α : Type} (p : CopyHandler α) : Prop :=
  p.Asks fun c : CopyCall => c.setsTextUnit = true

/-- The tally where text units were set; one of them may have been refused. -/
def Tally.setting (s : Tally) (refused : Bool) : Tally :=
  { s with failed := s.failed || refused, unset := s.unset || refused }

theorem SetsUnits.counts {p : CopyHandler α} (h : SetsUnits p) (s : Tally) :
    Counts creates s p fun _ t => ∃ refused, t = s.setting refused := by
  have keeps : ∀ (u : Tally) (c : CopyCall) (answer : c.Answer) (t : Tally), c.setsTextUnit = true →
      (∃ refused, u = s.setting refused) → (counted creates).step u ⟨c, answer⟩ = some t →
      ∃ refused, t = s.setting refused := by
    rintro _ c answer t hc ⟨refused, rfl⟩ ht
    cases c with
    | setTextUnit unit =>
      obtain ⟨-, rfl⟩ := counted_step ht
      exact ⟨refused || decide ((answer : Int) ≠ 0), by
        simp [Tally.next, Tally.slips, Tally.setting, Bool.or_assoc]⟩
    | _ => cases hc
  exact h.keeps keeps ⟨false, by simp [Tally.setting]⟩

theorem setTextUnits_setsUnits (rest : List TextUnit) (rc : Int) (units : List TextUnit) :
    SetsUnits (setTextUnits rest rc units) := by
  induction rest generalizing rc units with
  | nil => exact .ret _
  | cons unit rest ih => exact .ask_bind rfl fun _ => ih _ _

theorem setProperties_setsUnits (object : Properties) (parmDefn : Option ParmDefn)
    (rest : Properties) (rc : Int) (units : List TextUnit) :
    SetsUnits (setProperties object parmDefn rest rc units) := by
  induction rest generalizing parmDefn rc units with
  | nil => exact .ret _
  | cons property rest ih =>
    obtain ⟨propString, value⟩ := property
    refine .bind (setTextUnits_setsUnits _ _ _) fun (rc, units) => ?_
    dsimp only
    split
    · exact .ret _
    · exact ih _ _ _

theorem setWhileOk_setsUnits (rest units : List TextUnit) : SetsUnits (setWhileOk rest units) := by
  induction rest generalizing units with
  | nil => exact .ret _
  | cons unit rest ih =>
    refine .ask_bind rfl fun rc => ?_
    split
    · exact ih _
    · exact .ret _

theorem datasetUnits_setsUnits (dsn : Text) (json : Json) : SetsUnits (datasetUnits dsn json) := by
  unfold datasetUnits
  split
  · exact .ret _
  · refine .bind (setWhileOk_setsUnits _ _) fun (rc, units) => ?_
    dsimp only
    split
    · exact .bind (setTextUnits_setsUnits _ _ _) fun (rc, units) =>
        setProperties_setsUnits _ _ _ _ _
    · exact .ret _

/-! ## Making -/

/-- The tally after a try to allocate a new data set. -/
def Tally.tried (made : NewDataset) : Tally :=
  { Tally.start with
    making := made.returnCode = 0
    failed := made.returnCode ≠ 0 && made.reasonCode ≠ ddNameInUse }

/-- Only a try whose DD name was in use is followed by another. -/
theorem step_newDataset {making : Bool} (units : List TextUnit) (made : NewDataset) :
    (counted creates).step { Tally.start with making } ⟨.dynallocNewDataset units, made⟩ =
      some (.tried made) := rfl

/-- A try after a refused text unit is one that goes on regardless. -/
theorem newDataset_counts {making refused : Bool} {α : Type} {units : List TextUnit}
    {k : NewDataset → CopyHandler α} {post : α → Tally → Prop}
    (hk : ∀ made, Counts creates (.tried made) (k made) post) :
    Counts creates (Tally.setting { Tally.start with making } refused)
      (copyCall (.dynallocNewDataset units) >>= k) post := by
  cases refused with
  | true => exact .ask_bind fun made t _ ht => nomatch ht
  | false => exact .next _ (step_newDataset units) hk

theorem retryNewDataset_counts (left : Nat) (units : List TextUnit) (last : Nat × NewDataset) :
    Counts creates (.tried last.2) (retryNewDataset left units last)
      fun result t => t = .tried result.2 := by
  induction left generalizing units last with
  | zero => exact .ret rfl
  | succ left ih =>
    unfold retryNewDataset
    split
    next hinUse =>
      have htried : Tally.tried last.2 = { Tally.start with making := last.2.returnCode = 0 } := by
        simp [Tally.tried, hinUse, Tally.start, Tally.idle]
      rw [htried]
      refine .bind_of (SetsUnits.counts (.ask rfl) _) ?_
      rintro rc _ ⟨refused, rfl⟩
      exact newDataset_counts fun made => ih _ _
    next => exact .ret rfl

/-- What the allocation of a new data set comes to. -/
def Allocated (rc : Int) (t : Tally) : Prop :=
  (rc = 0 ∧ t = { Tally.start with making := true }) ∨
    (rc ≠ 0 ∧ ∃ failed unset, t = { Tally.idle 0 false failed false with unset })

theorem allocated_of_tried (made : NewDataset) : Allocated made.returnCode (.tried made) := by
  by_cases hzero : made.returnCode = 0
  · exact .inl ⟨hzero, by simp [Tally.tried, hzero, Tally.start, Tally.idle]⟩
  · refine .inr ⟨hzero, decide (made.reasonCode ≠ ddNameInUse), false, ?_⟩
    simp [Tally.tried, hzero, Tally.start, Tally.idle]

theorem allocateNewDataset_counts (returnCode : Int) (units : List TextUnit) (refused : Bool) :
    Counts creates (Tally.setting .start refused) (allocateNewDataset returnCode units)
      fun result t => Allocated result.2 t := by
  unfold allocateNewDataset
  split
  next hzero =>
    refine @newDataset_counts _ false refused _ _ _ _ fun made => ?_
    refine .bind_of (retryNewDataset_counts _ _ (0, made)) ?_
    rintro ⟨ddNumber, made⟩ _ rfl
    exact .ret (allocated_of_tried made)
  next hne => exact .ret (.inr ⟨hne, refused, refused, rfl⟩)

/-- An error after a new data set was not allocated. -/
theorem copyRefuses_unallocated (hstatus : 300 ≤ status) (msg : Message) (a : α)
    (failed unset : Bool) :
    Counts creates { Tally.idle 0 false failed false with unset }
      (base (respondWithError status msg) >>= fun _ => pure a) fun b t => b = a ∧ t.Refused := by
  have hnot : ¬ status < 300 := Nat.not_lt.mpr hstatus
  have hstep : (baseCounted creates).step { Tally.idle 0 false failed false with unset }
      ⟨.respond ⟨status, some msg, [], none⟩, ()⟩ = some (.idle 1 false failed false) := by
    simp [baseCounted, Tally.baseIgnores, Tally.baseNext, Tally.baseSlips, Tally.idle, zeroLength,
      Response.success, hnot]
  exact base_next (fun _ => .idle 1 false failed false) (fun _ => hstep)
    fun _ => .ret ⟨rfl, failed, rfl⟩

theorem makeMember_counts (absolutePath : Text) :
    Counts creates .start (makeMember absolutePath) Coded := by
  have refused : ∀ {status : Nat} {rc : Int} (msg : Message) (failed : Bool), 300 ≤ status →
      rc ≠ 0 → Counts creates (.idle 0 false failed false)
        (base (respondWithError status msg) >>= fun _ => pure rc) Coded :=
    fun msg failed hstatus hrc => (copyRefuses_failed hstatus msg _ failed).mono
      fun _ _ ⟨heq, ht⟩ => .inr ⟨heq ▸ hrc, ht⟩
  refine base_next (fun opened =>
    if opened then { Tally.start with creating := true } else .idle 0 false true false)
    (fun opened => by cases opened <;> rfl) fun opened => ?_
  cases opened with
  | false => exact refused _ _ (by decide) (by decide)
  | true =>
    refine base_next (fun closed => .idle 0 false (closed ≠ 0) false) (fun _ => rfl) fun closed => ?_
    split
    next hzero => exact .ret (.inl ⟨rfl, by rw [hzero]; rfl⟩)
    next => exact refused _ _ (by decide) (by decide)

theorem createDatasetMember_counts (dsn absolutePath : Text) :
    Counts creates .start (createDatasetMember dsn absolutePath) Coded := by
  have refused : ∀ {status : Nat} {rc : Int} (msg : Message), 300 ≤ status → rc ≠ 0 →
      Counts creates .start (base (respondWithError status msg) >>= fun _ => pure rc) Coded :=
    fun msg hstatus hrc => (copyRefuses_then hstatus msg _).mono
      fun _ _ ⟨heq, ht⟩ => .inr ⟨heq ▸ hrc, ht⟩
  refine .bind_of ((getDSCB_looks dsn).base.counts rfl) ?_
  rintro dscb _ rfl
  cases dscb with
  | none => exact refused _ (by decide) (by decide)
  | some dscb =>
    dsimp only
    split
    · exact refused _ (by decide) (by decide)
    · refine .same (fun _ => rfl) fun overwriteParam => ?_
      refine base_next (fun opened => if opened then .measured false else .start)
        (fun opened => by cases opened <;> rfl) fun opened => ?_
      cases opened with
      | false => exact makeMember_counts absolutePath
      | true =>
        refine base_next (fun _ => .start) (fun _ => rfl) fun closed => ?_
        split
        · exact refused _ (by decide) (by decide)
        · split
          · exact makeMember_counts absolutePath
          · exact refused _ (by decide) (by decide)

theorem createDataset_counts (absolutePath datasetAttributes : Text) :
    Counts creates .start (createDataset absolutePath datasetAttributes) Coded := by
  have refused : ∀ {status : Nat} {rc : Int} (msg : Message) (failed : Bool), 300 ≤ status →
      rc ≠ 0 → Counts creates (.idle 0 false failed false)
        (base (respondWithError status msg) >>= fun _ => pure rc) Coded :=
    fun msg failed hstatus hrc => (copyRefuses_failed hstatus msg _ failed).mono
      fun _ _ ⟨heq, ht⟩ => .inr ⟨heq ▸ hrc, ht⟩
  unfold createDataset
  dsimp only
  split
  · exact createDatasetMember_counts _ _
  · refine .same (fun _ => rfl) fun json => ?_
    cases json with
    | none => exact refused _ false (by decide) (by decide)
    | some json =>
      refine .bind_of ((datasetUnits_setsUnits _ json).counts _) ?_
      rintro ⟨rc, units⟩ _ ⟨unset, rfl⟩
      refine .bind_of (allocateNewDataset_counts rc units unset) ?_
      rintro ⟨ddNumber, returnCode⟩ t (⟨hzero, rfl⟩ | ⟨hne, failed, unset, rfl⟩)
      · dsimp only at hzero ⊢
        rw [if_neg (not_not.mpr hzero)]
        refine base_next (fun da => .idle 0 false (da.rc ≠ .ok) false) (fun _ => rfl) fun da => ?_
        split
        next => exact refused _ _ (by decide) (by decide)
        next hok => exact .ret (.inl ⟨rfl, by rw [not_not.mp hok]; rfl⟩)
      · rw [if_pos hne]
        exact (copyRefuses_unallocated (by decide) _ _ failed unset).mono
          fun _ _ ⟨heq, ht⟩ => .inr ⟨heq ▸ by decide, ht⟩

/-! ## Deleting -/

/-- The calls of a deletion, which send nothing. -/
def CopyCall.deletes : CopyCall → Bool
  | .base (.dynallocAllocDataset ..) => true
  | .base (.dynallocUnallocDatasetByDDName _) => true
  | .dynallocUnallocAndDelete _ => true
  | .openSAM _ => true
  | .closeSAM _ => true
  | .malloc24 => true
  | .free24 => true
  | .bpamDeleteMember .. => true
  | c => c.looksUp

abbrev Deletes {α : Type} (p : CopyHandler α) : Prop :=
  p.Asks fun c : CopyCall => c.deletes = true

theorem Looks.deletes {p : CopyHandler α} (h : Looks p) : Deletes p :=
  h.mono fun c hc => by
    unfold CopyCall.deletes
    split <;> first | rfl | exact hc

theorem deletes_base {β : Type} {c : Call} {k : c.Answer → CopyHandler β}
    (h : (CopyCall.base c).deletes = true) (hk : ∀ answer, Deletes (k answer)) :
    Deletes (base (call c) >>= k) :=
  .bind (Program.Asks.embed (P := fun c : Call => (CopyCall.base c).deletes = true) (.ask h) baseCalls
    fun _ hc => hc) hk

theorem deleteDatasetOrMember_deletes (absolutePath : Text) :
    Deletes (deleteDatasetOrMember absolutePath) := by
  have printed : ∀ rc code msg, Deletes (printDeletion rc code msg) :=
    fun rc code msg => (printDeletion_looks rc code msg).deletes
  refine .bind (getCSIType_looks absolutePath).base.deletes fun type => ?_
  cases type with
  | none => exact printed _ _ _
  | some type =>
    dsimp only
    split
    · exact printed _ _ _
    · refine deletes_base rfl fun da => ?_
      split
      · exact printed _ _ _
      · split
        · refine .ask_bind rfl fun da => ?_
          split
          · exact printed _ _ _
          · exact printed _ _ _
        · refine .ask_bind rfl fun opened => ?_
          split
          · refine .bind (memberExists_looks _ _).deletes fun found => ?_
            split
            · refine .ask_bind rfl fun obtained => ?_
              split
              · refine .ask_bind rfl fun stowReturnCode => .ask_bind rfl fun _ =>
                  .ask_bind rfl fun _ => deletes_base rfl fun da => ?_
                split
                · exact printed _ _ _
                · split
                  · exact printed _ _ _
                  · exact printed _ _ _
              · exact .bind (printed _ _ _) fun _ => .ask_bind rfl fun _ => .ret _
            · exact .bind (printed _ _ _) fun _ => .ask_bind rfl fun _ =>
                deletes_base rfl fun _ => .ret _
          · exact printed _ _ _

/-- A step of a deletion can fail, and that is all. -/
theorem step_deletes {c : CopyCall} (h : c.deletes = true) (responses : Nat)
    (succeeded failed slipped : Bool) {answer : c.Answer}
    (ht : (counted creates).step (.idle responses succeeded failed slipped) ⟨c, answer⟩ = some t) :
    ∃ failed', t = .idle responses succeeded failed' slipped := by
  by_cases hlooks : c.looksUp = true
  · rw [step_looks hlooks rfl] at ht
    exact ⟨failed, (Option.some.inj ht).symm⟩
  · obtain ⟨-, rfl⟩ := counted_step ht
    refine ⟨(Tally.next (.idle responses succeeded failed slipped) ⟨c, answer⟩).failed, ?_⟩
    cases c with
    | base c =>
      cases c with
      | dynallocAllocDataset | dynallocUnallocDatasetByDDName =>
        simp [Tally.next, Tally.baseNext, Tally.slips, Tally.baseSlips, Tally.idle]
      | returnEntries | obtainDSCB1 => exact absurd rfl hlooks
      | _ => cases h
    | dynallocUnallocAndDelete | openSAM | closeSAM | malloc24 | free24 | bpamDeleteMember =>
      simp [Tally.next, Tally.slips, Tally.idle]
    | listEntries | getPDSMembers | matchWithWildcards | stringAt | fill | sprintf =>
      exact absurd rfl hlooks
    | _ => cases h

theorem deleteDatasetOrMember_counts (absolutePath : Text) (responses : Nat)
    (succeeded failed slipped : Bool) :
    Counts creates (.idle responses succeeded failed slipped) (deleteDatasetOrMember absolutePath)
      fun _ t => ∃ failed', t = .idle responses succeeded failed' slipped := by
  have keeps : ∀ (s : Tally) (c : CopyCall) (answer : c.Answer) (t : Tally), c.deletes = true →
      (∃ failed', s = .idle responses succeeded failed' slipped) →
      (counted creates).step s ⟨c, answer⟩ = some t →
      ∃ failed', t = .idle responses succeeded failed' slipped := by
    rintro _ c answer t hc ⟨failed', rfl⟩ ht
    exact step_deletes hc _ _ _ _ ht
  exact (deleteDatasetOrMember_deletes absolutePath).keeps keeps ⟨failed, rfl⟩

/-- A deletion after a service has come to its end. -/
theorem ended_delete (h : t.Refused ∨ t.Lost) (absolutePath : Text) :
    Counts creates t (deleteDatasetOrMember absolutePath) fun _ u => u.Refused ∨ u.Lost := by
  rcases h with ⟨failed, rfl⟩ | ⟨failed, rfl⟩
  · exact (deleteDatasetOrMember_counts _ _ _ _ _).mono fun _ _ ht => .inl ht
  · exact (deleteDatasetOrMember_counts _ _ _ _ _).mono fun _ _ ht => .inr ht

/-- What a deletion that the service was asked for comes to. -/
def DeletionCoded (deletion : Deletion) (t : Tally) : Prop :=
  (0 ≤ deletion.rc ∧ t = .start) ∨
    (deletion.rc < 0 ∧ 300 ≤ deletion.responseCode ∧ ∃ failed, t = .idle 0 false failed false)

/-- A deletion that fails has a message, and a code for the response. -/
theorem printDeletion_coded {rc : Int} {responseCode : Nat} (hrc : rc < 0)
    (hcode : 300 ≤ responseCode) (msg : Message) (failed : Bool) :
    Counts creates (.idle 0 false failed false) (printDeletion rc responseCode msg)
      DeletionCoded :=
  looks_bind rfl rfl fun _ => .ret (.inr ⟨hrc, hcode, failed, rfl⟩)

theorem printDynallocDeletion_coded {rc : Int} (hrc : rc < 0) (da : Dynalloc)
    (name : DatasetAndMember) (failed : Bool) :
    Counts creates (.idle 0 false failed false) (printDynallocDeletion rc da name) DeletionCoded :=
  printDeletion_coded hrc (getDYNALLOCErrorCode_le da name ['r']) _ _

/-- What is left to do after a message was printed changes nothing. -/
theorem DeletionCoded.then {deletion : Deletion} (h : DeletionCoded deletion t)
    {p : CopyHandler Deletion}
    (hp : ∀ responses succeeded failed slipped,
      Counts creates (.idle responses succeeded failed slipped) p fun deletion' u =>
        deletion' = deletion ∧ u = .idle responses succeeded failed slipped) :
    Counts creates t p DeletionCoded := by
  obtain ⟨failed, rfl⟩ : ∃ failed, t = .idle 0 false failed false := by
    rcases h with ⟨-, rfl⟩ | ⟨-, -, failed, rfl⟩
    · exact ⟨false, rfl⟩
    · exact ⟨failed, rfl⟩
  exact (hp _ _ _ _).mono fun _ _ ⟨heq, ht⟩ => heq ▸ ht ▸ h

theorem step_uncalled {c : CopyCall} (h : (∃ ddName, c = .openSAM ddName) ∨
      (∃ ddName, c = .closeSAM ddName) ∨ c = .malloc24 ∨ c = .free24) (s : Tally)
    (answer : c.Answer) : (counted creates).step s ⟨c, answer⟩ = some s := by
  have same : some { s with slipped := s.slipped || false } = some s := by rw [Bool.or_false]
  rcases h with ⟨ddName, rfl⟩ | ⟨ddName, rfl⟩ | rfl | rfl <;> exact same

theorem stowMember_counts (name : DatasetAndMember) (ddName : Text) :
    Counts creates .start (stowMember name ddName) DeletionCoded := by
  refine .next (fun rc => .idle 0 false (rc ≠ 0) false) (fun _ => rfl) fun stowReturnCode => ?_
  refine .same (step_uncalled (.inr (.inr (.inr rfl))) _) fun _ => ?_
  refine .same (step_uncalled (.inr (.inl ⟨ddName, rfl⟩)) _) fun _ => ?_
  refine base_same (step_unalloc_idle 0 false _ false ddName) fun da => ?_
  split
  next => exact printDeletion_coded (by decide) (by decide) _ _
  next hzero =>
    split
    · exact printDynallocDeletion_coded (by decide) da name _
    · refine looks_bind rfl rfl fun _ => .ret (.inl ⟨Int.le_refl 0, ?_⟩)
      rw [not_not.mp hzero]
      rfl

theorem deleteMember_counts (name : DatasetAndMember) (ddName : Text) :
    Counts creates .start (deleteMember name ddName) DeletionCoded := by
  refine .same (step_uncalled (.inl ⟨ddName, rfl⟩) _) fun opened => ?_
  split
  · refine .bind_of ((memberExists_looks _ _).counts rfl) ?_
    rintro found _ rfl
    split
    · refine .same (step_uncalled (.inr (.inr (.inl rfl))) _) fun obtained => ?_
      split
      · exact stowMember_counts name ddName
      · refine .bind_of (printDeletion_coded (by decide) (by decide) _ false) fun failed t ht => ?_
        exact ht.then fun _ _ _ _ =>
          .same (step_uncalled (.inr (.inl ⟨ddName, rfl⟩)) _) fun _ => .ret ⟨rfl, rfl⟩
    · refine .bind_of (printDeletion_coded (by decide) (by decide) _ false) fun failed t ht => ?_
      refine ht.then fun _ _ _ _ =>
        .same (step_uncalled (.inr (.inl ⟨ddName, rfl⟩)) _) fun _ => ?_
      exact base_same (step_unalloc_idle _ _ _ _ ddName) fun _ => .ret ⟨rfl, rfl⟩
  · exact printDeletion_coded (by decide) (by decide) _ false

theorem deleteDatasetOrMember_coded (absolutePath : Text) :
    Counts creates .start (deleteDatasetOrMember absolutePath) DeletionCoded := by
  refine .bind_of ((getCSIType_looks absolutePath).base.counts rfl) ?_
  rintro type _ rfl
  cases type with
  | none => exact printDeletion_coded (by decide) (by decide) _ false
  | some type =>
    dsimp only
    split
    · exact printDeletion_coded (by decide) (by decide) _ false
    · refine base_next _ (step_alloc_start _ _ _) fun da => ?_
      by_cases hok : da.rc = .ok
      · rw [if_neg (not_not.mpr hok), hok]
        split
        · refine .next (fun da => .idle 0 false (da.rc ≠ .ok) false) (fun _ => rfl) fun da' => ?_
          split
          next => exact printDynallocDeletion_coded (by decide) da' _ _
          next hok' =>
            refine looks_bind rfl rfl fun _ => .ret (.inl ⟨Int.le_refl 0, ?_⟩)
            rw [not_not.mp hok']
            rfl
        · exact deleteMember_counts _ _
      · rw [if_pos hok]
        exact printDynallocDeletion_coded (by decide) da _ _

theorem deleteDatasetFromRequest_counts (absolutePath : Text) :
    Counts creates .start (deleteDatasetFromRequest absolutePath) fun _ t => t.Answered := by
  unfold deleteDatasetFromRequest
  split
  · exact (copyRefuses (by decide) _).mono fun _ _ ht => .inr ht
  · refine .bind_of (deleteDatasetOrMember_coded absolutePath) fun deletion t ht => ?_
    rcases ht with ⟨hrc, rfl⟩ | ⟨hrc, hcode, failed, rfl⟩
    · rw [if_pos hrc]
      exact BaseCounts.base (baseCounts_call fun _ _ ht => .inl (Option.some.inj ht).symm)
    · rw [if_neg (Int.not_le.mpr hrc)]
      exact (respondWithError_counts hcode _ _ _ _ _).base.mono fun _ _ ht => .inr ⟨failed, ht⟩

/-! ## Copying -/

/-- The tally while the target of a copy is open. -/
def Tally.copying (path : Text) (copy : CopyPhase) (failed : Bool) : Tally :=
  { Tally.idle 0 false failed false with written := [path], copy }

/-- A call that is not counted, then what follows. -/
theorem copyUncounted_bind {s : Tally} {c : Call} {k : c.Answer → CopyHandler α}
    {post : α → Tally → Prop} (h : c.uncounted = true)
    (hk : ∀ answer, Counts creates s (k answer) post) :
    Counts creates s (base (call c) >>= k) post :=
  base_same (step_uncounted h s) hk

/-- The format of a target is read from storage that was given back. -/
theorem recordInfoOf_recordFormat (metadata : Json) :
    (recordInfoOf metadata).recordFormat.inUse = false := by
  unfold recordInfoOf
  split
  next dataset _ => cases (dataset.getObject "recfm").getString "recordLength" <;> rfl
  next => rfl

theorem getTargetDsnRecordInfo_counts {s : Tally} (hs : s.calm = true) (targetDataset : Text) :
    Counts creates s (getTargetDsnRecordInfo targetDataset) fun info t =>
      t = s ∧ info.recordFormat.inUse = false := by
  refine .bind_of ((getDatasetMetadata_looks _ _ _ _ _).counts hs) ?_
  rintro metadata _ rfl
  exact .ret ⟨rfl, recordInfoOf_recordFormat metadata⟩

/-- The tally once a record of a copy was written, whole or short. -/
def Tally.wrote (path : Text) (whole : Bool) : Tally :=
  if whole then .copying path .copying false else .copying path .short true

theorem copyWrite_counts (path : Text) (buffer : Bytes) :
    Counts creates (.copying path .copying false) (base (call (.fwrite path buffer)))
      fun written t => t = .wrote path (written.count = buffer.length) := by
  refine BaseCounts.base (baseCounts_call fun written t ht => ?_)
  obtain ⟨hfine, rfl⟩ := baseCounted_step ht
  by_cases hcount : written.count = buffer.length
  · have herror : written.error = false := by
      simpa [Tally.baseIgnores, Tally.copying, Tally.idle, hcount] using hfine
    simp [Tally.baseNext, Tally.baseSlips, Tally.wrote, Tally.copying, Tally.idle, zeroLength, hcount,
      herror]
  · simp [Tally.baseNext, Tally.baseSlips, Tally.wrote, Tally.copying, Tally.idle, zeroLength, hcount]

/-- A write that is taken was whole. One that was short has the copy given up, where the format of the
target is not found to be variable. -/
theorem writeAccepted_counts {info : RecordInfo} (hformat : info.recordFormat.inUse = false)
    (path : Text) (buffer : Bytes) (written : Written) :
    Counts creates (.wrote path (written.count = buffer.length)) (writeAccepted info buffer written)
      fun accepted t =>
        t = if accepted then .copying path .copying false else .copying path .abandoned true := by
  unfold writeAccepted
  split
  next hcount => exact .ret (by simp [Tally.wrote, hcount])
  next hcount =>
    have asked : readString info.recordFormat = copyCall (.stringAt info.recordFormat) := by
      cases hf : info.recordFormat with
      | live text => rw [hf] at hformat; cases hformat
      | _ => rfl
    rw [equalsText, asked, decide_eq_false hcount]
    refine .ask_bind fun (text : Text) t _ ht => .ret ?_
    obtain ⟨hfine, rfl⟩ := counted_step ht
    have htext : text ≠ ['V'] := by
      simpa [Tally.ignores, Tally.wrote, Tally.copying, Tally.idle] using hfine
    simp [Tally.next, Tally.slips, Tally.wrote, Tally.copying, Tally.idle, htext]

/-- What the loop of a copy comes to: it has copied, or is to be given up. -/
def LoopCoded (path : Text) (result : LoopEnd) (t : Tally) : Prop :=
  ((∃ recordsWritten rcEtag digested, result = .copied recordsWritten rcEtag digested) ∧
      t = .copying path .copying false) ∨
    ((result = .writeError ∨ result = .readError) ∧ ∃ failed, t = .copying path .abandoned failed)

/-- The loop over records that are read without an error. -/
theorem copyReads_counts {info : RecordInfo} (hformat : info.recordFormat.inUse = false)
    (targetDataset : Text) (reads : List Read) (hreads : reads.any Read.error = false)
    (recordsWritten rcEtag : Int) (digested : Bytes) :
    Counts creates (.copying targetDataset .copying false)
      (copyReads info targetDataset reads recordsWritten rcEtag digested)
      (LoopCoded targetDataset) := by
  induction reads generalizing recordsWritten rcEtag digested with
  | nil => exact .ret (.inl ⟨⟨_, _, _, rfl⟩, rfl⟩)
  | cons read reads ih =>
    rw [List.any_cons, Bool.or_eq_false_iff] at hreads
    refine looks_bind rfl rfl fun _ => ?_
    split
    next hread =>
      refine .bind_of ((padRecord_looks info read.bytes).counts rfl) ?_
      rintro buffer _ rfl
      refine .bind_of (copyWrite_counts _ _) ?_
      rintro written _ rfl
      refine .bind_of (writeAccepted_counts hformat _ _ _) ?_
      rintro accepted _ rfl
      cases accepted with
      | true =>
        simp only [↓reduceIte]
        split
        · exact copyUncounted_bind rfl fun _ => ih hreads.2 _ _ _
        · exact ih hreads.2 _ _ _
      | false => exact .ret (.inr ⟨.inl rfl, true, rfl⟩)
    next =>
      rw [if_neg (by rw [hreads.1]; exact Bool.false_ne_true)]
      exact ih hreads.2 _ _ _

/-- What is written of a copy that is to be given up does not matter. -/
theorem abandonedWrite_counts (path : Text) (buffer : Bytes) (failed : Bool) :
    Counts creates (.copying path .abandoned failed) (base (call (.fwrite path buffer)))
      fun _ t => ∃ failed, t = .copying path .abandoned failed := by
  refine BaseCounts.base (baseCounts_call fun written t ht => ?_)
  obtain ⟨-, rfl⟩ := baseCounted_step ht
  exact ⟨failed || written.count ≠ buffer.length || written.error, by
    simp [Tally.baseNext, Tally.baseSlips, Tally.copying, Tally.idle, zeroLength]⟩

/-- The loop over records one of which is read with an error. -/
theorem abandonedReads_counts (info : RecordInfo) (targetDataset : Text) (reads : List Read)
    (hreads : reads.any Read.error = true) (recordsWritten rcEtag : Int) (digested : Bytes)
    (failed : Bool) :
    Counts creates (.copying targetDataset .abandoned failed)
      (copyReads info targetDataset reads recordsWritten rcEtag digested)
      (LoopCoded targetDataset) := by
  induction reads generalizing recordsWritten rcEtag digested failed with
  | nil => cases hreads
  | cons read reads ih =>
    refine looks_bind rfl rfl fun _ => ?_
    split
    next hread =>
      rw [List.any_cons, hread.2, Bool.false_or] at hreads
      refine .bind_of ((padRecord_looks info read.bytes).counts rfl) ?_
      rintro buffer _ rfl
      refine .bind_of (abandonedWrite_counts _ _ _) ?_
      rintro written _ ⟨failed, rfl⟩
      refine .bind_of ((writeAccepted_looks info buffer written).counts rfl) ?_
      rintro accepted _ rfl
      split
      · split
        · exact copyUncounted_bind rfl fun _ => ih hreads _ _ _ _
        · exact ih hreads _ _ _ _
      · exact .ret (.inr ⟨.inl rfl, failed, rfl⟩)
    next =>
      split
      · exact .ret (.inr ⟨.inr rfl, failed, rfl⟩)
      next herror =>
        rw [List.any_cons, Bool.eq_false_iff.mpr herror, Bool.false_or] at hreads
        exact ih hreads _ _ _ _

/-- A file is closed on the way out of a copy. Of a copy that went well the target is closed without an
error. -/
theorem copyClose_counts (path : Text) (written : List Text) (copy : CopyPhase) (failed : Bool) :
    Counts creates { Tally.idle 0 false failed false with written, copy }
      (base (call (.fclose path))) fun _ t => ∃ failed',
        (copy = .copying ∨ written = [] → failed' = failed) ∧
        t = { Tally.idle 0 false failed' false with
          written := written.filter (· ≠ path)
          copy := if written = [] ∨ written.contains path then .none else copy } := by
  refine BaseCounts.base (baseCounts_call fun rc t ht => ?_)
  obtain ⟨hfine, rfl⟩ := baseCounted_step ht
  refine ⟨failed || written.contains path && decide (rc ≠ 0), fun hcopy => ?_, ?_⟩
  · have hclosed : (written.contains path && decide (rc ≠ 0)) = false := by
      rcases hcopy with rfl | rfl
      · simpa [Tally.baseIgnores] using hfine
      · rfl
    rw [hclosed, Bool.or_false]
  · simp only [Tally.baseNext, Tally.idle, Bool.false_or, Tally.baseSlips, Bool.false_and,
      Bool.or_false]

/-- Both files of a copy are closed. -/
theorem closeBoth_counts (source target : Text) (copy : CopyPhase) (failed : Bool)
    {k : CopyHandler α} {post : α → Tally → Prop}
    (hk : ∀ failed', (copy = .copying → failed' = failed) →
      Counts creates (.idle 0 false failed' false) k post) :
    Counts creates (.copying target copy failed)
      (base (call (.fclose source)) >>= fun _ => base (call (.fclose target)) >>= fun _ => k)
      post := by
  refine .bind_of (copyClose_counts source [target] copy failed) ?_
  rintro _ _ ⟨failed₁, h₁, rfl⟩
  refine .bind_of (copyClose_counts target _ _ failed₁) ?_
  rintro _ _ ⟨failed₂, h₂, rfl⟩
  by_cases hsame : target = source
  · have hnone : [target].filter (· ≠ source) = [] := by simp [hsame]
    rw [hnone]
    exact hk failed₂ fun hcopy => (h₂ (.inr hnone)).trans (h₁ (.inl hcopy))
  · have hone : [target].filter (· ≠ source) = [target] := by simp [hsame]
    have hopen : ¬ ([target] = [] ∨ [target].contains source = true) := by
      simpa using Ne.symm hsame
    rw [if_neg hopen] at h₂ ⊢
    rw [hone]
    have hend : ({ Tally.idle 0 false failed₂ false with
        written := [target].filter (· ≠ target)
        copy := if [target] = [] ∨ [target].contains target = true then .none else copy } : Tally) =
          .idle 0 false failed₂ false := by simp [Tally.idle]
    rw [hend]
    exact hk failed₂ fun hcopy => (h₂ (.inl hcopy)).trans (h₁ (.inl hcopy))

/-- A part of a copy is done, or has come to an end with a negative return code. -/
def Pasted (result : CopyResult) (t : Tally) : Prop :=
  (0 ≤ result.rc ∧ t = .start) ∨ (result.rc < 0 ∧ (t.Refused ∨ t.Lost))

theorem finishCopy_counts (sourceDataset targetDataset : Text) (recordsWritten rcEtag : Int)
    (digested : Bytes) :
    Counts creates (.copying targetDataset .copying false)
      (finishCopy sourceDataset targetDataset recordsWritten rcEtag digested) Pasted := by
  refine .bind_of ((finishDigest_uncounted _ _).counts _).base ?_
  rintro finished _ rfl
  refine looks_bind rfl rfl fun _ => ?_
  refine .bind_of ((printEtag_uncounted finished).counts _).base ?_
  rintro etag _ rfl
  refine closeBoth_counts _ _ _ _ fun failed hfailed => ?_
  exact .ret (.inl ⟨Int.le_refl 0, by rw [hfailed rfl]; rfl⟩)

theorem abandonCopy_counts (sourceDataset targetDataset : Text) (msg : Message) (copy : CopyPhase)
    (failed : Bool) :
    Counts creates (.copying targetDataset copy failed)
      (abandonCopy sourceDataset targetDataset msg) Pasted := by
  refine closeBoth_counts _ _ _ _ fun failed _ => ?_
  refine .bind_of (respondWithError_counts (by decide) msg _ _ _ _).base ?_
  rintro _ _ rfl
  refine .bind_of (deleteDatasetOrMember_counts _ _ _ _ _) ?_
  rintro _ _ ⟨failed', rfl⟩
  exact .ret (.inr ⟨by decide, .inl ⟨failed', rfl⟩⟩)

theorem streamRecords_counts (sourceDataset : Text) (sourceRecordLen : Nat) (targetDataset : Text)
    (isTargetMember : Bool) :
    Counts creates (.copying targetDataset .target false)
      (streamRecords sourceDataset sourceRecordLen targetDataset isTargetMember) Pasted := by
  refine copyUncounted_bind rfl fun rcEtag => ?_
  refine .bind_of (getTargetDsnRecordInfo_counts rfl targetDataset) ?_
  rintro info _ ⟨rfl, hformat⟩
  split
  · exact abandonCopy_counts _ _ _ _ _
  · refine base_next (fun reads =>
      .copying targetDataset (if reads.any Read.error then .abandoned else .copying)
        (reads.any Read.error)) (fun _ => rfl) fun reads => ?_
    have looped : Counts creates
        (.copying targetDataset (if reads.any Read.error then .abandoned else .copying)
          (reads.any Read.error))
        (copyReads info targetDataset reads 0 rcEtag []) (LoopCoded targetDataset) := by
      cases hreads : reads.any Read.error with
      | true => exact abandonedReads_counts _ _ reads hreads _ _ _ _
      | false => exact copyReads_counts hformat _ reads hreads _ _ _
    refine .bind_of looped ?_
    rintro _ _ (⟨⟨recordsWritten, rcEtag, digested, rfl⟩, rfl⟩ | ⟨rfl | rfl, failed, rfl⟩)
    · exact finishCopy_counts _ _ _ _ _
    · exact abandonCopy_counts _ _ _ _ _
    · exact abandonCopy_counts _ _ _ _ _

theorem streamDatasetForCopyAndRespond_counts (sourceDataset : Text) (sourceRecordLen : Nat)
    (targetDataset : Text) (isTargetMember : Bool) :
    Counts creates .start (streamDatasetForCopyAndRespond sourceDataset sourceRecordLen targetDataset
      isTargetMember) Pasted := by
  refine base_next (fun opened => if opened then .reading else .start)
    (fun opened => by cases opened <;> rfl) fun opened => ?_
  cases opened with
  | true =>
    refine base_next (s := .reading) (fun opened =>
      if opened then .copying targetDataset .target false else .idle 0 false true false)
      (fun opened => by cases opened <;> rfl) fun opened => ?_
    cases opened with
    | true => exact streamRecords_counts _ _ _ _
    | false =>
      refine .bind_of (deleteDatasetOrMember_counts _ _ _ _ _) ?_
      rintro _ _ ⟨failed, rfl⟩
      refine .bind_of (respondWithError_counts (by decide) _ _ _ _ _).base ?_
      rintro _ _ rfl
      exact base_same (fun _ => by cases failed <;> rfl) fun _ =>
        .ret (.inr ⟨by decide, .inl ⟨failed, rfl⟩⟩)
  | false =>
    refine .bind_of (deleteDatasetOrMember_counts _ 0 false false false) ?_
    rintro _ _ ⟨failed, rfl⟩
    refine .bind_of (respondWithError_counts (by decide) _ _ _ _ _).base ?_
    rintro _ _ rfl
    exact .ret (.inr ⟨by decide, .inl ⟨failed, rfl⟩⟩)

theorem readWriteToDatasetAndRespond_counts (sourceDataset targetDataset : Text)
    (isTargetMember : Bool) :
    Counts creates .start
      (readWriteToDatasetAndRespond sourceDataset targetDataset isTargetMember) Pasted := by
  refine base_next _ (step_alloc_start _ _ _) fun da => ?_
  by_cases hok : da.rc = .ok
  · rw [if_neg (not_not.mpr hok), hok]
    refine .bind_of (getLreclOrRespondError_counts _ _).base fun lrecl t hlrecl => ?_
    split
    next hzero =>
      have hended : t.Refused ∨ t.Lost := hlrecl.elim (fun h => absurd hzero h.1) And.right
      obtain ⟨responses, succeeded, failed, slipped, rfl⟩ := (hlrecl.ended hzero).idle
      refine base_same (step_unalloc_idle _ _ _ _ _) fun _ => ?_
      exact .bind_of (ended_delete hended _) fun _ _ ht => .ret (.inr ⟨by decide, ht⟩)
    next hne =>
      rw [hlrecl.start hne]
      refine .bind_of (streamDatasetForCopyAndRespond_counts _ _ _ _) fun result t ht => ?_
      obtain ⟨responses, succeeded, failed, slipped, rfl⟩ : ∃ responses succeeded failed slipped,
          t = .idle responses succeeded failed slipped := by
        rcases ht with ⟨-, rfl⟩ | ⟨-, ⟨failed, rfl⟩ | ⟨failed, rfl⟩⟩ <;> exact ⟨_, _, _, _, rfl⟩
      exact base_same (step_unalloc_idle _ _ _ _ _) fun _ => .ret ht
  · rw [if_pos hok]
    refine .bind_of (deleteDatasetOrMember_counts _ _ _ _ _) ?_
    rintro _ _ ⟨failed, rfl⟩
    refine looks_bind rfl rfl fun _ => ?_
    refine .bind_of (respondWithError_counts (getDYNALLOCErrorCode_le da _ ['r']) _ _ _ _ _).base ?_
    rintro _ _ rfl
    exact .ret (.inr ⟨by decide, .inl ⟨failed, rfl⟩⟩)

theorem respondCopied_counts (result : CopyResult) (h : Pasted result t) :
    Counts creates t (respondCopied result) fun _ u => u.Ended := by
  unfold respondCopied
  rcases h with ⟨hrc, rfl⟩ | ⟨hrc, ht⟩
  · rw [if_pos hrc]
    refine .bind_of ((readString_looks result.etag).counts rfl) ?_
    rintro etag _ rfl
    exact BaseCounts.base (baseCounts_call fun _ _ ht => .inl (.inl (Option.some.inj ht).symm))
  · rw [if_neg (Int.not_le.mpr hrc)]
    exact .ret (ht.imp .inr id)

/-- A data set is made, and then something is pasted into it. -/
theorem created_bind {path attributes : Text} {a : α} {k : CopyHandler α}
    {post : α → Tally → Prop} (hrefused : ∀ t : Tally, t.Refused → post a t)
    (hk : Counts creates .start k post) :
    Counts creates .start (createDataset path attributes >>= fun rc =>
      if rc ≠ 0 then pure a else k) post := by
  refine .bind_of (createDataset_counts _ _) ?_
  rintro rc t (⟨rfl, rfl⟩ | ⟨hne, ht⟩)
  · exact hk
  · rw [if_pos hne]
    exact .ret (hrefused t ht)

theorem pasteAsDatasetMember_counts (sourceDataset targetDataset : Text) :
    Counts creates .start (pasteAsDatasetMember sourceDataset targetDataset) fun _ t => t.Ended :=
  created_bind (fun _ ht => .inl (.inr ht)) <|
    .bind_of (readWriteToDatasetAndRespond_counts _ _ _) fun result _ ht => respondCopied_counts result ht

theorem pasteMembers_counts (sourceDataset targetDataset : Text) (members : List Json) :
    Counts creates .start (pasteMembers sourceDataset targetDataset members) fun done t =>
      (done = true ∧ t = .start) ∨ (done = false ∧ (t.Refused ∨ t.Lost)) := by
  induction members with
  | nil => exact .ret (.inl ⟨rfl, rfl⟩)
  | cons memberObject members ih =>
    unfold pasteMembers
    cases memberObject.asObject with
    | none => exact ih
    | some properties =>
      refine .bind_of ((readString_looks _).counts rfl) ?_
      rintro memName _ rfl
      refine looks_bind rfl rfl fun _ => looks_bind rfl rfl fun _ => ?_
      refine created_bind (fun _ ht => .inr ⟨rfl, .inl ht⟩) ?_
      refine .bind_of (readWriteToDatasetAndRespond_counts _ _ _) ?_
      rintro result t (⟨hrc, rfl⟩ | ⟨hrc, ht⟩)
      · rw [if_neg (Int.not_lt.mpr hrc)]
        exact ih
      · rw [if_pos hrc]
        exact .ret (.inr ⟨rfl, ht⟩)

theorem pastePDSDirectory_counts {metadata : Json} (h : firstDataset metadata ≠ none)
    (sourceDataset targetDataset : Text) :
    Counts creates .start (pastePDSDirectory metadata sourceDataset targetDataset)
      fun _ t => t.Ended := by
  unfold pastePDSDirectory
  cases hfirst : firstDataset metadata with
  | none => exact absurd hfirst h
  | some dataset =>
    refine .bind_of (pasteMembers_counts _ _ _) ?_
    rintro done t (⟨rfl, rfl⟩ | ⟨rfl, ht⟩)
    · refine looks_bind rfl rfl fun _ => ?_
      exact BaseCounts.base (baseCounts_call fun _ _ ht => .inl (.inl (Option.some.inj ht).symm))
    · exact .ret (ht.imp .inr id)

theorem pasteAsDataset_counts {metadata : Json} (h : firstDataset metadata ≠ none)
    (attributes : CopyAttributes) (sourceDataset targetDataset : Text) :
    Counts creates .start (pasteAsDataset metadata attributes sourceDataset targetDataset)
      fun _ t => t.Ended := by
  refine created_bind (fun _ ht => .inl (.inr ht)) ?_
  split
  · split
    · exact pastePDSDirectory_counts h _ _
    · exact (copyRefuses (by decide) _).mono fun _ _ ht => .inl (.inr ht)
  · exact .bind_of (readWriteToDatasetAndRespond_counts _ _ _)
      fun result _ ht => respondCopied_counts result ht

/-- The attributes of a listing without data sets are an error. -/
theorem setAttrForDSCopyAndRespondIfError_counts (metadata : Json) (isSourceMember : Bool) :
    Counts creates .start (setAttrForDSCopyAndRespondIfError metadata isSourceMember)
      fun attributes t => (attributes.isPDS < 0 ∧ t.Refused) ∨
        (0 ≤ attributes.isPDS ∧ t = .start ∧ firstDataset metadata ≠ none) := by
  refine .bind_of ((equalsText_looks _ _).counts rfl) ?_
  rintro undefinedLength _ rfl
  split
  · exact (copyRefuses_then (by decide) _ _).mono fun _ _ ⟨heq, ht⟩ => .inl ⟨heq ▸ by decide, ht⟩
  · split
    · exact (copyRefuses_then (by decide) _ _).mono
        fun _ _ ⟨heq, ht⟩ => .inl ⟨heq ▸ by decide, ht⟩
    next horganization =>
      have hfirst : firstDataset metadata ≠ none := fun hnone => by
        rw [getDatasetAttributes, hnone] at horganization
        exact horganization rfl
      refine .bind_of ((equalsText_looks _ _).counts rfl) ?_
      rintro sequential _ rfl
      refine .bind_of ((printAttributes_looks _ _).counts rfl) ?_
      rintro text _ rfl
      refine .ret (.inr ⟨?_, rfl, hfirst⟩)
      dsimp only
      split <;> decide

/-- The existence answer, or an error. -/
theorem checkIfDatasetExistsAndRespond_counts (dataset : Text) (isMember : Bool) :
    Counts creates .start (checkIfDatasetExistsAndRespond dataset isMember)
      fun answer t => (answer < 0 ∧ t.Refused) ∨ (0 ≤ answer ∧ t = .start) := by
  unfold checkIfDatasetExistsAndRespond
  split
  · refine base_next (fun opened => if opened then .measured false else .start)
      (fun opened => by cases opened <;> rfl) fun opened => ?_
    cases opened with
    | false => exact .ret (.inr ⟨by decide, rfl⟩)
    | true =>
      refine base_next (fun _ => .start) (fun _ => rfl) fun closed => ?_
      split
      · exact (copyRefuses_then (by decide) _ _).mono
          fun _ _ ⟨heq, ht⟩ => .inl ⟨heq ▸ by decide, ht⟩
      · exact .ret (.inr ⟨by decide, rfl⟩)
  · refine .bind_of ((getDatasetMetadata_looks _ _ _ _ _).counts rfl) ?_
    rintro metadata _ rfl
    split
    · exact .ret (.inr ⟨by decide, rfl⟩)
    · exact .ret (.inr ⟨by decide, rfl⟩)

theorem copyToNew_counts (sourceDataset targetDataset : Text) :
    Counts creates .start (copyToNew sourceDataset targetDataset) fun _ t => t.Ended := by
  unfold copyToNew
  dsimp only
  refine .bind_of ((getDatasetMetadata_looks _ _ _ _ _).counts rfl) ?_
  rintro metadata _ rfl
  refine .bind_of (setAttrForDSCopyAndRespondIfError_counts metadata _) ?_
  rintro attributes t (⟨hnegative, ht⟩ | ⟨hrc, rfl, hfirst⟩)
  · rw [if_pos hnegative]
    exact .ret (.inl (.inr ht))
  · rw [if_neg (Int.not_lt.mpr hrc)]
    split
    · refine .bind_of (checkIfDatasetExistsAndRespond_counts _ _) ?_
      rintro answer t (⟨hnegative, ht⟩ | ⟨hanswer, rfl⟩)
      · rw [if_pos hnegative]
        exact .ret (.inl (.inr ht))
      · rw [if_neg (Int.not_lt.mpr hanswer)]
        split
        · exact (copyRefuses (by decide) _).mono fun _ _ ht => .inl (.inr ht)
        · exact pasteAsDatasetMember_counts _ _
    · exact pasteAsDataset_counts hfirst _ _ _

theorem copyValid_counts (sourceDataset targetDataset : Text) :
    Counts creates .start (copyValid sourceDataset targetDataset) fun _ t => t.Ended := by
  have refused : ∀ msg : Message, Counts creates .start
      (base (respondWithError HTTP_STATUS_BAD_REQUEST msg)) fun _ t => t.Ended :=
    fun msg => (copyRefuses (by decide) msg).mono fun _ _ ht => .inl (.inr ht)
  unfold copyValid
  dsimp only
  refine .bind_of ((getCSIType_looks sourceDataset).base.counts rfl) ?_
  rintro type _ rfl
  split
  · exact refused _
  · refine .bind_of (checkIfDatasetExistsAndRespond_counts _ _) ?_
    rintro srcDsnExists t (⟨hnegative, ht⟩ | ⟨hanswer, rfl⟩)
    · rw [if_pos hnegative]
      exact .ret (.inl (.inr ht))
    · rw [if_neg (Int.not_lt.mpr hanswer)]
      split
      · exact refused _
      · refine .bind_of (checkIfDatasetExistsAndRespond_counts _ _) ?_
        rintro tarDsnExists t (⟨hnegative, ht⟩ | ⟨hanswer, rfl⟩)
        · rw [if_pos hnegative]
          exact .ret (.inl (.inr ht))
        · rw [if_neg (Int.not_lt.mpr hanswer)]
          split
          · exact refused _
          · exact copyToNew_counts _ _

theorem copyDatasetAndRespond_counts (sourceDataset targetDataset : Option Text) :
    Counts creates .start (copyDatasetAndRespond sourceDataset targetDataset)
      fun _ t => t.Ended := by
  have refused : ∀ msg : Message, Counts creates .start
      (base (respondWithError HTTP_STATUS_BAD_REQUEST msg)) fun _ t => t.Ended :=
    fun msg => (copyRefuses (by decide) msg).mono fun _ _ ht => .inl (.inr ht)
  unfold copyDatasetAndRespond
  dsimp only
  split
  · exact refused _
  · split
    · exact refused _
    · split
      · exact refused _
      · split
        · exact refused _
        · exact copyValid_counts _ _

/-! ## The service that makes -/

theorem createDatasetAndRespond_counts (absolutePath : Text) (contentBody : Bytes) :
    Counts true .start (createDatasetAndRespond absolutePath contentBody) fun _ t => t.Ended := by
  unfold createDatasetAndRespond
  split
  · exact (copyRefuses (by decide) _).mono fun _ _ ht => .inl (.inr ht)
  · refine base_next (fun converted : Option Bytes => .idle 0 false false converted.isNone)
      (fun _ => rfl) fun converted => ?_
    cases converted with
    | none => exact .ret (.inr ⟨false, rfl⟩)
    | some convertedBody =>
      refine .bind_of (createDataset_counts _ _) ?_
      rintro rc t (⟨rfl, rfl⟩ | ⟨hne, ht⟩)
      · exact BaseCounts.base (baseCounts_call fun _ _ ht => .inl (.inl (Option.some.inj ht).symm))
      · rw [if_neg hne]
        exact .ret (.inl (.inr ht))

end Zss.Datasets
