import Zss.Datasets.Creation
import Zss.Lib.Machine

/-!
# What a deletion holds

`deleteDatasetOrMember` allocates the data set, for a member opens it and obtains storage for the
name below the line. `resources` is the machine of what is held: a step of it acquires or gives back,
and there is none that gives back what is not held. Every deletion gives back all that it acquired,
once, unless the data set could not be opened or the storage not be had (`releasesAll_iff`): these two
ends leave the data set allocated.

## What is not established

That the data set or the member is gone afterwards: the calls are followed for what they hold, not
for what they do to the catalog.
-/

namespace Zss.Datasets

open Zss.Lib

/-! ## What is held -/

/-- The DD names that are allocated, those that are open, and the blocks below the line. -/
structure Held where
  allocated : List Text
  opened : List Text
  below : Nat
deriving DecidableEq

namespace Held

/-- Nothing is held. -/
def nothing : Held := ⟨[], [], 0⟩

/-- A DD name is unallocated, or it was tried. -/
def unallocate (held : Held) (ddName : Text) : Option Held :=
  if ddName ∈ held.allocated then some { held with allocated := held.allocated.erase ddName }
  else none

/-- What is held after a call. -/
def step (held : Held) : Event copyCalls → Option Held
  | ⟨.base (.dynallocAllocDataset ..), da⟩ =>
    some (if da.rc = .ok then { held with allocated := da.ddName :: held.allocated } else held)
  | ⟨.base (.dynallocUnallocDatasetByDDName ddName), _⟩ => held.unallocate ddName
  | ⟨.dynallocUnallocAndDelete ddName, _⟩ => held.unallocate ddName
  | ⟨.openSAM ddName, opened⟩ =>
    some (if opened then { held with opened := ddName :: held.opened } else held)
  | ⟨.closeSAM ddName, _⟩ =>
    if ddName ∈ held.opened then some { held with opened := held.opened.erase ddName } else none
  | ⟨.malloc24, obtained⟩ => some (if obtained then { held with below := held.below + 1 } else held)
  | ⟨.free24, _⟩ => if 0 < held.below then some { held with below := held.below - 1 } else none
  | _ => some held

end Held

/-- The machine of what is held. -/
def resources : Machine Held (Event copyCalls) := ⟨Held.step⟩

/-! ## What is deleted -/

/-- The data set was deleted with its allocation, or the member in it. -/
def Deleted (name : DatasetAndMember) (ddName : Text) (events : List (Event copyCalls)) : Prop :=
  if isDamemberEmpty name.memberName then
    ∃ da, da.rc = .ok ∧ ⟨.dynallocUnallocAndDelete ddName, da⟩ ∈ events
  else ⟨.bpamDeleteMember ddName name.memberName, (0 : Int)⟩ ∈ events

/-- The data set that the path names was allocated, and deleted with its DD name, or the member. -/
def DeletedNamed (absolutePath : Text) (events : List (Event copyCalls)) : Prop :=
  ∃ da : Dynalloc, da.rc = .ok ∧
    ⟨.base (.dynallocAllocDataset (extractDatasetAndMemberName absolutePath).dsn
      (List.replicate 8 ' ') "DYNALLOC_DISP_OLD"), da⟩ ∈ events ∧
    Deleted (extractDatasetAndMemberName absolutePath) da.ddName events

/-- A deletion gives back what it acquired, each exactly once and while it is held, and returns zero
only where it deleted what the path names. -/
structure ReleasesAll (absolutePath : Text) (events : List (Event copyCalls)) (rc : Int) : Prop where
  released : resources.run Held.nothing events = some Held.nothing
  deleted : rc = 0 → DeletedNamed absolutePath events

/-- The data set could not be opened, or there was no storage below the line. -/
def failsToAcquire : Event copyCalls → Bool
  | ⟨.openSAM _, opened⟩ => !opened
  | ⟨.malloc24, obtained⟩ => !obtained
  | _ => false

def Acquires (events : List (Event copyCalls)) : Prop := ∀ e ∈ events, failsToAcquire e = false

/-! ## The parts of a deletion -/

theorem acquires_nil : Acquires [] := fun _ he => nomatch he

theorem acquires_cons {e : Event copyCalls} {events : List (Event copyCalls)}
    (h : failsToAcquire e = false) (hevents : Acquires events) : Acquires (e :: events) :=
  List.forall_mem_cons.mpr ⟨h, hevents⟩

/-- A part that prints its message and returns. -/
def Prints (rc : Int) (p : CopyHandler Deletion) : Prop :=
  p.Ensures (fun _ => True) fun events deletion =>
    (∃ message, events = [⟨.sprintf .responseMessage 100 message, ()⟩]) ∧ deletion.rc = rc

theorem printDeletion_prints (rc : Int) (responseCode : Nat) (responseMessage : Message) :
    Prints rc (printDeletion rc responseCode responseMessage) :=
  Program.Ensures.ask_bind fun _ _ => .ret ⟨⟨responseMessage, rfl⟩, rfl⟩

theorem printDynallocDeletion_prints (rc : Int) (da : Dynalloc) (name : DatasetAndMember) :
    Prints rc (printDynallocDeletion rc da name) :=
  printDeletion_prints rc _ _

/-- A part of a deletion that is entered with something held gives it all back, exactly if nothing
fails to be acquired in it, and has deleted where it returns zero. -/
def GivesBack (held : Held) (p : CopyHandler Deletion)
    (deleted : List (Event copyCalls) → Prop) : Prop :=
  p.Ensures (fun _ => True) fun events deletion =>
    (resources.run held events = some Held.nothing ↔ Acquires events) ∧
      (deletion.rc = 0 → deleted events)

/-- A part that ends with the data set still allocated. -/
def Abandons (ddName : Text) (held : Held) (p : CopyHandler Deletion) : Prop :=
  p.Ensures (fun _ => True) fun events deletion =>
    resources.run held events = some ⟨[ddName], [], 0⟩ ∧ deletion.rc ≠ 0

variable {held : Held} {name : DatasetAndMember} {absolutePath ddName : Text}
  {allocated opened : List Text} {below : Nat} {deleted : List (Event copyCalls) → Prop}

variable {rc : Int} {p : CopyHandler Deletion}

theorem Prints.givesBack (h : Prints rc p) (hdeleted : rc = 0 → ∀ events, deleted events) :
    GivesBack Held.nothing p deleted := by
  refine h.mono ?_
  rintro events deletion ⟨⟨message, rfl⟩, hrc⟩
  exact ⟨iff_of_true rfl (acquires_cons rfl acquires_nil), fun hzero =>
    hdeleted (hrc.symm.trans hzero) _⟩

/-- A call, then a part that gives back what is held after it, or abandons it where the call failed
to acquire. -/
theorem GivesBack.ask_bind (ddName : Text) {c : CopyCall} {k : c.Answer → CopyHandler Deletion}
    (h : ∀ answer, ∃ next, resources.step held ⟨c, answer⟩ = some next ∧
      (failsToAcquire ⟨c, answer⟩ = false ∧
          GivesBack next (k answer) (fun events => deleted (⟨c, answer⟩ :: events)) ∨
        failsToAcquire ⟨c, answer⟩ = true ∧ Abandons ddName next (k answer))) :
    GivesBack held (copyCall c >>= k) deleted := by
  refine Program.Ensures.ask_bind fun answer _ => ?_
  obtain ⟨next, hstep, ⟨hacquires, hrest⟩ | ⟨hfails, hrest⟩⟩ := h answer
  · refine hrest.mono fun events deletion ⟨hrun, hdeleted⟩ => ⟨?_, hdeleted⟩
    rw [Machine.run_cons, hstep, Option.bind_some, hrun]
    exact ⟨acquires_cons hacquires, fun hall => fun e he => hall e (List.mem_cons_of_mem _ he)⟩
  · refine hrest.mono fun events deletion ⟨hrun, hrc⟩ => ⟨?_, fun hzero => absurd hzero hrc⟩
    rw [Machine.run_cons, hstep, Option.bind_some, hrun]
    refine iff_of_false (by simp [Held.nothing]) fun hall => ?_
    rw [hall _ (List.mem_cons_self ..)] at hfails
    cases hfails

/-- A call that does not acquire. -/
theorem GivesBack.then {c : CopyCall} {k : c.Answer → CopyHandler Deletion} {next : Held}
    (hstep : ∀ answer, resources.step held ⟨c, answer⟩ = some next)
    (hacquires : ∀ answer, failsToAcquire ⟨c, answer⟩ = false)
    (hrest : ∀ answer, GivesBack next (k answer) fun events => deleted (⟨c, answer⟩ :: events)) :
    GivesBack held (copyCall c >>= k) deleted :=
  .ask_bind [] fun answer =>
    ⟨next, hstep answer, .inl ⟨hacquires answer, hrest answer⟩⟩

/-- Printing does nothing to what is held. -/
theorem run_sprintf (message : Message) (events : List (Event copyCalls)) :
    resources.run held (⟨.sprintf .responseMessage 100 message, ()⟩ :: events) =
      resources.run held events := rfl

theorem unallocate_one :
    Held.unallocate ⟨[ddName], opened, below⟩ ddName = some ⟨[], opened, below⟩ := by
  simp [Held.unallocate]

theorem close_one (answer : Unit) :
    resources.step ⟨allocated, [ddName], below⟩ ⟨.closeSAM ddName, answer⟩ =
      some ⟨allocated, [], below⟩ := by
  simp [resources, Held.step]

theorem deleteDataset_givesBack : GivesBack ⟨[ddName], [], 0⟩ (deleteDataset name absolutePath ddName)
    fun events => ∃ da, da.rc = .ok ∧ ⟨.dynallocUnallocAndDelete ddName, da⟩ ∈ events := by
  refine .then (fun _ => unallocate_one) (fun _ => rfl) fun da => ?_
  split
  next => exact (printDynallocDeletion_prints _ _ _).givesBack fun hzero => absurd hzero (by decide)
  next hok =>
    exact (printDeletion_prints _ _ _).givesBack fun _ events =>
      ⟨da, not_not.mp hok, List.mem_cons_self ..⟩

theorem stowMember_givesBack : GivesBack ⟨[ddName], [ddName], 1⟩ (stowMember name ddName)
    fun events => ⟨.bpamDeleteMember ddName name.memberName, (0 : Int)⟩ ∈ events := by
  refine .then (fun _ => rfl) (fun _ => rfl) fun stowReturnCode => ?_
  refine .then (fun _ => rfl) (fun _ => rfl) fun _ => ?_
  refine .then close_one (fun _ => rfl) fun _ => ?_
  refine .then (c := .base _) (fun _ => unallocate_one) (fun _ => rfl) fun da => ?_
  split
  next => exact (printDeletion_prints _ _ _).givesBack fun hzero => absurd hzero (by decide)
  next hstow =>
    obtain rfl := not_not.mp hstow
    split
    next => exact (printDynallocDeletion_prints _ _ _).givesBack fun hzero => absurd hzero (by decide)
    next => exact (printDeletion_prints _ _ _).givesBack fun _ events => List.mem_cons_self ..

/-- The message is printed, and the member's data set is left allocated. -/
theorem Prints.abandons (h : Prints rc p) (hrc : rc ≠ 0) : Abandons ddName ⟨[ddName], [], 0⟩ p := by
  refine h.mono ?_
  rintro events deletion ⟨⟨message, rfl⟩, rfl⟩
  exact ⟨rfl, hrc⟩

/-- Where there is no storage below the line, the data set is closed. -/
theorem abandons_closed (h : Prints rc p) (hrc : rc ≠ 0) :
    Abandons ddName ⟨[ddName], [ddName], 0⟩
      (p >>= fun failed => copyCall (.closeSAM ddName) >>= fun _ => pure failed) := by
  refine Program.Ensures.bind_of h ?_
  rintro events deletion ⟨⟨message, rfl⟩, rfl⟩
  refine Program.Ensures.ask_bind fun answer _ => .ret ⟨?_, hrc⟩
  rw [List.singleton_append, run_sprintf, Machine.run_cons, close_one]
  rfl

/-- Where the member does not exist, the data set is closed and unallocated. -/
theorem givesBack_missing (h : Prints rc p) (hrc : rc ≠ 0) :
    GivesBack ⟨[ddName], [ddName], 0⟩
      (p >>= fun failed => copyCall (.closeSAM ddName) >>= fun _ =>
        base (call (.dynallocUnallocDatasetByDDName ddName)) >>= fun _ => pure failed)
      deleted := by
  refine Program.Ensures.bind_of h ?_
  rintro events deletion ⟨⟨message, rfl⟩, rfl⟩
  refine Program.Ensures.ask_bind fun answer _ => ?_
  refine Program.Ensures.call fun da _ => .ret ⟨?_, fun hzero => absurd hzero hrc⟩
  refine iff_of_true ?_ ?_
  · rw [List.singleton_append, run_sprintf, Machine.run_cons, close_one, Option.bind_some,
      Machine.run_cons]
    exact congrArg (Option.bind · fun t => resources.run t []) unallocate_one
  · exact acquires_cons rfl (acquires_cons rfl (acquires_cons rfl acquires_nil))

theorem deleteMember_givesBack : GivesBack ⟨[ddName], [], 0⟩ (deleteMember name ddName)
    fun events => ⟨.bpamDeleteMember ddName name.memberName, (0 : Int)⟩ ∈ events := by
  refine .ask_bind ddName fun opened => ⟨_, rfl, ?_⟩
  cases opened with
  | false => exact .inr ⟨rfl, (printDeletion_prints ERROR_OPENING_DATASET _ _).abandons (by decide)⟩
  | true =>
    refine .inl ⟨rfl, ?_⟩
    rw [if_pos rfl, memberExists, Program.bind_assoc]
    refine .then (fun _ => rfl) (fun _ => rfl) fun members => ?_
    rw [Program.pure_eq, Program.ret_bind]
    split
    next =>
      refine .ask_bind ddName fun obtained => ⟨_, rfl, ?_⟩
      cases obtained with
      | true =>
        refine .inl ⟨rfl, stowMember_givesBack.mono fun events deletion ⟨hrun, hdeleted⟩ => ?_⟩
        refine ⟨hrun, fun hzero => ?_⟩
        exact List.mem_cons_of_mem _ (List.mem_cons_of_mem _ (List.mem_cons_of_mem _ (hdeleted hzero)))
      | false =>
        exact .inr ⟨rfl, abandons_closed (printDeletion_prints ERROR_ALLOCATING_DATASET _ _) (by decide)⟩
    next =>
      exact givesBack_missing (printDeletion_prints ERROR_DATASET_OR_MEMBER_NOT_EXIST _ _) (by decide)

/-! ## The whole deletion -/

theorem getCSIType_asks (absolutePath : Text) :
    (base (getCSIType absolutePath)).Ensures (fun _ => True) fun events _ =>
      ∃ dsn entries, events = [⟨.base (.returnEntries dsn), entries⟩] := by
  refine Program.Ensures.call fun entries _ => ?_
  match entries with
  | [] => exact .ret ⟨_, _, rfl⟩
  | [_] => exact .ret ⟨_, _, rfl⟩
  | _ :: _ :: _ => exact .ret ⟨_, _, rfl⟩

/-- The deletion once the data set is allocated. -/
theorem deleteAllocated_givesBack {da : Dynalloc} (hok : da.rc = .ok)
    (before : List (Event copyCalls))
    (halloc : ⟨.base (.dynallocAllocDataset (extractDatasetAndMemberName absolutePath).dsn
      (List.replicate 8 ' ') "DYNALLOC_DISP_OLD"), da⟩ ∈ before) :
    GivesBack ⟨[da.ddName], [], 0⟩
      (if isDamemberEmpty (extractDatasetAndMemberName absolutePath).memberName then
        deleteDataset (extractDatasetAndMemberName absolutePath) absolutePath da.ddName
      else deleteMember (extractDatasetAndMemberName absolutePath) da.ddName)
      fun events => DeletedNamed absolutePath (before ++ events) := by
  split
  next hempty =>
    refine deleteDataset_givesBack.mono fun events deletion ⟨hrun, hdeleted⟩ => ⟨hrun, fun hzero => ?_⟩
    obtain ⟨da', hok', hmem⟩ := hdeleted hzero
    refine ⟨da, hok, List.mem_append_left _ halloc, ?_⟩
    rw [Deleted, if_pos hempty]
    exact ⟨da', hok', List.mem_append_right _ hmem⟩
  next hmember =>
    refine deleteMember_givesBack.mono fun events deletion ⟨hrun, hdeleted⟩ => ⟨hrun, fun hzero => ?_⟩
    refine ⟨da, hok, List.mem_append_left _ halloc, ?_⟩
    rw [Deleted, if_neg hmember]
    exact List.mem_append_right _ (hdeleted hzero)

theorem deleteDatasetOrMember_givesBack (absolutePath : Text) :
    GivesBack Held.nothing (deleteDatasetOrMember absolutePath) (DeletedNamed absolutePath) := by
  refine Program.Ensures.bind_of (getCSIType_asks absolutePath) ?_
  rintro _ type ⟨dsn, entries, rfl⟩
  suffices h : GivesBack Held.nothing _ fun events =>
      DeletedNamed absolutePath (⟨.base (.returnEntries dsn), entries⟩ :: events) from
    h.mono fun events deletion ⟨hrun, hdeleted⟩ =>
      ⟨hrun.trans ⟨acquires_cons rfl, fun hall e he => hall e (List.mem_cons_of_mem _ he)⟩, hdeleted⟩
  cases type with
  | none => exact (printDeletion_prints _ _ _).givesBack fun hzero => absurd hzero (by decide)
  | some type =>
    dsimp only
    split
    next => exact (printDeletion_prints _ _ _).givesBack fun hzero => absurd hzero (by decide)
    next =>
      refine GivesBack.ask_bind [] (c := .base _) fun da => ⟨_, rfl, .inl ⟨rfl, ?_⟩⟩
      by_cases hok : da.rc = .ok
      · rw [if_pos hok, if_neg (not_not.mpr hok)]
        exact deleteAllocated_givesBack hok
          [⟨.base (.returnEntries dsn), entries⟩, ⟨.base (.dynallocAllocDataset _ _ _), da⟩]
          (List.mem_cons_of_mem _ (List.mem_cons_self ..))
      · rw [if_neg hok, if_pos hok]
        exact (printDynallocDeletion_prints _ _ _).givesBack fun hzero => absurd hzero (by decide)

/-- **Which deletions give back what they hold**: those in which the data set is opened, and storage
obtained, if it comes to that. -/
theorem releasesAll_iff (absolutePath : Text) (events : List (Event copyCalls)) (deletion : Deletion)
    (runs : (deleteDatasetOrMember absolutePath).Runs events deletion) :
    ReleasesAll absolutePath events deletion.rc ↔ Acquires events := by
  obtain ⟨hreleased, hdeleted⟩ :=
    (deleteDatasetOrMember_givesBack absolutePath).of_runs runs fun _ _ => trivial
  exact ⟨fun h => hreleased.mp h.released, fun h => ⟨hreleased.mpr h, hdeleted⟩⟩

/-- A member's path. -/
def deletedPath : Text := ['/', '/', apostrophe, 'A', '(', 'B', ')', apostrophe]

/-- A system with one partitioned data set and a member, in which a data set can be opened or not. -/
def deletionAnswers (opens : Bool) : (c : CopyCall) → c.Answer
  | .base (.returnEntries _) => [⟨'A', none⟩]
  | .base (.dynallocAllocDataset ..) => ⟨.ok, 0, 0, "SYS00001".toList⟩
  | .getPDSMembers _ => [padded 8 ['B']]
  | .openSAM _ => opens
  | .malloc24 => true
  | c => c.anyAnswer

/-- What is asked and answered when the member is deleted in that system. -/
def deletionEvents (opens : Bool) : List (Event copyCalls) :=
  ((deleteDatasetOrMember deletedPath).exec (deletionAnswers opens)).1

def deletionResult (opens : Bool) : Deletion :=
  ((deleteDatasetOrMember deletedPath).exec (deletionAnswers opens)).2

theorem deletionEvents_runs (opens : Bool) :
    (deleteDatasetOrMember deletedPath).Runs (deletionEvents opens) (deletionResult opens) := by
  have runs := Program.runs_exec (I := copyCalls) (deletionAnswers opens)
    (deleteDatasetOrMember deletedPath)
  exact runs

theorem releasesAll_opened :
    (deletionResult true).rc = 0 ∧
      (ReleasesAll deletedPath (deletionEvents true) 0 ↔ Acquires (deletionEvents true)) :=
  ⟨by decide, releasesAll_iff deletedPath _ _ (deletionEvents_runs true)⟩

/-- Where the data set cannot be opened, it stays allocated. -/
theorem unopened_stays_allocated :
    isDatasetPathValid deletedPath = true ∧
      (deleteDatasetOrMember deletedPath).Runs (deletionEvents false) (deletionResult false) ∧
      resources.run Held.nothing (deletionEvents false) = some ⟨["SYS00001".toList], [], 0⟩ ∧
      ¬ ReleasesAll deletedPath (deletionEvents false) (deletionResult false).rc := by
  have hrun : resources.run Held.nothing (deletionEvents false) =
      some ⟨["SYS00001".toList], [], 0⟩ := by decide
  refine ⟨by decide, deletionEvents_runs false, hrun, fun h => ?_⟩
  have := hrun.symm.trans h.released
  revert this
  decide

end Zss.Datasets
