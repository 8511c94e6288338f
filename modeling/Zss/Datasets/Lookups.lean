import Zss.Datasets.Services

/-!
# What only looks

The parts of the services that ask the catalog, the VTOC and the directories, read strings and print
into arrays, and do nothing else. Where these calls leave a world as it is, such a part does.
-/

namespace Zss.Datasets

open Zss.Lib Zss.Lib.Json

/-- The call asks what there is, reads a string, or prints into an array. -/
def CopyCall.looksUp : CopyCall → Bool
  | .base (.returnEntries _) => true
  | .base (.obtainDSCB1 ..) => true
  | .listEntries _ => true
  | .getPDSMembers _ => true
  | .matchWithWildcards .. => true
  | .stringAt _ => true
  | .fill .. => true
  | .sprintf .. => true
  | _ => false

/-- The program only looks. -/
abbrev Looks {α : Type} (p : CopyHandler α) : Prop :=
  p.Asks fun c : CopyCall => c.looksUp = true

/-- The same of a program of the services that do not copy. -/
abbrev BaseLooks {α : Type} (p : Handler α) : Prop :=
  p.Asks fun c : Call => (CopyCall.base c).looksUp = true

theorem BaseLooks.base {α : Type} {p : Handler α} (h : BaseLooks p) : Looks (base p) :=
  h.embed baseCalls fun _ hc => hc

/-- A call of the other services that looks, then what follows. -/
theorem looks_base {β : Type} {c : Call} {k : c.Answer → CopyHandler β}
    (h : (CopyCall.base c).looksUp = true) (hk : ∀ answer, Looks (k answer)) :
    Looks (Zss.Datasets.base (call c) >>= k) :=
  .bind (BaseLooks.base (.ask h)) hk

/-! ## The catalog and the VTOC -/

theorem getVolserForDataset_looks (dsn : Text) : BaseLooks (getVolserForDataset dsn) := by
  unfold getVolserForDataset
  split
  · exact .ret _
  · exact .ask_bind rfl fun _ => .ret _

theorem getDSCB_looks (dsn : Text) : BaseLooks (getDSCB dsn) := by
  refine .bind (getVolserForDataset_looks dsn) fun volser => ?_
  cases volser with
  | none => exact .ret _
  | some volser => exact .ask_bind rfl fun _ => .ret _

theorem getCSIType_looks (absolutePath : Text) : BaseLooks (getCSIType absolutePath) := by
  refine .ask_bind rfl fun entries => ?_
  split
  · exact .ret _
  · exact .ret _

theorem memberExists_looks (dsn memberName : Text) : Looks (memberExists dsn memberName) :=
  .ask_bind rfl fun _ => .ret _

/-! ## Strings and messages -/

theorem readString_looks (s : CString) : Looks (readString s) := by
  cases s with
  | live text => exact .ret _
  | absent | freed | unwritten => exact .ask rfl

theorem equalsText_looks (s : CString) (text : Text) : Looks (equalsText s text) :=
  .bind (readString_looks s) fun _ => .ret _

theorem printDeletion_looks (rc : Int) (responseCode : Nat) (responseMessage : Message) :
    Looks (printDeletion rc responseCode responseMessage) :=
  .ask_bind rfl fun _ => .ret _

/-! ## Metadata -/

theorem printDscbError_looks (name : Text) : Looks (printDscbError name) :=
  .ask_bind rfl fun _ => .ret _

theorem addDetailedDatasetMetadata_looks (name volser : Text) :
    Looks (addDetailedDatasetMetadata name volser) := by
  refine looks_base rfl fun dscb => ?_
  cases dscb with
  | none => exact printDscbError_looks name
  | some dscb => exact .ret _

theorem matchingMembers_looks (query : Text) (members : List Text) :
    Looks (matchingMembers query members) := by
  induction members with
  | nil => exact .ret _
  | cons memberName members ih => exact .ask_bind rfl fun _ => .bind ih fun _ => .ret _

theorem addMemberedDatasetMetadata_looks (name volser memberQuery : Text) (memberLength : Int) :
    Looks (addMemberedDatasetMetadata name volser memberQuery memberLength) := by
  refine looks_base rfl fun dscb => ?_
  cases dscb with
  | none => exact printDscbError_looks name
  | some dscb =>
    dsimp only
    split
    · exact .ret _
    · refine .ask_bind rfl fun members => ?_
      split
      · exact .ret _
      · exact .bind (matchingMembers_looks _ members) fun _ => .ret _

theorem entryMetadata_looks (name : DatasetAndMember) (path : Text)
    (detailArg listMembersArg : Option String) (entry : NamedEntry) :
    Looks (entryMetadata name path detailArg listMembersArg entry) := by
  have hdetails : Looks (entryDetails detailArg entry) := by
    unfold entryDetails
    split
    · exact addDetailedDatasetMetadata_looks ..
    · exact .ret _
  have hmembers : Looks (entryMembers name path listMembersArg entry) := by
    unfold entryMembers
    split
    · exact addMemberedDatasetMetadata_looks ..
    · exact .ret _
  exact .bind hdetails fun _ => .bind hmembers fun _ => .ret _

theorem entriesMetadata_looks (name : DatasetAndMember) (path : Text)
    (detailArg listMembersArg : Option String) (entries : List NamedEntry) :
    Looks (entriesMetadata name path detailArg listMembersArg entries) := by
  induction entries with
  | nil => exact .ret _
  | cons entry entries ih =>
    exact .bind (entryMetadata_looks ..) fun _ => .bind ih fun _ => .ret _

theorem getDatasetMetadata_looks (name : DatasetAndMember) (path : Text)
    (addQualifiersArg detailArg listMembersArg : Option String) :
    Looks (getDatasetMetadata name path addQualifiersArg detailArg listMembersArg) :=
  .ask_bind rfl fun _ => .bind (entriesMetadata_looks ..) fun _ => .ret _

theorem printAttributes_looks (attributes : DatasetAttributes) (isPDS : Bool) :
    Looks (printAttributes attributes isPDS) :=
  .bind (readString_looks _) fun _ => .ask_bind rfl fun _ => .ask_bind rfl fun _ =>
    .bind (readString_looks _) fun _ => .ask_bind rfl fun _ => .ret _

theorem padRecord_looks (info : RecordInfo) (bytes : Bytes) : Looks (padRecord info bytes) := by
  unfold padRecord
  split
  · refine .bind (equalsText_looks ..) fun equal => ?_
    split
    · exact .ask_bind rfl fun _ => .ret _
    · exact .ret _
  · exact .ret _

theorem writeAccepted_looks (info : RecordInfo) (buffer : Bytes) (written : Written) :
    Looks (writeAccepted info buffer written) := by
  unfold writeAccepted
  split
  · exact .ret _
  · exact equalsText_looks ..

/-- The details of a listing. -/
theorem listDetails_looks (request : MetadataRequest) (entry : NamedEntry) :
    Looks (request.listDetails entry) := by
  unfold MetadataRequest.listDetails
  split
  · exact addDetailedDatasetMetadata_looks ..
  · exact .ret _

theorem listMembersOf_looks (request : MetadataRequest) (name : DatasetAndMember)
    (entry : NamedEntry) : Looks (request.listMembersOf name entry) := by
  unfold MetadataRequest.listMembersOf
  split
  · exact addMemberedDatasetMetadata_looks ..
  · exact .ret _

theorem listEntries_looks (request : MetadataRequest) (name : DatasetAndMember)
    (entries : List NamedEntry) : Looks (request.listEntries name entries) := by
  induction entries with
  | nil => exact .ret _
  | cons entry entries ih =>
    exact .bind (listDetails_looks ..) fun _ => .bind (listMembersOf_looks ..) fun _ => ih

end Zss.Datasets
