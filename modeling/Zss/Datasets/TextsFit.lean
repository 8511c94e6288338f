import Zss.Datasets.PlacedTexts
import Zss.Datasets.Services

/-!
# Where response texts fit

The handlers of the other services, gone through like those of the first (`serve_placed`). A copy
prints the path of its target, and deletes it where it fails; a copy of a whole partitioned data set
makes these paths from the names of members, which are short. So in every run of a request the
messages fit exactly if what is spliced into them is short (`messages_fit_iff`). The array for the end
of a deletion is large enough by one character.

## What is not established

Only arrays that a message is printed into are looked at. The buffers that paths and names of
members are put together in are none of them.
-/

namespace Zss.Datasets

open Zss.Lib Zss.Lib.Json

/-! ## Calls of the copy service -/

/-- A program of the other services. -/
theorem base_placed {α : Type} {p : Handler α} (h : p.Asks BasePlaced) : (base p).Asks Placed :=
  h.embed baseCalls fun _ hc => hc

theorem baseCall_yields {c : Call} (h : CopyCall.formatted (.base c) = none) :
    (base (call c)).Yields Placed fun _ => True :=
  (base_placed (.ask (silent h))).yields fun _ => trivial

/-- A call of the other services that prints nothing, then what follows. -/
theorem baseCall_bind {β : Type} {c : Call} {k : c.Answer → CopyHandler β}
    (h : CopyCall.formatted (.base c) = none) (hk : ∀ answer, (k answer).Asks Placed) :
    (base (call c) >>= k).Asks Placed :=
  .bind (base_placed (.ask (silent h))) hk

/-- A call that prints nothing, then what follows. -/
theorem copyCall_bind {β : Type} {c : CopyCall} {k : c.Answer → CopyHandler β}
    (h : c.formatted = none) (hk : ∀ answer, (k answer).Asks Placed) :
    (copyCall c >>= k).Asks Placed :=
  .ask_bind (placed_of_none h) hk

/-- An error is sent as it stands, then what follows. -/
theorem respond_bind {β : Type} {status : Nat} {text : String} {k : Unit → CopyHandler β}
    (hk : ∀ u, (k u).Asks Placed) : (base (respondWithError status text) >>= k).Asks Placed :=
  .bind (base_placed (respondWithError_plain status text)) hk

theorem respond_placed (status : Nat) (text : String) :
    (base (respondWithError status text)).Asks Placed :=
  base_placed (respondWithError_plain status text)

theorem readString_placed (s : CString) : (readString s).Asks Placed := by
  cases s with
  | live text => exact .ret _
  | absent | freed | unwritten => exact .ask (placed_of_none rfl)

theorem equalsText_placed (s : CString) (text : Text) : (equalsText s text).Asks Placed :=
  .bind (readString_placed s) fun _ => .ret _

/-! ## Metadata -/

/-- A property of members lists names of members. -/
def ShortMembers (properties : Properties) : Prop :=
  ∀ p ∈ properties, p.1 = "members" →
    ∃ names : List Text, p.2 = .array (memberObjects names) ∧ ∀ name ∈ names, name.length ≤ 8

theorem ShortMembers.append {properties others : Properties} (h : ShortMembers properties)
    (hothers : ShortMembers others) : ShortMembers (properties ++ others) :=
  fun p hp => (List.mem_append.mp hp).elim (h p) (hothers p)

/-- Properties under other keys. -/
theorem shortMembers_of_keys {properties : Properties} (h : "members" ∉ properties.map Prod.fst) :
    ShortMembers properties :=
  fun _ hp hkey => (h (hkey ▸ List.mem_map_of_mem hp)).elim

/-- The members of a data set are short names. -/
def ShortNames (members : List Json) : Prop :=
  ∃ names : List Text, members = memberObjects names ∧ ∀ name ∈ names, name.length ≤ 8

theorem ShortMembers.getArray {properties : Properties} (h : ShortMembers properties) :
    ShortNames (properties.getArray "members") := by
  unfold Properties.getArray Properties.value
  cases hfind : properties.find? fun p => p.1 == "members" with
  | none => exact ⟨[], rfl, fun _ hname => nomatch hname⟩
  | some p =>
    have hkey := List.find?_some hfind
    obtain ⟨names, hnames, hshort⟩ := h p (List.mem_of_find?_eq_some hfind) (eq_of_beq hkey)
    refine ⟨names, ?_, hshort⟩
    rw [Option.map_some, hnames]
    rfl

theorem printDscbError_yields (name : Text) :
    (printDscbError name).Yields Placed ShortMembers :=
  have h : (ResponseText.noDscb name).Accepted := trivial
  .ask_bind (placed_sprintf h .dscbBuffer) fun _ => .ret (shortMembers_of_keys (by simp [dscbError]))

theorem addDetailsFromDSCB_shortMembers (dscb : Dscb) : ShortMembers (addDetailsFromDSCB dscb) := by
  refine .append ?_ (shortMembers_of_keys (by simp))
  split
  · exact shortMembers_of_keys (by simp)
  · exact shortMembers_of_keys (by simp)

theorem addDetailedDatasetMetadata_yields (name volser : Text) :
    (addDetailedDatasetMetadata name volser).Yields Placed ShortMembers := by
  refine .bind (baseCall_yields rfl) fun dscb _ => ?_
  cases dscb with
  | some dscb => exact .ret (addDetailsFromDSCB_shortMembers dscb)
  | none => exact printDscbError_yields name

theorem matchingMembers_yields (query : Text) (members : List Text) :
    (matchingMembers query members).Yields Placed
      fun names => ∀ name ∈ names, name.length ≤ 8 := by
  induction members with
  | nil => exact .ret fun _ hname => nomatch hname
  | cons memberName members ih =>
    refine .ask_bind (placed_of_none rfl) fun matched => .bind ih fun rest hrest => .ret ?_
    split
    · exact List.forall_mem_cons.mpr ⟨List.length_take_le 8 memberName, hrest⟩
    · exact hrest

theorem addMemberedDatasetMetadata_yields (name volser memberQuery : Text) (memberLength : Int) :
    (addMemberedDatasetMetadata name volser memberQuery memberLength).Yields Placed ShortMembers := by
  refine .bind (baseCall_yields rfl) fun dscb _ => ?_
  have hnone : ShortMembers [] := fun _ hp => nomatch hp
  cases dscb with
  | none => exact printDscbError_yields name
  | some dscb =>
    dsimp only
    split
    · exact .ret hnone
    · refine .ask_bind (placed_of_none rfl) fun members => ?_
      split
      · exact .ret hnone
      · refine .bind (matchingMembers_yields _ members) fun listed hlisted => .ret ?_
        intro p hp _
        rw [List.mem_singleton.mp hp]
        exact ⟨listed, rfl, hlisted⟩

theorem entryProperties_shortMembers (entry : NamedEntry) : ShortMembers (entryProperties entry) := by
  refine .append (shortMembers_of_keys (by simp)) ?_
  split
  · exact shortMembers_of_keys (by simp)
  · exact shortMembers_of_keys (by simp)

/-- A data set of a listing has short members. -/
def ShortEntry (json : Json) : Prop := ∃ properties, json = .object properties ∧ ShortMembers properties

theorem entryMetadata_yields (name : DatasetAndMember) (path : Text)
    (detailArg listMembersArg : Option String) (entry : NamedEntry) :
    (entryMetadata name path detailArg listMembersArg entry).Yields Placed ShortEntry := by
  have hnone : ShortMembers [] := fun _ hp => nomatch hp
  have hdetails : (entryDetails detailArg entry).Yields Placed ShortMembers := by
    unfold entryDetails
    split
    · exact addDetailedDatasetMetadata_yields ..
    · exact .ret hnone
  have hmembers : (entryMembers name path listMembersArg entry).Yields Placed ShortMembers := by
    unfold entryMembers
    split
    · exact addMemberedDatasetMetadata_yields ..
    · exact .ret hnone
  refine .bind hdetails fun details hdetails => .bind hmembers fun members hmembers => .ret ?_
  exact ⟨_, rfl, ((entryProperties_shortMembers entry).append hdetails).append hmembers⟩

theorem entriesMetadata_yields (name : DatasetAndMember) (path : Text)
    (detailArg listMembersArg : Option String) (entries : List NamedEntry) :
    (entriesMetadata name path detailArg listMembersArg entries).Yields Placed
      fun datasets => ∀ json ∈ datasets, ShortEntry json := by
  induction entries with
  | nil => exact .ret fun _ hjson => nomatch hjson
  | cons entry entries ih =>
    refine .bind (entryMetadata_yields ..) fun json hjson => .bind ih fun rest hrest => .ret ?_
    exact List.forall_mem_cons.mpr ⟨hjson, hrest⟩

/-- The members of the first data set of a listing are short names. -/
def ShortListing (metadata : Json) : Prop :=
  ∀ dataset, firstDataset metadata = some dataset → ShortNames (dataset.getArray "members")

theorem getDatasetMetadata_yields (name : DatasetAndMember) (path : Text)
    (addQualifiersArg detailArg listMembersArg : Option String) :
    (getDatasetMetadata name path addQualifiersArg detailArg listMembersArg).Yields Placed
      ShortListing := by
  refine .ask_bind (placed_of_none rfl) fun entries => ?_
  refine .bind (entriesMetadata_yields ..) fun datasets hdatasets => .ret ?_
  intro dataset hdataset
  obtain ⟨json, hhead, hobject⟩ := Option.bind_eq_some_iff.mp hdataset
  obtain ⟨properties, rfl, hshort⟩ := hdatasets json (List.mem_of_mem_head? hhead)
  cases hobject
  exact hshort.getArray

theorem getTargetDsnRecordInfo_placed (targetDataset : Text) :
    (getTargetDsnRecordInfo targetDataset).Asks Placed :=
  .bind (getDatasetMetadata_yields ..).asks fun _ => .ret _

theorem checkIfDatasetExistsAndRespond_placed (dataset : Text) (isMember : Bool) :
    (checkIfDatasetExistsAndRespond dataset isMember).Asks Placed := by
  unfold checkIfDatasetExistsAndRespond
  split
  · refine baseCall_bind rfl fun opened => ?_
    split
    · refine baseCall_bind rfl fun closed => ?_
      split
      · exact respond_bind fun _ => .ret _
      · exact .ret _
    · exact .ret _
  · refine .bind (getDatasetMetadata_yields ..).asks fun metadata => ?_
    split
    · exact .ret _
    · exact .ret _

theorem printAttributes_placed (attributes : DatasetAttributes) (isPDS : Bool) :
    (printAttributes attributes isPDS).Asks Placed :=
  .bind (readString_placed _) fun _ => copyCall_bind rfl fun _ => copyCall_bind rfl fun _ =>
    .bind (readString_placed _) fun _ => copyCall_bind rfl fun _ => .ret _

theorem setAttrForDSCopyAndRespondIfError_placed (metadata : Json) (isSourceMember : Bool) :
    (setAttrForDSCopyAndRespondIfError metadata isSourceMember).Asks Placed := by
  refine .bind (equalsText_placed ..) fun undefinedLength => ?_
  split
  · exact respond_bind fun _ => .ret _
  · split
    · exact respond_bind fun _ => .ret _
    · refine .bind (equalsText_placed ..) fun sequential => ?_
      exact .bind (printAttributes_placed ..) fun _ => .ret _

/-! ## Making -/

theorem setTextUnits_placed (rest : List TextUnit) (rc : Int) (units : List TextUnit) :
    (setTextUnits rest rc units).Asks Placed := by
  induction rest generalizing rc units with
  | nil => exact .ret _
  | cons unit rest ih => exact copyCall_bind rfl fun _ => ih _ _

theorem setProperties_placed (object : Properties) (parmDefn : Option ParmDefn) (rest : Properties)
    (rc : Int) (units : List TextUnit) :
    (setProperties object parmDefn rest rc units).Asks Placed := by
  induction rest generalizing parmDefn rc units with
  | nil => exact .ret _
  | cons property rest ih =>
    refine .bind (setTextUnits_placed ..) fun (rc, units) => ?_
    dsimp only
    split
    · exact .ret _
    · exact ih _ _ _

theorem setWhileOk_placed (rest units : List TextUnit) : (setWhileOk rest units).Asks Placed := by
  induction rest generalizing units with
  | nil => exact .ret _
  | cons unit rest ih =>
    refine copyCall_bind rfl fun rc => ?_
    split
    · exact ih _
    · exact .ret _

theorem datasetUnits_placed (dsn : Text) (json : Json) : (datasetUnits dsn json).Asks Placed := by
  unfold datasetUnits
  split
  · exact .ret _
  · refine .bind (setWhileOk_placed ..) fun (rc, units) => ?_
    dsimp only
    split
    · exact .bind (setTextUnits_placed ..) fun _ => setProperties_placed ..
    · exact .ret _

theorem retryNewDataset_placed (left : Nat) (units : List TextUnit) (last : Nat × NewDataset) :
    (retryNewDataset left units last).Asks Placed := by
  induction left generalizing units last with
  | zero => exact .ret _
  | succ left ih =>
    unfold retryNewDataset
    split
    · exact copyCall_bind rfl fun rc => copyCall_bind rfl fun made => ih _ _
    · exact .ret _

theorem allocateNewDataset_placed (returnCode : Int) (units : List TextUnit) :
    (allocateNewDataset returnCode units).Asks Placed := by
  unfold allocateNewDataset
  split
  · exact copyCall_bind rfl fun _ => .bind (retryNewDataset_placed ..) fun _ => .ret _
  · exact .ret _

theorem getDSCB_placed (dsn : Text) : (getDSCB dsn).Asks BasePlaced := by
  refine .bind (getVolserForDataset_placed dsn) fun volser => ?_
  cases volser with
  | none => exact .ret _
  | some volser => exact .ask_bind (silent rfl) fun _ => .ret _

theorem makeMember_placed (absolutePath : Text) : (makeMember absolutePath).Asks Placed := by
  refine baseCall_bind rfl fun opened => ?_
  split
  · refine baseCall_bind rfl fun closed => ?_
    split
    · exact .ret _
    · exact respond_bind fun _ => .ret _
  · exact respond_bind fun _ => .ret _

theorem createDatasetMember_placed (dsn absolutePath : Text) :
    (createDatasetMember dsn absolutePath).Asks Placed := by
  refine .bind (base_placed (getDSCB_placed dsn)) fun dscb => ?_
  cases dscb with
  | none => exact respond_bind fun _ => .ret _
  | some dscb =>
    dsimp only
    split
    · exact respond_bind fun _ => .ret _
    · refine copyCall_bind rfl fun overwriteParam => baseCall_bind rfl fun opened => ?_
      split
      · refine baseCall_bind rfl fun closed => ?_
        split
        · exact respond_bind fun _ => .ret _
        · split
          · exact makeMember_placed absolutePath
          · exact respond_bind fun _ => .ret _
      · exact makeMember_placed absolutePath

theorem createDataset_placed (absolutePath datasetAttributes : Text) :
    (createDataset absolutePath datasetAttributes).Asks Placed := by
  unfold createDataset
  dsimp only
  split
  · exact createDatasetMember_placed ..
  · refine copyCall_bind rfl fun json => ?_
    cases json with
    | none => exact respond_bind fun _ => .ret _
    | some json =>
      refine .bind (datasetUnits_placed ..) fun (rc, units) => ?_
      refine .bind (allocateNewDataset_placed ..) fun (ddNumber, returnCode) => ?_
      dsimp only
      split
      · exact respond_bind fun _ => .ret _
      · refine baseCall_bind rfl fun da => ?_
        split
        · exact respond_bind fun _ => .ret _
        · exact .ret _

/-! ## Deleting -/

/-- A message of a deletion is the text of a place. -/
def Deletion.Printed (deletion : Deletion) : Prop :=
  ∃ text : ResponseText, text.Accepted ∧ deletion.responseMessage = text.message

theorem printDeletion_yields {text : ResponseText} (h : text.Accepted) (hcapacity : text.capacity = 100)
    (rc : Int) (responseCode : Nat) :
    (printDeletion rc responseCode text.message).Yields Placed Deletion.Printed := by
  refine .ask_bind ?_ fun _ => .ret ⟨text, h, rfl⟩
  rw [← hcapacity]
  exact placed_sprintf h .responseMessage

theorem printDynallocDeletion_yields (rc : Int) (da : Dynalloc) (name : DatasetAndMember) :
    (printDynallocDeletion rc da name).Yields Placed Deletion.Printed :=
  have h : (ResponseText.dynalloc da name 'r').Accepted := trivial
  printDeletion_yields h rfl rc _

theorem dynallocMessage_yields (da : Dynalloc) (name : DatasetAndMember) :
    (dynallocMessage da name).Yields Placed
      fun r => r.2 = (ResponseText.dynalloc da name 'r').message :=
  have h : (ResponseText.dynalloc da name 'r').Accepted := trivial
  .ask_bind (placed_sprintf h .responseMessage) fun _ => .ret rfl

/-- A call of the other services that prints nothing, then what yields a result. -/
theorem baseCall_bind_yields {β : Type} {c : Call} {k : c.Answer → CopyHandler β} {post : β → Prop}
    (h : CopyCall.formatted (.base c) = none) (hk : ∀ answer, (k answer).Yields Placed post) :
    (base (call c) >>= k).Yields Placed post :=
  .bind (baseCall_yields h) fun answer _ => hk answer

/-- A call that prints nothing, then what yields a result. -/
theorem copyCall_bind_yields {β : Type} {c : CopyCall} {k : c.Answer → CopyHandler β}
    {post : β → Prop} (h : c.formatted = none) (hk : ∀ answer, (k answer).Yields Placed post) :
    (copyCall c >>= k).Yields Placed post :=
  .ask_bind (placed_of_none h) hk

theorem deleteDataset_yields (name : DatasetAndMember) {absolutePath : Text}
    (hpath : absolutePath.length ≤ 68) (ddName : Text) :
    (deleteDataset name absolutePath ddName).Yields Placed Deletion.Printed := by
  refine copyCall_bind_yields rfl fun da => ?_
  split
  · exact printDynallocDeletion_yields ..
  · have h : (ResponseText.deleted (absolutePath.drop 3).dropLast).Accepted := by
      change (absolutePath.drop 3).dropLast.length ≤ 64
      rw [List.length_dropLast, List.length_drop]
      omega
    exact printDeletion_yields h rfl 0 0

theorem stowMember_yields (name : DatasetAndMember) (ddName : Text) :
    (stowMember name ddName).Yields Placed Deletion.Printed := by
  refine copyCall_bind_yields rfl fun stowReturnCode => ?_
  refine copyCall_bind_yields rfl fun _ => copyCall_bind_yields rfl fun _ => ?_
  refine baseCall_bind_yields rfl fun da => ?_
  split
  · have h : (ResponseText.notDeleted name.memberName).Accepted := trivial
    exact printDeletion_yields h rfl _ _
  · split
    · exact printDynallocDeletion_yields ..
    · have h : (ResponseText.memberDeleted name.memberName).Accepted := trivial
      exact printDeletion_yields h rfl 0 0

theorem deleteMember_yields (name : DatasetAndMember) (ddName : Text) :
    (deleteMember name ddName).Yields Placed Deletion.Printed := by
  have hstorage : ResponseText.noStorage.Accepted := trivial
  have hmember : ResponseText.noMember.Accepted := trivial
  have hopened : ResponseText.notOpened.Accepted := trivial
  have hexists : (memberExists name.dsn name.memberName).Yields Placed fun _ => True :=
    copyCall_bind_yields rfl fun _ => .ret trivial
  refine copyCall_bind_yields rfl fun opened => ?_
  split
  · refine .bind hexists fun found _ => ?_
    split
    · refine copyCall_bind_yields rfl fun obtained => ?_
      split
      · exact stowMember_yields ..
      · refine .bind (printDeletion_yields hstorage rfl _ _) fun failed hfailed => ?_
        exact copyCall_bind_yields rfl fun _ => .ret hfailed
    · refine .bind (printDeletion_yields hmember rfl _ _) fun failed hfailed => ?_
      exact copyCall_bind_yields rfl fun _ => baseCall_bind_yields rfl fun _ => .ret hfailed
  · exact printDeletion_yields hopened rfl _ _

theorem getCSIType_placed (absolutePath : Text) : (getCSIType absolutePath).Asks BasePlaced := by
  refine .ask_bind (silent rfl) fun entries => ?_
  split
  · exact .ret _
  · exact .ret _

theorem deleteDatasetOrMember_yields {absolutePath : Text} (hpath : absolutePath.length ≤ 68) :
    (deleteDatasetOrMember absolutePath).Yields Placed Deletion.Printed := by
  have hvsam : ResponseText.vsamDetected.Accepted := trivial
  have hnot : (ResponseText.doesNotExist (extractDatasetAndMemberName absolutePath)).Accepted :=
    trivial
  have htype : (base (getCSIType absolutePath)).Yields Placed fun _ => True :=
    (base_placed (getCSIType_placed absolutePath)).yields fun _ => trivial
  refine .bind htype fun type _ => ?_
  cases type with
  | none => exact printDeletion_yields hnot rfl _ _
  | some type =>
    dsimp only
    split
    · exact printDeletion_yields hvsam rfl _ _
    · refine baseCall_bind_yields rfl fun da => ?_
      split
      · exact printDynallocDeletion_yields ..
      · split
        · exact deleteDataset_yields _ hpath _
        · exact deleteMember_yields ..

theorem deleteDatasetOrMember_placed {absolutePath : Text} (hpath : absolutePath.length ≤ 68) :
    (deleteDatasetOrMember absolutePath).Asks Placed :=
  (deleteDatasetOrMember_yields hpath).asks

/-- A valid path is not longer than this. -/
theorem length_of_valid {path : Text} (h : isDatasetPathValid path = true) : path.length ≤ 58 := by
  simp only [isDatasetPathValid, Bool.and_eq_true, decide_eq_true_eq] at h
  exact h.1.1.1.2

theorem deleteDatasetFromRequest_placed (absolutePath : Text) :
    (deleteDatasetFromRequest absolutePath).Asks Placed := by
  unfold deleteDatasetFromRequest
  split
  · exact respond_placed ..
  next hvalid =>
    have hpath : absolutePath.length ≤ 58 := length_of_valid (by simpa using hvalid)
    refine .bind_of (deleteDatasetOrMember_yields (by omega)) fun deletion hdeletion => ?_
    obtain ⟨text, htext, hmessage⟩ := hdeletion
    rw [hmessage]
    split
    · exact base_placed (.ask (basePlaced_respond htext HTTP_STATUS_OK))
    · exact base_placed (respondWithError_placed htext _)

/-! ## Copying -/

section

variable {sourceDataset targetDataset : Text}

theorem copyReads_placed (info : RecordInfo) (targetDataset : Text) (reads : List Read)
    (recordsWritten rcEtag : Int) (digested : Bytes) :
    (copyReads info targetDataset reads recordsWritten rcEtag digested).Asks Placed := by
  have padded : ∀ bytes, (padRecord info bytes).Asks Placed := by
    intro bytes
    unfold padRecord
    split
    · refine .bind (equalsText_placed ..) fun fixed => ?_
      split
      · exact copyCall_bind rfl fun _ => .ret _
      · exact .ret _
    · exact .ret _
  have accepted : ∀ buffer written, (writeAccepted info buffer written).Asks Placed := by
    intro buffer written
    unfold writeAccepted
    split
    · exact .ret _
    · exact equalsText_placed ..
  induction reads generalizing recordsWritten rcEtag digested with
  | nil => exact .ret _
  | cons read reads ih =>
    refine copyCall_bind rfl fun _ => ?_
    split
    · refine .bind (padded _) fun buffer => baseCall_bind rfl fun written => ?_
      refine .bind (accepted buffer written) fun good => ?_
      split
      · split
        · exact baseCall_bind rfl fun _ => ih _ _ _
        · exact ih _ _ _
      · exact .ret _
    · split
      · exact .ret _
      · exact ih _ _ _

theorem finishCopy_placed (sourceDataset : Text) (htarget : targetDataset.length ≤ 68)
    (recordsWritten rcEtag : Int) (digested : Bytes) :
    (finishCopy sourceDataset targetDataset recordsWritten rcEtag digested).Asks Placed := by
  have h : (ResponseText.pasted targetDataset recordsWritten).Accepted := htarget
  refine .bind (base_placed (finishDigest_placed rcEtag digested)) fun finished => ?_
  refine .ask_bind (placed_sprintf h .msgBuffer) fun _ => ?_
  refine .bind (base_placed (printEtag_placed finished)) fun etag => ?_
  exact baseCall_bind rfl fun _ => baseCall_bind rfl fun _ => .ret _

theorem abandonCopy_placed (sourceDataset : Text) (htarget : targetDataset.length ≤ 68)
    (text : String) : (abandonCopy sourceDataset targetDataset text).Asks Placed :=
  baseCall_bind rfl fun _ => baseCall_bind rfl fun _ => respond_bind fun _ =>
    .bind (deleteDatasetOrMember_placed htarget) fun _ => .ret _

theorem streamRecords_placed (sourceDataset : Text) (sourceRecordLen : Nat)
    (htarget : targetDataset.length ≤ 68) (isTargetMember : Bool) :
    (streamRecords sourceDataset sourceRecordLen targetDataset isTargetMember).Asks Placed := by
  refine baseCall_bind rfl fun rcEtag => ?_
  refine .bind (getTargetDsnRecordInfo_placed targetDataset) fun info => ?_
  split
  · exact abandonCopy_placed _ htarget _
  · refine baseCall_bind rfl fun reads => ?_
    refine .bind (copyReads_placed ..) fun loopEnd => ?_
    cases loopEnd with
    | writeError => exact abandonCopy_placed _ htarget _
    | readError => exact abandonCopy_placed _ htarget _
    | copied => exact finishCopy_placed _ htarget _ _ _

theorem streamDatasetForCopyAndRespond_placed (sourceDataset : Text) (sourceRecordLen : Nat)
    (htarget : targetDataset.length ≤ 68) (isTargetMember : Bool) :
    (streamDatasetForCopyAndRespond sourceDataset sourceRecordLen targetDataset
      isTargetMember).Asks Placed := by
  refine baseCall_bind rfl fun opened => ?_
  split
  · refine baseCall_bind rfl fun opened => ?_
    split
    · exact streamRecords_placed _ _ htarget _
    · refine .bind (deleteDatasetOrMember_placed htarget) fun _ => respond_bind fun _ => ?_
      exact baseCall_bind rfl fun _ => .ret _
  · exact .bind (deleteDatasetOrMember_placed htarget) fun _ => respond_bind fun _ => .ret _

theorem readWriteToDatasetAndRespond_placed (sourceDataset : Text)
    (htarget : targetDataset.length ≤ 68) (isTargetMember : Bool) :
    (readWriteToDatasetAndRespond sourceDataset targetDataset isTargetMember).Asks Placed := by
  refine baseCall_bind rfl fun da => ?_
  split
  · refine .bind (deleteDatasetOrMember_placed htarget) fun _ => ?_
    refine .bind_of (dynallocMessage_yields da _) fun (responseCode, responseMessage) hmessage => ?_
    cases hmessage
    exact .bind (base_placed (respondWithError_dynalloc da _ 'r' _)) fun _ => .ret _
  · refine .bind (base_placed (getLreclOrRespondError_placed ..)) fun lrecl => ?_
    split
    · refine baseCall_bind rfl fun _ => ?_
      exact .bind (deleteDatasetOrMember_placed htarget) fun _ => .ret _
    · refine .bind (streamDatasetForCopyAndRespond_placed _ _ htarget _) fun result => ?_
      exact baseCall_bind rfl fun _ => .ret _

theorem respondCopied_placed (result : CopyResult) : (respondCopied result).Asks Placed := by
  unfold respondCopied
  split
  · refine .bind (readString_placed _) fun etag => base_placed (.ask (silent ?_))
    change Response.formatted _ = none
    unfold Response.formatted
    split
    · rfl
    · rfl
  · exact .ret _

theorem pasteAsDatasetMember_placed (sourceDataset : Text) (htarget : targetDataset.length ≤ 68) :
    (pasteAsDatasetMember sourceDataset targetDataset).Asks Placed := by
  refine .bind (createDataset_placed ..) fun rc => ?_
  split
  · exact .ret _
  · exact .bind (readWriteToDatasetAndRespond_placed _ htarget _) respondCopied_placed

theorem length_memberPath (dataset memName : Text) :
    (memberPath dataset memName).length = dataset.length + memName.length + 6 := by
  simp [memberPath]
  omega

theorem pasteMembers_placed (sourceDataset : Text) (htarget : targetDataset.length ≤ 58)
    {members : List Json} (hmembers : ShortNames members) :
    (pasteMembers sourceDataset targetDataset members).Asks Placed := by
  obtain ⟨names, rfl, hnames⟩ := hmembers
  induction names with
  | nil => exact .ret _
  | cons memName names ih =>
    obtain ⟨hname, hnames⟩ := List.forall_mem_cons.mp hnames
    have hpath : (memberPath (datasetOfPath targetDataset) memName).length ≤ 68 := by
      rw [length_memberPath, datasetOfPath, List.length_dropLast, List.length_drop]
      omega
    refine copyCall_bind rfl fun _ => copyCall_bind rfl fun _ => ?_
    refine .bind (createDataset_placed ..) fun rc => ?_
    split
    · exact .ret _
    · refine .bind (readWriteToDatasetAndRespond_placed _ hpath _) fun result => ?_
      split
      · exact .ret _
      · exact ih hnames

theorem pastePDSDirectory_placed {metadata : Json} (hmetadata : ShortListing metadata)
    (sourceDataset : Text) (htarget : targetDataset.length ≤ 58) :
    (pastePDSDirectory metadata sourceDataset targetDataset).Asks Placed := by
  unfold pastePDSDirectory
  split
  · exact .ret _
  next dataset hdataset =>
    refine .bind (pasteMembers_placed _ htarget (hmetadata dataset hdataset)) fun pasted => ?_
    have h : (ResponseText.pastedAll targetDataset).Accepted := by
      change targetDataset.length ≤ 68
      omega
    split
    · exact .ask_bind (placed_sprintf h .msgBuffer) fun _ => base_placed (.ask (silent rfl))
    · exact .ret _

theorem pasteAsDataset_placed {metadata : Json} (hmetadata : ShortListing metadata)
    (attributes : CopyAttributes) (sourceDataset : Text) (htarget : targetDataset.length ≤ 58) :
    (pasteAsDataset metadata attributes sourceDataset targetDataset).Asks Placed := by
  refine .bind (createDataset_placed ..) fun rc => ?_
  split
  · exact .ret _
  · split
    · split
      · exact pastePDSDirectory_placed hmetadata _ htarget
      · exact respond_placed ..
    · exact .bind (readWriteToDatasetAndRespond_placed _ (by omega) _) respondCopied_placed

theorem copyToNew_placed (sourceDataset : Text) (htarget : targetDataset.length ≤ 58) :
    (copyToNew sourceDataset targetDataset).Asks Placed := by
  refine .bind_of (getDatasetMetadata_yields ..) fun metadata hmetadata => ?_
  refine .bind (setAttrForDSCopyAndRespondIfError_placed ..) fun attributes => ?_
  split
  · exact .ret _
  · split
    · refine .bind (checkIfDatasetExistsAndRespond_placed ..) fun targetDsnExists => ?_
      split
      · exact .ret _
      · split
        · exact respond_placed ..
        · exact pasteAsDatasetMember_placed _ (by omega)
    · exact pasteAsDataset_placed hmetadata _ _ htarget

theorem copyValid_placed (sourceDataset : Text) (htarget : targetDataset.length ≤ 58) :
    (copyValid sourceDataset targetDataset).Asks Placed := by
  refine .bind (base_placed (getCSIType_placed _)) fun type => ?_
  split
  · exact respond_placed ..
  · refine .bind (checkIfDatasetExistsAndRespond_placed ..) fun srcDsnExists => ?_
    split
    · exact .ret _
    · split
      · exact respond_placed ..
      · refine .bind (checkIfDatasetExistsAndRespond_placed ..) fun tarDsnExists => ?_
        split
        · exact .ret _
        · split
          · exact respond_placed ..
          · exact copyToNew_placed _ htarget

theorem copyDatasetAndRespond_placed (sourceDataset targetDataset : Option Text) :
    (copyDatasetAndRespond sourceDataset targetDataset).Asks Placed := by
  unfold copyDatasetAndRespond
  dsimp only
  split
  · exact respond_placed ..
  · split
    · exact respond_placed ..
    · split
      · exact respond_placed ..
      · split
        · exact respond_placed ..
        next htarget => exact copyValid_placed _ (length_of_valid (by simpa using htarget))

end

/-! ## Listing -/

theorem respondWithDatasetMetadata_placed (request : MetadataRequest) :
    (respondWithDatasetMetadata request).Asks Placed := by
  have hlong : ∀ name msg, (MetadataRequest.respondIfLong name msg).Asks Placed := by
    intro name msg
    unfold MetadataRequest.respondIfLong
    split
    · exact respond_placed ..
    · exact .ret _
  have hresume : request.checkResume.Asks Placed := by
    unfold MetadataRequest.checkResume
    split
    · exact .bind (hlong _ _) fun _ => respond_placed ..
    · exact .bind (hlong _ _) fun _ => hlong _ _
    · exact .bind (hlong _ _) fun _ => respond_placed ..
    · exact .ret _
  have hdetails : ∀ entry, (request.listDetails entry).Asks Placed := by
    intro entry
    unfold MetadataRequest.listDetails
    split
    · exact (addDetailedDatasetMetadata_yields ..).asks
    · exact .ret _
  have hmembers : ∀ name entry, (request.listMembersOf name entry).Asks Placed := by
    intro name entry
    unfold MetadataRequest.listMembersOf
    split
    · exact (addMemberedDatasetMetadata_yields ..).asks
    · exact .ret _
  have hentries : ∀ name entries, (request.listEntries name entries).Asks Placed := by
    intro name entries
    induction entries with
    | nil => exact .ret _
    | cons entry entries ih =>
      exact .bind (hdetails entry) fun _ => .bind (hmembers name entry) fun _ => ih
  unfold respondWithDatasetMetadata
  dsimp only
  split
  · exact respond_placed ..
  · split
    · exact respond_placed ..
    · refine .bind hresume fun _ => copyCall_bind rfl fun entries => ?_
      exact .bind (hentries _ entries) fun _ => base_placed (.ask (silent rfl))

/-! ## The services -/

theorem createDatasetAndRespond_placed (absolutePath : Text) (contentBody : Bytes) :
    (createDatasetAndRespond absolutePath contentBody).Asks Placed := by
  unfold createDatasetAndRespond
  split
  · exact respond_placed ..
  · refine baseCall_bind rfl fun convertedBody => ?_
    cases convertedBody with
    | none => exact .ret _
    | some convertedBody =>
      refine .bind (createDataset_placed ..) fun returnCode => ?_
      split
      · exact base_placed (.ask (silent rfl))
      · exact .ret _

/-- **Whatever a service prints is the text of a place.** -/
theorem serve_placed (request : DatasetRequest) : request.serve.Asks Placed := by
  cases request with
  | read absolutePath => exact base_placed (respondWithDataset_placed absolutePath)
  | update request absolutePath => exact base_placed (updateDataset_placed request absolutePath)
  | vsam request => exact base_placed (serveVSAMDatasetContents_placed request)
  | metadata request => exact respondWithDatasetMetadata_placed request
  | create absolutePath contentBody =>
    exact createDatasetAndRespond_placed absolutePath contentBody
  | delete absolutePath => exact deleteDatasetFromRequest_placed absolutePath
  | copy sourceDataset targetDataset =>
    exact copyDatasetAndRespond_placed sourceDataset targetDataset

/-! ## Where they fit -/

/-- The messages that are printed in a run fit into their arrays. -/
def MessagesFit (svc99Failed : Int) (events : List (Event copyCalls)) : Prop :=
  ∀ e ∈ events, ∀ formatted, e.call.formatted = some formatted → formatted.Fits svc99Failed

/-- What is spliced into the messages of a run is short. -/
def MessagesShort (events : List (Event copyCalls)) : Prop :=
  ∀ e ∈ events, ∀ text : ResponseText, e.call.formatted = some text.formatted → text.Short

/-- A text that is not accepted is short. -/
theorem ResponseText.short_of_not_accepted {text : ResponseText} (h : ¬ text.Accepted) :
    text.Short := by
  cases text with
  | deleted | pasted | pastedAll => exact trivial
  | _ => exact (h trivial).elim

/-- **When every message fits.** In every run of a request to the services, the messages fit into the
arrays that they are printed into exactly if what is spliced into them is short. -/
theorem messages_fit_iff (svc99Failed : Int) (request : DatasetRequest)
    (events : List (Event copyCalls)) (runs : request.serve.Runs events ()) :
    MessagesFit svc99Failed events ↔ MessagesShort events := by
  constructor
  · intro hfit e he text htext
    by_cases haccepted : text.Accepted
    · exact (ResponseText.fits_iff haccepted).mp (hfit e he _ htext)
    · exact ResponseText.short_of_not_accepted haccepted
  · intro hshort e he formatted hformatted
    obtain ⟨text, haccepted, rfl⟩ := (serve_placed request).of_runs runs e he formatted hformatted
    exact (ResponseText.fits_iff haccepted).mpr (hshort e he text hformatted)

/-- The data set does not exist. -/
theorem messages_fit_iff_sample :
    MessagesFit 8 ((DatasetRequest.delete "//'A.B'".toList).serve.exec CopyCall.anyAnswer).1 ↔
      MessagesShort ((DatasetRequest.delete "//'A.B'".toList).serve.exec CopyCall.anyAnswer).1 :=
  messages_fit_iff 8 _ _ (Program.runs_exec _ _)

/-- A system where an allocation fails with a return code of its own. -/
def failedAllocation : (c : CopyCall) → c.Answer
  | .base (.dynallocAllocDataset ..) => ⟨.other 8, 0, 0, []⟩
  | c => c.anyAnswer

/-- The text about a failed allocation does not fit. -/
theorem message_overflows :
    isDatasetPathValid "//'A.B'".toList = true ∧
      ¬ MessagesFit 8 ((DatasetRequest.read "//'A.B'".toList).serve.exec failedAllocation).1 := by
  refine ⟨by decide, fun hfit => ?_⟩
  let text : ResponseText :=
    .dynalloc ⟨.other 8, 0, 0, []⟩ (extractDatasetAndMemberName "//'A.B'".toList) 'r'
  have haccepted : text.Accepted := trivial
  have hknown : text.Short :=
    (ResponseText.fits_iff haccepted).mp (hfit _ (.tail _ (.head _)) text.formatted rfl)
  exact nomatch hknown.1

end Zss.Datasets
