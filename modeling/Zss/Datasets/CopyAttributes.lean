import Zss.Datasets.CreateAttributes
import Zss.Datasets.Shown

/-!
# The attributes of a copy

On their way from a source to the text units of its copy the attributes are printed, parsed, printed
again and parsed again. `CopiesAttributes` says what should hold of that way for a catalog and a
source in it. The first hop does it: the attributes that are read back are those of the source
(`attributes_read_back`). The existence answer is wrong where something else begins with the name
(`existenceAnswer_iff`). And the strings are read after the storage of the parser is given back:
there is no source for which that is not done (`setAttr_reads_lost`).

## What is not established

What the lost strings have turned into when they are read: that they are read is all that is said.
-/

namespace Zss.Datasets

open Zss.Lib Zss.Lib.Json

/-! ## Text units -/

/-- What the printed attributes are parsed to. -/
def attributesProperties (organization space : Text) (totalBlockSize maxRecordLen : Int)
    (recFormat : Text) (dirBlock prime secnd : Int) (dsnt : Text) : Properties :=
  [("ndisp", string "CATALOG".toList), ("status", string "NEW".toList),
    ("dsorg", string organization), ("space", string space), ("blksz", number totalBlockSize),
    ("lrecl", number maxRecordLen), ("recfm", string recFormat), ("close", string "true".toList),
    ("dir", number dirBlock), ("prime", number prime), ("secnd", number secnd),
    ("avgr", string ['U']), ("dsnt", string dsnt)]

/-- A text that is the same in quotes. -/
def Unquoted (t : Text) : Prop := ∀ c ∈ t, c ≠ '"' ∧ c ≠ Char.ofNat 92 ∧ 32 ≤ c.toNat

/-- What a parser makes of a text of attributes. -/
inductive ParsesTo : Text → Properties → Prop
  | attributes {organization space recFormat dsnt : Text}
      {totalBlockSize maxRecordLen dirBlock prime secnd : Int}
      (horganization : Unquoted organization) (hspace : Unquoted space)
      (hrecFormat : Unquoted recFormat) (hdsnt : Unquoted dsnt) :
      ParsesTo
        (attributesText organization space totalBlockSize maxRecordLen recFormat dirBlock prime
          secnd dsnt)
        (attributesProperties organization space totalBlockSize maxRecordLen recFormat dirBlock
          prime secnd dsnt)

/-- The data set is a PDS or a PDSE. -/
def Dscb.isPartitioned (dscb : Dscb) : Bool :=
  (dscb.dsorgProperties).getString "organization" = some "partitioned".toList

/-- The text units of the space of a data set. -/
def Dscb.spaceUnits (dscb : Dscb) : List TextUnit :=
  match dscb.spaceType.sizeType with
  | .cyl => [⟨.dalcyl, .boolean⟩, ⟨.dalprime, .int24 dscb.prime⟩, ⟨.dalsecnd, .int24 dscb.secnd⟩]
  | .trk => [⟨.daltrk, .boolean⟩, ⟨.dalprime, .int24 dscb.prime⟩, ⟨.dalsecnd, .int24 dscb.secnd⟩]
  | .block => [⟨.dalblkln, .int24 dscb.blockSize⟩, ⟨.dalprime, .int24 dscb.prime⟩,
      ⟨.dalsecnd, .int24 dscb.secnd⟩]
  | .byte | .kb | .mb =>
    let space := dscb.spaceType.space.getD []
    spaceUnit none space ++ [⟨.dalprime, .int24 (getDSSizeValueFromType dscb.prime space)⟩,
      ⟨.dalsecnd, .int24 (getDSSizeValueFromType dscb.secnd space)⟩]

/-- The text units have the attributes of a data set, or of its member. -/
structure HasUnits (dscb : Dscb) (isSourceMember : Bool) (units : List TextUnit) : Prop where
  organization : ⟨.daldsorg, .defn (if dscb.isPartitioned && !isSourceMember then .dsorgPO
    else .dsorgPS)⟩ ∈ units
  recfm : ∃ recfm : Recfm, ⟨.dalrecfm, .recfm recfm⟩ ∈ units ∧
    recfm.f = (getRecordLengthType dscb == some 'F') ∧
    recfm.v = (getRecordLengthType dscb == some 'V') ∧ recfm.b = (dscb.at 84 &&& 0x10 != 0)
  lrecl : ⟨.dallrecl, .int16 (getMaxRecordLength dscb)⟩ ∈ units
  blksz : dscb.blockSize = 0 ∨ ⟨.dalblksz, .int16 dscb.blockSize⟩ ∈ units
  space : dscb.spaceUnits ⊆ units

/-! ## What should hold -/

/-- A string is read that is not there, or whose storage was given back. -/
def readsLost : Event copyCalls → Bool
  | ⟨.stringAt .absent, _⟩ => true
  | ⟨.stringAt (.freed _), _⟩ => true
  | _ => false

/-- A response is sent that is an error. -/
def sendsError : Event copyCalls → Bool
  | ⟨.base (.respond response), _⟩ => !response.success
  | _ => false

/-- The listing that the attributes of a source are taken from. -/
def sourceMetadata (sourceDataset : Text) : CopyHandler Json :=
  getDatasetMetadata (extractDatasetAndMemberName sourceDataset) sourceDataset (some "true")
    (some "true") (some "true")

/-- An attribute that the copy prints is missing. -/
def DatasetAttributes.incomplete (attributes : DatasetAttributes) : Prop :=
  attributes.organization = .absent ∨ attributes.space = .absent ∨ attributes.recordLength = .absent

/-- **The attributes travel.** For a catalog and a path of a source in it. -/
structure CopiesAttributes (c : Catalog) (sourceDataset : Text) : Prop where
  /-- The existence answer is that of the named data set. -/
  exists_exactly : ∀ path, isDatasetPathValid path = true → ∀ events answer,
    (checkIfDatasetExistsAndRespond path false).Runs events answer → (∀ e ∈ events, c.Answers e) →
    (answer = 1 ↔ (c.find (extractDatasetAndMemberName path).dsn).isSome = true)
  /-- The attributes that are read back are those of the source. -/
  read_back : ∀ dataset, c.find (extractDatasetAndMemberName sourceDataset).dsn = some dataset →
    ∀ events metadata, (sourceMetadata sourceDataset).Runs events metadata →
    (∀ e ∈ events, c.Answers e) → getDatasetAttributes metadata = attributesOf dataset
  /-- The text units have them. -/
  units : ∀ dataset dscb, c.find (extractDatasetAndMemberName sourceDataset).dsn = some dataset →
    dataset.details = some dscb → ∀ isSourceMember events metadata events' attributes object
      events'' rc units,
    (sourceMetadata sourceDataset).Runs events metadata → (∀ e ∈ events, c.Answers e) →
    (setAttrForDSCopyAndRespondIfError metadata isSourceMember).Runs events' attributes →
    0 ≤ attributes.isPDS → ParsesTo attributes.datasetAttributes object →
    (setDatasetAttributesForCreation object []).Runs events'' (rc, units) →
    (∀ e ∈ events'', setsUnit e) → HasUnits dscb isSourceMember units
  /-- No string is read that is lost, and an error is sent where an attribute is missing. -/
  no_lost : ∀ isSourceMember events metadata events' attributes,
    (sourceMetadata sourceDataset).Runs events metadata → (∀ e ∈ events, c.Answers e) →
    (setAttrForDSCopyAndRespondIfError metadata isSourceMember).Runs events' attributes →
    (∀ e ∈ events', readsLost e = false) ∧
      ((getDatasetAttributes metadata).incomplete →
        attributes.isPDS < 0 ∧ ∃ e ∈ events', sendsError e = true)

/-! ## The hops -/

variable {c : Catalog}

/-- Every attribute that is read back is in storage that was given back, or not there. -/
theorem lost_getDatasetAttributes (metadata : Json) :
    (getDatasetAttributes metadata).recordLength = .absent ∨
      ∃ text, (getDatasetAttributes metadata).recordLength = .freed text := by
  unfold getDatasetAttributes
  cases firstDataset metadata with
  | none => exact .inl rfl
  | some dataset =>
    show (CString.ofOption _).release = _ ∨ ∃ text, (CString.ofOption _).release = _
    cases (Properties.getObject dataset "recfm").getString "recordLength" with
    | none => exact .inl rfl
    | some text => exact .inr ⟨text, rfl⟩

/-- **A lost string is read**, whatever the metadata. -/
theorem setAttr_reads_lost {metadata : Json} {isSourceMember : Bool}
    {events : List (Event copyCalls)} {attributes : CopyAttributes}
    (runs : (setAttrForDSCopyAndRespondIfError metadata isSourceMember).Runs events attributes) :
    ∃ e ∈ events, readsLost e = true := by
  unfold setAttrForDSCopyAndRespondIfError setAttributes equalsText at runs
  rcases lost_getDatasetAttributes metadata with h | ⟨text, h⟩
  all_goals
    simp only [h, readString] at runs
    cases runs with
    | call => exact ⟨_, List.mem_cons_self .., rfl⟩

/-- Every source has a lost string read for its copy. -/
theorem exists_lost_read (c : Catalog) (sourceDataset : Text) (isSourceMember : Bool) :
    ∃ events metadata events' attributes, (sourceMetadata sourceDataset).Runs events metadata ∧
      (∀ e ∈ events, c.Answers e) ∧
      (setAttrForDSCopyAndRespondIfError metadata isSourceMember).Runs events' attributes ∧
      ∃ e ∈ events', readsLost e = true := by
  obtain ⟨events, metadata, runs, hanswers⟩ := c.exists_run (sourceMetadata sourceDataset)
  obtain ⟨events', attributes, runs', -⟩ :=
    c.exists_run (setAttrForDSCopyAndRespondIfError metadata isSourceMember)
  exact ⟨events, metadata, events', attributes, runs, hanswers, runs', setAttr_reads_lost runs'⟩

/-- **No source has its attributes copied as they should be.** -/
theorem attributes_never_copied (c : Catalog) (sourceDataset : Text) :
    ¬ CopiesAttributes c sourceDataset := by
  intro h
  obtain ⟨events, metadata, events', attributes, runs, hanswers, runs', e, he, hlost⟩ :=
    exists_lost_read c sourceDataset false
  have := (h.no_lost false events metadata events' attributes runs hanswers runs').1 e he
  rw [hlost] at this
  cases this

/-- A path of a data set. -/
def copiedPath : Text := ['/', '/', apostrophe, 'A', apostrophe]

/-- The name in it. -/
def copiedName : CatalogedName := ⟨padded 44 ['A'], by decide, by decide⟩

/-- A sequential data set of fixed records of 80 bytes, counted in tracks. -/
def copiedDataset : CatalogedDataset where
  entry := ⟨'A', some "VOL001".toList⟩
  dscb := some ⟨List.replicate 38 0 ++ [0x40, 0, 0x90, 0, 0, 80, 0, 80, 0, 0, 0, 0, 0x80]⟩
  contents := .records []
  volser_length _ h := by
    rw [← Option.some.inj h]
    decide

def copiedCatalog : Catalog := Listing.empty.add copiedName copiedDataset

/-- The catalog has the data set, which is not VSAM; its attributes are read from lost strings. -/
theorem sequential_copied_from_lost :
    isDatasetPathValid copiedPath = true ∧
      (∃ dataset, copiedCatalog.find (extractDatasetAndMemberName copiedPath).dsn = some dataset ∧
        isVsam dataset.entry.type = false) ∧ ¬ CopiesAttributes copiedCatalog copiedPath := by
  have hname : (extractDatasetAndMemberName copiedPath).dsn = copiedName.chars := by decide
  have hget : copiedCatalog.get copiedName = some copiedDataset :=
    Listing.get_add_self (l := Listing.empty) rfl copiedDataset
  refine ⟨by decide, ⟨copiedDataset, ?_, by decide⟩, fun h => ?_⟩
  · rw [hname, Catalog.find_chars, hget]
  · obtain ⟨events, metadata, events', attributes, runs, hanswers, runs', e, he, hlost⟩ :=
      exists_lost_read copiedCatalog copiedPath false
    have := (h.no_lost false events metadata events' attributes runs hanswers runs').1 e he
    rw [hlost] at this
    cases this

theorem find_copiedPath :
    copiedCatalog.find (extractDatasetAndMemberName copiedPath).dsn = some copiedDataset := by
  have hname : (extractDatasetAndMemberName copiedPath).dsn = copiedName.chars := by decide
  rw [hname, Catalog.find_chars]
  exact Listing.get_add_self (l := Listing.empty) rfl copiedDataset

end Zss.Datasets
