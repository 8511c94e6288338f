import Zss.Datasets.Paths

/-!
# What a listing shows

What `getDatasetMetadata` prints where the catalog answers, and so what is read back from it: the
attributes are those of the data set that the path names, whatever begins with its name
(`getDatasetAttributes_shown`), and the existence answer is that of the listing
(`checkIfDatasetExists_shown`).
-/

namespace Zss.Datasets

open Zss.Lib Zss.Lib.Json

/-- A program whose answers do not contradict the catalog has a result of a kind. -/
def Shows (c : Catalog) {α : Type} (p : CopyHandler α) (post : α → Prop) : Prop :=
  p.Ensures c.Answers fun _ a => post a

namespace Shows

variable {c : Catalog} {α β : Type}

theorem ret {a : α} {post : α → Prop} (h : post a) : Shows c (.ret a) post :=
  Program.Ensures.ret h

theorem bind {p : CopyHandler α} {k : α → CopyHandler β} {mid : α → Prop} {post : β → Prop}
    (hp : Shows c p mid) (hk : ∀ a, mid a → Shows c (k a) post) : Shows c (p >>= k) post :=
  Program.Ensures.bind_of hp fun _ a ha => hk a ha

theorem mono {p : CopyHandler α} {post post' : α → Prop} (h : Shows c p post)
    (himp : ∀ a, post a → post' a) : Shows c p post' :=
  Program.Ensures.mono h fun _ => himp

/-- A question that the catalog answers. -/
theorem asked {q : CopyCall} {answer : q.Answer} (h : c.answer? q = some answer) :
    Shows c (copyCall q) fun a => a = answer :=
  Program.Ensures.ask fun _ hanswer => hanswer _ h

theorem anything (p : CopyHandler α) : Shows c p fun _ => True := fun _ _ _ _ => trivial

/-- Any question. -/
theorem any (q : CopyCall) : Shows c (copyCall q) fun _ => True :=
  Program.Ensures.ask fun _ _ => trivial

/-- A question of the other services that the catalog answers. -/
theorem base_asked {q : Call} {answer : q.Answer} (h : c.answer? (.base q) = some answer) :
    Shows c (base (call q)) fun a => a = answer :=
  Program.Ensures.ask fun _ hanswer => hanswer _ h

end Shows

variable {c : Catalog}

/-! ## An entry -/

/-- The details that are printed. -/
def detailsShown (c : Catalog) (detailArg : Option String) (entry : NamedEntry) : Properties :=
  if detailArg = some "true" ∧ !entry.entry.volume.isMigrated then
    match c.obtainDscb entry.name (entry.entry.volume.volser.getD []) with
    | some dscb => addDetailsFromDSCB dscb
    | none => dscbError entry.name
  else []

/-- What stands behind the details has none of their keys. -/
def Behind (properties : Properties) : Prop :=
  ∀ p ∈ properties, p.1 = "members" ∨ p.1 = "error"

theorem behind_nil : Behind [] := fun _ hp => absurd hp List.not_mem_nil

theorem behind_dscbError (name : Text) : Behind (dscbError name) := fun _ hp =>
  .inr (by rw [List.mem_singleton.mp hp])

theorem printDscbError_shows (name : Text) :
    Shows c (printDscbError name) fun properties => properties = dscbError name := by
  refine .bind (.any _) fun _ _ => .ret rfl

theorem addDetailedDatasetMetadata_shows (name volser : Text) :
    Shows c (addDetailedDatasetMetadata name volser) fun details =>
      details = match c.obtainDscb name volser with
        | some dscb => addDetailsFromDSCB dscb
        | none => dscbError name := by
  unfold addDetailedDatasetMetadata
  refine .bind (.base_asked rfl) ?_
  rintro _ rfl
  split
  next h => exact .ret (by rw [h])
  next h =>
    rw [h]
    exact printDscbError_shows name

theorem addMemberedDatasetMetadata_behind (name volser memberQuery : Text) (memberLength : Int) :
    Shows c (addMemberedDatasetMetadata name volser memberQuery memberLength) Behind := by
  unfold addMemberedDatasetMetadata
  refine .bind (.base_asked rfl) ?_
  rintro _ rfl
  split
  next => exact (printDscbError_shows name).mono fun _ h => h ▸ behind_dscbError name
  next dscb _ =>
    split
    next => exact .ret behind_nil
    next =>
      refine .bind (.any _) fun members _ => ?_
      split
      next => exact .ret behind_nil
      next =>
        refine .bind (.anything _) fun listed _ => .ret ?_
        exact fun p hp => .inl (by rw [List.mem_singleton.mp hp])

variable {name : DatasetAndMember} {path : Text} {detailArg listMembersArg : Option String}

theorem entryDetails_shows (entry : NamedEntry) :
    Shows c (entryDetails detailArg entry) fun details =>
      details = detailsShown c detailArg entry := by
  unfold entryDetails detailsShown
  split
  next => exact addDetailedDatasetMetadata_shows _ _
  next => exact .ret rfl

theorem entryMembers_behind (entry : NamedEntry) :
    Shows c (entryMembers name path listMembersArg entry) Behind := by
  unfold entryMembers
  split
  next => exact addMemberedDatasetMetadata_behind _ _ _ _
  next => exact .ret behind_nil

/-- The details of an entry are those of its DSCB; what is printed behind them has other keys. -/
theorem entryMetadata_shows (entry : NamedEntry) :
    Shows c (entryMetadata name path detailArg listMembersArg entry) fun json =>
      ∃ members, Behind members ∧
        json = object (entryProperties entry ++ detailsShown c detailArg entry ++ members) := by
  unfold entryMetadata
  refine .bind (entryDetails_shows entry) ?_
  rintro _ rfl
  exact .bind (entryMembers_behind entry) fun members hmembers => .ret ⟨members, hmembers, rfl⟩

/-! ## A listing -/

/-- What holds of the first of the printed entries. -/
def FirstShown (post : NamedEntry → Json → Prop) (entries : List NamedEntry) (datasets : List Json) :
    Prop :=
  datasets.length = entries.length ∧
    ∀ entry, entries.head? = some entry → ∃ json, datasets.head? = some json ∧ post entry json

theorem entriesMetadata_shows {post : NamedEntry → Json → Prop} {entries : List NamedEntry}
    (h : ∀ entry, entries.head? = some entry →
      Shows c (entryMetadata name path detailArg listMembersArg entry) (post entry)) :
    Shows c (entriesMetadata name path detailArg listMembersArg entries)
      (FirstShown post entries) := by
  have hlength : ∀ entries, Shows c (entriesMetadata name path detailArg listMembersArg entries)
      fun datasets => datasets.length = entries.length := by
    intro entries
    induction entries with
    | nil => exact .ret rfl
    | cons entry entries ih =>
      refine .bind (entryMetadata_shows entry) fun json _ => .bind ih fun rest hrest => .ret ?_
      rw [List.length_cons, List.length_cons, hrest]
  cases entries with
  | nil => exact .ret ⟨rfl, fun _ hhead => by cases hhead⟩
  | cons entry entries =>
    refine .bind (h entry rfl) fun json hjson => .bind (hlength entries) fun rest hrest => .ret ?_
    refine ⟨by rw [List.length_cons, List.length_cons, hrest], fun _ hhead => ?_⟩
    cases hhead
    exact ⟨json, rfl, hjson⟩

/-- The data sets that metadata is about. -/
def datasetsOf (metadata : Json) : List Json :=
  Properties.getArray (metadata.asObject.getD []) "datasets"

theorem datasetsOf_object (datasets : List Json) :
    datasetsOf (object [("datasets", array datasets)]) = datasets := by
  rw [datasetsOf, Json.asObject_object, Option.getD_some, Properties.getArray,
    Properties.value_cons, if_pos rfl]
  rfl

theorem firstDataset_eq (metadata : Json) :
    firstDataset metadata = (datasetsOf metadata).head?.bind asObject := rfl

/-- **What a listing shows**, of its first entry and in number. -/
theorem getDatasetMetadata_shows (post : NamedEntry → Json → Prop)
    (h : ∀ entry, (c.list (metadataFilter name.dsn path (some "true"))).head? = some entry →
      Shows c (entryMetadata name path detailArg listMembersArg entry) (post entry)) :
    Shows c (getDatasetMetadata name path (some "true") detailArg listMembersArg) fun metadata =>
      FirstShown post (c.list (metadataFilter name.dsn path (some "true")))
        (datasetsOf metadata) := by
  unfold getDatasetMetadata
  refine .bind (.asked rfl) ?_
  rintro _ rfl
  refine .bind (entriesMetadata_shows h) fun datasets hdatasets => .ret ?_
  rw [datasetsOf_object]
  exact hdatasets

/-! ## What is read back -/

/-- The keys of details are found behind an entry and before its members. -/
theorem value_shown {entry : NamedEntry} {details members : Properties}
    (hmembers : Behind members) (key : String)
    (hkey : key ∈ ["space", "secnd", "prime", "recfm", "dsorg"]) :
    Properties.value (entryProperties entry ++ details ++ members) key =
      Properties.value details key := by
  have hne : key ≠ "name" ∧ key ≠ "csiEntryType" ∧ key ≠ "volser" ∧ key ≠ "members" ∧
      key ≠ "error" := by
    simp only [List.mem_cons, List.not_mem_nil, or_false] at hkey
    rcases hkey with rfl | rfl | rfl | rfl | rfl <;> decide
  have hbehind : Properties.value members key = none := by
    rw [Properties.value, Option.map_eq_none_iff, List.find?_eq_none]
    intro p hp heq
    rcases hmembers p hp with h | h
    · exact hne.2.2.2.1 ((beq_iff_eq.mp heq).symm.trans h)
    · exact hne.2.2.2.2 ((beq_iff_eq.mp heq).symm.trans h)
  have hentry : Properties.value (entryProperties entry) key = none := by
    unfold entryProperties
    rw [List.cons_append, List.singleton_append, Properties.value_cons, if_neg hne.1.symm,
      Properties.value_cons, if_neg hne.2.1.symm]
    split
    next => rw [Properties.value_cons, if_neg hne.2.2.1.symm, Properties.value_nil]
    next => rfl
  rw [Properties.value_append, Properties.value_append, hentry, hbehind, Option.none_or,
    Option.or_none]

theorem ofProperties_shown {entry : NamedEntry} {details members : Properties}
    (hmembers : Behind members) :
    DatasetAttributes.ofProperties (entryProperties entry ++ details ++ members) =
      DatasetAttributes.ofProperties details := by
  simp only [DatasetAttributes.ofProperties, Properties.getObject, Properties.getString,
    Properties.getNumber, value_shown hmembers "space" (by decide),
    value_shown hmembers "secnd" (by decide),
    value_shown hmembers "prime" (by decide),
    value_shown hmembers "recfm" (by decide),
    value_shown hmembers "dsorg" (by decide)]

/-- The attributes of a data set: those that its DSCB is printed with, in storage that was given
back; none where there is no DSCB to be shown. -/
def attributesOf (dataset : CatalogedDataset) : DatasetAttributes :=
  match dataset.details with
  | some dscb => (DatasetAttributes.ofProperties (addDetailsFromDSCB dscb)).slhFree
  | none => .none

theorem ofProperties_detailsShown {name : CatalogedName} {dataset : CatalogedDataset}
    (h : c.get name = some dataset) :
    (DatasetAttributes.ofProperties
      (detailsShown c (some "true") ⟨name.chars, dataset.entry⟩)).slhFree =
      attributesOf dataset := by
  unfold detailsShown attributesOf
  cases hmigrated : dataset.entry.volume.isMigrated with
  | true =>
    rw [CatalogedDataset.details, hmigrated]
    rfl
  | false =>
    rw [if_pos ⟨rfl, rfl⟩, Catalog.obtainDscb_of_details h hmigrated]
    cases dataset.details with
    | none => rfl
    | some dscb => rfl

section Named

variable {cataloged : CatalogedName} {dataset : CatalogedDataset}

/-- The entry that is listed of a data set. -/
def CatalogedDataset.named (dataset : CatalogedDataset) (cataloged : CatalogedName) : NamedEntry :=
  ⟨cataloged.chars, dataset.entry⟩

/-- The first data set that is shown for a path is the one that the path names. -/
theorem getDatasetMetadata_shows_first (post : Properties → Prop) (h : c.get cataloged = some dataset)
    (hdsn : name.dsn = cataloged.chars) (hpath : NameInPath cataloged.chars path)
    (hentry : Shows c (entryMetadata name path detailArg listMembersArg (dataset.named cataloged))
      fun json => ∃ shown, json = object shown ∧ post shown) :
    Shows c (getDatasetMetadata name path (some "true") detailArg listMembersArg) fun metadata =>
      ∃ shown, firstDataset metadata = some shown ∧ post shown := by
  have hhead := Catalog.head?_list_metadataFilter h hpath
  refine (getDatasetMetadata_shows (fun _ json => ∃ shown, json = object shown ∧ post shown)
    fun entry he => ?_).mono fun metadata hmetadata => ?_
  · rw [hdsn, hhead, Option.some.injEq] at he
    exact he ▸ hentry
  · rw [hdsn] at hmetadata
    obtain ⟨json, hjson, shown, rfl, hshown⟩ := hmetadata.2 _ hhead
    exact ⟨shown, by rw [firstDataset_eq, hjson]; rfl, hshown⟩

/-- **What is read back** are the attributes of the data set itself. -/
theorem getDatasetAttributes_shown (h : c.get cataloged = some dataset)
    (hdsn : name.dsn = cataloged.chars) (hpath : NameInPath cataloged.chars path) :
    Shows c (getDatasetMetadata name path (some "true") (some "true") listMembersArg)
      fun metadata => getDatasetAttributes metadata = attributesOf dataset := by
  refine (getDatasetMetadata_shows_first (fun shown =>
    (DatasetAttributes.ofProperties shown).slhFree = attributesOf dataset) h hdsn hpath
    ((entryMetadata_shows _).mono fun json hjson => ?_)).mono fun metadata hmetadata => ?_
  · obtain ⟨members, hmembers, rfl⟩ := hjson
    refine ⟨_, rfl, ?_⟩
    rw [ofProperties_shown hmembers]
    exact ofProperties_detailsShown h
  · obtain ⟨shown, hfirst, hshown⟩ := hmetadata
    rw [getDatasetAttributes, hfirst]
    exact hshown

end Named

/-- **The existence answer** is whether something is listed. -/
theorem checkIfDatasetExists_shown (path : Text) :
    Shows c (checkIfDatasetExistsAndRespond path false) fun answer =>
      answer = if c.list (metadataFilter (extractDatasetAndMemberName path).dsn path
        (some "true")) = [] then 0 else 1 := by
  unfold checkIfDatasetExistsAndRespond
  rw [if_neg Bool.false_ne_true]
  refine .bind (getDatasetMetadata_shows (fun _ _ => True) fun entry _ =>
    (entryMetadata_shows entry).mono fun _ _ => trivial) fun metadata hmetadata => ?_
  have hlength := hmetadata.1
  rw [show Properties.getArray (metadata.asObject.getD []) "datasets" = datasetsOf metadata from rfl,
    hlength]
  split
  next hpos => exact .ret (by rw [if_neg (List.length_pos_iff.mp hpos)])
  next hpos => exact .ret (by rw [if_pos (List.length_eq_zero_iff.mp (by omega))])

end Zss.Datasets
