import Zss.Datasets.Metadata
import Zss.Lib.Listing
import Zss.Lib.NamePattern

/-!
# The catalog

The data sets of a system by their names, with what the catalog and the VTOC have of each and what is
in it. Names have no wildcards; a search finds the names that its filter matches, and lists a name
before those that begin with it. So the filter that `getDatasetMetadata` makes of a name finds the
data set first, if there is one (`Catalog.head?_list_metadataFilter`).
-/

namespace Zss.Datasets

open Zss.Lib

/-! ## Names -/

/-- How the catalog search writes a filter. -/
def csiSyntax : PatternSyntax Char := ⟨'.', '*', '%'⟩

/-- A name as the catalog has it: in a field of blanks, without wildcards. -/
@[ext]
structure CatalogedName where
  chars : Text
  length_eq : chars.length = 44
  plain : csiSyntax.Plain (trimmed chars)

instance : DecidableEq CatalogedName := fun _ _ => decidable_of_iff _ CatalogedName.ext_iff.symm

/-- A name that a data set can have. -/
def catalogedName (dsn : Text) : Option CatalogedName :=
  if h : dsn.length = 44 ∧ csiSyntax.Plain (trimmed dsn) then some ⟨dsn, h.1, h.2⟩ else none

theorem catalogedName_chars (name : CatalogedName) : catalogedName name.chars = some name :=
  dif_pos ⟨name.length_eq, name.plain⟩

variable {dsn path : Text} {name : CatalogedName}

theorem chars_of_catalogedName (h : catalogedName dsn = some name) : name.chars = dsn := by
  unfold catalogedName at h
  split at h
  next => exact (Option.some.inj h) ▸ rfl
  next => cases h

/-- One name begins another, up to a separator. -/
def aboveName (name name' : CatalogedName) : Prop :=
  trimmed name.chars ++ ['.'] <+: trimmed name'.chars

instance : DecidableRel aboveName := fun name name' =>
  inferInstanceAs (Decidable (trimmed name.chars ++ ['.'] <+: trimmed name'.chars))

instance : IsStrictOrder CatalogedName aboveName where
  irrefl name h := by
    have := h.length_le
    rw [List.length_append, List.length_singleton] at this
    omega
  trans _ _ _ h h' := h.trans ((List.prefix_append ..).trans h')

theorem trimmed_append_blanks (t : Text) (n : Nat) :
    trimmed (t ++ List.replicate n ' ') = trimmed t := by
  induction n with
  | zero => rw [List.replicate_zero, List.append_nil]
  | succ n ih =>
    rw [List.replicate_succ', ← List.append_assoc, trimmed, List.rdropWhile_concat_pos _ _ _ (by rfl)]
    exact ih

/-- A text is made of what is left when its blanks are taken off, and the blanks. -/
theorem exists_blanks (t : Text) : ∃ n, t = trimmed t ++ List.replicate n ' ' := by
  induction t using List.reverseRecOn with
  | nil => exact ⟨0, rfl⟩
  | append_singleton t c ih =>
    by_cases hc : c = ' '
    · obtain ⟨n, hn⟩ := ih
      refine ⟨n + 1, ?_⟩
      rw [trimmed, List.rdropWhile_concat_pos _ _ _ (by simpa using hc), List.replicate_succ',
        ← List.append_assoc, hc]
      exact congrArg (· ++ [' ']) hn
    · refine ⟨0, ?_⟩
      rw [trimmed, List.rdropWhile_concat_neg _ _ _ (by simpa using hc), List.replicate_zero,
        List.append_nil]

/-- Fields of one length with the same name in them are equal. -/
theorem eq_of_trimmed_eq {t t' : Text} (hlength : t.length = t'.length)
    (h : trimmed t = trimmed t') : t = t' := by
  obtain ⟨n, hn⟩ := exists_blanks t
  obtain ⟨n', hn'⟩ := exists_blanks t'
  have hlengths := hlength
  rw [hn, hn', List.length_append, List.length_append, h, Nat.add_left_cancel_iff,
    List.length_replicate, List.length_replicate] at hlengths
  rw [hn, hn', h, hlengths]

theorem trimmed_length_le (t : Text) : (trimmed t).length ≤ t.length := by
  obtain ⟨n, hn⟩ := exists_blanks t
  have := congrArg List.length hn
  rw [List.length_append] at this
  omega

theorem CatalogedName.eq_of_trimmed {name name' : CatalogedName}
    (h : trimmed name.chars = trimmed name'.chars) : name = name' := by
  have hchars := eq_of_trimmed_eq (name.length_eq.trans name'.length_eq.symm) h
  cases name
  cases name'
  cases hchars
  rfl

/-! ## Data sets -/

instance : IsStrictOrder Text fun _ _ => False where
  irrefl _ h := h
  trans _ _ _ h _ := h

/-- The members of a partitioned data set, with their records. -/
abbrev Members := Listing Text (List Bytes) fun _ _ => False

/-- What is in a data set. -/
inductive Contents where
  | records (records : List Bytes)
  | members (members : Members)

/-- A data set of the catalog. -/
structure CatalogedDataset where
  entry : CatalogEntry
  dscb : Option Dscb
  contents : Contents
  volser_length : ∀ volser, entry.volser = some volser → volser.length = 6

/-- The names of the members. -/
def CatalogedDataset.memberNames (dataset : CatalogedDataset) : List Text :=
  match dataset.contents with
  | .records _ => []
  | .members members => members.entries.map Prod.fst

abbrev Catalog := Listing CatalogedName CatalogedDataset aboveName

namespace Catalog

variable (c : Catalog)

/-- The data set of a name. -/
def find (dsn : Text) : Option CatalogedDataset := (catalogedName dsn).bind c.get

/-- The filter matches the name. -/
def matchesEntry (filter : Text) (e : CatalogedName × CatalogedDataset) : Bool :=
  csiSyntax.matchesName filter (trimmed e.1.chars)

/-- What a search lists. -/
def list (filter : Text) : List NamedEntry :=
  (c.entries.filter (matchesEntry filter)).map fun e => ⟨e.1.chars, e.2.entry⟩

/-- What the search for a name lists. -/
def search (dsn : Text) : List CatalogEntry := (c.list (trimmed dsn)).map NamedEntry.entry

variable {c}

theorem find_chars (name : CatalogedName) : c.find name.chars = c.get name := by
  rw [find, catalogedName_chars]
  rfl

theorem find_eq_some {dataset : CatalogedDataset} (h : c.find dsn = some dataset) :
    ∃ name : CatalogedName, name.chars = dsn ∧ c.get name = some dataset := by
  obtain ⟨name, hname, hget⟩ := Option.bind_eq_some_iff.mp h
  exact ⟨name, chars_of_catalogedName hname, hget⟩

/-- A name without wildcards, as a filter, matches that name alone. -/
theorem matchesEntry_plain (hplain : csiSyntax.Plain (trimmed dsn)) (hlength : dsn.length = 44)
    (e : CatalogedName × CatalogedDataset) :
    matchesEntry (trimmed dsn) e = true ↔ e.1.chars = dsn := by
  rw [matchesEntry, PatternSyntax.matchesName_plain hplain]
  exact ⟨eq_of_trimmed_eq (e.1.length_eq.trans hlength.symm), fun h => by rw [h]⟩

end Catalog

/-! ## The filter of a metadata listing -/

theorem indexOfString_le {t sub : Text} {i : Nat} (h : indexOfString t sub = some i) :
    i ≤ t.length := by
  have := List.mem_of_find?_eq_some h
  exact Nat.le_of_lt_succ (List.mem_range.mp this)

/-- The name of a path is shorter than the path. -/
def NameInPath (dsn path : Text) : Prop := (trimmed dsn).length + 4 ≤ path.length

/-- A path that leaves room is listed with what begins with its name. -/
theorem metadataFilter_of_short (hname : NameInPath dsn path) (hshort : path.length ≤ 41) :
    metadataFilter dsn path (some "true") = trimmed dsn ++ ['.', '*', '*'] := by
  have hdbl : position (indexOfString (trimmed dsn) ['*', '*']) ≠ (path.length : Int) - 2 := by
    unfold NameInPath at hname
    cases hindex : indexOfString (trimmed dsn) ['*', '*'] with
    | none =>
      simp only [position, Option.map_none, Option.getD_none]
      omega
    | some i =>
      have := indexOfString_le hindex
      simp only [position, Option.map_some, Option.getD_some, Int.ofNat_eq_natCast]
      omega
  have hle : path.length ≤ 44 := Nat.le_trans hshort (by decide)
  simp only [metadataFilter, hle, hdbl, hshort, and_self, false_and, if_true, if_false]

/-- A longer one is listed under its name alone. -/
theorem metadataFilter_of_long (hlong : 41 < path.length) :
    metadataFilter dsn path (some "true") = trimmed dsn := by
  have hnot : ¬ path.length ≤ 41 := Nat.not_le_of_lt hlong
  simp only [metadataFilter, hnot, if_false, ite_self]

namespace Catalog

variable {c : Catalog}

/-- What the filter for a path lists. -/
theorem matchesEntry_metadataFilter (hname : NameInPath dsn path)
    (hplain : csiSyntax.Plain (trimmed dsn)) (hlength : dsn.length = 44)
    (e : CatalogedName × CatalogedDataset) :
    matchesEntry (metadataFilter dsn path (some "true")) e = true ↔
      e.1.chars = dsn ∨ path.length ≤ 41 ∧ trimmed dsn ++ ['.'] <+: trimmed e.1.chars := by
  by_cases hshort : path.length ≤ 41
  · have heq : trimmed e.1.chars = trimmed dsn ↔ e.1.chars = dsn :=
      ⟨eq_of_trimmed_eq (e.1.length_eq.trans hlength.symm), fun h => by rw [h]⟩
    have hbelow : csiSyntax.matchesName (trimmed dsn ++ ['.', '*', '*']) (trimmed e.1.chars) = true ↔
        trimmed e.1.chars = trimmed dsn ∨ trimmed dsn ++ ['.'] <+: trimmed e.1.chars :=
      PatternSyntax.matchesName_below hplain (by decide)
    rw [metadataFilter_of_short hname hshort, matchesEntry, hbelow, heq]
    exact or_congr_right (and_iff_right hshort).symm
  · rw [metadataFilter_of_long (Nat.lt_of_not_le hshort), matchesEntry_plain hplain hlength]
    exact ⟨.inl, fun h => h.resolve_right fun h => hshort h.1⟩

/-- **The data set of a path is listed first.** -/
theorem head?_list_metadataFilter {dataset : CatalogedDataset} (h : c.get name = some dataset)
    (hname : NameInPath name.chars path) :
    (c.list (metadataFilter name.chars path (some "true"))).head? =
      some ⟨name.chars, dataset.entry⟩ := by
  have hmatches := matchesEntry_metadataFilter hname name.plain name.length_eq
  rw [list, List.head?_map, Listing.head?_filter h _ ((hmatches _).mpr (.inl rfl))]
  · rfl
  · intro e _ he
    refine ((hmatches e).mp he).imp (fun hc => ?_) fun hc => hc.2
    exact CatalogedName.eq_of_trimmed (by rw [hc])

/-- **The existence answer.** Something is listed for a path exactly if the data set is there, or
something begins with its name and the path is short. -/
theorem list_metadataFilter_ne_nil (hname : NameInPath dsn path)
    (hplain : csiSyntax.Plain (trimmed dsn)) (hlength : dsn.length = 44) :
    c.list (metadataFilter dsn path (some "true")) ≠ [] ↔
      (c.find dsn).isSome = true ∨
        path.length ≤ 41 ∧ ∃ e ∈ c.entries, trimmed dsn ++ ['.'] <+: trimmed e.1.chars := by
  have hmatches := matchesEntry_metadataFilter hname hplain hlength
  have hfind : (c.find dsn).isSome = true ↔ ∃ e ∈ c.entries, e.1.chars = dsn := by
    constructor
    · intro h
      obtain ⟨dataset, hdataset⟩ := Option.isSome_iff_exists.mp h
      obtain ⟨name, rfl, hget⟩ := find_eq_some hdataset
      exact ⟨_, Listing.get_eq_some_iff.mp hget, rfl⟩
    · rintro ⟨e, he, rfl⟩
      rw [find_chars, Listing.get_eq_some_iff.mpr he]
      rfl
  rw [list, Ne, List.map_eq_nil_iff, List.filter_eq_nil_iff]
  simp only [not_forall, Classical.not_not, hmatches, hfind]
  constructor
  · rintro ⟨e, he, h | h⟩
    · exact .inl ⟨e, he, h⟩
    · exact .inr ⟨h.1, e, he, h.2⟩
  · rintro (⟨e, he, h⟩ | ⟨hshort, e, he, h⟩)
    · exact ⟨e, he, .inl h⟩
    · exact ⟨e, he, .inr ⟨hshort, h⟩⟩

end Catalog

/-! ## What the catalog answers -/

/-- The DSCB that a listing shows of a data set. -/
def CatalogedDataset.details (dataset : CatalogedDataset) : Option Dscb :=
  if dataset.entry.volume.isMigrated then none
  else if dataset.entry.volume.volser.isSome then dataset.dscb
  else none

namespace Catalog

variable (c : Catalog)

/-- The DSCB of a data set on a volume. -/
def obtainDscb (dsn volser : Text) : Option Dscb :=
  (c.find dsn).bind fun dataset => if dataset.entry.volser = some volser then dataset.dscb else none

/-- The members of a data set. -/
def memberNames (dsn : Text) : List Text :=
  ((c.find dsn).map CatalogedDataset.memberNames).getD []

/-- The answers that the catalog determines. -/
def answer? : (q : CopyCall) → Option q.Answer
  | .base (.returnEntries dsn) => some (c.search dsn)
  | .base (.obtainDSCB1 dsn volser) => some (c.obtainDscb dsn volser)
  | .listEntries filter => some (c.list filter)
  | .getPDSMembers dsn => some (c.memberNames dsn)
  | .matchWithWildcards query _ => if query = ['*'] then some true else none
  | _ => none

/-- An answer that does not contradict the catalog. -/
def Answers (e : Event copyCalls) : Prop := ∀ answer, c.answer? e.call = some answer → e.answer = answer

/-- The catalog answers what it can. -/
def answers (q : CopyCall) : q.Answer := (c.answer? q).getD q.anyAnswer

variable {c}

/-- A program has a run that the catalog answers. -/
theorem exists_run (c : Catalog) {α : Type} (p : CopyHandler α) :
    ∃ events a, p.Runs events a ∧ ∀ e ∈ events, c.Answers e := by
  refine ⟨_, _, Program.runs_exec c.answers p, fun e he answer hanswer => ?_⟩
  rw [Program.answer_of_mem_exec c.answers he, answers, hanswer, Option.getD_some]

/-- The listing finds what the VTOC has. -/
theorem obtainDscb_of_details {dataset : CatalogedDataset} (h : c.get name = some dataset)
    (hvolume : dataset.entry.volume.isMigrated = false) :
    c.obtainDscb name.chars (dataset.entry.volume.volser.getD []) = dataset.details := by
  rw [obtainDscb, find_chars, h, CatalogedDataset.details, hvolume, if_neg Bool.false_ne_true,
    Option.bind_some]
  unfold CatalogEntry.volume
  split
  next htype =>
    cases hvolser : dataset.entry.volser with
    | none => rfl
    | some volser => simp
  next htype =>
    have hne : dataset.entry.volser ≠ some [] := fun hvolser => by
      have := dataset.volser_length [] hvolser
      cases this
    simp [hne]

end Catalog

end Zss.Datasets
