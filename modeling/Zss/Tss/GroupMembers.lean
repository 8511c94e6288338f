import Zss.Lib.Chunks
import Zss.Tss.AcidLine

/-!
# The members of a group

`GroupListing` says what the listing of a group is: a line of the group, the line of the ACIDs and
lines that continue it, in columns of 12, blank lines, and a line that ends it. The handler reads up
to four columns of a line, whatever is in them (`readIds`), and stops where it has filled the
caller's buffer exactly. The list is reported as it should be exactly if the whole listing is in the
first block, the columns read do not pass the end of the buffer, no flag of a line that is read is set
outside of its array, and the estimate of four entries for a line leads to the right answer
(`groupList_reported_iff`).

## What is not established

The access types of the entries: the flags of a line that are set within the array may be those of
other members (`acidLine_read_iff` says when they are not). Nothing is said about listings that end
without a line that says so, or about a handler that reads past a block or writes outside of the array
beyond that the call does not do what it is for.
-/

namespace Zss.Tss

open Zss.Lib

/-! ## The listing of a group -/

/-- A line of members, from its first ACID on. -/
structure MemberRow where
  members : List Member
  text : Text

structure MemberRow.Valid (row : MemberRow) : Prop where
  members_ne_nil : row.members ≠ []
  members : ∀ member ∈ row.members, member.Valid
  text : MemberText row.members row.text

/-- The lines of members after the first, with blank lines between. -/
inductive MemberLines : List MemberRow → List Text → Prop
  | done : MemberLines [] []
  | blank {rows line lines} : tssIsLineBlank line = true → MemberLines rows lines →
    MemberLines rows (line :: lines)
  | row {row rows indent lines} : row.Valid →
    tssIsOutputDone (blanks indent ++ row.text) = false → MemberLines rows lines →
    MemberLines (row :: rows) ((blanks indent ++ row.text) :: lines)

/-- A complete listing. -/
inductive GroupListing : List MemberRow → List Text → Prop
  | mk {header row rows indent gap inner body last} : tssIsErrorDetected header = false →
    row.Valid → MemberLines rows body → tssIsOutputDone last = true →
    GroupListing (row :: rows)
      (header :: (keyText indent tssAcidsKey gap ++ (blanks inner ++ row.text)) :: (body ++ [last]))

/-- The ACIDs of all members, in order. -/
def memberIds (rows : List MemberRow) : List Text :=
  rows.flatMap fun row => row.members.map Member.entryId

/-! ## What a call is for -/

/-- A reply with all members, or one that says that there is too little space, with their number. -/
def ReportsMembers (rows : List MemberRow) (result : Int × GroupListReply) : Prop :=
  result.1 = rcZisGrpalsrvOk ∧ result.2.resultBuffer.map (·.id) = memberIds rows ∧
      result.2.output.entriesExtracted = (memberIds rows).length ∨
    result.1 = rcZisGrpalsrvInsufficientSpace ∧
      result.2.output.entriesFound = (memberIds rows).length

/-- The handler stores no more than there is room for, and the call reports the members. -/
structure ReportsGroupList (rows : List MemberRow) (capacity : Nat)
    (handled : Option (Int × TssGroupAccessListParms))
    (result : Option (Int × Option GroupListReply)) : Prop where
  stored : ∃ rc parms, handled = some (rc, parms) ∧ parms.tmpResultBuffer.length ≤ capacity
  reported : ∃ rc reply, result = some (rc, some reply) ∧ ReportsMembers rows (rc, reply)

/-- A call that gets to its command. -/
structure IssuesGroupList (env : GroupListEnv) (parm : GroupListParmList) : Prop where
  valid : validateGroupAccessListParmList parm = rcZisGrpalsrvOk
  caller : env.secmgmtGetCallerUserID.isSome = true
  storage : env.safeMalloc (16 * parm.resultBufferCapacity) = true

/-- The flags of a line are set within its array: no member that is read has one of the last two
indicators as its first. -/
def MemberRow.FlaggedWithin (row : MemberRow) : Prop :=
  ∀ member ∈ row.members.take 4, ∀ i ∈ member.firstIndicator, i < 4

instance (row : MemberRow) : Decidable row.FlaggedWithin :=
  inferInstanceAs (Decidable (∀ member ∈ row.members.take 4, ∀ i ∈ member.firstIndicator, i < 4))

/-- How many ACIDs are read of a line: the columns it takes up, at most four. -/
def MemberRow.acidsRead (row : MemberRow) : Nat := min 4 ((row.text.length + 11) / acidOffset)

/-- How many ACIDs are read of lines. -/
def acidsReadOf : List MemberRow → Nat
  | [] => 0
  | row :: rows => row.acidsRead + acidsReadOf rows

/-- The condition on a listing and a capacity: the listing is in the first block; the ACIDs read fit,
or those of some of the first lines fill the buffer exactly, and the flags of these lines are set
within their arrays; and either every line is read as its members and the estimate for the lines
exceeds them by at most four, or the estimate is exact and exceeds what is stored by more. -/
structure FitsGroupList (rows : List MemberRow) (blocks : List RadminCommandOutput)
    (capacity : Nat) : Prop where
  first : ∃ block rest, blocks = block :: rest ∧ block.lines = outputLines blocks
  stored : (acidsReadOf rows ≤ capacity ∧ ∀ row ∈ rows, row.FlaggedWithin) ∨
    ∃ k, acidsReadOf (rows.take k) = capacity ∧ ∀ row ∈ rows.take k, row.FlaggedWithin
  reported : (∀ row ∈ rows, row.members.length = row.acidsRead) ∧ acidsReadOf rows ≤ capacity ∧
      entryDifference (entriesEstimated rows.length) (i32 (acidsReadOf rows)) ≤ 4 ∨
    u32 (entriesEstimated rows.length) = (memberIds rows).length ∧
      4 < entryDifference (entriesEstimated rows.length) (i32 (min (acidsReadOf rows) capacity))

/-! ## Rows -/

/-- What is read of a line of members. -/
def MemberRow.ids (row : MemberRow) : List Text := readIds 4 row.text

theorem MemberRow.length_ids (row : MemberRow) : row.ids.length = row.acidsRead :=
  length_readIds 4 row.text

theorem MemberRow.Valid.text_ne_nil {row : MemberRow} (h : row.Valid) : row.text ≠ [] := by
  obtain ⟨member, members, hmembers⟩ := List.exists_cons_of_ne_nil h.members_ne_nil
  have htext := h.text
  rw [hmembers] at htext
  obtain ⟨⟨first, rest, hcons, -⟩, -⟩ :=
    htext.cons (h.members member (hmembers ▸ List.mem_cons_self))
  rw [hcons]
  exact List.cons_ne_nil first rest

theorem MemberRow.Valid.ids_eq {row : MemberRow} (h : row.Valid) :
    ∃ n, row.ids = (row.members.map Member.entryId).take 4 ++ List.replicate n (blanks 8) :=
  ⟨_, readIds_memberText h.text h.members 4⟩

theorem memberIds_cons (row : MemberRow) (rows : List MemberRow) :
    memberIds (row :: rows) = row.members.map Member.entryId ++ memberIds rows := rfl

theorem length_flatMap_ids (rows : List MemberRow) :
    (rows.flatMap MemberRow.ids).length = acidsReadOf rows := by
  induction rows with
  | nil => rfl
  | cons row rows ih =>
    rw [List.flatMap_cons, List.length_append, ih, MemberRow.length_ids, acidsReadOf]

variable {rows : List MemberRow} {n : Nat}

/-- No member of a listing has a blank ACID. -/
theorem blank_not_mem_memberIds (hvalid : ∀ row ∈ rows, row.Valid) : blanks 8 ∉ memberIds rows := by
  intro h
  obtain ⟨row, hrow, hmember⟩ := List.mem_flatMap.mp h
  obtain ⟨member, hmem, hid⟩ := List.mem_map.mp hmember
  exact ((hvalid row hrow).members member hmem).entryId_ne hid

/-- Of a row without blank ACIDs no more is read than it has members. -/
theorem MemberRow.Valid.acidsRead_le {row : MemberRow} (h : row.Valid)
    (hblank : blanks 8 ∉ row.ids) : row.acidsRead ≤ row.members.length := by
  obtain ⟨n, hn⟩ := h.ids_eq
  have hlen := row.length_ids
  cases n with
  | zero =>
    rw [hn, List.length_append, List.length_take, List.length_map, List.length_replicate] at hlen
    omega
  | succ n => exact absurd (hn ▸ List.mem_append_right _ List.mem_cons_self) hblank

theorem acidsReadOf_le (hle : ∀ row ∈ rows, row.acidsRead ≤ row.members.length) :
    acidsReadOf rows ≤ (memberIds rows).length := by
  induction rows with
  | nil => exact Nat.le_refl 0
  | cons row rows ih =>
    have hrow := hle row List.mem_cons_self
    have hrest := ih fun r hr => hle r (List.mem_cons_of_mem _ hr)
    rw [acidsReadOf, memberIds_cons, List.length_append, List.length_map]
    omega

/-- Rows of which no more is read than they have members, and altogether as much, are read as their
members each. -/
theorem length_eq_of_total_eq (hle : ∀ row ∈ rows, row.acidsRead ≤ row.members.length)
    (htotal : acidsReadOf rows = (memberIds rows).length) :
    ∀ row ∈ rows, row.members.length = row.acidsRead := by
  induction rows with
  | nil => exact List.forall_mem_nil _
  | cons row rows ih =>
    have hrow := hle row List.mem_cons_self
    have hrest := acidsReadOf_le fun r hr => hle r (List.mem_cons_of_mem row hr)
    rw [acidsReadOf, memberIds_cons, List.length_append, List.length_map] at htotal
    intro r hr
    rcases List.mem_cons.mp hr with rfl | hr
    · omega
    · exact ih (fun r hr => hle r (List.mem_cons_of_mem _ hr)) (by omega) r hr

/-- What is read of rows is their members only if each row is read as its own. -/
theorem flatMap_ids_eq_iff (hvalid : ∀ row ∈ rows, row.Valid) :
    rows.flatMap MemberRow.ids = memberIds rows ↔
      ∀ row ∈ rows, row.members.length = row.acidsRead := by
  constructor
  · intro heq
    apply length_eq_of_total_eq
    · intro row hrow
      apply (hvalid row hrow).acidsRead_le
      intro hblank
      apply blank_not_mem_memberIds hvalid
      rw [← heq]
      exact List.mem_flatMap.mpr ⟨row, hrow, hblank⟩
    · rw [← heq, length_flatMap_ids]
  · intro h
    apply List.flatMap_congr
    intro row hrow
    obtain ⟨n, hn⟩ := (hvalid row hrow).ids_eq
    have hlen := row.length_ids
    rw [← h row hrow, hn, List.length_append, List.length_take, List.length_map,
      List.length_replicate] at hlen
    have hfour : row.members.length ≤ 4 := by
      rw [h row hrow]
      exact Nat.min_le_left ..
    have hzero : n = 0 := by omega
    rw [hn, hzero, List.replicate_zero, List.append_nil, List.take_of_length_le]
    rw [List.length_map]
    exact hfour

/-- The rows that the extracting pass reads, with so many entries in the buffer: until it is full. -/
def rowsRead (capacity : Nat) : Nat → List MemberRow → List MemberRow
  | _, [] => []
  | used, row :: rows =>
    if used = capacity then [] else row :: rowsRead capacity (used + row.acidsRead) rows

theorem MemberRow.Valid.acidsRead_pos {row : MemberRow} (h : row.Valid) : 0 < row.acidsRead := by
  have hpos := List.length_pos_iff.mpr h.text_ne_nil
  rw [MemberRow.acidsRead, acidOffset]
  omega

theorem rowsRead_full {used capacity : Nat} (h : used = capacity) (rows : List MemberRow) :
    rowsRead capacity used rows = [] := by
  cases rows with
  | nil => rfl
  | cons row rows => exact if_pos h

/-- Rows that fit are all read. -/
theorem rowsRead_fits (hvalid : ∀ row ∈ rows, row.Valid) {used capacity : Nat}
    (h : used + acidsReadOf rows ≤ capacity) : rowsRead capacity used rows = rows := by
  induction rows generalizing used with
  | nil => rfl
  | cons row rows ih =>
    obtain ⟨hrow, hrows⟩ := List.forall_mem_cons.mp hvalid
    have hpos := hrow.acidsRead_pos
    rw [acidsReadOf] at h
    rw [rowsRead, if_neg (by omega), ih hrows (by omega)]

/-- Rows that make up the capacity are the last to be read. -/
theorem rowsRead_boundary (hvalid : ∀ row ∈ rows, row.Valid) {used capacity k : Nat}
    (h : used + acidsReadOf (rows.take k) = capacity) :
    rowsRead capacity used rows = rows.take k := by
  induction rows generalizing used k with
  | nil => rw [List.take_nil, rowsRead]
  | cons row rows ih =>
    obtain ⟨hrow, hrows⟩ := List.forall_mem_cons.mp hvalid
    have hpos := hrow.acidsRead_pos
    cases k with
    | zero => exact rowsRead_full h _
    | succ k =>
      rw [List.take_succ_cons, acidsReadOf] at h
      rw [rowsRead, if_neg (by omega), ih hrows (k := k) (by omega), List.take_succ_cons]

/-- The buffer is not overfilled, and what is read is flagged within the arrays. -/
theorem stored_iff (hvalid : ∀ row ∈ rows, row.Valid) (capacity : Nat) :
    ((acidsReadOf rows ≤ capacity ∧ ∀ row ∈ rows, row.FlaggedWithin) ∨
        ∃ k, acidsReadOf (rows.take k) = capacity ∧ ∀ row ∈ rows.take k, row.FlaggedWithin) ↔
      (acidsReadOf rows ≤ capacity ∨ ∃ k, acidsReadOf (rows.take k) = capacity) ∧
        ∀ row ∈ rowsRead capacity 0 rows, row.FlaggedWithin := by
  constructor
  · rintro (⟨hle, hwithin⟩ | ⟨k, hk, hwithin⟩)
    · exact ⟨.inl hle, by rwa [rowsRead_fits hvalid (by rwa [Nat.zero_add])]⟩
    · exact ⟨.inr ⟨k, hk⟩, by rwa [rowsRead_boundary hvalid (by rwa [Nat.zero_add])]⟩
  · rintro ⟨hle | ⟨k, hk⟩, hwithin⟩
    · rw [rowsRead_fits hvalid (by rwa [Nat.zero_add])] at hwithin
      exact .inl ⟨hle, hwithin⟩
    · rw [rowsRead_boundary hvalid (k := k) (by rwa [Nat.zero_add])] at hwithin
      exact .inr ⟨k, hk, hwithin⟩

theorem chunksLength_ids (rows : List MemberRow) :
    chunksLength (rows.map MemberRow.ids) = acidsReadOf rows := by
  rw [← length_flatten_eq, ← List.flatMap_def, length_flatMap_ids]

/-- When a buffer that is not overfilled holds the members. -/
theorem fillByChunks_ids_eq_iff (hvalid : ∀ row ∈ rows, row.Valid) {capacity : Nat}
    (hstored : (fillByChunks capacity [] (rows.map MemberRow.ids)).length ≤ capacity) :
    fillByChunks capacity [] (rows.map MemberRow.ids) = memberIds rows ↔
      (∀ row ∈ rows, row.members.length = row.acidsRead) ∧ acidsReadOf rows ≤ capacity := by
  have hfits : acidsReadOf rows ≤ capacity →
      fillByChunks capacity [] (rows.map MemberRow.ids) = rows.flatMap MemberRow.ids := by
    intro hle
    rw [fillByChunks_fits (by rwa [List.length_nil, Nat.zero_add, chunksLength_ids]),
      List.nil_append, List.flatMap_def]
  constructor
  · intro heq
    by_cases hle : acidsReadOf rows ≤ capacity
    · rw [hfits hle] at heq
      exact ⟨(flatMap_ids_eq_iff hvalid).mp heq, hle⟩
    · -- the buffer was filled before the last rows, whose members are missing
      obtain ⟨k, hk⟩ := fillByChunks_eq_take capacity [] (rows.map MemberRow.ids)
      rw [List.nil_append, ← List.map_take, ← List.flatMap_def] at hk
      have hsplit : memberIds rows = memberIds (rows.take k) ++ memberIds (rows.drop k) := by
        rw [memberIds, memberIds, memberIds, ← List.flatMap_append, List.take_append_drop]
      have hread : ∀ row ∈ rows.take k, row.acidsRead ≤ row.members.length := by
        intro row hrow
        have hmem := List.mem_of_mem_take hrow
        apply (hvalid row hmem).acidsRead_le
        intro hblank
        apply blank_not_mem_memberIds hvalid
        rw [← heq, hk]
        exact List.mem_flatMap.mpr ⟨row, hrow, hblank⟩
      have hfirst := acidsReadOf_le hread
      have hlen := congrArg List.length heq
      rw [hk, length_flatMap_ids, hsplit, List.length_append] at hlen
      have hnone : memberIds (rows.drop k) = [] := by
        apply List.eq_nil_of_length_eq_zero
        omega
      have hdrop : rows.drop k = [] := by
        cases hrest : rows.drop k with
        | nil => rfl
        | cons row rest =>
          have hrow := hvalid row (List.mem_of_mem_drop (hrest ▸ List.mem_cons_self))
          rw [hrest, memberIds_cons, List.append_eq_nil_iff, List.map_eq_nil_iff] at hnone
          exact absurd hnone.1 hrow.members_ne_nil
      rw [hk, length_flatMap_ids, List.take_of_length_le (List.drop_eq_nil_iff.mp hdrop)] at hstored
      exact absurd hstored hle
  · rintro ⟨hclean, hle⟩
    rw [hfits hle]
    exact (flatMap_ids_eq_iff hvalid).mpr hclean

/-- The rows of a listing are valid. -/
theorem MemberLines.valid {lines : List Text} (h : MemberLines rows lines) :
    ∀ row ∈ rows, row.Valid := by
  induction h with
  | done => exact List.forall_mem_nil _
  | blank _ _ ih => exact ih
  | row hrow _ _ ih => exact List.forall_mem_cons.mpr ⟨hrow, ih⟩

theorem GroupListing.valid {lines : List Text} (h : GroupListing rows lines) :
    ∀ row ∈ rows, row.Valid := by
  cases h with
  | mk _ hrow hbody _ => exact List.forall_mem_cons.mpr ⟨hrow, hbody.valid⟩

/-! ## The passes -/

section

variable {utils : Utils}

theorem acidsInLine_row (hutils : utils.Documented) {row : MemberRow} (hrow : row.Valid)
    {str : Text} {startPos n : Nat} (hstr : str.drop startPos = blanks n ++ row.text) :
    getAcidsInLine utils str acidsOfLine startPos =
      storeColumns (columnsOf row.members 4 row.text) acidsOfLine 0 :=
  acidsInLineFrom_members hutils hstr (fun h => absurd h hrow.members_ne_nil) hrow.text
    hrow.members 4 acidsOfLine 0

/-- The columns of a row are stored where its flags are set within the array. -/
theorem storeColumns_row_isSome_iff (row : MemberRow) :
    (storeColumns (columnsOf row.members 4 row.text) acidsOfLine 0).isSome = true ↔
      row.FlaggedWithin := by
  have hlength : acidsOfLine.length = 4 := rfl
  rw [storeColumns_isSome_iff, hlength, columnsOf, List.forall_mem_append, List.forall_mem_map]
  refine and_iff_left fun column hcolumn i hi => ?_
  rw [List.eq_of_mem_replicate hcolumn] at hi
  cases hi

/-- A line of members is extracted where its flags are set within the array. -/
theorem extractAcids_row (hutils : utils.Documented) {row : MemberRow} (hrow : row.Valid)
    {str : Text} {walk : GroupWalk} (hstr : str.drop walk.startPos = blanks n ++ row.text)
    (hblank : tssIsLineBlank str = false) (hwithin : row.FlaggedWithin) :
    ∃ next, extractAcids utils walk str = some next ∧ next.startPos = 0 ∧ next.overrun = false ∧
      next.buffer.map (·.id) = walk.buffer.map (·.id) ++ row.ids := by
  have hids := readIds_eq hrow.text hrow.members 4
  have hcolumns := length_columnsOf hids
  obtain ⟨⟨acids, acidsFound⟩, hstored⟩ :=
    Option.isSome_iff_exists.mp ((storeColumns_row_isSome_iff row).mpr hwithin)
  have hpos := List.length_pos_iff.mpr hrow.text_ne_nil
  have hroom : 0 + (columnsOf row.members 4 row.text).length ≤ acidsOfLine.length := by
    rw [hcolumns, columnsRead, acidsOfLine, List.length_replicate]
    omega
  obtain ⟨hfound, -, -, hentries⟩ := storeColumns_eq_some hstored hroom
  rw [Nat.zero_add] at hfound
  have hsome : ¬ (acidsFound = 0 ∨ acidsFound > 4) := by
    rw [hfound, hcolumns, columnsRead, acidOffset]
    omega
  have hacids : (acids.take acidsFound).map (·.acid) = row.ids := by
    rw [MemberRow.ids, hids]
    apply List.ext_getElem?
    intro i
    rw [List.getElem?_map, List.getElem?_map, List.getElem?_take, hfound]
    split
    next hlt =>
      have hcolumn := List.getElem?_eq_getElem hlt
      have hentry := hentries i _ hcolumn
      rw [Nat.zero_add] at hentry
      rw [hentry, hcolumn]
      rfl
    next hge =>
      rw [List.getElem?_eq_none (Nat.not_lt.mp hge)]
      rfl
  refine ⟨⟨walk.buffer ++ (acids.take acidsFound).map TssAcidData.entry, 0, false⟩, ?_, rfl, rfl, ?_⟩
  · rw [extractAcids, hblank, if_neg Bool.false_ne_true, acidsInLine_row hutils hrow hstr, hstored]
    exact if_neg hsome
  · rw [List.map_append, List.map_map, ← hacids]
    rfl

/-- Where they are not, something is written outside of it. -/
theorem extractAcids_overrun (hutils : utils.Documented) {row : MemberRow} (hrow : row.Valid)
    {str : Text} {walk : GroupWalk} (hstr : str.drop walk.startPos = blanks n ++ row.text)
    (hblank : tssIsLineBlank str = false) (hbeyond : ¬ row.FlaggedWithin) :
    extractAcids utils walk str = some { walk with overrun := true } := by
  have hnone : storeColumns (columnsOf row.members 4 row.text) acidsOfLine 0 = none :=
    Option.not_isSome_iff_eq_none.mp fun h => hbeyond ((storeColumns_row_isSome_iff row).mp h)
  rw [extractAcids, hblank, if_neg Bool.false_ne_true, acidsInLine_row hutils hrow hstr, hnone]

theorem tssIsLineBlank_blanks_append {row : MemberRow} (hrow : row.Valid) (indent : Nat) :
    tssIsLineBlank (blanks indent ++ row.text) = false := by
  obtain ⟨member, members, hmembers⟩ := List.exists_cons_of_ne_nil hrow.members_ne_nil
  have htext := hrow.text
  rw [hmembers] at htext
  obtain ⟨⟨first, rest, hcons, hfirst⟩, -⟩ :=
    htext.cons (hrow.members member (hmembers ▸ List.mem_cons_self))
  rw [hcons]
  exact tssIsLineBlank_append hfirst

/-- The extracting pass ends, with the ACIDs that are read or something written outside. -/
def ExtractedRows (capacity : Nat) (walk : GroupWalk) (rows : List MemberRow)
    (final : GroupWalk) : Prop :=
  (final.overrun = false ↔ ∀ row ∈ rowsRead capacity walk.buffer.length rows, row.FlaggedWithin) ∧
    (final.overrun = false → final.buffer.map (·.id) =
      fillByChunks capacity (walk.buffer.map (·.id)) (rows.map MemberRow.ids))

/-- A pass with nothing to be read. -/
theorem ExtractedRows.refl {capacity : Nat} {walk : GroupWalk} (hgoing : walk.overrun = false)
    (h : rows = [] ∨ walk.buffer.length = capacity) : ExtractedRows capacity walk rows walk := by
  rcases h with rfl | hfull
  · exact ⟨iff_of_true hgoing (List.forall_mem_nil _), fun _ => rfl⟩
  · refine ⟨iff_of_true hgoing ?_, fun _ => ?_⟩
    · rw [rowsRead_full hfull]
      exact List.forall_mem_nil _
    · exact (fillByChunks_full (by rwa [List.length_map]) _).symm

/-- A row is read, and then the others, if it is flagged within its array. -/
theorem ExtractedRows.row (hutils : utils.Documented) {capacity : Nat} {row : MemberRow}
    (hrow : row.Valid) {rows : List MemberRow} {str : Text} {lines : List Text} {last : Text}
    {walk : GroupWalk} (hgoing : walk.overrun = false) {n : Nat}
    (hstr : str.drop walk.startPos = blanks n ++ row.text) (hblank : tssIsLineBlank str = false)
    (hgo : tssIsOutputDone str = false)
    (ih : ∀ next : GroupWalk, next.startPos = 0 → next.overrun = false →
      ∃ final, plainWalk (stopsExtracting capacity) (extractAcids utils) next (lines ++ [last]) =
        .stopped final ∧ ExtractedRows capacity next rows final) :
    ∃ final, plainWalk (stopsExtracting capacity) (extractAcids utils) walk
        (str :: (lines ++ [last])) = .stopped final ∧
      ExtractedRows capacity walk (row :: rows) final := by
  by_cases hlen : walk.buffer.length = capacity
  · exact ⟨walk, plainWalk_stop (by simp [stopsExtracting, hlen]), .refl hgoing (.inr hlen)⟩
  have hstops : stopsExtracting capacity walk str = false := by
    simp [stopsExtracting, hlen, hgo, hgoing]
  have hread : rowsRead capacity walk.buffer.length (row :: rows) =
      row :: rowsRead capacity (walk.buffer.length + row.acidsRead) rows := if_neg hlen
  by_cases hwithin : row.FlaggedWithin
  · obtain ⟨next, hnext, hstart, hover, hids⟩ :=
      extractAcids_row hutils hrow hstr hblank hwithin
    obtain ⟨final, hfinal, hflags, hbuffer⟩ := ih next hstart hover
    have hlength : next.buffer.length = walk.buffer.length + row.acidsRead := by
      have := congrArg List.length hids
      rwa [List.length_append, List.length_map, List.length_map, row.length_ids] at this
    refine ⟨final, by rw [plainWalk_step hstops hnext, hfinal], ?_, fun h => ?_⟩
    · rw [hflags, hlength, hread, List.forall_mem_cons]
      exact (and_iff_right hwithin).symm
    · rw [hbuffer h, hids, List.map_cons, fillByChunks, if_neg (by rwa [List.length_map])]
  · -- whatever line comes next, the pass is not followed
    obtain ⟨line, more, hmore⟩ :=
      List.exists_cons_of_ne_nil (List.append_ne_nil_of_right_ne_nil lines (List.cons_ne_nil last []))
    refine ⟨{ walk with overrun := true }, ?_, iff_of_false Bool.noConfusion fun h => ?_,
      fun h => Bool.noConfusion h⟩
    · rw [plainWalk_step hstops (extractAcids_overrun hutils hrow hstr hblank hwithin), hmore]
      exact plainWalk_stop (by simp [stopsExtracting])
    · rw [hread] at h
      exact hwithin (h row List.mem_cons_self)

/-- The extracting pass over lines of members. -/
theorem extract_memberLines (hutils : utils.Documented) {capacity : Nat} {lines : List Text}
    {last : Text} (h : MemberLines rows lines) (hlast : tssIsOutputDone last = true)
    (walk : GroupWalk) (hstart : walk.startPos = 0) (hgoing : walk.overrun = false) :
    ∃ final, plainWalk (stopsExtracting capacity) (extractAcids utils) walk (lines ++ [last]) =
        .stopped final ∧ ExtractedRows capacity walk rows final := by
  induction h generalizing walk with
  | done =>
    exact ⟨walk, plainWalk_stop (by simp [stopsExtracting, hlast]), .refl hgoing (.inl rfl)⟩
  | blank hblank _ ih =>
    by_cases hlen : walk.buffer.length = capacity
    · exact ⟨walk, plainWalk_stop (by simp [stopsExtracting, hlen]), .refl hgoing (.inr hlen)⟩
    · have hstops := tssIsOutputDone_of_blank hblank
      rw [List.cons_append, plainWalk_step (by simp [stopsExtracting, hlen, hstops, hgoing])
        (by rw [extractAcids, if_pos hblank])]
      exact ih walk hstart hgoing
  | @row row rows indent lines hrow hgo _ ih =>
    have hstr : (blanks indent ++ row.text).drop walk.startPos = blanks indent ++ row.text := by
      rw [hstart, List.drop_zero]
    exact ExtractedRows.row hutils hrow hgoing hstr (tssIsLineBlank_blanks_append hrow indent) hgo
      fun next hnext => ih next hnext

/-- The counting pass over lines of members. -/
theorem count_memberLines {lines : List Text} {last : Text} (h : MemberLines rows lines)
    (hlast : tssIsOutputDone last = true) (n : Nat) :
    plainWalk stopsCounting countLine n (lines ++ [last]) =
      .stopped (n + rows.length) := by
  induction h generalizing n with
  | done => exact plainWalk_stop hlast
  | @blank rows line lines hblank _ ih =>
    have hstops : stopsCounting n line = false := tssIsOutputDone_of_blank hblank
    have hcount : countLine n line = some n := by rw [countLine, if_pos hblank]
    rw [List.cons_append, plainWalk_step hstops hcount]
    exact ih n
  | @row row rows indent lines hrow hgo _ ih =>
    have hstops : stopsCounting n (blanks indent ++ row.text) = false := hgo
    have hcount : countLine n (blanks indent ++ row.text) = some (n + 1) := by
      rw [countLine, tssIsLineBlank_blanks_append hrow, if_neg Bool.false_ne_true]
    rw [List.cons_append, plainWalk_step hstops hcount, ih, List.length_cons, Nat.add_assoc,
      Nat.add_comm 1]

/-! ## The line of the ACIDs -/

section

variable {indent gap : Nat} {value : Text}

theorem acidsLine_goes_on : tssIsOutputDone (keyText indent tssAcidsKey gap ++ value) = false := by
  cases indent with
  | zero => rfl
  | succ n => rfl

/-- The key of the ACIDs is found, and its delimiter first of all. -/
theorem indexOfString_acidsLine (hutils : utils.Documented) :
    (∃ i, utils.indexOfString (keyText indent tssAcidsKey gap ++ value) tssAcidsKey = some i) ∧
      utils.indexOfString (keyText indent tssAcidsKey gap ++ value) tssKeyDelimiter =
        some (indent + tssAcidsKey.length + gap) := by
  have hkey := occursAt_append (blanks indent) tssAcidsKey (blanks gap ++ tssKeyDelimiter ++ value)
  constructor
  · apply exists_indexOfString hutils (by decide)
    simpa only [keyText, List.append_assoc] using hkey
  · refine (hutils.indexOfString _ _ _ tssKeyDelimiter_ne_nil).mpr ⟨occursAt_keyText, ?_⟩
    intro j hj
    cases hocc : occursAt tssKeyDelimiter (keyText indent tssAcidsKey gap ++ value) j with
    | false => rfl
    | true =>
      -- the delimiter would have its sign before the first one on the line
      have hshape : keyText indent tssAcidsKey gap ++ value =
          blanks indent ++ tssAcidsKey ++ blanks (gap + 1) ++ ('=' :: ' ' :: value) := by
        simp [keyText, blanks, tssKeyDelimiter, List.replicate_succ']
      have hsign : (keyText indent tssAcidsKey gap ++ value)[j + 1]? = some '=' :=
        getElem?_of_occursAt hocc (by decide)
      rw [hshape, List.getElem?_append_left
        (by simp only [List.length_append, length_blanks]; omega)] at hsign
      have hmem := List.mem_of_getElem? hsign
      rw [List.mem_append, List.mem_append] at hmem
      rcases hmem with (hmem | hmem) | hmem
      · exact absurd (eq_blank_of_mem hmem) (by decide)
      · exact absurd hmem (by decide)
      · exact absurd (eq_blank_of_mem hmem) (by decide)

end

/-! ## The handler -/

/-- A listing in the first block: what the handler comes to. -/
theorem groupAccessListHandler_first (hutils : utils.Documented) {rows : List MemberRow}
    {block : RadminCommandOutput} {blocks : List RadminCommandOutput} {status : RadminApiStatus}
    (hstatus : status.racfRC = 0) (hlisting : GroupListing rows block.lines) (capacity : Nat) :
    ∃ final : GroupWalk, groupAccessListHandler utils capacity status (block :: blocks) =
        final.result (i32 final.buffer.length) (entriesEstimated rows.length) ∧
      (final.overrun = false ↔ ∀ row ∈ rowsRead capacity 0 rows, row.FlaggedWithin) ∧
      (final.overrun = false →
        final.buffer.map (·.id) = fillByChunks capacity [] (rows.map MemberRow.ids)) := by
  generalize hlines : block.lines = lines at hlisting
  cases hlisting with
  | @mk header row rows indent gap inner body last hheader hrow hbody hlast =>
    generalize hacids : keyText indent tssAcidsKey gap ++ (blanks inner ++ row.text) = acids
    rw [hacids] at hlines
    have hlag : firstLineOffset + linesSize (acids :: (body ++ [last])) < block.lastByteOffset := by
      rw [RadminCommandOutput.lastByteOffset, hlines, linesSize_cons header]
      omega
    have hblank : tssIsLineBlank acids = false := by
      rw [← hacids]
      exact tssIsLineBlank_keyText ⟨by decide, by decide, by decide, by decide⟩
    have hgo : tssIsOutputDone acids = false := hacids ▸ acidsLine_goes_on
    have hcount : numberOfLinesOfData block.lastByteOffset (acids :: (body ++ [last])) blocks =
        some (rows.length + 1) := by
      have hstops : stopsCounting 0 acids = false := hgo
      have hstep : countLine 0 acids = some 1 := by
        rw [countLine, hblank, if_neg Bool.false_ne_true]
      rw [numberOfLinesOfData, laggingWalk, lineWalk_lag hlag, plainWalk_step hstops hstep,
        count_memberLines hbody hlast, Nat.add_comm]
    have ⟨⟨i, hkey⟩, hdelim⟩ := @indexOfString_acidsLine utils indent gap
      (blanks inner ++ row.text) hutils
    rw [hacids] at hkey hdelim
    let first : GroupWalk := ⟨[], indent + tssAcidsKey.length + gap + tssKeyDelimiterLen, false⟩
    have hstart : acids.drop first.startPos = blanks inner ++ row.text := by
      rw [← hacids]
      exact List.drop_left' (length_keyText indent tssAcidsKey gap)
    obtain ⟨final, hfinal, hflags, hids⟩ := @ExtractedRows.row utils hutils capacity row hrow rows
      acids body last first rfl inner hstart hblank hgo (extract_memberLines hutils hbody hlast)
    refine ⟨final, ?_, hflags, hids⟩
    rw [groupAccessListHandler, if_neg (not_not_intro hstatus)]
    simp only [hlines, hheader, hcount, hkey, hdelim, laggingWalk, lineWalk_lag hlag, first]
      at hfinal ⊢
    simp only [hfinal]
    rfl

theorem MemberLines.go_on {lines : List Text} (h : MemberLines rows lines) :
    ∀ line ∈ lines, tssIsOutputDone line = false := by
  induction h with
  | done => exact List.forall_mem_nil _
  | blank hblank _ ih => exact List.forall_mem_cons.mpr ⟨tssIsOutputDone_of_blank hblank, ih⟩
  | row _ hgo _ ih => exact List.forall_mem_cons.mpr ⟨hgo, ih⟩

/-- Without an end the counting pass gets past the lines. -/
theorem count_passed {lines : List Text} (h : ∀ line ∈ lines, tssIsOutputDone line = false)
    (n : Nat) : ∃ m, plainWalk stopsCounting countLine n lines = .passed m := by
  induction lines generalizing n with
  | nil => exact ⟨n, rfl⟩
  | cons line lines ih =>
    obtain ⟨hline, hlines⟩ := List.forall_mem_cons.mp h
    have hstops : stopsCounting n line = false := hline
    rw [plainWalk_step hstops rfl]
    exact ih hlines _

/-- A listing that goes on after the first block: the handler reads past it. -/
theorem groupAccessListHandler_beyond {rows : List MemberRow} {block : RadminCommandOutput}
    {blocks : List RadminCommandOutput} {status : RadminApiStatus} (hstatus : status.racfRC = 0)
    (hlisting : GroupListing rows (outputLines (block :: blocks)))
    (hmore : block.lines ≠ outputLines (block :: blocks)) (capacity : Nat) :
    groupAccessListHandler utils capacity status (block :: blocks) = none := by
  have hall : outputLines (block :: blocks) = block.lines ++ outputLines blocks := rfl
  rw [groupAccessListHandler, if_neg (not_not_intro hstatus)]
  cases hlines : block.lines with
  | nil => simp only
  | cons first lines =>
    rw [hall, hlines] at hlisting hmore
    generalize hwhole : first :: lines ++ outputLines blocks = whole at hlisting
    cases hlisting with
    | @mk header row rows indent gap inner body last hheader hrow hbody hlast =>
      obtain ⟨rfl, hrest⟩ := List.cons.inj hwhole
      have hne : outputLines blocks ≠ [] := by
        intro hnil
        rw [hnil, List.append_nil] at hmore
        exact hmore rfl
      -- the end of the listing is not in the block
      obtain ⟨front, final, hsplit⟩ := (List.eq_nil_or_concat (outputLines blocks)).resolve_left hne
      rw [hsplit, List.concat_eq_append, ← List.cons_append] at hrest
      have hend := (List.append_assoc lines front [final]).trans hrest
      have hfront := (List.append_inj' hend rfl).1
      have hgo : ∀ line ∈ lines, tssIsOutputDone line = false := by
        intro line hline
        have hmem := hfront ▸ List.mem_append_left front hline
        rcases List.mem_cons.mp hmem with rfl | hmem
        · exact acidsLine_goes_on
        · exact hbody.go_on line hmem
      have hlag : firstLineOffset + linesSize lines < block.lastByteOffset := by
        rw [RadminCommandOutput.lastByteOffset, hlines, linesSize_cons]
        omega
      obtain ⟨m, hpassed⟩ := count_passed hgo 0
      have hcount : numberOfLinesOfData block.lastByteOffset lines blocks = none := by
        rw [numberOfLinesOfData, laggingWalk, lineWalk_lag hlag, hpassed]
      simp only [hheader, hcount]
      rfl

/-! ## Calls -/

theorem i32_natCast_u32 (h : n < 4294967296) : u32 (i32 n) = n := by
  simp only [u32, i32]
  split <;> omega

/-- What a call gives back whose command is answered with a listing. -/
theorem zisGroupAccessListServiceFunctionTSS_eq {env : GroupListEnv} {parm : GroupListParmList}
    (h : IssuesGroupList env parm)
    (hrc : (env.radminRunRACFCommand (groupListCommand parm.group)).rc 0 = rcRadminOk) :
    (∀ parms, groupAccessListHandler utils parm.resultBufferCapacity
        (env.radminRunRACFCommand (groupListCommand parm.group)).apiStatus
        (env.radminRunRACFCommand (groupListCommand parm.group)).output = some (0, parms) →
      zisGroupAccessListServiceFunctionTSS utils env (some parm) =
        some ((replyOfGroupList (env.radminRunRACFCommand (groupListCommand parm.group)) parm
          rcRadminOk parms).map id some)) ∧
    (groupAccessListHandler utils parm.resultBufferCapacity
        (env.radminRunRACFCommand (groupListCommand parm.group)).apiStatus
        (env.radminRunRACFCommand (groupListCommand parm.group)).output = none →
      zisGroupAccessListServiceFunctionTSS utils env (some parm) = none) := by
  obtain ⟨caller, hcaller⟩ := Option.isSome_iff_exists.mp h.caller
  constructor
  · intro parms hparms
    simp [zisGroupAccessListServiceFunctionTSS, h.valid, hcaller, h.storage, hparms, hrc]
  · intro hnone
    simp [zisGroupAccessListServiceFunctionTSS, h.valid, hcaller, h.storage, hnone]

theorem replyOfGroupList_insufficient {run : RadminRun} {parm : GroupListParmList}
    {parms : TssGroupAccessListParms}
    (h : 4 < entryDifference parms.entriesFound parms.entriesExtracted) :
    (replyOfGroupList run parm rcRadminOk parms).1 = rcZisGrpalsrvInsufficientSpace ∧
      (replyOfGroupList run parm rcRadminOk parms).2.output.entriesFound =
        u32 parms.entriesFound := by
  rw [replyOfGroupList, if_pos ⟨rfl, h⟩]
  exact ⟨rfl, rfl⟩

theorem replyOfGroupList_ok {run : RadminRun} {parm : GroupListParmList}
    {parms : TssGroupAccessListParms}
    (h : entryDifference parms.entriesFound parms.entriesExtracted ≤ 4) :
    (replyOfGroupList run parm rcRadminOk parms).1 = rcZisGrpalsrvOk ∧
      (replyOfGroupList run parm rcRadminOk parms).2.resultBuffer =
        parms.tmpResultBuffer.take (u32 parms.entriesExtracted) ∧
      (replyOfGroupList run parm rcRadminOk parms).2.output.entriesExtracted =
        u32 parms.entriesExtracted := by
  rw [replyOfGroupList, if_neg fun hmore => absurd h (Int.not_le.mpr hmore.2), if_pos ⟨rfl, h⟩]
  exact ⟨rfl, rfl, rfl⟩

/-- When a reply is right, of a buffer that is not overfilled. -/
theorem replyOfGroupList_iff {rows : List MemberRow} (hvalid : ∀ row ∈ rows, row.Valid)
    {run : RadminRun} {parm : GroupListParmList} {buffer : List ZisGroupAccessEntry}
    (hbuffer : buffer.map (·.id) =
      fillByChunks parm.resultBufferCapacity [] (rows.map MemberRow.ids))
    (hstored : buffer.length ≤ parm.resultBufferCapacity) (estimate : Int) :
    ReportsMembers rows
        (replyOfGroupList run parm rcRadminOk ⟨buffer, i32 buffer.length, estimate⟩) ↔
      ((∀ row ∈ rows, row.members.length = row.acidsRead) ∧
          acidsReadOf rows ≤ parm.resultBufferCapacity ∧
          entryDifference estimate (i32 (acidsReadOf rows)) ≤ 4 ∨
        u32 estimate = (memberIds rows).length ∧
          4 < entryDifference estimate
            (i32 (min (acidsReadOf rows) parm.resultBufferCapacity))) := by
  have hfill : (fillByChunks parm.resultBufferCapacity [] (rows.map MemberRow.ids)).length =
      buffer.length := by
    rw [← hbuffer, List.length_map]
  have hlen : buffer.length = min (acidsReadOf rows) parm.resultBufferCapacity := by
    rw [← hfill, length_fillByChunks_eq (by rwa [hfill]), chunksLength_ids]
  have hids := fillByChunks_ids_eq_iff hvalid (by rwa [hfill])
  rw [← hbuffer] at hids
  have hcount : u32 (i32 buffer.length) = buffer.length :=
    i32_natCast_u32 (Nat.lt_of_le_of_lt hstored parm.capacity_lt)
  rw [← hlen]
  by_cases hdiff : 4 < entryDifference estimate (i32 buffer.length)
  · obtain ⟨hrc, hfound⟩ := @replyOfGroupList_insufficient run parm
      ⟨buffer, i32 buffer.length, estimate⟩ hdiff
    rw [ReportsMembers, hrc, hfound]
    constructor
    · rintro (⟨hok, -⟩ | ⟨-, hexact⟩)
      · cases hok
      · exact .inr ⟨hexact, hdiff⟩
    · rintro (⟨-, hfits, hle⟩ | ⟨hexact, -⟩)
      · rw [hlen, Nat.min_eq_left hfits] at hdiff
        exact absurd hdiff (Int.not_lt.mpr hle)
      · exact .inr ⟨rfl, hexact⟩
  · obtain ⟨hrc, hresult, hextracted⟩ := @replyOfGroupList_ok run parm
      ⟨buffer, i32 buffer.length, estimate⟩ (Int.not_lt.mp hdiff)
    rw [ReportsMembers, hrc, hresult, hextracted]
    simp only [hcount, List.take_length]
    constructor
    · rintro (⟨-, hentries, -⟩ | ⟨hok, -⟩)
      · obtain ⟨hclean, hfits⟩ := hids.mp hentries
        rw [hlen, Nat.min_eq_left hfits] at hdiff
        exact .inl ⟨hclean, hfits, Int.not_lt.mp hdiff⟩
      · cases hok
    · rintro (⟨hclean, hfits, -⟩ | ⟨-, hmore⟩)
      · have hentries := hids.mpr ⟨hclean, hfits⟩
        exact .inl ⟨trivial, hentries, by rw [← hentries, List.length_map]⟩
      · exact absurd hmore hdiff

/-- **Group lists are whole where the estimate is right.** A call whose command is answered with a
complete listing stores no more than its buffer holds, and reports the members or their number, just
if the listing and the capacity meet the condition. -/
theorem groupList_reported_iff (hutils : utils.Documented) {env : GroupListEnv}
    {parm : GroupListParmList} (hissues : IssuesGroupList env parm) {rows : List MemberRow}
    (hlisting : GroupListing rows
      (outputLines (env.radminRunRACFCommand (groupListCommand parm.group)).output))
    (hstatus : (env.radminRunRACFCommand (groupListCommand parm.group)).apiStatus.racfRC = 0)
    (hrc : (env.radminRunRACFCommand (groupListCommand parm.group)).rc 0 = rcRadminOk) :
    ReportsGroupList rows parm.resultBufferCapacity
        (groupAccessListHandler utils parm.resultBufferCapacity
          (env.radminRunRACFCommand (groupListCommand parm.group)).apiStatus
          (env.radminRunRACFCommand (groupListCommand parm.group)).output)
        (zisGroupAccessListServiceFunctionTSS utils env (some parm)) ↔
      FitsGroupList rows (env.radminRunRACFCommand (groupListCommand parm.group)).output
        parm.resultBufferCapacity := by
  obtain ⟨hdone, hundone⟩ := @zisGroupAccessListServiceFunctionTSS_eq utils env parm hissues hrc
  have hvalid := hlisting.valid
  generalize hrun : env.radminRunRACFCommand (groupListCommand parm.group) = run at *
  cases hblocks : run.output with
  | nil =>
    rw [hblocks] at hlisting
    cases hlisting
  | cons block blocks =>
    rw [hblocks] at hlisting hdone hundone
    by_cases hfirst : block.lines = outputLines (block :: blocks)
    · rw [← hfirst] at hlisting
      obtain ⟨final, hhandler, hflags, hbuffer⟩ := @groupAccessListHandler_first utils hutils rows
        block blocks run.apiStatus hstatus hlisting parm.resultBufferCapacity
      cases hover : final.overrun with
      | true =>
        have hnone : groupAccessListHandler utils parm.resultBufferCapacity run.apiStatus
            (block :: blocks) = none := hhandler.trans (if_pos hover)
        constructor
        · intro h
          obtain ⟨rc, parms, hparms, -⟩ := h.stored
          rw [hnone] at hparms
          cases hparms
        · intro h
          have hwithin := hflags.mpr ((stored_iff hvalid _).mp h.stored).2
          exact Bool.noConfusion (hover.symm.trans hwithin)
      | false =>
        replace hhandler := hhandler.trans (if_neg (hover ▸ Bool.false_ne_true))
        replace hbuffer := hbuffer hover
        have hfill : final.buffer.length =
            (fillByChunks parm.resultBufferCapacity [] (rows.map MemberRow.ids)).length := by
          rw [← hbuffer, List.length_map]
        have hstored := length_fillByChunks_le_iff parm.resultBufferCapacity
          (rows.map MemberRow.ids)
        simp only [← List.map_take, chunksLength_ids, ← hfill] at hstored
        rw [hdone _ hhandler, hhandler]
        constructor
        · intro h
          obtain ⟨rc, parms, hparms, hle⟩ := h.stored
          cases hparms
          obtain ⟨rc, reply, hresult, hright⟩ := h.reported
          cases hresult
          exact ⟨⟨block, blocks, rfl, hfirst⟩,
            (stored_iff hvalid _).mpr ⟨hstored.mp hle, hflags.mp hover⟩,
            (replyOfGroupList_iff hvalid hbuffer hle _).mp hright⟩
        · intro h
          have hle := hstored.mpr ((stored_iff hvalid _).mp h.stored).1
          have hright := (@replyOfGroupList_iff rows hvalid run parm _ hbuffer hle _).mpr h.reported
          exact ⟨⟨0, _, rfl, hle⟩, ⟨_, _, rfl, hright⟩⟩
    · have hhandler := @groupAccessListHandler_beyond utils rows block blocks run.apiStatus hstatus
        hlisting hfirst parm.resultBufferCapacity
      constructor
      · intro h
        obtain ⟨rc, parms, hhandled, -⟩ := h.stored
        rw [hhandler] at hhandled
        cases hhandled
      · intro h
        obtain ⟨first, rest, hsplit, hlines⟩ := h.first
        cases hsplit
        exact absurd hlines hfirst

end

/-! ## A call -/

def sampleMember (n : Char) : Member := ⟨['U', 'S', 'E', 'R', n], [' ', ' ', ' ']⟩

def sampleRow (ns : List Char) : MemberRow :=
  ⟨ns.map sampleMember, (ns.map sampleMember).flatMap Member.columns⟩

/-- A group of so many members on its first line and on the next. -/
def sampleListing (first next : List Char) : List Text :=
  [['A', 'C', 'C', 'E', 'S', 'S', 'O', 'R', 'I', 'D', ' ', '=', ' ', 'G'],
    keyText 0 tssAcidsKey 6 ++ (blanks 0 ++ (sampleRow first).text),
    blanks 14 ++ (sampleRow next).text, tssCommandSuccess]

def sampleGroupEnv (output : RadminCommandOutput) : GroupListEnv where
  secmgmtGetCallerUserID := some ['C', 'A', 'L', 'L', 'E', 'R', ' ', ' ']
  safeMalloc _ := true
  radminRunRACFCommand _ := ⟨⟨0, 0, 0⟩, 0, [output], fun h => if h = 0 then 0 else 8⟩

def sampleGroupParm (capacity : Nat) (h : capacity < 4294967296) : GroupListParmList where
  eyecatcher := zisGrpalstServiceParmlistEyecatcher
  groupLength := 1
  groupValue := ['G']
  resultBuffer := true
  resultBufferCapacity := capacity
  capacity_lt := h
  output := ⟨0, 0, 0, 0, ⟨0, 0, 0⟩⟩

theorem sampleGroupParm_issues (output : RadminCommandOutput) {capacity : Nat}
    (h : capacity < 4294967296) :
    IssuesGroupList (sampleGroupEnv output) (sampleGroupParm capacity h) :=
  ⟨rfl, rfl, rfl⟩

theorem sampleMember_valid {n : Char} (hn : n ≠ nul) : (sampleMember n).Valid where
  id_ne_nil := by simp [sampleMember]
  id_head := by simp [sampleMember]
  id_text := by simpa [sampleMember, nul] using hn.symm
  id_length := by simp [sampleMember]
  indicator_text := by simp [sampleMember, nul]
  indicator_length := rfl

theorem sampleRow_valid {ns : List Char} (hne : ns ≠ []) (hns : nul ∉ ns) :
    (sampleRow ns).Valid where
  members_ne_nil := by simpa [sampleRow] using hne
  members := by
    intro member hmember
    obtain ⟨n, hn, rfl⟩ := List.mem_map.mp hmember
    apply sampleMember_valid
    rintro rfl
    exact hns hn
  text := ⟨0, 0, rfl⟩

theorem sampleListing_listing {first next : List Char} (hfirst : first ≠ [])
    (hfirstText : nul ∉ first) (hnext : next ≠ []) (hnextText : nul ∉ next) :
    GroupListing [sampleRow first, sampleRow next] (sampleListing first next) :=
  .mk (by decide) (sampleRow_valid hfirst hfirstText)
    (.row (sampleRow_valid hnext hnextText) rfl .done) (by decide)

def fullOutput : RadminCommandOutput :=
  ⟨sampleListing ['1', '2', '3', '4'] ['5', '6', '7', '8'], by decide +kernel⟩

/-- A buffer for four of eight members is filled, and the call is OK. -/
theorem overfull_group_list_ok :
    GroupListing [sampleRow ['1', '2', '3', '4'], sampleRow ['5', '6', '7', '8']]
        fullOutput.lines ∧
      (zisGroupAccessListServiceFunctionTSS .plain (sampleGroupEnv fullOutput)
          (some (sampleGroupParm 4 (by decide)))).map
        (fun result => (result.1, result.2.map (·.output.entriesExtracted))) =
        some (rcZisGrpalsrvOk, some 4) ∧
      ¬ ReportsGroupList [sampleRow ['1', '2', '3', '4'], sampleRow ['5', '6', '7', '8']] 4
        (groupAccessListHandler .plain 4 ⟨0, 0, 0⟩ [fullOutput])
        (zisGroupAccessListServiceFunctionTSS .plain (sampleGroupEnv fullOutput)
          (some (sampleGroupParm 4 (by decide)))) := by
  have hrun : (zisGroupAccessListServiceFunctionTSS .plain (sampleGroupEnv fullOutput)
          (some (sampleGroupParm 4 (by decide)))).map
        (fun result => (result.1, result.2.map (·.output.entriesExtracted))) =
        some (rcZisGrpalsrvOk, some 4) := by
    decide +kernel
  refine ⟨sampleListing_listing (by decide) (by decide) (by decide) (by decide), hrun, ?_⟩
  intro h
  obtain ⟨rc, reply, hresult, hright⟩ := h.reported
  rw [hresult] at hrun
  obtain ⟨hrc, hextracted⟩ := Prod.mk.inj (Option.some.inj hrun)
  rcases hright with ⟨-, -, hcount⟩ | ⟨hinsufficient, -⟩
  · have height : (memberIds [sampleRow ['1', '2', '3', '4'],
        sampleRow ['5', '6', '7', '8']]).length = 8 := by decide +kernel
    rw [height] at hcount
    exact absurd (hcount.symm.trans (Option.some.inj hextracted)) (by decide)
  · exact absurd (hinsufficient.symm.trans hrc) (by decide)

def shortOutput : RadminCommandOutput :=
  ⟨sampleListing ['1', '2', '3', '4'] ['5', '6'], by decide +kernel⟩

/-- A buffer for the six members of a listing is filled with them. -/
theorem groupList_reported_iff_sample :
    ReportsGroupList [sampleRow ['1', '2', '3', '4'], sampleRow ['5', '6']] 6
      (groupAccessListHandler .plain 6 ⟨0, 0, 0⟩ [shortOutput])
      (zisGroupAccessListServiceFunctionTSS .plain (sampleGroupEnv shortOutput)
        (some (sampleGroupParm 6 (by decide)))) := by
  have hlisting : GroupListing [sampleRow ['1', '2', '3', '4'], sampleRow ['5', '6']]
      (outputLines [shortOutput]) :=
    sampleListing_listing (by decide) (by decide) (by decide) (by decide)
  refine (groupList_reported_iff Utils.plain_documented
    (sampleGroupParm_issues shortOutput (by decide)) hlisting rfl rfl).mpr ?_
  refine ⟨⟨shortOutput, [], rfl, rfl⟩, .inl (by decide +kernel), .inl ⟨?_, ?_, ?_⟩⟩
  all_goals decide +kernel

end Zss.Tss
