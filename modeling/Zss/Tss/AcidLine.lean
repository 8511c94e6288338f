import Mathlib.Data.List.Infix
import Zss.Tss.GroupList
import Zss.Tss.KeyLine

/-!
# The ACIDs of a line

`getAcidsInLine` of `secmgmttss.c` skips the blanks in front of a column, copies 11 characters of it,
and goes on 12 characters behind where it was. The flag of an administrator is not set in the entry
of the column that it was found in: the inner loop has an index of the same name, and flags the entry
with the number of the indicator. `acidLine_read_iff` says of every line of up to four members, from
its value position on, when what it returns are these members, each with its own flag, and nothing
else.

## What is not established

What `padWithSpaces` and `lastIndexOfString` of the common library do is assumed
(`Utils.Documented`). Where a flag is written behind the array of the caller there is no result, so
nothing is said about what the write destroys there.
-/

namespace Zss.Tss

/-! ## Members -/

/-- A member: its ACID, and what stands in the three columns of the administrator. -/
structure Member where
  id : Text
  indicator : Text

structure Member.Valid (member : Member) : Prop where
  id_ne_nil : member.id ≠ []
  id_head : member.id.head? ≠ some ' '
  id_text : nul ∉ member.id
  id_length : member.id.length ≤ 8
  indicator_text : nul ∉ member.indicator
  indicator_length : member.indicator.length = 3

/-- The ACID as an entry has it. -/
def Member.entryId (member : Member) : Text := fieldOf 8 member.id

/-- The columns of a member. -/
def Member.columns (member : Member) : Text := member.entryId ++ (member.indicator ++ [' '])

/-- The text is the columns of the members, up to blanks at the end. -/
def MemberText (members : List Member) (text : Text) : Prop :=
  ∃ a b, text ++ blanks a = members.flatMap Member.columns ++ blanks b

/-- The indicator that is first in a text, by its number. -/
def firstIndicator (text : Text) : Option Nat :=
  tssAdminIndicators.findIdx? fun indicator => decide (indicator <:+: text)

/-- The indicator that is first in the columns of a member; also one in its ACID counts. -/
def Member.firstIndicator (member : Member) : Option Nat :=
  Tss.firstIndicator (member.entryId ++ member.indicator)

/-! ## Lines -/

/-- The three columns of the administrator are blank, or an indicator. -/
def Member.Marked (member : Member) : Prop :=
  member.indicator = blanks 3 ∨ member.indicator ∈ tssAdminIndicators

/-- A line of up to four members behind a position, with blanks in front and behind. -/
structure AcidLine where
  str : Text
  startPos : Nat
  members : List Member
  valid : ∀ member ∈ members, member.Valid
  marked : ∀ member ∈ members, member.Marked
  length_le : members.length ≤ 4
  text : ∃ n text, str.drop startPos = blanks n ++ text ∧ MemberText members text

/-- The line from its first ACID on; without one, all that is behind the position. -/
def AcidLine.rest (line : AcidLine) : Text :=
  let behind := line.str.drop line.startPos
  behind.drop ((behind.findIdx? (· ≠ ' ')).getD 0)

/-- What is to be returned of a member. -/
def Member.acidData (member : Member) : TssAcidData :=
  ⟨member.entryId, tssAdminIndicators.contains member.indicator⟩

/-- The positions that `getAcidsInLine` reads, with so many ACIDs to go: up to the first that is no
blank, and those it copies. -/
def positionsReadFrom (text : Text) : Nat → Nat → List Nat
  | 0, _ => []
  | left + 1, startPos =>
    let found := (text.drop startPos).findIdx? (· ≠ ' ')
    let scanned := (found.map (· + 1)).getD (text.length - startPos)
    let acidPos := startPos + found.getD 0
    let copySize := min 11 (text.length - acidPos)
    List.range' startPos scanned ++
      if copySize = 0 then []
      else List.range' acidPos copySize ++ positionsReadFrom text left (acidPos + acidOffset)

/-- **A line is read right.** The ACIDs of its members are returned, each with its own flag, and
nothing is read behind the line. -/
structure ReadsLine (utils : Utils) (line : AcidLine) : Prop where
  acids : ∀ data : List TssAcidData, data.length = 4 →
    ∃ data', getAcidsInLine utils line.str data line.startPos = some (data', line.members.length) ∧
      data'.take line.members.length = line.members.map Member.acidData
  within : ∀ p ∈ positionsReadFrom line.str 4 line.startPos, p < line.str.length

/-- Nothing stands behind the columns of fewer than four members; the first indicator of a member is
none of the last two; and a member is an administrator exactly if the indicator with the number of its
entry is the first one of this member or of a later one. -/
structure ReadableLine (line : AcidLine) : Prop where
  ends : line.members.length = 4 ∨ line.rest.length ≤ acidOffset * line.members.length
  flagged_within : ∀ member ∈ line.members, ∀ i, member.firstIndicator = some i → i < 4
  flagged : ∀ i member, line.members[i]? = some member →
    (member.indicator ∈ tssAdminIndicators ↔
      ∃ other ∈ line.members.drop i, other.firstIndicator = some i)

/-! ## What is read -/

theorem positionsReadFrom_lt {text : Text} {left startPos p : Nat}
    (h : p ∈ positionsReadFrom text left startPos) : p < text.length := by
  induction left generalizing startPos with
  | zero => cases h
  | succ left ih =>
    rw [positionsReadFrom, List.mem_append, List.mem_range'_1] at h
    rcases h with ⟨hle, hlt⟩ | h
    · cases hfound : (text.drop startPos).findIdx? (· ≠ ' ') with
      | none =>
        rw [hfound] at hlt
        simp only [Option.map_none, Option.getD_none] at hlt
        omega
      | some n =>
        obtain ⟨hn, -⟩ := List.findIdx?_eq_some_iff_getElem.mp hfound
        rw [hfound] at hlt
        rw [List.length_drop] at hn
        simp only [Option.map_some, Option.getD_some] at hlt
        omega
    · split at h
      next => cases h
      next =>
        rcases List.mem_append.mp h with h | h
        · rw [List.mem_range'_1] at h
          omega
        · exact ih h

/-! ## Indicators -/

variable {n : Nat} {member : Member} {members : List Member}

theorem isSome_lastUpTo_iff {p : Nat → Bool} :
    (lastUpTo p n).isSome = true ↔ ∃ i ≤ n, p i = true := by
  induction n with
  | zero =>
    rw [lastUpTo]
    split
    next h => exact iff_of_true rfl ⟨0, Nat.le_refl 0, h⟩
    next h =>
      refine iff_of_false Bool.false_ne_true ?_
      rintro ⟨i, hi, hp⟩
      exact h (Nat.le_zero.mp hi ▸ hp)
  | succ n ih =>
    rw [lastUpTo]
    split
    next h => exact iff_of_true rfl ⟨n + 1, Nat.le_refl _, h⟩
    next h =>
      rw [ih]
      constructor
      · rintro ⟨i, hi, hp⟩
        exact ⟨i, Nat.le_succ_of_le hi, hp⟩
      · rintro ⟨i, hi, hp⟩
        rcases Nat.le_succ_iff.mp hi with hle | rfl
        · exact ⟨i, hle, hp⟩
        · exact absurd hp h

/-- A pattern is found last where it is in the text at all. -/
theorem isSome_lastIndexOfString_iff {utils : Utils} (hutils : utils.Documented)
    {text pattern : Text} (hne : pattern ≠ []) :
    (utils.lastIndexOfString text pattern).isSome = true ↔ pattern <:+: text := by
  have hsame : utils.lastIndexOfString text pattern =
      lastUpTo (occursAt pattern text) text.length :=
    Option.ext fun i => (hutils.lastIndexOfString text pattern i hne).trans
      (Utils.plain_documented.lastIndexOfString text pattern i hne).symm
  rw [hsame, isSome_lastUpTo_iff]
  constructor
  · rintro ⟨i, -, hocc⟩
    exact (occursAt_iff.mp hocc).isInfix.trans (List.drop_suffix i text).isInfix
  · rintro ⟨before, after, rfl⟩
    refine ⟨before.length, by simp, ?_⟩
    rw [List.append_assoc]
    exact occursAt_append before pattern after

/-- Blanks at the end do not make a pattern without blanks. -/
theorem infix_append_blanks {pattern text : Text} (hne : pattern ≠ []) (hblank : ' ' ∉ pattern)
    (n : Nat) : pattern <:+: text ++ blanks n ↔ pattern <:+: text := by
  constructor
  · intro h
    rcases List.infix_append_iff.mp h with h | h | ⟨front, back, rfl, hfront, hback⟩
    · exact h
    · obtain ⟨c, rest, rfl⟩ := List.exists_cons_of_ne_nil hne
      exact absurd (eq_blank_of_mem (h.subset (List.mem_cons_self ..)) ▸ List.mem_cons_self ..)
        hblank
    · cases back with
      | nil => 
        rw [List.append_nil]
        exact hfront.isInfix
      | cons c back =>
        have hc := eq_blank_of_mem (hback.subset (List.mem_cons_self ..))
        exact absurd (List.mem_append_right front (hc ▸ List.mem_cons_self ..)) hblank
  · intro h
    exact h.trans (List.prefix_append text _).isInfix

theorem indicator_ne_nil {indicator : Text} (h : indicator ∈ tssAdminIndicators) :
    indicator ≠ [] := by
  rintro rfl
  revert h
  decide

theorem blank_not_mem_indicator {indicator : Text} (h : indicator ∈ tssAdminIndicators) :
    ' ' ∉ indicator := by
  simp only [tssAdminIndicators, List.mem_cons, List.not_mem_nil, or_false] at h
  rcases h with rfl | rfl | rfl | rfl | rfl | rfl <;> decide

theorem findIdx?_congr {α : Type} {p q : α → Bool} {xs : List α} (h : ∀ x ∈ xs, p x = q x) :
    xs.findIdx? p = xs.findIdx? q := by
  induction xs with
  | nil => rfl
  | cons x xs ih =>
    obtain ⟨hx, hxs⟩ := List.forall_mem_cons.mp h
    rw [List.findIdx?_cons, List.findIdx?_cons, hx, ih hxs]

/-- The indicator that is found first is the first in the text. -/
theorem adminIndicatorIn_eq {utils : Utils} (hutils : utils.Documented) (text : Text) :
    adminIndicatorIn utils text = firstIndicator text := by
  unfold adminIndicatorIn firstIndicator
  refine findIdx?_congr ?_
  intro indicator hindicator
  rw [Bool.eq_iff_iff, isSome_lastIndexOfString_iff hutils (indicator_ne_nil hindicator),
    decide_eq_true_iff]

theorem firstIndicator_append_blanks (text : Text) (n : Nat) :
    firstIndicator (text ++ blanks n) = firstIndicator text := by
  unfold firstIndicator
  refine findIdx?_congr ?_
  intro indicator hindicator
  rw [Bool.eq_iff_iff, decide_eq_true_iff, decide_eq_true_iff,
    infix_append_blanks (indicator_ne_nil hindicator) (blank_not_mem_indicator hindicator)]

theorem firstIndicator_blanks (n : Nat) : firstIndicator (blanks n) = none :=
  firstIndicator_append_blanks [] n

/-! ## Columns -/

/-- What is read of a text: up to so many columns of 12, the first 8 of each. -/
def readIds : Nat → Text → List Text
  | 0, _ => []
  | left + 1, text =>
    if text = [] then [] else fieldOf 8 text :: readIds left (text.drop acidOffset)

theorem Member.length_columns (h : member.Valid) : member.columns.length = acidOffset := by
  rw [Member.columns, Member.entryId, List.length_append, length_fieldOf, List.length_append,
    h.indicator_length]
  rfl

/-- How many columns are read, with so many ACIDs to go. -/
def columnsRead (left : Nat) (text : Text) : Nat := min left ((text.length + 11) / acidOffset)

theorem columnsRead_succ {text : Text} (hne : text ≠ []) (left : Nat) :
    columnsRead (left + 1) text = columnsRead left (text.drop acidOffset) + 1 := by
  have hpos := List.length_pos_iff.mpr hne
  rw [columnsRead, columnsRead, List.length_drop, acidOffset]
  omega

theorem length_readIds (left : Nat) (text : Text) :
    (readIds left text).length = columnsRead left text := by
  induction left generalizing text with
  | zero => simp [readIds, columnsRead]
  | succ left ih =>
    rw [readIds]
    split
    next h =>
      subst h
      simp [columnsRead, acidOffset]
    next h => rw [List.length_cons, ih, columnsRead_succ h]

theorem Member.Valid.exists_cons (h : member.Valid) :
    ∃ first rest, member.id = first :: rest ∧ first ≠ ' ' := by
  obtain ⟨first, rest, hid⟩ := List.exists_cons_of_ne_nil h.id_ne_nil
  refine ⟨first, rest, hid, ?_⟩
  rintro rfl
  exact h.id_head (by rw [hid]; rfl)

/-- An ACID is no blank field. -/
theorem Member.Valid.entryId_ne (h : member.Valid) : member.entryId ≠ blanks 8 := by
  obtain ⟨first, rest, hid, hfirst⟩ := h.exists_cons
  intro hblank
  have hhead := congrArg List.head? hblank
  rw [Member.entryId, fieldOf, hid] at hhead
  exact hfirst (Option.some.inj hhead)

/-- A text of members begins with the first ACID, and goes on with the others'. -/
theorem MemberText.cons {text : Text} (h : MemberText (member :: members) text)
    (hvalid : member.Valid) :
    (∃ first rest, text = first :: rest ∧ first ≠ ' ') ∧ fieldOf 8 text = member.entryId ∧
      MemberText members (text.drop acidOffset) := by
  obtain ⟨a, b, hab⟩ := h
  rw [List.flatMap_cons, List.append_assoc] at hab
  have hcolumns := Member.length_columns hvalid
  have hentry : member.entryId.length = 8 := length_fieldOf 8 member.id
  refine ⟨?_, ?_, a - (acidOffset - text.length), b, ?_⟩
  · obtain ⟨first, rest, hid, hfirst⟩ := hvalid.exists_cons
    rw [Member.columns, Member.entryId, fieldOf, hid] at hab
    cases text with
    | nil =>
      cases a with
      | zero => simp [blanks] at hab
      | succ a =>
        have hhead := congrArg List.head? hab
        simp only [List.nil_append, List.cons_append, List.take_succ_cons, List.head?_cons] at hhead
        exact absurd (Option.some.inj hhead).symm hfirst
    | cons c rest =>
      have hhead := congrArg List.head? hab
      simp only [List.cons_append, List.take_succ_cons, List.head?_cons] at hhead
      exact ⟨c, rest, rfl, Option.some.inj hhead ▸ hfirst⟩
  · rw [← fieldOf_blanks 8 text a, hab, Member.columns, List.append_assoc]
    exact fieldOf_append hentry _
  · have hdrop := congrArg (List.drop acidOffset) hab
    rw [← hcolumns, List.drop_left] at hdrop
    rw [← hdrop, List.drop_append, hcolumns]
    simp [blanks]

/-- A text of no members is blanks. -/
theorem memberText_nil_iff {text : Text} : MemberText [] text ↔ text = blanks text.length := by
  constructor
  · rintro ⟨a, b, hab⟩
    rw [List.flatMap_nil, List.nil_append] at hab
    apply List.eq_replicate_of_mem
    intro c hc
    exact eq_blank_of_mem (hab ▸ List.mem_append_left (blanks a) hc)
  · intro h
    exact ⟨0, text.length, by simpa [blanks] using h⟩

theorem MemberText.nil_drop {text : Text} (h : MemberText [] text) :
    MemberText [] (text.drop acidOffset) := by
  rw [memberText_nil_iff] at h ⊢
  rw [h, blanks, List.drop_replicate, List.length_replicate]
  rfl

theorem fieldOf_of_blanks (width n : Nat) : fieldOf width (blanks n) = blanks width := by
  rw [← List.nil_append (blanks n), fieldOf_blanks]
  simp [fieldOf, blanks]

/-- What is read of a text of members: the ACIDs of the first, and blank ones after the last. -/
theorem readIds_memberText {text : Text} (h : MemberText members text)
    (hvalid : ∀ member ∈ members, member.Valid) (left : Nat) :
    readIds left text = (members.map Member.entryId).take left ++
      List.replicate (columnsRead left text - members.length) (blanks 8) := by
  induction left generalizing members text with
  | zero => simp [readIds, columnsRead]
  | succ left ih =>
    by_cases hempty : text = []
    · subst hempty
      have hnil : members = [] := by
        cases members with
        | nil => rfl
        | cons member members =>
          obtain ⟨⟨first, rest, hcons, -⟩, -⟩ := h.cons (hvalid member List.mem_cons_self)
          cases hcons
      simp [hnil, readIds, columnsRead, acidOffset]
    · rw [readIds, if_neg hempty, columnsRead_succ hempty]
      cases members with
      | nil =>
        rw [ih h.nil_drop hvalid, memberText_nil_iff.mp h, fieldOf_of_blanks]
        simp [List.replicate_succ]
      | cons member members =>
        obtain ⟨-, hfield, hrest⟩ := h.cons (hvalid member List.mem_cons_self)
        rw [ih hrest fun m hm => hvalid m (List.mem_cons_of_mem _ hm), hfield, List.map_cons,
          List.take_succ_cons, List.length_cons, Nat.add_sub_add_right, List.cons_append]

theorem MemberText.no_nul {text : Text} (h : MemberText members text)
    (hvalid : ∀ member ∈ members, member.Valid) : nul ∉ text := by
  obtain ⟨a, b, hab⟩ := h
  intro hnul
  have hmem : nul ∈ members.flatMap Member.columns ++ blanks b :=
    hab ▸ List.mem_append_left (blanks a) hnul
  have hblank : ∀ n, nul ∉ blanks n := fun n h => absurd (eq_blank_of_mem h) (by decide)
  rcases List.mem_append.mp hmem with hmem | hmem
  · obtain ⟨member, hmember, hcolumns⟩ := List.mem_flatMap.mp hmem
    have hm := hvalid member hmember
    rw [Member.columns, Member.entryId, fieldOf, List.mem_append, List.mem_append] at hcolumns
    rcases hcolumns with hid | hindicator | hlast
    · rcases List.mem_append.mp (List.mem_of_mem_take hid) with hid | hid
      · exact hm.id_text hid
      · exact hblank 8 hid
    · exact hm.indicator_text hindicator
    · exact absurd (List.mem_singleton.mp hlast) (by decide)
  · exact hblank b hmem

/-- The first ACID of a text, in its buffer. -/
theorem padWithSpaces_acid {utils : Utils} (hutils : utils.Documented) {text : Text}
    (hnul : nul ∉ text) :
    utils.padWithSpaces ((text.take 11 ++ zeroBuffer 8).take 8) = fieldOf 8 text := by
  have hbuffer : (text.take 11 ++ zeroBuffer 8).take 8 =
      text.take 8 ++ List.replicate (8 - text.length) nul := by
    rw [List.take_append, List.take_take, zeroBuffer, List.take_replicate, List.length_take]
    congr 2
    omega
  rw [hbuffer, hutils.padWithSpaces _ _ fun h => hnul (List.mem_of_mem_take h), fieldOf,
    List.take_append, blanks, List.take_replicate]
  congr 2
  omega

/-- The first character that is no blank begins the members; without one, nothing is skipped. -/
theorem drop_firstEntry {str text : Text} {startPos n : Nat}
    (hstr : str.drop startPos = blanks n ++ text) (hn : members = [] → n = 0)
    (htext : MemberText members text) (hvalid : ∀ member ∈ members, member.Valid) :
    str.drop (startPos + ((str.drop startPos).findIdx? (· ≠ ' ')).getD 0) = text := by
  cases members with
  | nil =>
    have hdrop : str.drop startPos = blanks text.length := by
      rw [hstr, hn rfl, ← memberText_nil_iff.mp htext]
      rfl
    rw [hdrop, findIdx?_blanks, Option.getD_none, Nat.add_zero, hdrop]
    exact (memberText_nil_iff.mp htext).symm
  | cons member members =>
    obtain ⟨⟨first, rest, rfl, hfirst⟩, -⟩ := htext.cons (hvalid member List.mem_cons_self)
    rw [hstr, findIdx?_blanks_append hfirst, Option.getD_some, ← List.drop_drop, hstr]
    exact List.drop_left' (length_blanks n)

/-- Of the columns of a member, 11 characters are copied, up to blanks at the end. -/
theorem MemberText.copied {text : Text} (h : MemberText (member :: members) text)
    (hvalid : member.Valid) :
    ∃ n, member.entryId ++ member.indicator = text.take 11 ++ blanks n := by
  obtain ⟨a, b, hab⟩ := h
  have hlength : (member.entryId ++ member.indicator).length = 11 := by
    rw [List.length_append, Member.entryId, length_fieldOf, hvalid.indicator_length]
  have htake := congrArg (List.take 11) hab
  rw [List.flatMap_cons, Member.columns, ← List.append_assoc member.entryId, List.append_assoc,
    List.append_assoc, List.take_left' hlength, List.take_append, blanks, List.take_replicate]
    at htake
  exact ⟨_, htake.symm⟩

/-! ## What is stored -/

/-- What a column is read as: its ACID, and the number of the first indicator in it. -/
structure AcidColumn where
  acid : Text
  indicator : Option Nat

def Member.column (member : Member) : AcidColumn := ⟨member.entryId, member.firstIndicator⟩

/-- A column of blanks is read as an ACID of blanks. -/
def blankColumn : AcidColumn := ⟨blanks 8, none⟩

/-- The columns that are read of a text of members. -/
def columnsOf (members : List Member) (left : Nat) (text : Text) : List AcidColumn :=
  (members.take left).map Member.column ++
    List.replicate (columnsRead left text - members.length) blankColumn

/-- The columns are stored one after the other. -/
def storeColumns : List AcidColumn → List TssAcidData → Nat → Option (List TssAcidData × Nat)
  | [], data, acidCounter => some (data, acidCounter)
  | column :: columns, data, acidCounter =>
    (setAdmin (data.set acidCounter ⟨column.acid, false⟩) column.indicator).bind
      fun data => storeColumns columns data (acidCounter + 1)

/-- An entry that is flagged as well where so. -/
def TssAcidData.flaggedIf (acid : TssAcidData) (flagged : Bool) : TssAcidData :=
  { acid with isAdmin := acid.isAdmin || flagged }

@[simp] theorem flaggedIf_false (acid : TssAcidData) : acid.flaggedIf false = acid := by
  simp [TssAcidData.flaggedIf]

@[simp] theorem flaggedIf_flaggedIf (acid : TssAcidData) (a b : Bool) :
    (acid.flaggedIf a).flaggedIf b = acid.flaggedIf (a || b) := by
  simp [TssAcidData.flaggedIf, Bool.or_assoc]

/-- A flag that is set within the array changes nothing else. -/
theorem setAdmin_eq_some {data data' : List TssAcidData} {indicator : Option Nat}
    (h : setAdmin data indicator = some data') :
    data'.length = data.length ∧ ∀ j : Nat,
      data'[j]? = data[j]?.map (·.flaggedIf (indicator == some j)) := by
  cases indicator with
  | none =>
    cases h
    simp
  | some i =>
    rw [setAdmin] at h
    split at h
    next =>
      cases h
      refine ⟨List.length_modify .., fun j => ?_⟩
      rw [List.getElem?_modify]
      by_cases hij : i = j
      · subst hij
        simp [TssAcidData.flaggedIf]
      · have hne : (some i == some j) = false := by simpa using hij
        simp [hij, hne]
    next => cases h

theorem setAdmin_isSome_iff {data : List TssAcidData} {indicator : Option Nat} :
    (setAdmin data indicator).isSome = true ↔ ∀ i, indicator = some i → i < data.length := by
  cases indicator with
  | none => simp [setAdmin]
  | some i =>
    rw [setAdmin]
    split <;> simp [*]

/-- Columns are stored exactly if each flag is set within the array. -/
theorem storeColumns_isSome_iff {columns : List AcidColumn} {data : List TssAcidData} {n : Nat} :
    (storeColumns columns data n).isSome = true ↔
      ∀ column ∈ columns, ∀ i, column.indicator = some i → i < data.length := by
  induction columns generalizing data n with
  | nil => simp [storeColumns]
  | cons column columns ih =>
    have hset := @setAdmin_isSome_iff (data.set n ⟨column.acid, false⟩) column.indicator
    rw [List.length_set] at hset
    rw [storeColumns, List.forall_mem_cons, ← hset]
    cases hflag : setAdmin (data.set n ⟨column.acid, false⟩) column.indicator with
    | none => simp
    | some data' =>
      have hlength := (setAdmin_eq_some hflag).1
      rw [List.length_set] at hlength
      rw [Option.bind_some, ih, hlength]
      simp

/-- **What is stored.** An entry is flagged by the columns from its own on that have the indicator
with its number first; the entries before are flagged by all columns. -/
theorem storeColumns_eq_some {columns : List AcidColumn} {data data' : List TssAcidData}
    {n acidsFound : Nat} (h : storeColumns columns data n = some (data', acidsFound))
    (hroom : n + columns.length ≤ data.length) :
    acidsFound = n + columns.length ∧ data'.length = data.length ∧
      (∀ j < n, data'[j]? =
        data[j]?.map (·.flaggedIf (columns.any (·.indicator == some j)))) ∧
      ∀ j column, columns[j]? = some column → data'[n + j]? =
        some ⟨column.acid, (columns.drop j).any (·.indicator == some (n + j))⟩ := by
  induction columns generalizing data n with
  | nil =>
    cases h
    simp
  | cons column columns ih =>
    rw [storeColumns] at h
    obtain ⟨flagged, hflag, hrest⟩ := Option.bind_eq_some_iff.mp h
    obtain ⟨hlength, hentry⟩ := setAdmin_eq_some hflag
    rw [List.length_set] at hlength
    rw [List.length_cons] at hroom
    obtain ⟨hfound, hlength', hbefore, hfrom⟩ := ih hrest (by omega)
    refine ⟨by rw [hfound, List.length_cons]; omega, hlength'.trans hlength, ?_, ?_⟩
    · intro j hj
      rw [hbefore j (by omega), hentry, List.getElem?_set_ne (by omega), Option.map_map,
        List.any_cons]
      simp [Function.comp_def]
    · intro j other hother
      cases j with
      | zero =>
        obtain rfl : column = other := Option.some.inj hother
        rw [Nat.add_zero, hbefore n (Nat.lt_succ_self n), hentry,
          List.getElem?_set_self (by omega), List.drop_zero, List.any_cons]
        simp [TssAcidData.flaggedIf]
      | succ j =>
        rw [List.getElem?_cons_succ] at hother
        have := hfrom j other hother
        rw [Nat.add_assoc, Nat.add_comm 1] at this
        rw [List.drop_succ_cons]
        exact this

section

variable {utils : Utils} (hutils : utils.Documented)
include hutils

/-- **What is read of members**: each of them, and blanks in the columns behind the last. -/
theorem acidsInLineFrom_members {str text : Text} {startPos n : Nat}
    (hstr : str.drop startPos = blanks n ++ text) (hn : members = [] → n = 0)
    (htext : MemberText members text) (hvalid : ∀ member ∈ members, member.Valid) (left : Nat)
    (data : List TssAcidData) (acidCounter : Nat) :
    acidsInLineFrom utils str left startPos data acidCounter =
      storeColumns (columnsOf members left text) data acidCounter := by
  induction left generalizing startPos n members text data acidCounter with
  | zero => simp [acidsInLineFrom, columnsOf, columnsRead, storeColumns]
  | succ left ih =>
    have hstart := drop_firstEntry hstr hn htext hvalid
    have hdrop : str.drop (startPos + ((str.drop startPos).findIdx? (· ≠ ' ')).getD 0 +
        acidOffset) = blanks 0 ++ text.drop acidOffset := by
      rw [← List.drop_drop, hstart]
      rfl
    rw [acidsInLineFrom]
    simp only [hstart]
    by_cases hempty : text = []
    · have hnil : members = [] := by
        cases members with
        | nil => rfl
        | cons member members =>
          obtain ⟨⟨first, rest, hcons, -⟩, -⟩ := htext.cons (hvalid member List.mem_cons_self)
          rw [hempty] at hcons
          cases hcons
      subst hempty hnil
      simp [columnsOf, columnsRead, acidOffset, storeColumns]
    have htmp : text.take 11 ≠ [] := by simpa using hempty
    rw [if_neg htmp, adminIndicatorIn_eq hutils, columnsOf, columnsRead_succ hempty]
    cases members with
    | nil =>
      have hblank := memberText_nil_iff.mp htext
      have hacid : utils.padWithSpaces ((text.take 11 ++ zeroBuffer 8).take 8) = blanks 8 := by
        rw [padWithSpaces_acid hutils (htext.no_nul hvalid), hblank, fieldOf_of_blanks]
      have hindicator : firstIndicator (text.take 11) = none := by
        rw [hblank, blanks, List.take_replicate]
        exact firstIndicator_blanks _
      rw [hacid, hindicator, List.take_nil, List.map_nil, List.nil_append, List.length_nil,
        Nat.sub_zero, List.replicate_succ, storeColumns]
      refine congrArg (Option.bind _) (funext fun data => ?_)
      rw [ih hdrop (fun _ => rfl) htext.nil_drop hvalid, columnsOf, List.take_nil, List.map_nil,
        List.nil_append, List.length_nil, Nat.sub_zero]
    | cons member members =>
      have hmember := hvalid member List.mem_cons_self
      obtain ⟨-, hfield, hrest⟩ := htext.cons hmember
      have hacid : utils.padWithSpaces ((text.take 11 ++ zeroBuffer 8).take 8) = member.entryId :=
        (padWithSpaces_acid hutils (htext.no_nul hvalid)).trans hfield
      have hindicator : firstIndicator (text.take 11) = member.firstIndicator := by
        obtain ⟨k, hcopied⟩ := htext.copied hmember
        rw [Member.firstIndicator, hcopied, firstIndicator_append_blanks]
      rw [hacid, hindicator, List.take_succ_cons, List.map_cons, List.cons_append, storeColumns,
        List.length_cons, Nat.add_sub_add_right]
      refine congrArg (Option.bind _) (funext fun data => ?_)
      exact ih hdrop (fun _ => rfl) hrest (fun m hm => hvalid m (List.mem_cons_of_mem _ hm)) _ _

end

theorem length_columnsOf {left : Nat} {text : Text}
    (hread : readIds left text = (columnsOf members left text).map (·.acid)) :
    (columnsOf members left text).length = columnsRead left text := by
  rw [← length_readIds, hread, List.length_map]

theorem readIds_eq {text : Text} (h : MemberText members text)
    (hvalid : ∀ member ∈ members, member.Valid) (left : Nat) :
    readIds left text = (columnsOf members left text).map (·.acid) := by
  rw [readIds_memberText h hvalid, columnsOf, List.map_append, List.map_map, List.map_replicate,
    List.map_take]
  rfl

/-! ## The line as a whole -/

theorem AcidLine.rest_text (line : AcidLine) : MemberText line.members line.rest ∧
    ∃ n, (line.members = [] → n = 0) ∧
      line.str.drop line.startPos = blanks n ++ line.rest := by
  obtain ⟨n, text, hstr, htext⟩ := line.text
  cases hmembers : line.members with
  | nil =>
    rw [hmembers, memberText_nil_iff] at htext
    have hbehind : line.str.drop line.startPos = blanks (n + text.length) := by
      rw [hstr, htext, blanks, blanks, List.replicate_append_replicate, List.length_replicate]
      rfl
    have hrest : line.rest = blanks (n + text.length) := by
      rw [AcidLine.rest, hbehind, findIdx?_blanks]
      rfl
    rw [hrest, memberText_nil_iff, length_blanks]
    exact ⟨rfl, 0, fun _ => rfl, hbehind⟩
  | cons member members =>
    have hn : line.members = [] → n = 0 := fun hnil =>
      absurd (hmembers.symm.trans hnil) (List.cons_ne_nil _ _)
    have hrest : line.rest = text := by
      rw [AcidLine.rest, List.drop_drop]
      exact drop_firstEntry hstr hn htext line.valid
    rw [hrest, ← hmembers]
    exact ⟨htext, n, hn, hstr⟩

/-- What is read of a line without anything behind its members. -/
theorem columnsOf_exact {text : Text} (hfour : members.length ≤ 4)
    (hends : columnsRead 4 text - members.length = 0) :
    columnsOf members 4 text = members.map Member.column := by
  rw [columnsOf, hends, List.replicate_zero, List.append_nil, List.take_of_length_le hfour]

/-- The flags of stored members are their own. -/
theorem stored_flags_iff {data data' : List TssAcidData} {acidsFound : Nat}
    (hstored : storeColumns (members.map Member.column) data 0 = some (data', acidsFound))
    (hroom : members.length ≤ data.length) :
    data'.take members.length = members.map Member.acidData ↔
      ∀ i member, members[i]? = some member →
        (member.indicator ∈ tssAdminIndicators ↔
          ∃ other ∈ members.drop i, other.firstIndicator = some i) := by
  have hlen : 0 + (members.map Member.column).length ≤ data.length := by
    rw [List.length_map]
    omega
  obtain ⟨-, -, -, hentries⟩ := storeColumns_eq_some hstored hlen
  have hentry : ∀ (i : Nat) (member : Member), members[i]? = some member →
      data'[i]? = some (TssAcidData.mk member.entryId
        ((members.drop i).any (·.firstIndicator == some i))) := by
    intro i member hmember
    have := hentries i member.column (by rw [List.getElem?_map, hmember]; rfl)
    rwa [Nat.zero_add, ← List.map_drop, List.any_map] at this
  have hflag : ∀ (i : Nat) (member : Member), (members.drop i).any (·.firstIndicator == some i) =
        tssAdminIndicators.contains member.indicator ↔
      (member.indicator ∈ tssAdminIndicators ↔
        ∃ other ∈ members.drop i, other.firstIndicator = some i) := by
    intro i member
    rw [Bool.eq_iff_iff, List.any_eq_true, List.contains_iff_mem]
    simp only [beq_iff_eq]
    exact iff_comm
  constructor
  · intro h i member hmember
    obtain ⟨hlt, -⟩ := List.getElem?_eq_some_iff.mp hmember
    have hsame := congrArg (·[i]?) h
    simp only [List.getElem?_take, if_pos hlt, List.getElem?_map, hmember, hentry i member hmember,
      Option.map_some, Option.some.injEq] at hsame
    exact (hflag i member).mp (congrArg TssAcidData.isAdmin hsame)
  · intro h
    apply List.ext_getElem?
    intro i
    rw [List.getElem?_take, List.getElem?_map]
    split
    next hlt =>
      have hmember := List.getElem?_eq_getElem hlt
      rw [hentry i _ hmember, hmember, Option.map_some, Member.acidData,
        (hflag i members[i]).mpr (h i _ hmember)]
    next hge => rw [List.getElem?_eq_none (Nat.not_lt.mp hge)]; rfl

/-- **When a line is read right.** Exactly where nothing stands behind the columns of its members,
unless these are four, each flag is set within the array, and the flags are the members' own. Nothing
is said about what is read of lines with more than four members, or with other characters in the
columns of the administrator than blanks and indicators. -/
theorem acidLine_read_iff {utils : Utils} (hutils : utils.Documented) (line : AcidLine) :
    ReadsLine utils line ↔ ReadableLine line := by
  obtain ⟨htext, n, hn, hstr⟩ := line.rest_text
  have hread : ∀ data, getAcidsInLine utils line.str data line.startPos =
      storeColumns (columnsOf line.members 4 line.rest) data 0 := fun data =>
    acidsInLineFrom_members hutils hstr hn htext line.valid 4 data 0
  have hcolumns := length_columnsOf (readIds_eq htext line.valid 4)
  have hfour := line.length_le
  have hends : columnsRead 4 line.rest - line.members.length = 0 ↔
      line.members.length = 4 ∨ line.rest.length ≤ acidOffset * line.members.length := by
    rw [columnsRead, acidOffset]
    omega
  have hwithin : (∀ column ∈ line.members.map Member.column, ∀ i, column.indicator = some i →
        i < 4) ↔ ∀ member ∈ line.members, ∀ i, member.firstIndicator = some i → i < 4 :=
    List.forall_mem_map
  constructor
  · intro reads
    obtain ⟨data', hstored, htake⟩ := reads.acids (List.replicate 4 ⟨[], false⟩) rfl
    rw [hread] at hstored
    have hlen : 0 + (columnsOf line.members 4 line.rest).length ≤ 4 := by
      rw [hcolumns, columnsRead]
      omega
    obtain ⟨hfound, -⟩ := storeColumns_eq_some hstored hlen
    rw [hcolumns, Nat.zero_add] at hfound
    have hzero : columnsRead 4 line.rest - line.members.length = 0 := by omega
    rw [columnsOf_exact hfour hzero] at hstored
    refine ⟨hends.mp hzero, hwithin.mp ?_, (stored_flags_iff hstored hfour).mp htake⟩
    exact storeColumns_isSome_iff.mp (by rw [hstored]; rfl)
  · intro readable
    refine ⟨fun data hdata => ?_, fun p hp => positionsReadFrom_lt hp⟩
    have hstores := @storeColumns_isSome_iff (line.members.map Member.column) data 0
    rw [hdata] at hstores
    obtain ⟨⟨data', acidsFound⟩, hstored⟩ :=
      Option.isSome_iff_exists.mp (hstores.mpr (hwithin.mpr readable.flagged_within))
    have hroom : line.members.length ≤ data.length := hdata ▸ hfour
    obtain ⟨hfound, -⟩ := storeColumns_eq_some hstored (by rwa [Nat.zero_add, List.length_map])
    rw [List.length_map, Nat.zero_add] at hfound
    refine ⟨data', ?_, (stored_flags_iff hstored hroom).mpr readable.flagged⟩
    rw [hread, columnsOf_exact hfour (hends.mpr readable.ends), hstored, hfound]

/-- A member without an indicator. -/
def userMember : Member := ⟨['U', 'S', 'E', 'R', '1'], blanks 3⟩

/-- A central administrator. -/
def adminMember : Member := ⟨['S', 'E', 'C'], ['-', 'S', 'C']⟩

theorem userMember_valid : userMember.Valid where
  id_ne_nil := by decide
  id_head := by decide
  id_text := by decide
  id_length := by decide
  indicator_text := by decide
  indicator_length := rfl

theorem adminMember_valid : adminMember.Valid where
  id_ne_nil := by decide
  id_head := by decide
  id_text := by decide
  id_length := by decide
  indicator_text := by decide
  indicator_length := rfl

/-- A user and an administrator, with two blanks in front. -/
def twoMembers : AcidLine where
  str := blanks 2 ++ (['U', 'S', 'E', 'R', '1'] ++ blanks 7 ++ ['S', 'E', 'C'] ++ blanks 5 ++
    ['-', 'S', 'C'])
  startPos := 0
  members := [userMember, adminMember]
  valid := List.forall_mem_cons.mpr
    ⟨userMember_valid, List.forall_mem_singleton.mpr adminMember_valid⟩
  marked := List.forall_mem_cons.mpr ⟨.inl rfl, List.forall_mem_singleton.mpr (.inr (by decide))⟩
  length_le := by decide
  text := ⟨2, _, rfl, 1, 0, rfl⟩

/-- The indicator of the second member is the second of the indicators, so that it is flagged. -/
theorem twoMembers_read : ReadsLine Utils.plain twoMembers := by
  refine (acidLine_read_iff Utils.plain_documented twoMembers).mpr ⟨.inr (by decide), ?_, ?_⟩
  · refine List.forall_mem_cons.mpr ⟨fun i h => ?_, List.forall_mem_singleton.mpr fun i h => ?_⟩
    · exact absurd (h.symm.trans (by decide : userMember.firstIndicator = none)) (by simp)
    · obtain rfl : 1 = i :=
        Option.some.inj ((by decide : adminMember.firstIndicator = some 1).symm.trans h)
      decide
  · intro i member h
    match i with
    | 0 => cases h; decide
    | 1 => cases h; decide
    | i + 2 => cases h

/-- A user with 8 blanks behind, which reach into the next column. -/
def trailingBlanks : AcidLine where
  str := ['U', 'S', 'E', 'R', '1'] ++ blanks 8
  startPos := 0
  members := [userMember]
  valid := List.forall_mem_singleton.mpr userMember_valid
  marked := List.forall_mem_singleton.mpr (.inl rfl)
  length_le := by decide
  text := ⟨0, _, rfl, 0, 1, rfl⟩

/-- An administrator alone. -/
def loneAdministrator : AcidLine where
  str := ['S', 'E', 'C'] ++ blanks 5 ++ ['-', 'S', 'C']
  startPos := 0
  members := [adminMember]
  valid := List.forall_mem_singleton.mpr adminMember_valid
  marked := List.forall_mem_singleton.mpr (.inr (by decide))
  length_le := by decide
  text := ⟨0, _, rfl, 1, 0, rfl⟩

/-- Behind the user a second ACID is returned, of blanks; and the administrator is not flagged, but
the entry behind it. -/
theorem trailingBlanks_misread : ¬ ReadsLine Utils.plain trailingBlanks ∧
    ¬ ReadsLine Utils.plain loneAdministrator := by
  constructor
  · intro reads
    obtain ⟨data', hread, -⟩ := reads.acids (List.replicate 4 ⟨[], false⟩) rfl
    have htwo : (getAcidsInLine Utils.plain trailingBlanks.str (List.replicate 4 ⟨[], false⟩) 0).map
        Prod.snd = some 2 := by decide
    have hfound : 2 = trailingBlanks.members.length :=
      Option.some.inj (htwo.symm.trans (congrArg (Option.map Prod.snd) hread))
    exact absurd hfound (by decide)
  · intro reads
    obtain ⟨data', hread, htake⟩ := reads.acids (List.replicate 4 ⟨[], false⟩) rfl
    have hflags : (getAcidsInLine Utils.plain loneAdministrator.str
        (List.replicate 4 ⟨[], false⟩) 0).map (fun found => (found.1.take 1).map (·.isAdmin)) =
        some [false] := by decide
    have hown := congrArg (Option.map fun found => (found.1.take 1).map (·.isAdmin)) hread
    have hread' := Option.some.inj (hflags.symm.trans hown)
    exact absurd (hread'.trans (congrArg (List.map TssAcidData.isAdmin) htake)) (by decide)

end Zss.Tss
