import Mathlib.Data.List.Infix
import Zss.Tss.KeyLine

/-!
# The OMVS segment of a user

`parseOMVSSegment` goes over the lines of a LISTUSER output and copies what stands behind a label
into the field of that label. A line is its length, two characters, and its text; the walk has only
the storage from the first line on, and ends at a length of zero. Every look at the storage and every
write to a field is put into a log, so that it can be compared with the line and the field it is for.

The search for a word is a function of the common library (`Utils`), which is given the length of the
line and looks no further.

## What is not established

That an output is one of LISTUSER: any lines are gone over. What stands in a field after an error is
returned is not said.
-/

namespace Zss.Services.Omvs

open Zss.Tss

/-- `OMVS_SEGMENT_MARKER`. -/
def omvsSegmentMarker : Text := "OMVS INFORMATION".toList

/-! ## The segment -/

/-- The fields of `OMVSSegment`, in the order they are looked for. -/
inductive Field where
  | uid
  | home
  | program
  | cpuTimeMax
  | assizeMax
  | fileProcMax
  | procUserMax
  | threadsMax
  | mMapAreaMax
deriving DecidableEq

/-- The word that a line with the field is known by. -/
def Field.word : Field → Text
  | uid => "UID".toList
  | home => "HOME".toList
  | program => "PROGRAM".toList
  | cpuTimeMax => "CPUTIMEMAX".toList
  | assizeMax => "ASSIZEMAX".toList
  | fileProcMax => "FILEPROCMAX".toList
  | procUserMax => "PROCUSERMAX".toList
  | threadsMax => "THREADSMAX".toList
  | mMapAreaMax => "MMAPAREAMAX".toList

/-- `UID_OFFSET` and its siblings. -/
def Field.offset : Field → Nat
  | uid => 5
  | home => 5
  | program => 9
  | cpuTimeMax => 12
  | assizeMax => 11
  | fileProcMax => 13
  | procUserMax => 13
  | threadsMax => 12
  | mMapAreaMax => 13

/-- `sizeof` a field. -/
def Field.size : Field → Nat
  | uid | home | program => 1024
  | _ => 64

def fields : List Field :=
  [.uid, .home, .program, .cpuTimeMax, .assizeMax, .fileProcMax, .procUserMax, .threadsMax,
    .mMapAreaMax]

/-- `OMVSSegment`: the characters of its fields. -/
abbrev OmvsSegment := Field → Text

/-- The storage of a segment as it is given, cleared. -/
def OmvsSegment.cleared : OmvsSegment := fun field => List.replicate field.size nul

/-- What is shown of a field: `jsonAddString` is given it as a C string. -/
def OmvsSegment.shown (segment : OmvsSegment) (field : Field) : Text :=
  (segment field).takeWhile (· ≠ nul)

/-! ## The output -/

/-- A block of an output: its lines, each with a length of two characters, and what is in storage
behind them. -/
structure Block where
  lines : List Text
  halfwords : ∀ line ∈ lines, line.length < 65536
  behind : Text

/-- An output of RACF: its return code, and the blocks. -/
structure CommandOutput where
  racfRc : Int
  blocks : List Block

/-- A line in storage. -/
def lineImage (line : Text) : Text :=
  Char.ofNat (line.length / 256) :: Char.ofNat (line.length % 256) :: line

def linesImage (lines : List Text) : Text := lines.flatMap lineImage

/-- The lines that the parser is given a pointer to. -/
def CommandOutput.firstLines (output : CommandOutput) : List Text :=
  match output.blocks with
  | block :: _ => block.lines
  | [] => []

/-- What follows them in storage. -/
def CommandOutput.behind (output : CommandOutput) : Text :=
  match output.blocks with
  | block :: _ => block.behind
  | [] => []

/-! ## The parser -/

/-- A look at the storage or a write to a field. -/
inductive Access where
  /-- The length of a line, at a position behind the first. -/
  | lengthAt (position : Nat)
  /-- Characters of a line of some length, from an offset on. -/
  | characters (length offset count : Nat)
  /-- Characters that are written to a field. -/
  | written (field : Field) (count : Nat)

/-- The parser: what it returned, once it did, whether the segment was found, the segment, and the
log. -/
structure Parse where
  returned : Option Int
  foundOmvs : Bool
  segment : OmvsSegment
  accesses : List Access

def Parse.start : Parse := ⟨none, false, .cleared, []⟩

def Parse.log (p : Parse) (access : Access) : Parse :=
  { p with accesses := p.accesses ++ [access] }

def Parse.return (p : Parse) (status : Int) : Parse := { p with returned := some status }

/-- `memcpy` to a field. -/
def Parse.copy (p : Parse) (field : Field) (characters : Text) : Parse :=
  { p with
    segment := fun other =>
      if other = field then characters ++ (p.segment field).drop characters.length
      else p.segment other }

/-- The number of characters `strcmp` looks at. -/
def compared : Text → Text → Nat
  | c :: text, d :: literal => if c = d then compared text literal + 1 else 1
  | [], _ :: _ => 1
  | _, [] => 0

/-- The marker with the character that ends it. -/
def markerString : Text := omvsSegmentMarker ++ [nul]

/-- A length in storage. -/
def halfword : Text → Option Nat
  | high :: low :: _ => some (high.toNat * 256 + low.toNat)
  | _ => none

section

variable (utils : Utils)

/-- The fields, one after the other, on a line of this length that begins at the text. -/
def copyFields (text : Text) (length : Nat) : List Field → Parse → Parse
  | [], p => p
  | field :: fields, p =>
    if (utils.indexOfString (text.take length) field.word).isSome then
      if field.size < length + 1 then p.return (-1)
      else
        copyFields text length fields
          (((p.log (.characters length field.offset (length + 1))).log (.written field (length + 1))).copy
            field ((text.drop field.offset).take (length + 1)))
    else copyFields text length fields p

/-- The comparison of a line with the marker. -/
def compareMarker (text : Text) (length : Nat) (p : Parse) : Parse :=
  let p := p.log (.characters length 0 (compared text markerString))
  { p with foundOmvs := p.foundOmvs || markerString.isPrefixOf text }

/-- The body of the loop of `parseOMVSSegment`. -/
def visit (text : Text) (length : Nat) (p : Parse) : Parse :=
  let p := compareMarker text length p
  if p.foundOmvs then copyFields utils text length fields p else p

/-- The loop, for so many rounds, from a position on that the storage begins at. Where the storage
ends, it is left without a return. -/
def walk : Nat → Nat → Text → Parse → Parse
  | 0, _, _, p => p
  | rounds + 1, position, storage, p =>
    let p := p.log (.lengthAt position)
    match halfword storage with
    | none => p
    | some 0 => p.return 0
    | some (n + 1) =>
      let text := storage.drop 2
      let p := visit utils text (n + 1) p
      if p.returned.isSome then p
      else walk rounds (position + 2 + (n + 1)) (text.drop (n + 1)) p

/-- `parseOMVSSegment`. -/
def parseOmvsSegment (output : CommandOutput) : Parse :=
  if output.racfRc ≠ 0 then Parse.start.return output.racfRc
  else
    let storage := linesImage output.firstLines ++ output.behind
    walk utils (storage.length + 1) 0 storage .start

end

/-! ## What is meant -/

/-- The label of a field. -/
def Field.label (field : Field) : Text := field.word ++ "= ".toList

/-- The lines of the segment: those behind the marker. -/
def CommandOutput.omvsLines (output : CommandOutput) : List Text :=
  ((output.blocks.flatMap Block.lines).dropWhile (· ≠ omvsSegmentMarker)).tail

/-- A look at the storage is inside the lines of this size, and inside the line it is for; a write
is inside its field. -/
def Access.Inside (size : Nat) : Access → Prop
  | .lengthAt position => position + 2 ≤ size
  | .characters length offset count => offset + count ≤ length
  | .written field count => count ≤ field.size

/-- A field is shown with what stands behind its label on the lines that begin with it, and empty
where there is none. -/
def ShownRight (lines : List Text) (field : Field) (shown : Text) : Prop :=
  (∀ value, field.label ++ value ∈ lines → shown = value) ∧
    ((∀ line ∈ lines, ¬ field.label <+: line) → shown = [])

/-- An output is parsed as is meant. -/
structure Right (output : CommandOutput) (p : Parse) : Prop where
  terminates : p.returned.isSome
  inside : ∀ access ∈ p.accesses, access.Inside (linesImage output.firstLines).length
  shown : p.returned = some 0 → ∀ field, ShownRight output.omvsLines field (p.segment.shown field)

/-! ## When it is -/

/-- The word of a field is somewhere in a line. -/
def names (line : Text) (field : Field) : Bool := decide (field.word <:+: line)

/-- The first field that a line names. -/
def firstNamed (line : Text) : Option Field := fields.find? (names line)

/-- The walk ends with this status before it looks outside a line: it comes to an empty line, or to
one that is too long for the first field it names. Until then no line is the marker or a beginning of
it, and once a line begins with the marker and the character that ends it, no line names a field. -/
inductive EndsInside : Bool → List Text → Int → Prop
  | empty {found : Bool} {lines : List Text} : EndsInside found ([] :: lines) 0
  | tooLong {found : Bool} {line : Text} {lines : List Text} {field : Field} :
      line ≠ [] → ¬ line <+: omvsSegmentMarker → (found || markerString.isPrefixOf line) = true →
      firstNamed line = some field → field.size < line.length + 1 →
      EndsInside found (line :: lines) (-1)
  | next {found : Bool} {line : Text} {lines : List Text} {status : Int} :
      line ≠ [] → ¬ line <+: omvsSegmentMarker →
      ((found || markerString.isPrefixOf line) = true → firstNamed line = none) →
      EndsInside (found || markerString.isPrefixOf line) lines status →
      EndsInside found (line :: lines) status

/-! ## The comparison -/

theorem compared_nil (text : Text) : compared text [] = 0 := by
  cases text <;> rfl

theorem compared_pos (text : Text) (d : Char) (literal : Text) :
    0 < compared text (d :: literal) := by
  cases text with
  | nil => exact Nat.one_pos
  | cons c text =>
    rw [compared]
    split <;> exact Nat.succ_pos _

/-- The comparison with a C string stays within a line exactly if the line is not a beginning of what
the string shows. -/
theorem compared_inside_iff (line behind literal : Text) (last : Char) :
    compared (line ++ behind) (literal ++ [last]) ≤ line.length ↔ ¬ line <+: literal := by
  induction line generalizing literal with
  | nil =>
    have hpos : 0 < compared behind (literal ++ [last]) := by
      cases literal with
      | nil => exact compared_pos behind last []
      | cons d literal => exact compared_pos behind d (literal ++ [last])
    constructor
    · intro hle
      exact absurd hpos (Nat.not_lt.mpr hle)
    · intro hnot
      exact absurd (List.nil_prefix) hnot
  | cons c line ih =>
    cases literal with
    | nil =>
      have hle : compared (c :: (line ++ behind)) [last] ≤ 1 := by
        rw [compared, compared_nil]
        split <;> exact Nat.le_refl _
      constructor
      · intro _ hprefix
        cases List.prefix_nil.mp hprefix
      · intro _
        exact Nat.le_trans hle (Nat.succ_le_succ (Nat.zero_le _))
    | cons d literal =>
      rw [List.cons_append, List.cons_append, compared, List.cons_prefix_cons]
      split
      next hcd =>
        rw [List.length_cons, Nat.succ_le_succ_iff, ih]
        exact not_congr (and_iff_right hcd).symm
      next hcd =>
        constructor
        · intro _ hprefix
          exact hcd hprefix.1
        · intro _
          exact Nat.succ_le_succ (Nat.zero_le _)

variable {line : Text} {found : Bool} {p : Parse}

/-- A line that is not a beginning of the marker tells alone whether it is found equal to it. -/
theorem markerString_isPrefixOf (hline : ¬ line <+: omvsSegmentMarker) (behind : Text) :
    markerString.isPrefixOf (line ++ behind) = markerString.isPrefixOf line := by
  rw [Bool.eq_iff_iff, List.isPrefixOf_iff_prefix, List.isPrefixOf_iff_prefix]
  constructor
  · intro hprefix
    rcases List.prefix_or_prefix_of_prefix hprefix (List.prefix_append line behind) with h | h
    · exact h
    · rcases List.prefix_concat_iff.mp h with heq | hshort
      · rw [heq]
        exact List.prefix_rfl
      · exact absurd hshort hline
  · intro hprefix
    exact hprefix.trans (List.prefix_append line behind)

/-! ## The log -/

/-- A write is inside its field. -/
def Access.WrittenInside : Access → Prop
  | .written field count => count ≤ field.size
  | _ => True

/-- What was logged stays, and each new write is inside its field. -/
def Grows (p p' : Parse) : Prop :=
  ∃ more, p'.accesses = p.accesses ++ more ∧ ∀ access ∈ more, access.WrittenInside

theorem Grows.refl (p : Parse) : Grows p p :=
  ⟨[], (List.append_nil _).symm, fun _ h => absurd h List.not_mem_nil⟩

theorem Grows.trans {p p' p'' : Parse} (h : Grows p p') (h' : Grows p' p'') : Grows p p'' := by
  obtain ⟨more, hmore, hin⟩ := h
  obtain ⟨more', hmore', hin'⟩ := h'
  refine ⟨more ++ more', by rw [hmore', hmore, List.append_assoc], fun access haccess => ?_⟩
  rcases List.mem_append.mp haccess with h | h
  · exact hin access h
  · exact hin' access h

theorem Grows.log (p : Parse) (access : Access) (h : access.WrittenInside) :
    Grows p (p.log access) :=
  ⟨[access], rfl, fun _ hother => List.eq_of_mem_singleton hother ▸ h⟩

theorem Grows.mem {p p' : Parse} (h : Grows p p') {access : Access} (haccess : access ∈ p.accesses) :
    access ∈ p'.accesses := by
  obtain ⟨more, hmore, -⟩ := h
  rw [hmore]
  exact List.mem_append_left _ haccess

theorem mem_log (p : Parse) (access : Access) : access ∈ (p.log access).accesses :=
  List.mem_append_right _ (List.mem_singleton_self _)

section

variable (utils : Utils)

theorem copyFields_grows (text : Text) (length : Nat) (fields : List Field) (p : Parse) :
    Grows p (copyFields utils text length fields p) := by
  induction fields generalizing p with
  | nil => exact .refl p
  | cons field fields ih =>
    rw [copyFields]
    split
    next =>
      split
      next => exact .refl p
      next hfits =>
        have hread := Grows.log p (.characters length field.offset (length + 1)) trivial
        have hwrite := Grows.log (p.log (.characters length field.offset (length + 1)))
          (.written field (length + 1)) (Nat.le_of_not_lt hfits)
        exact (hread.trans hwrite).trans (ih _)
    next => exact ih p

theorem compareMarker_grows (text : Text) (length : Nat) (p : Parse) :
    Grows p (compareMarker text length p) :=
  .log p (.characters length 0 (compared text markerString)) trivial

theorem visit_grows (text : Text) (length : Nat) (p : Parse) :
    Grows p (visit utils text length p) := by
  have hcompare := compareMarker_grows text length p
  rw [visit]
  split
  next => exact hcompare.trans (copyFields_grows utils text length fields _)
  next => exact hcompare

/-- The length of a line is looked at, and what follows adds to the log. -/
theorem walk_succ_grows (rounds position : Nat) (storage : Text) (p : Parse) :
    Grows (p.log (.lengthAt position)) (walk utils (rounds + 1) position storage p) := by
  induction rounds generalizing position storage p with
  | zero =>
    rw [walk]
    split
    next => exact .refl _
    next => exact .refl _
    next n _ =>
      dsimp only
      split <;> exact visit_grows utils (storage.drop 2) (n + 1) _
  | succ rounds ih =>
    rw [walk]
    split
    next => exact .refl _
    next => exact .refl _
    next n _ =>
      have hvisit := visit_grows utils (storage.drop 2) (n + 1) (p.log (.lengthAt position))
      dsimp only
      split
      next => exact hvisit
      next =>
        have hlog := Grows.log (visit utils (storage.drop 2) (n + 1) (p.log (.lengthAt position)))
          (.lengthAt (position + 2 + (n + 1))) trivial
        exact (hvisit.trans hlog).trans (ih _ _ _)

theorem walk_grows (rounds position : Nat) (storage : Text) (p : Parse) :
    Grows p (walk utils rounds position storage p) := by
  cases rounds with
  | zero => exact .refl p
  | succ rounds =>
    have hlog := Grows.log p (.lengthAt position) trivial
    exact hlog.trans (walk_succ_grows utils rounds position storage p)

end

/-! ## The fields of a line -/

section

variable {utils : Utils} (hutils : utils.Documented)
include hutils

theorem isSome_indexOfString (line : Text) (field : Field) :
    (utils.indexOfString line field.word).isSome = names line field := by
  have hne : field.word ≠ [] := by cases field <;> decide
  rw [Bool.eq_iff_iff, names, decide_eq_true_iff]
  constructor
  · intro hsome
    obtain ⟨i, hi⟩ := Option.isSome_iff_exists.mp hsome
    have hat := occursAt_iff.mp ((hutils.indexOfString _ _ _ hne).mp hi).1
    exact hat.isInfix.trans (List.drop_suffix i line).isInfix
  · rintro ⟨before, after, rfl⟩
    rw [List.append_assoc]
    obtain ⟨i, hi⟩ := exists_indexOfString hutils hne (occursAt_append before field.word after)
    rw [hi, Option.isSome_some]

theorem copyFields_none (behind : Text) {fields : List Field} (p : Parse)
    (hnone : fields.find? (names line) = none) :
    copyFields utils (line ++ behind) line.length fields p = p := by
  induction fields with
  | nil => rfl
  | cons other fields ih =>
    rw [copyFields, List.take_left, isSome_indexOfString hutils]
    cases hother : names line other with
    | true =>
      rw [List.find?_cons_of_pos hother] at hnone
      cases hnone
    | false =>
      rw [List.find?_cons_of_neg (ne_true_of_eq_false hother)] at hnone
      exact ih hnone

/-- The first field that a line names is too small for it. -/
theorem copyFields_tooLong (behind : Text) {fields : List Field} {field : Field} (p : Parse)
    (hsome : fields.find? (names line) = some field) (hsize : field.size < line.length + 1) :
    copyFields utils (line ++ behind) line.length fields p = p.return (-1) := by
  induction fields with
  | nil => cases hsome
  | cons other fields ih =>
    rw [copyFields, List.take_left, isSome_indexOfString hutils]
    cases hother : names line other with
    | true =>
      rw [List.find?_cons_of_pos hother] at hsome
      cases hsome
      exact (if_pos rfl).trans (if_pos hsize)
    | false =>
      rw [List.find?_cons_of_neg (ne_true_of_eq_false hother)] at hsome
      exact ih hsome

/-- Where it is not, more than the line is copied. -/
theorem copyFields_copies (behind : Text) {fields : List Field} {field : Field} (p : Parse)
    (hsome : fields.find? (names line) = some field) (hsize : ¬ field.size < line.length + 1) :
    .characters line.length field.offset (line.length + 1) ∈
      (copyFields utils (line ++ behind) line.length fields p).accesses := by
  induction fields with
  | nil => cases hsome
  | cons other fields ih =>
    rw [copyFields, List.take_left, isSome_indexOfString hutils]
    cases hother : names line other with
    | true =>
      rw [List.find?_cons_of_pos hother] at hsome
      cases hsome
      rw [if_pos rfl, if_neg hsize]
      refine (copyFields_grows utils _ _ fields _).mem ?_
      exact List.mem_append_left _ (mem_log p _)
    | false =>
      rw [List.find?_cons_of_neg (ne_true_of_eq_false hother)] at hsome
      exact ih hsome

end

/-! ## One line -/

theorem toNat_charOfNat {n : Nat} (h : n < 256) : (Char.ofNat n).toNat = n := by
  have hvalid : n.isValidChar := .inl (Nat.lt_trans h (by decide))
  rw [Char.ofNat, dif_pos hvalid]
  rfl

theorem halfword_lineImage (hline : line.length < 65536) (behind : Text) :
    halfword (lineImage line ++ behind) = some line.length := by
  have hhigh := toNat_charOfNat (n := line.length / 256) (by omega)
  have hlow := toNat_charOfNat (n := line.length % 256) (Nat.mod_lt _ (by decide))
  rw [lineImage, List.cons_append, List.cons_append, halfword, hhigh, hlow]
  exact congrArg some (by omega)

theorem linesImage_cons (line : Text) (lines : List Text) (behind : Text) :
    linesImage (line :: lines) ++ behind = lineImage line ++ (linesImage lines ++ behind) := by
  rw [linesImage, List.flatMap_cons, List.append_assoc, linesImage]

theorem length_linesImage_cons (line : Text) (lines : List Text) :
    (linesImage (line :: lines)).length = line.length + 2 + (linesImage lines).length := by
  rw [linesImage, List.flatMap_cons, List.length_append]
  rfl

theorem walk_empty (utils : Utils) (rounds position : Nat) (lines : List Text) (behind : Text)
    (p : Parse) :
    walk utils (rounds + 1) position (linesImage ([] :: lines) ++ behind) p =
      (p.log (.lengthAt position)).return 0 := by
  have hlength : halfword (lineImage [] ++ (linesImage lines ++ behind)) = some 0 :=
    halfword_lineImage (by decide) _
  rw [linesImage_cons, walk, hlength]

/-- What the walk is left with behind a line. -/
theorem walk_line (utils : Utils) (rounds position : Nat) (hne : line ≠ [])
    (hline : line.length < 65536) (lines : List Text) (behind : Text) (p : Parse) :
    walk utils (rounds + 1) position (linesImage (line :: lines) ++ behind) p =
      let p := visit utils (line ++ (linesImage lines ++ behind)) line.length
        (p.log (.lengthAt position))
      if p.returned.isSome then p
      else walk utils rounds (position + 2 + line.length) (linesImage lines ++ behind) p := by
  obtain ⟨n, hn⟩ : ∃ n, line.length = n + 1 :=
    ⟨line.length - 1, (Nat.succ_pred_eq_of_pos (List.length_pos_iff.mpr hne)).symm⟩
  rw [linesImage_cons, walk, halfword_lineImage hline, hn]
  dsimp only
  have hdrop : (lineImage line ++ (linesImage lines ++ behind)).drop 2 =
      line ++ (linesImage lines ++ behind) := rfl
  rw [hdrop, ← hn, List.drop_left]

/-- A line that does not begin the marker is compared inside it, and alone tells whether the segment
is found. -/
theorem compareMarker_line (hline : ¬ line <+: omvsSegmentMarker) (behind : Text) (p : Parse) :
    compareMarker (line ++ behind) line.length p =
      { p.log (.characters line.length 0 (compared (line ++ behind) markerString)) with
        foundOmvs := p.foundOmvs || markerString.isPrefixOf line } := by
  rw [compareMarker, markerString_isPrefixOf hline]
  rfl

/-! ## The walk -/

/-- What is known of the parser before a line. -/
structure Inside (size : Nat) (found : Bool) (p : Parse) : Prop where
  running : p.returned = none
  found : p.foundOmvs = found
  accesses : ∀ access ∈ p.accesses, access.Inside size

theorem Inside.log {size : Nat} (h : Inside size found p) (access : Access)
    (haccess : access.Inside size) : Inside size found (p.log access) where
  running := h.running
  found := h.found
  accesses other hother := by
    rcases List.mem_append.mp hother with hold | hnew
    · exact h.accesses other hold
    · rw [List.eq_of_mem_singleton hnew]
      exact haccess

theorem Inside.compareMarker {size : Nat} (h : Inside size found p)
    (hline : ¬ line <+: omvsSegmentMarker) (behind : Text) :
    Inside size (found || markerString.isPrefixOf line)
      (compareMarker (line ++ behind) line.length p) := by
  have hcompared : 0 + compared (line ++ behind) markerString ≤ line.length := by
    rw [Nat.zero_add]
    exact (compared_inside_iff line behind omvsSegmentMarker nul).mpr hline
  have hlog := h.log (.characters line.length 0 (compared (line ++ behind) markerString)) hcompared
  rw [compareMarker_line hline]
  exact ⟨hlog.running, congrArg (· || markerString.isPrefixOf line) hlog.found, hlog.accesses⟩

section

variable {utils : Utils} (hutils : utils.Documented)
include hutils

/-- A line that names no field, or comes before the segment, is compared only. -/
theorem visit_next (hline : ¬ line <+: omvsSegmentMarker) (behind : Text)
    (hnamed : (p.foundOmvs || markerString.isPrefixOf line) = true → firstNamed line = none) :
    visit utils (line ++ behind) line.length p =
      compareMarker (line ++ behind) line.length p := by
  have hfound : (compareMarker (line ++ behind) line.length p).foundOmvs =
      (p.foundOmvs || markerString.isPrefixOf line) := by rw [compareMarker_line hline]
  rw [visit]
  split
  next h => exact copyFields_none hutils behind _ (hnamed (hfound.symm.trans h))
  next => rfl

theorem visit_tooLong (hline : ¬ line <+: omvsSegmentMarker) (behind : Text)
    (hfound : (p.foundOmvs || markerString.isPrefixOf line) = true) {field : Field}
    (hnamed : firstNamed line = some field) (hsize : field.size < line.length + 1) :
    visit utils (line ++ behind) line.length p =
      (compareMarker (line ++ behind) line.length p).return (-1) := by
  have hfound' : (compareMarker (line ++ behind) line.length p).foundOmvs = true := by
    rw [compareMarker_line hline]
    exact hfound
  exact (if_pos hfound').trans (copyFields_tooLong hutils behind _ hnamed hsize)

/-- A line that is not looked beyond does not begin the marker, and once the segment is found the
first field that it names is too small for it. -/
theorem visit_inside {size : Nat} {line behind : Text}
    (hinside : ∀ access ∈ (visit utils (line ++ behind) line.length p).accesses,
      access.Inside size) :
    ¬ line <+: omvsSegmentMarker ∧
      ((p.foundOmvs || markerString.isPrefixOf line) = true →
        ∀ field, firstNamed line = some field → field.size < line.length + 1) := by
  have hcompared : Access.Inside size
      (.characters line.length 0 (compared (line ++ behind) markerString)) := by
    refine hinside _ (Grows.mem ?_ (mem_log p _))
    rw [visit]
    split
    next => exact copyFields_grows utils _ _ fields _
    next => exact .refl _
  have hline : ¬ line <+: omvsSegmentMarker := by
    rw [← compared_inside_iff line behind omvsSegmentMarker nul, ← Nat.zero_add (compared _ _)]
    exact hcompared
  refine ⟨hline, fun hfound field hnamed => ?_⟩
  have hfound' : (compareMarker (line ++ behind) line.length p).foundOmvs = true := by
    rw [compareMarker_line hline]
    exact hfound
  by_contra hsize
  have hcopied : field.offset + (line.length + 1) ≤ line.length := by
    refine hinside (.characters line.length field.offset (line.length + 1)) ?_
    rw [visit, if_pos hfound']
    exact copyFields_copies hutils behind _ hnamed hsize
  omega

/-- A walk that ends inside the lines returns its status, with the segment as it was. -/
theorem walk_endsInside {size : Nat} {lines : List Text} {status : Int}
    (hends : EndsInside found lines status) (hhalf : ∀ line ∈ lines, line.length < 65536)
    {rounds position : Nat} (hrounds : lines.length ≤ rounds)
    (hsize : position + (linesImage lines).length = size) (behind : Text)
    (hp : Inside size found p) :
    (walk utils rounds position (linesImage lines ++ behind) p).returned = some status ∧
      (walk utils rounds position (linesImage lines ++ behind) p).segment = p.segment ∧
      ∀ access ∈ (walk utils rounds position (linesImage lines ++ behind) p).accesses,
        access.Inside size := by
  induction hends generalizing rounds position p with
  | empty =>
    obtain ⟨rounds, rfl⟩ := Nat.exists_eq_succ_of_ne_zero (Nat.ne_zero_of_lt hrounds)
    rw [length_linesImage_cons] at hsize
    have hlength : position + 2 ≤ size := by
      rw [List.length_nil] at hsize
      omega
    rw [walk_empty]
    exact ⟨rfl, rfl, (hp.log (.lengthAt position) hlength).accesses⟩
  | @tooLong found line lines field hne hline hfound hnamed hfield =>
    obtain ⟨rounds, rfl⟩ := Nat.exists_eq_succ_of_ne_zero (Nat.ne_zero_of_lt hrounds)
    rw [length_linesImage_cons] at hsize
    have hlength : position + 2 ≤ size := by omega
    have hlog := hp.log (.lengthAt position) hlength
    rw [walk_line utils rounds position hne (hhalf line (List.mem_cons_self ..)),
      visit_tooLong hutils hline _ (hlog.found.symm ▸ hfound) hnamed hfield]
    exact ⟨rfl, rfl, (hlog.compareMarker hline _).accesses⟩
  | @next found line lines status hne hline hnamed hends ih =>
    obtain ⟨rounds, rfl⟩ := Nat.exists_eq_succ_of_ne_zero (Nat.ne_zero_of_lt hrounds)
    rw [length_linesImage_cons] at hsize
    have hlength : position + 2 ≤ size := by omega
    have hlog := hp.log (.lengthAt position) hlength
    have hcompare := hlog.compareMarker hline (linesImage lines ++ behind)
    have hrest : position + 2 + line.length + (linesImage lines).length = size := by omega
    have hnext := ih (fun other hother => hhalf other (List.mem_cons_of_mem _ hother))
      (Nat.le_of_succ_le_succ hrounds) hrest hcompare
    rw [walk_line utils rounds position hne (hhalf line (List.mem_cons_self ..)),
      visit_next hutils hline _ (hlog.found.symm ▸ hnamed)]
    dsimp only
    rw [if_neg (by rw [hcompare.running]; exact Bool.false_ne_true)]
    exact hnext

/-- A walk that does not look outside the lines ends inside them. -/
theorem endsInside_of_walk {size : Nat} {lines : List Text}
    (hhalf : ∀ line ∈ lines, line.length < 65536) {rounds position : Nat}
    (hrounds : lines.length < rounds) (hsize : position + (linesImage lines).length = size)
    (behind : Text) (hp : Inside size found p)
    (hinside : ∀ access ∈ (walk utils rounds position (linesImage lines ++ behind) p).accesses,
      access.Inside size) : ∃ status, EndsInside found lines status := by
  induction lines generalizing found rounds position p with
  | nil =>
    obtain ⟨rounds, rfl⟩ := Nat.exists_eq_succ_of_ne_zero (Nat.ne_zero_of_lt hrounds)
    have hlength : position + 2 ≤ size :=
      hinside (.lengthAt position) ((walk_succ_grows utils rounds position _ p).mem (mem_log p _))
    rw [← hsize] at hlength
    exact absurd hlength (by simp [linesImage])
  | cons line lines ih =>
    obtain ⟨rounds, rfl⟩ := Nat.exists_eq_succ_of_ne_zero (Nat.ne_zero_of_lt hrounds)
    rw [length_linesImage_cons] at hsize
    by_cases hne : line = []
    · rw [hne]
      exact ⟨0, .empty⟩
    · have hlength : position + 2 ≤ size := by omega
      have hlog := hp.log (.lengthAt position) hlength
      rw [walk_line utils rounds position hne (hhalf line (List.mem_cons_self ..))] at hinside
      dsimp only at hinside
      have hvisit := visit_inside hutils fun access haccess => hinside access (by
        split
        next => exact haccess
        next => exact (walk_grows utils rounds _ _ _).mem haccess)
      obtain ⟨hline, hfields⟩ := hvisit
      rw [hlog.found] at hfields
      by_cases hfound : (found || markerString.isPrefixOf line) = true ∧ firstNamed line ≠ none
      · obtain ⟨field, hnamed⟩ := Option.ne_none_iff_exists'.mp hfound.2
        exact ⟨-1, .tooLong hne hline hfound.1 hnamed (hfields hfound.1 field hnamed)⟩
      · have hnamed : (found || markerString.isPrefixOf line) = true → firstNamed line = none :=
          fun h => by_contra fun hsome => hfound ⟨h, hsome⟩
        have hcompare := hlog.compareMarker hline (linesImage lines ++ behind)
        rw [visit_next hutils hline _ (hlog.found.symm ▸ hnamed),
          if_neg (by rw [hcompare.running]; exact Bool.false_ne_true)] at hinside
        obtain ⟨status, hends⟩ := ih (fun other hother => hhalf other (List.mem_cons_of_mem _ hother))
          (Nat.lt_of_succ_lt_succ hrounds) (by omega) hcompare hinside
        exact ⟨status, .next hne hline hnamed hends⟩

end

/-! ## The output -/

theorem shown_cleared (field : Field) : OmvsSegment.shown .cleared field = [] := by
  have hsize : ∃ n, field.size = n + 1 := by cases field <;> exact ⟨_, rfl⟩
  obtain ⟨n, hn⟩ := hsize
  rw [OmvsSegment.shown, OmvsSegment.cleared, hn]
  rfl

/-- A cleared field is shown as is meant exactly where the lines have nothing behind its label. -/
theorem shownRight_cleared_iff (lines : List Text) (field : Field) :
    ShownRight lines field (OmvsSegment.shown .cleared field) ↔
      ∀ value, field.label ++ value ∈ lines → value = [] := by
  rw [shown_cleared]
  constructor
  · intro h value hvalue
    exact (h.1 value hvalue).symm
  · intro h
    exact ⟨fun value hvalue => (h value hvalue).symm, fun _ => rfl⟩

theorem length_firstLines (output : CommandOutput) :
    ∀ line ∈ output.firstLines, line.length < 65536 := by
  rw [CommandOutput.firstLines]
  split
  next block _ _ => exact block.halfwords
  next => exact fun _ h => absurd h List.not_mem_nil

theorem length_le_linesImage (lines : List Text) : lines.length ≤ (linesImage lines).length := by
  induction lines with
  | nil => exact Nat.le_refl _
  | cons line lines ih =>
    rw [length_linesImage_cons, List.length_cons]
    omega

/-- **What an output must be to be parsed as is meant.** The command failed, or the walk over the
lines of the first block ends before it looks outside a line; and where it then returns no error, the
lines of the segment have nothing behind their labels. -/
theorem parsed_right_iff {utils : Utils} (hutils : utils.Documented) (output : CommandOutput) :
    Right output (parseOmvsSegment utils output) ↔
      output.racfRc ≠ 0 ∨
        ∃ status, EndsInside false output.firstLines status ∧
          (status = 0 → ∀ field : Field, ∀ value,
            field.label ++ value ∈ output.omvsLines → value = []) := by
  rw [parseOmvsSegment]
  split
  next hrc =>
    refine iff_of_true ⟨rfl, fun _ h => absurd h List.not_mem_nil, fun h => ?_⟩ (.inl hrc)
    exact absurd (Option.some.inj h) hrc
  next hrc =>
    have hrounds : output.firstLines.length <
        (linesImage output.firstLines ++ output.behind).length + 1 := by
      have hle := length_le_linesImage output.firstLines
      rw [List.length_append]
      omega
    have hstart : Inside (linesImage output.firstLines).length false .start :=
      ⟨rfl, rfl, fun _ h => absurd h List.not_mem_nil⟩
    have hhalf := length_firstLines output
    rw [or_iff_right hrc]
    constructor
    · intro hright
      obtain ⟨status, hends⟩ := endsInside_of_walk hutils hhalf hrounds (Nat.zero_add _)
        output.behind hstart hright.inside
      obtain ⟨hreturned, hsegment, -⟩ := walk_endsInside hutils hends hhalf
        (Nat.le_of_lt hrounds) (Nat.zero_add _) output.behind hstart
      refine ⟨status, hends, fun hstatus field => ?_⟩
      have hshown := hright.shown (hstatus ▸ hreturned) field
      rw [hsegment] at hshown
      exact (shownRight_cleared_iff _ field).mp hshown
    · rintro ⟨status, hends, hlabels⟩
      obtain ⟨hreturned, hsegment, hinside⟩ := walk_endsInside hutils hends hhalf
        (Nat.le_of_lt hrounds) (Nat.zero_add _) output.behind hstart
      refine ⟨Option.isSome_iff_exists.mpr ⟨status, hreturned⟩, hinside, fun hzero field => ?_⟩
      rw [hsegment]
      have hstatus : status = 0 := Option.some.inj (hreturned.symm.trans hzero)
      exact (shownRight_cleared_iff _ field).mpr (hlabels hstatus field)

/-- An output without the segment, ended by an empty line. -/
def baseOutput : CommandOutput := ⟨0, [⟨["USER=IBMUSER".toList, []], by decide, []⟩]⟩

theorem base_parsed_right : Right baseOutput (parseOmvsSegment .plain baseOutput) :=
  (parsed_right_iff Utils.plain_documented baseOutput).mpr <| .inr ⟨0,
    .next (by decide) (by decide) (fun h => absurd h (by decide)) .empty,
    fun _ field value hvalue => absurd hvalue (by
      rw [show baseOutput.omvsLines = [] by decide]
      exact List.not_mem_nil)⟩

/-- An output with the segment, ended by an empty line; the home directory has a label's word in
it. -/
def homeOutput : CommandOutput where
  racfRc := 0
  blocks := [{
    lines := ["OMVS INFORMATION".toList, "----------------".toList, "UID= 7".toList,
      "HOME= /u/UID".toList, []]
    halfwords := by decide
    behind := [] }]

/-- The home directory is shown as the user id, with the blank before it. -/
theorem home_shown_as_uid :
    ((parseOmvsSegment .plain homeOutput).segment.shown .uid = " /u/UID".toList) ∧
      ¬ Right homeOutput (parseOmvsSegment .plain homeOutput) := by
  have hshown : (parseOmvsSegment .plain homeOutput).segment.shown .uid = " /u/UID".toList := by
    decide
  refine ⟨hshown, fun hright => ?_⟩
  have huid := (hright.shown (by decide) .uid).1 "7".toList (by decide)
  rw [hshown] at huid
  exact absurd huid (by decide)

end Zss.Services.Omvs
