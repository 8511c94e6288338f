import Mathlib.Data.List.TakeWhile
import Zss.Lib.LogicalLines
import Zss.Zis.Parm

/-!
# The grammar of a PARMLIB member

A member is read by the grammar of logical lines with `\` as its mark and `*` or `//*` before a
comment, and each line is a parameter, split at its first equal sign (`parmPairs`). The handler of
`parm.c` is the forgetful reader of that grammar: an empty `currRecord` stands for no pending line,
and nobody looks at it after the last record. It puts the parameters of an accepted member exactly
where the member does not end in a continuation, no comment continues a line without text, and no
terminator is in the text (`zisReadParmlib_grammar_iff`).

## What is not established

Nothing is said of a member that is refused, nor of what a parameter means to the code that asks for
it.
-/

namespace Zss.Zis

open Zss.Lib

/-! ## The grammar -/

def parmGrammar : LineGrammar Char where
  mark := '\\'
  comment := isParmCommentedOut

/-- The records of a member, cut to their columns and trimmed. -/
def trimmedRecords (recordSize : Nat) (records : List Text) : List Text :=
  records.map (getTrimmedSlice · recordSize)

/-- The parameters of a member; none where it ends in a continuation. -/
def parmPairs (recordSize : Nat) (records : List Text) : Option (List (Text × Text)) :=
  (parmGrammar.lines none (trimmedRecords recordSize records)).map (·.map splitParm)

/-- Parameters were put into a set, in order. -/
structure ZisParmSet.Puts {σ : Type} (parms : ZisParmSet σ) (pairs : List (Text × Text))
    (parms' : ZisParmSet σ) : Prop where
  puts : parms'.puts = parms.puts ++ pairs
  entries : parms'.entries = pairs.foldl putEntry parms.entries

/-- A set has the parameters of the member put into it, and nothing else. -/
def ReadsGrammar {σ : Type} (recordSize : Nat) (records : List Text) (parms parms' : ZisParmSet σ) :
    Prop :=
  ∃ pairs, parmPairs recordSize records = some pairs ∧ parms.Puts pairs parms'

/-- The condition on a member: it does not end in a continuation, no comment continues a line that
has no text yet, and no logical line has a terminator in it. -/
structure MemberPlain (recordSize : Nat) (records : List Text) : Prop where
  ends : parmGrammar.lines none (trimmedRecords recordSize records) ≠ none
  unambiguous : parmGrammar.Unambiguous none (trimmedRecords recordSize records)
  text : ∀ ls, parmGrammar.lines none (trimmedRecords recordSize records) = some ls →
    ∀ line ∈ ls, nul ∉ line

/-! ## The handler -/

section

variable {σ : Type} {slhAlloc : σ → Nat → Option σ}

theorem ZisParmSet.Puts.nil (parms : ZisParmSet σ) : parms.Puts [] parms :=
  ⟨(List.append_nil _).symm, rfl⟩

theorem ZisParmSet.Put.cons {parms parms' parms'' : ZisParmSet σ} {parm : Text × Text}
    {pairs : List (Text × Text)} (put : parms.Put parm parms') (puts : parms'.Puts pairs parms'') :
    parms.Puts (parm :: pairs) parms'' where
  puts := by rw [puts.puts, put.puts, List.append_assoc, List.singleton_append]
  entries := by rw [puts.entries, put.entries, List.foldl_cons]

/-- What the handler does with a record it accepts: it drops it, keeps its text, or completes a
line. -/
inductive Handled (slice : Text) (context context' : ParmRecordVisitorData σ) : Prop
  | dropped (hdrop : (context.currRecord.isEmpty && parmGrammar.comment slice) = true)
      (hrecord : context'.currRecord = context.currRecord)
      (hparms : context'.parmSet = context.parmSet)
  | continued (hkeep : ¬ (context.currRecord.isEmpty && parmGrammar.comment slice) = true)
      (hcont : parmGrammar.continues slice = true)
      (hrecord : context'.currRecord = context.currRecord ++ parmGrammar.text slice)
      (hparms : context'.parmSet = context.parmSet)
  | completed (hkeep : ¬ (context.currRecord.isEmpty && parmGrammar.comment slice) = true)
      (hcont : ¬ parmGrammar.continues slice = true)
      (hrecord : context'.currRecord = [])
      (hput : context.parmSet.Put
        (splitParm (cString (context.currRecord ++ parmGrammar.text slice))) context'.parmSet)

/-- A record the handler accepts, read backwards. -/
theorem handleTrimmedRecord_ok {slice : Text} {context context' : ParmRecordVisitorData σ}
    (h : handleTrimmedRecord slhAlloc slice context = (rcZisparmOk, context')) :
    Handled slice context context' := by
  have tooLong : (rcZisparmContinuationTooLong : Int) ≠ rcZisparmOk := by decide
  have failed : (rcZisparmSlhAllocFailed : Int) ≠ rcZisparmOk := by decide
  unfold handleTrimmedRecord at h
  split at h
  · next hdrop =>
    obtain rfl := (Prod.mk.inj h).2
    exact .dropped hdrop rfl rfl
  next hkeep =>
  split at h
  · exact absurd (congrArg Prod.fst h) tooLong
  dsimp only at h
  split at h
  · next hlast =>
    have hcont : parmGrammar.continues slice = true := decide_eq_true hlast
    obtain rfl := (Prod.mk.inj h).2
    refine .continued hkeep hcont ?_ rfl
    have hne : slice ≠ [] := by
      rintro rfl
      cases hlast
    rw [LineGrammar.text, if_pos hcont, List.dropLast_append_of_ne_nil hne]
  · next hlast =>
    have hcont : ¬ parmGrammar.continues slice = true := fun h => hlast (of_decide_eq_true h)
    split at h
    · exact absurd (congrArg Prod.fst h) failed
    next slh hslh =>
    obtain ⟨hrc, rfl⟩ := Prod.mk.inj h
    refine .completed hkeep hcont rfl ?_
    rw [LineGrammar.text, if_neg hcont]
    have put : zisPutParmValue slhAlloc { context.parmSet with slh := slh } _ _ =
        (rcZisparmOk, _) := Prod.ext hrc rfl
    exact ⟨(zisPutParmValue_ok put).puts, (zisPutParmValue_ok put).entries⟩

theorem handleParmRecord_ok {record : Text} {recordLength : Nat}
    {context context' : ParmRecordVisitorData σ}
    (h : handleParmRecord slhAlloc record recordLength context = (rcZisparmOk, context')) :
    Handled (getTrimmedSlice record recordLength) context context' := by
  cases handleTrimmedRecord_ok h with
  | dropped hdrop hrecord hparms => exact .dropped hdrop hrecord hparms
  | continued hkeep hcont hrecord hparms => exact .continued hkeep hcont hrecord hparms
  | completed hkeep hcont hrecord hput => exact .completed hkeep hcont hrecord hput

/-- **The handler is the forgetful reader.** The records of an accepted member put the lines that
reader completes, as far as their terminator. -/
theorem iterateMember_ok {recordSize : Nat} {records : List Text}
    {context context' : ParmRecordVisitorData σ}
    (h : iterateMember slhAlloc recordSize records context = (rcZisparmOk, context')) :
    context.parmSet.Puts
      (((parmGrammar.forgetfulLines context.currRecord (trimmedRecords recordSize records)).map
        cString).map splitParm) context'.parmSet := by
  induction records generalizing context with
  | nil =>
    obtain rfl := (Prod.mk.inj h).2
    exact .nil _
  | cons record records ih =>
    rw [iterateMember] at h
    split at h
    next visitorRC after hvisit =>
    split at h
    · next hne => exact absurd (Prod.mk.inj h).1 hne
    next hrc =>
    obtain rfl := not_not.mp hrc
    have rest := ih h
    rw [trimmedRecords, List.map_cons, LineGrammar.forgetfulLines]
    cases handleParmRecord_ok hvisit with
    | dropped hdrop hrecord hparms =>
      rw [if_pos hdrop]
      rw [hrecord, hparms] at rest
      exact rest
    | continued hkeep hcont hrecord hparms =>
      rw [if_neg hkeep]
      dsimp only
      rw [if_pos hcont]
      rw [hrecord, hparms] at rest
      exact rest
    | completed hkeep hcont hrecord hput =>
      rw [if_neg hkeep]
      dsimp only
      rw [if_neg hcont, List.map_cons, List.map_cons]
      rw [hrecord] at rest
      exact hput.cons rest

/-- An accepted member went through the handler. -/
theorem zisReadParmlib_ok {recordSize : Nat} {env : ParmlibEnv} {parms parms' : ZisParmSet σ}
    {ddname member : Text} {readStatus readStatus' : ZisParmStatus}
    (h : zisReadParmlib slhAlloc recordSize env parms ddname member readStatus =
      some (rcZisparmOk, parms', readStatus')) :
    ∃ context, iterateMember slhAlloc recordSize env.records ⟨parms, 0, 0, []⟩ =
      (rcZisparmOk, context) ∧ context.parmSet = parms' := by
  unfold zisReadParmlib at h
  split at h
  · exact absurd (Prod.mk.inj (Option.some.inj h)).1 (by decide)
  split at h
  · exact absurd (Prod.mk.inj (Option.some.inj h)).1 (by decide)
  obtain ⟨⟨status, parms'', status'⟩, hmember, h⟩ := Option.map_eq_some_iff.mp h
  dsimp only at h
  split at h
  · exact absurd (Prod.mk.inj h).1 (by decide)
  obtain ⟨rfl, rfl, -⟩ : status = rcZisparmOk ∧ parms'' = parms' ∧ status' = readStatus' := by
    simpa using h
  unfold handleMember at hmember
  split at hmember
  next read buffer readStatus'' hread =>
  split at hmember
  · next hne => exact absurd (Prod.mk.inj (Option.some.inj hmember)).1 hne
  split at hmember
  · cases hmember
  split at hmember
  next iterateRC context hiterate =>
  split at hmember
  · next hne => exact absurd (Prod.mk.inj (Option.some.inj hmember)).1 hne
  next hrc =>
  obtain rfl := not_not.mp hrc
  exact ⟨context, hiterate, (Prod.mk.inj (Prod.mk.inj (Option.some.inj hmember)).2).1⟩

end

/-! ## The weight of the text -/

/-- Every character counts but the equal sign, which a split may take. -/
def textWeight (c : Char) : Nat := if c = '=' then 0 else 1

/-- A split loses no text but the equal sign. -/
theorem splitParm_weight (record : Text) :
    weight textWeight (splitParm record).1 + weight textWeight (splitParm record).2 =
      weight textWeight record := by
  induction record with
  | nil => rfl
  | cons c record ih =>
    by_cases hc : c = '='
    · subst hc
      simp [splitParm, weight, textWeight]
    · simp only [splitParm, List.takeWhile_cons, List.dropWhile_cons, ne_eq, hc, not_false_eq_true,
        decide_true, ↓reduceIte, weight_cons] at ih ⊢
      omega

theorem cString_eq {text : Text} (h : nul ∉ text) : cString text = text := by
  refine List.takeWhile_eq_self_iff.mpr fun c hc => decide_eq_true ?_
  rintro rfl
  exact h hc

theorem weight_cString_le (text : Text) :
    weight textWeight (cString text) ≤ weight textWeight text := by
  induction text with
  | nil => exact le_rfl
  | cons c text ih =>
    by_cases hc : c = nul
    · simp [cString, hc]
    · simp only [cString, List.takeWhile_cons, ne_eq, hc, not_false_eq_true, decide_true,
        ↓reduceIte, weight_cons] at ih ⊢
      omega

/-- A text with a terminator in it loses at least that. -/
theorem weight_cString_lt {text : Text} (h : nul ∈ text) :
    weight textWeight (cString text) < weight textWeight text := by
  induction text with
  | nil => cases h
  | cons c text ih =>
    by_cases hc : c = nul
    · have one : textWeight nul = 1 := by decide
      simp [cString, hc, weight, one]
    · have := ih ((List.mem_cons.mp h).resolve_left fun h => hc h.symm)
      simp only [cString, List.takeWhile_cons, ne_eq, hc, not_false_eq_true, decide_true,
        ↓reduceIte, weight_cons] at this ⊢
      omega

/-- A comment has text before its continuation mark. -/
theorem comment_heavy {record : Text} (h : parmGrammar.comment record = true) :
    0 < weight textWeight (parmGrammar.text record) := by
  have first : ∃ c rest, record = c :: rest ∧ c ≠ '\\' ∧ textWeight c = 1 := by
    simp only [parmGrammar, isParmCommentedOut, Bool.or_eq_true, List.isPrefixOf_iff_prefix] at h
    rcases h with ⟨rest, rfl⟩ | ⟨rest, rfl⟩
    · exact ⟨'*', rest, rfl, by decide, by decide⟩
    · exact ⟨'/', '/' :: '*' :: rest, rfl, by decide, by decide⟩
  obtain ⟨c, rest, rfl, hmark, hweight⟩ := first
  unfold LineGrammar.text
  split
  · next hcont =>
    cases rest with
    | nil => exact absurd (Option.some.inj (of_decide_eq_true hcont)) hmark
    | cons d rest => simp [hweight]
  · simp [weight, hweight]

/-- The weight of parameters. -/
def pairsWeight : List (Text × Text) → Nat
  | [] => 0
  | parm :: parms => weight textWeight parm.1 + weight textWeight parm.2 + pairsWeight parms

/-- The parameters of lines weigh what the lines weigh. -/
theorem pairsWeight_map (ls : List Text) :
    pairsWeight (ls.map splitParm) = totalWeight textWeight ls := by
  induction ls with
  | nil => rfl
  | cons line ls ih => rw [List.map_cons, pairsWeight, splitParm_weight, ih, totalWeight_cons]

/-! ## The grammar, exactly -/

/-- The handler's parameters are the member's only if the member is plain. -/
theorem memberPlain_of_pairs {recordSize : Nat} {records ls : List Text}
    (hls : parmGrammar.lines none (trimmedRecords recordSize records) = some ls)
    (heq : ls.map splitParm =
      ((parmGrammar.forgetfulLines [] (trimmedRecords recordSize records)).map cString).map
        splitParm) : MemberPlain recordSize records := by
  have same : totalWeight textWeight ls = totalWeight textWeight
      ((parmGrammar.forgetfulLines [] (trimmedRecords recordSize records)).map cString) := by
    rw [← pairsWeight_map, heq, pairsWeight_map]
  have cut := totalWeight_map_le textWeight weight_cString_le
    (parmGrammar.forgetfulLines [] (trimmedRecords recordSize records))
  have unambiguous : parmGrammar.Unambiguous none (trimmedRecords recordSize records) := by
    by_contra hn
    have := parmGrammar.forgetfulLines_lt textWeight (fun _ => comment_heavy) hn hls
    rw [Option.getD_none] at this
    omega
  refine ⟨by rw [hls]; exact Option.some_ne_none ls, unambiguous, fun ls' hls' line hline hnul => ?_⟩
  obtain rfl : ls = ls' := Option.some.inj (hls.symm.trans hls')
  rw [← Option.getD_none (a := ([] : Text)), parmGrammar.forgetfulLines_eq unambiguous hls] at same
  have := totalWeight_map_lt textWeight weight_cString_le hline (weight_cString_lt hnul)
  omega

/-- The handler's parameters are those of a plain member. -/
theorem MemberPlain.pairs {recordSize : Nat} {records ls : List Text}
    (plain : MemberPlain recordSize records)
    (hls : parmGrammar.lines none (trimmedRecords recordSize records) = some ls) :
    ((parmGrammar.forgetfulLines [] (trimmedRecords recordSize records)).map cString).map splitParm =
      ls.map splitParm := by
  have hlines := parmGrammar.forgetfulLines_eq plain.unambiguous hls
  rw [Option.getD_none] at hlines
  rw [hlines]
  refine congrArg _ ((List.map_congr_left fun line hline => ?_).trans (List.map_id ls))
  exact cString_eq (plain.text ls hls line hline)

/-- **The grammar, exactly.** A member that is accepted has exactly its parameters put, in order, if
and only if it does not end in a continuation, no comment in it continues a line without text, and
its lines have no terminator in them. -/
theorem zisReadParmlib_grammar_iff {σ : Type} {slhAlloc : σ → Nat → Option σ} {recordSize : Nat}
    {env : ParmlibEnv} {parms parms' : ZisParmSet σ} {ddname member : Text}
    {readStatus readStatus' : ZisParmStatus}
    (accepted : zisReadParmlib slhAlloc recordSize env parms ddname member readStatus =
      some (rcZisparmOk, parms', readStatus')) :
    ReadsGrammar recordSize env.records parms parms' ↔ MemberPlain recordSize env.records := by
  obtain ⟨context, hiterate, rfl⟩ := zisReadParmlib_ok accepted
  have handled := iterateMember_ok hiterate
  constructor
  · rintro ⟨pairs, hpairs, hputs⟩
    obtain ⟨ls, hls, rfl⟩ := Option.map_eq_some_iff.mp hpairs
    exact memberPlain_of_pairs hls
      (List.append_cancel_left (hputs.puts.symm.trans handled.puts))
  · intro plain
    obtain ⟨ls, hls⟩ := Option.ne_none_iff_exists'.mp plain.ends
    exact ⟨ls.map splitParm, by rw [parmPairs, hls, Option.map_some], plain.pairs hls ▸ handled⟩

/-! ## Two members -/

/-- A heap that always has storage. -/
def ampleHeap (_ : Unit) (_ : Nat) : Option Unit := some ()

/-- A record with its blanks. -/
def record (text : Text) : Text := text ++ List.replicate (iefprmlbRecordSize - text.length) ' '

/-- A member that is allocated and read. -/
def sampleMember (records : List Text) : ParmlibEnv :=
  ⟨rcIefprmlbOk, 0, ⟨true, rcIefprmlbOk, 0, 0⟩, ⟨true, rcIefprmlbOk, 0, 0⟩, records,
    rcIefprmlbOk, 0⟩

def emptyParms : ZisParmSet Unit := ⟨(), [], []⟩

/-- A comment, a parameter in two records, and a parameter without a value. -/
def plainRecords : List Text :=
  [record ['*', ' ', 'A'], record ['A', '=', '\\'], record [' ', '*', 'B'], record ['C']]

def plainParms : ZisParmSet Unit where
  slh := ()
  entries := [⟨some ['A'], some ['*', 'B']⟩, ⟨some ['C'], some []⟩]
  puts := [(['A'], ['*', 'B']), (['C'], [])]

theorem zisReadParmlib_grammar_iff_plain :
    ReadsGrammar iefprmlbRecordSize plainRecords emptyParms plainParms ↔
      MemberPlain iefprmlbRecordSize plainRecords := by
  have accepted : zisReadParmlib ampleHeap iefprmlbRecordSize (sampleMember plainRecords)
      emptyParms ['P', 'A', 'R', 'M', 'L', 'I', 'B'] ['Z', 'W', 'E', 'S', 'I', 'P', '0', '0']
      ⟨0, 0⟩ = some (rcZisparmOk, plainParms, ⟨0, 0⟩) := by decide +kernel
  exact zisReadParmlib_grammar_iff accepted

/-- A member that ends in a continuation is accepted, and its text is in no parameter. -/
theorem unfinished_member_accepted :
    zisReadParmlib ampleHeap iefprmlbRecordSize
        (sampleMember [record ['A', 'B', 'C', '=', '1', '\\']]) emptyParms
        ['P', 'A', 'R', 'M', 'L', 'I', 'B'] ['Z', 'W', 'E', 'S', 'I', 'P', '0', '0'] ⟨0, 0⟩ =
      some (rcZisparmOk, emptyParms, ⟨0, 0⟩) ∧
    ¬ ReadsGrammar iefprmlbRecordSize [record ['A', 'B', 'C', '=', '1', '\\']] emptyParms
        emptyParms := by
  refine ⟨by decide +kernel, ?_⟩
  rintro ⟨pairs, hpairs, -⟩
  have none : parmPairs iefprmlbRecordSize [record ['A', 'B', 'C', '=', '1', '\\']] = none := by
    decide +kernel
  rw [none] at hpairs
  cases hpairs

end Zss.Zis
