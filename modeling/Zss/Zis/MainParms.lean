import Mathlib.Data.List.TakeWhile
import Zss.Lib.Loop
import Zss.Zis.Parm

/-!
# The parameters of the start command

`zisReadMainParms` with its work buffer: each piece of the text up to a comma is copied to the front
of the buffer and ended there, its first equal sign is overwritten with a terminator, and the two
strings that are then in the buffer are put. Every access to the buffer is checked.

The text is read to its end, within the buffer, and the puts are those of its pieces, each read up
to its first terminator as the string functions read it.

## What is not established

That the text is the operator's, and what a parameter means to the code that asks for it.
-/

namespace Zss.Zis

open Zss.Lib

def rcZisparmAllocFailed : Int := 18

/-! ## The work buffer -/

/-- Storage of a size. -/
def WorkBuffer (size : Nat) := { content : Text // content.length = size }

namespace WorkBuffer

variable {size : Nat}

/-- Characters copied to an offset; nothing where they do not fit. -/
def write (buffer : WorkBuffer size) (offset : Nat) (chars : Text) : Option (WorkBuffer size) :=
  if fits : offset + chars.length ≤ size then
    some ⟨buffer.1.take offset ++ chars ++ buffer.1.drop (offset + chars.length), by
      have := buffer.2
      simp
      omega⟩
  else none

/-- The string at an offset; nothing where no terminator ends it within the buffer. -/
def stringAt (buffer : WorkBuffer size) (offset : Nat) : Option Text :=
  if nul ∈ buffer.1.drop offset then some (cString (buffer.1.drop offset)) else none

end WorkBuffer

/-! ## The scan -/

/-- The length of a text up to its first comma. -/
def commaIdx (text : Text) : Nat := (text.takeWhile (· ≠ ',')).length

/-- The key and the value in the buffer: its string split at the first equal sign, in place. -/
def keyAndValue {size : Nat} (workBuffer : WorkBuffer size) :
    Option (WorkBuffer size × Text × Text) := do
  let key ← workBuffer.stringAt 0
  match key.findIdx? (· = '=') with
  | none => some (workBuffer, key, [])
  | some equalSign =>
    let workBuffer ← workBuffer.write equalSign [nul]
    let key ← workBuffer.stringAt 0
    let value ← workBuffer.stringAt (equalSign + 1)
    some (workBuffer, key, value)

section

variable {σ : Type} (slhAlloc : σ → Nat → Option σ)

/-- Where the scan stands. -/
structure MainParmsState (σ : Type) (size : Nat) where
  parms : ZisParmSet σ
  workBuffer : WorkBuffer size
  startIdx : Nat

/-- One piece of the text copied and split. -/
def takePiece {size : Nat} (text : Text) (startIdx : Nat) (workBuffer : WorkBuffer size) :
    Option (WorkBuffer size × Text × Text) := do
  let parmLength := commaIdx (text.drop startIdx)
  let workBuffer ← workBuffer.write 0 ((text.drop startIdx).take parmLength)
  let workBuffer ← workBuffer.write parmLength [nul]
  keyAndValue workBuffer

/-- A round of the loop; a result without a status is an access outside the buffer. -/
def mainParmsRound {size : Nat} (text : Text) (state : MainParmsState σ size) :
    MainParmsState σ size ⊕ Option (Int × ZisParmSet σ) :=
  if state.startIdx < text.length then
    match takePiece text state.startIdx state.workBuffer with
    | none => .inr none
    | some (workBuffer, key, value) =>
      match zisPutParmValue slhAlloc state.parms key value with
      | (addRC, parms) =>
        if addRC ≠ rcZisparmOk then .inr (some (addRC, parms))
        else
          let endIdx := state.startIdx + commaIdx (text.drop state.startIdx)
          .inl ⟨parms, workBuffer, endIdx + 1⟩
  else .inr (some (rcZisparmOk, state.parms))

/-- `zisReadMainParms` with so many rounds at most. -/
def zisReadMainParms (safeMalloc : (size : Nat) → Option (WorkBuffer size)) (rounds : Nat)
    (parms : ZisParmSet σ) (text : Text) : Option (Option (Int × ZisParmSet σ)) :=
  match safeMalloc (text.length + 1) with
  | none => some (some (rcZisparmAllocFailed, parms))
  | some workBuffer => loop (mainParmsRound slhAlloc text) rounds ⟨parms, workBuffer, 0⟩

/-! ## What the text says -/

/-- The puts of parameters in order, up to the first that fails. -/
def putParms (parms : ZisParmSet σ) : List (Text × Text) → Int × ZisParmSet σ
  | [] => (rcZisparmOk, parms)
  | parm :: rest =>
    match zisPutParmValue slhAlloc parms parm.1 parm.2 with
    | (addRC, parms) => if addRC ≠ rcZisparmOk then (addRC, parms) else putParms parms rest

end

/-- The pieces of a text between its commas, without an empty one at its end. -/
def mainPieces (text : Text) : List Text :=
  let pieces := text.splitOn ','
  if pieces.getLast? = some [] then pieces.dropLast else pieces

/-- A piece put: read up to its first terminator and split at its first equal sign. -/
def pieceParm (piece : Text) : Text × Text := splitParm (cString piece)

/-! ## A piece in the buffer -/

theorem takeWhile_not_mem {c : Char} {text : Text} (h : c ∉ text) :
    text.takeWhile (· ≠ c) = text := by
  refine List.takeWhile_eq_self_iff.mpr fun d hd => ?_
  have hne : d ≠ c := fun heq => h (heq ▸ hd)
  simpa using hne

theorem takeWhile_append_sep {c : Char} {text : Text} (h : c ∉ text) (rest : Text) :
    (text ++ c :: rest).takeWhile (· ≠ c) = text := by
  have chars : ∀ d ∈ text, decide (d ≠ c) = true := by
    intro d hd
    have hne : d ≠ c := fun heq => h (heq ▸ hd)
    simpa using hne
  rw [List.takeWhile_append_of_pos chars]
  simp

theorem cString_append_nul {text : Text} (h : nul ∉ text) (rest : Text) :
    cString (text ++ nul :: rest) = text :=
  takeWhile_append_sep h rest

theorem nul_not_mem_cString (text : Text) : nul ∉ cString text := by
  intro h
  have := List.mem_takeWhile_imp h
  simp at this

/-- A text with a terminator behind it is its string with a terminator behind it. -/
theorem exists_cString_append (text rest : Text) :
    ∃ rest', text ++ nul :: rest = cString text ++ nul :: rest' := by
  induction text with
  | nil => exact ⟨rest, rfl⟩
  | cons c text ih =>
    by_cases hc : c = nul
    · subst hc
      exact ⟨text ++ nul :: rest, by simp [cString]⟩
    · obtain ⟨rest', hrest'⟩ := ih
      refine ⟨rest', ?_⟩
      have kept : cString (c :: text) = c :: cString text := by simp [cString, hc]
      rw [kept, List.cons_append, List.cons_append, hrest']

/-- What is behind the first equal sign, found by its place. -/
theorem splitParm_eq (text : Text) :
    splitParm text =
      (text.takeWhile (· ≠ '='), text.drop ((text.takeWhile (· ≠ '=')).length + 1)) := by
  have behind : text.dropWhile (· ≠ '=') = text.drop (text.takeWhile (· ≠ '=')).length :=
    calc text.dropWhile (· ≠ '=')
      _ = (text.takeWhile (· ≠ '=') ++ text.dropWhile (· ≠ '=')).drop
            (text.takeWhile (· ≠ '=')).length := List.drop_left.symm
      _ = text.drop (text.takeWhile (· ≠ '=')).length := by
            rw [List.takeWhile_append_dropWhile]
  rw [splitParm, behind, List.drop_drop]

theorem splitParm_of_not_mem {text : Text} (h : '=' ∉ text) : splitParm text = (text, []) := by
  rw [splitParm_eq, takeWhile_not_mem h]
  simp

theorem splitParm_append {key : Text} (h : '=' ∉ key) (value : Text) :
    splitParm (key ++ '=' :: value) = (key, value) := by
  rw [splitParm_eq, takeWhile_append_sep h]
  simp

namespace WorkBuffer

variable {size : Nat}

theorem stringAt_eq {buffer : WorkBuffer size} {offset : Nat} {text rest : Text} (before : Text)
    (content : buffer.1 = before ++ (text ++ nul :: rest)) (here : before.length = offset)
    (string : nul ∉ text) : buffer.stringAt offset = some text := by
  have dropped : buffer.1.drop offset = text ++ nul :: rest := by
    rw [content, ← here, List.drop_left]
  rw [stringAt, dropped, if_pos (by simp), cString_append_nul string]

/-- One character written over another. -/
theorem write_char {buffer : WorkBuffer size} {offset : Nat} {before rest : Text} {c : Char}
    (content : buffer.1 = before ++ c :: rest) (here : before.length = offset) (d : Char) :
    ∃ buffer', buffer.write offset [d] = some buffer' ∧ buffer'.1 = before ++ d :: rest := by
  have length := buffer.2
  rw [content] at length
  have fits : offset + [d].length ≤ size := by
    simp at length ⊢
    omega
  refine ⟨_, dif_pos fits, ?_⟩
  simp [content, ← here]

/-- A text copied to the front. -/
theorem write_front (buffer : WorkBuffer size) {text : Text} (fits : text.length < size) :
    ∃ buffer' c rest, buffer.write 0 text = some buffer' ∧ buffer'.1 = text ++ c :: rest := by
  have fits' : 0 + text.length ≤ size := by omega
  have more : text.length < buffer.1.length := by rw [buffer.2]; exact fits
  refine ⟨_, buffer.1[text.length], buffer.1.drop (text.length + 1), dif_pos fits', ?_⟩
  simp

end WorkBuffer

/-- **A piece in the buffer is split like the piece.** -/
theorem keyAndValue_eq {size : Nat} {buffer : WorkBuffer size} {piece rest : Text}
    (content : buffer.1 = piece ++ nul :: rest) :
    ∃ buffer', keyAndValue buffer = some (buffer', pieceParm piece) := by
  obtain ⟨rest', hrest'⟩ := exists_cString_append piece rest
  have string := nul_not_mem_cString piece
  rw [hrest'] at content
  have whole : buffer.stringAt 0 = some (cString piece) :=
    WorkBuffer.stringAt_eq [] content rfl string
  unfold keyAndValue pieceParm
  rw [whole, Option.bind_eq_bind, Option.bind_some]
  by_cases hmem : '=' ∈ cString piece
  · obtain ⟨key, value, hkey, hnot⟩ := List.eq_append_cons_of_mem hmem
    rw [hkey] at content string ⊢
    have found : (key ++ '=' :: value).findIdx? (· = '=') = some key.length := by
      have none : key.findIdx? (· = '=') = none := by
        rw [List.findIdx?_eq_none_iff]
        intro c hc
        have hne : c ≠ '=' := fun heq => hnot (heq ▸ hc)
        simpa using hne
      simp [List.findIdx?_append, none, List.findIdx?_cons]
    have content' : buffer.1 = key ++ '=' :: (value ++ nul :: rest') := by simpa using content
    obtain ⟨buffer', hwrite, hbuffer'⟩ := WorkBuffer.write_char content' rfl nul
    have keyString : buffer'.stringAt 0 = some key :=
      WorkBuffer.stringAt_eq [] hbuffer' rfl (by simp at string; exact string.1)
    have valueString : buffer'.stringAt (key.length + 1) = some value :=
      WorkBuffer.stringAt_eq (key ++ [nul]) (by simpa using hbuffer') (by simp)
        (by simp at string; exact string.2.2)
    exact ⟨buffer', by simp [found, hwrite, keyString, valueString, splitParm_append hnot]⟩
  · have notFound : (cString piece).findIdx? (· = '=') = none := by
      rw [List.findIdx?_eq_none_iff]
      intro c hc
      have hne : c ≠ '=' := fun heq => hmem (heq ▸ hc)
      simpa using hne
    exact ⟨buffer, by simp [notFound, splitParm_of_not_mem hmem]⟩

/-! ## The scan of a text -/

/-- The text behind the first piece of it. -/
def afterPiece (text : Text) : Text := text.drop (commaIdx text + 1)

/-- The first piece of a text. -/
def firstPiece (text : Text) : Text := text.take (commaIdx text)

theorem commaIdx_le (text : Text) : commaIdx text ≤ text.length :=
  (List.takeWhile_prefix _).length_le

@[simp] theorem mainPieces_nil : mainPieces [] = [] := by
  simp [mainPieces]

/-- **One equation for a text cut at its commas.** -/
theorem mainPieces_eq {text : Text} (h : text ≠ []) :
    mainPieces text = firstPiece text :: mainPieces (afterPiece text) := by
  by_cases hmem : ',' ∈ text
  · obtain ⟨piece, rest, rfl, hnot⟩ := List.eq_append_cons_of_mem hmem
    have index : commaIdx (piece ++ ',' :: rest) = piece.length := by
      rw [commaIdx, takeWhile_append_sep hnot]
    have first : firstPiece (piece ++ ',' :: rest) = piece := by
      rw [firstPiece, index, List.take_left]
    have after : afterPiece (piece ++ ',' :: rest) = rest := by
      rw [afterPiece, index]
      simp
    have more := List.splitOn_ne_nil ',' rest
    rw [first, after, mainPieces, mainPieces, List.splitOn_append_cons_self_of_not_mem hnot]
    simp only [List.getLast?_cons_of_ne_nil more, List.dropLast_cons_of_ne_nil more]
    split <;> rfl
  · have index : commaIdx text = text.length := by
      rw [commaIdx, takeWhile_not_mem hmem]
    have first : firstPiece text = text := by rw [firstPiece, index, List.take_length]
    have after : afterPiece text = [] := by
      rw [afterPiece, index]
      simp
    rw [first, after, mainPieces_nil, mainPieces, List.splitOn_eq_singleton hmem]
    simp [h]

/-- A piece is copied, ended and split within the buffer. -/
theorem takePiece_eq {size : Nat} {text : Text} (fits : text.length < size) (startIdx : Nat)
    (workBuffer : WorkBuffer size) :
    ∃ workBuffer', takePiece text startIdx workBuffer =
      some (workBuffer', pieceParm (firstPiece (text.drop startIdx))) := by
  have short : (firstPiece (text.drop startIdx)).length = commaIdx (text.drop startIdx) := by
    rw [firstPiece, List.length_take]
    exact Nat.min_eq_left (commaIdx_le _)
  have inText : commaIdx (text.drop startIdx) ≤ text.length := by
    have := commaIdx_le (text.drop startIdx)
    rw [List.length_drop] at this
    omega
  have room : (firstPiece (text.drop startIdx)).length < size := by omega
  obtain ⟨copied, c, rest, hcopied, hcontent⟩ := workBuffer.write_front room
  obtain ⟨ended, hended, hcontent'⟩ := WorkBuffer.write_char hcontent short nul
  obtain ⟨split, hsplit⟩ := keyAndValue_eq hcontent'
  refine ⟨split, ?_⟩
  show ((workBuffer.write 0 (firstPiece (text.drop startIdx))).bind fun workBuffer =>
    (workBuffer.write (commaIdx (text.drop startIdx)) [nul]).bind keyAndValue) = _
  rw [hcopied, Option.bind_some, hended, Option.bind_some, hsplit]

/-- **The scan puts the pieces.** With a round for each character and one more, the loop from any
place on does the puts of the rest of the text. -/
theorem loop_mainParms {σ : Type} {slhAlloc : σ → Nat → Option σ} {size rounds : Nat} {text : Text}
    (fits : text.length < size) (state : MainParmsState σ size)
    (enough : text.length - state.startIdx < rounds) :
    loop (mainParmsRound slhAlloc text) rounds state =
      some (some (putParms slhAlloc state.parms
        ((mainPieces (text.drop state.startIdx)).map pieceParm))) := by
  induction rounds generalizing state with
  | zero => exact absurd enough (Nat.not_lt_zero _)
  | succ rounds ih =>
    rw [loop, mainParmsRound]
    by_cases hend : state.startIdx < text.length
    · rw [if_pos hend]
      obtain ⟨workBuffer, hpiece⟩ := takePiece_eq fits state.startIdx state.workBuffer
      have some_left : text.drop state.startIdx ≠ [] := by
        simpa using hend
      rw [hpiece, mainPieces_eq some_left, List.map_cons, putParms]
      generalize pieceParm (firstPiece (text.drop state.startIdx)) = parm
      obtain ⟨key, value⟩ := parm
      dsimp only
      cases hput : zisPutParmValue slhAlloc state.parms key value with
      | mk addRC parms =>
        dsimp only
        by_cases hok : addRC = rcZisparmOk
        · rw [if_neg (not_not.mpr hok), if_neg (not_not.mpr hok)]
          refine (ih _ ?_).trans ?_
          · show text.length - (state.startIdx + commaIdx (text.drop state.startIdx) + 1) < rounds
            omega
          · show some (some (putParms slhAlloc parms ((mainPieces (text.drop
              (state.startIdx + commaIdx (text.drop state.startIdx) + 1))).map pieceParm))) = _
            rw [afterPiece, List.drop_drop]
            rfl
        · rw [if_pos hok, if_pos hok]
    · rw [if_neg hend, List.drop_eq_nil_of_le (Nat.le_of_not_lt hend), mainPieces_nil]
      rfl

/-- **The start parameters are the pieces of the text.** With a round for each character and one
more, `zisReadMainParms` comes to an end within its buffer; the puts are those of the pieces between
the commas, each read up to its first terminator and split at its first equal sign, up to the first
that fails. -/
theorem zisReadMainParms_puts {σ : Type} (slhAlloc : σ → Nat → Option σ)
    (safeMalloc : (size : Nat) → Option (WorkBuffer size)) (parms : ZisParmSet σ) (text : Text)
    (rounds : Nat) (enough : text.length < rounds) :
    zisReadMainParms slhAlloc safeMalloc rounds parms text =
      some (some (if (safeMalloc (text.length + 1)).isSome then
          putParms slhAlloc parms ((mainPieces text).map pieceParm)
        else (rcZisparmAllocFailed, parms))) := by
  rw [zisReadMainParms]
  cases safeMalloc (text.length + 1) with
  | none => rfl
  | some workBuffer => exact loop_mainParms (Nat.lt_succ_self _) ⟨parms, workBuffer, 0⟩ enough

/-- Storage of zeros. -/
def zeroStorage (size : Nat) : Option (WorkBuffer size) :=
  some ⟨List.replicate size nul, List.length_replicate⟩

theorem zisReadMainParms_puts_sample :
    zisReadMainParms (fun (_ : Unit) _ => some ()) zeroStorage 7 ⟨(), [], []⟩ "A=1,B,".toList =
      some (some (putParms (fun (_ : Unit) _ => some ()) ⟨(), [], []⟩
        ((mainPieces "A=1,B,".toList).map pieceParm))) :=
  zisReadMainParms_puts (fun (_ : Unit) _ => some ()) zeroStorage ⟨(), [], []⟩ "A=1,B,".toList 7
    (by decide)

/-- The pieces are not put as they are where one has a terminator in it, and nothing is put where
there is no storage for the buffer. -/
theorem zisReadMainParms_terminator :
    zisReadMainParms (fun (_ : Unit) _ => some ()) zeroStorage 5 ⟨(), [], []⟩ ['A', nul, '=', 'B'] ≠
        some (some (putParms (fun (_ : Unit) _ => some ()) ⟨(), [], []⟩
          ((mainPieces ['A', nul, '=', 'B']).map splitParm))) ∧
      zisReadMainParms (fun (_ : Unit) _ => some ()) (fun _ => none) 2 ⟨(), [], []⟩ ['A'] ≠
        some (some (putParms (fun (_ : Unit) _ => some ()) ⟨(), [], []⟩
          ((mainPieces ['A']).map splitParm))) := by
  decide +kernel

end Zss.Zis
