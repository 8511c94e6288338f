import Mathlib.Algebra.Order.Ring.Nat
import Zss.Lib.Loop
import Zss.Zisaux.Commands

/-!
# The tokenizer

`auxutilTokenizeString` splits a text at a delimiter. Its three loops share one index, an `unsigned`,
and the array of tokens is doubled where it is full. Here it goes step by step, with its reads and
writes checked against what they are made in (`Outcome.fault`); `Commands.auxutilTokenizeString` is
the same over lists (`auxutilTokenizeString_refines`).

Behind the last token the index is counted on once more, whatever it is. `tokenizes_iff` says for which
texts that goes well.

## What is not established

What is made of the tokens (`Zss.Zisaux.Commands`), and of a text of 2^32 characters or more nothing
at all.
-/

namespace Zss.Zisaux.Tokenizer

open Zss.Lib
open Zss.Zisaux.Commands (words words_delim words_token words_last words_nil words_of_blank
  words_of_rest words_dropWhile)

/-- `str`, with the characters that `length` counts. -/
structure Str where
  chars : Text
  length_lt : chars.length < 2 ^ 32

def Str.length (str : Str) : Nat := str.chars.length

/-- What the function comes to: tokens, storage that was not given, or a read or write outside of what
is there. -/
inductive Outcome (σ : Type) where
  | ok (slh : σ) (result : List (Option Text)) (tokenCount : Nat)
  | failed (slh : σ) (size : Nat)
  | fault

/-- The array of tokens, with the heap it is in. A slot that was not set is `none`. -/
structure Tokens (σ : Type) where
  slh : σ
  tokens : List (Option Text)
  resultCapacity : Nat
  currTokenCount : Nat

/-- The variables of the function. -/
structure Vars (σ : Type) where
  charIdx : Nat
  tokenStartIdx : Nat
  tokenLength : Nat
  array : Tokens σ

/-- Where the function is: at the head of the loop, in the loop that skips delimiters, in the loop that
measures a token, or behind it. -/
inductive Place where
  | head
  | skip
  | measure
  | found

/-- An `unsigned` counted on. -/
def counted (n : Nat) : Nat := (n + 1) % 2 ^ 32

/-- The copy of a token. -/
def terminated (token : Text) : Text := token ++ ['\x00']

/-! ## The function -/

section

variable {σ : Type} (slhAlloc : σ → Nat → Option σ) (str : Str) (delim : Char)

/-- The array, doubled where it is full. -/
def Tokens.grow (t : Tokens σ) : Except (Outcome σ) (Tokens σ) :=
  if t.resultCapacity ≤ t.currTokenCount then
    let newCapacity := t.resultCapacity * 2 % 2 ^ 32
    match slhAlloc t.slh (8 * newCapacity) with
    | none => .error (.failed t.slh (8 * newCapacity))
    | some slh =>
      if newCapacity < t.resultCapacity then .error .fault
      else
        .ok { t with
          slh := slh
          tokens := t.tokens ++ List.replicate (newCapacity - t.resultCapacity) none
          resultCapacity := newCapacity }
  else .ok t

/-- The token at an index, copied into storage of its own. -/
def Tokens.put (t : Tokens σ) (tokenStartIdx tokenLength : Nat) : Except (Outcome σ) (Tokens σ) :=
  let size := counted tokenLength
  if t.tokens.length ≤ t.currTokenCount then .error .fault
  else
    match slhAlloc t.slh size with
    | none => .error (.failed t.slh size)
    | some slh =>
      if size ≤ tokenLength ∨ str.length < tokenStartIdx + tokenLength then .error .fault
      else
        .ok { t with
          slh := slh
          tokens := t.tokens.set t.currTokenCount
            (some (terminated ((str.chars.drop tokenStartIdx).take tokenLength)))
          currTokenCount := counted t.currTokenCount }

/-- What is done with a token that was measured. -/
def Tokens.add (t : Tokens σ) (tokenStartIdx tokenLength : Nat) :
    Except (Outcome σ) (Tokens σ) :=
  if 0 < tokenLength then
    match t.grow slhAlloc with
    | .error outcome => .error outcome
    | .ok t => t.put slhAlloc str tokenStartIdx tokenLength
  else .ok t

/-- One step. -/
def step : Place × Vars σ → (Place × Vars σ) ⊕ Outcome σ
  | (.head, v) =>
    if v.charIdx < str.length then .inl (.skip, { v with tokenStartIdx := 0 })
    else .inr (.ok v.array.slh v.array.tokens v.array.currTokenCount)
  | (.skip, v) =>
    if v.charIdx < str.length then
      match str.chars[v.charIdx]? with
      | none => .inr .fault
      | some c =>
        if c ≠ delim then .inl (.measure, { v with tokenStartIdx := v.charIdx, tokenLength := 0 })
        else .inl (.skip, { v with charIdx := counted v.charIdx })
    else .inl (.measure, { v with tokenLength := 0 })
  | (.measure, v) =>
    if v.charIdx < str.length then
      match str.chars[v.charIdx]? with
      | none => .inr .fault
      | some c =>
        if c = delim then .inl (.found, v)
        else
          .inl (.measure,
            { v with charIdx := counted v.charIdx, tokenLength := counted v.tokenLength })
    else .inl (.found, v)
  | (.found, v) =>
    match v.array.add slhAlloc str v.tokenStartIdx v.tokenLength with
    | .error outcome => .inr outcome
    | .ok array => .inl (.head, { v with charIdx := counted v.charIdx, array := array })

/-- The array that the function begins with. -/
def Tokens.first (slh : σ) : Tokens σ := ⟨slh, List.replicate 4 none, 4, 0⟩

/-- `auxutilTokenizeString`, for so many steps at most. -/
def auxutilTokenizeString (steps : Nat) (slh : σ) : Option (Outcome σ) :=
  match slhAlloc slh (8 * 4) with
  | none => some (.failed slh (8 * 4))
  | some slh => loop (step slhAlloc str delim) steps (.head, ⟨0, 0, 0, .first slh⟩)

/-- The function comes to an end with an outcome. -/
def Returns (slh : σ) (outcome : Outcome σ) : Prop :=
  ∃ enough, ∀ steps ≥ enough, auxutilTokenizeString slhAlloc str delim steps slh = some outcome

end

/-- The outcome is what the text has: its words, each as a string of its own, or the call that gave no
storage. -/
def Outcome.Right {σ : Type} (slhAlloc : σ → Nat → Option σ) (text : Text) (delim : Char) :
    Outcome σ → Prop
  | .ok _ result tokenCount =>
    tokenCount = (words delim text).length ∧
      result.take tokenCount = (words delim text).map (some ∘ terminated)
  | .failed slh size => slhAlloc slh size = none
  | .fault => False

/-- **The tokenizer does its work** on a text: with every heap it comes to an end, with the text's
tokens or because storage was not given, and stays inside the text and its arrays. -/
def Tokenizes (str : Str) (delim : Char) : Prop :=
  ∀ (σ : Type) (slhAlloc : σ → Nat → Option σ) (slh : σ),
    ∃ outcome, Returns slhAlloc str delim slh outcome ∧ outcome.Right slhAlloc str.chars delim

/-- The text ends with a token of any length and one delimiter. -/
def EndsDelimited (delim : Char) (text : Text) : Prop :=
  ∃ front c, c ≠ delim ∧ text = front ++ [c, delim]

/-! ## Words -/

/-- Between two words there is a delimiter. -/
theorem length_words (delim : Char) (text : Text) :
    2 * (words delim text).length ≤ text.length + 1 := by
  induction hn : text.length using Nat.strongRecOn generalizing text with
  | ind n ih =>
    subst hn
    by_cases hblank : (text.dropWhile (· = delim)).takeWhile (· ≠ delim) = []
    · rw [words_of_blank hblank]
      exact Nat.zero_le _
    · have hle := (text.dropWhile_suffix (· = delim)).length_le
      have htoken := (List.takeWhile_prefix (· ≠ delim) (l := text.dropWhile (· = delim))).length_le
      have hpos := List.length_pos_iff.mpr hblank
      rw [← words_dropWhile, words_of_rest hblank, List.length_cons]
      generalize (text.dropWhile (· = delim)).takeWhile (· ≠ delim) = token at htoken hpos ⊢
      generalize text.dropWhile (· = delim) = rest at hle htoken ⊢
      by_cases hlast : rest.length ≤ token.length + 1
      · rw [List.drop_of_length_le hlast, words_nil, List.length_nil]
        omega
      · have hrest := ih (rest.drop (token.length + 1)).length
          (by rw [List.length_drop]; omega) (rest.drop (token.length + 1)) rfl
        rw [List.length_drop] at hrest
        omega

/-! ## The loops -/

section

variable {σ : Type} (str : Str) (delim : Char)

/-- The token that is measured. -/
def Str.slice (start length : Nat) : Text := (str.chars.drop start).take length

/-- The text begins here, or a delimiter is before it. -/
def Boundary (i : Nat) : Prop := i = 0 ∨ str.chars[i - 1]? = some delim

/-- What is known of a token that is measured up to the index. -/
structure Measured (v : Vars σ) : Prop where
  le : v.charIdx ≤ str.length
  token : delim ∉ str.slice v.tokenStartIdx v.tokenLength
  upTo : 0 < v.tokenLength ∨ v.charIdx < str.length →
    v.tokenStartIdx + v.tokenLength = v.charIdx
  last : v.charIdx = str.length → ¬ EndsDelimited delim str.chars

/-- What the loops keep to. -/
def Scan : Place → Vars σ → Prop
  | .head, v => str.length ≤ v.charIdx ∨ Boundary str delim v.charIdx
  | .skip, v => v.charIdx ≤ str.length ∧ Boundary str delim v.charIdx ∧
      (v.charIdx = str.length → ¬ EndsDelimited delim str.chars)
  | .measure, v => Measured str delim v ∧
      (v.tokenLength = 0 → str.chars[v.charIdx]? ≠ some delim)
  | .found, v => Measured str delim v ∧
      (v.charIdx < str.length → 0 < v.tokenLength ∧ str.chars[v.charIdx]? = some delim)

/-- What a step can do, short of a token that is found. -/
inductive Move : Place × Vars σ → Place × Vars σ → Prop where
  | enter (v : Vars σ) (h : v.charIdx < str.length) :
    Move (.head, v) (.skip, { v with tokenStartIdx := 0 })
  | pass (v : Vars σ) (h : str.chars[v.charIdx]? = some delim) :
    Move (.skip, v) (.skip, { v with charIdx := v.charIdx + 1 })
  | start (v : Vars σ) (c : Char) (h : str.chars[v.charIdx]? = some c) (hc : c ≠ delim) :
    Move (.skip, v) (.measure, { v with tokenStartIdx := v.charIdx, tokenLength := 0 })
  | blank (v : Vars σ) (h : v.charIdx = str.length) :
    Move (.skip, v) (.measure, { v with tokenLength := 0 })
  | extend (v : Vars σ) (c : Char) (h : str.chars[v.charIdx]? = some c) (hc : c ≠ delim) :
    Move (.measure, v)
      (.measure, { v with charIdx := v.charIdx + 1, tokenLength := v.tokenLength + 1 })
  | delimited (v : Vars σ) (h : str.chars[v.charIdx]? = some delim) : Move (.measure, v) (.found, v)
  | ended (v : Vars σ) (h : v.charIdx = str.length) : Move (.measure, v) (.found, v)

variable {str delim}

theorem counted_eq {n : Nat} (h : n < 2 ^ 32 - 1) : counted n = n + 1 :=
  Nat.mod_eq_of_lt (by omega)

variable {i : Nat} {c : Char} {p p' : Place}

theorem lt_of_getElem? (h : str.chars[i]? = some c) : i < str.length :=
  (List.getElem?_eq_some_iff.mp h).1

theorem getElem?_of_lt (h : i < str.length) : ∃ c, str.chars[i]? = some c :=
  ⟨_, List.getElem?_eq_getElem h⟩

theorem drop_eq_cons (h : str.chars[i]? = some c) :
    str.chars.drop i = c :: str.chars.drop (i + 1) := by
  obtain ⟨hi, rfl⟩ := List.getElem?_eq_some_iff.mp h
  exact List.drop_eq_getElem_cons hi

theorem length_slice {start length : Nat} (h : start + length ≤ str.length) :
    (str.slice start length).length = length := by
  rw [Str.slice, List.length_take, List.length_drop, Nat.min_eq_left]
  exact Nat.le_sub_of_add_le (by rw [Nat.add_comm]; exact h)

theorem slice_succ {start length : Nat} (h : str.chars[start + length]? = some c) :
    str.slice start (length + 1) = str.slice start length ++ [c] := by
  rw [Str.slice, List.take_add_one, List.getElem?_drop, h]
  rfl

/-! ### The end of the text -/

theorem length_of_ends {front : Text} (h : str.chars = front ++ [c, delim]) :
    str.length = front.length + 2 := by
  rw [Str.length, h, List.length_append]
  rfl

theorem EndsDelimited.two_le (h : EndsDelimited delim str.chars) : 2 ≤ str.length := by
  obtain ⟨front, c, hc, htext⟩ := h
  rw [length_of_ends htext]
  exact Nat.le_add_left 2 _

theorem EndsDelimited.last (h : EndsDelimited delim str.chars) {i : Nat} (hi : i + 1 = str.length) :
    str.chars[i]? = some delim := by
  obtain ⟨front, c, hc, htext⟩ := h
  obtain rfl : i = front.length + 1 := Nat.succ.inj (hi.trans (length_of_ends htext))
  rw [htext, List.getElem?_append_right (Nat.le_add_right _ 1), Nat.add_sub_cancel_left]
  rfl

theorem EndsDelimited.before (h : EndsDelimited delim str.chars) (hi : i + 2 = str.length) :
    str.chars[i]? ≠ some delim := by
  obtain ⟨front, c, hc, htext⟩ := h
  obtain rfl : i = front.length := by
    have hlength := length_of_ends htext
    omega
  rw [htext, List.getElem?_append_right (Nat.le_refl _), Nat.sub_self]
  exact fun heq => hc (Option.some.inj heq)

theorem endsDelimited_of_getElem? (hi : i + 2 = str.length) (hbefore : str.chars[i]? = some c)
    (hc : c ≠ delim) (hlast : str.chars[i + 1]? = some delim) : EndsDelimited delim str.chars := by
  refine ⟨str.chars.take i, c, hc, ?_⟩
  have hnil : str.chars.drop (i + 1 + 1) = [] := List.drop_of_length_le (Nat.le_of_eq hi.symm)
  rw [← hnil, ← drop_eq_cons hlast, ← drop_eq_cons hbefore, List.take_append_drop]

/-! ### Steps -/

variable {slhAlloc : σ → Nat → Option σ}

/-- A token is not longer than what was read. -/
theorem Measured.tokenLength_le {v : Vars σ} (h : Measured str delim v) :
    v.tokenLength ≤ v.charIdx := by
  rcases Nat.eq_zero_or_pos v.tokenLength with hzero | hpos
  · omega
  · have hupTo := h.upTo (.inl hpos)
    omega

/-- A step moves, or the text is done, or a token is found. -/
theorem step_cases (slhAlloc : σ → Nat → Option σ) {v : Vars σ} (h : Scan str delim p v) :
    (∃ s', step slhAlloc str delim (p, v) = .inl s' ∧ Move str delim (p, v) s') ∨
      (p = .head ∧ str.length ≤ v.charIdx) ∨ p = .found := by
  have hlt := str.length_lt
  change str.length < 2 ^ 32 at hlt
  cases p with
  | head =>
    by_cases hmore : v.charIdx < str.length
    · exact .inl ⟨_, by rw [step, if_pos hmore], .enter v hmore⟩
    · exact .inr (.inl ⟨rfl, Nat.le_of_not_lt hmore⟩)
  | found => exact .inr (.inr rfl)
  | skip =>
    left
    by_cases hmore : v.charIdx < str.length
    · obtain ⟨c, hc⟩ := getElem?_of_lt hmore
      have hcounted : counted v.charIdx = v.charIdx + 1 := counted_eq (by omega)
      by_cases hdelim : c = delim
      · subst hdelim
        refine ⟨_, ?_, .pass v hc⟩
        rw [step, if_pos hmore, hc, ← hcounted]
        exact if_neg (not_not_intro rfl)
      · refine ⟨_, ?_, .start v c hc hdelim⟩
        rw [step, if_pos hmore, hc]
        exact if_pos hdelim
    · exact ⟨_, by rw [step, if_neg hmore], .blank v (Nat.le_antisymm h.1 (Nat.le_of_not_lt hmore))⟩
  | measure =>
    left
    have hle := h.1.tokenLength_le
    by_cases hmore : v.charIdx < str.length
    · obtain ⟨c, hc⟩ := getElem?_of_lt hmore
      by_cases hdelim : c = delim
      · subst hdelim
        refine ⟨_, ?_, .delimited v hc⟩
        rw [step, if_pos hmore, hc]
        exact if_pos rfl
      · have hcounted : counted v.charIdx = v.charIdx + 1 := counted_eq (by omega)
        have hlonger : counted v.tokenLength = v.tokenLength + 1 := counted_eq (by omega)
        refine ⟨_, ?_, .extend v c hc hdelim⟩
        rw [step, if_pos hmore, hc, ← hcounted, ← hlonger]
        exact if_neg hdelim
    · exact ⟨_, by rw [step, if_neg hmore],
        .ended v (Nat.le_antisymm h.1.le (Nat.le_of_not_lt hmore))⟩

/-- The loops keep to what they know. -/
theorem Move.scan {v v' : Vars σ} (move : Move str delim (p, v) (p', v')) (h : Scan str delim p v) :
    Scan str delim p' v' := by
  cases move with
  | enter v hmore =>
    refine ⟨Nat.le_of_lt hmore, ?_, fun heq => absurd heq (Nat.ne_of_lt hmore)⟩
    exact h.resolve_left (Nat.not_le_of_lt hmore)
  | pass v hc =>
    obtain ⟨hle, hboundary, hend⟩ := h
    refine ⟨lt_of_getElem? hc, .inr hc, fun heq ends => ?_⟩
    have htwo := ends.two_le
    change v.charIdx + 1 = str.length at heq
    rcases hboundary with hzero | hbefore
    · omega
    · exact ends.before (by omega) hbefore
  | start v c hc hdelim =>
    have hmore := lt_of_getElem? hc
    refine ⟨⟨Nat.le_of_lt hmore, ?_, fun _ => rfl, fun heq => absurd heq (Nat.ne_of_lt hmore)⟩,
      fun _ heq => ?_⟩
    · rw [Str.slice, List.take_zero]
      exact List.not_mem_nil
    · exact hdelim (Option.some.inj (hc.symm.trans heq))
  | blank v hdone =>
    refine ⟨⟨h.1, ?_, ?_, h.2.2⟩, fun _ heq => ?_⟩
    · rw [Str.slice, List.take_zero]
      exact List.not_mem_nil
    · rintro (hpos | hmore)
      · exact absurd hpos (Nat.lt_irrefl 0)
      · exact absurd hdone (Nat.ne_of_lt hmore)
    · exact absurd hdone (Nat.ne_of_lt (lt_of_getElem? heq))
  | extend v c hc hdelim =>
    obtain ⟨measured, hfirst⟩ := h
    have hmore := lt_of_getElem? hc
    have hupTo := measured.upTo (.inr hmore)
    refine ⟨⟨hmore, ?_, fun _ => ?_, fun heq ends => ?_⟩,
      fun hzero => absurd hzero (Nat.succ_ne_zero _)⟩
    · change delim ∉ str.slice v.tokenStartIdx (v.tokenLength + 1)
      rw [slice_succ (hupTo.symm ▸ hc), List.mem_append, List.mem_singleton]
      exact not_or.mpr ⟨measured.token, fun heq => hdelim heq.symm⟩
    · change v.tokenStartIdx + (v.tokenLength + 1) = v.charIdx + 1
      omega
    · exact hdelim (Option.some.inj (hc.symm.trans (ends.last heq)))
  | delimited v hc =>
    obtain ⟨measured, hfirst⟩ := h
    exact ⟨measured, fun _ => ⟨Nat.pos_of_ne_zero fun hzero => hfirst hzero hc, hc⟩⟩
  | ended v hdone =>
    exact ⟨h.1, fun hmore => absurd hdone (Nat.ne_of_lt hmore)⟩

/-- The loop goes on behind a token. -/
theorem scan_next {v v' : Vars σ} (h : Scan str delim .found v)
    (hidx : v'.charIdx = counted v.charIdx) : Scan str delim .head v' := by
  obtain ⟨measured, hfound⟩ := h
  have hlt := str.length_lt
  change str.length < 2 ^ 32 at hlt
  have hle := measured.le
  rw [Scan, hidx]
  by_cases hmore : v.charIdx < str.length
  · rw [counted_eq (by omega)]
    exact .inr (.inr (hfound hmore).2)
  · by_cases hwraps : v.charIdx = 2 ^ 32 - 1
    · rw [hwraps]
      exact .inr (.inl rfl)
    · rw [counted_eq (by omega)]
      exact .inl (by omega)

/-! ### What is left to read -/

variable (str) in
/-- The text from the token on, or from the index on between tokens. -/
def remaining : Place → Vars σ → Text
  | .head, v | .skip, v => str.chars.drop v.charIdx
  | .measure, v | .found, v => str.slice v.tokenStartIdx v.tokenLength ++ str.chars.drop v.charIdx

def Place.rank : Place → Nat
  | .head => 3
  | .skip => 2
  | .measure => 1
  | .found => 0

variable (str) in
/-- The steps that are left are not more than this. -/
def variant (s : Place × Vars σ) : Nat := 4 * (str.length + 1 - s.2.charIdx) + s.1.rank

theorem Move.array {v v' : Vars σ} (move : Move str delim (p, v) (p', v')) :
    v'.array = v.array := by
  cases move <;> rfl

theorem Move.variant_lt {s s' : Place × Vars σ} (move : Move str delim s s') :
    variant str s' < variant str s := by
  cases move with
  | enter | start | blank | delimited | ended =>
    exact Nat.add_lt_add_left (Nat.lt_succ_self _) _
  | pass v hc | extend v c hc =>
    have hmore := lt_of_getElem? hc
    simp only [variant]
    omega

/-- No word is lost on the way. -/
theorem Move.words {v v' : Vars σ} (move : Move str delim (p, v) (p', v'))
    (h : Scan str delim p v) :
    words delim (remaining str p' v') = words delim (remaining str p v) := by
  cases move with
  | enter | delimited | ended => rfl
  | pass v hc => rw [remaining, remaining, drop_eq_cons hc, words_delim]
  | start | blank => rw [remaining, remaining, Str.slice, List.take_zero, List.nil_append]
  | extend v c hc =>
    have hupTo := h.1.upTo (.inr (lt_of_getElem? hc))
    rw [remaining, remaining, slice_succ (hupTo.symm ▸ hc), List.append_assoc, List.singleton_append,
      drop_eq_cons hc]

/-- Behind a token that is found, or where there is none. -/
theorem words_found {v : Vars σ} (h : Scan str delim .found v) :
    Commands.words delim (remaining str .found v) =
      if 0 < v.tokenLength then
        str.slice v.tokenStartIdx v.tokenLength ::
          Commands.words delim (str.chars.drop (v.charIdx + 1))
      else Commands.words delim (str.chars.drop (v.charIdx + 1)) := by
  obtain ⟨measured, hfound⟩ := h
  have hdone : ¬ v.charIdx < str.length → str.chars.drop v.charIdx = [] :=
    fun hnot => List.drop_of_length_le (Nat.le_of_not_lt hnot)
  have hbehind : ¬ v.charIdx < str.length → str.chars.drop (v.charIdx + 1) = [] :=
    fun hnot => List.drop_of_length_le (Nat.le_succ_of_le (Nat.le_of_not_lt hnot))
  rw [remaining]
  by_cases hpos : 0 < v.tokenLength
  · have hne : str.slice v.tokenStartIdx v.tokenLength ≠ [] := by
      have hupTo := measured.upTo (.inl hpos)
      have hlength := length_slice (hupTo ▸ measured.le)
      exact List.ne_nil_of_length_pos (hlength.symm ▸ hpos)
    rw [if_pos hpos]
    by_cases hmore : v.charIdx < str.length
    · rw [drop_eq_cons (hfound hmore).2, words_token hne measured.token]
    · rw [hdone hmore, hbehind hmore, List.append_nil, words_last hne measured.token, words_nil]
  · have hend : ¬ v.charIdx < str.length := fun hmore => hpos (hfound hmore).1
    rw [if_neg hpos, hdone hend, hbehind hend, Nat.eq_zero_of_not_pos hpos, Str.slice,
      List.take_zero, List.append_nil]

/-- The index is not counted on beyond an `unsigned`. -/
theorem charIdx_lt {v : Vars σ} (h : Scan str delim .found v)
    (stops : str.length ≠ 2 ^ 32 - 1 ∨ EndsDelimited delim str.chars) :
    v.charIdx < 2 ^ 32 - 1 := by
  have hlt := str.length_lt
  change str.length < 2 ^ 32 at hlt
  have hle := h.1.le
  by_cases hmore : v.charIdx < str.length
  · omega
  · have hdone : v.charIdx = str.length := Nat.le_antisymm hle (Nat.le_of_not_lt hmore)
    have hshort := stops.resolve_right (h.1.last hdone)
    omega

/-! ## A run -/

section

variable (str delim slhAlloc) in
/-- A token that is added leaves the array as is said of it, or the outcome is as is said of that. -/
def Adds (keeps : Tokens σ → List Text → Prop) (post : Outcome σ → Prop) : Prop :=
  ∀ t found start length more, keeps t found → 0 < length → start + length ≤ str.length →
    length < 2 ^ 32 - 1 → words delim str.chars = found ++ str.slice start length :: more →
    match t.add slhAlloc str start length with
    | .ok t' => keeps t' (found ++ [str.slice start length])
    | .error outcome => post outcome

variable (str delim) in
/-- The words that are in the array and those that are left are those of the text. -/
structure Under (keeps : Tokens σ → List Text → Prop) (s : Place × Vars σ) : Prop where
  scan : Scan str delim s.1 s.2
  words : ∃ found, keeps s.2.array found ∧
    words delim str.chars = found ++ words delim (remaining str s.1 s.2)

variable {keeps : Tokens σ → List Text → Prop} {post : Outcome σ → Prop}

/-- The index is counted on, with an array that has what was found. -/
theorem under_head {v v' : Vars σ} {found : List Text} (scan : Scan str delim .found v)
    (stops : str.length ≠ 2 ^ 32 - 1 ∨ EndsDelimited delim str.chars)
    (hidx : v'.charIdx = counted v.charIdx) (hkeeps : keeps v'.array found)
    (hwords : words delim str.chars =
      found ++ words delim (str.chars.drop (v.charIdx + 1))) :
    Under str delim keeps (.head, v') ∧ variant str (.head, v') < variant str (.found, v) := by
  have hnext : v'.charIdx = v.charIdx + 1 := hidx.trans (counted_eq (charIdx_lt scan stops))
  have hle := scan.1.le
  refine ⟨⟨scan_next scan hidx, found, hkeeps, ?_⟩, ?_⟩
  · rw [remaining, hnext]
    exact hwords
  · simp only [variant, Place.rank, hnext]
    omega

/-- Behind the loops: a token is added, if there is one. -/
theorem round_found (adds : Adds str delim slhAlloc keeps post)
    (stops : str.length ≠ 2 ^ 32 - 1 ∨ EndsDelimited delim str.chars) {v : Vars σ}
    (h : Under str delim keeps (.found, v)) :
    (∃ s', step slhAlloc str delim (.found, v) = .inl s' ∧ Under str delim keeps s' ∧
        variant str s' < variant str (.found, v)) ∨
      ∃ outcome, step slhAlloc str delim (.found, v) = .inr outcome ∧ post outcome := by
  obtain ⟨scan, found, hkeeps, hwords⟩ := h
  change Scan str delim .found v at scan
  rw [words_found scan] at hwords
  by_cases hpos : 0 < v.tokenLength
  · rw [if_pos hpos] at hwords
    have hupTo := scan.1.upTo (.inl hpos)
    have hshort : v.tokenLength < 2 ^ 32 - 1 :=
      Nat.lt_of_le_of_lt scan.1.tokenLength_le (charIdx_lt scan stops)
    have hadded := adds v.array found v.tokenStartIdx v.tokenLength _ hkeeps hpos
      (hupTo ▸ scan.1.le) hshort hwords
    cases hresult : v.array.add slhAlloc str v.tokenStartIdx v.tokenLength with
    | error outcome =>
      rw [hresult] at hadded
      exact .inr ⟨outcome, by rw [step, hresult], hadded⟩
    | ok array =>
      rw [hresult] at hadded
      refine .inl ⟨(.head, { v with charIdx := counted v.charIdx, array := array }),
        by rw [step, hresult], under_head scan stops rfl hadded ?_⟩
      rw [hwords, List.append_assoc, List.singleton_append]
  · rw [if_neg hpos] at hwords
    have hresult : v.array.add slhAlloc str v.tokenStartIdx v.tokenLength = .ok v.array :=
      if_neg hpos
    exact .inl ⟨(.head, { v with charIdx := counted v.charIdx, array := v.array }),
      by rw [step, hresult], under_head scan stops rfl hkeeps hwords⟩

/-- A run adds the words of the text to the array, one after the other, and comes to an end. -/
theorem run_words (adds : Adds str delim slhAlloc keeps post)
    (stops : str.length ≠ 2 ^ 32 - 1 ∨ EndsDelimited delim str.chars)
    (hok : ∀ t, keeps t (words delim str.chars) → post (.ok t.slh t.tokens t.currTokenCount))
    {t : Tokens σ} (h : keeps t []) :
    ∃ outcome, post outcome ∧ ∃ enough, ∀ steps ≥ enough,
      loop (step slhAlloc str delim) steps (.head, ⟨0, 0, 0, t⟩) = some outcome := by
  refine loop_total (Under str delim keeps) post (variant str) ?_ ⟨.inr (.inl rfl), [], h, rfl⟩
  rintro ⟨p, v⟩ under
  obtain ⟨scan, found, hkeeps, hwords⟩ := under
  rcases step_cases slhAlloc scan with ⟨⟨p', v'⟩, hstep, move⟩ | ⟨rfl, hdone⟩ | rfl
  · refine .inl ⟨(p', v'), hstep, ⟨move.scan scan, found, ?_, ?_⟩, move.variant_lt⟩
    · rw [move.array]
      exact hkeeps
    · rw [move.words scan]
      exact hwords
  · refine .inr ⟨_, by rw [step, if_neg (Nat.not_lt_of_le hdone)], hok v.array ?_⟩
    rw [remaining, List.drop_of_length_le hdone, words_nil, List.append_nil] at hwords
    rw [hwords]
    exact hkeeps
  · exact round_found adds stops ⟨scan, found, hkeeps, hwords⟩

end

/-! ## The array -/

/-- The array has what was found, each token in a slot of its own. -/
structure Holds (t : Tokens σ) (found : List Text) : Prop where
  capacity : t.tokens.length = t.resultCapacity
  least : 4 ≤ t.resultCapacity
  count : t.currTokenCount = found.length
  within : found.length ≤ t.resultCapacity
  tokens : t.tokens.take found.length = found.map (some ∘ terminated)

theorem holds_first (slh : σ) : Holds (.first slh) [] :=
  ⟨rfl, Nat.le_refl 4, rfl, Nat.zero_le 4, rfl⟩

variable {t : Tokens σ} {found : List Text}

/-- The array is doubled where it is full, and keeps what it has. -/
theorem grow_cases (slhAlloc : σ → Nat → Option σ) (h : Holds t found)
    (hcount : found.length < 2 ^ 31) :
    (found.length < t.resultCapacity ∧ t.grow slhAlloc = .ok t) ∨
      (t.resultCapacity = found.length ∧ ∃ size, slhAlloc t.slh size = none ∧
        t.grow slhAlloc = .error (.failed t.slh size)) ∨
      (t.resultCapacity = found.length ∧ ∃ size t', slhAlloc t.slh size = some t'.slh ∧
        t.grow slhAlloc = .ok t' ∧ t'.resultCapacity = t.resultCapacity * 2 ∧ Holds t' found) := by
  obtain ⟨hcapacity, hleast, hfound, hwithin, htokens⟩ := h
  by_cases hroom : found.length < t.resultCapacity
  · refine .inl ⟨hroom, if_neg ?_⟩
    rw [hfound]
    exact Nat.not_le_of_lt hroom
  · have hfull : t.resultCapacity = found.length := Nat.le_antisymm (Nat.le_of_not_lt hroom) hwithin
    have hdoubled : t.resultCapacity * 2 % 2 ^ 32 = t.resultCapacity * 2 :=
      Nat.mod_eq_of_lt (by omega)
    have hfit : ¬ t.resultCapacity * 2 < t.resultCapacity := by omega
    right
    rw [Tokens.grow, if_pos (by rw [hfound, hfull])]
    simp only [hdoubled]
    cases hgiven : slhAlloc t.slh (8 * (t.resultCapacity * 2)) with
    | none => exact .inl ⟨hfull, _, hgiven, rfl⟩
    | some slh =>
      refine .inr ⟨hfull, _, ⟨slh, _, t.resultCapacity * 2, t.currTokenCount⟩, hgiven, if_neg hfit, rfl,
        ?_, Nat.le_trans hleast (Nat.le_mul_of_pos_right _ (by decide)), hfound, ?_, ?_⟩
      · have hmore : t.resultCapacity + (t.resultCapacity * 2 - t.resultCapacity) =
            t.resultCapacity * 2 := by omega
        rw [List.length_append, List.length_replicate, hcapacity]
        exact hmore
      · exact Nat.le_trans hwithin (Nat.le_mul_of_pos_right _ (by decide))
      · have hle : found.length ≤ t.tokens.length := hcapacity ▸ hwithin
        exact (List.take_append_of_le_length hle).trans htokens

/-- A token is copied into the first free slot. -/
theorem put_cases (slhAlloc : σ → Nat → Option σ) (h : Holds t found)
    (hroom : found.length < t.resultCapacity) (hcount : found.length < 2 ^ 31) {start length : Nat}
    (hinside : start + length ≤ str.length) (hshort : length < 2 ^ 32 - 1) :
    (∃ size, slhAlloc t.slh size = none ∧
        t.put slhAlloc str start length = .error (.failed t.slh size)) ∨
      ∃ size t', slhAlloc t.slh size = some t'.slh ∧ t.put slhAlloc str start length = .ok t' ∧
        t'.resultCapacity = t.resultCapacity ∧ Holds t' (found ++ [str.slice start length]) := by
  obtain ⟨hcapacity, hleast, hfound, hwithin, htokens⟩ := h
  have hslot : ¬ t.tokens.length ≤ t.currTokenCount := by
    rw [hcapacity, hfound]
    exact Nat.not_le_of_lt hroom
  have hsize : counted length = length + 1 := counted_eq hshort
  rw [Tokens.put, if_neg hslot, hsize]
  cases hgiven : slhAlloc t.slh (length + 1) with
  | none => exact .inl ⟨_, hgiven, rfl⟩
  | some slh =>
    have hfit : ¬ (length + 1 ≤ length ∨ str.length < start + length) := by omega
    have hcounted : counted t.currTokenCount = found.length + 1 := by
      rw [hfound, counted_eq (by omega)]
    right
    refine ⟨_, ⟨slh, _, t.resultCapacity, counted t.currTokenCount⟩, hgiven, if_neg hfit, rfl, ?_,
      hleast, ?_, ?_, ?_⟩
    · exact List.length_set.trans hcapacity
    · rw [List.length_append]
      exact hcounted
    · rw [List.length_append]
      exact hroom
    · have hlt : found.length < t.tokens.length := hcapacity ▸ hroom
      rw [List.length_append, List.length_singleton, List.map_append, ← htokens, hfound,
        List.take_add_one, List.take_set_of_le (Nat.le_refl _), List.getElem?_set_self hlt]
      rfl

theorem found_lt {token : Text} {more : List Text}
    (hwords : words delim str.chars = found ++ token :: more) : found.length < 2 ^ 31 := by
  have hlt := str.length_lt
  have hfew := length_words delim str.chars
  rw [hwords, List.length_append, List.length_cons] at hfew
  omega

theorem adds_holds (str : Str) (delim : Char) (slhAlloc : σ → Nat → Option σ) :
    Adds str delim slhAlloc Holds (Outcome.Right slhAlloc str.chars delim) := by
  intro t found start length more h hpos hinside hshort hwords
  have hcount := found_lt hwords
  have hput : ∀ t', Holds t' found → found.length < t'.resultCapacity →
      match t'.put slhAlloc str start length with
      | .ok t'' => Holds t'' (found ++ [str.slice start length])
      | .error outcome => outcome.Right slhAlloc str.chars delim := by
    intro t' h' hroom
    rcases put_cases slhAlloc h' hroom hcount hinside hshort with
      ⟨size, hrefused, hresult⟩ | ⟨size, t'', hgiven, hresult, hcapacity, hholds⟩
    · rw [hresult]
      exact hrefused
    · rw [hresult]
      exact hholds
  rw [Tokens.add, if_pos hpos]
  rcases grow_cases slhAlloc h hcount with
    ⟨hroom, hresult⟩ | ⟨hfull, size, hrefused, hresult⟩ | ⟨hfull, size, t', hgiven, hresult, hdoubled, h'⟩
  · rw [hresult]
    exact hput t h hroom
  · rw [hresult]
    exact hrefused
  · have hleast := h.least
    rw [hresult]
    exact hput t' h' (by omega)

theorem returns_of_run {slh slh' : σ} {outcome : Outcome σ}
    (hgiven : slhAlloc slh (8 * 4) = some slh')
    (h : ∃ enough, ∀ steps ≥ enough,
      loop (step slhAlloc str delim) steps (.head, ⟨0, 0, 0, .first slh'⟩) = some outcome) :
    Returns slhAlloc str delim slh outcome := by
  obtain ⟨enough, hloop⟩ := h
  refine ⟨enough, fun steps hsteps => ?_⟩
  rw [auxutilTokenizeString, hgiven]
  exact hloop steps hsteps

theorem returns_refused {slh : σ} (hrefused : slhAlloc slh (8 * 4) = none) :
    Returns slhAlloc str delim slh (.failed slh (8 * 4)) :=
  ⟨0, fun steps _ => by rw [auxutilTokenizeString, hrefused]⟩

/-- **Enough for the tokenizer**: the index is not counted on beyond an `unsigned`. -/
theorem tokenizes_of_stops (stops : str.length ≠ 2 ^ 32 - 1 ∨ EndsDelimited delim str.chars) :
    Tokenizes str delim := by
  intro σ slhAlloc slh
  cases hgiven : slhAlloc slh (8 * 4) with
  | none => exact ⟨.failed slh (8 * 4), returns_refused hgiven, hgiven⟩
  | some slh' =>
    have hok : ∀ t : Tokens σ, Holds t (words delim str.chars) →
        (Outcome.ok t.slh t.tokens t.currTokenCount).Right slhAlloc str.chars delim := by
      intro t h
      refine ⟨h.count, ?_⟩
      rw [h.count]
      exact h.tokens
    obtain ⟨outcome, hright, hrun⟩ :=
      run_words (adds_holds str delim slhAlloc) stops hok (holds_first slh')
    exact ⟨outcome, returns_of_run hgiven hrun, hright⟩

/-! ## An index that wraps -/

theorem Move.not_head {v v' : Vars σ} (move : Move str delim (p, v) (p', v')) : p' ≠ .head := by
  cases move <;> exact Place.noConfusion

/-- A token that is measured ends with a character of its own. -/
theorem Measured.before {v : Vars σ} (h : Measured str delim v) (hpos : 0 < v.tokenLength)
    (hi : i + 1 = v.charIdx) : ∃ c, str.chars[i]? = some c ∧ c ≠ delim := by
  have hle := h.le
  have hupTo := h.upTo (.inl hpos)
  obtain ⟨n, hn⟩ := Nat.exists_eq_succ_of_ne_zero (Nat.ne_of_gt hpos)
  obtain ⟨c, hc⟩ := getElem?_of_lt (show i < str.length by omega)
  refine ⟨c, hc, fun heq => h.token ?_⟩
  have hlast : str.chars[v.tokenStartIdx + n]? = some c := by
    rw [show v.tokenStartIdx + n = i by omega]
    exact hc
  rw [hn, slice_succ hlast, heq]
  exact List.mem_append_right _ (List.mem_singleton_self _)

/-- The index is before the end of a text of 2^32 - 1 characters whenever the loop goes on. -/
theorem counted_lt (hlong : str.length = 2 ^ 32 - 1) (hends : ¬ EndsDelimited delim str.chars)
    {v : Vars σ} (h : Scan str delim .found v) : counted v.charIdx < str.length := by
  obtain ⟨measured, hfound⟩ := h
  have hle := measured.le
  by_cases hmore : v.charIdx < str.length
  · obtain ⟨hpos, hdelim⟩ := hfound hmore
    rw [counted_eq (by omega)]
    have hupTo := measured.upTo (.inl hpos)
    obtain ⟨c, hc, hne⟩ := measured.before hpos (i := v.charIdx - 1) (by omega)
    rw [show v.charIdx = v.charIdx - 1 + 1 by omega] at hdelim
    have hnot : v.charIdx - 1 + 2 ≠ str.length :=
      fun hi => hends (endsDelimited_of_getElem? hi hc hne hdelim)
    omega
  · rw [show v.charIdx = 2 ^ 32 - 1 by omega, hlong]
    decide

/-- A heap that gives whatever it is asked for. -/
def gives : Unit → Nat → Option Unit := fun slh _ => some slh

theorem add_gives {t : Tokens Unit} {start length : Nat} {outcome : Outcome Unit}
    (h : t.add gives str start length = .error outcome) : outcome = .fault := by
  have hput : ∀ t' : Tokens Unit, t'.put gives str start length = .error outcome →
      outcome = .fault := by
    intro t' hresult
    rw [Tokens.put] at hresult
    split at hresult
    next => exact (Except.error.inj hresult).symm
    next =>
      simp only [gives] at hresult
      split at hresult
      next => exact (Except.error.inj hresult).symm
      next => cases hresult
  rw [Tokens.add] at h
  split at h
  next =>
    split at h
    next outcome' hgrow =>
      rw [Tokens.grow] at hgrow
      cases h
      split at hgrow
      next =>
        simp only [gives] at hgrow
        split at hgrow
        next => exact (Except.error.inj hgrow).symm
        next => cases hgrow
      next => cases hgrow
    next t' hgrow => exact hput t' h
  next => cases h

/-- Where the index wraps, the loop does not come to an end with tokens. -/
theorem not_tokenizes (hlong : str.length = 2 ^ 32 - 1) (hends : ¬ EndsDelimited delim str.chars) :
    ¬ Tokenizes str delim := by
  intro tokenizes
  obtain ⟨outcome, ⟨enough, hreturns⟩, hright⟩ := tokenizes Unit gives ()
  let inv : Place × Vars Unit → Prop := fun s =>
    Scan str delim s.1 s.2 ∧ (s.1 = .head → s.2.charIdx < str.length)
  have hnext : ∀ s s', inv s → step gives str delim s = .inl s' → inv s' := by
    rintro ⟨p, v⟩ s' ⟨scan, hhead⟩ hstep
    rcases step_cases gives scan with ⟨⟨p', v'⟩, hmoved, move⟩ | ⟨rfl, hdone⟩ | rfl
    · cases hmoved.symm.trans hstep
      exact ⟨move.scan scan, fun hp => absurd hp move.not_head⟩
    · exact absurd (hhead rfl) (Nat.not_lt_of_le hdone)
    · rw [step] at hstep
      split at hstep
      next => cases hstep
      next array hadded =>
        cases hstep
        exact ⟨scan_next scan rfl, fun _ => counted_lt hlong hends scan⟩
  have hexit : ∀ s result, inv s → step gives str delim s = .inr result → result = .fault := by
    rintro ⟨p, v⟩ result ⟨scan, hhead⟩ hstep
    rcases step_cases gives scan with ⟨⟨p', v'⟩, hmoved, move⟩ | ⟨rfl, hdone⟩ | rfl
    · cases hmoved.symm.trans hstep
    · exact absurd (hhead rfl) (Nat.not_lt_of_le hdone)
    · rw [step] at hstep
      split at hstep
      next outcome' hadded =>
        cases hstep
        exact add_gives hadded
      next => cases hstep
  have hstart : inv (.head, ⟨0, 0, 0, .first ()⟩) :=
    ⟨.inr (.inl rfl), fun _ => hlong ▸ (by decide)⟩
  have hfault : outcome = .fault := loop_spec inv (· = .fault) hnext hexit hstart
    (hreturns enough (Nat.le_refl _))
  rw [hfault] at hright
  exact hright

end

/-- **The tokenizer does its work** on every text but one of 2^32 - 1 characters that does not end with
a token and one delimiter. -/
theorem tokenizes_iff (str : Str) (delim : Char) :
    Tokenizes str delim ↔ str.length ≠ 2 ^ 32 - 1 ∨ EndsDelimited delim str.chars := by
  constructor
  · intro tokenizes
    by_contra hnot
    rw [not_or, not_not] at hnot
    exact not_tokenizes hnot.1 hnot.2 tokenizes
  · exact tokenizes_of_stops

/-- The longest text, of blanks. -/
def longBlank : Str where
  chars := List.replicate (2 ^ 32 - 1) ' '
  length_lt := by
    rw [List.length_replicate]
    decide

theorem longBlank_not_tokenized : ¬ Tokenizes longBlank ' ' := by
  refine not_tokenizes List.length_replicate ?_
  rintro ⟨front, c, hc, htext⟩
  have hmem : c ∈ List.replicate (2 ^ 32 - 1) ' ' := by
    change longBlank.chars = front ++ [c, ' '] at htext
    rw [show List.replicate (2 ^ 32 - 1) ' ' = longBlank.chars from rfl, htext]
    exact List.mem_append_right _ List.mem_cons_self
  exact hc (List.eq_of_mem_replicate hmem)

/-! ## The tokenizer over lists -/

section

variable (give : Nat → Bool) {str : Str} {delim : Char} {t : Tokens Nat} {found : List Text}

/-- A heap whose calls are counted. -/
def counting (slh _size : Nat) : Option Nat := if give slh then some (slh + 1) else none

variable {give}

theorem counting_none {slh size : Nat} (h : counting give slh size = none) : give slh = false := by
  rw [counting] at h
  split at h
  next => cases h
  next hnot => exact Bool.eq_false_iff.mpr hnot

theorem counting_some {slh size slh' : Nat} (h : counting give slh size = some slh') :
    give slh = true ∧ slh' = slh + 1 := by
  rw [counting] at h
  split at h
  next hgive => exact ⟨hgive, (Option.some.inj h).symm⟩
  next => cases h

/-- The array, over lists. -/
def Tokens.overLists (t : Tokens Nat) (found : List Text) : Commands.Tokens :=
  ⟨found, t.resultCapacity, t.slh⟩

theorem put_refines (h : Holds t found) (hroom : found.length < t.resultCapacity)
    (hcount : found.length < 2 ^ 31) {start length : Nat} (hinside : start + length ≤ str.length)
    (hshort : length < 2 ^ 32 - 1) :
    match t.put (counting give) str start length with
    | .ok t' => (t.overLists found).push give (str.slice start length) =
        some (t'.overLists (found ++ [str.slice start length]))
    | .error outcome => (∃ slh size, outcome = .failed slh size) ∧
        (t.overLists found).push give (str.slice start length) = none := by
  rcases put_cases (counting give) h hroom hcount hinside hshort with
    ⟨size, hrefused, hresult⟩ | ⟨size, t', hgiven, hresult, hcapacity, hholds⟩
  · rw [hresult]
    exact ⟨⟨t.slh, size, rfl⟩, if_pos (counting_none hrefused)⟩
  · obtain ⟨hgive, hslh⟩ := counting_some hgiven
    rw [hresult]
    simp only [Tokens.overLists, Commands.Tokens.push, hgive, hcapacity, hslh]
    rfl

theorem grow_refines (give : Nat → Bool) (h : Holds t found) (hcount : found.length < 2 ^ 31) :
    match t.grow (counting give) with
    | .ok t' => (t.overLists found).grow give = some (t'.overLists found) ∧ Holds t' found ∧
        found.length < t'.resultCapacity
    | .error outcome => (∃ slh size, outcome = .failed slh size) ∧
        (t.overLists found).grow give = none := by
  rcases grow_cases (counting give) h hcount with
    ⟨hroom, hresult⟩ | ⟨hfull, size, hrefused, hresult⟩ | ⟨hfull, size, t', hgiven, hresult, hdoubled, h'⟩
  · rw [hresult]
    exact ⟨if_neg (Nat.not_le_of_lt hroom), h, hroom⟩
  · rw [hresult]
    exact ⟨⟨t.slh, size, rfl⟩,
      (if_pos (Nat.le_of_eq hfull)).trans (if_pos (counting_none hrefused))⟩
  · obtain ⟨hgive, hslh⟩ := counting_some hgiven
    have hleast := h.least
    rw [hresult]
    refine ⟨?_, h', by omega⟩
    simp only [Tokens.overLists, Commands.Tokens.grow, hgive, hdoubled, hslh]
    exact if_pos (Nat.le_of_eq hfull)

theorem add_refines (give : Nat → Bool) (h : Holds t found) {start length : Nat} (hcount : found.length < 2 ^ 31)
    (hpos : 0 < length) (hinside : start + length ≤ str.length) (hshort : length < 2 ^ 32 - 1) :
    match t.add (counting give) str start length with
    | .ok t' => (t.overLists found).add give (str.slice start length) =
        some (t'.overLists (found ++ [str.slice start length]))
    | .error outcome => (∃ slh size, outcome = .failed slh size) ∧
        (t.overLists found).add give (str.slice start length) = none := by
  have hgrown := grow_refines give h hcount
  rw [Tokens.add, if_pos hpos, Commands.Tokens.add]
  cases hresult : t.grow (counting give) with
  | error outcome =>
    rw [hresult] at hgrown
    refine ⟨hgrown.1, ?_⟩
    rw [hgrown.2]
    rfl
  | ok t' =>
    rw [hresult] at hgrown
    obtain ⟨hlist, h', hroom⟩ := hgrown
    rw [hlist]
    exact put_refines h' hroom hcount hinside hshort

theorem addAll_append (t : Commands.Tokens) (first rest : List Text) :
    t.addAll give (first ++ rest) = (t.addAll give first).bind (·.addAll give rest) := by
  induction first generalizing t with
  | nil => rfl
  | cons token first ih =>
    rw [List.cons_append, Commands.Tokens.addAll, Commands.Tokens.addAll]
    cases t.add give token with
    | none => rfl
    | some t' => exact ih t'

variable (give str delim) in
/-- An outcome is that of the tokenizer over lists. -/
def Outcome.Refines : Outcome Nat → Prop
  | .ok _ result tokenCount => ∃ tokens,
      Commands.auxutilTokenizeString give str.chars delim = some tokens ∧
        result.take tokenCount = tokens.map (some ∘ terminated)
  | .failed _ _ => Commands.auxutilTokenizeString give str.chars delim = none
  | .fault => False

/-- The tokens so far, over lists. -/
structure HoldsListed (give : Nat → Bool) (t : Tokens Nat) (found : List Text) : Prop where
  holds : Holds t found
  listed : (⟨[], 4, 1⟩ : Commands.Tokens).addAll give found = some (t.overLists found)

theorem auxutilTokenizeString_listed (hgive : give 0 = true) :
    Commands.auxutilTokenizeString give str.chars delim =
      ((⟨[], 4, 1⟩ : Commands.Tokens).addAll give (words delim str.chars)).map
        Commands.Tokens.tokens := by
  rw [Commands.auxutilTokenizeString, if_neg (by rw [hgive]; exact Bool.noConfusion),
    Commands.tokenizeFor_eq give delim _ _ _ (Nat.le_refl _)]

theorem adds_listed (hgive : give 0 = true) :
    Adds str delim (counting give) (HoldsListed give) (Outcome.Refines give str delim) := by
  intro t found start length more h hpos hinside hshort hwords
  have hadded := add_refines give h.holds (found_lt hwords) hpos hinside hshort
  have hholds := adds_holds str delim (counting give) t found start length more h.holds hpos hinside
    hshort hwords
  cases hresult : t.add (counting give) str start length with
  | ok t' =>
    rw [hresult] at hadded hholds
    refine ⟨hholds, ?_⟩
    rw [addAll_append, h.listed, Option.bind_some, Commands.Tokens.addAll, hadded]
    rfl
  | error outcome =>
    rw [hresult] at hadded
    obtain ⟨⟨slh, size, rfl⟩, hnone⟩ := hadded
    change Commands.auxutilTokenizeString give str.chars delim = none
    rw [auxutilTokenizeString_listed hgive, hwords, addAll_append, h.listed, Option.bind_some,
      Commands.Tokens.addAll, hnone]
    rfl

/-- The tokenizer comes to what it is over lists. -/
theorem auxutilTokenizeString_refines
    (stops : str.length ≠ 2 ^ 32 - 1 ∨ EndsDelimited delim str.chars) :
    ∃ outcome, Returns (counting give) str delim 0 outcome ∧ outcome.Refines give str delim := by
  by_cases hgive : give 0 = true
  · have hgiven : counting give 0 (8 * 4) = some 1 := if_pos hgive
    have hok : ∀ t : Tokens Nat, HoldsListed give t (words delim str.chars) →
        (Outcome.ok t.slh t.tokens t.currTokenCount).Refines give str delim := by
      intro t h
      refine ⟨words delim str.chars, ?_, ?_⟩
      · rw [auxutilTokenizeString_listed hgive, h.listed]
        rfl
      · rw [h.holds.count]
        exact h.holds.tokens
    obtain ⟨outcome, hrefines, hrun⟩ := run_words (adds_listed hgive) stops hok ⟨holds_first 1, rfl⟩
    exact ⟨outcome, returns_of_run hgiven hrun, hrefines⟩
  · have hrefused : counting give 0 (8 * 4) = none := if_neg hgive
    exact ⟨.failed 0 (8 * 4), returns_refused hrefused, if_pos (Bool.eq_false_iff.mpr hgive)⟩

/-- Two tokens, where storage is given. -/
theorem auxutilTokenizeString_refines_sample :
    ∃ outcome, Returns (counting fun _ => true) ⟨"LOG STC".toList, by decide⟩ ' ' 0 outcome ∧
      outcome.Refines (fun _ => true) ⟨"LOG STC".toList, by decide⟩ ' ' :=
  auxutilTokenizeString_refines (.inl (by decide))

end

end Zss.Zisaux.Tokenizer
