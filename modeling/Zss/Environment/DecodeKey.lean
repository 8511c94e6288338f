import Mathlib.Data.List.Basic
import Zss.Lib.Loop

/-!
# Keys of environment variables

A name of an environment variable has no room for most punctuation, so that a key of a setting is
written in it with runs of underscores and with hexadecimal escapes. `decodeEnvKey` of
`envService.c` reads such a name back in one loop that steps its index forward and, after four
underscores, back. `decoded` is what the name stands for, read from the left; the loop ends and
comes to it (`loop_decodeRound`), and a key written with escapes for its special characters is read
back (`decoded_of_escapedAs`).

A string is the list of its characters, its end is the end of the list.

## What is not established

That every name is a key written so: one that is not is decoded, too, to what `decoded` has it stand
for.
-/

namespace Zss.Environment

open Zss.Lib

/-- `'\0'`, which is also what `decodedChar` is when there is none. -/
def nul : Char := Char.ofNat 0

/-! ## The loop -/

/-- `checkValidHex`, -1 for what is no digit. -/
def checkValidHex (h : Char) : Int :=
  if '0' ≤ h ∧ h ≤ '9' then h.toNat - '0'.toNat
  else if 'a' ≤ h ∧ h ≤ 'f' then h.toNat - 'a'.toNat + 10
  else if 'A' ≤ h ∧ h ≤ 'F' then h.toNat - 'A'.toNat + 10
  else -1

section

variable (a2e : Char → Char)

/-- `convertHexToChar`. The digits give a character of ASCII, `a2e` the one of the machine. -/
def convertHexToChar (h1 h2 : Char) : Char :=
  let hexCheck1 := checkValidHex h1
  let hexCheck2 := checkValidHex h2
  if hexCheck1 ≠ -1 ∧ hexCheck2 ≠ -1 then
    a2e (Char.ofNat (hexCheck1.toNat <<< 4 ||| hexCheck2.toNat))
  else nul

/-- `MAX_ENCODED_UNDER_SCORE_COUNT`. -/
def maxEncodedUnderScoreCount : Nat := 4

/-- The loop's variables; `j` is the length of `decodedKey`. `decodedChar` and `skipPrint` are 0
whenever a round starts. -/
structure DecodeState where
  i : Nat
  count : Nat
  decodedKey : List Char

/-- The character that the underscore at `i` begins the escape of. -/
def escapeAt (encodedKey : List Char) (i : Nat) : Char :=
  match encodedKey[i + 1]?, encodedKey[i + 2]?, encodedKey[i + 3]? with
  | some x, some h1, some h2 => if x = 'x' then convertHexToChar a2e h1 h2 else nul
  | _, _, _ => nul

/-- `switch (count)`. -/
def printCount : Nat → List Char
  | 1 => ['_']
  | 2 => ['_']
  | 3 => ['-']
  | 4 => ['.']
  | _ => []

/-- One round of the loop, or its end with the text in `decodedKey`. -/
def decodeRound (encodedKey : List Char) (s : DecodeState) : DecodeState ⊕ List Char :=
  match encodedKey[s.i]? with
  | none => .inr s.decodedKey
  | some c =>
    let decodedChar := if c = '_' then escapeAt a2e encodedKey s.i else nul
    if c = '_' ∧ decodedChar = nul ∧ s.count < maxEncodedUnderScoreCount then
      if s.i + 1 < encodedKey.length then .inl { s with i := s.i + 1, count := s.count + 1 }
      -- `skipPrint`: the last underscore is in the count already
      else .inl ⟨s.i + 1, 0, s.decodedKey ++ printCount (s.count + 1)⟩
    else if decodedChar ≠ nul then
      .inl ⟨s.i + 4, 0, s.decodedKey ++ printCount s.count ++ [decodedChar]⟩
    -- `i--`: the fifth underscore in a row is met again with a count of 0
    else if c = '_' ∧ s.count = maxEncodedUnderScoreCount then
      .inl ⟨s.i, 0, s.decodedKey ++ printCount s.count⟩
    else .inl ⟨s.i + 1, 0, s.decodedKey ++ printCount s.count ++ [c]⟩

/-- `decodeEnvKey` with so many rounds at most: what it writes, the end of the string included. -/
def decodeEnvKey (rounds : Nat) (encodedKey : List Char) : Option (List Char) :=
  (loop (decodeRound a2e encodedKey) rounds ⟨0, 0, []⟩).map (· ++ [nul])

/-! ## What a name stands for -/

/-- The value of a hexadecimal digit. -/
def hexValue (h : Char) : Option Nat :=
  if '0' ≤ h ∧ h ≤ '9' then some (h.toNat - '0'.toNat)
  else if 'a' ≤ h ∧ h ≤ 'f' then some (h.toNat - 'a'.toNat + 10)
  else if 'A' ≤ h ∧ h ≤ 'F' then some (h.toNat - 'A'.toNat + 10)
  else none

/-- The non-zero character that two hexadecimal digits stand for. -/
def hexCharacter (h1 h2 : Char) : Option Char := do
  let high ← hexValue h1
  let low ← hexValue h2
  let c := a2e (Char.ofNat (16 * high + low))
  if c = nul then none else some c

/-- The character whose escape the text begins with. -/
def leadingEscape : List Char → Option Char
  | c :: x :: h1 :: h2 :: _ => if c = '_' ∧ x = 'x' then hexCharacter a2e h1 h2 else none
  | _ => none

/-- The underscores in a row, at the text's beginning, that begin no escape. -/
def leadingRun : List Char → Nat
  | [] => 0
  | c :: t => if c = '_' ∧ leadingEscape a2e (c :: t) = none then leadingRun t + 1 else 0

/-- What a group of one to four underscores stands for. -/
def groupCharacter (n : Nat) : Char := if n ≤ 2 then '_' else if n = 3 then '-' else '.'

/-- What a name stands for, read from the left. -/
def decoded (text : List Char) : List Char :=
  match text with
  | [] => []
  | c :: rest =>
    match leadingEscape a2e (c :: rest) with
    | some d => d :: decoded (rest.drop 3)
    | none =>
      if c = '_' then
        groupCharacter (min 4 (leadingRun a2e (c :: rest))) ::
          decoded (rest.drop (min 4 (leadingRun a2e (c :: rest)) - 1))
      else c :: decoded rest
termination_by text.length
decreasing_by all_goals simp only [List.length_cons, List.length_drop]; omega

/-- The text is the key with an escape for each underscore, and for any other characters. -/
inductive EscapedAs : List Char → List Char → Prop
  | nil : EscapedAs [] []
  | plain {key text : List Char} (c : Char) (special : c ≠ '_') (rest : EscapedAs key text) :
      EscapedAs (c :: key) (c :: text)
  | escape {key text : List Char} (c h1 h2 : Char) (digits : hexCharacter a2e h1 h2 = some c)
      (rest : EscapedAs key text) : EscapedAs (c :: key) ('_' :: 'x' :: h1 :: h2 :: text)

end

/-! ## The rules of the reading -/

theorem checkValidHex_eq (h : Char) :
    checkValidHex h = match hexValue h with
      | some d => (d : Int)
      | none => -1 := by
  unfold checkValidHex hexValue
  split
  next digit =>
    have hle : '0'.toNat ≤ h.toNat := digit.1
    simp only []
    omega
  split
  next digit =>
    have hle : 'a'.toNat ≤ h.toNat := digit.1
    simp only []
    omega
  split
  next digit =>
    have hle : 'A'.toNat ≤ h.toNat := digit.1
    simp only []
    omega
  next => rfl

theorem hexValue_lt {h : Char} {d : Nat} (hd : hexValue h = some d) : d < 16 := by
  unfold hexValue at hd
  split at hd
  next digit =>
    have hle : h.toNat ≤ '9'.toNat := digit.2
    have heq := Option.some.inj hd
    have h9 : '9'.toNat = 57 := rfl
    have h0 : '0'.toNat = 48 := rfl
    omega
  split at hd
  next digit =>
    have hle : h.toNat ≤ 'f'.toNat := digit.2
    have heq := Option.some.inj hd
    have hf : 'f'.toNat = 102 := rfl
    have ha : 'a'.toNat = 97 := rfl
    omega
  split at hd
  next digit =>
    have hle : h.toNat ≤ 'F'.toNat := digit.2
    have heq := Option.some.inj hd
    have hf : 'F'.toNat = 70 := rfl
    have ha : 'A'.toNat = 65 := rfl
    omega
  next => cases hd

theorem convertHexToChar_eq (a2e : Char → Char) (h1 h2 : Char) :
    convertHexToChar a2e h1 h2 = (hexCharacter a2e h1 h2).getD nul := by
  unfold convertHexToChar hexCharacter
  rw [checkValidHex_eq, checkValidHex_eq]
  cases hhigh : hexValue h1 with
  | none => rfl
  | some high =>
    cases hlow : hexValue h2 with
    | none => exact if_neg fun h => h.2 rfl
    | some low =>
      have hor : high <<< 4 ||| low = 16 * high + low := by
        rw [← Nat.shiftLeft_add_eq_or_of_lt (hexValue_lt hlow), Nat.shiftLeft_eq, Nat.mul_comm]
      have hdigits : (high : Int) ≠ -1 ∧ (low : Int) ≠ -1 := by omega
      dsimp only [Option.bind_eq_bind, Option.bind_some]
      rw [if_pos hdigits, Int.toNat_natCast, Int.toNat_natCast, hor]
      split
      next hnul => exact hnul
      next => rfl

theorem ne_nul_of_hexCharacter {a2e : Char → Char} {h1 h2 c : Char}
    (h : hexCharacter a2e h1 h2 = some c) : c ≠ nul := by
  unfold hexCharacter at h
  obtain ⟨high, -, h⟩ := Option.bind_eq_some_iff.mp h
  obtain ⟨low, -, h⟩ := Option.bind_eq_some_iff.mp h
  dsimp only at h
  split at h
  next => cases h
  next hc =>
    cases h
    exact hc

section

variable {a2e : Char → Char}

theorem leadingEscape_of_ne {c : Char} (h : c ≠ '_') (t : List Char) :
    leadingEscape a2e (c :: t) = none := by
  unfold leadingEscape
  split
  next heq => exact if_neg fun hc => h ((List.cons.inj heq).1.trans hc.1)
  next => rfl

theorem ne_nul_of_leadingEscape {text : List Char} {d : Char}
    (h : leadingEscape a2e text = some d) : d ≠ nul := by
  unfold leadingEscape at h
  split at h
  next =>
    split at h
    next => exact ne_nul_of_hexCharacter h
    next => cases h
  next => cases h

theorem leadingEscape_x (h1 h2 : Char) (t : List Char) :
    leadingEscape a2e ('_' :: 'x' :: h1 :: h2 :: t) = hexCharacter a2e h1 h2 := by
  rw [leadingEscape, if_pos ⟨rfl, rfl⟩]

theorem decoded_cons (c : Char) (t : List Char) :
    decoded a2e (c :: t) =
      match leadingEscape a2e (c :: t) with
      | some d => d :: decoded a2e (t.drop 3)
      | none =>
        if c = '_' then
          groupCharacter (min 4 (leadingRun a2e (c :: t))) ::
            decoded a2e (t.drop (min 4 (leadingRun a2e (c :: t)) - 1))
        else c :: decoded a2e t := by
  rw [decoded]

theorem decoded_escape {c d : Char} {t : List Char} (h : leadingEscape a2e (c :: t) = some d) :
    decoded a2e (c :: t) = d :: decoded a2e (t.drop 3) := by
  rw [decoded_cons, h]

theorem decoded_underscore {t : List Char} (h : leadingEscape a2e ('_' :: t) = none) :
    decoded a2e ('_' :: t) =
      groupCharacter (min 4 (leadingRun a2e ('_' :: t))) ::
        decoded a2e (t.drop (min 4 (leadingRun a2e ('_' :: t)) - 1)) := by
  rw [decoded_cons, h]
  exact if_pos rfl

theorem decoded_plain {c : Char} (h : c ≠ '_') (t : List Char) :
    decoded a2e (c :: t) = c :: decoded a2e t := by
  rw [decoded_cons, leadingEscape_of_ne h]
  exact if_neg h

theorem leadingRun_cons (c : Char) (t : List Char) :
    leadingRun a2e (c :: t) =
      if c = '_' ∧ leadingEscape a2e (c :: t) = none then leadingRun a2e t + 1 else 0 := rfl

theorem leadingRun_underscore {t : List Char} (h : leadingEscape a2e ('_' :: t) = none) :
    leadingRun a2e ('_' :: t) = leadingRun a2e t + 1 := by
  rw [leadingRun_cons, if_pos ⟨rfl, h⟩]

theorem leadingRun_plain {c : Char} (h : c ≠ '_') (t : List Char) : leadingRun a2e (c :: t) = 0 := by
  rw [leadingRun_cons, if_neg fun hc => h hc.1]

theorem leadingRun_escape {c d : Char} {t : List Char} (h : leadingEscape a2e (c :: t) = some d) :
    leadingRun a2e (c :: t) = 0 := by
  rw [leadingRun_cons, if_neg fun hc => Option.some_ne_none d (h.symm.trans hc.2)]

theorem length_decoded_le (text : List Char) : (decoded a2e text).length ≤ text.length := by
  induction text using decoded.induct a2e with
  | case1 => simp [decoded]
  | case2 c rest d h ih =>
    rw [decoded_escape h, List.length_cons, List.length_cons]
    have hdrop : (rest.drop 3).length ≤ rest.length := by simp
    omega
  | case3 rest h ih =>
    rw [decoded_underscore h, List.length_cons, List.length_cons]
    have hdrop : (rest.drop (min 4 (leadingRun a2e ('_' :: rest)) - 1)).length ≤ rest.length := by simp
    omega
  | case4 c rest h hc ih =>
    rw [decoded_plain hc, List.length_cons, List.length_cons]
    omega

theorem groupCharacter_ne_nul (n : Nat) : groupCharacter n ≠ nul := by
  rw [groupCharacter]
  split
  next => decide
  next => split <;> decide

/-- A name without the end of a string stands for a text without it. -/
theorem nul_not_mem_decoded {text : List Char} (h : nul ∉ text) : nul ∉ decoded a2e text := by
  induction text using decoded.induct a2e with
  | case1 =>
    rw [decoded]
    exact List.not_mem_nil
  | case2 c rest d hd ih =>
    rw [decoded_escape hd, List.mem_cons, not_or]
    refine ⟨(ne_nul_of_leadingEscape hd).symm, ih fun hmem => h ?_⟩
    exact List.mem_cons_of_mem _ (List.mem_of_mem_drop hmem)
  | case3 rest hd ih =>
    rw [decoded_underscore hd, List.mem_cons, not_or]
    refine ⟨(groupCharacter_ne_nul _).symm, ih fun hmem => h ?_⟩
    exact List.mem_cons_of_mem _ (List.mem_of_mem_drop hmem)
  | case4 c rest hd hc ih =>
    rw [List.mem_cons, not_or] at h
    rw [decoded_plain hc, List.mem_cons, not_or]
    exact ⟨h.1, ih h.2⟩

/-- A key whose special characters, with the underscore among them, are written as escapes is what
its text stands for. -/
theorem decoded_of_escapedAs {key text : List Char} (h : EscapedAs a2e key text) :
    decoded a2e text = key := by
  induction h with
  | nil => rw [decoded]
  | plain c special rest ih => rw [decoded_plain special, ih]
  | escape c h1 h2 digits rest ih =>
    rw [decoded_escape ((leadingEscape_x h1 h2 _).trans digits), List.drop_succ_cons,
      List.drop_succ_cons, List.drop_succ_cons, List.drop_zero, ih]

/-! ## The loop reads from the left -/

/-- What a text stands for behind underscores that were counted and not yet printed. -/
def resumed (a2e : Char → Char) (count : Nat) (text : List Char) : List Char :=
  if count = 0 then decoded a2e text
  else groupCharacter (min 4 (count + leadingRun a2e text)) ::
    decoded a2e (text.drop (min 4 (count + leadingRun a2e text) - count))

@[simp]
theorem resumed_zero (text : List Char) : resumed a2e 0 text = decoded a2e text := if_pos rfl

/-- The count is printed, and nothing more of the run is there to be counted. -/
theorem resumed_of_run {count : Nat} (hcount : count ≤ 4) {text : List Char}
    (h : leadingRun a2e text = 0 ∨ count = 4) :
    resumed a2e count text = printCount count ++ decoded a2e text := by
  have hmin : 0 < count → min 4 (count + leadingRun a2e text) = count := by omega
  rw [resumed]
  match count, hcount with
  | 0, _ => exact if_pos rfl
  | 1, _ | 2, _ | 3, _ | 4, _ =>
    rw [if_neg (by decide), hmin (by decide), Nat.sub_self, List.drop_zero]
    rfl

/-- An underscore that begins no escape is counted. -/
theorem resumed_underscore {count : Nat} (hcount : count < 4) {t : List Char}
    (h : leadingEscape a2e ('_' :: t) = none) :
    resumed a2e count ('_' :: t) = resumed a2e (count + 1) t := by
  have hrun := leadingRun_underscore h
  rw [resumed, resumed, if_neg (Nat.succ_ne_zero count), hrun,
    show count + (leadingRun a2e t + 1) = count + 1 + leadingRun a2e t by omega]
  split
  next hzero =>
    subst hzero
    rw [decoded_underscore h, hrun, Nat.zero_add, Nat.add_comm]
  next =>
    congr 2
    obtain ⟨k, hk⟩ : ∃ k, min 4 (count + 1 + leadingRun a2e t) - count = k + 1 :=
      ⟨min 4 (count + 1 + leadingRun a2e t) - count - 1, by omega⟩
    rw [hk, List.drop_succ_cons]
    congr 1
    omega

/-- At the underscore the round asks for the escape that the rest of the text begins with. -/
theorem escapeAt_eq {encodedKey t : List Char} {i : Nat} (h : encodedKey.drop i = '_' :: t) :
    escapeAt a2e encodedKey i = (leadingEscape a2e ('_' :: t)).getD nul := by
  have hget (k : Nat) : encodedKey[i + (k + 1)]? = t[k]? := by
    rw [← List.getElem?_drop, h, List.getElem?_cons_succ]
  rw [escapeAt, hget 0, hget 1, hget 2]
  match t with
  | [] => rfl
  | [_] => rfl
  | [_, _] => rfl
  | x :: h1 :: h2 :: rest =>
    dsimp only [List.getElem?_cons_zero, List.getElem?_cons_succ]
    split
    next hx =>
      subst hx
      rw [leadingEscape_x]
      exact convertHexToChar_eq a2e h1 h2
    next hx =>
      rw [leadingEscape, if_neg fun hc => hx hc.2]
      rfl

/-- A round leaves a state that is nearer to the end of the text and stands for the same. -/
structure Advances (a2e : Char → Char) (encodedKey : List Char) (s s' : DecodeState) : Prop where
  count_le : s'.count ≤ 4
  more : 0 < s'.count → encodedKey.drop s'.i ≠ []
  nearer : 5 * (encodedKey.drop s'.i).length + s'.count <
    5 * (encodedKey.drop s.i).length + s.count
  same : s'.decodedKey ++ resumed a2e s'.count (encodedKey.drop s'.i) =
    s.decodedKey ++ resumed a2e s.count (encodedKey.drop s.i)

section Rounds

variable {encodedKey t : List Char} {s : DecodeState}

theorem drop_succ_of_drop {c : Char} {i : Nat} (htext : encodedKey.drop i = c :: t) (k : Nat) :
    encodedKey.drop (i + (k + 1)) = t.drop k := by
  rw [← List.drop_drop, htext, List.drop_succ_cons]

theorem getElem?_of_drop {c : Char} {i : Nat} (htext : encodedKey.drop i = c :: t) :
    encodedKey[i]? = some c := by
  rw [← Nat.add_zero i, ← List.getElem?_drop, htext]
  rfl

/-- The count is printed, and what is read after it is written. -/
theorem Advances.printed (hcount : s.count ≤ 4)
    (hrun : leadingRun a2e (encodedKey.drop s.i) = 0 ∨ s.count = 4) {i : Nat} {written : List Char}
    (hnearer : 5 * (encodedKey.drop i).length < 5 * (encodedKey.drop s.i).length + s.count)
    (hwritten : written ++ decoded a2e (encodedKey.drop i) = decoded a2e (encodedKey.drop s.i)) :
    Advances a2e encodedKey s ⟨i, 0, s.decodedKey ++ printCount s.count ++ written⟩ where
  count_le := Nat.zero_le 4
  more h := absurd h (Nat.lt_irrefl 0)
  nearer := hnearer
  same := by
    dsimp only
    rw [resumed_zero, resumed_of_run hcount hrun, ← hwritten, List.append_assoc, List.append_assoc]

/-- An escape is written as its character. -/
theorem decodeRound_escape {d : Char} (htext : encodedKey.drop s.i = '_' :: t)
    (hcount : s.count ≤ 4) (hescape : leadingEscape a2e ('_' :: t) = some d) :
    ∃ s', decodeRound a2e encodedKey s = .inl s' ∧ Advances a2e encodedKey s s' := by
  have hd := ne_nul_of_leadingEscape hescape
  have hdrop := drop_succ_of_drop htext 3
  rw [decodeRound, getElem?_of_drop htext]
  dsimp only
  rw [if_pos rfl, escapeAt_eq htext, hescape, Option.getD_some, if_neg fun h => hd h.2.1, if_pos hd]
  refine ⟨_, rfl, .printed hcount ?_ ?_ ?_⟩
  · rw [htext]
    exact .inl (leadingRun_escape hescape)
  · rw [hdrop, htext, List.length_drop, List.length_cons]
    omega
  · rw [hdrop, htext, decoded_escape hescape]
    rfl

/-- An underscore that begins no escape is counted while there is room; the last one of the text is
printed with the count. -/
theorem decodeRound_underscore (htext : encodedKey.drop s.i = '_' :: t) (hroom : s.count < 4)
    (hescape : leadingEscape a2e ('_' :: t) = none) :
    ∃ s', decodeRound a2e encodedKey s = .inl s' ∧ Advances a2e encodedKey s s' := by
  have hdrop : encodedKey.drop (s.i + 1) = t := drop_succ_of_drop htext 0
  rw [decodeRound, getElem?_of_drop htext]
  dsimp only
  rw [if_pos rfl, escapeAt_eq htext, hescape, Option.getD_none, if_pos ⟨rfl, rfl, hroom⟩]
  split
  next hmore =>
    refine ⟨_, rfl, hroom, fun _ => ?_, ?_, ?_⟩
    · rw [Ne, List.drop_eq_nil_iff]
      exact Nat.not_le_of_lt hmore
    · dsimp only
      rw [hdrop, htext, List.length_cons]
      omega
    · dsimp only
      rw [hdrop, htext, resumed_underscore hroom hescape]
  next hlast =>
    have hnil : t = [] := by
      rw [← hdrop, List.drop_eq_nil_iff]
      omega
    subst hnil
    refine ⟨_, rfl, Nat.zero_le 4, fun h => absurd h (Nat.lt_irrefl 0), ?_, ?_⟩
    · dsimp only
      rw [hdrop, htext, List.length_singleton, List.length_nil]
      omega
    · dsimp only
      rw [hdrop, htext, resumed_zero, resumed_underscore hroom hescape,
        resumed_of_run (Nat.succ_le_of_lt hroom) (.inl rfl), List.append_assoc]

/-- A fifth underscore in a row has the four before it printed. -/
theorem decodeRound_full (htext : encodedKey.drop s.i = '_' :: t) (hfull : s.count = 4)
    (hescape : leadingEscape a2e ('_' :: t) = none) :
    ∃ s', decodeRound a2e encodedKey s = .inl s' ∧ Advances a2e encodedKey s s' := by
  have hroom : ¬ s.count < 4 := hfull ▸ Nat.lt_irrefl 4
  rw [decodeRound, getElem?_of_drop htext]
  dsimp only
  rw [if_pos rfl, escapeAt_eq htext, hescape, Option.getD_none, if_neg fun h => hroom h.2.2,
    if_neg fun h => h rfl, if_pos ⟨rfl, hfull⟩, ← List.append_nil (s.decodedKey ++ _)]
  exact ⟨_, rfl, .printed (Nat.le_of_eq hfull) (.inr hfull) (by omega) rfl⟩

/-- Any other character is written as it is. -/
theorem decodeRound_plain {c : Char} (htext : encodedKey.drop s.i = c :: t) (hcount : s.count ≤ 4)
    (hc : c ≠ '_') :
    ∃ s', decodeRound a2e encodedKey s = .inl s' ∧ Advances a2e encodedKey s s' := by
  have hdrop : encodedKey.drop (s.i + 1) = t := drop_succ_of_drop htext 0
  rw [decodeRound, getElem?_of_drop htext]
  dsimp only
  rw [if_neg hc, if_neg fun h => hc h.1, if_neg fun h => h rfl, if_neg fun h => hc h.1]
  refine ⟨_, rfl, .printed hcount ?_ ?_ ?_⟩
  · rw [htext]
    exact .inl (leadingRun_plain hc t)
  · rw [hdrop, htext, List.length_cons]
    omega
  · rw [hdrop, htext, decoded_plain hc]
    rfl

/-- What a round does to a state in which the text from `i` on is still to be read. -/
theorem decodeRound_cons {c : Char} (htext : encodedKey.drop s.i = c :: t) (hcount : s.count ≤ 4) :
    ∃ s', decodeRound a2e encodedKey s = .inl s' ∧ Advances a2e encodedKey s s' := by
  by_cases hc : c = '_'
  · subst hc
    cases hescape : leadingEscape a2e ('_' :: t) with
    | some d => exact decodeRound_escape htext hcount hescape
    | none =>
      by_cases hroom : s.count < 4
      · exact decodeRound_underscore htext hroom hescape
      · exact decodeRound_full htext (by omega) hescape
  · exact decodeRound_plain htext hcount hc

end Rounds

/-- The loop comes to an end, with what it wrote and what the rest of the text stands for. -/
theorem loop_decodeRound {encodedKey : List Char} (rounds : Nat) {s : DecodeState}
    (hcount : s.count ≤ 4) (hmore : 0 < s.count → encodedKey.drop s.i ≠ [])
    (hrounds : 5 * (encodedKey.drop s.i).length + s.count < rounds) :
    loop (decodeRound a2e encodedKey) rounds s =
      some (s.decodedKey ++ resumed a2e s.count (encodedKey.drop s.i)) := by
  induction rounds generalizing s with
  | zero => exact absurd hrounds (Nat.not_lt_zero _)
  | succ rounds ih =>
    rw [loop]
    cases htext : encodedKey.drop s.i with
    | nil =>
      have hzero : s.count = 0 := Nat.eq_zero_of_not_pos fun h => hmore h htext
      have hget : encodedKey[s.i]? = none :=
        List.getElem?_eq_none (List.drop_eq_nil_iff.mp htext)
      rw [decodeRound, hget, hzero, resumed_zero, decoded, List.append_nil]
    | cons c t =>
      obtain ⟨s', hround, advances⟩ := decodeRound_cons htext hcount
      rw [hround, ← htext, ← advances.same]
      have hnearer := advances.nearer
      exact ih advances.count_le advances.more (by omega)

end

/-- The loop comes to an end with what the name stands for. -/
theorem decodeEnvKey_of_rounds (a2e : Char → Char) {encodedKey : List Char} {rounds : Nat}
    (hrounds : 5 * encodedKey.length < rounds) :
    decodeEnvKey a2e rounds encodedKey = some (decoded a2e encodedKey ++ [nul]) := by
  rw [decodeEnvKey, loop_decodeRound rounds (Nat.zero_le 4) (fun h => absurd h (Nat.lt_irrefl 0))]
  · rfl
  · exact hrounds

/-- What a name stands for is what the loop writes. -/
theorem decoded_of_decodeEnvKey {a2e : Char → Char} {encodedKey decodedKey : List Char}
    (h : decodeEnvKey a2e (5 * encodedKey.length + 1) encodedKey = some (decodedKey ++ [nul])) :
    decoded a2e encodedKey = decodedKey := by
  rw [decodeEnvKey_of_rounds a2e (Nat.lt_succ_self _)] at h
  exact List.append_cancel_right (Option.some.inj h)

theorem decodeEnvKey_eq (a2e : Char → Char) (encodedKey : List Char) :
    ∃ enough, ∀ rounds ≥ enough,
      decodeEnvKey a2e rounds encodedKey = some (decoded a2e encodedKey ++ [nul]) :=
  ⟨5 * encodedKey.length + 1, fun _ hrounds => decodeEnvKey_of_rounds a2e hrounds⟩

/-- `decodeEnvKey` comes to an end for every name, writes no more than its length and the end of the
string, and what it writes is what the name stands for: the key itself, if the name is the key with
escapes for its special characters. -/
theorem decodeEnvKey_reads (a2e : Char → Char) (encodedKey : List Char) :
    ∃ decodedKey : List Char,
      (∃ enough, ∀ rounds ≥ enough,
        decodeEnvKey a2e rounds encodedKey = some (decodedKey ++ [nul])) ∧
      (decodedKey ++ [nul]).length ≤ encodedKey.length + 1 ∧
      decodedKey = decoded a2e encodedKey ∧
      ∀ key, EscapedAs a2e key encodedKey → decodedKey = key := by
  refine ⟨decoded a2e encodedKey, decodeEnvKey_eq a2e encodedKey, ?_, rfl, ?_⟩
  · rw [List.length_append, List.length_singleton]
    exact Nat.succ_le_succ (length_decoded_le encodedKey)
  · intro key h
    exact decoded_of_escapedAs h

example : decodeEnvKey id 60 "a_____x2fb__".toList = some ("a./b_".toList ++ [nul]) := by decide

end Zss.Environment
