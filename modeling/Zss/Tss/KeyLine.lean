import Mathlib.Data.List.Nodup
import Mathlib.Data.Nat.Find
import Zss.Tss.Parsing

/-!
# Lines of one key

What the parser makes of a line with one key: the key at its positions, and of the text after the
delimiter as much as a buffer holds, filled with blanks. Conversely, a key that the parser finds on
a line stands there before a delimiter.
-/

namespace Zss.Tss

/-! ## Key lines -/

def blanks (n : Nat) : Text := List.replicate n ' '

/-- A key, the blanks before and after it, and its delimiter. -/
def keyText (indent : Nat) (key : Text) (gap : Nat) : Text :=
  blanks indent ++ key ++ (blanks gap ++ tssKeyDelimiter)

/-- A line of one key, and the text after the delimiter. -/
def KeyLine (key value line : Text) : Prop :=
  ∃ indent gap, line = keyText indent key gap ++ value ∧
    ∀ i, occursAt tssKeyDelimiter line i = true → i = indent + key.length + gap

/-- The key stands on the line before a delimiter. -/
def NamesKey (key line : Text) : Prop := ∃ gap, key ++ blanks gap ++ tssKeyDelimiter <:+: line

/-- The text as a field of a width holds it: cut, or filled with blanks. -/
def fieldOf (width : Nat) (text : Text) : Text := (text ++ blanks width).take width

/-- What may be a key of one word. -/
structure IsKey (key : Text) : Prop where
  ne_nil : key ≠ []
  length_le : key.length ≤ tssMaxKeyLength
  no_blank : ' ' ∉ key

/-- What may be a key of several words: no blank is its first or its last character. -/
structure IsKeyPhrase (key : Text) : Prop where
  ne_nil : key ≠ []
  length_le : key.length ≤ tssMaxKeyLength
  head_ne : key.head? ≠ some ' '
  last_ne : key.getLast? ≠ some ' '

theorem IsKey.phrase {key : Text} (h : IsKey key) : IsKeyPhrase key where
  ne_nil := h.ne_nil
  length_le := h.length_le
  head_ne hhead := h.no_blank (List.mem_of_mem_head? hhead)
  last_ne hlast := h.no_blank (List.mem_of_getLast? hlast)

/-! ## Texts -/

variable {i n : Nat} {c : Char} {line str : Text} {found : TssKeyData}

theorem occursAt_iff {pattern text : Text} :
    occursAt pattern text i = true ↔ pattern <+: text.drop i := by
  rw [occursAt, beq_iff_eq, List.prefix_iff_eq_take]
  exact eq_comm

theorem occursAt_append (before pattern after : Text) :
    occursAt pattern (before ++ (pattern ++ after)) before.length = true := by
  rw [occursAt_iff, List.drop_left]
  exact List.prefix_append pattern after

theorem occursAt_length {pattern text : Text} (hne : pattern ≠ [])
    (h : occursAt pattern text i = true) : i + pattern.length ≤ text.length := by
  have hlen := (occursAt_iff.mp h).length_le
  have hpos := List.length_pos_iff.mpr hne
  rw [List.length_drop] at hlen
  omega

/-- Where a pattern occurs its characters are in the text. -/
theorem getElem?_of_occursAt {pattern text : Text} (h : occursAt pattern text i = true) {k : Nat}
    (hk : k < pattern.length) : text[i + k]? = pattern[k]? := by
  obtain ⟨after, hafter⟩ := occursAt_iff.mp h
  rw [← List.getElem?_drop, ← hafter, List.getElem?_append_left hk]

@[simp] theorem length_blanks (n : Nat) : (blanks n).length = n := List.length_replicate

theorem eq_blank_of_mem (h : c ∈ blanks n) : c = ' ' :=
  (List.mem_replicate.mp h).2

theorem length_keyText (indent : Nat) (key : Text) (gap : Nat) :
    (keyText indent key gap).length = indent + key.length + gap + tssKeyDelimiterLen := by
  simp only [keyText, List.length_append, length_blanks]
  rfl

theorem tssKeyDelimiter_ne_nil : tssKeyDelimiter ≠ [] := nofun

/-! ## The common library -/

theorem lastUpTo_eq_some {p : Nat → Bool} :
    lastUpTo p n = some i ↔ p i = true ∧ i ≤ n ∧ ∀ j, i < j → j ≤ n → p j = false := by
  induction n with
  | zero =>
    rw [lastUpTo]
    split
    next h =>
      constructor
      · intro hi
        cases hi
        exact ⟨h, Nat.le_refl 0, fun j hj hj0 => absurd hj0 (by omega)⟩
      · rintro ⟨-, hi, -⟩
        rw [Nat.le_zero.mp hi]
    next h =>
      constructor
      · intro hi
        cases hi
      · rintro ⟨hp, hi, -⟩
        exact absurd (Nat.le_zero.mp hi ▸ hp) h
  | succ n ih =>
    rw [lastUpTo]
    split
    next h =>
      constructor
      · intro hi
        cases hi
        exact ⟨h, Nat.le_refl _, fun j hj hjn => absurd hjn (by omega)⟩
      · rintro ⟨-, hi, hlast⟩
        rcases Nat.eq_or_lt_of_le hi with rfl | hlt
        · rfl
        · rw [hlast _ hlt (Nat.le_refl _)] at h
          cases h
    next h =>
      rw [ih]
      constructor
      · rintro ⟨hp, hi, hlast⟩
        refine ⟨hp, Nat.le_succ_of_le hi, ?_⟩
        intro j hj hjn
        rcases Nat.eq_or_lt_of_le hjn with rfl | hlt
        · exact Bool.eq_false_iff.mpr h
        · exact hlast j hj (Nat.le_of_lt_succ hlt)
      · rintro ⟨hp, hi, hlast⟩
        have hne : i ≠ n + 1 := by
          rintro rfl
          exact h hp
        exact ⟨hp, by omega, fun j hj hjn => hlast j hj (Nat.le_succ_of_le hjn)⟩

/-- The functions that do what is documented do so. -/
theorem Utils.plain_documented : Utils.plain.Documented where
  indexOfString text pattern i hne := by
    have hlen : occursAt pattern text i = true → i < text.length + 1 := by
      intro h
      have := occursAt_length hne h
      omega
    simp only [Utils.plain, List.find?_range_eq_some, List.mem_range, Bool.not_eq_true']
    exact ⟨fun ⟨h, _, hfirst⟩ => ⟨h, hfirst⟩, fun ⟨h, hfirst⟩ => ⟨h, hlen h, hfirst⟩⟩
  lastIndexOfString text pattern i hne := by
    have hlen : ∀ j, occursAt pattern text j = true → j ≤ text.length := by
      intro j h
      have := occursAt_length hne h
      omega
    simp only [Utils.plain, lastUpTo_eq_some]
    constructor
    · rintro ⟨h, _, hlast⟩
      refine ⟨h, fun j hj => ?_⟩
      cases hocc : occursAt pattern text j with
      | false => rfl
      | true => exact hocc.symm.trans (hlast j hj (hlen j hocc))
    · rintro ⟨h, hlast⟩
      exact ⟨h, hlen i h, fun j hj _ => hlast j hj⟩
  padWithSpaces text n hnul := by
    have hall : ∀ c ∈ text, decide (c ≠ nul) = true := by
      intro c hc
      apply decide_eq_true
      rintro rfl
      exact hnul hc
    have htake : (text ++ List.replicate n nul).takeWhile (· ≠ nul) = text := by
      rw [List.takeWhile_append_of_pos hall, List.takeWhile_replicate, if_neg (by simp),
        List.append_nil]
    simp only [Utils.plain, htake, List.length_append, List.length_replicate,
      Nat.add_sub_cancel_left]

/-- A pattern that occurs is found. -/
theorem exists_indexOfString {utils : Utils} (hutils : utils.Documented) {text pattern : Text}
    (hne : pattern ≠ []) (h : occursAt pattern text i = true) :
    ∃ j, utils.indexOfString text pattern = some j := by
  have hexists : ∃ i, occursAt pattern text i = true := ⟨i, h⟩
  refine ⟨Nat.find hexists, (hutils.indexOfString _ _ _ hne).mpr ⟨Nat.find_spec hexists, ?_⟩⟩
  intro j hj
  exact Bool.eq_false_iff.mpr (Nat.find_min hexists hj)

/-- The last occurrence of a pattern is the one that no other follows: a pattern whose first
character it has once does not overlap itself. -/
theorem lastIndexOfString_last {utils : Utils} (hutils : utils.Documented) {cs : Text}
    (hc : c ∉ cs) (before : Text) {after : Text} (hafter : ¬ c :: cs <:+: after) :
    utils.lastIndexOfString (before ++ (c :: cs ++ after)) (c :: cs) = some before.length := by
  refine (hutils.lastIndexOfString _ _ _ (List.cons_ne_nil c cs)).mpr
    ⟨occursAt_append before (c :: cs) after, ?_⟩
  intro j hj
  cases hocc : occursAt (c :: cs) (before ++ (c :: cs ++ after)) j with
  | false => rfl
  | true =>
    obtain ⟨n, rfl⟩ := Nat.exists_eq_add_of_lt hj
    by_cases hn : n < cs.length
    · -- inside the pattern none of its characters begins it
      have hchar := getElem?_of_occursAt (k := 0) hocc (Nat.succ_pos _)
      rw [List.getElem?_append_right (by omega), List.getElem?_append_left (by simp; omega),
        show before.length + n + 1 + 0 - before.length = n + 1 by omega,
        List.getElem?_cons_succ, List.getElem?_cons_zero] at hchar
      exact absurd (List.mem_of_getElem? hchar) hc
    · obtain ⟨m, rfl⟩ := Nat.exists_eq_add_of_le (Nat.le_of_not_lt hn)
      have hthere := occursAt_iff.mp hocc
      rw [Nat.add_assoc, ← List.drop_drop, List.drop_left,
        show cs.length + m + 1 = (c :: cs).length + m by simp; omega, ← List.drop_drop,
        List.drop_left] at hthere
      exact absurd (hthere.isInfix.trans (List.drop_suffix m after).isInfix) hafter

/-! ## The key of a line -/

theorem tssFindNumberOfKeys_one {d : Nat} (hd : occursAt tssKeyDelimiter line d = true)
    (hu : ∀ i, occursAt tssKeyDelimiter line i = true → i = d) : tssFindNumberOfKeys line = 1 := by
  have hlen : d + 3 ≤ line.length := occursAt_length tssKeyDelimiter_ne_nil hd
  have hcongr : ∀ i ∈ List.range (line.length + 1 - tssKeyDelimiterLen),
      occursAt tssKeyDelimiter line i = true ↔ (i == d) = true := by
    intro i _
    constructor
    · intro hi
      exact beq_iff_eq.mpr (hu i hi)
    · intro hi
      rw [beq_iff_eq.mp hi]
      exact hd
  rw [tssFindNumberOfKeys, List.countP_congr hcongr]
  apply List.count_eq_one_of_mem List.nodup_range
  rw [List.mem_range, tssKeyDelimiterLen]
  omega

theorem tssFindEndOfKeyReverse_of (hi : str[i]? ≠ some ' ') :
    ∀ n, (∀ j, i < j → j ≤ i + n → str[j]? = some ' ') →
      tssFindEndOfKeyReverse str (i + n) = some i := by
  intro n hblank
  induction n with
  | zero =>
    cases i with
    | zero => rw [Nat.zero_add, tssFindEndOfKeyReverse, if_pos hi]
    | succ i => rw [Nat.add_zero, tssFindEndOfKeyReverse, if_pos hi]
  | succ n ih =>
    have hlast : ¬ str[i + n + 1]? ≠ some ' ' :=
      not_not_intro (hblank _ (by omega) (by omega))
    rw [show i + (n + 1) = i + n + 1 from rfl, tssFindEndOfKeyReverse, if_neg hlast]
    exact ih fun j hj hjn => hblank j hj (by omega)

theorem findIdx?_blanks (n : Nat) : (blanks n).findIdx? (· ≠ ' ') = none := by
  rw [List.findIdx?_eq_none_iff]
  intro c hc
  simp [eq_blank_of_mem hc]

theorem findIdx?_blanks_append (hc : c ≠ ' ') (n : Nat) (rest : Text) :
    (blanks n ++ c :: rest).findIdx? (· ≠ ' ') = some n := by
  rw [List.findIdx?_append, findIdx?_blanks, List.findIdx?_cons]
  simp [hc]

theorem firstKeyStartPos_of {indent : Nat} {rest : Text} (hc : c ≠ ' ') (hrest : rest ≠ []) :
    firstKeyStartPos (blanks indent ++ c :: rest) = indent := by
  cases indent with
  | zero =>
    rw [firstKeyStartPos, if_pos]
    intro h
    exact hc (Option.some.inj h)
  | succ n =>
    have hhead : ¬ (blanks (n + 1) ++ c :: rest).head? ≠ some ' ' := not_not_intro rfl
    rw [firstKeyStartPos, if_neg hhead,
      List.dropLast_append_of_ne_nil (List.cons_ne_nil c rest),
      List.dropLast_cons_of_ne_nil hrest, findIdx?_blanks_append hc]
    rfl

theorem tssIsLineBlank_append {before after : Text} (hc : c ≠ ' ') :
    tssIsLineBlank (before ++ c :: after) = false := by
  simp [tssIsLineBlank, hc]

section

variable {indent gap : Nat} {key value : Text}

theorem occursAt_keyText :
    occursAt tssKeyDelimiter (keyText indent key gap ++ value) (indent + key.length + gap) =
      true := by
  have h := occursAt_append (blanks indent ++ key ++ blanks gap) tssKeyDelimiter value
  simp only [List.length_append, length_blanks] at h
  simpa only [keyText, List.append_assoc] using h

theorem firstKeyStartPos_keyText (hkey : IsKeyPhrase key) :
    firstKeyStartPos (keyText indent key gap ++ value) = indent := by
  obtain ⟨first, rest, rfl⟩ := List.exists_cons_of_ne_nil hkey.ne_nil
  have hfirst : first ≠ ' ' := by
    rintro rfl
    exact hkey.head_ne rfl
  have hrest : rest ++ (blanks gap ++ tssKeyDelimiter) ++ value ≠ [] := by
    simp [tssKeyDelimiter_ne_nil]
  simpa only [keyText, List.append_assoc, List.cons_append] using
    firstKeyStartPos_of hfirst hrest

theorem tssIsLineBlank_keyText (hkey : IsKeyPhrase key) :
    tssIsLineBlank (keyText indent key gap ++ value) = false := by
  obtain ⟨first, rest, rfl⟩ := List.exists_cons_of_ne_nil hkey.ne_nil
  have hfirst : first ≠ ' ' := by
    rintro rfl
    exact hkey.head_ne rfl
  simp [tssIsLineBlank, keyText, hfirst]

theorem tssFindEndOfKeyReverse_keyText (hkey : IsKeyPhrase key) :
    tssFindEndOfKeyReverse (keyText indent key gap ++ value) (indent + key.length + gap) =
      some (indent + key.length - 1) := by
  have hpos := List.length_pos_iff.mpr hkey.ne_nil
  have hshape : keyText indent key gap ++ value =
      blanks indent ++ key ++ (blanks (gap + 1) ++ ('=' :: ' ' :: value)) := by
    simp [keyText, blanks, tssKeyDelimiter, List.replicate_succ']
  have hend : (keyText indent key gap ++ value)[indent + key.length - 1]? ≠ some ' ' := by
    rw [hshape, List.getElem?_append_left (by simp; omega),
      List.getElem?_append_right (by simp; omega), length_blanks,
      show indent + key.length - 1 - indent = key.length - 1 by omega,
      ← List.getLast?_eq_getElem?]
    exact hkey.last_ne
  have hblank : ∀ j, indent + key.length - 1 < j →
      j ≤ indent + key.length - 1 + (gap + 1) →
      (keyText indent key gap ++ value)[j]? = some ' ' := by
    intro j hj hjn
    rw [hshape, List.getElem?_append_right (by simp; omega),
      List.getElem?_append_left (by simp; omega), blanks, List.getElem?_replicate, if_pos]
    simp
    omega
  have h := tssFindEndOfKeyReverse_of hend (gap + 1) hblank
  rwa [show indent + key.length - 1 + (gap + 1) = indent + key.length + gap by omega] at h

/-- The one key of a line is found at its positions. -/
theorem tssParseLineForKeys_keyText {utils : Utils} (hutils : utils.Documented)
    (hkey : IsKeyPhrase key)
    (hu : ∀ i, occursAt tssKeyDelimiter (keyText indent key gap ++ value) i = true →
      i = indent + key.length + gap) :
    tssParseLineForKeys utils (keyText indent key gap ++ value) =
      some (1, ⟨⟨indent, indent + key.length - 1, indent + key.length + gap, key,
        key.length⟩, .zero⟩) := by
  have hpos := List.length_pos_iff.mpr hkey.ne_nil
  have hindex : utils.indexOfString (keyText indent key gap ++ value) tssKeyDelimiter =
      some (indent + key.length + gap) := by
    refine (hutils.indexOfString _ _ _ tssKeyDelimiter_ne_nil).mpr ⟨occursAt_keyText, ?_⟩
    intro j hj
    cases hocc : occursAt tssKeyDelimiter (keyText indent key gap ++ value) j with
    | false => rfl
    | true => exact absurd (hu j hocc) (Nat.ne_of_lt hj)
  have hlen : ((indent + key.length - 1 : Nat) : Int) - indent + 1 = key.length := by omega
  have hname : ((keyText indent key gap ++ value).drop indent).take key.length = key := by
    simp [keyText, List.append_assoc]
  have hsingle : tssFindSingleKey utils (keyText indent key gap ++ value) =
      some ⟨indent, indent + key.length - 1, indent + key.length + gap, key, key.length⟩ := by
    rw [tssFindSingleKey, hindex]
    simp only [tssFindEndOfKeyReverse_keyText hkey, firstKeyStartPos_keyText hkey, makeKey, hlen,
      Int.toNat_natCast, hname]
    exact if_neg (Int.not_lt.mpr (Int.ofNat_le.mpr hkey.length_le))
  rw [tssParseLineForKeys, tssIsLineBlank_keyText hkey, tssFindNumberOfKeys_one occursAt_keyText hu]
  simp [hsingle]

end

/-- **Key lines parse.** Of a line of one key the parser finds that key and no other, and the value
starts after its delimiter. -/
theorem KeyLine.parse {utils : Utils} (hutils : utils.Documented) {key value line : Text}
    (h : KeyLine key value line) (hkey : IsKeyPhrase key) :
    ∃ found before, tssParseLineForKeys utils line = some (1, ⟨found, .zero⟩) ∧
      found.keyName = key ∧ found.keyLength = key.length ∧ line = before ++ value ∧
      found.delimPos + tssKeyDelimiterLen = before.length := by
  obtain ⟨indent, gap, rfl, hu⟩ := h
  exact ⟨_, _, tssParseLineForKeys_keyText hutils hkey hu, rfl, rfl, rfl,
    (length_keyText indent key gap).symm⟩

theorem KeyLine.goes_on {key value line : Text} (h : KeyLine key value line)
    (hkey : IsKeyPhrase key) (hhead : key.head? ≠ some 'T') : tssIsOutputDone line = false := by
  obtain ⟨indent, gap, rfl, -⟩ := h
  obtain ⟨first, rest, rfl⟩ := List.exists_cons_of_ne_nil hkey.ne_nil
  have hfirst : 'T' ≠ first := by
    rintro rfl
    exact hhead rfl
  cases indent with
  | zero => simp [tssIsOutputDone, tssFunctionEnd, keyText, blanks, List.isPrefixOf, hfirst]
  | succ n =>
    simp [tssIsOutputDone, tssFunctionEnd, keyText, blanks, List.replicate_succ, List.isPrefixOf]

/-- A first line that reports an error ends the output. -/
theorem tssIsErrorDetected_done (h : tssIsErrorDetected line = true) :
    tssIsOutputDone line = true := by
  rw [tssIsErrorDetected] at h
  split at h
  next => cases h
  next => exact (Bool.and_eq_true_iff.mp h).1

theorem tssFindDesiredKey_self {key : Text} (hname : found.keyName = key)
    (hlen : found.keyLength = key.length) : tssFindDesiredKey key ⟨found, .zero⟩ = some 0 :=
  if_pos ⟨hlen, hname⟩

theorem tssFindDesiredKey_other {key other : Text} (hname : found.keyName = key)
    (hne : key ≠ other) (hother : other ≠ []) : tssFindDesiredKey other ⟨found, .zero⟩ = none := by
  have hpos := List.length_pos_iff.mpr hother
  have hfirst : ¬ (found.keyLength = other.length ∧ found.keyName = other) := by
    rintro ⟨-, h⟩
    exact hne (hname.symm.trans h)
  have hsecond :
      ¬ (TssKeyData.zero.keyLength = other.length ∧ TssKeyData.zero.keyName = other) := by
    rintro ⟨h, -⟩
    simp only [TssKeyData.zero] at h
    omega
  rw [tssFindDesiredKey, if_neg hfirst, if_neg hsecond]

/-- Where a delimiter may be on a line is bounded. -/
theorem KeyLine.of_bounded {key value line : Text} (indent gap : Nat)
    (hline : line = keyText indent key gap ++ value)
    (hu : ∀ i < line.length, occursAt tssKeyDelimiter line i = true →
      i = indent + key.length + gap) : KeyLine key value line := by
  refine ⟨indent, gap, hline, fun i hocc => hu i ?_ hocc⟩
  have := occursAt_length tssKeyDelimiter_ne_nil hocc
  have hlen : tssKeyDelimiter.length = 3 := rfl
  omega

/-! ## What a found key says of the line -/

theorem tssFindEndOfKeyReverse_spec (h : tssFindEndOfKeyReverse str n = some i) :
    i ≤ n ∧ str[i]? ≠ some ' ' ∧ ∀ j, i < j → j ≤ n → str[j]? = some ' ' := by
  induction n with
  | zero =>
    rw [tssFindEndOfKeyReverse] at h
    split at h
    next hi =>
      cases h
      exact ⟨Nat.le_refl 0, hi, fun j hj hj0 => absurd hj0 (by omega)⟩
    next => cases h
  | succ n ih =>
    rw [tssFindEndOfKeyReverse] at h
    split at h
    next hi =>
      cases h
      exact ⟨Nat.le_refl _, hi, fun j hj hjn => absurd hjn (by omega)⟩
    next hi =>
      obtain ⟨hle, hne, hblank⟩ := ih h
      refine ⟨Nat.le_succ_of_le hle, hne, ?_⟩
      intro j hj hjn
      rcases Nat.eq_or_lt_of_le hjn with rfl | hlt
      · exact Decidable.not_not.mp hi
      · exact hblank j hj (Nat.le_of_lt_succ hlt)

theorem drop_eq_blanks_append {a : Nat} :
    ∀ n, (∀ j, a ≤ j → j < a + n → str[j]? = some ' ') →
      str.drop a = blanks n ++ str.drop (a + n) := by
  intro n hblank
  induction n with
  | zero => rfl
  | succ n ih =>
    obtain ⟨hlt, hget⟩ := List.getElem?_eq_some_iff.mp (hblank (a + n) (by omega) (by omega))
    rw [ih fun j hj hjn => hblank j hj (by omega), List.drop_eq_getElem_cons hlt, hget]
    simp [blanks, List.replicate_succ', Nat.add_assoc]

theorem makeKey_names {str key : Text} {startPos endPos delimPos : Nat}
    (hocc : occursAt tssKeyDelimiter str delimPos = true)
    (hend : tssFindEndOfKeyReverse str delimPos = some endPos)
    (h : makeKey str startPos endPos delimPos = some found) (hkey : key ≠ [])
    (hlen : found.keyLength = key.length) (hname : found.keyName = key) : NamesKey key str := by
  have hpos := List.length_pos_iff.mpr hkey
  simp only [makeKey] at h
  split at h
  next => cases h
  next =>
    cases h
    obtain ⟨hle, hne, hblank⟩ := tssFindEndOfKeyReverse_spec hend
    obtain ⟨after, hafter⟩ := occursAt_iff.mp hocc
    have hends : startPos + key.length = endPos + 1 := by
      simp only at hlen
      omega
    -- the delimiter begins with a blank, so the key ends before it
    have hlt : endPos ≠ delimPos := by
      rintro rfl
      apply hne
      have := congrArg List.head? hafter
      simpa [tssKeyDelimiter] using this.symm
    have hgap : str.drop (endPos + 1) = blanks (delimPos - (endPos + 1)) ++
        str.drop (endPos + 1 + (delimPos - (endPos + 1))) :=
      drop_eq_blanks_append _ fun j hj hjd => hblank j (by omega) (by omega)
    rw [show endPos + 1 + (delimPos - (endPos + 1)) = delimPos by omega, ← hafter] at hgap
    refine ⟨delimPos - (endPos + 1), str.take startPos, after, ?_⟩
    have htake : ((endPos : Int) - startPos + 1).toNat = key.length := by omega
    simp only [htake] at hname
    have hsplit : (str.drop startPos).drop key.length = str.drop (endPos + 1) := by
      rw [List.drop_drop, hends]
    have hkeysplit : key ++ (str.drop startPos).drop key.length = str.drop startPos := by
      have hsplit := List.take_append_drop key.length (str.drop startPos)
      rwa [hname] at hsplit
    calc str.take startPos ++ (key ++ blanks (delimPos - (endPos + 1)) ++ tssKeyDelimiter) ++ after
        = str.take startPos ++ (key ++
            (blanks (delimPos - (endPos + 1)) ++ (tssKeyDelimiter ++ after))) := by
          simp only [List.append_assoc]
      _ = str.take startPos ++ (key ++ (str.drop startPos).drop key.length) := by
          rw [← hgap, hsplit]
      _ = str.take startPos ++ str.drop startPos := by rw [hkeysplit]
      _ = str := List.take_append_drop startPos str

section

variable {utils : Utils}

theorem tssFindSingleKey_names (hutils : utils.Documented) {str key : Text}
    (h : tssFindSingleKey utils str = some found) (hkey : key ≠ [])
    (hlen : found.keyLength = key.length) (hname : found.keyName = key) : NamesKey key str := by
  rw [tssFindSingleKey] at h
  split at h
  next => cases h
  next delimPos hindex =>
    split at h
    next => cases h
    next endPos hend =>
      have hocc := ((hutils.indexOfString _ _ _ tssKeyDelimiter_ne_nil).mp hindex).1
      exact makeKey_names hocc hend h hkey hlen hname

theorem tssFindDoubleKey_names (hutils : utils.Documented) {str key : Text} {found : TssKeys}
    (h : tssFindDoubleKey utils str = some found) (hkey : key ≠ [])
    (hfound : found.first.keyLength = key.length ∧ found.first.keyName = key ∨
      found.second.keyLength = key.length ∧ found.second.keyName = key) : NamesKey key str := by
  rw [tssFindDoubleKey] at h
  split at h
  next => cases h
  next first hfirst =>
    split at h
    next => cases h
    next delimPos hindex =>
      split at h
      next => cases h
      next endPos hend =>
        split at h
        next => cases h
        next startPos hstart =>
          obtain ⟨second, hsecond, rfl⟩ := Option.map_eq_some_iff.mp h
          have hocc := ((hutils.lastIndexOfString _ _ _ tssKeyDelimiter_ne_nil).mp hindex).1
          rcases hfound with ⟨hlen, hname⟩ | ⟨hlen, hname⟩
          · exact tssFindSingleKey_names hutils hfirst hkey hlen hname
          · exact makeKey_names hocc hend hsecond hkey hlen hname

/-- **Keys are on the line.** A key that the parser finds on a line stands there before a
delimiter. -/
theorem tssFindDesiredKey_names (hutils : utils.Documented) {str key : Text} {keys : TssKeys}
    (hparse : tssParseLineForKeys utils str = some (n, keys)) (hkey : key ≠ [])
    (hfind : tssFindDesiredKey key keys = some i) : NamesKey key str := by
  have hpos := List.length_pos_iff.mpr hkey
  have hzero : (0 : Int) ≠ key.length := by omega
  have hfound : keys.first.keyLength = key.length ∧ keys.first.keyName = key ∨
      keys.second.keyLength = key.length ∧ keys.second.keyName = key := by
    rw [tssFindDesiredKey] at hfind
    split at hfind
    next h => exact .inl h
    next =>
      split at hfind
      next h => exact .inr h
      next => cases hfind
  rw [tssParseLineForKeys] at hparse
  split at hparse
  next =>
    cases hparse
    exact absurd (hfound.elim And.left And.left) hzero
  next =>
    split at hparse
    next =>
      obtain ⟨found, hsingle, h⟩ := Option.map_eq_some_iff.mp hparse
      cases h
      rcases hfound with ⟨hlen, hname⟩ | ⟨hlen, _⟩
      · exact tssFindSingleKey_names hutils hsingle hkey hlen hname
      · exact absurd hlen hzero
    next =>
      obtain ⟨found, hdouble, h⟩ := Option.map_eq_some_iff.mp hparse
      cases h
      exact tssFindDoubleKey_names hutils hdouble hkey hfound
    next => cases hparse

/-! ## Values -/

theorem u32_natCast (h : n < 4294967296) : u32 n = n := by
  simp only [u32]
  omega

/-- A copy that fills the buffer or takes all of a text leaves the text as a field. -/
theorem copyValue_field (hutils : utils.Documented) {str region : Text} {start size n : Nat}
    {valEndPos : Int} (hregion : (str.drop start).take region.length = region)
    (hnul : nul ∉ region) (hval : u32 (valEndPos - start + 1) = n) (hn : n ≤ region.length)
    (hfull : n = size ∨ n = region.length) {value : Text}
    (h : copyValue utils str start valEndPos (zeroBuffer size) = some value) :
    value = fieldOf size region := by
  have hbuffer : (zeroBuffer size).length = size := List.length_replicate
  have hcopied : (str.drop start).take n = region.take n := by
    conv_rhs => rw [← hregion, List.take_take, Nat.min_eq_left hn]
  rw [copyValue, hval] at h
  simp only [hbuffer] at h
  split at h
  next => cases h
  next hle =>
    have hns : n ≤ size := Nat.le_of_not_lt hle
    rw [hcopied, zeroBuffer, List.drop_replicate,
      hutils.padWithSpaces _ _ fun h => hnul (List.mem_of_mem_take h)] at h
    cases h
    rw [fieldOf, List.take_append]
    rcases hfull with rfl | rfl
    · simp [blanks, hn]
    · simp [blanks, hns, List.take_of_length_le]

/-- A value that nothing follows is not found, or is in its buffer as a field. -/
theorem tssFindValueForKey_field (hutils : utils.Documented) {str before region : Text}
    {len size keyIndex : Nat} {keys : TssKeys} (hstr : str.take len = before ++ region)
    (hbefore : (keys.key keyIndex).delimPos + tssKeyDelimiterLen = before.length)
    (hlen : len ≤ str.length) (hshort : str.length < 65536) (hsize : size < 65536)
    (hnul : nul ∉ region) {value : Text}
    (h : tssFindValueForKey utils str len keys keyIndex 1 (zeroBuffer size) = some value) :
    value = fieldOf size region := by
  have hlens : len = before.length + region.length := by
    rw [← List.length_append, ← hstr, List.length_take, Nat.min_eq_left hlen]
  have hregion : (str.drop before.length).take region.length = region := by
    have h := List.drop_take (i := before.length) (j := len) (l := str)
    rw [hstr, List.drop_left, hlens, Nat.add_sub_cancel_left] at h
    exact h.symm
  have hdelim : tssKeyDelimiterLen = 3 := rfl
  have hlast : u32 ((len : Int) - 1) = len - 1 := by
    rw [show (len : Int) - 1 = ((len - 1 : Nat) : Int) by omega]
    exact u32_natCast (by omega)
  have hsigned : i32 (len - 1) = ((len - 1 : Nat) : Int) := if_pos (by omega)
  have hbuffer : (zeroBuffer size).length = size := List.length_replicate
  simp only [tssFindValueForKey, tssFindValueSingleKey, hbefore, hbuffer] at h
  have hsum : u32 ((before.length : Int) + size) = before.length + size := by
    rw [show (before.length : Int) + size = ((before.length + size : Nat) : Int) by omega]
    exact u32_natCast (by omega)
  by_cases hfit : before.length + size ≥ len - 1
  · have hval : u32 (valueEnd len before.length size - before.length + 1) = region.length := by
      rw [valueEnd, hlast, hsum, if_pos hfit, hsigned,
        show ((len - 1 : Nat) : Int) - before.length + 1 = region.length by omega]
      exact u32_natCast (by omega)
    exact copyValue_field hutils hregion hnul hval (Nat.le_refl _) (.inr rfl) h
  · have hpred : i32 (u32 ((before.length : Int) + size - 1)) = before.length + size - 1 := by
      by_cases hzero : before.length + size = 0
      · rw [show (before.length : Int) + size - 1 = -1 by omega]
        decide
      · rw [show (before.length : Int) + size - 1 = ((before.length + size - 1 : Nat) : Int) by
          omega, u32_natCast (by omega), i32, if_pos (by omega)]
    have hval : u32 (valueEnd len before.length size - before.length + 1) = size := by
      rw [valueEnd, hlast, hsum, if_neg hfit, hpred,
        show (before.length : Int) + size - 1 - before.length + 1 = size by omega]
      exact u32_natCast (by omega)
    exact copyValue_field hutils hregion hnul hval (by omega) (.inl rfl) h

end

theorem length_fieldOf (width : Nat) (text : Text) : (fieldOf width text).length = width := by
  simp [fieldOf]

theorem fieldOf_append_blanks {width n : Nat} {text : Text} (h : text.length ≤ width) :
    fieldOf width (text ++ blanks n) = text ++ blanks (width - text.length) := by
  rw [fieldOf, List.append_assoc, List.take_append, List.take_of_length_le h]
  simp only [blanks, List.replicate_append_replicate, List.take_replicate]
  rw [Nat.min_eq_left (by omega)]

theorem fieldOf_blanks (width : Nat) (text : Text) (n : Nat) :
    fieldOf width (text ++ blanks n) = fieldOf width text := by
  simp only [fieldOf, blanks, List.append_assoc, List.replicate_append_replicate, List.take_append,
    List.take_replicate]
  rw [Nat.min_eq_left (Nat.le_trans (Nat.sub_le ..) (Nat.le_add_left ..)),
    Nat.min_eq_left (Nat.sub_le ..)]

theorem fieldOf_append {width : Nat} {text : Text} (h : text.length = width) (rest : Text) :
    fieldOf width (text ++ rest) = text := by
  rw [fieldOf, List.append_assoc, ← h, List.take_left]

/-- Blanks and nulls behind a value do not count. -/
theorem tssGetActualValueLength_append {init tail : Text} {last : Char} (hblank : last ≠ ' ')
    (hnul : last ≠ nul) (htail : ∀ c ∈ tail, c = ' ' ∨ c = nul) :
    tssGetActualValueLength (init ++ [last] ++ tail) = some (init ++ [last]).length := by
  have hdrop : (tail.reverse ++ (last :: init.reverse)).dropWhile (fun c => c = ' ' ∨ c = nul) =
      last :: init.reverse := by
    rw [List.dropWhile_append_of_pos fun c hc => decide_eq_true (htail c (List.mem_reverse.mp hc))]
    exact List.dropWhile_cons_of_neg (by simp [hblank, hnul])
  have hreverse : (init ++ [last] ++ tail).reverse = tail.reverse ++ (last :: init.reverse) := by
    simp
  rw [tssGetActualValueLength, hreverse, hdrop]
  simp

theorem tssGetActualValueLength_append_blanks {init : Text} {last : Char} (hblank : last ≠ ' ')
    (hnul : last ≠ nul) :
    tssGetActualValueLength (init ++ [last] ++ blanks n) = some (init ++ [last]).length :=
  tssGetActualValueLength_append hblank hnul fun _ hc => .inl (eq_blank_of_mem hc)

end Zss.Tss
