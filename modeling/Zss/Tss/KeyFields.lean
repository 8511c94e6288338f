import Zss.Tss.KeyLine

/-!
# The fields of a line

Where the keys of any line are, and what a buffer gets of their values. A line of two keys is meant
to be two fields, each a key, its delimiter and its value, one behind the other.

`FoundKey` is what the searches say of each key on its own; it holds of every key that is found.
Where the two keys are in relation to each other is decided by one search only, the one that goes
back from the end of the second key to two blanks in a row. Nothing stops it at the first delimiter,
so the fields are apart exactly where two such blanks stand between (`tssParseLineForKeys_fields`).

A value is cut at the end of its buffer, or of its line. The comparison that chooses between the two
is off by one, and the end of a first value is looked for only where the cut falls inside the second
key's name (`tssFindValueForKey_whole`).

## What is not established

Nothing is said of a line that the parser refuses, nor of what a value means. The search functions
of the common library are assumed to do what they are documented to do (`Utils.Documented`).
-/

namespace Zss.Tss

/-! ## A key on its own -/

/-- What the searches found of a key. -/
structure FoundKey (str : Text) (key : TssKeyData) : Prop where
  start_le_end : key.startPos ≤ key.endPos
  end_lt_delim : key.endPos < key.delimPos
  delimiter : occursAt tssKeyDelimiter str key.delimPos = true
  start : str[key.startPos]? ≠ some ' '
  last : str[key.endPos]? ≠ some ' '
  gap : ∀ j, key.endPos < j → j ≤ key.delimPos → str[j]? = some ' '
  keyLength : key.keyLength = ((key.endPos + 1 - key.startPos : Nat) : Int)
  length_le : key.endPos + 1 - key.startPos ≤ tssMaxKeyLength
  keyName : key.keyName = (str.drop key.startPos).take (key.endPos + 1 - key.startPos)

/-- What `tssFindStartOfKeyReverse` stops at. -/
theorem tssFindStartOfKeyReverse_spec {str : Text} {n i : Nat}
    (h : tssFindStartOfKeyReverse str n = some i) :
    2 ≤ i ∧ i ≤ n ∧ str[i - 1]? = some ' ' ∧ str[i - 2]? = some ' ' ∧
      ∀ j, i < j → j ≤ n → ¬ (str[j - 1]? = some ' ' ∧ str[j - 2]? = some ' ') := by
  fun_induction tssFindStartOfKeyReverse str n with
  | case1 => cases h
  | case2 => cases h
  | case3 n hblank =>
    obtain rfl := Option.some.inj h
    exact ⟨by omega, le_rfl, hblank.1, hblank.2, fun j hj hjn => absurd hjn (by omega)⟩
  | case4 n hblank ih =>
    obtain ⟨hle, hi, hone, htwo, hfirst⟩ := ih h
    refine ⟨hle, by omega, hone, htwo, ?_⟩
    intro j hj hjn
    by_cases hlast : j = n + 2
    · subst hlast
      exact hblank
    · exact hfirst j hj (by omega)

/-- The delimiter begins with a blank and goes on with an equal sign. -/
theorem getElem?_delimiter {str : Text} {d : Nat}
    (h : occursAt tssKeyDelimiter str d = true) :
    str[d]? = some ' ' ∧ str[d + 1]? = some '=' ∧ str[d + 2]? = some ' ' :=
  ⟨getElem?_of_occursAt h (k := 0) (by decide), getElem?_of_occursAt h (k := 1) (by decide),
    getElem?_of_occursAt h (k := 2) (by decide)⟩

/-- Where the first key starts, if anything but blanks is found before a delimiter. -/
theorem firstKeyStartPos_spec {str : Text} {e : Nat} (hlen : e + 1 < str.length)
    (he : str[e]? ≠ some ' ') :
    firstKeyStartPos str ≤ e ∧ str[firstKeyStartPos str]? ≠ some ' ' ∧
      ∀ j < firstKeyStartPos str, str[j]? = some ' ' := by
  unfold firstKeyStartPos
  split
  · next hhead =>
    refine ⟨Nat.zero_le e, ?_, fun j hj => absurd hj (Nat.not_lt_zero j)⟩
    rwa [← List.head?_eq_getElem?]
  · have hat : ∀ j < str.length - 1, str[j]? = str.dropLast[j]? := by
      intro j hj
      rw [List.getElem?_dropLast, if_pos hj]
    cases hfind : str.dropLast.findIdx? (· ≠ ' ') with
    | none =>
      rw [List.findIdx?_eq_none_iff] at hfind
      have hlt : e < str.dropLast.length := by
        rw [List.length_dropLast]
        omega
      have hblank := hfind str.dropLast[e] (List.getElem_mem hlt)
      rw [hat e (by omega), List.getElem?_eq_getElem hlt] at he
      simp_all
    | some i =>
      obtain ⟨hi, hne, hbefore⟩ := List.findIdx?_eq_some_iff_getElem.mp hfind
      have hlt : i < str.length - 1 := by rwa [List.length_dropLast] at hi
      have hblank : ∀ j < i, str[j]? = some ' ' := by
        intro j hj
        rw [hat j (by omega), List.getElem?_eq_getElem (by omega)]
        simpa using hbefore j hj
      refine ⟨?_, ?_, hblank⟩
      · by_contra hle
        exact he (hblank e (by simp only [Option.getD_some] at hle; omega))
      · rw [Option.getD_some, hat i hlt, List.getElem?_eq_getElem hi]
        simpa using hne

theorem makeKey_found {str : Text} {startPos endPos delimPos : Nat} {key : TssKeyData}
    (h : makeKey str startPos endPos delimPos = some key) (hle : startPos ≤ endPos)
    (hocc : occursAt tssKeyDelimiter str delimPos = true)
    (hend : tssFindEndOfKeyReverse str delimPos = some endPos)
    (hstart : str[startPos]? ≠ some ' ') :
    FoundKey str key ∧ key.startPos = startPos ∧ key.endPos = endPos ∧
      key.delimPos = delimPos := by
  unfold makeKey at h
  dsimp only at h
  split at h
  · cases h
  next hlen =>
  obtain rfl := Option.some.inj h
  obtain ⟨hendle, hne, hgap⟩ := tssFindEndOfKeyReverse_spec hend
  have hlt : endPos ≠ delimPos := by
    intro heq
    rw [heq] at hne
    exact hne (getElem?_delimiter hocc).1
  have hint : (endPos : Int) - startPos + 1 = ((endPos + 1 - startPos : Nat) : Int) := by omega
  refine ⟨⟨hle, by simp only; omega, hocc, hstart, hne, hgap, hint, ?_, ?_⟩, rfl, rfl, rfl⟩
  · simp only
    omega
  · simp only [hint, Int.toNat_natCast]

section

variable {utils : Utils} {str : Text}

/-- The key of `tssFindSingleKey`: nothing but blanks before it, and no delimiter before its own. -/
theorem tssFindSingleKey_found (hutils : utils.Documented) {key : TssKeyData}
    (h : tssFindSingleKey utils str = some key) :
    FoundKey str key ∧ (∀ j < key.startPos, str[j]? = some ' ') ∧
      ∀ j < key.delimPos, occursAt tssKeyDelimiter str j = false := by
  unfold tssFindSingleKey at h
  split at h
  · cases h
  next delimPos hindex =>
  split at h
  · cases h
  next endPos hend =>
  obtain ⟨hocc, hfirst⟩ := (hutils.indexOfString _ _ _ tssKeyDelimiter_ne_nil).mp hindex
  have hlen := occursAt_length tssKeyDelimiter_ne_nil hocc
  have hthree : tssKeyDelimiter.length = 3 := rfl
  obtain ⟨hendle, hne, -⟩ := tssFindEndOfKeyReverse_spec hend
  obtain ⟨hle, hstart, hblank⟩ := firstKeyStartPos_spec (by omega) hne
  obtain ⟨found, hs, -, hd⟩ := makeKey_found h hle hocc hend hstart
  exact ⟨found, hs ▸ hblank, hd ▸ hfirst⟩

/-- The keys of `tssFindDoubleKey`: the second starts at the last two blanks before its name. -/
theorem tssFindDoubleKey_found (hutils : utils.Documented) {keys : TssKeys}
    (h : tssFindDoubleKey utils str = some keys) :
    tssFindSingleKey utils str = some keys.first ∧ FoundKey str keys.second ∧
      (∀ j, keys.second.delimPos < j → occursAt tssKeyDelimiter str j = false) ∧
      tssFindStartOfKeyReverse str keys.second.endPos = some keys.second.startPos := by
  unfold tssFindDoubleKey at h
  split at h
  · cases h
  next first hsingle =>
  split at h
  · cases h
  next delimPos hindex =>
  split at h
  · cases h
  next endPos hend =>
  split at h
  · cases h
  next startPos hstart =>
  obtain ⟨second, hsecond, rfl⟩ := Option.map_eq_some_iff.mp h
  obtain ⟨hocc, hlast⟩ := (hutils.lastIndexOfString _ _ _ tssKeyDelimiter_ne_nil).mp hindex
  obtain ⟨htwo, hle, hone, -, hstop⟩ := tssFindStartOfKeyReverse_spec hstart
  obtain ⟨-, hne, -⟩ := tssFindEndOfKeyReverse_spec hend
  -- a blank there would be a later place to stop at, or the end of the key
  have hblank : str[startPos]? ≠ some ' ' := by
    intro hb
    by_cases heq : startPos = endPos
    · exact hne (heq ▸ hb)
    · refine hstop (startPos + 1) (by omega) (by omega) ⟨by simpa using hb, ?_⟩
      rw [show startPos + 1 - 2 = startPos - 1 by omega]
      exact hone
  obtain ⟨found, hs, he, hd⟩ := makeKey_found hsecond hle hocc hend hblank
  refine ⟨hsingle, found, hd ▸ hlast, ?_⟩
  rw [hs, he]
  exact hstart

end

/-! ## The fields -/

/-- A key as its positions say: its name is the text from its start to its end, short, with no
delimiter in it and no blank at its ends. -/
structure KeyField (str : Text) (key : TssKeyData) : Prop where
  start_le_end : key.startPos ≤ key.endPos
  end_lt_delim : key.endPos < key.delimPos
  keyName : key.keyName = (str.drop key.startPos).take (key.endPos + 1 - key.startPos)
  keyLength : key.keyLength = key.keyName.length
  length_le : key.keyName.length ≤ tssMaxKeyLength
  no_delimiter : ¬ tssKeyDelimiter <:+: key.keyName
  head : key.keyName.head? ≠ some ' '
  last : key.keyName.getLast? ≠ some ' '

/-- The line is two fields one behind the other, and the first has a value. -/
def TwoFields (str : Text) (keys : TssKeys) : Prop :=
  ∃ gap value gap' value',
    str = keyText keys.first.startPos keys.first.keyName gap ++ value ++
      (keyText 0 keys.second.keyName gap' ++ value') ∧
    value ≠ [] ∧ keys.first.delimPos + tssKeyDelimiterLen + value.length = keys.second.startPos

/-- What is to be said of the keys of a line. -/
structure KeyGeometry (str : Text) (n : Nat) (keys : TssKeys) : Prop where
  field : ∀ i < n, KeyField str (keys.key i)
  apart : n = 2 → TwoFields str keys

/-- Two blanks in a row stand behind the first of two delimiters and before the last text that the
second one follows. -/
def BlanksBetween (str : Text) : Prop :=
  ∀ d d', d < d' → occursAt tssKeyDelimiter str d = true →
    occursAt tssKeyDelimiter str d' = true →
      ∃ p e, d + 2 ≤ p ∧ str[p]? = some ' ' ∧ str[p + 1]? = some ' ' ∧ p + 1 < e ∧ e < d' ∧
        str[e]? ≠ some ' '

namespace FoundKey

variable {str : Text} {key : TssKeyData}

theorem endPos_lt (found : FoundKey str key) : key.endPos < str.length := by
  have := occursAt_length tssKeyDelimiter_ne_nil found.delimiter
  have := found.end_lt_delim
  omega

theorem length_keyName (found : FoundKey str key) :
    key.keyName.length = key.endPos + 1 - key.startPos := by
  have := found.endPos_lt
  rw [found.keyName, List.length_take, List.length_drop]
  omega

/-- The characters of a name are those of the line. -/
theorem getElem?_keyName (found : FoundKey str key) {j : Nat}
    (hj : j < key.endPos + 1 - key.startPos) : key.keyName[j]? = str[key.startPos + j]? := by
  rw [found.keyName, List.getElem?_take_of_lt hj, List.getElem?_drop]

/-- A delimiter in a name is one on the line. -/
theorem no_delimiter (found : FoundKey str key)
    (hno : ∀ i, key.startPos ≤ i → i < key.delimPos → occursAt tssKeyDelimiter str i = false) :
    ¬ tssKeyDelimiter <:+: key.keyName := by
  rintro ⟨before, after, hname⟩
  have hlen := congrArg List.length hname
  rw [found.length_keyName] at hlen
  simp only [List.length_append] at hlen
  have hthree : tssKeyDelimiter.length = 3 := rfl
  have hlt := found.end_lt_delim
  have hdrop : str.drop key.startPos =
      key.keyName ++ (str.drop key.startPos).drop (key.endPos + 1 - key.startPos) := by
    rw [found.keyName, List.take_append_drop]
  have hocc : occursAt tssKeyDelimiter str (key.startPos + before.length) = true := by
    rw [occursAt_iff, ← List.drop_drop, hdrop, ← hname]
    simp only [List.append_assoc, List.drop_left]
    exact List.prefix_append ..
  rw [hno _ (by omega) (by omega)] at hocc
  cases hocc

/-- A found key with no delimiter but its own is a field. -/
theorem field (found : FoundKey str key)
    (hno : ∀ i, key.startPos ≤ i → i < key.delimPos → occursAt tssKeyDelimiter str i = false) :
    KeyField str key where
  start_le_end := found.start_le_end
  end_lt_delim := found.end_lt_delim
  keyName := found.keyName
  keyLength := by rw [found.length_keyName, found.keyLength]
  length_le := found.length_keyName ▸ found.length_le
  no_delimiter := found.no_delimiter hno
  head := by
    have := found.start_le_end
    rw [List.head?_eq_getElem?, found.getElem?_keyName (by omega)]
    exact found.start
  last := by
    have := found.start_le_end
    rw [List.getLast?_eq_getElem?, found.length_keyName, found.getElem?_keyName (by omega),
      show key.startPos + (key.endPos + 1 - key.startPos - 1) = key.endPos by omega]
    exact found.last

/-- The line from a key on. -/
theorem drop_eq (found : FoundKey str key) :
    str.drop key.startPos = key.keyName ++ (blanks (key.delimPos - (key.endPos + 1)) ++
      (tssKeyDelimiter ++ str.drop (key.delimPos + tssKeyDelimiterLen))) := by
  have hle := found.start_le_end
  have hlt := found.end_lt_delim
  have hgap : str.drop (key.endPos + 1) = blanks (key.delimPos - (key.endPos + 1)) ++
      str.drop (key.endPos + 1 + (key.delimPos - (key.endPos + 1))) :=
    drop_eq_blanks_append _ fun j hj hjd => found.gap j (by omega) (by omega)
  rw [show key.endPos + 1 + (key.delimPos - (key.endPos + 1)) = key.delimPos by omega] at hgap
  obtain ⟨after, hafter⟩ := occursAt_iff.mp found.delimiter
  have hrest : str.drop (key.delimPos + tssKeyDelimiterLen) = after := by
    rw [← List.drop_drop, ← hafter, show tssKeyDelimiterLen = tssKeyDelimiter.length from rfl,
      List.drop_left]
  rw [hrest, hafter, ← hgap, found.keyName,
    show str.drop (key.endPos + 1) = (str.drop key.startPos).drop (key.endPos + 1 - key.startPos) by
      rw [List.drop_drop]; congr 1; omega, List.take_append_drop]

end FoundKey

/-- Two delimiters of a line are its first and its last. -/
theorem delimiters_of_two {str : Text} {d d' : Nat} (hcount : tssFindNumberOfKeys str = 2)
    (hd : occursAt tssKeyDelimiter str d = true)
    (hfirst : ∀ j < d, occursAt tssKeyDelimiter str j = false)
    (hd' : occursAt tssKeyDelimiter str d' = true)
    (hlast : ∀ j, d' < j → occursAt tssKeyDelimiter str j = false) :
    d < d' ∧ ∀ i, occursAt tssKeyDelimiter str i = true → i = d ∨ i = d' := by
  rw [tssFindNumberOfKeys, List.countP_eq_length_filter] at hcount
  have hmem : ∀ i, occursAt tssKeyDelimiter str i = true →
      i ∈ (List.range (str.length + 1 - tssKeyDelimiterLen)).filter
        (occursAt tssKeyDelimiter str) := by
    intro i hi
    have hlen := occursAt_length tssKeyDelimiter_ne_nil hi
    have hthree : tssKeyDelimiter.length = tssKeyDelimiterLen := rfl
    exact List.mem_filter.mpr ⟨List.mem_range.mpr (by omega), hi⟩
  have hocc : ∀ i ∈ (List.range (str.length + 1 - tssKeyDelimiterLen)).filter
      (occursAt tssKeyDelimiter str), occursAt tssKeyDelimiter str i = true :=
    fun i hi => (List.mem_filter.mp hi).2
  have hnodup := (List.nodup_range (n := str.length + 1 - tssKeyDelimiterLen)).filter
    (occursAt tssKeyDelimiter str)
  obtain ⟨x, y, hxy⟩ := List.length_eq_two.mp hcount
  rw [hxy] at hmem hocc hnodup
  have hne : x ≠ y := by simpa using hnodup
  have hx := hocc x (by simp)
  have hy := hocc y (by simp)
  have not_before : ∀ i, occursAt tssKeyDelimiter str i = true → d ≤ i := by
    intro i hi
    by_contra hlt
    rw [hfirst i (by omega)] at hi
    cases hi
  have not_behind : ∀ i, occursAt tssKeyDelimiter str i = true → i ≤ d' := by
    intro i hi
    by_contra hlt
    rw [hlast i (by omega)] at hi
    cases hi
  have hdmem : d = x ∨ d = y := by simpa using hmem d hd
  have hdmem' : d' = x ∨ d' = y := by simpa using hmem d' hd'
  have := not_before x hx
  have := not_before y hy
  have := not_behind x hx
  have := not_behind y hy
  refine ⟨by omega, ?_⟩
  intro i hi
  have : i = x ∨ i = y := by simpa using hmem i hi
  omega

variable {n : Nat}

/-- The cases of a parsed line. -/
theorem tssParseLineForKeys_cases {utils : Utils} {str : Text} {keys : TssKeys}
    (h : tssParseLineForKeys utils str = some (n, keys)) :
    n = 0 ∧ tssIsLineBlank str = true ∨
      n = 1 ∧ tssFindNumberOfKeys str = 1 ∧ tssFindSingleKey utils str = some keys.first ∨
      n = 2 ∧ tssFindNumberOfKeys str = 2 ∧ tssFindDoubleKey utils str = some keys := by
  unfold tssParseLineForKeys at h
  split at h
  · next hblank =>
    obtain ⟨rfl, rfl⟩ := Prod.mk.inj (Option.some.inj h)
    exact .inl ⟨rfl, hblank⟩
  · split at h
    · next hcount =>
      obtain ⟨key, hkey, heq⟩ := Option.map_eq_some_iff.mp h
      obtain ⟨rfl, rfl⟩ := Prod.mk.inj heq
      exact .inr (.inl ⟨rfl, hcount, hkey⟩)
    · next hcount =>
      obtain ⟨keys, hkeys, heq⟩ := Option.map_eq_some_iff.mp h
      obtain ⟨rfl, rfl⟩ := Prod.mk.inj heq
      exact .inr (.inr ⟨rfl, hcount, hkeys⟩)
    · cases h

/-- The two keys of a line and what is between them. -/
structure FoundKeys (str : Text) (keys : TssKeys) : Prop where
  first : FoundKey str keys.first
  second : FoundKey str keys.second
  indent : ∀ j < keys.first.startPos, str[j]? = some ' '
  before : ∀ j < keys.first.delimPos, occursAt tssKeyDelimiter str j = false
  lt : keys.first.delimPos < keys.second.delimPos
  only : ∀ i, occursAt tssKeyDelimiter str i = true →
    i = keys.first.delimPos ∨ i = keys.second.delimPos
  search : tssFindStartOfKeyReverse str keys.second.endPos = some keys.second.startPos

theorem tssParseLineForKeys_two {utils : Utils} (hutils : utils.Documented) {str : Text}
    {keys : TssKeys} (h : tssParseLineForKeys utils str = some (2, keys)) :
    FoundKeys str keys := by
  obtain ⟨hcount, hdouble⟩ : tssFindNumberOfKeys str = 2 ∧
      tssFindDoubleKey utils str = some keys := by
    rcases tssParseLineForKeys_cases h with ⟨h, -⟩ | ⟨h, -⟩ | ⟨-, h⟩
    · omega
    · omega
    · exact h
  obtain ⟨hsingle, second, hlast, hsearch⟩ := tssFindDoubleKey_found hutils hdouble
  obtain ⟨first, hindent, hbefore⟩ := tssFindSingleKey_found hutils hsingle
  obtain ⟨hlt, honly⟩ := delimiters_of_two hcount first.delimiter hbefore second.delimiter hlast
  exact ⟨first, second, hindent, hbefore, hlt, honly, hsearch⟩

namespace FoundKeys

variable {str : Text} {keys : TssKeys}

/-- The second key is apart from the first delimiter, or starts before the end of it. -/
theorem apart_or (found : FoundKeys str keys) :
    keys.first.delimPos + tssKeyDelimiterLen < keys.second.startPos ∨
      keys.second.startPos ≤ keys.first.delimPos + 1 := by
  obtain ⟨hle, -, hone, htwo, -⟩ := tssFindStartOfKeyReverse_spec found.search
  obtain ⟨-, hequal, -⟩ := getElem?_delimiter found.first.delimiter
  have hthree : tssKeyDelimiterLen = 3 := rfl
  have hne : ∀ i, str[i]? = some ' ' → i ≠ keys.first.delimPos + 1 := by
    intro i hi heq
    rw [heq, hequal] at hi
    cases hi
  have := hne _ hone
  have := hne _ htwo
  omega

/-- The blanks that the search is to stop at, against what it stops at. -/
theorem apart_iff (found : FoundKeys str keys) :
    keys.first.delimPos + tssKeyDelimiterLen < keys.second.startPos ↔ BlanksBetween str := by
  obtain ⟨htwo, hle, hone, hblank, hstop⟩ := tssFindStartOfKeyReverse_spec found.search
  have hend := found.second.end_lt_delim
  have hthree : tssKeyDelimiterLen = 3 := rfl
  constructor
  · intro happart d d' hlt hd hd'
    obtain ⟨rfl, rfl⟩ : d = keys.first.delimPos ∧ d' = keys.second.delimPos := by
      have := found.only d hd
      have := found.only d' hd'
      omega
    refine ⟨keys.second.startPos - 2, keys.second.endPos, by omega, hblank, ?_, by omega, hend,
      found.second.last⟩
    rwa [show keys.second.startPos - 2 + 1 = keys.second.startPos - 1 by omega]
  · intro hbetween
    obtain ⟨p, e, hp, hblank, hnext, hpe, he, hlast⟩ := hbetween _ _ found.lt
      found.first.delimiter found.second.delimiter
    have hle : e ≤ keys.second.endPos := by
      by_contra hlt
      exact hlast (found.second.gap e (by omega) (by omega))
    rcases found.apart_or with happart | hbefore
    · exact happart
    · exact absurd ⟨by rwa [show p + 2 - 1 = p + 1 by omega], hblank⟩
        (hstop (p + 2) (by omega) (by omega))

/-- A delimiter the second name holds is the first one. -/
theorem second_field (found : FoundKeys str keys)
    (happart : keys.first.delimPos < keys.second.startPos) : KeyField str keys.second := by
  refine found.second.field fun i hi hlt => ?_
  by_contra hocc
  have := found.only i (by simpa using hocc)
  omega

/-- Keys that are apart split the line in two fields. -/
theorem twoFields (found : FoundKeys str keys)
    (happart : keys.first.delimPos + tssKeyDelimiterLen < keys.second.startPos) :
    TwoFields str keys := by
  have hend := found.second.endPos_lt
  have hle := found.second.start_le_end
  let value := (str.drop (keys.first.delimPos + tssKeyDelimiterLen)).take
    (keys.second.startPos - (keys.first.delimPos + tssKeyDelimiterLen))
  have hlen : value.length =
      keys.second.startPos - (keys.first.delimPos + tssKeyDelimiterLen) := by
    rw [List.length_take, List.length_drop]
    omega
  have hrest : str.drop (keys.first.delimPos + tssKeyDelimiterLen) =
      value ++ str.drop keys.second.startPos := by
    have h := List.take_append_drop
      (keys.second.startPos - (keys.first.delimPos + tssKeyDelimiterLen))
      (str.drop (keys.first.delimPos + tssKeyDelimiterLen))
    rw [List.drop_drop, Nat.add_sub_cancel' (Nat.le_of_lt happart)] at h
    exact h.symm
  have hindent : str = blanks keys.first.startPos ++ str.drop keys.first.startPos := by
    have h : str.drop 0 = blanks keys.first.startPos ++ str.drop (0 + keys.first.startPos) :=
      drop_eq_blanks_append _ fun j _ hj => found.indent j (by omega)
    rwa [List.drop_zero, Nat.zero_add] at h
  refine ⟨keys.first.delimPos - (keys.first.endPos + 1), value,
    keys.second.delimPos - (keys.second.endPos + 1),
    str.drop (keys.second.delimPos + tssKeyDelimiterLen), ?_, ?_, by omega⟩
  · conv_lhs => rw [hindent, found.first.drop_eq, hrest, found.second.drop_eq]
    simp only [keyText, blanks, List.replicate_zero, List.nil_append, List.append_assoc]
  · intro hnil
    rw [hnil, List.length_nil] at hlen
    omega

end FoundKeys

/-- **Keys are fields** on every line of one key, and on a line of two keys exactly where two blanks
stand between the first delimiter and the second name. -/
theorem tssParseLineForKeys_fields {utils : Utils} (hutils : utils.Documented) {str : Text}
    {n : Nat} {keys : TssKeys} (hparse : tssParseLineForKeys utils str = some (n, keys)) :
    KeyGeometry str n keys ↔ (n = 2 → BlanksBetween str) := by
  constructor
  · rintro geometry rfl
    obtain ⟨gap, value, gap', value', -, hvalue, hpos⟩ := geometry.apart rfl
    have := List.length_pos_iff.mpr hvalue
    exact (tssParseLineForKeys_two hutils hparse).apart_iff.mp (by omega)
  · intro hbetween
    rcases tssParseLineForKeys_cases hparse with ⟨rfl, -⟩ | ⟨rfl, -, hsingle⟩ | ⟨rfl, -⟩
    · exact ⟨fun i hi => absurd hi (Nat.not_lt_zero i), fun h => by cases h⟩
    · obtain ⟨found, -, hbefore⟩ := tssFindSingleKey_found hutils hsingle
      refine ⟨fun i hi => ?_, fun h => by cases h⟩
      obtain rfl : i = 0 := by omega
      exact found.field fun i _ hi => hbefore i hi
    · have found := tssParseLineForKeys_two hutils hparse
      have happart := found.apart_iff.mpr (hbetween rfl)
      refine ⟨fun i hi => ?_, fun _ => found.twoFields happart⟩
      obtain rfl | rfl : i = 0 ∨ i = 1 := by omega
      · exact found.first.field fun i _ hi => found.before i hi
      · exact found.second_field (by omega)

/-- A line of two keys with their values, apart. -/
theorem two_keys_apart :
    KeyGeometry "DEPT = AB  NAME = CD".toList 2
      ⟨⟨0, 3, 4, "DEPT".toList, 4⟩, ⟨11, 14, 15, "NAME".toList, 4⟩⟩ := by
  have hparse : tssParseLineForKeys .plain "DEPT = AB  NAME = CD".toList =
      some (2, ⟨⟨0, 3, 4, "DEPT".toList, 4⟩, ⟨11, 14, 15, "NAME".toList, 4⟩⟩) := by
    decide +kernel
  refine (tssParseLineForKeys_fields Utils.plain_documented hparse).mpr fun _ => ?_
  exact (tssParseLineForKeys_two Utils.plain_documented hparse).apart_iff.mp (by decide)

/-- A value of one word before the second key, and an indent for the search to stop at: the second
name runs over the first field. -/
theorem second_name_over_first :
    ¬ ∀ (str : Text) (n : Nat) (keys : TssKeys),
      tssParseLineForKeys .plain str = some (n, keys) → KeyGeometry str n keys := by
  intro h
  have hparse : tssParseLineForKeys .plain "  A = B = C".toList =
      some (2, ⟨⟨2, 2, 3, "A".toList, 1⟩, ⟨2, 6, 7, "A = B".toList, 5⟩⟩) := by
    decide +kernel
  have field := (h _ _ _ hparse).field 1 (by decide)
  refine field.no_delimiter ?_
  exact ⟨"A".toList, "B".toList, by decide⟩

/-! ## The values -/

/-- The value of a key: the text from its delimiter to the end of the line, or for the first of two
keys to the second name. Where that name starts before there is none. -/
def IsKeyValue (str : Text) (n : Nat) (keys : TssKeys) (keyIndex : Nat) (value : Text) : Prop :=
  let valStartPos := (keys.key keyIndex).delimPos + tssKeyDelimiterLen
  if n = 2 ∧ keyIndex = 0 then
    str.take keys.second.startPos = str.take valStartPos ++ value ∧
      valStartPos ≤ keys.second.startPos
  else str = str.take valStartPos ++ value

/-- The buffer gets the whole value of a key, or as much as it holds, and blanks behind. -/
def ReadsValue (utils : Utils) (str : Text) (n : Nat) (keys : TssKeys) (keyIndex size : Nat) :
    Prop :=
  ∃ value, IsKeyValue str n keys keyIndex value ∧
    tssFindValueForKey utils str str.length keys keyIndex n (zeroBuffer size) =
      some (fieldOf size value)

/-- The end of a buffer at a position is a word, or the word before zero where nothing is left of
the line. -/
def EndsInWord (str : Text) (valStartPos size : Nat) : Prop :=
  valStartPos + size < 4294967296 ∨ valStartPos = str.length ∧ size + 1 = 4294967296

/-- A buffer that gets the value of a key right. The first value of two: it ends before the second
name, or in it with two characters of value to spare. A value that nothing follows: it is not one
character longer than the buffer. -/
def BufferSuits (str : Text) (n : Nat) (keys : TssKeys) (keyIndex size : Nat) : Prop :=
  let valStartPos := (keys.key keyIndex).delimPos + tssKeyDelimiterLen
  if n = 2 ∧ keyIndex = 0 then
    valStartPos < keys.second.startPos ∧
      (valStartPos + size ≤ keys.second.startPos ∨
        valStartPos + 2 ≤ keys.second.startPos ∧ valStartPos + size ≤ keys.second.endPos + 1)
  else valStartPos + size + 1 ≠ str.length ∧ EndsInWord str valStartPos size

section

variable {len valStartPos size : Nat}

theorem i32_u32_natCast (h : n < 2147483648) : i32 (u32 n) = n := by
  rw [u32_natCast (by omega), i32, if_pos h]

/-- A value that is not longer than its buffer, or by one character, ends with the line. -/
theorem valueEnd_line (hlen : len < 2147483648) (hpos : 0 < len)
    (hword : valStartPos + size < 4294967296) (h : len ≤ valStartPos + size + 1) :
    valueEnd len valStartPos size = len - 1 := by
  have hlast : (len : Int) - 1 = ((len - 1 : Nat) : Int) := by omega
  have hsum : u32 ((valStartPos : Int) + size) = valStartPos + size := by
    rw [show (valStartPos : Int) + size = ((valStartPos + size : Nat) : Int) by omega,
      u32_natCast hword]
  rw [valueEnd, hsum, hlast, u32_natCast (by omega), if_pos (by omega), i32, if_pos (by omega)]

/-- A longer value ends with its buffer. -/
theorem valueEnd_buffer (hlen : len < 2147483648) (hpos : 0 < valStartPos)
    (h : valStartPos + size + 1 < len) :
    valueEnd len valStartPos size = valStartPos + size - 1 := by
  have hsum : u32 ((valStartPos : Int) + size) = valStartPos + size := by
    rw [show (valStartPos : Int) + size = ((valStartPos + size : Nat) : Int) by omega,
      u32_natCast (by omega)]
  have hlast : u32 ((len : Int) - 1) = len - 1 := by
    rw [show (len : Int) - 1 = ((len - 1 : Nat) : Int) by omega, u32_natCast (by omega)]
  rw [valueEnd, hsum, hlast, if_neg (by omega),
    show (valStartPos : Int) + size - 1 = ((valStartPos + size - 1 : Nat) : Int) by omega,
    i32_u32_natCast (by omega)]

/-- Where the end of a buffer is no word, the value ends before it starts. -/
theorem valueEnd_wraps (hlen : len < 2147483648) (hle : valStartPos ≤ len)
    (hsize : size < 4294967296) (hword : 4294967296 ≤ valStartPos + size)
    (hno : ¬ (valStartPos = len ∧ size + 1 = 4294967296)) :
    valueEnd len valStartPos size = (valStartPos : Int) + size - 4294967296 - 1 := by
  have hsum : u32 ((valStartPos : Int) + size) = valStartPos + size - 4294967296 := by
    simp only [u32]
    omega
  have hlast : u32 ((len : Int) - 1) = len - 1 := by
    rw [show (len : Int) - 1 = ((len - 1 : Nat) : Int) by omega, u32_natCast (by omega)]
  rw [valueEnd, hsum, hlast, if_neg (by omega)]
  by_cases hzero : valStartPos + size = 4294967296
  · rw [show u32 ((valStartPos : Int) + size - 1) = 4294967295 by simp only [u32]; omega]
    simp only [i32]
    omega
  · rw [show u32 ((valStartPos : Int) + size - 1) = valStartPos + size - 4294967296 - 1 by
      simp only [u32]; omega, i32, if_pos (by omega)]
    omega

/-- The same where nothing is left of the line. -/
theorem valueEnd_at_end (hlen : len < 2147483648) (hpos : 0 < len)
    (hsize : size + 1 = 4294967296) : valueEnd len len size = len - 1 := by
  have hsum : u32 ((len : Int) + size) = len - 1 := by
    simp only [u32]
    omega
  rw [valueEnd, hsum, show (len : Int) - 1 = ((len - 1 : Nat) : Int) by omega,
    u32_natCast (by omega), if_pos (by omega), i32, if_pos (by omega)]

end

section

variable {utils : Utils} {str : Text} {valStartPos size : Nat} {valEndPos : Int}

/-- What a copy into a buffer of zeros leaves. -/
theorem copyValue_zeroBuffer (hutils : utils.Documented) (hnul : nul ∉ str) {valLen : Nat}
    (hval : u32 (valEndPos - valStartPos + 1) = valLen) :
    copyValue utils str valStartPos valEndPos (zeroBuffer size) =
      if valLen > size then none
      else some ((str.drop valStartPos).take valLen ++ blanks (size - valLen)) := by
  have hbuffer : (zeroBuffer size).length = size := List.length_replicate
  rw [copyValue, hval]
  simp only [hbuffer]
  split
  · rfl
  · rw [zeroBuffer, List.drop_replicate, hutils.padWithSpaces _ _ fun h =>
      hnul (List.mem_of_mem_drop (List.mem_of_mem_take h))]
    rfl

theorem fieldOf_short {width : Nat} {text : Text} (h : text.length ≤ width) :
    fieldOf width text = text ++ blanks (width - text.length) := by
  simpa [blanks] using fieldOf_append_blanks (n := 0) h

/-- A copy that is to take more than the line has does not leave a whole buffer. -/
theorem copyValue_beyond (hutils : utils.Documented) (hnul : nul ∉ str) (value : Text)
    (h : str.length - valStartPos < u32 (valEndPos - valStartPos + 1)) :
    copyValue utils str valStartPos valEndPos (zeroBuffer size) ≠ some (fieldOf size value) := by
  rw [copyValue_zeroBuffer hutils hnul rfl]
  split
  · exact fun h => by cases h
  · next hle =>
    intro heq
    have hlen := congrArg List.length (Option.some.inj heq)
    simp only [List.length_append, List.length_take, List.length_drop, length_blanks,
      length_fieldOf] at hlen
    omega

/-- **A value that nothing follows** is read right unless it is one character longer than its
buffer. -/
theorem copyValue_last (hutils : utils.Documented) (hnul : nul ∉ str)
    (hlen : str.length < 2147483648) (hpos : 0 < valStartPos) (hle : valStartPos ≤ str.length)
    (hword : EndsInWord str valStartPos size)
    (hend : valEndPos = valueEnd str.length valStartPos size) :
    copyValue utils str valStartPos valEndPos (zeroBuffer size) =
        some (fieldOf size (str.drop valStartPos)) ↔ valStartPos + size + 1 ≠ str.length := by
  have hdrop : (str.drop valStartPos).length = str.length - valStartPos := List.length_drop
  have whole : valEndPos = (str.length : Int) - 1 →
      copyValue utils str valStartPos valEndPos (zeroBuffer size) =
        if str.length - valStartPos > size then none
        else some (str.drop valStartPos ++ blanks (size - (str.length - valStartPos))) := by
    intro hline
    have hval : u32 (valEndPos - valStartPos + 1) = str.length - valStartPos := by
      rw [hline, show (str.length : Int) - 1 - valStartPos + 1 =
        ((str.length - valStartPos : Nat) : Int) by omega, u32_natCast (by omega)]
    rw [copyValue_zeroBuffer hutils hnul hval, List.take_of_length_le (by omega)]
  have field : str.length - valStartPos ≤ size → fieldOf size (str.drop valStartPos) =
      str.drop valStartPos ++ blanks (size - (str.length - valStartPos)) := by
    intro hfits
    rw [← hdrop]
    exact fieldOf_short (by omega)
  rcases hword with hword | ⟨hrest, hsize⟩
  · by_cases hlong : valStartPos + size + 1 < str.length
    · rw [valueEnd_buffer hlen hpos hlong] at hend
      have hval : u32 (valEndPos - valStartPos + 1) = size := by
        rw [hend, show (valStartPos : Int) + size - 1 - valStartPos + 1 = size by omega,
          u32_natCast (by omega)]
      rw [copyValue_zeroBuffer hutils hnul hval, if_neg (by omega)]
      have hcut : fieldOf size (str.drop valStartPos) = (str.drop valStartPos).take size := by
        rw [fieldOf, List.take_append_of_le_length (by omega)]
      simp only [hcut, Nat.sub_self, blanks, List.replicate_zero, List.append_nil, true_iff]
      omega
    · rw [whole (hend.trans (valueEnd_line hlen (by omega) hword (by omega)))]
      split
      · simp only [reduceCtorEq, false_iff]
        omega
      · rw [field (by omega)]
        simp only [true_iff]
        omega
  · subst hrest
    rw [whole (hend.trans (valueEnd_at_end hlen (by omega) hsize)), if_neg (by omega),
      field (by omega)]
    simp only [true_iff]
    omega

/-- The same for any end that is the value's where the end of the buffer is a word, and beyond the
line where it is not. -/
theorem copyValue_last_iff (hutils : utils.Documented) (hnul : nul ∉ str)
    (hlen : str.length < 2147483648) (hpos : 0 < valStartPos) (hle : valStartPos ≤ str.length)
    (hend : EndsInWord str valStartPos size →
      valEndPos = valueEnd str.length valStartPos size)
    (hbeyond : ¬ EndsInWord str valStartPos size →
      str.length - valStartPos < u32 (valEndPos - valStartPos + 1)) :
    copyValue utils str valStartPos valEndPos (zeroBuffer size) =
        some (fieldOf size (str.drop valStartPos)) ↔
      valStartPos + size + 1 ≠ str.length ∧ EndsInWord str valStartPos size := by
  by_cases hword : EndsInWord str valStartPos size
  · rw [copyValue_last hutils hnul hlen hpos hle hword (hend hword)]
    simp [hword]
  · simp only [hword, and_false, iff_false]
    exact copyValue_beyond hutils hnul _ (hbeyond hword)

/-- An end that is not in a word is beyond the line. -/
theorem valueEnd_beyond (hlen : str.length < 2147483648) (hle : valStartPos ≤ str.length)
    (hsize : size < 4294967296) (hword : ¬ EndsInWord str valStartPos size) :
    str.length - valStartPos <
      u32 (valueEnd str.length valStartPos size - valStartPos + 1) := by
  unfold EndsInWord at hword
  rw [valueEnd_wraps hlen hle hsize (by omega) (by omega)]
  simp only [u32]
  omega

/-- The value of the only key of a line. -/
theorem isKeyValue_last {n i : Nat} {keys : TssKeys} {value : Text} (h : ¬ (n = 2 ∧ i = 0)) :
    IsKeyValue str n keys i value ↔
      value = str.drop ((keys.key i).delimPos + tssKeyDelimiterLen) := by
  unfold IsKeyValue
  dsimp only
  rw [if_neg h]
  constructor
  · intro heq
    have hsplit := List.take_append_drop ((keys.key i).delimPos + tssKeyDelimiterLen) str
    exact List.append_cancel_left (heq.symm.trans hsplit.symm)
  · rintro rfl
    exact (List.take_append_drop _ str).symm

/-- Where a delimiter is there is room behind it. -/
theorem delimiter_room {d : Nat} (h : occursAt tssKeyDelimiter str d = true) :
    d + tssKeyDelimiterLen ≤ str.length :=
  occursAt_length tssKeyDelimiter_ne_nil h

/-- The end of a value that the other key's name may be in the way of. -/
def endBefore (other : TssKeyData) (valEndPos : Int) : Int :=
  if other.startPos ≤ u32 valEndPos ∧ u32 valEndPos ≤ other.endPos then
    (other.startPos : Int) - 3
  else valEndPos

theorem tssFindValueForKey_single (keys : TssKeys) :
    tssFindValueForKey utils str str.length keys 0 1 (zeroBuffer size) =
      copyValue utils str (keys.first.delimPos + tssKeyDelimiterLen)
        (valueEnd str.length (keys.first.delimPos + tssKeyDelimiterLen) size)
        (zeroBuffer size) := by
  have hbuffer : (zeroBuffer size).length = size := List.length_replicate
  simp only [tssFindValueForKey, tssFindValueSingleKey, hbuffer, TssKeys.key, if_true]

theorem tssFindValueForKey_first (keys : TssKeys) :
    tssFindValueForKey utils str str.length keys 0 2 (zeroBuffer size) =
      copyValue utils str (keys.first.delimPos + tssKeyDelimiterLen)
        (endBefore keys.second
          (valueEnd str.length (keys.first.delimPos + tssKeyDelimiterLen) size))
        (zeroBuffer size) := by
  have hbuffer : (zeroBuffer size).length = size := List.length_replicate
  simp only [tssFindValueForKey, tssFindValueDoubleKey, hbuffer]
  rfl

theorem tssFindValueForKey_second (keys : TssKeys) :
    tssFindValueForKey utils str str.length keys 1 2 (zeroBuffer size) =
      copyValue utils str (keys.second.delimPos + tssKeyDelimiterLen)
        (endBefore keys.first
          (valueEnd str.length (keys.second.delimPos + tssKeyDelimiterLen) size))
        (zeroBuffer size) := by
  have hbuffer : (zeroBuffer size).length = size := List.length_replicate
  simp only [tssFindValueForKey, tssFindValueDoubleKey, hbuffer]
  rfl

/-- The value of the second of two keys. -/
theorem FoundKeys.reads_second {keys : TssKeys} (found : FoundKeys str keys)
    (hutils : utils.Documented) (hnul : nul ∉ str) (hlen : str.length < 2147483648)
    (hpos : 0 < size) (hsize : size < 4294967296) :
    ReadsValue utils str 2 keys 1 size ↔ BufferSuits str 2 keys 1 size := by
  have hroom := delimiter_room found.second.delimiter
  have hthree : tssKeyDelimiterLen = 3 := rfl
  have hle := found.first.start_le_end
  have hlt := found.first.end_lt_delim
  have hdelims := found.lt
  unfold ReadsValue BufferSuits
  simp only [isKeyValue_last (show ¬ (2 = 2 ∧ 1 = 0) by decide), exists_eq_left,
    tssFindValueForKey_second]
  generalize hend : valueEnd str.length (keys.second.delimPos + tssKeyDelimiterLen) size = valEndPos
  refine copyValue_last_iff hutils hnul hlen (by omega) hroom ?_ ?_
  · intro hword
    -- the end is behind the first key
    have hbehind : keys.first.endPos < u32 valEndPos := by
      rcases hword with hword | ⟨hrest, hmax⟩
      · by_cases hlong : keys.second.delimPos + tssKeyDelimiterLen + size + 1 < str.length
        · rw [← hend, valueEnd_buffer hlen (by omega) hlong]
          simp only [u32]
          omega
        · rw [← hend, valueEnd_line hlen (by omega) hword (by omega)]
          simp only [u32]
          omega
      · rw [← hend, hrest, valueEnd_at_end hlen (by omega) hmax]
        simp only [u32]
        omega
    rw [endBefore, if_neg (by omega), hend]
  · intro hword
    unfold endBefore
    split
    · simp only [u32]
      omega
    · rw [← hend]
      exact valueEnd_beyond hlen hroom hsize hword

/-- The value of a key alone on its line. -/
theorem reads_single {keys : TssKeys} (found : FoundKey str keys.first)
    (hutils : utils.Documented) (hnul : nul ∉ str) (hlen : str.length < 2147483648)
    (hsize : size < 4294967296) :
    ReadsValue utils str 1 keys 0 size ↔ BufferSuits str 1 keys 0 size := by
  have hroom := delimiter_room found.delimiter
  have hthree : tssKeyDelimiterLen = 3 := rfl
  unfold ReadsValue BufferSuits
  simp only [isKeyValue_last (show ¬ (1 = 2 ∧ 0 = 0) by decide), exists_eq_left,
    tssFindValueForKey_single]
  exact copyValue_last_iff hutils hnul hlen (by omega) hroom (fun _ => rfl)
    fun hword => valueEnd_beyond hlen hroom hsize hword

/-- The value of the first of two keys that are apart: the text between them. -/
theorem isKeyValue_first {keys : TssKeys} {value : Text}
    (hle : keys.first.delimPos + tssKeyDelimiterLen ≤ keys.second.startPos) :
    IsKeyValue str 2 keys 0 value ↔
      value = (str.drop (keys.first.delimPos + tssKeyDelimiterLen)).take
        (keys.second.startPos - (keys.first.delimPos + tssKeyDelimiterLen)) := by
  have hsplit : str.take keys.second.startPos =
      str.take (keys.first.delimPos + tssKeyDelimiterLen) ++
        (str.drop (keys.first.delimPos + tssKeyDelimiterLen)).take
          (keys.second.startPos - (keys.first.delimPos + tssKeyDelimiterLen)) := by
    rw [← List.take_add, Nat.add_sub_cancel' hle]
  change str.take keys.second.startPos =
    str.take (keys.first.delimPos + tssKeyDelimiterLen) ++ value ∧ _ ↔ _
  constructor
  · rintro ⟨heq, -⟩
    exact List.append_cancel_left (heq.symm.trans hsplit)
  · rintro rfl
    exact ⟨hsplit, hle⟩

/-- The blanks that a first value ends with. -/
theorem FoundKeys.value_blanks {keys : TssKeys} (found : FoundKeys str keys)
    (hroom : keys.first.delimPos + tssKeyDelimiterLen + 2 ≤ keys.second.startPos) :
    (str.drop (keys.first.delimPos + tssKeyDelimiterLen)).take
        (keys.second.startPos - (keys.first.delimPos + tssKeyDelimiterLen)) =
      (str.drop (keys.first.delimPos + tssKeyDelimiterLen)).take
        (keys.second.startPos - (keys.first.delimPos + tssKeyDelimiterLen) - 2) ++ blanks 2 := by
  obtain ⟨-, -, hone, htwo, -⟩ := tssFindStartOfKeyReverse_spec found.search
  have hblank : str.drop (keys.second.startPos - 2) =
      blanks 2 ++ str.drop (keys.second.startPos - 2 + 2) := by
    refine drop_eq_blanks_append 2 fun j hj hlt => ?_
    obtain rfl | rfl : j = keys.second.startPos - 2 ∨ j = keys.second.startPos - 1 := by omega
    · exact htwo
    · exact hone
  rw [show keys.second.startPos - (keys.first.delimPos + tssKeyDelimiterLen) =
      keys.second.startPos - (keys.first.delimPos + tssKeyDelimiterLen) - 2 + 2 by omega,
    List.take_add, List.drop_drop, Nat.add_sub_cancel,
    show keys.first.delimPos + tssKeyDelimiterLen +
      (keys.second.startPos - (keys.first.delimPos + tssKeyDelimiterLen) - 2) =
        keys.second.startPos - 2 by omega, hblank]
  rfl

/-- A copy that goes on over the second name is not the first value. -/
theorem FoundKeys.copy_over_name {keys : TssKeys} (found : FoundKeys str keys) {valLen : Nat}
    (hutils : utils.Documented) (hnul : nul ∉ str)
    (hval : u32 (valEndPos - (keys.first.delimPos + tssKeyDelimiterLen : Nat) + 1) = valLen)
    (hroom : keys.first.delimPos + tssKeyDelimiterLen < keys.second.startPos)
    (hsize : keys.second.startPos < keys.first.delimPos + tssKeyDelimiterLen + size)
    (hover : keys.second.startPos < keys.first.delimPos + tssKeyDelimiterLen + valLen) :
    copyValue utils str (keys.first.delimPos + tssKeyDelimiterLen) valEndPos (zeroBuffer size) ≠
      some (fieldOf size ((str.drop (keys.first.delimPos + tssKeyDelimiterLen)).take
        (keys.second.startPos - (keys.first.delimPos + tssKeyDelimiterLen)))) := by
  rw [copyValue_zeroBuffer hutils hnul hval]
  split
  · exact fun h => by cases h
  intro heq
  have hend := found.second.endPos_lt
  have hle := found.second.start_le_end
  generalize hn : keys.second.startPos - (keys.first.delimPos + tssKeyDelimiterLen) = n at heq
  have hsum : keys.first.delimPos + tssKeyDelimiterLen + n = keys.second.startPos := by omega
  have hlen : ((str.drop (keys.first.delimPos + tssKeyDelimiterLen)).take n).length = n := by
    rw [List.length_take, List.length_drop]
    omega
  have hcopied : ((str.drop (keys.first.delimPos + tssKeyDelimiterLen)).take valLen ++
      blanks (size - valLen))[n]? = str[keys.second.startPos]? := by
    rw [List.getElem?_append_left (by rw [List.length_take, List.length_drop]; omega),
      List.getElem?_take_of_lt (by omega), List.getElem?_drop, hsum]
  have hfield : (fieldOf size ((str.drop (keys.first.delimPos + tssKeyDelimiterLen)).take
      n))[n]? = some ' ' := by
    rw [fieldOf, List.getElem?_take_of_lt (by omega), List.getElem?_append_right (by omega), hlen,
      Nat.sub_self, blanks, List.getElem?_replicate, if_pos (by omega)]
  rw [Option.some.inj heq, hfield] at hcopied
  exact found.second.start hcopied.symm

/-- The value of the first of two keys. -/
theorem FoundKeys.reads_first {keys : TssKeys} (found : FoundKeys str keys)
    (hutils : utils.Documented) (hnul : nul ∉ str) (hlen : str.length < 2147483648)
    (hpos : 0 < size) (hsize : size < 4294967296) :
    ReadsValue utils str 2 keys 0 size ↔ BufferSuits str 2 keys 0 size := by
  have hthree : tssKeyDelimiterLen = 3 := rfl
  have hend := found.second.endPos_lt
  have hle := found.second.start_le_end
  have hdelim := found.second.end_lt_delim
  have hroom := delimiter_room found.second.delimiter
  rcases found.apart_or with happart | hbefore
  · have suits : BufferSuits str 2 keys 0 size ↔
        keys.first.delimPos + tssKeyDelimiterLen + size ≤ keys.second.startPos ∨
          keys.first.delimPos + tssKeyDelimiterLen + 2 ≤ keys.second.startPos ∧
            keys.first.delimPos + tssKeyDelimiterLen + size ≤ keys.second.endPos + 1 :=
      ⟨fun h => h.2, fun h => ⟨happart, h⟩⟩
    rw [suits]
    unfold ReadsValue
    simp only [isKeyValue_first (Nat.le_of_lt happart), exists_eq_left, tssFindValueForKey_first]
    have hvalue : ((str.drop (keys.first.delimPos + tssKeyDelimiterLen)).take
        (keys.second.startPos - (keys.first.delimPos + tssKeyDelimiterLen))).length =
          keys.second.startPos - (keys.first.delimPos + tssKeyDelimiterLen) := by
      rw [List.length_take, List.length_drop]
      omega
    set v := keys.first.delimPos + tssKeyDelimiterLen with hv
    by_cases hin : v + size ≤ keys.second.endPos + 1
    · -- the buffer ends on the line
      rw [valueEnd_buffer hlen (by omega) (by omega)]
      by_cases hcut : v + size ≤ keys.second.startPos
      · have hval : u32 (endBefore keys.second ((v : Int) + size - 1) - v + 1) = size := by
          rw [endBefore, if_neg (by simp only [u32]; omega)]
          simp only [u32]
          omega
        rw [copyValue_zeroBuffer hutils hnul hval, if_neg (by omega), Nat.sub_self, fieldOf,
          List.take_append_of_le_length (by omega), List.take_take, Nat.min_eq_left (by omega)]
        simp [blanks, hcut]
      · have hnear : endBefore keys.second ((v : Int) + size - 1) =
            (keys.second.startPos : Int) - 3 := by
          rw [endBefore, if_pos (by simp only [u32]; omega)]
        rw [hnear]
        by_cases htwo : v + 2 ≤ keys.second.startPos
        · have hval : u32 ((keys.second.startPos : Int) - 3 - v + 1) =
              keys.second.startPos - v - 2 := by
            simp only [u32]
            omega
          rw [copyValue_zeroBuffer hutils hnul hval, if_neg (by omega), found.value_blanks htwo,
            fieldOf_blanks, fieldOf_short (by rw [List.length_take, List.length_drop]; omega),
            List.length_take, List.length_drop, Nat.min_eq_left (by omega)]
          simp only [← hv, htwo, hin, and_self, or_true]
        · have hval : u32 ((keys.second.startPos : Int) - 3 - v + 1) = 4294967295 := by
            simp only [u32]
            omega
          rw [copyValue_zeroBuffer hutils hnul hval, if_pos (by omega)]
          simp [hcut, htwo]
    · -- the buffer ends behind the second name
      have hno : ¬ (v + size ≤ keys.second.startPos ∨
          v + 2 ≤ keys.second.startPos ∧ v + size ≤ keys.second.endPos + 1) := by
        omega
      simp only [hno, iff_false]
      by_cases hword : v + size < 4294967296
      · by_cases hlong : v + size + 1 < str.length
        · rw [valueEnd_buffer hlen (by omega) hlong, endBefore,
            if_neg (by simp only [u32]; omega)]
          refine found.copy_over_name hutils hnul rfl happart (by omega) ?_
          simp only [u32]
          omega
        · rw [valueEnd_line hlen (by omega) hword (by omega), endBefore,
            if_neg (by simp only [u32]; omega)]
          refine found.copy_over_name hutils hnul rfl happart (by omega) ?_
          simp only [u32]
          omega
      · have hbeyond : ¬ EndsInWord str v size := by
          unfold EndsInWord
          omega
        have hwraps := @valueEnd_wraps _ v _ hlen (by omega) hsize (by omega) (by omega)
        have hsame : endBefore keys.second
            (valueEnd str.length v size) =
              valueEnd str.length v size := by
          rw [endBefore, if_neg (by rw [hwraps]; simp only [u32]; omega)]
        rw [hsame]
        exact copyValue_beyond hutils hnul _ (valueEnd_beyond hlen (by omega) hsize hbeyond)
  · have hno : ¬ BufferSuits str 2 keys 0 size := by
      rintro ⟨h, -⟩
      change keys.first.delimPos + tssKeyDelimiterLen < keys.second.startPos at h
      omega
    simp only [hno, iff_false]
    rintro ⟨value, ⟨-, hvalue⟩, -⟩
    change keys.first.delimPos + tssKeyDelimiterLen ≤ keys.second.startPos at hvalue
    omega

/-- **A value is read whole, or cut to its buffer** exactly where the buffer suits it. -/
theorem tssFindValueForKey_whole (hutils : utils.Documented) (hnul : nul ∉ str)
    (hlen : str.length < 2147483648) {n i : Nat} {keys : TssKeys}
    (hparse : tssParseLineForKeys utils str = some (n, keys)) (hi : i < n) (hpos : 0 < size)
    (hsize : size < 4294967296) :
    ReadsValue utils str n keys i size ↔ BufferSuits str n keys i size := by
  rcases tssParseLineForKeys_cases hparse with ⟨rfl, -⟩ | ⟨rfl, -, hsingle⟩ | ⟨rfl, -⟩
  · exact absurd hi (Nat.not_lt_zero i)
  · obtain rfl : i = 0 := by omega
    exact reads_single (tssFindSingleKey_found hutils hsingle).1 hutils hnul hlen hsize
  · have found := tssParseLineForKeys_two hutils hparse
    obtain rfl | rfl : i = 0 ∨ i = 1 := by omega
    · exact found.reads_first hutils hnul hlen hpos hsize
    · exact found.reads_second hutils hnul hlen hpos hsize

end

/-- A first value of two characters in a buffer for eight. -/
theorem first_value_padded :
    ReadsValue .plain "DEPT = AB  NAME = CD".toList 2
      ⟨⟨0, 3, 4, "DEPT".toList, 4⟩, ⟨11, 14, 15, "NAME".toList, 4⟩⟩ 0 8 :=
  (tssFindValueForKey_whole Utils.plain_documented (by decide) (by decide)
    (by decide +kernel) (by decide) (by decide) (by decide)).mpr
      ⟨by decide, .inr ⟨by decide, by decide⟩⟩

/-- A value of two characters is refused by a buffer for one. -/
theorem longer_value_refused :
    ¬ ∀ (str : Text) (n : Nat) (keys : TssKeys) (i size : Nat),
      tssParseLineForKeys .plain str = some (n, keys) → i < n → 0 < size →
        ReadsValue .plain str n keys i size := by
  intro h
  have hparse : tssParseLineForKeys .plain "NAME = CD".toList =
      some (1, ⟨⟨0, 3, 4, "NAME".toList, 4⟩, .zero⟩) := by
    decide +kernel
  obtain ⟨value, -, hread⟩ := h _ _ _ 0 1 hparse (by decide) (by decide)
  have refused : tssFindValueForKey .plain "NAME = CD".toList 9
      ⟨⟨0, 3, 4, "NAME".toList, 4⟩, .zero⟩ 0 1 (zeroBuffer 1) = none := by
    decide +kernel
  cases refused.symm.trans hread

end Zss.Tss
