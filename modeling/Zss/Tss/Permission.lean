import Zss.Tss.AdminCommands
import Zss.Tss.KeyFields

/-!
# The permissions of a user

What `isUserAlreadyPermitted` makes of the list of a user. A permission is a line of the class's
key, the profile and its owner; the lines that follow it, the one of its access level among them,
are gone past.

## What is not established

What is made of a class of eight characters, whose key the handler has room for and the parser has
not; of lines with one or two keys that the parser refuses, as it does where one has more than ten
characters; and of a profile that with its blanks is one character longer than its buffer. The search
string functions and `nullTerminate` are assumed to do what they are documented to do.
-/

namespace Zss.Tss

/-! ## Permission lines -/

/-- The name of a class that a key has room for, after the three characters before it. -/
structure IsClassName (className : Text) : Prop where
  ne_nil : className ≠ []
  length_le : className.length ≤ 7
  no_blank : ' ' ∉ className
  no_nul : nul ∉ className

/-- The key of the permissions of a class. -/
def permissionKey (className : Text) : Text := ['X', 'A', ' '] ++ className

/-- `XA class = profile OWNER(owner)`. With the blanks up to its owner the profile is not one
character longer than the buffer it is read to. -/
structure PermissionLine (className profile line : Text) : Prop where
  keyLine : ∃ pad rest,
    KeyLine (permissionKey className) (profile ++ blanks (pad + 1) ++ (tssOwnerKey ++ rest)) line ∧
      ¬ tssOwnerKey <:+: rest ∧ profile.length + pad ≠ zisSecurityProfileMaxLength + 1
  profile_end : ∃ init last, profile = init ++ [last] ∧ last ≠ ' '
  profile_length : profile.length ≤ zisSecurityProfileMaxLength
  no_nul : nul ∉ line

/-- The keys of a line are found, if it has one or two. -/
def KeysFound (utils : Utils) (line : Text) : Prop :=
  tssFindNumberOfKeys line = 1 ∨ tssFindNumberOfKeys line = 2 → tssParseLineForKeys utils line ≠ none

/-- Every line with the key of the class is a permission line of it, and the keys of each line are
found. -/
structure ListsPermissions (utils : Utils) (className : Text) (lines : List Text) : Prop where
  short : ∀ line ∈ lines, line.length < 65536
  keys_found : ∀ line ∈ lines, KeysFound utils line
  permission : ∀ line ∈ lines, NamesKey (permissionKey className) line →
    ∃ profile, PermissionLine className profile line

/-- `nullTerminate` takes the blanks at the end of a text. -/
def TakesBlanks (nullTerminate : Text → Text) : Prop :=
  ∀ text, nul ∉ text → text.getLast? ≠ some ' ' → printedString (nullTerminate text) = text

/-- The line is gone past: the output does not end there, and it is blank or has one or two keys. -/
def GoesOn (line : Text) : Prop :=
  tssIsOutputDone line = false ∧
    (tssIsLineBlank line = true ∨ tssFindNumberOfKeys line = 1 ∨ tssFindNumberOfKeys line = 2)

theorem parse_ne_none_iff {utils : Utils} {line : Text} (hfound : KeysFound utils line) :
    tssParseLineForKeys utils line ≠ none ↔
      tssIsLineBlank line = true ∨ tssFindNumberOfKeys line = 1 ∨ tssFindNumberOfKeys line = 2 := by
  constructor
  · intro hparse
    by_contra hnot
    rw [not_or, not_or] at hnot
    obtain ⟨hblank, hone, htwo⟩ := hnot
    apply hparse
    rw [tssParseLineForKeys, if_neg hblank]
    split
    next h => exact absurd h hone
    next h => exact absurd h htwo
    next => rfl
  · rintro (hblank | hkeys)
    · rw [tssParseLineForKeys, if_pos hblank]
      exact Option.some_ne_none _
    · exact hfound hkeys

theorem IsClassName.isKeyPhrase {className : Text} (h : IsClassName className) :
    IsKeyPhrase (permissionKey className) where
  ne_nil := nofun
  length_le := by
    have hlen := h.length_le
    simp only [permissionKey, List.length_append, List.length_cons, List.length_nil,
      tssMaxKeyLength]
    omega
  head_ne := by
    rw [permissionKey]
    simp
  last_ne hlast := by
    rw [permissionKey, List.getLast?_append_of_ne_nil _ h.ne_nil] at hlast
    exact h.no_blank (List.mem_of_getLast? hlast)

/-- The key the handler searches for. -/
theorem searchKey_eq {nullTerminate : Text → Text} (hterm : TakesBlanks nullTerminate)
    {className : Text} (h : IsClassName className) :
    printedString (nullTerminate (snprintf 12 (['X', 'A', ' '] ++ printedString className))) =
      permissionKey className := by
  have hprinted : printedString className = className := by
    apply List.takeWhile_eq_self_iff.mpr
    intro c hc
    apply decide_eq_true
    rintro rfl
    exact h.no_nul hc
  have hlen := h.isKeyPhrase.length_le
  have hwhole : snprintf 12 (permissionKey className) = permissionKey className :=
    List.take_of_length_le (Nat.le_succ_of_le hlen)
  have hnul : nul ∉ permissionKey className := by
    intro hmem
    rcases List.mem_append.mp hmem with hmem | hmem
    · revert hmem
      decide
    · exact h.no_nul hmem
  rw [hprinted]
  change printedString (nullTerminate (snprintf 12 (permissionKey className))) = _
  rw [hwhole]
  exact hterm _ hnul h.isKeyPhrase.last_ne

/-! ## Values up to a position -/

section

variable {utils : Utils}

/-- A value up to a position on the line is read as a field unless it is one character longer than
its buffer. -/
theorem tssFindValueForKey_upTo (hutils : utils.Documented) {line before region : Text}
    {len size : Nat} {found : TssKeyData} (hline : line.take len = before ++ region)
    (hbefore : found.delimPos + tssKeyDelimiterLen = before.length)
    (hlen : len ≤ line.length) (hshort : line.length < 65536) (hsize : size < 65536)
    (hnul : nul ∉ line) (hone : region.length ≠ size + 1) :
    tssFindValueForKey utils line len ⟨found, .zero⟩ 0 1 (zeroBuffer size) =
      some (fieldOf size region) := by
  have hlens : len = before.length + region.length := by
    rw [← List.length_append, ← hline, List.length_take, Nat.min_eq_left hlen]
  have hregion : (line.drop before.length).take region.length = region := by
    have h := List.drop_take (i := before.length) (j := len) (l := line)
    rw [hline, List.drop_left, hlens, Nat.add_sub_cancel_left] at h
    exact h.symm
  have hpos : 0 < before.length := hbefore ▸ Nat.succ_pos _
  have hbuffer : (zeroBuffer size).length = size := List.length_replicate
  simp only [tssFindValueForKey, tssFindValueSingleKey, hbuffer, TssKeys.key, if_true, hbefore]
  by_cases hfits : region.length ≤ size
  · have hval : u32 (valueEnd len before.length size - before.length + 1) = region.length := by
      rw [valueEnd_line (by omega) (by omega) (by omega) (by omega),
        show (len : Int) - 1 - before.length + 1 = region.length by omega]
      exact u32_natCast (by omega)
    rw [copyValue_zeroBuffer hutils hnul hval, if_neg (Nat.not_lt.mpr hfits), hregion,
      fieldOf_short hfits]
  · have hval : u32 (valueEnd len before.length size - before.length + 1) = size := by
      rw [valueEnd_buffer (by omega) hpos (by omega),
        show (before.length : Int) + size - 1 - before.length + 1 = size by omega]
      exact u32_natCast (by omega)
    have hcut : (line.drop before.length).take size = region.take size := by
      conv_rhs => rw [← hregion, List.take_take, Nat.min_eq_left (by omega)]
    rw [copyValue_zeroBuffer hutils hnul hval, if_neg (Nat.lt_irrefl size), hcut, Nat.sub_self,
      fieldOf, List.take_append_of_le_length (by omega)]
    exact congrArg some (List.append_nil _)

end

/-! ## A line -/

/-- What the handler compares: the buffer holds this profile and blanks. -/
def HoldsProfile (tmpBuffer profileName : Text) : Prop :=
  tssGetActualValueLength tmpBuffer = some profileName.length ∧
    tmpBuffer.take profileName.length = profileName

theorem holdsProfile_iff {profile profileName : Text} {n : Nat}
    (hend : ∃ init last, profile = init ++ [last] ∧ last ≠ ' ') (hnul : nul ∉ profile) :
    HoldsProfile (profile ++ blanks n) profileName ↔ profile = profileName := by
  obtain ⟨init, last, rfl, hblank⟩ := hend
  have hlast : last ≠ nul := by
    rintro rfl
    exact hnul (List.mem_append_right init List.mem_cons_self)
  rw [HoldsProfile, tssGetActualValueLength_append_blanks hblank hlast]
  constructor
  · rintro ⟨hlen, htake⟩
    rw [← Option.some.inj hlen, List.take_left] at htake
    exact htake
  · rintro rfl
    exact ⟨rfl, List.take_left⟩

/-- A buffer of zeros holds no profile. -/
theorem not_holdsProfile_zeros (size : Nat) (profileName : Text) :
    ¬ HoldsProfile (zeroBuffer size) profileName := by
  rintro ⟨hlen, -⟩
  have hall : (List.replicate size nul).dropWhile (fun c => c = ' ' ∨ c = nul) = [] :=
    List.dropWhile_eq_nil_iff.mpr fun c hc => by simp [List.eq_of_mem_replicate hc]
  rw [tssGetActualValueLength, zeroBuffer, List.reverse_replicate, hall] at hlen
  cases hlen

section

variable {utils : Utils} {className profile profileName line : Text}

theorem PermissionLine.namesKey (h : PermissionLine className profile line) :
    NamesKey (permissionKey className) line := by
  obtain ⟨pad, rest, ⟨indent, gap, rfl, -⟩, -⟩ := h.keyLine
  exact ⟨gap, blanks indent, profile ++ blanks (pad + 1) ++ (tssOwnerKey ++ rest), by
    simp only [keyText, List.append_assoc]⟩

/-- A permission line parses, and the profile is read from it. -/
theorem PermissionLine.reads (hutils : utils.Documented) (hclass : IsClassName className)
    (h : PermissionLine className profile line) (hshort : line.length < 65536) :
    ∃ keys, tssParseLineForKeys utils line = some (1, keys) ∧
      permittedValue utils (permissionKey className) line keys 1 =
        some (profile ++ blanks (zisSecurityProfileMaxLength - profile.length)) := by
  obtain ⟨pad, rest, hline, hlast, hone⟩ := h.keyLine
  obtain ⟨found, before, hparse, hname, hlen, hsplit, hdelim⟩ :=
    hline.parse hutils hclass.isKeyPhrase
  refine ⟨⟨found, .zero⟩, hparse, ?_⟩
  -- the owner's key ends the region of the value, one blank before it
  obtain ⟨front, hfront⟩ : ∃ front, front = before ++ (profile ++ blanks pad) := ⟨_, rfl⟩
  have hshape : line = front ++ [' '] ++ (tssOwnerKey ++ rest) := by
    rw [hsplit, hfront]
    simp only [List.append_assoc, blanks, List.replicate_succ']
  have howner : utils.lastIndexOfString line tssOwnerKey = some (front ++ [' ']).length := by
    rw [hshape]
    exact lastIndexOfString_last hutils (by decide) _ hlast
  have hlens : front.length + 1 ≤ line.length := by
    rw [hshape, List.append_assoc, List.length_append, List.length_append, List.length_singleton]
    omega
  have hend : u32 (((front ++ [' ']).length : Int) - 1) = front.length := by
    rw [List.length_append, List.length_singleton,
      show ((front.length + 1 : Nat) : Int) - 1 = front.length by omega]
    exact u32_natCast (by omega)
  have htake : line.take front.length = before ++ (profile ++ blanks pad) := by
    rw [hshape, List.append_assoc, List.take_left, hfront]
  have hvalue := tssFindValueForKey_upTo hutils htake hdelim (by omega) hshort
    (show zisSecurityProfileMaxLength < 65536 by decide) h.no_nul
    (by rw [List.length_append, length_blanks]; exact hone)
  rw [permittedValue, tssFindDesiredKey_self hname hlen]
  simp only [howner, hend, hvalue]
  rw [fieldOf_append_blanks h.profile_length]

theorem PermissionLine.profile_no_nul (h : PermissionLine className profile line) :
    nul ∉ profile := by
  obtain ⟨pad, rest, ⟨indent, gap, hline, -⟩, -⟩ := h.keyLine
  intro hmem
  apply h.no_nul
  rw [hline]
  exact List.mem_append_right _ (List.mem_append_left _ (List.mem_append_left _ hmem))

/-- What a line holds under the key: its profile where it is a permission line, and nothing where
it is none. -/
theorem permittedValue_holds (hutils : utils.Documented) (hclass : IsClassName className)
    (hshort : line.length < 65536)
    (hlists : NamesKey (permissionKey className) line →
      ∃ profile, PermissionLine className profile line)
    {numberOfKeys : Nat} {keys : TssKeys}
    (hparse : tssParseLineForKeys utils line = some (numberOfKeys, keys)) :
    ∃ tmpBuffer, permittedValue utils (permissionKey className) line keys numberOfKeys =
        some tmpBuffer ∧
      (HoldsProfile tmpBuffer profileName ↔ PermissionLine className profileName line) := by
  by_cases hnames : NamesKey (permissionKey className) line
  · obtain ⟨profile, hline⟩ := hlists hnames
    obtain ⟨keys', hparse', hvalue⟩ := hline.reads hutils hclass hshort
    cases hparse.symm.trans hparse'
    refine ⟨_, hvalue, ?_⟩
    rw [holdsProfile_iff hline.profile_end hline.profile_no_nul]
    constructor
    · rintro rfl
      exact hline
    · intro hother
      obtain ⟨keys'', hparse'', hvalue'⟩ := hother.reads hutils hclass hshort
      cases hparse.symm.trans hparse''
      have hsame := Option.some.inj (hvalue.symm.trans hvalue')
      apply (holdsProfile_iff hline.profile_end hline.profile_no_nul).mp
      rw [hsame]
      exact (holdsProfile_iff hother.profile_end hother.profile_no_nul).mpr rfl
  · have hnone : tssFindDesiredKey (permissionKey className) keys = none := by
      cases hfind : tssFindDesiredKey (permissionKey className) keys with
      | none => rfl
      | some i =>
        exact absurd (tssFindDesiredKey_names hutils hparse hclass.isKeyPhrase.ne_nil hfind)
          hnames
    refine ⟨zeroBuffer zisSecurityProfileMaxLength, ?_, ?_⟩
    · rw [permittedValue, hnone]
    · constructor
      · intro h
        exact absurd h (not_holdsProfile_zeros _ _)
      · intro h
        exact absurd h.namesKey hnames

/-! ## The output -/

/-- What a line that is gone past leaves of the search. -/
theorem scanPermitted_cons {searchKey : Text} {lines : List Text} {numberOfKeys : Nat}
    {keys : TssKeys} {tmpBuffer : Text} (hdone : tssIsOutputDone line = false)
    (hparse : tssParseLineForKeys utils line = some (numberOfKeys, keys))
    (hvalue : permittedValue utils searchKey line keys numberOfKeys = some tmpBuffer) :
    (HoldsProfile tmpBuffer profileName →
        scanPermitted utils searchKey profileName (line :: lines) = (0, true)) ∧
      (¬ HoldsProfile tmpBuffer profileName →
        scanPermitted utils searchKey profileName (line :: lines) =
          scanPermitted utils searchKey profileName lines) := by
  rw [scanPermitted, hdone, if_neg Bool.false_ne_true]
  simp only [hparse, hvalue]
  exact ⟨fun h => if_pos h, fun h => if_neg h⟩

/-- The search ends at the first permission line of the profile, unless a line before it is not
gone past. -/
theorem scanPermitted_iff (hutils : utils.Documented) (hclass : IsClassName className)
    {lines : List Text} (hlists : ListsPermissions utils className lines) :
    scanPermitted utils (permissionKey className) profileName lines = (0, true) ↔
      ∃ before line after, lines = before ++ line :: after ∧
        PermissionLine className profileName line ∧ ∀ other ∈ before, GoesOn other := by
  induction lines with
  | nil =>
    constructor
    · intro h
      cases h
    · rintro ⟨before, line, after, hlines, -⟩
      cases before <;> cases hlines
  | cons line lines ih =>
    obtain ⟨hshort, hshorts⟩ := List.forall_mem_cons.mp hlists.short
    obtain ⟨hfound, hfounds⟩ := List.forall_mem_cons.mp hlists.keys_found
    obtain ⟨hnames, hnameds⟩ := List.forall_mem_cons.mp hlists.permission
    have htail : ListsPermissions utils className lines := ⟨hshorts, hfounds, hnameds⟩
    have hparses := parse_ne_none_iff hfound
    -- a line that is not gone past ends the search, and is no permission line
    by_cases hgo : GoesOn line
    · obtain ⟨⟨numberOfKeys, keys⟩, hparse⟩ := Option.ne_none_iff_exists'.mp (hparses.mpr hgo.2)
      obtain ⟨tmpBuffer, hvalue, hholds⟩ := @permittedValue_holds utils className profileName
        line hutils hclass hshort hnames _ _ hparse
      have hscan := @scanPermitted_cons utils profileName line _ lines _ _ _ hgo.1 hparse hvalue
      by_cases hline : PermissionLine className profileName line
      · refine iff_of_true (hscan.1 (hholds.mpr hline)) ⟨[], line, lines, rfl, hline, ?_⟩
        intro other hother
        cases hother
      · rw [hscan.2 fun h => hline (hholds.mp h), ih htail]
        constructor
        · rintro ⟨before, found, after, rfl, hfound, hbefore⟩
          exact ⟨line :: before, found, after, rfl, hfound, List.forall_mem_cons.mpr ⟨hgo, hbefore⟩⟩
        · rintro ⟨before, found, after, hlines, hfound, hbefore⟩
          cases before with
          | nil =>
            cases hlines
            exact absurd hfound hline
          | cons other before =>
            cases hlines
            exact ⟨before, found, after, rfl, hfound, (List.forall_mem_cons.mp hbefore).2⟩
    · refine iff_of_false ?_ ?_
      · intro h
        rw [scanPermitted] at h
        split at h
        next => cases h
        next hdone =>
          have hnone : tssParseLineForKeys utils line = none := by
            by_contra hsome
            exact hgo ⟨Bool.eq_false_iff.mpr hdone, hparses.mp hsome⟩
          rw [hnone] at h
          cases h
      · rintro ⟨before, found, after, hlines, hfound, hbefore⟩
        cases before with
        | nil =>
          cases hlines
          obtain ⟨keys, hparse, -⟩ := hfound.reads hutils hclass hshort
          obtain ⟨pad, rest, hkey, -⟩ := hfound.keyLine
          refine hgo ⟨hkey.goes_on hclass.isKeyPhrase (by rw [permissionKey]; simp), hparses.mp ?_⟩
          rw [hparse]
          exact Option.some_ne_none _
        | cons other before =>
          cases hlines
          exact hgo (List.forall_mem_cons.mp hbefore).1

end

/-- **Permissions are found.** Of a list whose lines with the class's key are permission lines, and
whose keys are found, a user is reported as permitted exactly when the command succeeded and a
permission line of the class and the profile comes before every line that ends the output and every
one that is not blank and has no key or more than two. Of the access level nothing is reported. -/
theorem isUserAlreadyPermitted_iff {utils : Utils} (hutils : utils.Documented) (env : AdminEnv)
    (hterm : TakesBlanks env.nullTerminate) {className : Text} (hclass : IsClassName className)
    (profileName : Text) (status : RadminApiStatus) (result : List RadminCommandOutput)
    (hlists : ListsPermissions utils className (outputLines result)) :
    isUserAlreadyPermitted utils env className profileName status result = (0, true) ↔
      status.racfRC = 0 ∧ ∃ before line after, outputLines result = before ++ line :: after ∧
        PermissionLine className profileName line ∧ ∀ other ∈ before, GoesOn other := by
  unfold isUserAlreadyPermitted
  by_cases hstatus : status.racfRC = 0
  · rw [if_neg (not_not_intro hstatus)]
    cases result with
    | nil =>
      refine iff_of_false (fun h => by cases h) ?_
      rintro ⟨-, before, line, after, hlines, -⟩
      cases before <;> cases hlines
    | cons block blocks =>
      simp only [searchKey_eq hterm hclass]
      rw [← scanPermitted_iff hutils hclass hlists]
      simp only [hstatus, true_and]
      split
      next herror =>
        have hdone := tssIsErrorDetected_done herror
        refine iff_of_false (fun h => by cases h) ?_
        cases hlines : block.lines with
        | nil =>
          rw [hlines] at herror
          cases herror
        | cons line lines =>
          rw [hlines, List.headD_cons] at hdone
          rw [outputLines, List.flatMap_cons, hlines, List.cons_append, scanPermitted, if_pos hdone]
          intro h
          cases h
      next => exact Iff.rfl
  · rw [if_pos hstatus]
    refine iff_of_false ?_ fun h => hstatus h.1
    intro h
    cases (Prod.mk.inj h).2

/-! ## Samples -/

/-- A list of a user with a permission, its access line and an end line. -/
def permissionOutput (permission access : Text)
    (short : ∀ line ∈ [permission, access, tssCommandSuccess], line.length < 65536) :
    List RadminCommandOutput :=
  [⟨[permission, access, tssCommandSuccess], short⟩]

def zowePermission : Text := "XA ZOWE = ZOWE.A  OWNER(JOE)".toList

def readAccess : Text := "   ACCESS = READ".toList

theorem zowePermission_line :
    PermissionLine ['Z', 'O', 'W', 'E'] ['Z', 'O', 'W', 'E', '.', 'A'] zowePermission where
  keyLine :=
    ⟨1, ['J', 'O', 'E', ')'], .of_bounded 0 0 rfl (by decide +kernel), by decide, by decide⟩
  profile_end := ⟨['Z', 'O', 'W', 'E', '.'], 'A', rfl, by decide⟩
  profile_length := by decide
  no_nul := by decide

theorem zoweClass : IsClassName ['Z', 'O', 'W', 'E'] where
  ne_nil := nofun
  length_le := by decide
  no_blank := by decide
  no_nul := by decide

theorem lists_zowePermission :
    ListsPermissions .plain ['Z', 'O', 'W', 'E'] [zowePermission, readAccess, tssCommandSuccess] := by
  have unnamed : ∀ line, ¬ permissionKey ['Z', 'O', 'W', 'E'] <:+: line →
      ¬ NamesKey (permissionKey ['Z', 'O', 'W', 'E']) line := by
    rintro line hnot ⟨gap, hnames⟩
    rw [List.append_assoc] at hnames
    exact hnot ((List.prefix_append _ _).isInfix.trans hnames)
  refine ⟨by decide, ?_, ?_⟩
  · intro line hline
    simp only [List.mem_cons, List.not_mem_nil, or_false] at hline
    rcases hline with rfl | rfl | rfl
    · exact fun _ => by decide +kernel
    · exact fun _ => by decide +kernel
    · exact fun h => absurd h (by decide +kernel)
  · intro line hline
    simp only [List.mem_cons, List.not_mem_nil, or_false] at hline
    rcases hline with rfl | rfl | rfl
    · exact fun _ => ⟨_, zowePermission_line⟩
    · exact fun h => absurd h (unnamed _ (by decide +kernel))
    · exact fun h => absurd h (unnamed _ (by decide +kernel))

theorem isUserAlreadyPermitted_iff_sample :
    isUserAlreadyPermitted .plain sampleAdminEnv ['Z', 'O', 'W', 'E']
        ['Z', 'O', 'W', 'E', '.', 'A'] ⟨0, 0, 0⟩
        (permissionOutput zowePermission readAccess (by decide)) = (0, true) := by
  have takesBlanks : TakesBlanks sampleAdminEnv.nullTerminate := by
    intro text hnul _
    apply List.takeWhile_eq_self_iff.mpr
    intro c hc
    apply decide_eq_true
    rintro rfl
    exact hnul hc
  refine (isUserAlreadyPermitted_iff Utils.plain_documented sampleAdminEnv takesBlanks zoweClass _ _
    (permissionOutput zowePermission readAccess (by decide)) lists_zowePermission).mpr
      ⟨rfl, [], zowePermission, [readAccess, tssCommandSuccess], rfl, zowePermission_line, ?_⟩
  intro other hother
  cases hother

/-- No reading of what is found gives the access level of the lines behind. -/
theorem permission_without_access_level :
    ¬ ∃ level : Int × Bool → Text,
      level (isUserAlreadyPermitted .plain sampleAdminEnv ['Z', 'O', 'W', 'E']
        ['Z', 'O', 'W', 'E', '.', 'A'] ⟨0, 0, 0⟩
        (permissionOutput zowePermission "   ACCESS = READ".toList (by decide))) =
          ['R', 'E', 'A', 'D'] ∧
      level (isUserAlreadyPermitted .plain sampleAdminEnv ['Z', 'O', 'W', 'E']
        ['Z', 'O', 'W', 'E', '.', 'A'] ⟨0, 0, 0⟩
        (permissionOutput zowePermission "   ACCESS = ALL".toList (by decide))) =
          ['A', 'L', 'L'] := by
  have same : isUserAlreadyPermitted .plain sampleAdminEnv ['Z', 'O', 'W', 'E']
      ['Z', 'O', 'W', 'E', '.', 'A'] ⟨0, 0, 0⟩
      (permissionOutput zowePermission "   ACCESS = READ".toList (by decide)) =
    isUserAlreadyPermitted .plain sampleAdminEnv ['Z', 'O', 'W', 'E']
      ['Z', 'O', 'W', 'E', '.', 'A'] ⟨0, 0, 0⟩
      (permissionOutput zowePermission "   ACCESS = ALL".toList (by decide)) := by
    decide +kernel
  rintro ⟨level, hread, hall⟩
  rw [same, hall] at hread
  revert hread
  decide

end Zss.Tss
