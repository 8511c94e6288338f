import Zss.Datasets.Catalog
import Zss.Datasets.Copy

/-!
# Names in paths

A path is valid exactly if it is made of a data set name and, where there is one, a member name in
parentheses (`isDatasetPathValid_iff`). What `extractDatasetAndMemberName` finds in it are these two,
in capitals and in fields of blanks: a name in a field of 44 characters, a member in one of eight
(`extractDatasetAndMemberName_eq`). The check looks for the first parentheses behind the prefix and
compares inclusive ends, the extraction looks for them in the whole path; that they agree is because
both find the same two places.

## What is not established

That there is a data set of the name, or that the catalog would have it.
-/

namespace Zss.Datasets

open Zss.Lib

/-! ## Characters in a text -/

variable {t path dsn member : Text} {c : Char}

theorem indexOf_eq_none_iff : indexOf t c = none ↔ c ∉ t := by
  rw [indexOf, List.findIdx?_eq_none_iff]
  constructor
  · intro h hc
    exact absurd (h c hc) (by simp)
  · intro h x hx
    exact beq_eq_false_iff_ne.mpr fun hxc => h (hxc ▸ hx)

/-- A character is found where what stands before it has none of it. -/
theorem indexOf_append_cons {before behind : Text} (h : c ∉ before) :
    indexOf (before ++ c :: behind) c = some before.length := by
  have hnone : List.findIdx? (· == c) before = none := indexOf_eq_none_iff.mpr h
  simp [indexOf, List.findIdx?_append, hnone, List.findIdx?_cons]

/-- A text around the place where a character is found. -/
theorem exists_of_indexOf {i : Nat} (h : indexOf t c = some i) :
    ∃ before behind, t = before ++ c :: behind ∧ c ∉ before ∧ before.length = i := by
  induction t generalizing i with
  | nil => cases h
  | cons c' t ih =>
    rw [indexOf, List.findIdx?_cons] at h
    by_cases hc : c' = c
    · rw [if_pos (beq_iff_eq.mpr hc)] at h
      cases h
      exact ⟨[], t, by rw [hc, List.nil_append], List.not_mem_nil, rfl⟩
    · rw [if_neg (by simpa using hc)] at h
      obtain ⟨i', hi', rfl⟩ := Option.map_eq_some_iff.mp h
      obtain ⟨before, behind, rfl, hbefore, rfl⟩ := ih hi'
      refine ⟨c' :: before, behind, rfl, ?_, rfl⟩
      intro hmem
      rcases List.mem_cons.mp hmem with heq | hmem
      · exact hc heq.symm
      · exact hbefore hmem

theorem indexOf_cons_of_ne {c c' : Char} (h : c' ≠ c) :
    indexOf (c' :: t) c = (indexOf t c).map (· + 1) := by
  rw [indexOf, List.findIdx?_cons, if_neg (by simpa using h)]
  rfl

/-- No other character becomes one that is no letter. -/
theorem toUpper_eq_iff {c c' : Char} (h : c'.toNat < 65) : c.toUpper = c' ↔ c = c' := by
  unfold Char.toUpper
  split
  next hc =>
    have hlow : 97 ≤ c.toNat := hc.1
    have hhigh : c.toNat ≤ 122 := hc.2
    constructor
    · intro heq
      subst heq
      have : (c.val + ('A'.val - 'a'.val)).toNat = c.toNat - 32 := by
        rw [UInt32.toNat_add]
        change (c.toNat + 4294967264) % 4294967296 = c.toNat - 32
        omega
      change (c.val + ('A'.val - 'a'.val)).toNat < 65 at h
      omega
    · intro heq
      subst heq
      omega
  next => rfl

theorem mem_map_toUpper_iff (h : c.toNat < 65) : c ∈ t.map Char.toUpper ↔ c ∈ t := by
  rw [List.mem_map]
  constructor
  · rintro ⟨c', hc', heq⟩
    rwa [← (toUpper_eq_iff h).mp heq]
  · intro hc
    exact ⟨c, hc, (toUpper_eq_iff h).mpr rfl⟩

/-! ## Fields -/

theorem length_padded {width : Nat} {name : Text} (h : name.length ≤ width) :
    (padded width name).length = width := by
  rw [padded, List.length_append, List.length_replicate]
  omega

theorem map_toUpper_padded (width : Nat) (name : Text) :
    (padded width name).map Char.toUpper = padded width (name.map Char.toUpper) := by
  rw [padded, padded, List.map_append, List.map_replicate, List.length_map]
  rfl

theorem trimmed_padded_length_le (width : Nat) (name : Text) :
    (trimmed (padded width name)).length ≤ name.length := by
  rw [padded, trimmed_append_blanks]
  exact trimmed_length_le _

/-! ## What paths are made of -/

/-- A member name as it stands in a path; nothing where there is none. -/
def parenthesized (member : Text) : Text :=
  if member = [] then [] else '(' :: member ++ [')']

/-- The path of a data set or a member. -/
def pathOf (dsn member : Text) : Text :=
  ['/', '/', apostrophe] ++ (dsn ++ parenthesized member ++ [apostrophe])

/-- The names that a path is made of. -/
structure IsPathOf (path dsn member : Text) : Prop where
  dsn_pos : 1 ≤ dsn.length
  dsn_length : dsn.length ≤ 44
  dsn_left : '(' ∉ dsn
  dsn_right : ')' ∉ dsn
  member_length : member.length ≤ 8
  member_right : ')' ∉ member
  path_eq : path = pathOf dsn member

/-- The path in capitals is made of the names in capitals. -/
theorem IsPathOf.map_toUpper (h : IsPathOf path dsn member) :
    IsPathOf (path.map Char.toUpper) (dsn.map Char.toUpper) (member.map Char.toUpper) where
  dsn_pos := by rw [List.length_map]; exact h.dsn_pos
  dsn_length := by rw [List.length_map]; exact h.dsn_length
  dsn_left := by rw [mem_map_toUpper_iff (by decide)]; exact h.dsn_left
  dsn_right := by rw [mem_map_toUpper_iff (by decide)]; exact h.dsn_right
  member_length := by rw [List.length_map]; exact h.member_length
  member_right := by rw [mem_map_toUpper_iff (by decide)]; exact h.member_right
  path_eq := by
    rw [h.path_eq]
    simp only [pathOf, parenthesized, List.map_append, List.map_eq_nil_iff]
    split
    next => rfl
    next =>
      rw [List.map_append]
      rfl

/-- Where the parentheses of a path are, behind its prefix. -/
theorem IsPathOf.places (h : IsPathOf path dsn member) :
    indexOf (dsn ++ parenthesized member ++ [apostrophe]) '(' =
        (if member = [] then none else some dsn.length) ∧
      indexOf (dsn ++ parenthesized member ++ [apostrophe]) ')' =
        if member = [] then none else some (dsn.length + 1 + member.length) := by
  rw [parenthesized]
  split
  next =>
    rw [List.append_nil, indexOf_eq_none_iff, indexOf_eq_none_iff]
    simp only [List.mem_append, List.mem_singleton, not_or]
    exact ⟨⟨h.dsn_left, by decide⟩, h.dsn_right, by decide⟩
  next =>
    constructor
    · rw [List.append_assoc]
      exact indexOf_append_cons h.dsn_left
    · have hbefore : ')' ∉ dsn ++ '(' :: member := by
        simp only [List.mem_append, List.mem_cons, not_or]
        exact ⟨h.dsn_right, by decide, h.member_right⟩
      have hplace : indexOf (_ ++ ')' :: [apostrophe]) ')' = _ := indexOf_append_cons hbefore
      rw [List.length_append, List.length_cons] at hplace
      rw [show dsn ++ ('(' :: member ++ [')']) ++ [apostrophe] =
        dsn ++ '(' :: member ++ ')' :: [apostrophe] from by simp, hplace]
      congr 1
      omega

/-- A path is made of one data set name and one member name. -/
theorem IsPathOf.unique {path dsn member dsn' member' : Text} (h : IsPathOf path dsn member)
    (h' : IsPathOf path dsn' member') : dsn' = dsn ∧ member' = member := by
  have hbody : dsn ++ parenthesized member ++ [apostrophe] =
      dsn' ++ parenthesized member' ++ [apostrophe] :=
    List.append_cancel_left (h.path_eq.symm.trans h'.path_eq)
  have hleft := h.places.1
  have hplace := h'.places.1
  rw [← hbody, hleft] at hplace
  have hnames := List.append_cancel_right hbody
  by_cases hm : member = []
  · rw [if_pos hm] at hplace
    have hm' : member' = [] := by
      by_contra hne
      rw [if_neg hne] at hplace
      cases hplace
    rw [hm, hm', parenthesized, if_pos rfl, List.append_nil, List.append_nil] at hnames
    exact ⟨hnames.symm, hm'.trans hm.symm⟩
  · rw [if_neg hm] at hplace
    have hm' : member' ≠ [] := by
      intro heq
      rw [if_pos heq] at hplace
      cases hplace
    rw [if_neg hm'] at hplace
    rw [parenthesized, parenthesized, if_neg hm, if_neg hm'] at hnames
    obtain ⟨hdsn, hrest⟩ := List.append_inj hnames (Option.some.inj hplace)
    have hmember := List.append_cancel_right (List.cons.inj hrest).2
    exact ⟨hdsn.symm, hmember.symm⟩

/-! ## Valid paths -/

/-- The prefix of a path. -/
theorem eq_prefix_append (h : path.take 3 = ['/', '/', apostrophe]) :
    path = ['/', '/', apostrophe] ++ path.drop 3 := by
  conv_lhs => rw [← List.take_append_drop 3 path, h]

theorem indexOf_prefix (hc : '/' ≠ c) (hc' : apostrophe ≠ c) :
    indexOf (['/', '/', apostrophe] ++ t) c = (indexOf t c).map (· + 3) := by
  rw [List.cons_append, List.cons_append, List.cons_append, List.nil_append,
    indexOf_cons_of_ne hc, indexOf_cons_of_ne hc, indexOf_cons_of_ne hc', Option.map_map,
    Option.map_map]
  rfl

theorem eq_append_singleton {n : Nat} (h : t.drop n = [c]) : t = t.take n ++ [c] := by
  conv_lhs => rw [← List.take_append_drop n t, h]

/-- What the check accepts is made of names. -/
theorem exists_isPathOf (h : isDatasetPathValid path = true) :
    ∃ dsn member, IsPathOf path dsn member := by
  simp only [isDatasetPathValid, Bool.and_eq_true, decide_eq_true_eq, beq_iff_eq] at h
  obtain ⟨⟨⟨⟨hmin, hmax⟩, hprefix⟩, hsuffix⟩, hmatch⟩ := h
  have hpath := eq_prefix_append hprefix
  generalize hbody : path.drop 3 = body at hmatch hpath
  have hlength : path.length = body.length + 3 := by rw [← hbody, List.length_drop]; omega
  have hlast : body.drop (body.length - 1) = [apostrophe] := by
    rw [← hbody, List.drop_drop, List.length_drop, ← hsuffix]
    congr 1
    omega
  have hends := eq_append_singleton hlast
  split at hmatch
  next leftParen rightParen hl hr =>
    simp only [Bool.and_eq_true, decide_eq_true_eq, beq_iff_eq] at hmatch
    obtain ⟨⟨⟨⟨hpos, hle⟩, hend⟩, hlt⟩, hmember⟩ := hmatch
    obtain ⟨dsn, behind, hdsn, hleft, rfl⟩ := exists_of_indexOf hl
    obtain ⟨before, tail, hbefore, hright, rfl⟩ := exists_of_indexOf hr
    -- the right parenthesis stands last but one
    have htail : tail = [apostrophe] := by
      have hone : tail.length = 1 := by
        have := congrArg List.length hbefore
        rw [List.length_append, List.length_cons] at this
        omega
      obtain ⟨c, rfl⟩ := List.length_eq_one_iff.mp hone
      rw [hbefore, List.length_append, List.length_cons, List.length_singleton,
        show before.length + (1 + 1) - 1 = before.length + 1 from rfl,
        List.drop_length_add_append] at hlast
      exact hlast
    -- and the left one before it
    have hmem := hdsn.symm.trans hbefore
    rw [htail] at hmem
    obtain ⟨member, rfl⟩ : ∃ member, before = dsn ++ '(' :: member := by
      have hcut := congrArg (List.take (dsn.length + 1)) hmem
      have hle : dsn.length + 1 ≤ before.length := by omega
      rw [List.take_append_of_le_length hle] at hcut
      refine ⟨before.drop (dsn.length + 1), ?_⟩
      conv_lhs => rw [← List.take_append_drop (dsn.length + 1) before, ← hcut]
      rw [show dsn ++ '(' :: behind = (dsn ++ ['(']) ++ behind from by simp,
        List.take_left' (by simp)]
      simp
    simp only [List.mem_append, List.mem_cons, not_or] at hright
    rw [List.length_append, List.length_cons] at hlt hmember
    have hne : member ≠ [] := by
      intro hnil
      rw [hnil, List.length_nil] at hlt
      omega
    refine ⟨dsn, member, hpos, hle, hleft, hright.1, by omega, hright.2.2, ?_⟩
    rw [hpath, hbefore, htail, pathOf, parenthesized, if_neg hne]
    simp
  next hl hr =>
    simp only [Bool.and_eq_true, decide_eq_true_eq] at hmatch
    rw [indexOf_eq_none_iff] at hl hr
    refine ⟨body.take (body.length - 1), [], ?_, ?_, fun hmem => hl (List.mem_of_mem_take hmem),
      fun hmem => hr (List.mem_of_mem_take hmem), Nat.zero_le _, List.not_mem_nil, ?_⟩
    · rw [List.length_take]
      omega
    · rw [List.length_take]
      omega
    · rw [pathOf, parenthesized, if_pos rfl, List.append_nil, ← hends]
      exact hpath
  next => cases hmatch

/-- What is made of names, the check accepts. -/
theorem IsPathOf.valid (h : IsPathOf path dsn member) : isDatasetPathValid path = true := by
  have hpos := h.dsn_pos
  have hle := h.dsn_length
  have hmember := h.member_length
  have hplaces := h.places
  rw [h.path_eq, isDatasetPathValid, pathOf]
  set body := dsn ++ parenthesized member ++ [apostrophe] with hbody
  have hlength : (['/', '/', apostrophe] ++ body).length = body.length + 3 := by
    rw [List.length_append, Nat.add_comm]
    rfl
  have hsuffix : (['/', '/', apostrophe] ++ body).drop (body.length + 3 - 1) = [apostrophe] := by
    rw [hbody, ← List.append_assoc]
    refine List.drop_left' ?_
    simp only [List.length_append, List.length_cons, List.length_nil]
    omega
  rw [show (['/', '/', apostrophe] ++ body).drop 3 = body from rfl,
    show (['/', '/', apostrophe] ++ body).take 3 = ['/', '/', apostrophe] from rfl, hlength,
    hsuffix, hplaces.1, hplaces.2]
  by_cases hnil : member = []
  · have hbodyLength : body.length = dsn.length + 1 := by
      rw [hbody, hnil, parenthesized, if_pos rfl, List.append_nil, List.length_append,
        List.length_singleton]
    rw [if_pos hnil, if_pos hnil]
    simp only [Bool.and_eq_true, decide_eq_true_eq, beq_self_eq_true, and_true]
    omega
  · have hbodyLength : body.length = dsn.length + member.length + 3 := by
      rw [hbody, parenthesized, if_neg hnil]
      simp only [List.length_append, List.length_cons, List.length_nil]
      omega
    have hmemberPos := List.length_pos_iff.mpr hnil
    rw [if_neg hnil, if_neg hnil]
    simp only [Bool.and_eq_true, decide_eq_true_eq, beq_self_eq_true, and_true, beq_iff_eq]
    omega

/-- **The check accepts exactly what is made of names.** -/
theorem isDatasetPathValid_iff :
    isDatasetPathValid path = true ↔ ∃ dsn member, IsPathOf path dsn member := by
  constructor
  · intro h
    exact exists_isPathOf h
  · intro ⟨_, _, h⟩
    exact h.valid

/-! ## What is extracted -/

/-- How many characters are copied into the field of the data set name. -/
def dsnCopyLength (datasetPath : Text) : Int :=
  match indexOf datasetPath '(' with
  | some leftParen => leftParen - 3
  | none => datasetPath.length - 4

/-- How many characters are copied into the field of the member name. -/
def memberCopyLength (datasetPath : Text) : Int :=
  match indexOf datasetPath '(', indexOf datasetPath ')' with
  | some leftParen, some rightParen => rightParen - leftParen - 1
  | _, _ => 0

/-- Where the parentheses of a path are. -/
theorem IsPathOf.indexOf (h : IsPathOf path dsn member) :
    indexOf path '(' = (if member = [] then none else some (dsn.length + 3)) ∧
      indexOf path ')' = if member = [] then none else some (dsn.length + member.length + 4) := by
  rw [h.path_eq, pathOf, indexOf_prefix (by decide) (by decide),
    indexOf_prefix (by decide) (by decide), h.places.1, h.places.2]
  split
  next => exact ⟨rfl, rfl⟩
  next =>
    refine ⟨rfl, ?_⟩
    rw [Option.map_some]
    congr 1
    omega

/-- What is copied is the two names. -/
theorem IsPathOf.copyLengths (h : IsPathOf path dsn member) :
    dsnCopyLength path = dsn.length ∧ memberCopyLength path = member.length := by
  rw [dsnCopyLength, memberCopyLength, h.indexOf.1, h.indexOf.2]
  by_cases hnil : member = []
  · rw [if_pos hnil, if_pos hnil, h.path_eq, pathOf, parenthesized, if_pos hnil, hnil]
    simp only [List.length_append, List.length_cons, List.length_nil]
    exact ⟨by omega, rfl⟩
  · rw [if_neg hnil, if_neg hnil]
    dsimp only
    exact ⟨by omega, by omega⟩

/-- **What is extracted are the names that the path is made of**, in capitals. -/
theorem extractDatasetAndMemberName_eq (h : IsPathOf path dsn member) :
    extractDatasetAndMemberName path =
      ⟨padded 44 (dsn.map Char.toUpper), padded 8 (member.map Char.toUpper)⟩ := by
  rw [extractDatasetAndMemberName, h.indexOf.1, h.indexOf.2]
  by_cases hnil : member = []
  · rw [if_pos hnil, if_pos hnil]
    dsimp only
    rw [map_toUpper_padded, hnil, h.path_eq, pathOf, parenthesized, if_pos hnil, List.append_nil,
      show (['/', '/', apostrophe] ++ (dsn ++ [apostrophe])).length - 1 = dsn.length + 3 from by
        simp, ← List.append_assoc, List.take_left' (by simp)]
    rfl
  · rw [if_neg hnil, if_neg hnil]
    dsimp only
    have hpath : path = (['/', '/', apostrophe] ++ dsn) ++ '(' :: (member ++ [')', apostrophe]) := by
      rw [h.path_eq, pathOf, parenthesized, if_neg hnil]
      simp
    have hdsn : path.take (dsn.length + 3) = ['/', '/', apostrophe] ++ dsn := by
      rw [hpath]
      exact List.take_left' (by simp)
    have hmember : (path.take (dsn.length + member.length + 4)).drop (dsn.length + 3 + 1) =
        member := by
      rw [show path = (['/', '/', apostrophe] ++ dsn ++ ['(']) ++ (member ++ [')', apostrophe]) from
        by simp [hpath], List.drop_take, List.drop_left' (by simp)]
      exact List.take_left' (by omega)
    rw [map_toUpper_padded, map_toUpper_padded, hdsn, hmember]
    rfl

/-- A path is taken apart as it should be: what is accepted, what is written, and what is found. -/
structure TakenApart (path : Text) : Prop where
  accepted_iff : isDatasetPathValid path = true ↔ ∃ dsn member, IsPathOf path dsn member
  inField : isDatasetPathValid path = true →
    (0 ≤ dsnCopyLength path ∧ dsnCopyLength path ≤ 44) ∧
      0 ≤ memberCopyLength path ∧ memberCopyLength path ≤ 8
  named : isDatasetPathValid path = true → ∃ dsn member,
    (∀ dsn' member', IsPathOf (path.map Char.toUpper) dsn' member' ↔
      dsn' = dsn ∧ member' = member) ∧
    extractDatasetAndMemberName path = ⟨padded 44 dsn, padded 8 member⟩

/-- **Checking and extraction agree on every path.** -/
theorem path_takenApart (path : Text) : TakenApart path where
  accepted_iff := isDatasetPathValid_iff
  inField := by
    intro hvalid
    obtain ⟨dsn, member, h⟩ := isDatasetPathValid_iff.mp hvalid
    rw [h.copyLengths.1, h.copyLengths.2]
    have hdsn := h.dsn_length
    have hmember := h.member_length
    omega
  named := by
    intro hvalid
    obtain ⟨dsn, member, h⟩ := isDatasetPathValid_iff.mp hvalid
    refine ⟨dsn.map Char.toUpper, member.map Char.toUpper, ?_, extractDatasetAndMemberName_eq h⟩
    intro dsn' member'
    constructor
    · intro h'
      exact h.map_toUpper.unique h'
    · intro ⟨hdsn, hmember⟩
      rw [hdsn, hmember]
      exact h.map_toUpper

/-- What a path has to be to name a data set, and what it names. -/
structure NamesDataset (path : Text) (name : DatasetAndMember) : Prop where
  dsn_length : name.dsn.length = 44
  member_length : name.memberName.length = 8
  in_path : NameInPath name.dsn path

/-- A valid path names a data set. -/
theorem namesDataset_of_valid (hvalid : isDatasetPathValid path = true) :
    NamesDataset path (extractDatasetAndMemberName path) := by
  obtain ⟨dsn, member, h⟩ := isDatasetPathValid_iff.mp hvalid
  have hdsn := h.dsn_length
  have hmember := h.member_length
  have htrimmed := trimmed_padded_length_le 44 (dsn.map Char.toUpper)
  rw [List.length_map] at htrimmed
  rw [extractDatasetAndMemberName_eq h]
  refine ⟨length_padded (by rwa [List.length_map]), length_padded (by rwa [List.length_map]), ?_⟩
  rw [NameInPath, h.path_eq, pathOf]
  simp only [List.length_append, List.length_cons, List.length_nil]
  omega

end Zss.Datasets
