import Mathlib.Data.List.Basic

/-!
# Keyword paths

A path of segments that names nested collections: a keyword, a value in its collection, the keyword
of the next collection, and so on, stopping anywhere. `Names` is the grammar with its parse. A path
is also read by position, the keywords at the even segments and the values after them; `names_iff`
says that the two readings agree.
-/

namespace Zss.Lib.KeywordPath

universe u
variable {α : Type u}

/-- How a path names one collection: not at all, without a value in it, or with one. -/
inductive Naming (α : Type u) where
  | absent
  | bare
  | given (value : α)

/-- `Names keywords path names`: the path is one of the keywords' grammar, and names their
collections so. -/
inductive Names : List α → List α → List (Naming α) → Prop
  | stop (keywords : List α) : Names keywords [] (keywords.map fun _ => .absent)
  | bare (keyword : α) (keywords : List α) :
    Names (keyword :: keywords) [keyword] (.bare :: keywords.map fun _ => .absent)
  | given (keyword value : α) {keywords path : List α} {names : List (Naming α)} :
    Names keywords path names →
    Names (keyword :: keywords) (keyword :: value :: path) (.given value :: names)

/-- What the segments of a keyword's place say of its collection. -/
def namingAt (path : List α) (i : Nat) : Naming α :=
  match path[2 * i]?, path[2 * i + 1]? with
  | none, _ => .absent
  | some _, none => .bare
  | some _, some value => .given value

/-- The keywords of the path that are there are the right ones. -/
def KeywordsAgree (keywords path : List α) : Prop :=
  ∀ i keyword, keywords[i]? = some keyword → ∀ segment ∈ path[2 * i]?, segment = keyword

/-! ## Reading by position -/

theorem namingAt_nil (i : Nat) : namingAt ([] : List α) i = .absent := rfl

theorem namingAt_single_succ (segment : α) (i : Nat) : namingAt [segment] (i + 1) = .absent := rfl

theorem keywordsAgree_nil (keywords : List α) : KeywordsAgree keywords [] := by
  intro i keyword _ segment h
  cases h

theorem keywordsAgree_single (keyword segment : α) (keywords : List α) :
    KeywordsAgree (keyword :: keywords) [segment] ↔ segment = keyword := by
  constructor
  · intro agree
    exact agree 0 keyword rfl segment rfl
  · intro same i keyword' at_i segment' h
    cases i with
    | zero =>
      cases at_i
      cases h
      exact same
    | succ i => cases h

theorem keywordsAgree_cons (keyword segment value : α) (keywords path : List α) :
    KeywordsAgree (keyword :: keywords) (segment :: value :: path) ↔
      segment = keyword ∧ KeywordsAgree keywords path := by
  constructor
  · intro agree
    refine ⟨agree 0 keyword rfl segment rfl, ?_⟩
    intro i keyword' at_i segment' h
    exact agree (i + 1) keyword' at_i segment' h
  · intro ⟨same, agree⟩ i keyword' at_i segment' h
    cases i with
    | zero =>
      cases at_i
      cases h
      exact same
    | succ i => exact agree i keyword' at_i segment' h

theorem map_absent (keywords : List α) {read : Nat → Naming α} (absent : ∀ i, read i = .absent) :
    (List.range keywords.length).map read = keywords.map fun _ => .absent := by
  have constant : read = fun _ => .absent := funext absent
  rw [constant, List.map_const', List.map_const', List.length_range]

theorem readings_cons (keyword : α) (keywords path : List α) :
    (List.range (keyword :: keywords).length).map (namingAt path) =
      namingAt path 0 :: (List.range keywords.length).map fun i => namingAt path (i + 1) := by
  rw [List.length_cons, List.range_succ_eq_map, List.map_cons, List.map_map]
  rfl

/-! ## The grammar -/

/-- **The grammar by position.** A path is one of the grammar when it is not too long and its
keywords are right; what it names is then read off its segments. -/
theorem names_iff {keywords path : List α} {names : List (Naming α)} :
    Names keywords path names ↔
      path.length ≤ 2 * keywords.length ∧ KeywordsAgree keywords path ∧
        names = (List.range keywords.length).map (namingAt path) := by
  induction keywords generalizing path names with
  | nil =>
    constructor
    · intro h
      cases h
      exact ⟨Nat.le_refl 0, keywordsAgree_nil [], rfl⟩
    · intro ⟨short, _, same⟩
      cases List.eq_nil_of_length_eq_zero (Nat.le_zero.mp short)
      subst same
      exact .stop []
  | cons keyword keywords ih =>
    match path with
    | [] =>
      have read := map_absent (keyword :: keywords) (namingAt_nil (α := α))
      rw [read]
      constructor
      · intro h
        cases h
        exact ⟨Nat.zero_le _, keywordsAgree_nil _, rfl⟩
      · intro ⟨_, _, same⟩
        subst same
        exact .stop _
    | [segment] =>
      have read := map_absent keywords (namingAt_single_succ segment)
      rw [readings_cons, keywordsAgree_single]
      constructor
      · intro h
        cases h
        refine ⟨?_, rfl, congrArg (Naming.bare :: ·) read.symm⟩
        simp only [List.length_cons, List.length_nil]
        omega
      · intro ⟨_, same, named⟩
        subst same named
        exact (congrArg (Naming.bare :: ·) read) ▸ .bare segment keywords
    | segment :: value :: path =>
      rw [readings_cons, keywordsAgree_cons]
      constructor
      · intro h
        cases h with
        | given _ _ h =>
          obtain ⟨short, agree, named⟩ := ih.mp h
          refine ⟨?_, ⟨rfl, agree⟩, congrArg (Naming.given value :: ·) named⟩
          simp only [List.length_cons]
          omega
      · intro ⟨short, ⟨same, agree⟩, named⟩
        subst same named
        refine .given segment value (ih.mpr ⟨?_, agree, rfl⟩)
        simp only [List.length_cons] at short
        omega

/-- **The parse is unique.** -/
theorem Names.unique {keywords path : List α} {names names' : List (Naming α)}
    (h : Names keywords path names) (h' : Names keywords path names') : names = names' :=
  (names_iff.mp h).2.2.trans (names_iff.mp h').2.2.symm

/-- A collection is named only inside a value of the collection before it. -/
theorem given_of_named {path : List α} {i : Nat} (named : namingAt path (i + 1) ≠ .absent) :
    ∃ value, namingAt path i = .given value := by
  unfold namingAt at named ⊢
  have inside : 2 * (i + 1) < path.length := by
    by_contra h
    rw [List.getElem?_eq_none (Nat.le_of_not_lt h)] at named
    exact named rfl
  rw [List.getElem?_eq_getElem (by omega : 2 * i < path.length),
    List.getElem?_eq_getElem (by omega : 2 * i + 1 < path.length)]
  exact ⟨_, rfl⟩

end Zss.Lib.KeywordPath
