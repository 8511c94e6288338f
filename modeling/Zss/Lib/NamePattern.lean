import Mathlib.Data.List.Infix

/-!
# Patterns of qualified names

A qualified name is a text in which a separator stands between its qualifiers. A pattern of a name
is a list of pieces, one for each qualifier or one for any number of them; the piece of a qualifier
is a pattern over its letters, made in the same way. A pattern without wildcards matches itself alone
(`matchesName_plain`), and with the piece for any number of qualifiers behind it, the names that it
is a prefix of, qualifier by qualifier (`matchesName_below`).
-/

namespace Zss.Lib

/-- A piece of a pattern: an item that is accepted, or any number of items. -/
inductive Piece (α : Type) where
  | one (accepts : α → Bool)
  | any

namespace Piece

variable {α : Type}

/-- The list is made of what the pieces stand for. -/
def matchesList : List (Piece α) → List α → Bool
  | [] => List.isEmpty
  | .one accepts :: pieces => fun
    | [] => false
    | x :: xs => accepts x && matchesList pieces xs
  | .any :: pieces => fun xs => xs.tails.any (matchesList pieces)

/-- The piece for one item alone. -/
def exactly [BEq α] (x : α) : Piece α := .one (· == x)

variable [BEq α] [LawfulBEq α]

theorem matchesList_exactly {ys xs : List α} :
    matchesList (ys.map exactly) xs = true ↔ xs = ys := by
  induction ys generalizing xs with
  | nil => exact List.isEmpty_iff
  | cons y ys ih =>
    cases xs with
    | nil => exact iff_of_false Bool.false_ne_true (List.cons_ne_nil y ys).symm
    | cons x xs =>
      rw [List.map_cons, exactly, matchesList, Bool.and_eq_true, beq_iff_eq, ih, List.cons.injEq]

omit [BEq α] [LawfulBEq α] in
theorem matchesList_any (xs : List α) : matchesList [.any] xs = true := by
  rw [matchesList, List.any_eq_true]
  exact ⟨[], (List.mem_tails _ _).mpr (List.nil_suffix ..), rfl⟩

theorem matchesList_exactly_any {ys xs : List α} :
    matchesList (ys.map exactly ++ [.any]) xs = true ↔ ys <+: xs := by
  induction ys generalizing xs with
  | nil => exact iff_of_true (matchesList_any xs) (List.nil_prefix ..)
  | cons y ys ih =>
    cases xs with
    | nil => exact iff_of_false Bool.false_ne_true fun h =>
        List.cons_ne_nil y ys (List.prefix_nil.mp h)
    | cons x xs =>
      rw [List.map_cons, List.cons_append, exactly, matchesList, Bool.and_eq_true, beq_iff_eq, ih,
        List.cons_prefix_cons, eq_comm]

end Piece

/-! ## Qualified names -/

/-- How a pattern is written: what stands between qualifiers, the letter for any number of letters,
and that for one letter. A qualifier of two letters for any number stands for any qualifiers. -/
structure PatternSyntax (α : Type) where
  separator : α
  many : α
  single : α

namespace PatternSyntax

variable {α : Type} [DecidableEq α] (s : PatternSyntax α)

def letterPiece (c : α) : Piece α :=
  if c = s.many then .any else if c = s.single then .one fun _ => true else .exactly c

def qualifierPiece (qualifier : List α) : Piece (List α) :=
  if qualifier = [s.many, s.many] then .any
  else .one (Piece.matchesList (qualifier.map s.letterPiece))

/-- The pattern matches the name. -/
def matchesName (pattern name : List α) : Bool :=
  Piece.matchesList ((pattern.splitOn s.separator).map s.qualifierPiece) (name.splitOn s.separator)

/-- There is no wildcard in the text. -/
def Plain (text : List α) : Prop := ∀ c ∈ text, c ≠ s.many ∧ c ≠ s.single

instance (text : List α) : Decidable (s.Plain text) :=
  inferInstanceAs (Decidable (∀ c ∈ text, c ≠ s.many ∧ c ≠ s.single))

variable {s}

/-- The qualifiers of a text have its letters. -/
theorem mem_of_mem_qualifier {text qualifier : List α} {c : α}
    (hq : qualifier ∈ text.splitOn s.separator) (hc : c ∈ qualifier) : c ∈ text := by
  induction text generalizing qualifier with
  | nil =>
    rw [List.splitOn_nil, List.mem_singleton] at hq
    rw [hq] at hc
    exact hc
  | cons x text ih =>
    rw [List.splitOn_cons_eq_if_modifyHead] at hq
    split at hq
    next =>
      rcases List.mem_cons.mp hq with rfl | hq
      · cases hc
      · exact List.mem_cons_of_mem _ (ih hq hc)
    next =>
      cases hsplit : text.splitOn s.separator with
      | nil => exact absurd hsplit (List.splitOn_ne_nil _ _)
      | cons head tail =>
        rw [hsplit] at hq ih
        rcases List.mem_cons.mp hq with rfl | hq
        · rcases List.mem_cons.mp hc with rfl | hc
          · exact List.mem_cons_self ..
          · exact List.mem_cons_of_mem _ (ih (List.mem_cons_self ..) hc)
        · exact List.mem_cons_of_mem _ (ih (List.mem_cons_of_mem _ hq) hc)

theorem letterPiece_plain {c : α} (h : c ≠ s.many ∧ c ≠ s.single) :
    s.letterPiece c = .exactly c := by
  rw [letterPiece, if_neg h.1, if_neg h.2]

/-- A qualifier without wildcards is the piece for itself. -/
theorem qualifierPiece_plain {qualifier : List α} (h : s.Plain qualifier) :
    s.qualifierPiece qualifier = .exactly qualifier := by
  have hne : qualifier ≠ [s.many, s.many] := by
    rintro rfl
    exact (h s.many (List.mem_cons_self ..)).1 rfl
  have hletters : qualifier.map s.letterPiece = qualifier.map Piece.exactly :=
    List.map_congr_left fun c hc => letterPiece_plain (h c hc)
  rw [qualifierPiece, if_neg hne, hletters, Piece.exactly]
  refine congrArg Piece.one (funext fun letters => ?_)
  rw [Bool.eq_iff_iff, Piece.matchesList_exactly, beq_iff_eq]

theorem qualifierPieces_plain {text : List α} (h : s.Plain text) :
    (text.splitOn s.separator).map s.qualifierPiece =
      (text.splitOn s.separator).map Piece.exactly :=
  List.map_congr_left fun _ hq =>
    qualifierPiece_plain fun c hc => h c (mem_of_mem_qualifier hq hc)

theorem splitOn_injective {text text' : List α}
    (h : text.splitOn s.separator = text'.splitOn s.separator) : text = text' := by
  calc text = [s.separator].intercalate (text.splitOn s.separator) :=
        (List.intercalate_splitOn _).symm
    _ = [s.separator].intercalate (text'.splitOn s.separator) := by rw [h]
    _ = text' := List.intercalate_splitOn _

/-- **A name without wildcards matches itself alone.** -/
theorem matchesName_plain {pattern name : List α} (h : s.Plain pattern) :
    s.matchesName pattern name = true ↔ name = pattern := by
  rw [matchesName, qualifierPieces_plain h, Piece.matchesList_exactly]
  exact ⟨splitOn_injective, fun heq => by rw [heq]⟩

omit [DecidableEq α] in
/-- Qualifiers put after qualifiers are separated from them. -/
theorem intercalate_append {sep : α} {qs rest : List (List α)} (hqs : qs ≠ []) (hrest : rest ≠ []) :
    [sep].intercalate (qs ++ rest) = [sep].intercalate qs ++ sep :: [sep].intercalate rest := by
  induction qs with
  | nil => exact absurd rfl hqs
  | cons q qs ih =>
    cases qs with
    | nil =>
      rw [List.singleton_append, List.intercalate_cons_of_ne_nil hrest, List.intercalate_singleton,
        List.append_assoc, List.singleton_append]
    | cons q' qs =>
      rw [List.cons_append, List.cons_append, List.intercalate_cons_cons,
        List.intercalate_cons_cons, ← List.cons_append, ih (List.cons_ne_nil _ _)]
      simp only [List.append_assoc]

/-- The qualifiers of one name begin another's exactly if the name does, up to a separator. -/
theorem splitOn_prefix_iff {text name : List α} :
    text.splitOn s.separator <+: name.splitOn s.separator ↔
      name = text ∨ text ++ [s.separator] <+: name := by
  constructor
  · rintro ⟨rest, hrest⟩
    have hname : name = [s.separator].intercalate (text.splitOn s.separator ++ rest) := by
      rw [hrest, List.intercalate_splitOn]
    cases rest with
    | nil => exact .inl (by rw [hname, List.append_nil, List.intercalate_splitOn])
    | cons q rest =>
      rw [intercalate_append (List.splitOn_ne_nil _ _) (List.cons_ne_nil _ _),
        List.intercalate_splitOn] at hname
      exact .inr ⟨_, by rw [hname, List.append_assoc, List.singleton_append]⟩
  · rintro (rfl | ⟨rest, rfl⟩)
    · exact List.prefix_rfl
    · rw [List.append_assoc, List.singleton_append, List.splitOn_append_cons_self]
      exact List.prefix_append ..

/-- **A name with the piece for any qualifiers behind it** matches itself, and what has it and a
separator in front. -/
theorem matchesName_below {pattern name : List α} (h : s.Plain pattern)
    (hsep : s.separator ≠ s.many) :
    s.matchesName (pattern ++ s.separator :: [s.many, s.many]) name = true ↔
      name = pattern ∨ pattern ++ [s.separator] <+: name := by
  have hlast : [s.many, s.many].splitOn s.separator = [[s.many, s.many]] :=
    List.splitOn_eq_singleton (by simpa using hsep)
  rw [matchesName, List.splitOn_append_cons_self, hlast, List.map_append,
    qualifierPieces_plain h, List.map_singleton, qualifierPiece, if_pos rfl,
    Piece.matchesList_exactly_any, splitOn_prefix_iff]

end PatternSyntax

end Zss.Lib
