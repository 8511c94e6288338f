import Mathlib.Data.List.Basic
import Mathlib.Data.List.Flatten

/-!
# Escape codes

A text in which a mark and two digits behind it stand for one letter. Letters that cannot be written
are encoded so; the mark itself is written as it is. A text is read back exactly if it has no mark
(`decode_encode_iff`), and then no other text is encoded like it (`encode_unique`). Whether a text can
be read at all is a matter of the escapes that a scan comes to (`isSome_decode`), which need not be
those that are well formed (`wellEscaped_iff`).
-/

namespace Zss.Lib

/-- A code with a mark. A pair of letters always has a value, but only digits are one. -/
structure EscapeCode (α : Type) where
  mark : α
  escaped : α → Bool
  high : α → α
  low : α → α
  value : α → α → α
  isDigit : α → Bool
  mark_plain : escaped mark = false
  mark_not_digit : isDigit mark = false
  high_digit : ∀ c, escaped c = true → isDigit (high c) = true
  low_digit : ∀ c, escaped c = true → isDigit (low c) = true
  value_digits : ∀ c, escaped c = true → value (high c) (low c) = c
  value_mark : ∀ a b, value a b = mark → a ≠ mark ∧ b ≠ mark

namespace EscapeCode

variable {α : Type} (code : EscapeCode α)

/-! ## Encoding -/

/-- A letter as it is written. -/
def encodeLetter (c : α) : List α :=
  if code.escaped c then [code.mark, code.high c, code.low c] else [c]

def encode (t : List α) : List α := t.flatMap code.encodeLetter

/-- Behind every mark stand two digits. -/
def WellEscaped (t : List α) : Prop :=
  ∀ before behind, t = before ++ code.mark :: behind →
    ∃ a b rest, behind = a :: b :: rest ∧ code.isDigit a = true ∧ code.isDigit b = true

variable {code}

@[simp] theorem encode_nil : code.encode [] = [] := rfl

theorem encodeLetter_plain {c : α} (h : code.escaped c = false) : code.encodeLetter c = [c] :=
  if_neg (by simp [h])

theorem encodeLetter_escaped {c : α} (h : code.escaped c = true) :
    code.encodeLetter c = [code.mark, code.high c, code.low c] := if_pos h

theorem encode_plain {c : α} (h : code.escaped c = false) (t : List α) :
    code.encode (c :: t) = c :: code.encode t := by
  rw [encode, List.flatMap_cons, encodeLetter_plain h]
  rfl

theorem encode_escaped {c : α} (h : code.escaped c = true) (t : List α) :
    code.encode (c :: t) = code.mark :: code.high c :: code.low c :: code.encode t := by
  rw [encode, List.flatMap_cons, encodeLetter_escaped h]
  rfl

theorem ne_mark_of_isDigit {c : α} (h : code.isDigit c = true) : c ≠ code.mark := by
  intro heq
  rw [heq, code.mark_not_digit] at h
  cases h

theorem high_ne_mark {c : α} (h : code.escaped c = true) : code.high c ≠ code.mark :=
  ne_mark_of_isDigit (code.high_digit c h)

theorem low_ne_mark {c : α} (h : code.escaped c = true) : code.low c ≠ code.mark :=
  ne_mark_of_isDigit (code.low_digit c h)

theorem length_encode (t : List α) :
    (code.encode t).length = t.length + 2 * t.countP code.escaped := by
  induction t with
  | nil => rfl
  | cons c t ih =>
    cases hc : code.escaped c with
    | true =>
      rw [encode_escaped hc, List.countP_cons_of_pos hc]
      simp only [List.length_cons, ih]
      omega
    | false =>
      rw [encode_plain hc, List.countP_cons_of_neg (by simp [hc])]
      simp only [List.length_cons, ih]
      omega

theorem wellEscaped_nil : code.WellEscaped [] := by
  intro before behind h
  exact absurd h.symm (List.append_ne_nil_of_right_ne_nil _ (List.cons_ne_nil _ _))

theorem wellEscaped_cons {c : α} {t : List α} : code.WellEscaped (c :: t) ↔
    (c = code.mark → ∃ a b rest, t = a :: b :: rest ∧ code.isDigit a = true ∧
      code.isDigit b = true) ∧ code.WellEscaped t := by
  constructor
  · intro h
    refine ⟨fun hc => h [] t (by rw [hc]; rfl), fun before behind heq => ?_⟩
    exact h (c :: before) behind (by rw [heq]; rfl)
  · rintro ⟨hhead, htail⟩ before behind heq
    cases before with
    | nil =>
      obtain ⟨hc, rfl⟩ := List.cons.inj heq
      exact hhead hc
    | cons d before => exact htail before behind (List.cons.inj heq).2

theorem wellEscaped_plain {c : α} (h : c ≠ code.mark) {t : List α} :
    code.WellEscaped (c :: t) ↔ code.WellEscaped t := by
  rw [wellEscaped_cons]
  exact and_iff_right fun hc => absurd hc h

theorem wellEscaped_mark {a b : α} {t : List α} :
    code.WellEscaped (code.mark :: a :: b :: t) ↔
      (code.isDigit a = true ∧ code.isDigit b = true) ∧ code.WellEscaped t := by
  rw [wellEscaped_cons]
  constructor
  · rintro ⟨hhead, htail⟩
    obtain ⟨a', b', rest, heq, ha, hb⟩ := hhead rfl
    simp only [List.cons.injEq] at heq
    obtain ⟨rfl, rfl, rfl⟩ := heq
    rw [wellEscaped_plain (ne_mark_of_isDigit ha), wellEscaped_plain (ne_mark_of_isDigit hb)] at htail
    exact ⟨⟨ha, hb⟩, htail⟩
  · rintro ⟨⟨ha, hb⟩, htail⟩
    rw [wellEscaped_plain (ne_mark_of_isDigit ha), wellEscaped_plain (ne_mark_of_isDigit hb)]
    exact ⟨fun _ => ⟨a, b, t, rfl, ha, hb⟩, htail⟩

/-! ## Decoding -/

/-- What is left when no two letters are. -/
theorem length_lt_two {t : List α} (h : ∀ a b rest, t = a :: b :: rest → False) : t.length < 2 := by
  match t with
  | [] => exact Nat.zero_lt_two
  | [_] => exact Nat.one_lt_two
  | a :: b :: rest => exact absurd rfl (h a b rest)

variable [DecidableEq α] (code)

/-- The letters that a text stands for, unless it is cut short behind a mark. -/
def decode : List α → Option (List α)
  | [] => some []
  | c :: rest =>
    if c = code.mark then
      match rest with
      | a :: b :: rest => (decode rest).map (code.value a b :: ·)
      | _ => none
    else (decode rest).map (c :: ·)

/-- The pairs behind the marks that a scan comes to, unless it is cut short. -/
def escapes : List α → Option (List (α × α))
  | [] => some []
  | c :: rest =>
    if c = code.mark then
      match rest with
      | a :: b :: rest => (escapes rest).map ((a, b) :: ·)
      | _ => none
    else escapes rest

variable {code}

@[simp] theorem decode_nil : code.decode [] = some [] := rfl

@[simp] theorem decode_mark (a b : α) (t : List α) :
    code.decode (code.mark :: a :: b :: t) = (code.decode t).map (code.value a b :: ·) :=
  if_pos rfl

theorem decode_short {t : List α} (h : t.length < 2) : code.decode (code.mark :: t) = none := by
  cases t with
  | nil => exact if_pos rfl
  | cons a t =>
    cases t with
    | nil => exact if_pos rfl
    | cons b t => simp only [List.length_cons] at h; omega

theorem decode_plain {c : α} (h : c ≠ code.mark) (t : List α) :
    code.decode (c :: t) = (code.decode t).map (c :: ·) := by
  rw [decode.eq_def]
  exact if_neg h

/-! ## Reading back -/

/-- A letter that is not the mark is read back. -/
theorem decode_encode_cons {c : α} (h : c ≠ code.mark) (t : List α) :
    code.decode (code.encode (c :: t)) = (code.decode (code.encode t)).map (c :: ·) := by
  cases hc : code.escaped c with
  | true => rw [encode_escaped hc, decode_mark, code.value_digits c hc]
  | false => rw [encode_plain hc, decode_plain h]

/-- A text without marks is read back. -/
theorem decode_encode {t : List α} (h : code.mark ∉ t) : code.decode (code.encode t) = some t := by
  induction t with
  | nil => exact decode_nil
  | cons c t ih =>
    obtain ⟨hc, ht⟩ := not_or.mp (mt List.mem_cons.mpr h)
    rw [decode_encode_cons (Ne.symm hc), ih ht, Option.map_some]

/-- What a mark in the text swallows: two plain letters, or the mark and a digit of the letter behind
it, or a plain letter and the mark of the next one. -/
theorem decode_encode_mark {t u : List α}
    (h : code.decode (code.encode (code.mark :: t)) = some u) :
    ∃ read kept w, code.decode (code.encode kept) = some w ∧ u = read ++ w ∧
      ((∃ d e, t = d :: e :: kept ∧ read = [code.value d e]) ∨
        (∃ d v l, t = d :: kept ∧ read = [v, l] ∧ v ≠ code.mark) ∨
        (∃ d e v a b, t = d :: e :: kept ∧ read = [v, a, b] ∧ v ≠ code.mark)) := by
  rw [encode_plain code.mark_plain] at h
  cases t with
  | nil => rw [encode_nil, decode_short (by simp)] at h; cases h
  | cons d t =>
    cases hd : code.escaped d with
    | true =>
      rw [encode_escaped hd, decode_mark, decode_plain (low_ne_mark hd)] at h
      simp only [Option.map_map, Option.map_eq_some_iff, Function.comp_apply] at h
      obtain ⟨w, hw, rfl⟩ := h
      exact ⟨_, t, w, hw, rfl, .inr (.inl ⟨d, _, _, rfl, rfl,
        fun heq => (code.value_mark _ _ heq).1 rfl⟩)⟩
    | false =>
      rw [encode_plain hd] at h
      cases t with
      | nil => rw [encode_nil, decode_short (by simp)] at h; cases h
      | cons e t =>
        cases he : code.escaped e with
        | true =>
          rw [encode_escaped he, decode_mark, decode_plain (high_ne_mark he),
            decode_plain (low_ne_mark he)] at h
          simp only [Option.map_map, Option.map_eq_some_iff, Function.comp_apply] at h
          obtain ⟨w, hw, rfl⟩ := h
          exact ⟨_, t, w, hw, rfl, .inr (.inr ⟨d, e, _, _, _, rfl, rfl,
            fun heq => (code.value_mark _ _ heq).2 rfl⟩)⟩
        | false =>
          rw [encode_plain he, decode_mark, Option.map_eq_some_iff] at h
          obtain ⟨w, hw, rfl⟩ := h
          exact ⟨_, t, w, hw, rfl, .inl ⟨d, e, rfl, rfl⟩⟩

/-- What is read of an encoded text has no more letters than the text. -/
theorem length_decode_encode_le (n : Nat) {t u : List α} (hn : t.length ≤ n)
    (h : code.decode (code.encode t) = some u) : u.length ≤ t.length := by
  induction n generalizing t u with
  | zero =>
    obtain rfl := List.length_eq_zero_iff.mp (Nat.le_zero.mp hn)
    rw [encode_nil, decode_nil] at h
    obtain rfl := Option.some.inj h
    exact Nat.le_refl _
  | succ n ih =>
    cases t with
    | nil =>
      rw [encode_nil, decode_nil] at h
      obtain rfl := Option.some.inj h
      exact Nat.le_refl _
    | cons c t =>
      rw [List.length_cons] at hn
      by_cases hc : c = code.mark
      · subst hc
        obtain ⟨read, kept, w, hw, rfl, hread⟩ := decode_encode_mark h
        have hkept : kept.length ≤ n := by
          obtain ⟨d, e, rfl, _⟩ | ⟨d, v, l, rfl, _⟩ | ⟨d, e, v, a, b, rfl, _⟩ := hread <;>
            simp only [List.length_cons] at hn <;> omega
        have hle := ih hkept hw
        obtain ⟨d, e, rfl, rfl⟩ | ⟨d, v, l, rfl, rfl, _⟩ | ⟨d, e, v, a, b, rfl, rfl, _⟩ := hread <;>
          simp only [List.length_append, List.length_cons, List.length_nil] <;> omega
      · rw [decode_encode_cons hc, Option.map_eq_some_iff] at h
        obtain ⟨w, hw, rfl⟩ := h
        have hle := ih (Nat.le_of_succ_le_succ hn) hw
        simp only [List.length_cons]
        omega

/-- A text is not read back from a mark in it on: a mark is read from two plain letters only, and
then the rest is too short. -/
theorem decode_encode_mark_ne (t : List α) :
    code.decode (code.encode (code.mark :: t)) ≠ some (code.mark :: t) := by
  intro h
  obtain ⟨read, kept, w, hw, heq, hread⟩ := decode_encode_mark h
  obtain ⟨d, e, rfl, rfl⟩ | ⟨d, v, l, rfl, rfl, hv⟩ | ⟨d, e, v, a, b, rfl, rfl, hv⟩ := hread
  · have hle := length_decode_encode_le kept.length (Nat.le_refl _) hw
    have hlength := congrArg List.length heq
    simp only [List.length_append, List.length_cons, List.length_nil] at hlength
    omega
  · exact hv (List.cons.inj heq).1.symm
  · exact hv (List.cons.inj heq).1.symm

/-- **What is read back.** -/
theorem decode_encode_iff {t : List α} :
    code.decode (code.encode t) = some t ↔ code.mark ∉ t := by
  refine ⟨fun h => ?_, decode_encode⟩
  induction t with
  | nil => simp
  | cons c t ih =>
    by_cases hc : c = code.mark
    · subst hc
      exact absurd h (decode_encode_mark_ne t)
    · rw [decode_encode_cons hc, Option.map_eq_some_iff] at h
      obtain ⟨u, hu, heq⟩ := h
      obtain rfl := (List.cons.inj heq).2
      exact mt List.mem_cons.mp (not_or.mpr ⟨Ne.symm hc, ih hu⟩)

theorem count_mark_encode (t : List α) :
    (code.encode t).count code.mark = t.count code.mark + t.countP code.escaped := by
  induction t with
  | nil => rfl
  | cons c t ih =>
    cases hc : code.escaped c with
    | true =>
      have hmark : c ≠ code.mark := by
        rintro rfl
        rw [code.mark_plain] at hc
        cases hc
      rw [encode_escaped hc, List.count_cons_self, List.count_cons_of_ne (high_ne_mark hc),
        List.count_cons_of_ne (low_ne_mark hc), List.count_cons_of_ne hmark,
        List.countP_cons_of_pos hc, ih, Nat.add_assoc]
    | false =>
      rw [encode_plain hc, List.count_cons, List.count_cons, ih,
        List.countP_cons_of_neg (by simp [hc])]
      omega

/-- No other text of its length is encoded like a text without marks: the lengths agree only if as
many letters are escaped, and then there are no marks in the other text either. -/
theorem encode_unique {t t' : List α} (hmark : code.mark ∉ t) (hlength : t'.length = t.length)
    (heq : code.encode t' = code.encode t) : t' = t := by
  have hescaped := congrArg List.length heq
  have hmarks := congrArg (List.count code.mark) heq
  rw [length_encode, length_encode, hlength] at hescaped
  rw [count_mark_encode, count_mark_encode, List.count_eq_zero_of_not_mem hmark] at hmarks
  have hmark' : code.mark ∉ t' := List.count_eq_zero.mp (by omega)
  have hread := decode_encode hmark'
  rw [heq, decode_encode hmark] at hread
  exact (Option.some.inj hread).symm

/-! ## What can be read -/

/-- Whether a text can be read depends on what the scan comes to. -/
theorem isSome_decode (t : List α) : (code.decode t).isSome = (code.escapes t).isSome := by
  fun_induction escapes code t with
  | case1 => rfl
  | case2 a b rest ih => rw [decode_mark, Option.isSome_map, Option.isSome_map, ih]
  | case3 rest hshort => rw [decode_short (length_lt_two hshort)]; rfl
  | case4 c rest hc ih => rw [decode_plain hc, Option.isSome_map, ih]

/-- **What is well escaped**: every escape that the scan comes to is made of digits. -/
theorem wellEscaped_iff {t : List α} : code.WellEscaped t ↔
    ∃ pairs, code.escapes t = some pairs ∧
      ∀ p ∈ pairs, code.isDigit p.1 = true ∧ code.isDigit p.2 = true := by
  fun_induction escapes code t with
  | case1 => exact iff_of_true wellEscaped_nil ⟨[], rfl, by simp⟩
  | case2 a b rest ih =>
    rw [wellEscaped_mark, ih]
    constructor
    · rintro ⟨hdigits, pairs, hpairs, hall⟩
      exact ⟨(a, b) :: pairs, by rw [hpairs]; rfl, List.forall_mem_cons.mpr ⟨hdigits, hall⟩⟩
    · rintro ⟨_, hpairs, hall⟩
      obtain ⟨pairs, hrest, rfl⟩ := Option.map_eq_some_iff.mp hpairs
      obtain ⟨hdigits, hall⟩ := List.forall_mem_cons.mp hall
      exact ⟨hdigits, pairs, hrest, hall⟩
  | case3 rest hshort =>
    refine iff_of_false (fun h => ?_) (fun ⟨_, h, _⟩ => Option.some_ne_none _ h.symm)
    obtain ⟨a, b, rest', rfl, _⟩ := (wellEscaped_cons.mp h).1 rfl
    exact hshort a b rest' rfl
  | case4 c rest hc ih => rw [wellEscaped_plain hc, ih]

end EscapeCode

end Zss.Lib
