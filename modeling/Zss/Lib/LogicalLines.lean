import Mathlib.Data.List.Basic

/-!
# Logical lines

Text in records of a fixed size needs a way to write a line over several of them: a record that ends
in a continuation mark is joined with the next one, and a record that starts as a comment is dropped,
unless it continues another. `LineGrammar.lines` reads records this way; whether a line is pending is
part of its state, and records that end while one is pending have no lines.

A reader that keeps only the text of the pending line, and takes an empty text for no line
(`LineGrammar.forgetfulLines`), differs from it in two ways: it accepts records that end in a
continuation, and it drops a comment that continues a line without text yet. On records that are
`LineGrammar.Unambiguous` both read the same lines (`LineGrammar.forgetfulLines_eq`), and on others
the forgetful reader loses text, which a weight of the elements makes visible
(`LineGrammar.forgetfulLines_lt`).
-/

namespace Zss.Lib

universe u

/-! ## Weights -/

section Weight

variable {α : Type u} (w : α → Nat)

/-- The weight of a text. -/
def weight : List α → Nat
  | [] => 0
  | a :: l => w a + weight l

/-- The weight of lines. -/
def totalWeight : List (List α) → Nat
  | [] => 0
  | l :: ls => weight w l + totalWeight ls

@[simp] theorem weight_nil : weight w ([] : List α) = 0 := rfl

@[simp] theorem weight_cons (a : α) (l : List α) : weight w (a :: l) = w a + weight w l := rfl

@[simp] theorem weight_append (a b : List α) : weight w (a ++ b) = weight w a + weight w b := by
  induction a with
  | nil => simp
  | cons x a ih => simp only [List.cons_append, weight_cons, ih, Nat.add_assoc]

@[simp] theorem totalWeight_nil : totalWeight w ([] : List (List α)) = 0 := rfl

@[simp] theorem totalWeight_cons (l : List α) (ls : List (List α)) :
    totalWeight w (l :: ls) = weight w l + totalWeight w ls := rfl

/-- Lines that are cut weigh no more. -/
theorem totalWeight_map_le {f : List α → List α} (hf : ∀ l, weight w (f l) ≤ weight w l)
    (ls : List (List α)) : totalWeight w (ls.map f) ≤ totalWeight w ls := by
  induction ls with
  | nil => exact Nat.le_refl _
  | cons l ls ih =>
    have := hf l
    rw [List.map_cons, totalWeight_cons, totalWeight_cons]
    omega

/-- Lines of which one loses weight weigh less. -/
theorem totalWeight_map_lt {f : List α → List α} (hf : ∀ l, weight w (f l) ≤ weight w l)
    {ls : List (List α)} {l : List α} (hl : l ∈ ls) (hlt : weight w (f l) < weight w l) :
    totalWeight w (ls.map f) < totalWeight w ls := by
  induction ls with
  | nil => cases hl
  | cons l' ls ih =>
    have rest := totalWeight_map_le w hf ls
    have first := hf l'
    rw [List.map_cons, totalWeight_cons, totalWeight_cons]
    rcases List.mem_cons.mp hl with rfl | hl
    · omega
    · have := ih hl
      omega

end Weight

/-! ## Reading lines -/

/-- How lines are written in records: the continuation mark, and what starts as a comment. -/
structure LineGrammar (α : Type u) where
  mark : α
  comment : List α → Bool

namespace LineGrammar

variable {α : Type u} [DecidableEq α] (g : LineGrammar α)

/-- The record is joined with the next one. -/
def continues (record : List α) : Bool := record.getLast? = some g.mark

/-- The record without its continuation mark. -/
def text (record : List α) : List α := if g.continues record then record.dropLast else record

/-- The line pending after a record that is not dropped. -/
def next (line record : List α) : Option (List α) := if g.continues record then some line else none

/-- The lines of records, read after a pending line. -/
def lines : Option (List α) → List (List α) → Option (List (List α))
  | none, [] => some []
  | some _, [] => none
  | pending, record :: records =>
    if pending.isNone && g.comment record then lines none records
    else
      let line := pending.getD [] ++ g.text record
      if g.continues record then lines (some line) records
      else (lines none records).map (line :: ·)

/-- The lines a reader completes that takes an empty pending text for no pending line. -/
def forgetfulLines : List α → List (List α) → List (List α)
  | _, [] => []
  | pending, record :: records =>
    if pending.isEmpty && g.comment record then forgetfulLines pending records
    else
      let line := pending ++ g.text record
      if g.continues record then forgetfulLines line records
      else line :: forgetfulLines [] records

/-- No comment continues a line that has no text yet. -/
def Unambiguous : Option (List α) → List (List α) → Prop
  | _, [] => True
  | pending, record :: records =>
    if pending.isNone && g.comment record then Unambiguous none records
    else
      ¬ (pending = some [] ∧ g.comment record = true) ∧
        Unambiguous (g.next (pending.getD [] ++ g.text record) record) records

/-! ## The same lines -/

/-- **On unambiguous records the forgetful reader reads the lines.** -/
theorem forgetfulLines_eq {pending : Option (List α)} {records ls : List (List α)}
    (unambiguous : g.Unambiguous pending records) (h : g.lines pending records = some ls) :
    g.forgetfulLines (pending.getD []) records = ls := by
  induction records generalizing pending ls with
  | nil =>
    cases pending with
    | none => exact Option.some.inj h
    | some => cases h
  | cons record records ih =>
    simp only [lines, forgetfulLines, Unambiguous] at h unambiguous ⊢
    by_cases hdrop : (pending.isNone && g.comment record) = true
    · rw [if_pos hdrop] at h unambiguous
      rw [Bool.and_eq_true] at hdrop
      obtain rfl := Option.isNone_iff_eq_none.mp hdrop.1
      rw [if_pos (by simpa using hdrop.2)]
      exact ih unambiguous h
    · rw [if_neg hdrop] at h unambiguous
      have hkeep : ¬ ((pending.getD []).isEmpty && g.comment record) = true := by
        intro hempty
        rw [Bool.and_eq_true, List.isEmpty_iff] at hempty
        cases pending with
        | none => exact hdrop (by simpa using hempty.2)
        | some line => exact unambiguous.1 ⟨congrArg some hempty.1, hempty.2⟩
      rw [if_neg hkeep]
      have rest := unambiguous.2
      unfold next at rest
      by_cases hcont : g.continues record = true
      · rw [if_pos hcont] at h rest ⊢
        exact ih rest h
      · rw [if_neg hcont] at h rest ⊢
        obtain ⟨ls', hls', rfl⟩ := Option.map_eq_some_iff.mp h
        rw [← ih rest hls', Option.getD_none]

/-! ## The text that is lost -/

variable (w : α → Nat)

/-- The forgetful reader never completes more text than there is, also where it has forgotten some
of the pending line already. -/
theorem forgetfulLines_le {pending : Option (List α)} {kept : List α} {records ls : List (List α)}
    (hnone : pending = none → kept = []) (h : g.lines pending records = some ls) :
    totalWeight w (g.forgetfulLines kept records) + weight w (pending.getD []) ≤
      totalWeight w ls + weight w kept := by
  induction records generalizing pending kept ls with
  | nil =>
    cases pending with
    | none => simp [forgetfulLines]
    | some => cases h
  | cons record records ih =>
    simp only [lines, forgetfulLines] at h ⊢
    by_cases hdrop : (pending.isNone && g.comment record) = true
    · rw [if_pos hdrop] at h
      rw [Bool.and_eq_true] at hdrop
      obtain rfl := Option.isNone_iff_eq_none.mp hdrop.1
      obtain rfl := hnone rfl
      rw [if_pos (by simpa using hdrop.2)]
      exact ih (fun _ => rfl) h
    · rw [if_neg hdrop] at h
      by_cases hforgets : (kept.isEmpty && g.comment record) = true
      · -- the record is dropped, though it continues a line
        rw [if_pos hforgets]
        rw [Bool.and_eq_true, List.isEmpty_iff] at hforgets
        obtain ⟨rfl, -⟩ := hforgets
        by_cases hcont : g.continues record = true
        · rw [if_pos hcont] at h
          have := @ih (some _) [] _ nofun h
          simp only [Option.getD_some, weight_append, weight_nil] at this ⊢
          omega
        · rw [if_neg hcont] at h
          obtain ⟨ls', hls', rfl⟩ := Option.map_eq_some_iff.mp h
          have := @ih none [] _ (fun _ => rfl) hls'
          simp only [Option.getD_none, weight_nil, totalWeight_cons, weight_append] at this ⊢
          omega
      · rw [if_neg hforgets]
        by_cases hcont : g.continues record = true
        · rw [if_pos hcont] at h ⊢
          have := @ih (some _) (kept ++ g.text record) _ nofun h
          simp only [Option.getD_some, weight_append] at this ⊢
          omega
        · rw [if_neg hcont] at h ⊢
          obtain ⟨ls', hls', rfl⟩ := Option.map_eq_some_iff.mp h
          have := @ih none [] _ (fun _ => rfl) hls'
          simp only [Option.getD_none, weight_nil, totalWeight_cons, weight_append] at this ⊢
          omega

/-- **On other records the forgetful reader loses text.** -/
theorem forgetfulLines_lt {pending : Option (List α)} {records ls : List (List α)}
    (heavy : ∀ record, g.comment record = true → 0 < weight w (g.text record))
    (ambiguous : ¬ g.Unambiguous pending records) (h : g.lines pending records = some ls) :
    totalWeight w (g.forgetfulLines (pending.getD []) records) < totalWeight w ls := by
  induction records generalizing pending ls with
  | nil => exact absurd trivial ambiguous
  | cons record records ih =>
    simp only [lines, forgetfulLines, Unambiguous] at h ambiguous ⊢
    by_cases hdrop : (pending.isNone && g.comment record) = true
    · rw [if_pos hdrop] at h ambiguous
      rw [Bool.and_eq_true] at hdrop
      obtain rfl := Option.isNone_iff_eq_none.mp hdrop.1
      rw [if_pos (by simpa using hdrop.2)]
      exact ih ambiguous h
    · rw [if_neg hdrop] at h ambiguous
      by_cases hlost : pending = some [] ∧ g.comment record = true
      · obtain ⟨rfl, hcomment⟩ := hlost
        have := heavy record hcomment
        rw [if_pos (by simpa using hcomment)]
        by_cases hcont : g.continues record = true
        · rw [if_pos hcont] at h
          have := @forgetfulLines_le _ _ g w (some _) [] _ _ nofun h
          simp only [Option.getD_some, List.nil_append, weight_nil] at this ⊢
          omega
        · rw [if_neg hcont] at h
          obtain ⟨ls', hls', rfl⟩ := Option.map_eq_some_iff.mp h
          have := @forgetfulLines_le _ _ g w none [] _ _ (fun _ => rfl) hls'
          simp only [Option.getD_none, Option.getD_some, List.nil_append, weight_nil,
            totalWeight_cons] at this ⊢
          omega
      · have hkeep : ¬ ((pending.getD []).isEmpty && g.comment record) = true := by
          intro hempty
          rw [Bool.and_eq_true, List.isEmpty_iff] at hempty
          cases pending with
          | none => exact hdrop (by simpa using hempty.2)
          | some line => exact hlost ⟨congrArg some hempty.1, hempty.2⟩
        rw [if_neg hkeep]
        have rest : ¬ g.Unambiguous (g.next (pending.getD [] ++ g.text record) record) records :=
          fun hrest => ambiguous ⟨hlost, hrest⟩
        unfold next at rest
        by_cases hcont : g.continues record = true
        · rw [if_pos hcont] at h rest ⊢
          exact ih rest h
        · rw [if_neg hcont] at h rest ⊢
          obtain ⟨ls', hls', rfl⟩ := Option.map_eq_some_iff.mp h
          have := ih rest hls'
          simp only [Option.getD_none, totalWeight_cons] at this ⊢
          omega

end LineGrammar

end Zss.Lib
