import Mathlib.Data.List.AList

/-!
# Tables

A table by its contract: one value a key, a `put` of a known key replaces the value, a `prune`
removes the entries that match. What each operation does to a later lookup is said once, as an
equation for the key it names and as an equivalence for all keys.
-/

namespace Zss.Lib

universe u v

/-- One value a key. -/
abbrev Table (κ : Type u) (ν : Type v) := AList fun _ : κ => ν

namespace Table

variable {κ : Type u} {ν : Type v} [DecidableEq κ]

/-- No entry. -/
def empty : Table κ ν := (∅ : AList fun _ : κ => ν)

/-- The value of a key. -/
def get (t : Table κ ν) (k : κ) : Option ν := AList.lookup k t

/-- A value for a key, whether it has one or not. -/
def put (t : Table κ ν) (k : κ) (x : ν) : Table κ ν := AList.insert k x t

/-- The key without a value. -/
def remove (t : Table κ ν) (k : κ) : Table κ ν := AList.erase k t

/-- The keys and values, newest first. -/
def entries (t : Table κ ν) : List (κ × ν) := (AList.entries t).map fun e => (e.1, e.2)

/-- The entries that match taken out. -/
def prune (t : Table κ ν) (p : κ → ν → Bool) : Table κ ν where
  entries := (AList.entries t).filter fun e => !p e.1 e.2
  nodupKeys := t.nodupKeys.sublist List.filter_sublist

@[simp] theorem get_empty (k : κ) : (empty : Table κ ν).get k = none := rfl

@[simp] theorem get_put_self (t : Table κ ν) (k : κ) (x : ν) : (t.put k x).get k = some x :=
  AList.lookup_insert t

theorem get_put_ne (t : Table κ ν) {k l : κ} (x : ν) (hne : l ≠ k) :
    (t.put k x).get l = t.get l :=
  AList.lookup_insert_ne hne

@[simp] theorem get_remove_self (t : Table κ ν) (k : κ) : (t.remove k).get k = none :=
  AList.lookup_erase k t

theorem get_remove_ne (t : Table κ ν) {k l : κ} (hne : l ≠ k) : (t.remove k).get l = t.get l :=
  AList.lookup_erase_ne hne

theorem get_put_iff {t : Table κ ν} {k l : κ} {x y : ν} :
    (t.put k x).get l = some y ↔ (l = k ∧ x = y) ∨ (l ≠ k ∧ t.get l = some y) := by
  by_cases hl : l = k
  · subst hl
    rw [get_put_self]
    exact ⟨fun h => .inl ⟨rfl, Option.some.inj h⟩, fun h => by
      rcases h with ⟨-, rfl⟩ | ⟨hne, -⟩
      · rfl
      · exact absurd rfl hne⟩
  · rw [get_put_ne t x hl]
    exact ⟨fun h => .inr ⟨hl, h⟩, fun h => by
      rcases h with ⟨heq, -⟩ | ⟨-, h⟩
      · exact absurd heq hl
      · exact h⟩

theorem get_remove_iff {t : Table κ ν} {k l : κ} {y : ν} :
    (t.remove k).get l = some y ↔ l ≠ k ∧ t.get l = some y := by
  by_cases hl : l = k
  · subst hl
    rw [get_remove_self]
    exact ⟨nofun, fun h => absurd rfl h.1⟩
  · rw [get_remove_ne t hl]
    exact ⟨fun h => ⟨hl, h⟩, And.right⟩

/-- A table's entries are what its keys look up. -/
theorem mem_entries {t : Table κ ν} {k : κ} {x : ν} : (k, x) ∈ t.entries ↔ t.get k = some x := by
  have hlookup : t.get k = some x ↔ (⟨k, x⟩ : Sigma fun _ : κ => ν) ∈ AList.entries t :=
    AList.mem_lookup_iff
  rw [hlookup, entries, List.mem_map]
  constructor
  · rintro ⟨⟨l, y⟩, hmem, heq⟩
    cases heq
    exact hmem
  · exact fun hmem => ⟨⟨k, x⟩, hmem, rfl⟩

theorem get_prune_iff {t : Table κ ν} {p : κ → ν → Bool} {k : κ} {x : ν} :
    (t.prune p).get k = some x ↔ t.get k = some x ∧ p k x = false := by
  have hpruned : (t.prune p).get k = some x ↔
      (⟨k, x⟩ : Sigma fun _ : κ => ν) ∈ AList.entries (t.prune p) := AList.mem_lookup_iff
  have hlookup : t.get k = some x ↔ (⟨k, x⟩ : Sigma fun _ : κ => ν) ∈ AList.entries t :=
    AList.mem_lookup_iff
  rw [hpruned, hlookup, prune, List.mem_filter, Bool.not_eq_true']

/-! ## The values of a table -/

/-- Some key leads to the value. -/
def Holds (t : Table κ ν) (x : ν) : Prop := ∃ k, t.get k = some x

theorem not_holds_empty (x : ν) : ¬ (empty : Table κ ν).Holds x := by
  rintro ⟨k, hk⟩
  cases hk

/-- A new key adds its value and takes none away. -/
theorem holds_put_iff {t : Table κ ν} {k : κ} {x y : ν} (hnew : t.get k = none) :
    (t.put k x).Holds y ↔ y = x ∨ t.Holds y := by
  constructor
  · rintro ⟨l, hl⟩
    rcases get_put_iff.mp hl with ⟨-, rfl⟩ | ⟨-, h⟩
    · exact .inl rfl
    · exact .inr ⟨l, h⟩
  · rintro (rfl | ⟨l, hl⟩)
    · exact ⟨k, get_put_self t k y⟩
    · refine ⟨l, get_put_iff.mpr (.inr ⟨?_, hl⟩)⟩
      rintro rfl
      rw [hnew] at hl
      cases hl

/-- A known key's value is lost when the key gets another, if no other key leads to it. -/
theorem not_holds_put {t : Table κ ν} {k : κ} {x y : ν} (hne : y ≠ x)
    (honly : ∀ l, t.get l = some y → l = k) : ¬ (t.put k x).Holds y := by
  rintro ⟨l, hl⟩
  rcases get_put_iff.mp hl with ⟨-, rfl⟩ | ⟨hlk, h⟩
  · exact hne rfl
  · exact hlk (honly l h)

/-- Removing the one key of a value takes that value away and no other. -/
theorem holds_remove_iff {t : Table κ ν} {k : κ} {x y : ν} (hx : t.get k = some x)
    (honly : ∀ l, t.get l = some x → l = k) : (t.remove k).Holds y ↔ y ≠ x ∧ t.Holds y := by
  constructor
  · rintro ⟨l, hl⟩
    obtain ⟨hlk, h⟩ := get_remove_iff.mp hl
    refine ⟨?_, l, h⟩
    rintro rfl
    exact hlk (honly l h)
  · rintro ⟨hne, l, hl⟩
    refine ⟨l, get_remove_iff.mpr ⟨?_, hl⟩⟩
    rintro rfl
    rw [hx, Option.some.injEq] at hl
    exact hne hl.symm

end Table

end Zss.Lib
