import Mathlib.Data.List.Induction
import Mathlib.Data.List.Nodup

/-!
# What was put under which key

The log of the puts of a store that keeps its keys in the order they came: the value last put under
a key, the keys in the order of their first puts, and the pairs of both, which is what the store
shows. One more put changes the pair of its key where there is one and makes one at the end where
there is none.
-/

namespace Zss.Lib

universe u v

variable {κ : Type u} {ν : Type v} [DecidableEq κ]

/-- The value last put under a key. -/
def lastPut (puts : List (κ × ν)) (key : κ) : Option ν := puts.reverse.lookup key

/-- The keys in the order of their first puts. -/
def firstPuts (puts : List (κ × ν)) : List κ := (puts.map Prod.fst).eraseDups

/-- The keys with their values, in the order of the keys. -/
def shown (puts : List (κ × ν)) : List (κ × ν) :=
  (firstPuts puts).filterMap fun key => (lastPut puts key).map (key, ·)

/-- A pair with the value of a put, where it has its key. -/
def replaced (put pair : κ × ν) : κ × ν := if pair.1 = put.1 then put else pair

@[simp] theorem lastPut_nil (key : κ) : lastPut ([] : List (κ × ν)) key = none := rfl

@[simp] theorem lastPut_append_self (puts : List (κ × ν)) (key : κ) (value : ν) :
    lastPut (puts ++ [(key, value)]) key = some value := by
  simp [lastPut]

theorem lastPut_append_ne (puts : List (κ × ν)) {key other : κ} (value : ν) (hne : other ≠ key) :
    lastPut (puts ++ [(key, value)]) other = lastPut puts other := by
  have apart : (other == key) = false := by simpa using hne
  simp [lastPut, List.lookup_cons, apart]

/-- What is put later counts. -/
theorem lastPut_append (puts later : List (κ × ν)) (key : κ) :
    lastPut (puts ++ later) key = (lastPut later key).or (lastPut puts key) := by
  rw [lastPut, List.reverse_append, List.lookup_append, lastPut, lastPut]

/-- A key has a value exactly if it was put. -/
theorem isSome_lastPut {puts : List (κ × ν)} {key : κ} :
    (lastPut puts key).isSome ↔ key ∈ puts.map Prod.fst := by
  induction puts using List.reverseRecOn with
  | nil => simp
  | append_singleton puts put ih =>
    obtain ⟨k, value⟩ := put
    by_cases hkey : key = k
    · subst hkey
      simp
    · rw [lastPut_append_ne puts value hkey, ih]
      simp [hkey]

theorem mem_firstPuts {puts : List (κ × ν)} {key : κ} :
    key ∈ firstPuts puts ↔ key ∈ puts.map Prod.fst :=
  List.mem_eraseDups

theorem firstPuts_append (puts : List (κ × ν)) (key : κ) (value : ν) :
    firstPuts (puts ++ [(key, value)]) =
      if key ∈ firstPuts puts then firstPuts puts else firstPuts puts ++ [key] := by
  rw [firstPuts, List.map_append, List.eraseDups_append]
  by_cases hmem : key ∈ firstPuts puts
  · rw [if_pos hmem]
    have := mem_firstPuts.mp hmem
    simp_all [firstPuts, List.removeAll]
  · rw [if_neg hmem]
    have := fun h => hmem (mem_firstPuts.mpr h)
    simp_all [firstPuts, List.removeAll, List.eraseDups_cons]

theorem nodup_firstPuts (puts : List (κ × ν)) : (firstPuts puts).Nodup := by
  induction puts using List.reverseRecOn with
  | nil => exact List.nodup_nil
  | append_singleton puts put ih =>
    rw [firstPuts_append]
    split
    · exact ih
    · next hmem => exact List.nodup_append.mpr ⟨ih, by simp, by grind⟩

theorem map_fst_shown (puts : List (κ × ν)) : (shown puts).map Prod.fst = firstPuts puts := by
  rw [shown, List.map_filterMap]
  refine (List.filterMap_congr fun key hkey => ?_).trans List.filterMap_some
  obtain ⟨value, hvalue⟩ := Option.isSome_iff_exists.mp (isSome_lastPut.mpr (mem_firstPuts.mp hkey))
  simp [hvalue]

/-- No key is shown twice. -/
theorem nodup_shown (puts : List (κ × ν)) : ((shown puts).map Prod.fst).Nodup := by
  rw [map_fst_shown]
  exact nodup_firstPuts puts

theorem mem_shown {puts : List (κ × ν)} {key : κ} {value : ν} :
    (key, value) ∈ shown puts ↔ lastPut puts key = some value := by
  rw [shown, List.mem_filterMap]
  constructor
  · rintro ⟨k, -, hk⟩
    obtain ⟨x, hx, heq⟩ := Option.map_eq_some_iff.mp hk
    cases heq
    exact hx
  · intro h
    exact ⟨key, mem_firstPuts.mpr (isSome_lastPut.mp (by simp [h])), by simp [h]⟩

/-- **One more put.** The pair of its key is replaced where it is, a new key comes last. -/
theorem shown_append (puts : List (κ × ν)) (key : κ) (value : ν) :
    shown (puts ++ [(key, value)]) =
      if key ∈ (shown puts).map Prod.fst then (shown puts).map (replaced (key, value))
      else shown puts ++ [(key, value)] := by
  rw [map_fst_shown, shown, firstPuts_append]
  split
  · rw [shown, List.map_filterMap]
    refine List.filterMap_congr fun k hk => ?_
    obtain ⟨x, hx⟩ := Option.isSome_iff_exists.mp (isSome_lastPut.mpr (mem_firstPuts.mp hk))
    by_cases hkey : k = key
    · subst hkey
      simp [replaced, hx]
    · simp [lastPut_append_ne puts value hkey, hx, replaced, hkey]
  · next hmem =>
    rw [List.filterMap_append, shown]
    congr 1
    · refine List.filterMap_congr fun k hk => ?_
      have hne : k ≠ key := fun h => hmem (h ▸ hk)
      rw [lastPut_append_ne puts value hne]
    · simp

end Zss.Lib
