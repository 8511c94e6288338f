import Zss.Lib.Heap

/-!
# Storage that is given back

Blocks of one type, each obtained once and given back at most once. A block given back keeps its
address, and no later block gets that address: a pointer kept past the release is told apart from a
pointer to whatever was obtained since. `get` is what a pointer still reads, so a pointer dangles
exactly if its block was obtained and `get` finds nothing.
-/

namespace Zss.Lib

/-- Blocks in the order they were obtained, `none` for one that was given back. -/
structure Storage (α : Type) where
  blocks : Heap (Option α)

namespace Storage

variable {α : Type}

/-- No block at all. -/
def empty : Storage α := ⟨Heap.empty⟩

/-- The address the next block gets. -/
def fresh (s : Storage α) : Addr := s.blocks.fresh

/-- One more block, at `fresh`. -/
def obtain (s : Storage α) (x : α) : Storage α := ⟨s.blocks.alloc (some x)⟩

/-- A block given back. -/
def release (s : Storage α) (a : Addr) : Storage α := ⟨s.blocks.update a fun _ => none⟩

/-- Blocks obtained one after the other. -/
def obtainAll (s : Storage α) (xs : List α) : Storage α := xs.foldl obtain s

/-- Blocks given back one after the other. -/
def releaseAll (s : Storage α) (as : List Addr) : Storage α := as.foldl release s

/-- A block written in place. -/
def modify (s : Storage α) (a : Addr) (f : α → α) : Storage α := ⟨s.blocks.update a (Option.map f)⟩

/-- What a pointer still reads. -/
def get (s : Storage α) (a : Addr) : Option α := (s.blocks.read a).join

/-- The block of an address was obtained and not given back. -/
def Live (s : Storage α) (a : Addr) : Prop := (s.get a).isSome

instance (s : Storage α) (a : Addr) : Decidable (s.Live a) :=
  inferInstanceAs (Decidable ((s.get a).isSome = true))

theorem live_iff {s : Storage α} {a : Addr} : s.Live a ↔ ∃ x, s.get a = some x :=
  Option.isSome_iff_exists

theorem live_of_get {s : Storage α} {a : Addr} {x : α} (h : s.get a = some x) : s.Live a :=
  live_iff.mpr ⟨x, h⟩

@[simp] theorem get_empty (a : Addr) : (empty : Storage α).get a = none := by
  simp [empty, get]

@[simp] theorem get_obtain_fresh (s : Storage α) (x : α) : (s.obtain x).get s.fresh = some x := by
  simp [obtain, get, fresh]

@[simp] theorem get_fresh (s : Storage α) : s.get s.fresh = none := by
  simp [get, fresh]

@[simp] theorem fresh_obtain (s : Storage α) (x : α) : (s.obtain x).fresh = s.fresh + 1 :=
  Heap.fresh_alloc _ _

@[simp] theorem fresh_release (s : Storage α) (a : Addr) : (s.release a).fresh = s.fresh :=
  Heap.fresh_update _ _ _

@[simp] theorem fresh_modify (s : Storage α) (a : Addr) (f : α → α) :
    (s.modify a f).fresh = s.fresh :=
  Heap.fresh_update _ _ _

@[simp] theorem fresh_releaseAll (s : Storage α) (as : List Addr) :
    (s.releaseAll as).fresh = s.fresh := by
  induction as generalizing s with
  | nil => rfl
  | cons a as ih => exact (ih (s.release a)).trans (fresh_release s a)

/-- A block in use stands below `fresh`. -/
theorem lt_fresh_of_live {s : Storage α} {a : Addr} (h : s.Live a) : a < s.fresh := by
  obtain ⟨x, hx⟩ := live_iff.mp h
  cases hread : s.blocks.read a with
  | none =>
    rw [get, hread] at hx
    cases hx
  | some block => exact Heap.lt_fresh_of_read hread

theorem ne_fresh_of_live {s : Storage α} {a : Addr} (h : s.Live a) : a ≠ s.fresh := by
  rintro rfl
  simp [Live] at h

theorem get_obtain_ne (s : Storage α) (x : α) {a : Addr} (hne : a ≠ s.fresh) :
    (s.obtain x).get a = s.get a := by
  unfold get obtain
  rw [Heap.read_alloc_ne _ _ hne]

/-- A block in use stays as it is when another is obtained. -/
theorem get_obtain_of_get {s : Storage α} {a : Addr} {x y : α} (h : s.get a = some x) :
    (s.obtain y).get a = some x := by
  rw [get_obtain_ne s y (ne_fresh_of_live (live_of_get h)), h]

@[simp] theorem fresh_obtainAll (s : Storage α) (xs : List α) :
    (s.obtainAll xs).fresh = s.fresh + xs.length := by
  induction xs generalizing s with
  | nil => rfl
  | cons x xs ih =>
    refine (ih (s.obtain x)).trans ?_
    rw [fresh_obtain, List.length_cons, Nat.add_assoc, Nat.add_comm 1]

theorem get_obtainAll_of_get {s : Storage α} {a : Addr} {x : α} (h : s.get a = some x)
    (xs : List α) : (s.obtainAll xs).get a = some x := by
  induction xs generalizing s with
  | nil => exact h
  | cons y xs ih => exact ih (get_obtain_of_get h)

/-- The blocks obtained stand one behind the other. -/
theorem get_obtainAll {s : Storage α} {xs : List α} {i : Nat} {x : α} (h : xs[i]? = some x) :
    (s.obtainAll xs).get (s.fresh + i) = some x := by
  induction xs generalizing s i with
  | nil => cases h
  | cons y xs ih =>
    cases i with
    | zero =>
      obtain rfl := Option.some.inj h
      exact get_obtainAll_of_get (get_obtain_fresh s y) xs
    | succ i =>
      have hrest := ih (s := s.obtain y) h
      rw [fresh_obtain, Nat.add_assoc, Nat.add_comm 1 i] at hrest
      exact hrest

@[simp] theorem get_release_self (s : Storage α) (a : Addr) : (s.release a).get a = none := by
  unfold get release
  rw [Heap.read_update_self]
  cases s.blocks.read a <;> rfl

theorem get_release_ne (s : Storage α) {a b : Addr} (hne : b ≠ a) :
    (s.release a).get b = s.get b := by
  unfold get release
  rw [Heap.read_update_ne _ _ (Ne.symm hne)]

theorem get_releaseAll (s : Storage α) (as : List Addr) (a : Addr) :
    (s.releaseAll as).get a = if a ∈ as then none else s.get a := by
  induction as generalizing s with
  | nil => rfl
  | cons b as ih =>
    rw [releaseAll, List.foldl_cons]
    refine (ih (s.release b)).trans ?_
    by_cases hb : a = b
    · subst hb
      simp
    · rw [get_release_ne s hb]
      simp [hb]

@[simp] theorem get_modify_self (s : Storage α) (a : Addr) (f : α → α) :
    (s.modify a f).get a = (s.get a).map f := by
  unfold get modify
  rw [Heap.read_update_self]
  cases s.blocks.read a with
  | none => rfl
  | some block => cases block <;> rfl

theorem get_modify_ne (s : Storage α) {a b : Addr} (f : α → α) (hne : b ≠ a) :
    (s.modify a f).get b = s.get b := by
  unfold get modify
  rw [Heap.read_update_ne _ _ (Ne.symm hne)]

theorem live_obtain_fresh (s : Storage α) (x : α) : (s.obtain x).Live s.fresh :=
  live_of_get (get_obtain_fresh s x)

/-- Obtaining a block takes none away. -/
theorem Live.obtain {s : Storage α} {a : Addr} (h : s.Live a) (x : α) : (s.obtain x).Live a := by
  obtain ⟨y, hy⟩ := live_iff.mp h
  exact live_of_get (get_obtain_of_get hy)

@[simp] theorem not_live_release_self (s : Storage α) (a : Addr) : ¬ (s.release a).Live a := by
  simp [Live]

/-- Giving back one block takes no other away. -/
theorem live_release_ne {s : Storage α} {a b : Addr} (hne : b ≠ a) :
    (s.release a).Live b ↔ s.Live b := by
  rw [Live, get_release_ne s hne, Live]

/-- A block given back at once leaves nothing of it. -/
theorem get_release_obtain (s : Storage α) (x : α) (a : Addr) :
    ((s.obtain x).release s.fresh).get a = s.get a := by
  by_cases ha : a = s.fresh
  · subst ha
    rw [get_release_self, get_fresh]
  · rw [get_release_ne _ ha, get_obtain_ne s x ha]

/-- One block more, and the others as they were. -/
structure Gains (s s' : Storage α) (a : Addr) (x : α) : Prop where
  new : s.get a = none
  get : ∀ b, s'.get b = if b = a then some x else s.get b

theorem gains_obtain (s : Storage α) (x : α) : s.Gains (s.obtain x) s.fresh x where
  new := get_fresh s
  get b := by
    split
    next h => rw [h, get_obtain_fresh]
    next h => exact get_obtain_ne s x h

section

variable {s s' : Storage α} {a b : Addr} {x y : α}

/-- The block of a gain can still be written. -/
theorem Gains.modify (h : s.Gains s' a x) (f : α → α) : s.Gains (s'.modify a f) a (f x) where
  new := h.new
  get b := by
    split
    next hb => rw [hb, get_modify_self, h.get, if_pos rfl, Option.map_some]
    next hb => rw [get_modify_ne s' f hb, h.get, if_neg hb]

theorem Gains.get_self (h : s.Gains s' a x) : s'.get a = some x := by
  rw [h.get, if_pos rfl]

theorem Gains.get_of_get (h : s.Gains s' a x) (hb : s.get b = some y) : s'.get b = some y := by
  rw [h.get]
  split
  next heq =>
    rw [heq, h.new] at hb
    cases hb
  next => exact hb

/-- A gain given back leaves nothing of it. -/
theorem Gains.get_release (h : s.Gains s' a x) (b : Addr) : (s'.release a).get b = s.get b := by
  by_cases hb : b = a
  · rw [hb, get_release_self, h.new]
  · rw [get_release_ne s' hb, h.get, if_neg hb]

theorem Gains.live_cases (h : s.Gains s' a x) (hb : s'.Live b) : b = a ∨ s.Live b := by
  rw [Live, h.get] at hb
  split at hb
  next heq => exact .inl heq
  next => exact .inr hb

theorem Gains.live (h : s.Gains s' a x) (hb : s.Live b) : s'.Live b := by
  obtain ⟨y, hy⟩ := live_iff.mp hb
  exact live_of_get (h.get_of_get hy)

end

/-- A pointer to a block in use, or none. -/
def PointsIn (s : Storage α) (p : Option Addr) : Prop := ∀ a, p = some a → s.Live a

instance (s : Storage α) : (p : Option Addr) → Decidable (s.PointsIn p)
  | none => .isTrue fun _ h => by cases h
  | some a => decidable_of_iff (s.Live a) ⟨fun h b hb => by cases hb; exact h, fun h => h a rfl⟩

@[simp] theorem pointsIn_none (s : Storage α) : s.PointsIn none := fun _ h => by cases h

@[simp] theorem pointsIn_some (s : Storage α) (a : Addr) : s.PointsIn (some a) ↔ s.Live a :=
  ⟨fun h => h a rfl, fun h b hb => by cases hb; exact h⟩

theorem PointsIn.release {s : Storage α} {p : Option Addr} (h : s.PointsIn p) {a : Addr}
    (hne : p ≠ some a) : (s.release a).PointsIn p := by
  intro b hb
  have hba : b ≠ a := fun heq => hne (heq ▸ hb)
  exact (live_release_ne hba).mpr (h b hb)

end Storage

end Zss.Lib
