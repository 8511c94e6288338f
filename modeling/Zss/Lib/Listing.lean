import Mathlib.Data.List.Nodup
import Mathlib.Order.Defs.Unbundled

/-!
# Tables in a listing order

A table with one value a key that is listed in an order: where one key is above another, it is listed
first. A key that is added goes in front of the first one that it is above. What is looked up is said
by equations on the listed entries, and the first entry of a listing is the one whose key is above.
-/

namespace Zss.Lib

/-- A table that is listed; no key is behind one that it is above. -/
@[ext]
structure Listing (κ ν : Type) (above : κ → κ → Prop) where
  entries : List (κ × ν)
  nodup : (entries.map Prod.fst).Nodup
  ordered : entries.Pairwise fun e f => ¬ above f.1 e.1

namespace Listing

variable {κ ν : Type} {above : κ → κ → Prop} [DecidableEq κ]

/-- The table without entries. -/
def empty : Listing κ ν above := ⟨[], List.nodup_nil, .nil⟩

/-- The value of a key. -/
def get (l : Listing κ ν above) (k : κ) : Option ν :=
  (l.entries.find? fun e => e.1 = k).map Prod.snd

/-- An entry put in front of the first one whose key its own is above. -/
def insertEntry (above : κ → κ → Prop) [DecidableRel above] (new : κ × ν) :
    List (κ × ν) → List (κ × ν)
  | [] => [new]
  | e :: es => if above new.1 e.1 then new :: e :: es else e :: insertEntry above new es

section Insert

variable [DecidableRel above] {new : κ × ν} {es : List (κ × ν)}

omit [DecidableEq κ] in
theorem insertEntry_cons (new e : κ × ν) (es : List (κ × ν)) :
    insertEntry above new (e :: es) =
      if above new.1 e.1 then new :: e :: es else e :: insertEntry above new es := rfl

omit [DecidableEq κ] in
theorem insertEntry_perm (new : κ × ν) (es : List (κ × ν)) :
    (insertEntry above new es).Perm (new :: es) := by
  induction es with
  | nil => exact .rfl
  | cons e es ih =>
    rw [insertEntry_cons]
    split
    · exact .rfl
    · exact (ih.cons e).trans (.swap new e es)

omit [DecidableEq κ] in
theorem insertEntry_ordered [IsStrictOrder κ above]
    (h : es.Pairwise fun e f => ¬ above f.1 e.1) :
    (insertEntry above new es).Pairwise fun e f => ¬ above f.1 e.1 := by
  induction es with
  | nil => exact List.pairwise_singleton _ _
  | cons e es ih =>
    obtain ⟨he, hes⟩ := List.pairwise_cons.mp h
    rw [insertEntry_cons]
    split
    next habove =>
      refine List.pairwise_cons.mpr ⟨fun f hf hback => ?_, h⟩
      rcases List.mem_cons.mp hf with rfl | hf
      · exact irrefl_of above _ (trans_of above habove hback)
      · exact he f hf (trans_of above hback habove)
    next hnot =>
      refine List.pairwise_cons.mpr ⟨fun f hf => ?_, ih hes⟩
      rcases List.mem_cons.mp ((insertEntry_perm new es).mem_iff.mp hf) with rfl | hf
      · exact hnot
      · exact he f hf

theorem find?_insertEntry (k : κ) (h : ∀ e ∈ es, e.1 ≠ new.1) :
    (insertEntry above new es).find? (fun e => e.1 = k) =
      if k = new.1 then some new else es.find? (fun e => e.1 = k) := by
  induction es with
  | nil =>
    by_cases hk : k = new.1
    · simp [insertEntry, hk]
    · simp [insertEntry, hk, Ne.symm hk]
  | cons e es ih =>
    have hrest : ∀ e ∈ es, e.1 ≠ new.1 := fun f hf => h f (List.mem_cons_of_mem _ hf)
    rw [insertEntry_cons]
    split
    next =>
      by_cases hk : k = new.1
      · simp [hk]
      · simp [hk, Ne.symm hk]
    next =>
      by_cases he : e.1 = k
      · have hne : k ≠ new.1 := he ▸ h e (List.mem_cons_self ..)
        simp [he, hne]
      · rw [List.find?_cons_of_neg (by simpa using he), ih hrest,
          List.find?_cons_of_neg (by simpa using he)]

end Insert

/-! ## Lookups -/

variable {l : Listing κ ν above} {k : κ} {x : ν}

theorem get_eq_none_iff : l.get k = none ↔ ∀ e ∈ l.entries, e.1 ≠ k := by
  rw [get, Option.map_eq_none_iff, List.find?_eq_none]
  exact forall₂_congr fun e _ => by rw [decide_eq_true_eq]

theorem get_eq_some_iff : l.get k = some x ↔ (k, x) ∈ l.entries := by
  constructor
  · intro h
    obtain ⟨e, he, rfl⟩ := Option.map_eq_some_iff.mp h
    have hk : e.1 = k := by simpa using List.find?_some he
    rw [← hk]
    exact List.mem_of_find?_eq_some he
  · intro h
    cases hfind : l.entries.find? fun e => e.1 = k with
    | none => exact absurd rfl (get_eq_none_iff.mp (by rw [get, hfind]; rfl) _ h)
    | some e =>
      have hk : e.1 = k := by simpa using List.find?_some hfind
      have he : e = (k, x) :=
        List.inj_on_of_nodup_map l.nodup (List.mem_of_find?_eq_some hfind) h hk
      rw [get, hfind, he]
      rfl

/-- **The first of a listing.** A key that is above all others that are asked for is listed first. -/
theorem head?_filter (hx : l.get k = some x) (p : κ × ν → Bool) (hp : p (k, x) = true)
    (habove : ∀ e ∈ l.entries, p e = true → e.1 = k ∨ above k e.1) :
    (l.entries.filter p).head? = some (k, x) := by
  have hmem : (k, x) ∈ l.entries.filter p :=
    List.mem_filter.mpr ⟨get_eq_some_iff.mp hx, hp⟩
  have hordered := l.ordered.sublist (List.filter_sublist (p := p))
  cases hfilter : l.entries.filter p with
  | nil =>
    rw [hfilter] at hmem
    cases hmem
  | cons e es =>
    rw [hfilter] at hmem hordered
    rcases List.mem_cons.mp hmem with h | h
    · rw [h]
      rfl
    · have he : e ∈ l.entries.filter p := hfilter ▸ List.mem_cons_self ..
      obtain ⟨he, hpe⟩ := List.mem_filter.mp he
      rcases habove e he hpe with hkey | hkey
      · have : e = (k, x) :=
          List.inj_on_of_nodup_map l.nodup he (get_eq_some_iff.mp hx) hkey
        rw [this]
        rfl
      · exact absurd hkey ((List.pairwise_cons.mp hordered).1 _ h)

/-! ## What the operations do -/

/-- A key with its value, unless it has one. -/
def add [DecidableRel above] [IsStrictOrder κ above] (l : Listing κ ν above) (k : κ) (x : ν) :
    Listing κ ν above :=
  if h : ∀ e ∈ l.entries, e.1 ≠ k then
    { entries := insertEntry above (k, x) l.entries
      nodup := by
        refine (((insertEntry_perm (k, x) l.entries).map _).nodup_iff).mpr ?_
        refine List.nodup_cons.mpr ⟨fun hk => ?_, l.nodup⟩
        obtain ⟨e, he, hek⟩ := List.mem_map.mp hk
        exact h e he hek
      ordered := insertEntry_ordered l.ordered }
  else l

section Add

variable [DecidableRel above] [IsStrictOrder κ above]

theorem entries_add (h : l.get k = none) (x : ν) :
    (l.add k x).entries = insertEntry above (k, x) l.entries := by
  rw [add, dif_pos (get_eq_none_iff.mp h)]

theorem get_add_self (h : l.get k = none) (x : ν) : (l.add k x).get k = some x := by
  rw [get, entries_add h, find?_insertEntry k (get_eq_none_iff.mp h), if_pos rfl]
  rfl

end Add

end Listing

end Zss.Lib
