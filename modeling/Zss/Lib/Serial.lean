import Mathlib.Data.List.Nodup

/-!
# Sequential orders of calls

An object says what each operation answers and leaves. A log of calls with what they were answered
is in sequential order where the object answers so, one call after the other (`Serial`). A log grows
at its end, at the step at which a call has its effect; a call that stands in it once is answered by
the object in the state that the calls before it have left.
-/

namespace Zss.Lib

variable {S Op Res τ : Type} (apply : S → Op → S × Res) (op : τ → Op)

/-- The calls of a log, one after the other, answer as the object does, and lead from one of its
states to another. -/
def Serial : S → List (τ × Res) → S → Prop
  | s, [], s' => s' = s
  | s, (t, res) :: log, s' => (apply s (op t)).2 = res ∧ Serial (apply s (op t)).1 log s'

/-- A call stands in a log at most once. -/
def CallsOnce (log : List (τ × Res)) : Prop := (log.map Prod.fst).Nodup

variable {apply op}

theorem Serial.append {s s' s'' : S} {log log' : List (τ × Res)}
    (h : Serial apply op s log s') (h' : Serial apply op s' log' s'') :
    Serial apply op s (log ++ log') s'' := by
  induction log generalizing s with
  | nil =>
    subst h
    exact h'
  | cons e log ih => exact ⟨h.1, ih h.2⟩

/-- Another call has its effect. -/
theorem Serial.snoc {s s' : S} {log : List (τ × Res)} (h : Serial apply op s log s') (t : τ) :
    Serial apply op s (log ++ [(t, (apply s' (op t)).2)]) (apply s' (op t)).1 :=
  h.append ⟨rfl, rfl⟩

/-- A call is answered in some state of the object. -/
theorem Serial.answered {s s' : S} {log : List (τ × Res)} (h : Serial apply op s log s') {t : τ}
    {res : Res} (ht : (t, res) ∈ log) : ∃ s₁, (apply s₁ (op t)).2 = res := by
  induction log generalizing s with
  | nil => cases ht
  | cons e log ih =>
    cases ht with
    | head => exact ⟨s, h.1⟩
    | tail _ ht => exact ih h.2 ht

theorem CallsOnce.snoc {log : List (τ × Res)} (h : CallsOnce log) {t : τ}
    (ht : ∀ res, (t, res) ∉ log) (res : Res) : CallsOnce (log ++ [(t, res)]) := by
  have hnot : t ∉ log.map Prod.fst := fun hmem => by
    obtain ⟨⟨u, res'⟩, hlog, heq⟩ := List.mem_map.mp hmem
    exact ht res' ((show u = t from heq) ▸ hlog)
  unfold CallsOnce
  rw [List.map_append, List.nodup_append]
  refine ⟨h, List.nodup_singleton t, fun u hu v hv huv => hnot ?_⟩
  have hvt : v = t := List.mem_singleton.mp hv
  rw [← hvt, ← huv]
  exact hu

/-- The entries of the other calls are the same. -/
theorem mem_snoc_of_ne {log : List (τ × Res)} {t u : τ} (htu : u ≠ t) (res res' : Res) :
    (u, res') ∈ log ++ [(t, res)] ↔ (u, res') ∈ log := by
  simp [htu]

end Zss.Lib
