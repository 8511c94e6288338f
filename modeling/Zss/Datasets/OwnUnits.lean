import Mathlib.Algebra.BigOperators.Group.List.Basic
import Zss.Datasets.CreateAttributes

/-!
# When attributes lead to units of their own

`CreatesOwnUnits` says what should hold of the text units of an object, for every order of its
properties and every outcome of setting a unit: they are those of the properties, a failure is the end,
and they fit where they are stored. It holds of few objects (`createsOwnUnits_iff`). The return code
of a unit is overwritten by that of the next unit of the same property, to which the unit before the
loop counts with the first property; an unlisted text in the first property has a unit; and the array
is not checked.

## What is not established

That the units are the ones a caller wants, and what the allocation makes of them.
-/

namespace Zss.Datasets

open Zss.Lib Zss.Lib.Json

/-- **The text units of an object.** They are stored behind the two of the data set and its DD name. -/
structure CreatesOwnUnits (object : Properties) : Prop where
  /-- Each property has its own units, in order. -/
  own : ∀ initial events rc units,
    (setDatasetAttributesForCreation object initial).Runs events (rc, units) →
    (∀ e ∈ events, setsUnit e) → units = initial ++ dalstatsUnit :: object.flatMap (ownUnits object)
  /-- The order of the properties does not matter. -/
  orderFree : ∀ object', object'.Perm object → ∀ initial events rc units events' rc' units',
    (setDatasetAttributesForCreation object initial).Runs events (rc, units) →
    (∀ e ∈ events, setsUnit e) →
    (setDatasetAttributesForCreation object' initial).Runs events' (rc', units') →
    (∀ e ∈ events', setsUnit e) → units'.Perm units
  /-- A unit that fails stops. -/
  stops : ∀ initial events rc units,
    (setDatasetAttributesForCreation object initial).Runs events (rc, units) →
    StopsAtFailure events rc
  /-- The units fit in the array of `createDataset`. -/
  stored : ∀ initial events rc units, initial.length = 2 →
    (setDatasetAttributesForCreation object initial).Runs events (rc, units) →
    units.length ≤ TOTAL_TEXT_UNITS

/-- What an object must be like for that. -/
structure Plain (object : Properties) : Prop where
  /-- No text is missing from the list of its property. -/
  listed : ∀ p ∈ object, unlisted p.1 p.2 = false
  /-- The first property has no unit. -/
  first : ∀ p, object.head? = some p → recognised object p.1 p.2 = false
  /-- Where space is counted, no property is a quantity in range. -/
  quantities : ∀ p ∈ object, countsSpace object p.1 p.2 = true →
    ∀ q ∈ object, q.1 = "prime" ∨ q.1 = "secnd" → ¬ (q.2.asNumber ≤ 0xFFFFFF ∧ 0 ≤ q.2.asNumber)
  /-- No more properties are recognised than the array has room for. -/
  stored : object.countP (fun p => recognised object p.1 p.2) ≤ 20

variable {object : Properties}

/-! ## Lookups -/

theorem exists_of_value {key : String} {value : Json} (h : object.value key = some value) :
    (key, value) ∈ object := by
  induction object with
  | nil => cases h
  | cons p object ih =>
    rw [Properties.value_cons] at h
    split at h
    next hkey =>
      cases h
      rw [← hkey]
      exact List.mem_cons_self ..
    next => exact List.mem_cons_of_mem _ (ih h)

theorem hasKey_iff {key : String} : object.hasKey key = true ↔ ∃ p ∈ object, p.1 = key := by
  rw [Properties.hasKey, Option.isSome_iff_exists]
  constructor
  · rintro ⟨value, h⟩
    exact ⟨_, exists_of_value h, rfl⟩
  · rintro ⟨p, hp, rfl⟩
    induction object with
    | nil => cases hp
    | cons q object ih =>
      rw [Properties.value_cons]
      split
      next => exact ⟨_, rfl⟩
      next hne =>
        rcases List.mem_cons.mp hp with rfl | hp
        · exact absurd rfl hne
        · exact ih hp

/-- The first quantity is one of those in the object. -/
theorem exists_of_hasQuantity {property : String} (h : hasQuantity object property = true) :
    ∃ q ∈ object, q.1 = property ∧ q.2.asNumber ≤ 0xFFFFFF ∧ 0 ≤ q.2.asNumber := by
  obtain ⟨hkey, hrange⟩ := of_decide_eq_true h
  obtain ⟨value, hvalue⟩ := Option.isSome_iff_exists.mp hkey
  rw [Properties.getNumber, hvalue] at hrange
  exact ⟨_, exists_of_value hvalue, rfl, hrange⟩

/-- A property in front is the one that is looked up. -/
theorem hasQuantity_cons {q : String × Json} (h : q.2.asNumber ≤ 0xFFFFFF ∧ 0 ≤ q.2.asNumber)
    (rest : Properties) : hasQuantity (q :: rest) q.1 = true := by
  refine decide_eq_true ⟨?_, ?_⟩
  · rw [Properties.hasKey, Properties.value_cons, if_pos rfl, Option.isSome_some]
  · rw [Properties.getNumber, Properties.value_cons, if_pos rfl]
    exact h

variable {object' : Properties}

theorem hasKey_perm (h : object'.Perm object) (key : String) :
    object'.hasKey key = object.hasKey key := by
  rw [Bool.eq_iff_iff, hasKey_iff, hasKey_iff]
  simp only [h.mem_iff]

/-! ## Numbers of units -/

/-- Recognition depends on the presence of a space type only. -/
theorem recognised_perm (h : object'.Perm object) (propString : String) (value : Json) :
    recognised object' propString value = recognised object propString value := by
  unfold recognised
  rw [hasKey_perm h]

theorem countsSpace_perm (h : object'.Perm object) (propString : String) (value : Json) :
    countsSpace object' propString value = countsSpace object propString value := by
  unfold countsSpace
  rw [hasKey_perm h]

theorem quantityUnit_eq_nil {property : String} (h : hasQuantity object property = false)
    (key : TextUnitKey) (scale : Int → Int) : quantityUnit object property key scale = [] := by
  refine List.length_eq_zero_iff.mp ?_
  rw [length_quantityUnit, h]
  rfl

/-- Where no quantities are set, the units of a property depend on the presence of a space type only. -/
theorem attributeUnits_eq_of_quiet (hspace : object'.hasKey "space" = object.hasKey "space")
    (propString : String) (value : Json)
    (hquiet : countsSpace object' propString value = true → ∀ property,
      property = "prime" ∨ property = "secnd" →
        hasQuantity object' property = false ∧ hasQuantity object property = false) :
    attributeUnits object' none propString value = attributeUnits object none propString value := by
  by_cases hcounts : countsSpace object' propString value = true
  · have hprime := hquiet hcounts "prime" (.inl rfl)
    have hsecnd := hquiet hcounts "secnd" (.inr rfl)
    simp only [attributeUnits, hspace, quantityUnit_eq_nil hprime.1, quantityUnit_eq_nil hprime.2,
      quantityUnit_eq_nil hsecnd.1, quantityUnit_eq_nil hsecnd.2]
  · rw [countsSpace, Bool.or_eq_true, not_or, Bool.and_eq_true, Bool.and_eq_true, decide_eq_true_eq,
      decide_eq_true_eq, not_and, not_and] at hcounts
    by_cases htype : propString = "space"
    · have hnone : value.asString = none := by simpa using hcounts.1 htype
      simp [attributeUnits, textUnits, htype, hnone]
    by_cases hblkln : propString = "blkln"
    · have hkey : object'.hasKey "space" = true := by simpa using hcounts.2 hblkln
      simp [attributeUnits, hblkln, ← hspace, hkey]
    · simp only [attributeUnits, htype, hblkln, false_and, if_false]

/-- How many units the properties lead to. -/
def unitCount (object : Properties) : Nat :=
  (object.map fun p => (attributeUnits object none p.1 p.2).length).sum

theorem unitCount_eq (object : Properties) : unitCount object =
    object.countP (fun p => recognised object p.1 p.2) +
      (object.map fun p => quantityCount object p.1 p.2).sum := by
  have hsum : ∀ properties : Properties,
      (properties.map fun p => (attributeUnits object none p.1 p.2).length).sum =
        properties.countP (fun p => recognised object p.1 p.2) +
          (properties.map fun p => quantityCount object p.1 p.2).sum := by
    intro properties
    induction properties with
    | nil => rfl
    | cons p properties ih =>
      rw [List.map_cons, List.sum_cons, ih, length_attributeUnits, List.map_cons, List.sum_cons,
        List.countP_cons]
      cases recognised object p.1 p.2 with
      | true => simp only [Bool.toNat_true, if_true]; omega
      | false => simp only [Bool.toNat_false, Bool.false_eq_true, if_false]; omega
  exact hsum object

/-- The first property has an unlisted text. -/
def staleFirst (object : Properties) : Bool := object.head?.any fun p => unlisted p.1 p.2

theorem length_loopUnits (object : Properties) :
    (loopUnits object (some .dispNew) object).length =
      (staleFirst object).toNat + unitCount object := by
  cases object with
  | nil => rfl
  | cons p rest =>
    rw [loopUnits_cons, List.length_append, length_staleUnits, List.length_flatMap, unitCount,
      staleFirst]
    congr 1
    rw [List.head?_cons, Option.any_some]
    cases unlisted p.1 p.2 with
    | true | false => rfl

theorem length_ownUnits_le (object : Properties) (p : String × Json) :
    (ownUnits object p).length ≤ (attributeUnits object none p.1 p.2).length := by
  unfold ownUnits
  split
  next => rw [attributeUnits_spaceFacts]
  next => exact Nat.zero_le _

/-- Where more is not more in sum, it is not more anywhere. -/
theorem eq_of_sum_le {α : Type} {f g : α → Nat} {l : List α} {n : Nat}
    (hle : ∀ a ∈ l, f a ≤ g a) (hsum : n + (l.map g).sum = (l.map f).sum) :
    n = 0 ∧ ∀ a ∈ l, f a = g a := by
  induction l generalizing n with
  | nil => exact ⟨by simpa using hsum, fun _ ha => nomatch ha⟩
  | cons a l ih =>
    obtain ⟨ha, hl⟩ := List.forall_mem_cons.mp hle
    rw [List.map_cons, List.map_cons, List.sum_cons, List.sum_cons] at hsum
    obtain ⟨hzero, heq⟩ := ih (n := n + (g a - f a)) hl (by omega)
    exact ⟨by omega, List.forall_mem_cons.mpr ⟨by omega, heq⟩⟩

/-! ## Runs without a failure -/

theorem setsUnit_of_anyAnswer {e : Event copyCalls} (h : e.answer = CopyCall.anyAnswer e.call) :
    setsUnit e := by
  obtain ⟨call, answer⟩ := e
  cases call with
  | setTextUnit unit => exact h
  | _ => trivial

/-- There is a run without a failure. -/
theorem exists_set_run (object : Properties) (initial : List TextUnit) :
    ∃ events, (setDatasetAttributesForCreation object initial).Runs events
        (0, initial ++ dalstatsUnit :: loopUnits object (some .dispNew) object) ∧
      ∀ e ∈ events, setsUnit e := by
  have runs := Program.runs_exec (I := copyCalls) CopyCall.anyAnswer
    (setDatasetAttributesForCreation object initial)
  have hset : ∀ e ∈ ((setDatasetAttributesForCreation object initial).exec
      (I := copyCalls) CopyCall.anyAnswer).1, setsUnit e := fun e he =>
    setsUnit_of_anyAnswer (Program.answer_of_mem_exec (I := copyCalls) CopyCall.anyAnswer he)
  have hresult := (setDatasetAttributesForCreation_set object initial).of_runs runs hset
  rw [hresult] at runs
  exact ⟨_, runs, hset⟩

namespace CreatesOwnUnits

variable (h : CreatesOwnUnits object)

include h

/-- The loop makes the units of the properties. -/
theorem loopUnits_eq : loopUnits object (some .dispNew) object = object.flatMap (ownUnits object) := by
  obtain ⟨events, runs, hset⟩ := exists_set_run object []
  have := h.own [] events 0 _ runs hset
  simpa using this

theorem loopUnits_perm (hperm : object'.Perm object) :
    (loopUnits object' (some .dispNew) object').Perm (loopUnits object (some .dispNew) object) := by
  obtain ⟨events, runs, hset⟩ := exists_set_run object []
  obtain ⟨events', runs', hset'⟩ := exists_set_run object' []
  exact (List.perm_cons _).mp (h.orderFree object' hperm [] events 0 _ events' 0 _ runs hset runs' hset')

/-- No property has two units, as the second one would follow a failure of the first. -/
theorem length_le_one {p : String × Json} (hp : p ∈ object) :
    (attributeUnits object none p.1 p.2).length ≤ 1 := by
  by_contra htwo
  obtain ⟨events, result, runs, before, unit, unit', after, rfl⟩ :=
    setProperties_runs_past object (some .dispNew) [dalstatsUnit] hp (by omega)
  have runs' : (setDatasetAttributesForCreation object []).Runs _ result :=
    Program.Runs.ask_bind (I := copyCalls) (c := .setTextUnit dalstatsUnit) (0 : Int) runs
  have hstops := h.stops [] _ result.1 result.2 runs'
  rw [← List.cons_append] at hstops
  exact not_stopsAtFailure _ hstops

/-- There are no units but those of recognised values. -/
theorem length_eq :
    staleFirst object = false ∧
      ∀ p ∈ object, (ownUnits object p).length = (attributeUnits object none p.1 p.2).length := by
  have hlength := congrArg List.length h.loopUnits_eq
  rw [length_loopUnits, List.length_flatMap, unitCount] at hlength
  obtain ⟨hstale, heq⟩ := eq_of_sum_le (fun p _ => length_ownUnits_le object p) hlength
  refine ⟨?_, heq⟩
  cases hfirst : staleFirst object with
  | false => rfl
  | true => rw [hfirst] at hstale; cases hstale

/-- No quantity is set: that of a value that is not recognised would not be its own, that of another
one a second unit. -/
theorem quantityCount_eq_zero {p : String × Json} (hp : p ∈ object) :
    quantityCount object p.1 p.2 = 0 := by
  have hone := h.length_le_one hp
  have hown := h.length_eq.2 p hp
  rw [length_attributeUnits] at hone hown
  cases hrecognised : recognised object p.1 p.2 with
  | true =>
    rw [hrecognised, Bool.toNat_true] at hone
    omega
  | false =>
    rw [ownUnits, hrecognised, if_neg Bool.false_ne_true] at hown
    simp only [Bool.toNat_false, List.length_nil, Nat.zero_add] at hown
    exact hown.symm

theorem unitCount_eq_countP :
    unitCount object = object.countP fun p => recognised object p.1 p.2 := by
  have hzero : (object.map fun p => quantityCount object p.1 p.2).sum = 0 := by
    rw [List.sum_eq_zero_iff]
    intro n hn
    obtain ⟨p, hp, rfl⟩ := List.mem_map.mp hn
    exact h.quantityCount_eq_zero hp
  rw [unitCount_eq, hzero, Nat.add_zero]

/-- Any order leads to as many units. -/
theorem count_perm (hperm : object'.Perm object) :
    (staleFirst object').toNat + (object'.map fun p => quantityCount object' p.1 p.2).sum = 0 := by
  have hlength := (h.loopUnits_perm hperm).length_eq
  rw [length_loopUnits, length_loopUnits, h.length_eq.1, h.unitCount_eq_countP, unitCount_eq] at hlength
  have hcount : object'.countP (fun p => recognised object' p.1 p.2) =
      object.countP fun p => recognised object p.1 p.2 := by
    rw [hperm.countP_eq]
    simp only [recognised_perm hperm]
  rw [hcount, Bool.toNat_false] at hlength
  omega

theorem plain_listed : ∀ p ∈ object, unlisted p.1 p.2 = false := by
  intro p hp
  obtain ⟨before, behind, rfl⟩ := List.append_of_mem hp
  have hperm : (p :: (before ++ behind)).Perm (before ++ p :: behind) := List.perm_middle.symm
  have hcount := h.count_perm hperm
  have hstale : (staleFirst (p :: (before ++ behind))).toNat = 0 := by omega
  rw [staleFirst, List.head?_cons, Option.any_some] at hstale
  cases hlisted : unlisted p.1 p.2 with
  | false => rfl
  | true => rw [hlisted] at hstale; cases hstale

theorem plain_quantities : ∀ p ∈ object, countsSpace object p.1 p.2 = true →
    ∀ q ∈ object, q.1 = "prime" ∨ q.1 = "secnd" →
      ¬ (q.2.asNumber ≤ 0xFFFFFF ∧ 0 ≤ q.2.asNumber) := by
  intro p hp hcounts q hq hname hrange
  obtain ⟨before, behind, rfl⟩ := List.append_of_mem hq
  have hperm : (q :: (before ++ behind)).Perm (before ++ q :: behind) := List.perm_middle.symm
  have hcount := h.count_perm hperm
  have hzero := List.sum_eq_zero_iff.mp (Nat.eq_zero_of_add_eq_zero_left hcount)
  have hquantity := hzero _ (List.mem_map.mpr ⟨p, hperm.mem_iff.mpr hp, rfl⟩)
  rw [quantityCount, countsSpace_perm hperm, hcounts, if_pos rfl] at hquantity
  have hfirst := hasQuantity_cons hrange (before ++ behind)
  rcases hname with hname | hname
  · rw [hname] at hfirst
    rw [hfirst, Bool.toNat_true] at hquantity
    omega
  · rw [hname] at hfirst
    rw [hfirst, Bool.toNat_true] at hquantity
    omega

/-- The first property has no unit: its return code would overwrite that of the unit before it. -/
theorem plain_first : ∀ p, object.head? = some p → recognised object p.1 p.2 = false := by
  intro p hp
  obtain ⟨rest, rfl⟩ := List.head?_eq_some_iff.mp hp
  by_contra hother
  have hrecognised : recognised (p :: rest) p.1 p.2 = true := by simpa using hother
  have hunits : attributeUnits (p :: rest) (some .dispNew) p.1 p.2 ≠ [] := by
    intro hnil
    have hlength := congrArg List.length hnil
    rw [attributeUnits_eq_append, List.length_append, length_attributeUnits, hrecognised,
      Bool.toNat_true, List.length_nil] at hlength
    omega
  obtain ⟨events, units', runs⟩ :=
    setTextUnits_runs (attributeUnits (p :: rest) (some .dispNew) p.1 p.2) (-1) []
  rw [if_neg hunits] at runs
  obtain ⟨events', units'', runs'⟩ := setProperties_runs (p :: rest) none rest units'
  have hwhole : (setDatasetAttributesForCreation (p :: rest) []).Runs
      (⟨.setTextUnit dalstatsUnit, (-1 : Int)⟩ :: (events ++ events')) (0, units'') :=
    Program.Runs.ask_bind (I := copyCalls) (c := .setTextUnit dalstatsUnit) (-1 : Int)
      (runs.bind runs')
  exact absurd (h.stops _ _ _ _ hwhole [] _ _ rfl rfl).2 (by decide)

theorem plain_stored : object.countP (fun p => recognised object p.1 p.2) ≤ 20 := by
  obtain ⟨events, runs, -⟩ := exists_set_run object [dalstatsUnit, dalstatsUnit]
  have hstored := h.stored _ events _ _ rfl runs
  simp only [List.length_append, List.length_cons, List.length_nil, length_loopUnits,
    h.unitCount_eq_countP, h.length_eq.1, Bool.toNat_false, TOTAL_TEXT_UNITS] at hstored
  omega

theorem plain : Plain object := ⟨h.plain_listed, h.plain_first, h.plain_quantities, h.plain_stored⟩

end CreatesOwnUnits

namespace Plain

variable (h : Plain object)

include h

theorem hasQuantity_eq_false {p : String × Json} (hp : p ∈ object)
    (hcounts : countsSpace object p.1 p.2 = true) {property : String}
    (hname : property = "prime" ∨ property = "secnd") : hasQuantity object property = false := by
  by_contra hquantity
  obtain ⟨q, hq, hqname, hrange⟩ := exists_of_hasQuantity (Bool.not_eq_false _ ▸ hquantity)
  exact h.quantities p hp hcounts q hq (hqname ▸ hname) hrange

theorem quantityCount_eq_zero {p : String × Json} (hp : p ∈ object) :
    quantityCount object p.1 p.2 = 0 := by
  unfold quantityCount
  split
  next hcounts =>
    rw [h.hasQuantity_eq_false hp hcounts (.inl rfl), h.hasQuantity_eq_false hp hcounts (.inr rfl)]
    rfl
  next => rfl

theorem length_attributeUnits_eq {p : String × Json} (hp : p ∈ object) :
    (attributeUnits object none p.1 p.2).length = (recognised object p.1 p.2).toNat := by
  rw [length_attributeUnits, h.quantityCount_eq_zero hp, Nat.add_zero]

theorem ownUnits_eq {p : String × Json} (hp : p ∈ object) :
    ownUnits object p = attributeUnits object none p.1 p.2 := by
  unfold ownUnits
  split
  next => exact attributeUnits_spaceFacts ..
  next hrecognised =>
    refine (List.length_eq_zero_iff.mp ?_).symm
    rw [h.length_attributeUnits_eq hp, Bool.eq_false_iff.mpr hrecognised]
    rfl

/-- `parmDefn` makes no unit. -/
theorem attributeUnits_eq {p : String × Json} (hp : p ∈ object) (parmDefn : Option ParmDefn) :
    attributeUnits object parmDefn p.1 p.2 = attributeUnits object none p.1 p.2 := by
  rw [attributeUnits_eq_append, staleUnits, h.listed p hp, if_neg Bool.false_ne_true, List.nil_append]

theorem loopUnits_eq_flatMap {properties : Properties} (hsub : properties ⊆ object)
    (parmDefn : Option ParmDefn) :
    loopUnits object parmDefn properties = properties.flatMap (ownUnits object) := by
  induction properties generalizing parmDefn with
  | nil => rfl
  | cons p properties ih =>
    obtain ⟨hp, hproperties⟩ := List.cons_subset.mp hsub
    rw [loopUnits, h.attributeUnits_eq hp, ← h.ownUnits_eq hp, ih hproperties, List.flatMap_cons]

/-- The units of a property do not depend on the order of the object. -/
theorem attributeUnits_perm (hperm : object'.Perm object) {p : String × Json} (hp : p ∈ object) :
    attributeUnits object' none p.1 p.2 = attributeUnits object none p.1 p.2 := by
  refine attributeUnits_eq_of_quiet (hasKey_perm hperm "space") p.1 p.2 fun hcounts property hname => ?_
  rw [countsSpace_perm hperm] at hcounts
  refine ⟨?_, h.hasQuantity_eq_false hp hcounts hname⟩
  by_contra hquantity
  obtain ⟨q, hq, hqname, hrange⟩ := exists_of_hasQuantity (by simpa using hquantity)
  exact h.quantities p hp hcounts q (hperm.mem_iff.mp hq) (hqname ▸ hname) hrange

theorem loopUnits_perm (hperm : object'.Perm object) :
    (loopUnits object' (some .dispNew) object').Perm (loopUnits object (some .dispNew) object) := by
  have hloop : loopUnits object' (some .dispNew) object' =
      object'.flatMap fun p => attributeUnits object none p.1 p.2 := by
    cases object' with
    | nil => rfl
    | cons p rest =>
      rw [loopUnits_cons, staleUnits, h.listed p (hperm.mem_iff.mp (List.mem_cons_self ..)),
        if_neg Bool.false_ne_true, List.nil_append]
      exact List.flatMap_congr fun q hq => h.attributeUnits_perm hperm (hperm.mem_iff.mp hq)
  have hown : loopUnits object (some .dispNew) object =
      object.flatMap fun p => attributeUnits object none p.1 p.2 := by
    rw [h.loopUnits_eq_flatMap (List.Subset.refl _)]
    exact List.flatMap_congr fun p hp => h.ownUnits_eq hp
  rw [hloop, hown]
  exact hperm.flatMap_right _

/-- No property has two units. -/
theorem length_le_one {p : String × Json} (hp : p ∈ object) (parmDefn : Option ParmDefn) :
    (attributeUnits object parmDefn p.1 p.2).length ≤ 1 := by
  rw [h.attributeUnits_eq hp, h.length_attributeUnits_eq hp]
  exact Bool.toNat_le _

theorem staleFirst_eq_false : staleFirst object = false := by
  unfold staleFirst
  cases hobject : object with
  | nil => rfl
  | cons p rest => exact h.listed p (hobject ▸ List.mem_cons_self ..)

theorem unitCount_le : unitCount object ≤ 20 := by
  have hzero : (object.map fun p => quantityCount object p.1 p.2).sum = 0 := by
    rw [List.sum_eq_zero_iff]
    intro n hn
    obtain ⟨p, hp, rfl⟩ := List.mem_map.mp hn
    exact h.quantityCount_eq_zero hp
  rw [unitCount_eq, hzero]
  exact h.stored

end Plain

/-! ## Runs with failures -/

theorem stopsAtFailure_nil (rc : Int) : StopsAtFailure [] rc := by
  intro before e after heq
  exact absurd heq.symm (List.append_ne_nil_of_right_ne_nil _ (List.cons_ne_nil _ _))

/-- A unit that is the last one. -/
theorem stopsAtFailure_last (unit : TextUnit) :
    StopsAtFailure [⟨.setTextUnit unit, (-1 : Int)⟩] (-1) := by
  intro before e after heq _
  cases before with
  | nil => exact ⟨(List.cons.inj heq).2.symm, rfl⟩
  | cons e' before =>
    exact absurd (List.cons.inj heq).2.symm (List.append_ne_nil_of_right_ne_nil _ (List.cons_ne_nil _ _))

/-- A unit that does not fail, then what follows. -/
theorem StopsAtFailure.cons {events : List (Event copyCalls)} {rc : Int}
    (h : StopsAtFailure events rc) {e : Event copyCalls} (he : ¬ failsUnit e) :
    StopsAtFailure (e :: events) rc := by
  intro before e' after heq hfails
  cases before with
  | nil =>
    obtain ⟨rfl, -⟩ := List.cons.inj heq
    exact absurd hfails he
  | cons e'' before => exact h before e' after (List.cons.inj heq).2 hfails

/-- The loop where no property has two units. -/
theorem setProperties_stops {properties : Properties} (parmDefn : Option ParmDefn)
    (hone : ∀ p ∈ properties, ∀ parmDefn, (attributeUnits object parmDefn p.1 p.2).length ≤ 1)
    {rc : Int} (hrc : rc ≠ -1) (units : List TextUnit) :
    (setProperties object parmDefn properties rc units).Ensures (fun _ => True) fun events result =>
      StopsAtFailure events result.1 := by
  induction properties generalizing parmDefn rc units with
  | nil => exact .ret (stopsAtFailure_nil rc)
  | cons p properties ih =>
    obtain ⟨hp, hproperties⟩ := List.forall_mem_cons.mp hone
    rw [setProperties]
    rcases Nat.le_one_iff_eq_zero_or_eq_one.mp (hp parmDefn) with hzero | hlength
    · rw [List.length_eq_zero_iff.mp hzero, setTextUnits, Program.pure_eq, Program.ret_bind]
      dsimp only
      rw [if_neg hrc]
      exact ih none hproperties hrc units
    · obtain ⟨unit, hunit⟩ := List.length_eq_one_iff.mp hlength
      rw [hunit, setTextUnits, Program.bind_assoc]
      refine Program.Ensures.ask_bind fun answer _ => ?_
      rw [setTextUnits, Program.pure_eq, Program.ret_bind]
      dsimp only
      split
      next hfails =>
        subst hfails
        exact .ret (stopsAtFailure_last unit)
      next hset =>
        exact (ih none hproperties hset _).mono fun events result hstops => hstops.cons hset

/-- No more units are stored than are set. -/
theorem setTextUnits_stored (rest : List TextUnit) (rc : Int) (units : List TextUnit) :
    (setTextUnits rest rc units).Ensures (fun _ => True) fun _ result =>
      result.2.length ≤ units.length + rest.length := by
  induction rest generalizing rc units with
  | nil => exact .ret (Nat.le_refl _)
  | cons unit rest ih =>
    rw [setTextUnits]
    refine Program.Ensures.ask_bind fun answer _ => ?_
    refine (ih _ _).mono fun _ result hle => Nat.le_trans hle ?_
    split
    next => rw [List.length_append, List.length_cons, List.length_nil, List.length_cons]; omega
    next => rw [List.length_cons]; omega

theorem setProperties_stored (properties : Properties) (parmDefn : Option ParmDefn) (rc : Int)
    (units : List TextUnit) :
    (setProperties object parmDefn properties rc units).Ensures (fun _ => True) fun _ result =>
      result.2.length ≤ units.length + (loopUnits object parmDefn properties).length := by
  induction properties generalizing parmDefn rc units with
  | nil => exact .ret (Nat.le_refl _)
  | cons p properties ih =>
    rw [setProperties]
    refine .bind_of (setTextUnits_stored _ _ _) fun _ result hle => ?_
    rw [loopUnits, List.length_append]
    dsimp only
    split
    next =>
      refine .ret ?_
      dsimp only
      omega
    next => exact (ih _ _ _).mono fun _ result' hle' => by omega

namespace Plain

variable (h : Plain object)

include h

theorem stops (initial : List TextUnit) :
    (setDatasetAttributesForCreation object initial).Ensures (fun _ => True) fun events result =>
      StopsAtFailure events result.1 := by
  unfold setDatasetAttributesForCreation
  rw [setTextUnits, Program.bind_assoc]
  refine Program.Ensures.ask_bind fun answer _ => ?_
  rw [setTextUnits, Program.pure_eq, Program.ret_bind]
  dsimp only
  by_cases hfails : answer = (-1 : Int)
  · subst hfails
    -- the first property has no unit that could overwrite the return code
    cases hobject : object with
    | nil => exact .ret (stopsAtFailure_last dalstatsUnit)
    | cons p rest =>
      have hp : p ∈ object := hobject ▸ List.mem_cons_self ..
      have hunits : attributeUnits object (some .dispNew) p.1 p.2 = [] := by
        refine List.length_eq_zero_iff.mp ?_
        rw [h.attributeUnits_eq hp, h.length_attributeUnits_eq hp, h.first p (by rw [hobject]; rfl)]
        rfl
      rw [setProperties, ← hobject, hunits, setTextUnits, Program.pure_eq, Program.ret_bind]
      exact .ret (stopsAtFailure_last dalstatsUnit)
  · exact (setProperties_stops _ (fun p hp parmDefn => h.length_le_one hp parmDefn) hfails _).mono
      fun events result hstops => hstops.cons hfails

theorem stored_le (initial : List TextUnit) (hinitial : initial.length = 2) :
    (setDatasetAttributesForCreation object initial).Ensures (fun _ => True) fun _ result =>
      result.2.length ≤ TOTAL_TEXT_UNITS := by
  unfold setDatasetAttributesForCreation
  refine .bind_of (setTextUnits_stored _ _ _) fun _ result hle => ?_
  refine (setProperties_stored _ _ _ _).mono fun _ result' hle' => ?_
  have hloop : (loopUnits object (some .dispNew) object).length ≤ 20 := by
    rw [length_loopUnits, h.staleFirst_eq_false, Bool.toNat_false, Nat.zero_add]
    exact h.unitCount_le
  rw [hinitial] at hle
  simp only [List.length_cons, List.length_nil] at hle
  simp only [TOTAL_TEXT_UNITS]
  omega

end Plain

end Zss.Datasets
