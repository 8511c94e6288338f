import Zss.Datasets.Creation

/-!
# Attributes and their text units

Each property of an object of create attributes should lead to text units of its own: `ownUnits` are
those that its branch of `setDatasetAttributesForCreation` makes of a recognised value. The loop makes
them, and one unit more where the first property has a text that is not in its list, because
`parmDefn` still is what the unit before the loop left it at (`length_attributeUnits`).
-/

namespace Zss.Datasets

open Zss.Lib Zss.Lib.Json

/-! ## Values that are recognised -/

/-- The texts that a property is recognised with, where it has a list of them. -/
def listedTexts (propString : String) : Option (List Text) :=
  if propString = "space" then
    some ["CYL".toList, "TRK".toList, "BYTE".toList, "KB".toList, "MB".toList]
  else if propString = "avgr" then some [['M'], ['K'], ['U']]
  else if propString = "dsnt" then
    some ["PDSE".toList, "PDS".toList, "HFS".toList, "EXTREQ".toList, "EXTPREF".toList,
      "BASIC".toList, "LARGE".toList]
  else none

/-- The property has a list of texts, and its text is not in it. -/
def unlisted (propString : String) (value : Json) : Bool :=
  (listedTexts propString).any fun texts => value.asString.any fun text => !texts.contains text

/-- The value is a string of at most a size. -/
def stringWithin (value : Json) (size : Nat) : Bool :=
  value.asString.any fun text => text.length ≤ size

/-- The value is one that the property is known with. -/
def recognised (object : Properties) (propString : String) (value : Json) : Bool :=
  if propString = "dsorg" then value.asString.isSome
  else if propString = "blksz" then value.asNumber ≠ 0 && value.asNumber ≤ 0x80000000
  else if propString = "lrecl" then
    value.asNumber = 0x8000 || (value.asNumber ≤ 0x7FF8 && 0 ≤ value.asNumber)
  else if propString = "volser" then stringWithin value VOLSER_SIZE
  else if propString = "recfm" then value.asString.isSome
  else if propString = "blkln" ∧ !object.hasKey "space" then
    value.asNumber ≤ 0xFFFF && 0 ≤ value.asNumber
  else if propString = "ndisp" then value.asString.isSome
  else if propString = "strcls" then stringWithin value CLASS_WRITER_SIZE
  else if propString = "mngcls" then stringWithin value CLASS_WRITER_SIZE
  else if propString = "datacls" then stringWithin value CLASS_WRITER_SIZE
  else if propString = "space" then value.asString.isSome && !unlisted propString value
  else if propString = "dir" then value.asNumber ≤ 0xFFFFFF && 0 ≤ value.asNumber
  else if propString = "avgr" then value.asString.isSome && !unlisted propString value
  else if propString = "dsnt" then value.asString.isSome && !unlisted propString value
  else false

/-- The object has a quantity under a name that is in range. -/
def hasQuantity (object : Properties) (property : String) : Bool :=
  decide (object.hasKey property ∧ object.getNumber property ≤ 0xFFFFFF ∧
    0 ≤ object.getNumber property)

/-- The property is one that quantities are counted in. -/
def countsSpace (object : Properties) (propString : String) (value : Json) : Bool :=
  (propString = "space" && value.asString.isSome) ||
    (propString = "blkln" && !object.hasKey "space")

/-- How many quantities are set for a property. -/
def quantityCount (object : Properties) (propString : String) (value : Json) : Nat :=
  if countsSpace object propString value then
    (hasQuantity object "prime").toNat + (hasQuantity object "secnd").toNat
  else 0

/-! ## The units of a property -/

theorem length_quantityUnit (object : Properties) (property : String) (key : TextUnitKey)
    (scale : Int → Int) :
    (quantityUnit object property key scale).length = (hasQuantity object property).toNat := by
  unfold quantityUnit hasQuantity
  dsimp only
  split
  next h => rw [decide_eq_true h]; rfl
  next h => rw [decide_eq_false h]; rfl

/-- The unit that is made of what `parmDefn` is left at, where the text of a property is not listed. -/
def staleUnits (parmDefn : Option ParmDefn) (propString : String) (value : Json) : List TextUnit :=
  if unlisted propString value then
    if propString = "space" then parmDefnUnit parmDefn fun value => ⟨.parmDefn value, .boolean⟩
    else if propString = "avgr" then parmDefnUnit parmDefn fun value => ⟨.dalavgr, .defn value⟩
    else parmDefnUnit parmDefn fun value => ⟨.daldsnt, .defn value⟩
  else []

theorem length_parmDefnUnit (parmDefn : Option ParmDefn) (unit : ParmDefn → TextUnit) :
    (parmDefnUnit parmDefn unit).length = parmDefn.isSome.toNat := by
  cases parmDefn with
  | none | some => rfl

theorem length_staleUnits (parmDefn : Option ParmDefn) (propString : String) (value : Json) :
    (staleUnits parmDefn propString value).length =
      if unlisted propString value then parmDefn.isSome.toNat else 0 := by
  unfold staleUnits
  split_ifs
  · exact length_parmDefnUnit _ _
  · exact length_parmDefnUnit _ _
  · exact length_parmDefnUnit _ _
  · rfl

/-- A listed text has a unit, and no other text leads to any if `parmDefn` is left at nothing. -/
theorem length_listedUnit (text : Text) :
    (spaceUnit none text).length =
        (["CYL".toList, "TRK".toList, "BYTE".toList, "KB".toList, "MB".toList].contains text).toNat ∧
      (avgrUnit none text).length = ([['M'], ['K'], ['U']].contains text).toNat ∧
      (dsntUnit none text).length =
        (["PDSE".toList, "PDS".toList, "HFS".toList, "EXTREQ".toList, "EXTPREF".toList,
          "BASIC".toList, "LARGE".toList].contains text).toNat := by
  unfold spaceUnit avgrUnit dsntUnit
  refine ⟨?_, ?_, ?_⟩
  all_goals
    simp only [List.contains_eq_mem, List.mem_cons, List.not_mem_nil, or_false]
    split_ifs <;> simp_all [length_parmDefnUnit]

/-- What `parmDefn` is left at matters where the text is not listed only. -/
theorem listedUnit_eq_append (parmDefn : Option ParmDefn) (text : Text) :
    spaceUnit parmDefn text = staleUnits parmDefn "space" (string text) ++ spaceUnit none text ∧
      avgrUnit parmDefn text = staleUnits parmDefn "avgr" (string text) ++ avgrUnit none text ∧
      dsntUnit parmDefn text = staleUnits parmDefn "dsnt" (string text) ++ dsntUnit none text := by
  unfold spaceUnit avgrUnit dsntUnit staleUnits unlisted listedTexts
  simp only [String.reduceEq, if_true, if_false, asString_string, Option.any_some,
    List.contains_cons, List.contains_nil, Bool.or_false]
  refine ⟨?_, ?_, ?_⟩
  all_goals split_ifs <;> simp_all [parmDefnUnit]

theorem length_stringUnit (value : Json) (size : Nat) (key : TextUnitKey) :
    (stringUnit value size key).length = (stringWithin value size).toNat := by
  unfold stringUnit stringWithin
  cases value.asString with
  | none => rfl
  | some text =>
    dsimp only [Option.any_some]
    split
    next h => rw [decide_eq_true h]; rfl
    next h => rw [decide_eq_false h]; rfl

theorem length_blkszUnit (valueInt : Int) :
    (blkszUnit valueInt).length = (valueInt ≠ 0 && valueInt ≤ 0x80000000).toNat := by
  unfold blkszUnit
  split_ifs
  next h => subst h; rfl
  next h h' =>
    rw [decide_eq_true h, decide_eq_true (by omega : valueInt ≤ 0x80000000)]
    rfl
  next h _ h' =>
    rw [decide_eq_true h, decide_eq_true h']
    rfl
  next h _ h' =>
    rw [decide_eq_true h, decide_eq_false h']
    rfl

theorem length_lreclUnit (valueInt : Int) :
    (lreclUnit valueInt).length =
      (valueInt = 0x8000 || (valueInt ≤ 0x7FF8 && 0 ≤ valueInt)).toNat := by
  unfold lreclUnit
  simp only [← Bool.decide_and, ← Bool.decide_or]
  split
  next h => rw [decide_eq_true h]; rfl
  next h => rw [decide_eq_false h]; rfl

theorem length_textUnit (value : Json) (unit : Text → TextUnit) :
    (textUnits value fun text => [unit text]).length = value.asString.isSome.toNat := by
  unfold textUnits
  cases value.asString with
  | none | some => rfl

theorem length_rangeUnit (n max : Int) (unit : TextUnit) :
    (if n ≤ max ∧ 0 ≤ n then [unit] else []).length =
      (decide (n ≤ max) && decide (0 ≤ n)).toNat := by
  rw [← Bool.decide_and]
  split
  next h => rw [decide_eq_true h]; rfl
  next h => rw [decide_eq_false h]; rfl

/-- The units of a property with a list of texts. -/
theorem length_listedUnits {texts : List Text} {units : Text → List TextUnit}
    (h : ∀ text, (units text).length = (texts.contains text).toNat) (value : Json) :
    (textUnits value units).length =
      (value.asString.isSome && !value.asString.any fun text => !texts.contains text).toNat := by
  unfold textUnits
  cases value.asString with
  | none => rfl
  | some text => simp only [Option.any_some, Option.isSome_some, Bool.not_not, Bool.true_and, h]

/-- The names that the loop knows. -/
def knownNames : List String :=
  ["dsorg", "blksz", "lrecl", "volser", "recfm", "blkln", "ndisp", "strcls", "mngcls", "datacls",
    "space", "dir", "avgr", "dsnt"]

/-- **How many units a property leads to**: one if its value is recognised, and the quantities that
are counted in it. -/
theorem length_attributeUnits (object : Properties) (propString : String) (value : Json) :
    (attributeUnits object none propString value).length =
      (recognised object propString value).toNat + quantityCount object propString value := by
  by_cases hknown : propString ∈ knownNames
  · simp only [knownNames, List.mem_cons, List.not_mem_nil, or_false] at hknown
    rcases hknown with rfl | rfl | rfl | rfl | rfl | rfl | rfl | rfl | rfl | rfl | rfl | rfl | rfl | rfl
    all_goals
      simp only [attributeUnits, recognised, unlisted, listedTexts, quantityCount,
        countsSpace, String.reduceEq, if_true, if_false, false_and, true_and, decide_false,
        decide_true, Bool.true_and, Bool.false_and, Bool.or_false, Bool.false_or, Bool.false_eq_true,
        Nat.add_zero, Option.any_some, length_blkszUnit, length_lreclUnit, length_stringUnit,
        length_textUnit, length_rangeUnit]
    -- what is left: `blkln`, `space`, `avgr` and `dsnt`
    · cases object.hasKey "space" with
      | true => rfl
      | false =>
        simp only [Bool.not_false, if_true, List.length_append, length_rangeUnit,
          length_quantityUnit, Nat.add_assoc]
    · have hlisted := length_listedUnits (fun text => (length_listedUnit text).1) value
      revert hlisted
      unfold textUnits
      cases value.asString with
      | none => exact fun _ => rfl
      | some text =>
        intro hlisted
        dsimp only at hlisted ⊢
        rw [List.length_append, List.length_append, length_quantityUnit, length_quantityUnit, hlisted,
          Option.isSome_some, if_pos rfl, Nat.add_assoc _ (Bool.toNat _)]
    · exact length_listedUnits (fun text => (length_listedUnit text).2.1) value
    · exact length_listedUnits (fun text => (length_listedUnit text).2.2) value
  · simp only [knownNames, List.mem_cons, List.not_mem_nil, or_false, not_or] at hknown
    simp [attributeUnits, recognised, quantityCount, countsSpace, hknown]

/-- **What is left at in `parmDefn` stands before the units of a property.** -/
theorem attributeUnits_eq_append (object : Properties) (parmDefn : Option ParmDefn)
    (propString : String) (value : Json) :
    attributeUnits object parmDefn propString value =
      staleUnits parmDefn propString value ++ attributeUnits object none propString value := by
  by_cases hlisted : propString = "space" ∨ propString = "avgr" ∨ propString = "dsnt"
  · cases value with
    | string text =>
      rcases hlisted with rfl | rfl | rfl
      all_goals simp only [attributeUnits, String.reduceEq, if_true, if_false, false_and, textUnits,
        asString_string]
      · rw [(listedUnit_eq_append parmDefn text).1, List.append_assoc, List.append_assoc,
          List.append_assoc]
      · exact (listedUnit_eq_append parmDefn text).2.1
      · exact (listedUnit_eq_append parmDefn text).2.2
    | _ =>
      rcases hlisted with rfl | rfl | rfl
      all_goals simp [attributeUnits, textUnits, asString, staleUnits, unlisted]
  · obtain ⟨hspace, havgr, hdsnt⟩ : propString ≠ "space" ∧ propString ≠ "avgr" ∧ propString ≠ "dsnt" := by
      simpa only [not_or] using hlisted
    simp only [attributeUnits, hspace, havgr, hdsnt, if_false, staleUnits, unlisted, listedTexts,
      Option.any_none, Bool.false_eq_true, List.nil_append]

/-! ## What the units of a property depend on -/

/-- What the space units depend on besides their own property: the first quantities of the object, and
whether it has a space type. -/
def spaceFacts (object : Properties) : Properties :=
  ((object.value "prime").toList.map fun value => ("prime", value)) ++
    ((object.value "secnd").toList.map fun value => ("secnd", value)) ++
    ((object.value "space").toList.map fun _ => ("space", boolean true))

/-- Objects with the same space facts have the same units for a property. -/
theorem attributeUnits_congr {object object' : Properties}
    (hprime : object.value "prime" = object'.value "prime")
    (hsecnd : object.value "secnd" = object'.value "secnd")
    (hspace : object.hasKey "space" = object'.hasKey "space") (parmDefn : Option ParmDefn)
    (propString : String) (value : Json) :
    attributeUnits object parmDefn propString value =
      attributeUnits object' parmDefn propString value := by
  have hquantity : ∀ property, object.value property = object'.value property → ∀ key scale,
      quantityUnit object property key scale = quantityUnit object' property key scale := by
    intro property h key scale
    unfold quantityUnit Properties.hasKey Properties.getNumber
    rw [h]
  simp only [attributeUnits, hspace, hquantity "prime" hprime, hquantity "secnd" hsecnd]

theorem value_toList_map (found : Option Json) (f : Json → Json) (key key' : String) :
    Properties.value (found.toList.map fun value => (key, f value)) key' =
      if key = key' then found.map f else none := by
  cases found with
  | none => simp
  | some value => simp [Properties.value_cons]

theorem attributeUnits_spaceFacts (object : Properties) (parmDefn : Option ParmDefn)
    (propString : String) (value : Json) :
    attributeUnits (spaceFacts object) parmDefn propString value =
      attributeUnits object parmDefn propString value := by
  have hvalue : ∀ key, (spaceFacts object).value key =
      ((if "prime" = key then object.value "prime" else none).or
        (if "secnd" = key then object.value "secnd" else none)).or
        (if "space" = key then (object.value "space").map fun _ => boolean true else none) := by
    intro key
    rw [spaceFacts, Properties.value_append, Properties.value_append,
      value_toList_map _ (fun value => value), value_toList_map _ (fun value => value),
      value_toList_map, Option.map_id', Option.map_id']
  refine attributeUnits_congr ?_ ?_ ?_ parmDefn propString value
  · simp [hvalue]
  · simp [hvalue]
  · simp [Properties.hasKey, hvalue]

/-- **The units that a property should lead to**: none where its value is not recognised. -/
def ownUnits (object : Properties) (p : String × Json) : List TextUnit :=
  if recognised object p.1 p.2 then attributeUnits (spaceFacts object) none p.1 p.2 else []

/-! ## Runs of the loop -/

/-- A text unit is set. -/
def setsUnit : Event copyCalls → Prop
  | ⟨.setTextUnit _, rc⟩ => rc = 0
  | _ => True

/-- The units that the loop makes. -/
def loopUnits (object : Properties) : Option ParmDefn → Properties → List TextUnit
  | _, [] => []
  | parmDefn, p :: rest => attributeUnits object parmDefn p.1 p.2 ++ loopUnits object none rest

theorem setTextUnits_set (rest : List TextUnit) (units : List TextUnit) :
    (setTextUnits rest 0 units).Ensures setsUnit fun _ result => result = (0, units ++ rest) := by
  induction rest generalizing units with
  | nil => exact .ret (by rw [List.append_nil])
  | cons unit rest ih =>
    rw [setTextUnits]
    refine .ask_bind fun rc hrc => ?_
    rw [show rc = 0 from hrc, if_pos rfl]
    exact (ih _).mono fun _ _ h => by rw [h, List.append_assoc, List.singleton_append]

theorem setProperties_set (object : Properties) (parmDefn : Option ParmDefn) (properties : Properties)
    (units : List TextUnit) :
    (setProperties object parmDefn properties 0 units).Ensures setsUnit fun _ result =>
      result = (0, units ++ loopUnits object parmDefn properties) := by
  induction properties generalizing parmDefn units with
  | nil => exact .ret (by rw [loopUnits, List.append_nil])
  | cons p properties ih =>
    rw [setProperties]
    refine .bind_of (setTextUnits_set _ _) ?_
    rintro _ _ rfl
    dsimp only
    rw [if_neg (by decide)]
    exact (ih _ _).mono fun _ _ h => by rw [h, loopUnits, List.append_assoc]

/-- **What a run without a failure leaves.** -/
theorem setDatasetAttributesForCreation_set (object : Properties) (units : List TextUnit) :
    (setDatasetAttributesForCreation object units).Ensures setsUnit fun _ result =>
      result = (0, units ++ dalstatsUnit :: loopUnits object (some .dispNew) object) := by
  unfold setDatasetAttributesForCreation
  refine .bind_of (setTextUnits_set _ _) ?_
  rintro _ _ rfl
  refine (setProperties_set _ _ _ _).mono fun _ _ h => ?_
  rw [h, List.append_assoc, List.singleton_append]

theorem loopUnits_none (object properties : Properties) :
    loopUnits object none properties = properties.flatMap fun p => attributeUnits object none p.1 p.2 := by
  induction properties with
  | nil => rfl
  | cons p properties ih => rw [loopUnits, ih, List.flatMap_cons]

/-- The unit of what `parmDefn` is left at stands in front. -/
theorem loopUnits_cons (object : Properties) (parmDefn : Option ParmDefn) (p : String × Json)
    (rest : Properties) :
    loopUnits object parmDefn (p :: rest) = staleUnits parmDefn p.1 p.2 ++
      (p :: rest).flatMap fun p => attributeUnits object none p.1 p.2 := by
  rw [loopUnits, attributeUnits_eq_append, loopUnits_none, List.flatMap_cons, List.append_assoc]

/-! ## Runs with a failure -/

/-- A text unit could not be set. -/
def failsUnit : Event copyCalls → Prop
  | ⟨.setTextUnit _, rc⟩ => rc = -1
  | _ => False

/-- A unit that fails is the last one, and its return code is returned. -/
def StopsAtFailure (events : List (Event copyCalls)) (rc : Int) : Prop :=
  ∀ before e after, events = before ++ e :: after → failsUnit e → after = [] ∧ rc = -1

/-- Units are set without a failure. -/
theorem setTextUnits_runs (rest : List TextUnit) (rc : Int) (units : List TextUnit) :
    ∃ events units', (setTextUnits rest rc units).Runs events (if rest = [] then rc else 0, units') := by
  induction rest generalizing rc units with
  | nil => exact ⟨[], units, .ret _⟩
  | cons unit rest ih =>
    obtain ⟨events, units', runs⟩ := ih 0 (units ++ [unit])
    rw [ite_self] at runs
    exact ⟨_, units', .ask_bind (0 : Int) runs⟩

/-- The loop goes through without a failure. -/
theorem setProperties_runs (object : Properties) (parmDefn : Option ParmDefn)
    (properties : Properties) (units : List TextUnit) :
    ∃ events units', (setProperties object parmDefn properties 0 units).Runs events (0, units') := by
  induction properties generalizing parmDefn units with
  | nil => exact ⟨[], units, .ret _⟩
  | cons p properties ih =>
    obtain ⟨events, units', runs⟩ :=
      setTextUnits_runs (attributeUnits object parmDefn p.1 p.2) 0 units
    rw [ite_self] at runs
    obtain ⟨events', units'', runs'⟩ := ih none units'
    exact ⟨_, units'', runs.bind runs'⟩

/-- A unit that fails is followed by one that is set. -/
theorem not_stopsAtFailure {before after : List (Event copyCalls)} {unit unit' : TextUnit} (rc : Int) :
    ¬ StopsAtFailure (before ++ ⟨.setTextUnit unit, (-1 : Int)⟩ ::
      ⟨.setTextUnit unit', (0 : Int)⟩ :: after) rc := by
  intro h
  have := (h before _ _ rfl rfl).1
  cases this

/-- Of two units the first fails, and the second is set. -/
theorem setTextUnits_runs_past {rest : List TextUnit} (htwo : 2 ≤ rest.length) (rc : Int)
    (units : List TextUnit) :
    ∃ unit unit' after units', (setTextUnits rest rc units).Runs
      (⟨.setTextUnit unit, (-1 : Int)⟩ :: ⟨.setTextUnit unit', (0 : Int)⟩ :: after) (0, units') := by
  match rest, htwo with
  | unit :: unit' :: rest, _ =>
    obtain ⟨events, units', runs⟩ := setTextUnits_runs rest 0 (units ++ [unit'])
    rw [ite_self] at runs
    refine ⟨unit, unit', events, units', ?_⟩
    rw [setTextUnits]
    refine Program.Runs.ask_bind (I := copyCalls) (c := .setTextUnit unit) (-1 : Int) ?_
    rw [setTextUnits]
    exact Program.Runs.ask_bind (I := copyCalls) (c := .setTextUnit unit') (0 : Int) runs

/-- A unit that fails is followed by one of the same property. -/
theorem setProperties_runs_past (object : Properties) (parmDefn : Option ParmDefn)
    {properties : Properties} (units : List TextUnit) {p : String × Json} (hp : p ∈ properties)
    (htwo : 2 ≤ (attributeUnits object none p.1 p.2).length) :
    ∃ events result, (setProperties object parmDefn properties 0 units).Runs events result ∧
      ∃ before unit unit' after, events = before ++ ⟨.setTextUnit unit, (-1 : Int)⟩ ::
        ⟨.setTextUnit unit', (0 : Int)⟩ :: after := by
  induction properties generalizing parmDefn units with
  | nil => cases hp
  | cons q properties ih =>
    rcases List.mem_cons.mp hp with rfl | hp
    · have htwo' : 2 ≤ (attributeUnits object parmDefn p.1 p.2).length := by
        rw [attributeUnits_eq_append, List.length_append]
        omega
      obtain ⟨unit, unit', after, units', runs⟩ := setTextUnits_runs_past htwo' 0 units
      obtain ⟨events, units'', runs'⟩ := setProperties_runs object none properties units'
      exact ⟨_, _, runs.bind runs', [], unit, unit', _, rfl⟩
    · obtain ⟨events, units', runs⟩ :=
        setTextUnits_runs (attributeUnits object parmDefn q.1 q.2) 0 units
      rw [ite_self] at runs
      obtain ⟨events', result, runs', before, unit, unit', after, rfl⟩ := ih none units' hp
      exact ⟨_, result, runs.bind runs', events ++ before, unit, unit', after,
        (List.append_assoc ..).symm⟩

end Zss.Datasets
