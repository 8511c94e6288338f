import Zss.Lib.Machine
import Zss.Lib.PutLog
import Zss.Zis.Operator

/-!
# The parameter set as a map

A parameter set is a chain of entries, and a put links the entry first and fills its key and its
value in two further steps. The log of the puts that succeeded says what the set should be: each key
once, in the order of the first puts, with the value last put.

The walk of `findEntry` compares the key of every entry it meets, so an entry without a key stops
every later call that gets as far. A put leaves such an entry, or one without a value, exactly where
the storage of its entry is there and that of the key or of the value is not.

Storage is zero when the heap gives it, as the `strcat` into it needs.

## What is not established

Calls on a set are taken one after the other, and the storage that a failed put leaves allocated in
the heap of the set is not counted.
-/

namespace Zss.Zis

open Zss.Lib

variable {σ : Type}

/-! ## The calls -/

/-- `findEntry` with its dereferences; nothing where it compares a missing key. -/
def findEntryChecked : List ZisParmSetEntry → Text → Option (Option Nat)
  | [], _ => some none
  | entry :: entries, name =>
    entry.key.bind fun key =>
      if key = name then some (some 0)
      else (findEntryChecked entries name).map fun found => found.map (· + 1)

/-- `zisGetParmValue` with the dereferences of its `findEntry`. -/
def zisGetParmValueChecked (entries : List ZisParmSetEntry) (name : Text) : Option (Option Text) :=
  (findEntryChecked entries name).map fun found =>
    found.bind fun entry => entries[entry]?.bind ZisParmSetEntry.value

/-- `zisIterateParms`: what the visitor is called with. -/
def zisIterateParms (entries : List ZisParmSetEntry) : List (Option Text × Option Text) :=
  entries.map fun entry => (entry.key, entry.value)

/-- A call of `zisPutParmValue`, with the storage it meets. -/
structure PutCall (σ : Type) where
  slhAlloc : σ → Nat → Option σ
  name : Text
  value : Text

/-- The set before its first put, which `zisMakeParmSet` makes. -/
def emptyParmSet (slh : σ) : ZisParmSet σ := ⟨slh, [], []⟩

/-- Puts, one after the other; there is no next one after a call that stops. -/
def parmPuts : Machine (ZisParmSet σ) (PutCall σ) where
  step parms call :=
    (findEntryChecked parms.entries call.name).map fun _ =>
      (zisPutParmValue call.slhAlloc parms call.name call.value).2

/-- There is storage for what a put has begun: for the value of a known key, and for the key and the
value of a new one whose entry is there. -/
def PutCall.Storage (parms : ZisParmSet σ) (call : PutCall σ) : Prop :=
  match findEntry parms.entries call.name with
  | some _ => (call.slhAlloc parms.slh (call.value.length + 1)).isSome
  | none =>
    ∀ slh, call.slhAlloc parms.slh zisParmSetEntrySize = some slh →
      ((call.slhAlloc slh (call.name.length + 1)).bind fun slh =>
        call.slhAlloc slh (call.value.length + 1)).isSome

/-- A put that fails leaves the entries as they were. -/
def PutCall.FailsClean (parms : ZisParmSet σ) (call : PutCall σ) : Prop :=
  (zisPutParmValue call.slhAlloc parms call.name call.value).1 ≠ rcZisparmOk →
    (zisPutParmValue call.slhAlloc parms call.name call.value).2.entries = parms.entries

/-- A set is the map that its successful puts make. -/
structure ZisParmSet.AsMap (parms : ZisParmSet σ) : Prop where
  get : ∀ name, zisGetParmValueChecked parms.entries name = some (lastPut parms.puts name)
  iterate : zisIterateParms parms.entries =
    (shown parms.puts).map fun parm => (some parm.1, some parm.2)
  once : ((zisIterateParms parms.entries).map Prod.fst).Nodup

/-! ## The entries of a log -/

/-- The entries that show a list of parameters. -/
def entriesOf (parms : List (Text × Text)) : List ZisParmSetEntry :=
  parms.map fun parm => ⟨some parm.1, some parm.2⟩

theorem findEntry_cons (entry : ZisParmSetEntry) (entries : List ZisParmSetEntry) (name : Text) :
    findEntry (entry :: entries) name =
      if entry.key = some name then some 0 else (findEntry entries name).map (· + 1) := by
  by_cases h : entry.key = some name <;> simp [findEntry, List.findIdx?_cons, h]

theorem findEntryChecked_eq {entries : List ZisParmSetEntry} {name : Text} {found : Option Nat}
    (h : findEntryChecked entries name = some found) : findEntry entries name = found := by
  induction entries generalizing found with
  | nil => simpa [findEntryChecked, findEntry] using h
  | cons entry entries ih =>
    obtain ⟨key, hkey, hwalk⟩ := Option.bind_eq_some_iff.mp h
    rw [findEntry_cons, hkey]
    split at hwalk
    · next heq => rw [if_pos (congrArg some heq), Option.some.inj hwalk]
    · next hne =>
      obtain ⟨found', hfound', rfl⟩ := Option.map_eq_some_iff.mp hwalk
      rw [if_neg (fun heq => hne (Option.some.inj heq)), ih hfound']

/-- **The walk is safe among entries with keys.** -/
theorem findEntryChecked_entriesOf (parms : List (Text × Text)) (name : Text) :
    findEntryChecked (entriesOf parms) name = some (findEntry (entriesOf parms) name) := by
  have walked : ∃ found, findEntryChecked (entriesOf parms) name = some found := by
    induction parms with
    | nil => exact ⟨none, rfl⟩
    | cons parm parms ih =>
      obtain ⟨found, hfound⟩ := ih
      rw [entriesOf] at hfound ⊢
      by_cases h : parm.1 = name
      · exact ⟨some 0, by simp [findEntryChecked, h]⟩
      · exact ⟨found.map (· + 1), by simp [findEntryChecked, h, hfound]⟩
  obtain ⟨found, hfound⟩ := walked
  rw [hfound, findEntryChecked_eq hfound]

theorem putEntry_cons (entry : ZisParmSetEntry) (entries : List ZisParmSetEntry)
    (parm : Text × Text) :
    putEntry (entry :: entries) parm =
      if entry.key = some parm.1 then { entry with value := some parm.2 } :: entries
      else entry :: putEntry entries parm := by
  by_cases h : entry.key = some parm.1
  · simp [putEntry, findEntry_cons, h]
  · cases hfound : findEntry entries parm.1 <;> simp [putEntry, findEntry_cons, hfound, h]

/-- A put on the entries of distinct keys. -/
theorem putEntry_entriesOf {parms : List (Text × Text)} (distinct : (parms.map Prod.fst).Nodup)
    (parm : Text × Text) :
    putEntry (entriesOf parms) parm =
      entriesOf (if parm.1 ∈ parms.map Prod.fst then parms.map (replaced parm)
        else parms ++ [parm]) := by
  induction parms with
  | nil => rfl
  | cons head parms ih =>
    obtain ⟨hhead, hparms⟩ := List.nodup_cons.mp distinct
    rw [entriesOf, List.map_cons, putEntry_cons]
    by_cases h : head.1 = parm.1
    · have others : parms.map (replaced parm) = parms := by
        refine (List.map_congr_left fun other hother => ?_).trans (List.map_id parms)
        have hne : other.1 ≠ parm.1 := fun heq =>
          hhead (h ▸ heq ▸ List.mem_map_of_mem hother)
        exact if_neg hne
      have member : parm.1 ∈ (head :: parms).map Prod.fst := by simp [h]
      rw [if_pos (congrArg some h), if_pos member, List.map_cons, others]
      simp [entriesOf, replaced, h]
    · have ih := ih hparms
      rw [entriesOf] at ih
      rw [if_neg (fun heq => h (Option.some.inj heq)), ih]
      by_cases hmem : parm.1 ∈ parms.map Prod.fst
      · have member : parm.1 ∈ (head :: parms).map Prod.fst := List.mem_cons_of_mem _ hmem
        rw [if_pos hmem, if_pos member]
        simp [entriesOf, replaced, h]
      · have other : parm.1 ∉ (head :: parms).map Prod.fst :=
          fun hin => (List.mem_cons.mp hin).elim (fun heq => h heq.symm) hmem
        rw [if_neg hmem, if_neg other]
        simp [entriesOf]

/-- **The log in step with the entries.** One more put is one more put. -/
theorem entriesOf_shown_append (puts : List (Text × Text)) (parm : Text × Text) :
    entriesOf (shown (puts ++ [parm])) = putEntry (entriesOf (shown puts)) parm := by
  have more := shown_append puts parm.1 parm.2
  rw [putEntry_entriesOf (nodup_shown puts)]
  by_cases h : parm.1 ∈ (shown puts).map Prod.fst
  · rw [if_pos h] at more ⊢
    exact congrArg entriesOf more
  · rw [if_neg h] at more ⊢
    exact congrArg entriesOf more

/-! ## What is read of the entries of a log -/

theorem mem_of_zisGetParmValue {parms : List (Text × Text)} {name value : Text}
    (h : zisGetParmValue (entriesOf parms) name = some value) : (name, value) ∈ parms := by
  obtain ⟨i, hfound, hentry⟩ := Option.bind_eq_some_iff.mp h
  obtain ⟨entry, hat, hvalue⟩ := Option.bind_eq_some_iff.mp hentry
  have hkey := findEntry_some hfound
  rw [hat, Option.bind_some] at hkey
  rw [entriesOf, List.getElem?_map] at hat
  obtain ⟨parm, hparm, rfl⟩ := Option.map_eq_some_iff.mp hat
  have : parm = (name, value) := Prod.ext (Option.some.inj hkey) (Option.some.inj hvalue)
  exact this ▸ List.mem_of_getElem? hparm

theorem isSome_zisGetParmValue {parms : List (Text × Text)} {name : Text}
    (h : name ∈ parms.map Prod.fst) : (zisGetParmValue (entriesOf parms) name).isSome := by
  induction parms with
  | nil => cases h
  | cons head parms ih =>
    rw [entriesOf] at ih ⊢
    by_cases hhead : head.1 = name
    · simp [zisGetParmValue, findEntry_cons, hhead]
    · have ih := ih ((List.mem_cons.mp h).resolve_left fun heq => hhead heq.symm)
      cases hfound : findEntry (parms.map fun parm => ⟨some parm.1, some parm.2⟩) name with
      | none => simp [zisGetParmValue, hfound] at ih
      | some i => simpa [zisGetParmValue, findEntry_cons, hhead, hfound] using ih

/-- What is read of the entries of a log is what was put last. -/
theorem zisGetParmValue_shown (puts : List (Text × Text)) (name : Text) :
    zisGetParmValue (entriesOf (shown puts)) name = lastPut puts name := by
  ext value
  constructor
  · intro h
    exact mem_shown.mp (mem_of_zisGetParmValue h)
  · intro h
    have known : name ∈ (shown puts).map Prod.fst := List.mem_map_of_mem (mem_shown.mpr h)
    obtain ⟨value', hvalue'⟩ := Option.isSome_iff_exists.mp (isSome_zisGetParmValue known)
    have last := mem_shown.mp (mem_of_zisGetParmValue hvalue')
    rw [hvalue', ← last, h]

/-- **A set is the map of its log exactly if its entries are those of the log.** -/
theorem asMap_iff {parms : ZisParmSet σ} :
    parms.AsMap ↔ parms.entries = entriesOf (shown parms.puts) := by
  constructor
  · intro asMap
    have injective :
        Function.Injective fun entry : ZisParmSetEntry => (entry.key, entry.value) := by
      rintro ⟨key, value⟩ ⟨key', value'⟩ h
      cases h
      rfl
    refine List.map_injective_iff.mpr injective ?_
    simpa [entriesOf, Function.comp_def, zisIterateParms] using asMap.iterate
  · intro entries
    have iterate : zisIterateParms parms.entries =
        (shown parms.puts).map fun parm => (some parm.1, some parm.2) := by
      rw [entries]
      simp [zisIterateParms, entriesOf]
    refine ⟨fun name => ?_, iterate, ?_⟩
    · rw [zisGetParmValueChecked, entries, findEntryChecked_entriesOf, Option.map_some]
      exact congrArg some (zisGetParmValue_shown parms.puts name)
    · have keys : (zisIterateParms parms.entries).map Prod.fst =
          ((shown parms.puts).map Prod.fst).map some := by
        rw [iterate]
        simp
      rw [keys]
      exact (nodup_shown parms.puts).map (Option.some_injective Text)

/-! ## What a put leaves -/

/-- An entry without its key or its value. -/
def ZisParmSetEntry.Missing (entry : ZisParmSetEntry) : Prop :=
  entry.key = none ∨ entry.value = none

/-- A put of a known key needs storage for the value alone. -/
theorem zisPutParmValue_known {slhAlloc : σ → Nat → Option σ} {parms : ZisParmSet σ}
    {name value : Text} {entry : Nat} (known : findEntry parms.entries name = some entry) :
    zisPutParmValue slhAlloc parms name value =
      match slhAlloc parms.slh (value.length + 1) with
      | none =>
        (rcZisparmSlhAllocFailed,
          { parms with entries := parms.entries.modify entry fun e => { e with value := none } })
      | some slh =>
        (rcZisparmOk,
          { slh := slh
            entries := parms.entries.modify entry fun e => { e with value := some value }
            puts := parms.puts ++ [(name, value)] }) := by
  have keyed : putKey slhAlloc parms entry name = some parms := by
    rw [putKey, findEntry_some known, Option.isSome_some, if_pos rfl]
  cases hvalue : slhAlloc parms.slh (value.length + 1) with
  | none => simp only [zisPutParmValue, takeEntry, known, keyed, hvalue]
  | some slh => simp only [zisPutParmValue, takeEntry, known, keyed, hvalue]

/-- A put of a new key needs storage for the entry, then for the key, then for the value. -/
theorem zisPutParmValue_new {slhAlloc : σ → Nat → Option σ} {parms : ZisParmSet σ}
    {name value : Text} (new : findEntry parms.entries name = none) :
    zisPutParmValue slhAlloc parms name value =
      match slhAlloc parms.slh zisParmSetEntrySize with
      | none => (rcZisparmSlhAllocFailed, parms)
      | some slh =>
        match slhAlloc slh (name.length + 1) with
        | none =>
          (rcZisparmSlhAllocFailed,
            { parms with slh := slh, entries := parms.entries ++ [⟨none, none⟩] })
        | some slh =>
          match slhAlloc slh (value.length + 1) with
          | none =>
            (rcZisparmSlhAllocFailed,
              { parms with slh := slh, entries := parms.entries ++ [⟨some name, none⟩] })
          | some slh =>
            (rcZisparmOk,
              { slh := slh
                entries := parms.entries ++ [⟨some name, some value⟩]
                puts := parms.puts ++ [(name, value)] }) := by
  cases hentry : slhAlloc parms.slh zisParmSetEntrySize with
  | none => simp only [zisPutParmValue, takeEntry, new, hentry, Option.map_none]
  | some slh =>
    have taken : takeEntry slhAlloc parms name = some
        ({ parms with slh := slh, entries := parms.entries ++ [⟨none, none⟩] },
          parms.entries.length) := by
      simp only [takeEntry, new, hentry, Option.map_some]
    cases hkey : slhAlloc slh (name.length + 1) with
    | none => simp [zisPutParmValue, taken, putKey, hkey]
    | some slh' =>
      cases hvalue : slhAlloc slh' (value.length + 1) with
      | none => simp [zisPutParmValue, taken, putKey, hkey, hvalue, modify_last]
      | some slh'' => simp [zisPutParmValue, taken, putKey, hkey, hvalue, modify_last]

/-- With storage for what it begins, a put succeeds or leaves the set. -/
theorem zisPutParmValue_storage {parms : ZisParmSet σ} {call : PutCall σ}
    (storage : PutCall.Storage parms call) :
    let put := zisPutParmValue call.slhAlloc parms call.name call.value
    put.1 = rcZisparmOk ∨ put.2 = parms := by
  intro put
  unfold PutCall.Storage at storage
  cases hfound : findEntry parms.entries call.name with
  | some entry =>
    simp only [hfound] at storage
    obtain ⟨slh, hslh⟩ := Option.isSome_iff_exists.mp storage
    left
    show (zisPutParmValue call.slhAlloc parms call.name call.value).1 = rcZisparmOk
    rw [zisPutParmValue_known hfound, hslh]
  | none =>
    simp only [hfound] at storage
    cases hentry : call.slhAlloc parms.slh zisParmSetEntrySize with
    | none =>
      right
      show (zisPutParmValue call.slhAlloc parms call.name call.value).2 = parms
      rw [zisPutParmValue_new hfound, hentry]
    | some slh =>
      obtain ⟨final, hfinal⟩ := Option.isSome_iff_exists.mp (storage slh hentry)
      obtain ⟨slh', hkey, hvalue⟩ := Option.bind_eq_some_iff.mp hfinal
      left
      show (zisPutParmValue call.slhAlloc parms call.name call.value).1 = rcZisparmOk
      rw [zisPutParmValue_new hfound, hentry]
      simp only [hkey, hvalue]

/-- Without storage for what it begins, a put leaves an entry without its key or its value. -/
theorem zisPutParmValue_no_storage {parms : ZisParmSet σ} {call : PutCall σ}
    (short : ¬ PutCall.Storage parms call) :
    ∃ entry ∈ (zisPutParmValue call.slhAlloc parms call.name call.value).2.entries,
      entry.Missing := by
  unfold PutCall.Storage at short
  cases hfound : findEntry parms.entries call.name with
  | some i =>
    simp only [hfound] at short
    have hvalue := Option.not_isSome_iff_eq_none.mp short
    obtain ⟨hlt, -, -⟩ := List.findIdx?_eq_some_iff_getElem.mp hfound
    rw [zisPutParmValue_known hfound, hvalue]
    refine ⟨{ parms.entries[i] with value := none }, ?_, .inr rfl⟩
    refine List.mem_of_getElem? (i := i) ?_
    rw [List.getElem?_modify, List.getElem?_eq_getElem hlt]
    simp
  | none =>
    simp only [hfound] at short
    push Not at short
    obtain ⟨slh, hentry, hshort⟩ := short
    rw [zisPutParmValue_new hfound, hentry]
    cases hkey : call.slhAlloc slh (call.name.length + 1) with
    | none => exact ⟨⟨none, none⟩, by simp [hkey], .inl rfl⟩
    | some slh' =>
      have hvalue : call.slhAlloc slh' (call.value.length + 1) = none := by
        simpa [hkey] using hshort
      exact ⟨⟨some call.name, none⟩, by simp [hkey, hvalue], .inr rfl⟩

/-! ## Runs of puts -/

/-- An entry of a set that is a map has its key and its value. -/
theorem ZisParmSet.AsMap.not_missing {parms : ZisParmSet σ} (asMap : parms.AsMap)
    {entry : ZisParmSetEntry} (hentry : entry ∈ parms.entries) : ¬ entry.Missing := by
  rw [asMap_iff.mp asMap, entriesOf] at hentry
  obtain ⟨parm, -, rfl⟩ := List.mem_map.mp hentry
  rintro (h | h) <;> cases h

theorem asMap_emptyParmSet (slh : σ) : (emptyParmSet slh).AsMap :=
  asMap_iff.mpr rfl

/-- A put with storage keeps a set a map. -/
theorem asMap_step {parms parms' : ZisParmSet σ} {call : PutCall σ} (asMap : parms.AsMap)
    (storage : PutCall.Storage parms call) (hstep : parmPuts.step parms call = some parms') :
    parms'.AsMap := by
  obtain ⟨-, -, rfl⟩ := Option.map_eq_some_iff.mp hstep
  rcases zisPutParmValue_storage storage with hok | hkept
  · have put := zisPutParmValue_ok (Prod.ext hok rfl)
    rw [asMap_iff, put.entries, put.puts, entriesOf_shown_append, ← asMap_iff.mp asMap]
  · rw [hkept]
    exact asMap

/-- A put without storage leaves no map. -/
theorem not_asMap_step {parms parms' : ZisParmSet σ} {call : PutCall σ}
    (short : ¬ PutCall.Storage parms call) (hstep : parmPuts.step parms call = some parms') :
    ¬ parms'.AsMap := by
  obtain ⟨-, -, rfl⟩ := Option.map_eq_some_iff.mp hstep
  obtain ⟨entry, hentry, hmissing⟩ := zisPutParmValue_no_storage short
  exact fun asMap => asMap.not_missing hentry hmissing

/-- A set that is a map takes every call. -/
theorem exists_step {parms : ZisParmSet σ} (asMap : parms.AsMap) (call : PutCall σ) :
    ∃ parms', parmPuts.step parms call = some parms' := by
  refine ⟨(zisPutParmValue call.slhAlloc parms call.name call.value).2, ?_⟩
  have walked :
      findEntryChecked parms.entries call.name = some (findEntry parms.entries call.name) :=
    asMap_iff.mp asMap ▸ findEntryChecked_entriesOf _ _
  show (findEntryChecked parms.entries call.name).map _ = _
  rw [walked, Option.map_some]

theorem failsClean_of_storage (parms : ZisParmSet σ) (call : PutCall σ)
    (storage : PutCall.Storage parms call) : PutCall.FailsClean parms call := by
  intro hfail
  rcases zisPutParmValue_storage storage with hok | hkept
  · exact absurd hok hfail
  · exact congrArg ZisParmSet.entries hkept

/-- **A parameter set is a map as long as no put runs short of storage half-way.** Over a run of
puts, each with its own storage: no call stops, the set is the map of its successful puts after each
one, and a put that fails changes nothing, exactly if every put that has its entry finds storage for
the key and the value of it. -/
theorem parm_set_as_map (slh : σ) (calls : List (PutCall σ)) :
    (∃ parms, parmPuts.run (emptyParmSet slh) calls = some parms ∧
        (∀ t, parmPuts.Visits (emptyParmSet slh) calls t → t.AsMap) ∧
        parmPuts.Meets PutCall.FailsClean (emptyParmSet slh) calls) ↔
      parmPuts.Meets PutCall.Storage (emptyParmSet slh) calls := by
  have exact_rule {parms : ZisParmSet σ}
      (hrun : parmPuts.run (emptyParmSet slh) calls = some parms) :=
    parmPuts.visits_iff_meets (I := fun _ => True) (fun _ _ _ _ _ => trivial)
      (fun _ _ _ _ asMap storage hstep => asMap_step asMap storage hstep)
      (fun _ _ _ _ short hstep => not_asMap_step short hstep) trivial
      (asMap_emptyParmSet slh) hrun
  constructor
  · rintro ⟨parms, hrun, hall, -⟩
    exact (exact_rule hrun).mp hall
  · intro meets
    obtain ⟨parms, hrun⟩ := parmPuts.exists_run_of_meets
      (fun _ _ _ asMap storage hstep => asMap_step asMap storage hstep)
      (fun _ call asMap => exists_step asMap call) (asMap_emptyParmSet slh) meets
    exact ⟨parms, hrun, (exact_rule hrun).mpr meets,
      parmPuts.meets_mono failsClean_of_storage meets⟩

/-- After a put that finds storage for its entry alone, the next put compares a missing key. -/
theorem parm_set_without_key :
    let calls : List (PutCall Nat) :=
      [⟨fun used _ => if used = 0 then some 1 else none, "A".toList, []⟩,
        ⟨fun used _ => some (used + 1), "B".toList, []⟩]
    ¬ ∃ parms, parmPuts.run (emptyParmSet 0) calls = some parms ∧
        (∀ t, parmPuts.Visits (emptyParmSet 0) calls t → t.AsMap) ∧
        parmPuts.Meets PutCall.FailsClean (emptyParmSet 0) calls := by
  intro calls
  have stopped : parmPuts.run (emptyParmSet 0) calls = none := by decide
  simp [stopped]

end Zss.Zis
