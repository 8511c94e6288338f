import Zss.Zis.MainParms
import Zss.Zis.ParmMap
import Zss.Zisaux.Manager

/-!
# The parm string of a host

`zisauxMgrStartGuest2` prints a module name, the address of a communication area and the guest's
text to the parm of the new address space; the host there reads it with `zisReadMainParms` and takes
the name and the address from the set. `roundTrip_iff` says when the host has what the manager was
given.

The text is that of `hostParm`; the parameter set is the map of its puts, in which the last one
counts. The module name and the guest's text are fields of eight and of two hundred characters, which
need not be terminated: where a field is full, what is printed goes on with what stands behind it.

## What is not established

That the area at the address is one of the manager's: the host tests its eyecatcher, which is not
modelled here. What `sscanf` makes of an address is modelled for what `%08X` prints, with white space
in front; a sign or a prefix is not read.
-/

namespace Zss.Zisaux.HostParm

open Zss.Lib Zss.Zis

/-! ## What is printed -/

def modKey : Text := ['M', 'O', 'D']

def commKey : Text := ['C', 'O', 'M', 'M']

/-- A field of characters where it is printed, with what stands in storage behind it up to the next
NUL. -/
structure Field (size : Nat) where
  text : Text
  behind : Text
  length_eq : text.length = size

/-- What is in the field. -/
def Field.content {size : Nat} (field : Field size) : Text := cString field.text

/-- What `%s` prints of it. -/
def Field.printed {size : Nat} (field : Field size) : Text := cString (field.text ++ field.behind)

/-- `ZISAUXModule`. -/
abbrev ModuleField := Field 8

/-- `ZISAUXParm`. -/
abbrev GuestField := Field 200

/-- The text of a guest, which may have none. -/
def guestText (guestParm : Option GuestField) : Text := (guestParm.map Field.content).getD []

/-- What is printed of it. -/
def guestPrinted (guestParm : Option GuestField) : Text := (guestParm.map Field.printed).getD []

/-- The parm string before it is cut to the size of the parm. -/
def wholeText (m : ModuleField) (comm : Addr) (guestParm : Option GuestField) : Text :=
  [':', '=', ')', ',', 'M', 'O', 'D', '='] ++ m.printed ++ [',', 'C', 'O', 'M', 'M', '='] ++
    hexWord comm ++ [','] ++ guestPrinted guestParm

/-- The parameters in a text, in order. -/
def pairsOf (text : Text) : List (Text × Text) := (mainPieces text).map pieceParm

/-- The parameters that the printed module name makes. -/
def modPairs (m : ModuleField) : List (Text × Text) :=
  ((modKey ++ '=' :: m.printed).splitOn ',').map pieceParm

/-! ## An address in hexadecimal -/

/-- The value of a hexadecimal digit. -/
def hexDigit (c : Char) : Option Nat :=
  if '0' ≤ c ∧ c ≤ '9' then some (c.toNat - '0'.toNat)
  else if 'A' ≤ c ∧ c ≤ 'F' then some (c.toNat - 'A'.toNat + 10)
  else if 'a' ≤ c ∧ c ≤ 'f' then some (c.toNat - 'a'.toNat + 10)
  else none

/-- The characters of `isspace`. -/
def isSpace (c : Char) : Bool := c == ' ' || (9 ≤ c.toNat && c.toNat ≤ 13)

/-- `sscanf` with `%p`: the address of the digits that a text begins with, behind white space. -/
def sscanfPointer (text : Text) : Option Nat :=
  let digits := (text.dropWhile isSpace).takeWhile fun c => (hexDigit c).isSome
  if digits = [] then none
  else some (digits.foldl (fun n c => 16 * n + (hexDigit c).getD 0) 0)

theorem hexDigit_digitChar {d : Nat} (h : d < 16) : hexDigit d.digitChar.toUpper = some d := by
  have hall : ∀ d : Fin 16, hexDigit (Nat.digitChar d).toUpper = some d.val := by decide
  exact hall ⟨d, h⟩

/-- The digits of a number stand for it. -/
theorem foldl_toDigits (n : Nat) :
    ((Nat.toDigits 16 n).map Char.toUpper).foldl (fun n c => 16 * n + (hexDigit c).getD 0) 0 = n := by
  induction n using Nat.strongRecOn with
  | ind n ih =>
    by_cases hn : n < 16
    · rw [Nat.toDigits_of_lt_base hn]
      simp [hexDigit_digitChar hn]
    · have hdigit := hexDigit_digitChar (Nat.mod_lt n (by decide : 16 > 0))
      rw [Nat.toDigits_of_base_le (by decide) (Nat.le_of_not_lt hn), List.map_append,
        List.foldl_append, ih (n / 16) (by omega)]
      simp only [List.map_cons, List.map_nil, List.foldl_cons, List.foldl_nil, hdigit,
        Option.getD_some]
      omega

/-- Each character of a number is a hexadecimal digit. -/
theorem isSome_hexDigit_toDigits (n : Nat) :
    ∀ c ∈ (Nat.toDigits 16 n).map Char.toUpper, (hexDigit c).isSome = true := by
  induction n using Nat.strongRecOn with
  | ind n ih =>
    by_cases hn : n < 16
    · rw [Nat.toDigits_of_lt_base hn]
      simp [hexDigit_digitChar hn]
    · have hdigit := hexDigit_digitChar (Nat.mod_lt n (by decide : 16 > 0))
      rw [Nat.toDigits_of_base_le (by decide) (Nat.le_of_not_lt hn), List.map_append]
      intro c hc
      rcases List.mem_append.mp hc with hc | hc
      · exact ih (n / 16) (by omega) c hc
      · obtain rfl : c = (n % 16).digitChar.toUpper := by simpa using hc
        rw [hdigit]
        rfl

/-- No hexadecimal digit is white space. -/
theorem isSpace_hexDigit {c : Char} (h : (hexDigit c).isSome = true) : isSpace c = false := by
  by_contra hspace
  rw [Bool.not_eq_false, isSpace, Bool.or_eq_true, Bool.and_eq_true, beq_iff_eq,
    decide_eq_true_iff, decide_eq_true_iff] at hspace
  have hlow : c.toNat < '0'.toNat := by
    rcases hspace with rfl | ⟨-, hle⟩
    · decide
    · exact Nat.lt_of_le_of_lt hle (by decide)
  have hchar : ∀ d : Char, '0'.toNat ≤ d.toNat → ¬ d ≤ c := fun d hd hle =>
    absurd (Nat.le_trans hd hle) (Nat.not_le.mpr hlow)
  rw [hexDigit, if_neg fun h => hchar '0' (Nat.le_refl _) h.1,
    if_neg fun h => hchar 'A' (by decide) h.1, if_neg fun h => hchar 'a' (by decide) h.1] at h
  cases h

theorem hexWord_eq (n : Nat) :
    hexWord n = List.replicate (8 - ((Nat.toDigits 16 (n % 2 ^ 32)).map Char.toUpper).length) '0' ++
      (Nat.toDigits 16 (n % 2 ^ 32)).map Char.toUpper := by
  rw [hexWord, List.leftpad]

theorem isSome_hexDigit_hexWord (n : Nat) : ∀ c ∈ hexWord n, (hexDigit c).isSome = true := by
  intro c hc
  rw [hexWord_eq] at hc
  rcases List.mem_append.mp hc with hc | hc
  · obtain rfl := List.eq_of_mem_replicate hc
    decide
  · exact isSome_hexDigit_toDigits _ c hc

/-- The printed word of an address is read as its low word. -/
theorem sscanfPointer_hexWord (n : Nat) : sscanfPointer (hexWord n) = some (n % 2 ^ 32) := by
  have hall : (hexWord n).takeWhile (fun c => (hexDigit c).isSome) = hexWord n :=
    List.takeWhile_eq_self_iff.mpr (isSome_hexDigit_hexWord n)
  have hne : hexWord n ≠ [] := by
    rw [hexWord_eq]
    simp [Nat.toDigits_ne_nil]
  have hspace : (hexWord n).dropWhile isSpace = hexWord n := by
    obtain ⟨c, rest, hcons⟩ := List.exists_cons_of_ne_nil hne
    have hdigit := isSome_hexDigit_hexWord n c (hcons ▸ List.mem_cons_self)
    rw [hcons, List.dropWhile_cons, isSpace_hexDigit hdigit, if_neg Bool.false_ne_true]
  have hzeros : ∀ k, (List.replicate k '0').foldl
      (fun n c => 16 * n + (hexDigit c).getD 0) 0 = 0 := by
    intro k
    induction k with
    | zero => rfl
    | succ k ih => exact ih
  rw [sscanfPointer, hspace, hall]
  refine (if_neg hne).trans ?_
  rw [hexWord_eq, List.foldl_append, hzeros, foldl_toDigits]

theorem hexDigit_plain {c : Char} (h : (hexDigit c).isSome = true) : c ≠ ',' ∧ c ≠ nul := by
  constructor
  · rintro rfl
    revert h
    decide
  · rintro rfl
    revert h
    decide

/-! ## The parameters of the parm string -/

/-- The pieces before a comma, then those behind it. -/
theorem mainPieces_append (front rest : Text) :
    mainPieces (front ++ ',' :: rest) = front.splitOn ',' ++ mainPieces rest := by
  have hne := List.splitOn_ne_nil ',' rest
  rw [mainPieces, mainPieces, List.splitOn_append_cons_self]
  simp only [List.getLast?_append_of_ne_nil _ hne, List.dropLast_append_of_ne_nil hne]
  split <;> rfl

theorem pairsOf_append (front rest : Text) :
    pairsOf (front ++ ',' :: rest) = (front.splitOn ',').map pieceParm ++ pairsOf rest := by
  rw [pairsOf, mainPieces_append, List.map_append, pairsOf]

theorem pieceParm_comm (n : Nat) :
    pieceParm (commKey ++ '=' :: hexWord n) = (commKey, hexWord n) := by
  have hplain : ∀ c ∈ commKey ++ '=' :: hexWord n, c ≠ nul := by
    intro c hc
    rcases List.mem_append.mp hc with hc | hc
    · rintro rfl
      revert hc
      decide
    · rcases List.mem_cons.mp hc with rfl | hc
      · decide
      · exact (hexDigit_plain (isSome_hexDigit_hexWord n c hc)).2
  have hall : cString (commKey ++ '=' :: hexWord n) = commKey ++ '=' :: hexWord n :=
    List.takeWhile_eq_self_iff.mpr fun c hc => decide_eq_true (hplain c hc)
  rw [pieceParm, hall]
  rfl

theorem comma_not_mem {key value : Text} (hkey : ',' ∉ key) (hvalue : ',' ∉ value) :
    ',' ∉ key ++ '=' :: value := by
  intro hmem
  rcases List.mem_append.mp hmem with hmem | hmem
  · exact hkey hmem
  · rcases List.mem_cons.mp hmem with heq | hmem
    · exact absurd heq (by decide)
    · exact hvalue hmem

/-- The parameters of the parm string: those of the name, the address, and those of the guest's
text. -/
theorem pairsOf_wholeText (m : ModuleField) (comm : Addr) (guestParm : Option GuestField) :
    pairsOf (wholeText m comm guestParm) =
      ([':'], [')']) :: modPairs m ++ (commKey, hexWord comm) :: pairsOf (guestPrinted guestParm) := by
  have htext : wholeText m comm guestParm = [':', '=', ')'] ++ ',' :: ((modKey ++ '=' :: m.printed) ++
      ',' :: ((commKey ++ '=' :: hexWord comm) ++ ',' :: guestPrinted guestParm)) := by
    simp [wholeText, modKey, commKey]
  have hcomma : ',' ∉ commKey ++ '=' :: hexWord comm :=
    comma_not_mem (by decide) fun hmem =>
      (hexDigit_plain (isSome_hexDigit_hexWord comm _ hmem)).1 rfl
  have hfirst : ([':', '=', ')'] : Text).splitOn ',' = [[':', '=', ')']] :=
    List.splitOn_eq_singleton (by decide)
  rw [htext, pairsOf_append, pairsOf_append, pairsOf_append, hfirst,
    List.splitOn_eq_singleton hcomma, List.map_singleton, List.map_singleton, pieceParm_comm]
  rfl

/-- The name's parameters have its key. -/
theorem modKey_mem_modPairs (m : ModuleField) : modKey ∈ (modPairs m).map Prod.fst := by
  have hkey : ∀ value, (pieceParm (modKey ++ '=' :: value)).1 = modKey := fun value => rfl
  by_cases hcomma : ',' ∈ m.printed
  · obtain ⟨piece, rest, hprinted, hnot⟩ := List.eq_append_cons_of_mem hcomma
    have hnot' : ',' ∉ modKey ++ '=' :: piece := comma_not_mem (by decide) hnot
    have htext : modKey ++ '=' :: m.printed = (modKey ++ '=' :: piece) ++ ',' :: rest := by
      rw [hprinted]
      rfl
    rw [modPairs, htext, List.splitOn_append_cons_self_of_not_mem hnot', List.map_cons,
      List.map_cons, hkey]
    exact List.mem_cons_self ..
  · have hnot' : ',' ∉ modKey ++ '=' :: m.printed := comma_not_mem (by decide) hcomma
    rw [modPairs, List.splitOn_eq_singleton hnot', List.map_singleton, List.map_singleton, hkey]
    exact List.mem_singleton_self _

/-! ## The parameter set -/

section

variable {σ : Type}

/-- The sizes that storage is asked for, one after the other, for parameters that are put into a set
with these keys. -/
def sizesFor (known : List Text) : List (Text × Text) → List Nat
  | [] => []
  | (name, value) :: parms =>
    if known.contains name then (value.length + 1) :: sizesFor known parms
    else zisParmSetEntrySize :: (name.length + 1) :: (value.length + 1) ::
      sizesFor (known ++ [name]) parms

theorem sizesFor_congr {known known' : List Text} (h : ∀ name, name ∈ known ↔ name ∈ known')
    (parms : List (Text × Text)) : sizesFor known parms = sizesFor known' parms := by
  induction parms generalizing known known' with
  | nil => rfl
  | cons parm parms ih =>
    obtain ⟨name, value⟩ := parm
    by_cases hmem : name ∈ known
    · rw [sizesFor, sizesFor, if_pos (List.contains_iff_mem.mpr hmem),
        if_pos (List.contains_iff_mem.mpr ((h name).mp hmem)), ih h]
    · have hnext : ∀ k, k ∈ known ++ [name] ↔ k ∈ known' ++ [name] := by
        intro k
        rw [List.mem_append, List.mem_append, h k]
      rw [sizesFor, sizesFor, if_neg (mt List.contains_iff_mem.mp hmem),
        if_neg fun hin => hmem ((h name).mpr (List.contains_iff_mem.mp hin)), ih hnext]

/-- The heap gives storage of these sizes. -/
def Gives (slhAlloc : σ → Nat → Option σ) (slh : σ) (sizes : List Nat) : Prop :=
  (sizes.foldlM slhAlloc slh).isSome = true

section

variable {slhAlloc : σ → Nat → Option σ} {slh slh' : σ} {size : Nat}

theorem not_gives_cons (h : slhAlloc slh size = none) (sizes : List Nat) :
    ¬ Gives slhAlloc slh (size :: sizes) := by
  rw [Gives, List.foldlM_cons, h]
  exact Bool.false_ne_true

theorem gives_cons (h : slhAlloc slh size = some slh') (sizes : List Nat) :
    Gives slhAlloc slh (size :: sizes) ↔ Gives slhAlloc slh' sizes := by
  rw [Gives, List.foldlM_cons, h]
  rfl

end

/-- A known key is found among the entries of a map. -/
theorem findEntry_eq_none_iff {parms : ZisParmSet σ} (asMap : parms.AsMap) {name : Text} :
    findEntry parms.entries name = none ↔ name ∉ parms.puts.map Prod.fst := by
  rw [asMap_iff.mp asMap, findEntry, List.findIdx?_eq_none_iff, ← mem_firstPuts, ← map_fst_shown,
    entriesOf]
  constructor
  · intro h hmem
    obtain ⟨parm, hparm, rfl⟩ := List.mem_map.mp hmem
    have hentry := h _ (List.mem_map_of_mem hparm)
    simp at hentry
  · intro h entry hentry
    obtain ⟨parm, hparm, rfl⟩ := List.mem_map.mp hentry
    refine decide_eq_false fun heq => h ?_
    rw [← Option.some.inj heq]
    exact List.mem_map_of_mem hparm

/-- A parameter that is put keeps the set the map of its puts. -/
theorem asMap_of_put {parms parms' : ZisParmSet σ} {parm : Text × Text} (asMap : parms.AsMap)
    (put : parms.Put parm parms') : parms'.AsMap := by
  rw [asMap_iff, put.entries, put.puts, entriesOf_shown_append, ← asMap_iff.mp asMap]

/-- What putting parameters comes to: it succeeds where there is storage for them, and the set is then
the map with these puts as well. -/
structure PutsAll (slhAlloc : σ → Nat → Option σ) (parms : ZisParmSet σ) (pairs : List (Text × Text))
    (result : Int × ZisParmSet σ) : Prop where
  ok_iff : result.1 = rcZisparmOk ↔
    Gives slhAlloc parms.slh (sizesFor (parms.puts.map Prod.fst) pairs)
  asMap : result.1 = rcZisparmOk → result.2.AsMap
  puts : result.1 = rcZisparmOk → result.2.puts = parms.puts ++ pairs

/-- A refused piece of storage ends the puts. -/
theorem PutsAll.refused {slhAlloc : σ → Nat → Option σ} {parms parms' : ZisParmSet σ}
    {pairs : List (Text × Text)}
    (h : ¬ Gives slhAlloc parms.slh (sizesFor (parms.puts.map Prod.fst) pairs)) :
    PutsAll slhAlloc parms pairs (rcZisparmSlhAllocFailed, parms') := by
  have hfailed : ¬ (rcZisparmSlhAllocFailed : Int) = rcZisparmOk := by decide
  exact ⟨⟨fun hok => absurd hok hfailed, fun hgives => absurd hgives h⟩,
    fun hok => absurd hok hfailed, fun hok => absurd hok hfailed⟩

/-- A put that has its storage leaves the rest of the parameters to be put. -/
theorem PutsAll.stored {slhAlloc : σ → Nat → Option σ} {parms parms' : ZisParmSet σ}
    {name value : Text} {pairs : List (Text × Text)}
    (hput : zisPutParmValue slhAlloc parms name value = (rcZisparmOk, parms'))
    (hgives : Gives slhAlloc parms.slh
        (sizesFor (parms.puts.map Prod.fst) ((name, value) :: pairs)) ↔
      Gives slhAlloc parms'.slh (sizesFor (parms'.puts.map Prod.fst) pairs))
    (rest : PutsAll slhAlloc parms' pairs (putParms slhAlloc parms' pairs)) :
    PutsAll slhAlloc parms ((name, value) :: pairs)
      (putParms slhAlloc parms ((name, value) :: pairs)) := by
  have heq : putParms slhAlloc parms ((name, value) :: pairs) = putParms slhAlloc parms' pairs := by
    rw [putParms, hput]
    rfl
  rw [heq]
  refine ⟨rest.ok_iff.trans hgives.symm, rest.asMap, fun h => ?_⟩
  rw [rest.puts h, (zisPutParmValue_ok hput).puts, List.append_assoc]
  rfl

/-- A put that does not have its storage ends them. -/
theorem PutsAll.ended {slhAlloc : σ → Nat → Option σ} {parms parms' : ZisParmSet σ}
    {name value : Text} {pairs : List (Text × Text)}
    (hput : zisPutParmValue slhAlloc parms name value = (rcZisparmSlhAllocFailed, parms'))
    (h : ¬ Gives slhAlloc parms.slh
      (sizesFor (parms.puts.map Prod.fst) ((name, value) :: pairs))) :
    PutsAll slhAlloc parms ((name, value) :: pairs)
      (putParms slhAlloc parms ((name, value) :: pairs)) := by
  have heq : putParms slhAlloc parms ((name, value) :: pairs) =
      (rcZisparmSlhAllocFailed, parms') := by
    rw [putParms, hput]
    rfl
  rw [heq]
  exact .refused h

/-- What a put needs: it succeeds and leaves the storage that the rest needs, or there is none for
it. -/
def PutNeeds (slhAlloc : σ → Nat → Option σ) (parms : ZisParmSet σ) (name value : Text)
    (pairs : List (Text × Text)) : Prop :=
  (∃ parms', zisPutParmValue slhAlloc parms name value = (rcZisparmOk, parms') ∧
    (Gives slhAlloc parms.slh (sizesFor (parms.puts.map Prod.fst) ((name, value) :: pairs)) ↔
      Gives slhAlloc parms'.slh (sizesFor (parms'.puts.map Prod.fst) pairs))) ∨
  (∃ parms', zisPutParmValue slhAlloc parms name value = (rcZisparmSlhAllocFailed, parms') ∧
    ¬ Gives slhAlloc parms.slh (sizesFor (parms.puts.map Prod.fst) ((name, value) :: pairs)))

theorem putNeeds_known (slhAlloc : σ → Nat → Option σ) {parms : ZisParmSet σ} {name : Text}
    {entry : Nat} (hfound : findEntry parms.entries name = some entry)
    (hmem : name ∈ parms.puts.map Prod.fst) (value : Text) (pairs : List (Text × Text)) :
    PutNeeds slhAlloc parms name value pairs := by
  have hsizes : sizesFor (parms.puts.map Prod.fst) ((name, value) :: pairs) =
      (value.length + 1) :: sizesFor (parms.puts.map Prod.fst) pairs :=
    if_pos (List.contains_iff_mem.mpr hmem)
  rw [PutNeeds, hsizes, zisPutParmValue_known hfound]
  cases hvalue : slhAlloc parms.slh (value.length + 1) with
  | none => exact .inr ⟨_, rfl, not_gives_cons hvalue _⟩
  | some slh =>
    have hkeys : ∀ k, k ∈ parms.puts.map Prod.fst ↔
        k ∈ (parms.puts ++ [(name, value)]).map Prod.fst := by
      intro k
      rw [List.map_append, List.mem_append]
      refine ⟨.inl, fun h => h.elim id fun hk => ?_⟩
      obtain rfl : k = name := by simpa using hk
      exact hmem
    refine .inl ⟨_, rfl, ?_⟩
    rw [gives_cons hvalue, sizesFor_congr hkeys]

theorem putNeeds_new (slhAlloc : σ → Nat → Option σ) {parms : ZisParmSet σ} {name : Text}
    (hfound : findEntry parms.entries name = none) (hnew : name ∉ parms.puts.map Prod.fst)
    (value : Text) (pairs : List (Text × Text)) : PutNeeds slhAlloc parms name value pairs := by
  have hsizes : sizesFor (parms.puts.map Prod.fst) ((name, value) :: pairs) =
      zisParmSetEntrySize :: (name.length + 1) :: (value.length + 1) ::
        sizesFor (parms.puts.map Prod.fst ++ [name]) pairs :=
    if_neg (mt List.contains_iff_mem.mp hnew)
  rw [PutNeeds, hsizes, zisPutParmValue_new hfound]
  cases hentry : slhAlloc parms.slh zisParmSetEntrySize with
  | none => exact .inr ⟨_, rfl, not_gives_cons hentry _⟩
  | some slh =>
    rw [gives_cons hentry]
    dsimp only
    cases hkey : slhAlloc slh (name.length + 1) with
    | none => exact .inr ⟨_, rfl, not_gives_cons hkey _⟩
    | some slh' =>
      rw [gives_cons hkey]
      dsimp only
      cases hvalue : slhAlloc slh' (value.length + 1) with
      | none => exact .inr ⟨_, rfl, not_gives_cons hvalue _⟩
      | some slh'' =>
        refine .inl ⟨_, rfl, ?_⟩
        rw [gives_cons hvalue, List.map_append]
        rfl

theorem putNeeds (slhAlloc : σ → Nat → Option σ) {parms : ZisParmSet σ} (asMap : parms.AsMap)
    (name value : Text) (pairs : List (Text × Text)) :
    PutNeeds slhAlloc parms name value pairs := by
  cases hfound : findEntry parms.entries name with
  | none =>
    exact putNeeds_new slhAlloc hfound ((findEntry_eq_none_iff asMap).mp hfound) value pairs
  | some entry =>
    refine putNeeds_known slhAlloc hfound ?_ value pairs
    by_contra hnew
    rw [(findEntry_eq_none_iff asMap).mpr hnew] at hfound
    cases hfound

theorem putParms_all (slhAlloc : σ → Nat → Option σ) {parms : ZisParmSet σ} (asMap : parms.AsMap)
    (pairs : List (Text × Text)) :
    PutsAll slhAlloc parms pairs (putParms slhAlloc parms pairs) := by
  induction pairs generalizing parms with
  | nil =>
    exact ⟨⟨fun _ => rfl, fun _ => rfl⟩, fun _ => asMap, fun _ => (List.append_nil _).symm⟩
  | cons parm pairs ih =>
    obtain ⟨name, value⟩ := parm
    obtain ⟨parms', hput, hgives⟩ | ⟨parms', hput, hshort⟩ :=
      putNeeds slhAlloc asMap name value pairs
    · exact .stored hput hgives (ih (asMap_of_put asMap (zisPutParmValue_ok hput)))
    · exact .ended hput hshort

/-! ## What the host reads -/

variable (slhAlloc : σ → Nat → Option σ) (safeMalloc : (size : Nat) → Option (WorkBuffer size))

/-- The host reads a text into its set and finds the module name, the address, and every parameter of
the guest's text. -/
def ReadsBack (parms : ZisParmSet σ) (m : ModuleField) (comm : Addr) (guestParm : Option GuestField)
    (text : Text) : Prop :=
  ∃ parms', zisReadMainParms slhAlloc safeMalloc (text.length + 1) parms text =
      some (some (rcZisparmOk, parms')) ∧
    zisGetParmValueChecked parms'.entries modKey = some (some m.content) ∧
    (∃ value, zisGetParmValueChecked parms'.entries commKey = some (some value) ∧
      sscanfPointer value = some comm) ∧
    ∀ parm ∈ pairsOf (guestText guestParm),
      zisGetParmValueChecked parms'.entries parm.1 = some (some parm.2)

/-- The last parameter under each key of the guest's text is that of the text; a module name and an
address in what is printed of it are those that are passed; where it has none, the printed name gives
the name and the address is one of 32 bits; and there is storage. -/
structure Readable (parms : ZisParmSet σ) (m : ModuleField) (comm : Addr)
    (guestParm : Option GuestField) : Prop where
  kept : ∀ parm ∈ pairsOf (guestText guestParm),
    lastPut (parms.puts ++ pairsOf (wholeText m comm guestParm)) parm.1 = some parm.2
  ownModule : ∀ value, lastPut (pairsOf (guestPrinted guestParm)) modKey = some value →
    value = m.content
  printedModule : lastPut (pairsOf (guestPrinted guestParm)) modKey = none →
    lastPut (modPairs m) modKey = some m.content
  ownAddress : ∀ value, lastPut (pairsOf (guestPrinted guestParm)) commKey = some value →
    sscanfPointer value = some comm
  printedAddress : lastPut (pairsOf (guestPrinted guestParm)) commKey = none → comm < 2 ^ 32
  workBuffer : (safeMalloc ((wholeText m comm guestParm).length + 1)).isSome = true
  storage : Gives slhAlloc parms.slh
    (sizesFor (parms.puts.map Prod.fst) (pairsOf (wholeText m comm guestParm)))

section

variable {slhAlloc safeMalloc} {parms : ZisParmSet σ} {m : ModuleField} {comm : Addr}
  {guestParm : Option GuestField}

/-- What the last put of the module name is, of all that was put. -/
theorem lastPut_modKey :
    lastPut (parms.puts ++ pairsOf (wholeText m comm guestParm)) modKey =
      (lastPut (pairsOf (guestPrinted guestParm)) modKey).or (lastPut (modPairs m) modKey) := by
  obtain ⟨value, hvalue⟩ := Option.isSome_iff_exists.mp
    (isSome_lastPut.mpr (modKey_mem_modPairs m))
  have hsplit : ([':'], [')']) :: modPairs m ++ (commKey, hexWord comm) ::
      pairsOf (guestPrinted guestParm) = [([':'], [')'])] ++ modPairs m ++
        [(commKey, hexWord comm)] ++ pairsOf (guestPrinted guestParm) := by
    simp
  have hcomm : lastPut [(commKey, hexWord comm)] modKey = none :=
    lastPut_append_ne [] (hexWord comm) (by decide)
  rw [lastPut_append, pairsOf_wholeText, hsplit, lastPut_append, lastPut_append, lastPut_append,
    hcomm, hvalue]
  cases lastPut (pairsOf (guestPrinted guestParm)) modKey <;> rfl

/-- And that of the address. -/
theorem lastPut_commKey :
    lastPut (parms.puts ++ pairsOf (wholeText m comm guestParm)) commKey =
      (lastPut (pairsOf (guestPrinted guestParm)) commKey).or (some (hexWord comm)) := by
  have hsplit : ([':'], [')']) :: modPairs m ++ (commKey, hexWord comm) ::
      pairsOf (guestPrinted guestParm) = (([':'], [')']) :: modPairs m ++
        [(commKey, hexWord comm)]) ++ pairsOf (guestPrinted guestParm) := by
    simp
  rw [lastPut_append, pairsOf_wholeText, hsplit, lastPut_append, lastPut_append_self]
  cases lastPut (pairsOf (guestPrinted guestParm)) commKey <;> rfl

/-- The parm string is read back exactly where it is readable. -/
theorem readsBack_iff (asMap : parms.AsMap) :
    ReadsBack slhAlloc safeMalloc parms m comm guestParm (wholeText m comm guestParm) ↔
      Readable slhAlloc safeMalloc parms m comm guestParm := by
  have hread := zisReadMainParms_puts slhAlloc safeMalloc parms (wholeText m comm guestParm)
    ((wholeText m comm guestParm).length + 1) (Nat.lt_succ_self _)
  have hall := putParms_all slhAlloc asMap (pairsOf (wholeText m comm guestParm))
  have hget : (putParms slhAlloc parms (pairsOf (wholeText m comm guestParm))).1 = rcZisparmOk →
      ∀ name, zisGetParmValueChecked
        (putParms slhAlloc parms (pairsOf (wholeText m comm guestParm))).2.entries name =
          some (lastPut (parms.puts ++ pairsOf (wholeText m comm guestParm)) name) := by
    intro hok name
    rw [(hall.asMap hok).get, hall.puts hok]
  constructor
  · rintro ⟨parms', hparms', hmod, ⟨address, haddress, hscan⟩, hguest⟩
    rw [hread] at hparms'
    by_cases hbuffer : (safeMalloc ((wholeText m comm guestParm).length + 1)).isSome = true
    · rw [if_pos hbuffer] at hparms'
      have hresult := Option.some.inj (Option.some.inj hparms')
      have hok : (putParms slhAlloc parms (pairsOf (wholeText m comm guestParm))).1 = rcZisparmOk :=
        congrArg Prod.fst hresult
      obtain rfl : (putParms slhAlloc parms (pairsOf (wholeText m comm guestParm))).2 = parms' :=
        congrArg Prod.snd hresult
      rw [hget hok, lastPut_modKey] at hmod
      rw [hget hok, lastPut_commKey] at haddress
      refine ⟨fun parm hparm => ?_, fun value hvalue => ?_, fun hnone => ?_, fun value hvalue => ?_,
        fun hnone => ?_, hbuffer, hall.ok_iff.mp hok⟩
      · have hvalue := hguest parm hparm
        rw [hget hok] at hvalue
        exact Option.some.inj hvalue
      · rw [hvalue] at hmod
        exact Option.some.inj (Option.some.inj hmod)
      · rw [hnone] at hmod
        exact Option.some.inj hmod
      · rw [hvalue] at haddress
        have heq : value = address := Option.some.inj (Option.some.inj haddress)
        rw [heq]
        exact hscan
      · rw [hnone] at haddress
        have heq : hexWord comm = address := Option.some.inj (Option.some.inj haddress)
        rw [← heq, sscanfPointer_hexWord] at hscan
        rw [← Option.some.inj hscan]
        exact Nat.mod_lt _ (Nat.two_pow_pos 32)
    · rw [if_neg hbuffer] at hparms'
      have hfailed : rcZisparmAllocFailed = rcZisparmOk :=
        congrArg Prod.fst (Option.some.inj (Option.some.inj hparms'))
      exact absurd hfailed (by decide)
  · intro readable
    have hok := hall.ok_iff.mpr readable.storage
    refine ⟨(putParms slhAlloc parms (pairsOf (wholeText m comm guestParm))).2, ?_, ?_, ?_, ?_⟩
    · rw [hread, if_pos readable.workBuffer]
      exact congrArg (fun result => some (some result)) (Prod.ext hok rfl)
    · rw [hget hok, lastPut_modKey]
      cases hvalue : lastPut (pairsOf (guestPrinted guestParm)) modKey with
      | some value => rw [readable.ownModule value hvalue]; rfl
      | none => rw [readable.printedModule hvalue]; rfl
    · rw [hget hok, lastPut_commKey]
      cases hvalue : lastPut (pairsOf (guestPrinted guestParm)) commKey with
      | some value => exact ⟨value, rfl, readable.ownAddress value hvalue⟩
      | none =>
        refine ⟨hexWord comm, rfl, ?_⟩
        rw [sscanfPointer_hexWord, Nat.mod_eq_of_lt (readable.printedAddress hvalue)]
    · intro parm hparm
      rw [hget hok, readable.kept parm hparm]

end

end

/-! ## The round trip -/

/-- A start with everything it meets. -/
structure Start where
  w : GuestWorld
  nickname : Text
  module : ModuleField
  guestParm : Option GuestField
  flags : BitVec 32
  env : StartOutcome

namespace Start

variable (start : Start)

/-- What `zisauxMgrStartGuest2` comes to. -/
def result : GuestWorld × MgrReply :=
  zisauxMgrStartGuest2 start.w start.nickname start.module.printed
    (start.guestParm.map Field.printed) start.flags start.env

/-- The communication area that it obtains. -/
def comm : Addr := start.w.mgr.commPool.fresh

/-- The parm string before it is cut. -/
def text : Text := wholeText start.module start.comm start.guestParm

/-- The manager is one, the caller is its task, and the start gets an area and an address space. -/
def Starts : Prop :=
  start.w.mgr.eyecatcher = zisauxMgrEyecatcher ∧ start.env.starts start.w.mgr = true

variable {start}

theorem starts_iff : start.result.2.rc = rcZisauxOk ↔ start.Starts := by
  have hbad : rcZisauxBadEyecatcher ≠ rcZisauxOk := by decide
  have htask : rcZisauxNotManagerTcb ≠ rcZisauxOk := by decide
  have harea : rcZisauxCommNotAllocated ≠ rcZisauxOk := by decide
  have hprint : rcZisauxPrintError ≠ rcZisauxOk := by decide
  have hstarted : rcZisauxAsNotStarted ≠ rcZisauxOk := by decide
  unfold result zisauxMgrStartGuest2 Starts StartOutcome.starts
  by_cases h1 : start.w.mgr.eyecatcher = zisauxMgrEyecatcher
  · by_cases h2 : start.env.tcb = start.w.mgr.managerTCB
    · cases h3 : start.env.storage with
      | false => simp [h1, h2, harea]
      | true =>
        by_cases h4 : start.env.printRC < 0
        · simp [h1, h2, h4, hprint, Int.not_le.mpr h4]
        · by_cases h5 : start.env.startRC = 0
          · simp [h1, h2, h4, h5, Int.not_lt.mp h4]
          · simp [h1, h2, h4, h5, hstarted]
    · simp [h1, h2, htask]
  · simp [h1, hbad]

/-- The guest that is started has the parm string, cut to the size of the parm. -/
theorem head_guests (h : start.Starts) :
    start.result.1.guests.head?.map Guest.hostParm =
      some (start.text.take (start.env.parmSize - 1)) := by
  obtain ⟨heyecatcher, hstarts⟩ := h
  obtain ⟨htcb, hstorage, hprint, hstart⟩ := of_decide_eq_true hstarts
  have hstorage' : ¬ (!start.env.storage) = true := by
    rw [hstorage]
    decide
  rw [result, zisauxMgrStartGuest2, if_neg (not_not.mpr heyecatcher), if_neg (not_not.mpr htcb),
    if_neg hstorage', if_neg (Int.not_lt.mpr hprint), if_neg (not_not.mpr hstart)]
  rfl

end Start

section

variable {σ : Type} (slhAlloc : σ → Nat → Option σ)
  (safeMalloc : (size : Nat) → Option (WorkBuffer size))

/-- A parm string that does not fit is refused, and the host of a guest that is started reads back
what the manager was given. -/
structure RoundTrip (parms : { parms : ZisParmSet σ // parms.AsMap }) (start : Start) : Prop where
  refused : start.result.2.rc = rcZisauxOk → start.text.length < start.env.parmSize
  read : start.result.2.rc = rcZisauxOk → ∀ guest ∈ start.result.1.guests.head?,
    ReadsBack slhAlloc safeMalloc parms.1 start.module start.comm start.guestParm guest.hostParm

/-- The host reads back what the manager was given exactly where the parm string of a guest that is
started fits and is readable. -/
theorem roundTrip_iff (parms : { parms : ZisParmSet σ // parms.AsMap }) (start : Start) :
    RoundTrip slhAlloc safeMalloc parms start ↔
      (start.Starts → start.text.length < start.env.parmSize ∧
        Readable slhAlloc safeMalloc parms.1 start.module start.comm start.guestParm) := by
  have hguest : start.Starts → start.text.length < start.env.parmSize →
      ∃ guest, start.result.1.guests.head? = some guest ∧ guest.hostParm = start.text := by
    intro hstarts hfits
    obtain ⟨guest, hhead, hparm⟩ := Option.map_eq_some_iff.mp (Start.head_guests hstarts)
    exact ⟨guest, hhead, hparm.trans (List.take_of_length_le (Nat.le_sub_one_of_lt hfits))⟩
  constructor
  · intro trip hstarts
    have hok := Start.starts_iff.mpr hstarts
    have hfits := trip.refused hok
    obtain ⟨guest, hhead, hparm⟩ := hguest hstarts hfits
    have hread := trip.read hok guest hhead
    rw [hparm] at hread
    exact ⟨hfits, (readsBack_iff parms.2).mp hread⟩
  · intro h
    refine ⟨fun hok => (h (Start.starts_iff.mp hok)).1, fun hok guest hhead => ?_⟩
    obtain ⟨hfits, readable⟩ := h (Start.starts_iff.mp hok)
    obtain ⟨guest', hhead', hparm⟩ := hguest (Start.starts_iff.mp hok) hfits
    obtain rfl : guest = guest' := Option.some.inj ((Option.mem_def.mp hhead).symm.trans hhead')
    rw [hparm]
    exact (readsBack_iff parms.2).mpr readable

end

/-- A start of the module `GUEST` whose guest text has a module name of its own. -/
def namingStart : Start where
  w := ⟨⟨zisauxMgrEyecatcher, defaultHostSTC, Table.empty, Table.empty, 1, Storage.empty⟩, []⟩
  nickname := ['G', 'S', 'T', '1']
  module := ⟨['G', 'U', 'E', 'S', 'T', nul, nul, nul], [], rfl⟩
  guestParm :=
    some ⟨['M', 'O', 'D', '=', 'O', 'T', 'H', 'E', 'R'] ++ List.replicate 191 nul, [], rfl⟩
  flags := 0
  env := ⟨1, true, 42, 250, 0, 0, 1, 1, 1⟩

/-- The guest's text names the module that the host loads. -/
theorem guest_text_names_module : ¬ RoundTrip (fun (_ : Unit) _ => some ()) zeroStorage
    ⟨emptyParmSet (), asMap_emptyParmSet ()⟩ namingStart := by
  rintro ⟨hrefused, hread⟩
  have hstarts : namingStart.Starts := ⟨rfl, rfl⟩
  have hok := Start.starts_iff.mpr hstarts
  obtain ⟨guest, hhead, hparm⟩ := Option.map_eq_some_iff.mp (Start.head_guests hstarts)
  have hread := hread hok guest hhead
  rw [hparm, List.take_of_length_le (Nat.le_sub_one_of_lt (hrefused hok))] at hread
  have readable := (readsBack_iff (asMap_emptyParmSet ())).mp hread
  have hname := readable.ownModule ['O', 'T', 'H', 'E', 'R'] (by decide +kernel)
  revert hname
  decide

end Zss.Zisaux.HostParm
