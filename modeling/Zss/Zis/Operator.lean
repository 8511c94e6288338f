import Zss.Zis.Deploy
import Zss.Zis.Parm

/-!
# What the operator says

Two functions of `server.c` that read what an operator wrote: the start options taken from the
parameter set, and the modify command handed to the plugin it is for.

The values of the option flags are in a header of the common library, so they are an argument: a
`CmsFlagMasks` is any choice of nonzero masks that share no bit.

The first law of each half says exactly when the function does what its parameters ask. A start
option depends on its own parameter alone unless `RESET(LOOKUP)` is given, which is tested by the
value of `COLD`. A modify command reaches the plugin of its target unless the target is longer than
a nickname, or is empty and blanks are somebody's nickname.

## What is not established

What a plugin makes of a command that reaches it. A parameter set is taken to have a key in each
entry; the comparison with a missing key, which ends the code, is for `Zss.Zis.ParmMap`.
-/

namespace Zss.Zis

open Zss.Lib

/-! ## The start options -/

def zisParmColdStart : Text := "COLD".toList
def zisParmDebugMode : Text := "DEBUG".toList
def zisParmResetLookup : Text := "RESET(LOOKUP)".toList
def zisParmCheckauth : Text := "ZWES.CHECKAUTH".toList
def zisParmDevMode : Text := "ZWES.DEV_MODE".toList
def zisParmDevModeLpa : Text := "ZWES.DEV_MODE.LPA".toList

def zisParmCheckauthValueOn : Text := "YES".toList
def zisParmDevModeOn : Text := "YES".toList

/-- The flags of `getCMSConfigFlags`. -/
inductive CmsServerFlag where
  | coldStart
  | debug
  | checkauth
  | devMode
  | devModeLpa
  | resetLookup
deriving DecidableEq

/-- The values of the flags. -/
structure CmsFlagMasks where
  mask : CmsServerFlag → BitVec 32
  nonzero : ∀ flag, mask flag ≠ 0#32
  apart : ∀ flag flag', flag ≠ flag' → Apart (mask flag) (mask flag')

/-- `zisGetParmValue`, of a set with a key in each entry as `findEntry` is. -/
def zisGetParmValue (entries : List ZisParmSetEntry) (name : Text) : Option Text :=
  (findEntry entries name).bind fun entry => entries[entry]?.bind ZisParmSetEntry.value

/-- A flag raised under a condition, `if (cond) flags |= flag`. -/
def CmsFlagMasks.raiseIf (masks : CmsFlagMasks) (cond : Prop) [Decidable cond]
    (flag : CmsServerFlag) (flags : BitVec 32) : BitVec 32 :=
  if cond then setFlag flags (masks.mask flag) else flags

/-- `getCMSConfigFlags`; no flags where it takes the length of a missing value. -/
def getCMSConfigFlags (masks : CmsFlagMasks) (zisParms : List ZisParmSetEntry) :
    Option (BitVec 32) :=
  let flags := 0#32
  let coldStartValue := zisGetParmValue zisParms zisParmColdStart
  let flags := masks.raiseIf (coldStartValue = some []) .coldStart flags
  let debugValue := zisGetParmValue zisParms zisParmDebugMode
  let flags := masks.raiseIf (debugValue = some []) .debug flags
  let checkAuthValue := zisGetParmValue zisParms zisParmCheckauth
  let flags := masks.raiseIf (checkAuthValue = some zisParmCheckauthValueOn) .checkauth flags
  let devMode := zisGetParmValue zisParms zisParmDevMode
  let flags := masks.raiseIf (devMode = some zisParmDevModeOn) .devMode flags
  let lpaDevMode := zisGetParmValue zisParms zisParmDevModeLpa
  let flags := masks.raiseIf (lpaDevMode = some zisParmDevModeOn) .devModeLpa flags
  match zisGetParmValue zisParms zisParmResetLookup with
  | none => some flags
  | some _ =>
    -- the value looked at is the one of the cold start
    coldStartValue.map fun value => masks.raiseIf (value = []) .resetLookup flags

/-- The parameter of a flag. -/
def CmsServerFlag.parm : CmsServerFlag → Text
  | .coldStart => zisParmColdStart
  | .debug => zisParmDebugMode
  | .checkauth => zisParmCheckauth
  | .devMode => zisParmDevMode
  | .devModeLpa => zisParmDevModeLpa
  | .resetLookup => zisParmResetLookup

/-- The value that turns a flag on; a parameter that is a mere keyword has none. -/
def CmsServerFlag.enabling : CmsServerFlag → Text
  | .coldStart | .debug | .resetLookup => []
  | .checkauth => zisParmCheckauthValueOn
  | .devMode | .devModeLpa => zisParmDevModeOn

/-- The options are computed, and each is on exactly when its own parameter says so. -/
def OptionsOfOwnParms (masks : CmsFlagMasks) (zisParms : List ZisParmSetEntry) : Prop :=
  ∃ flags, getCMSConfigFlags masks zisParms = some flags ∧
    ∀ flag : CmsServerFlag, hasFlag flags (masks.mask flag) = true ↔
      zisGetParmValue zisParms flag.parm = some flag.enabling

@[simp]
theorem CmsFlagMasks.hasFlag_mask (masks : CmsFlagMasks) (flag flag' : CmsServerFlag) :
    hasFlag (masks.mask flag) (masks.mask flag') = true ↔ flag = flag' := by
  by_cases h : flag = flag'
  · subst h
    have raised := hasFlag_setFlag_self 0#32 (masks.nonzero flag)
    rw [hasFlag_setFlag, hasFlag_zero, Bool.false_or] at raised
    simpa using raised
  · have kept := hasFlag_setFlag_apart 0#32 (masks.apart flag flag' h)
    rw [hasFlag_setFlag, hasFlag_zero, Bool.false_or] at kept
    simp [kept, h]

@[simp]
theorem CmsFlagMasks.hasFlag_raiseIf (masks : CmsFlagMasks) (cond : Prop) [Decidable cond]
    (flag flag' : CmsServerFlag) (flags : BitVec 32) :
    hasFlag (masks.raiseIf cond flag flags) (masks.mask flag') = true ↔
      hasFlag flags (masks.mask flag') = true ∨ cond ∧ flag = flag' := by
  unfold CmsFlagMasks.raiseIf
  split
  · next h => simp [hasFlag_setFlag, h]
  · next h => simp [h]

/-- The flags before the lookup reset is looked at: each from its own parameter. -/
theorem getCMSConfigFlags_eq (masks : CmsFlagMasks) (zisParms : List ZisParmSetEntry) :
    ∃ flags,
      getCMSConfigFlags masks zisParms =
        (match zisGetParmValue zisParms zisParmResetLookup with
        | none => some flags
        | some _ => (zisGetParmValue zisParms zisParmColdStart).map fun value =>
            masks.raiseIf (value = []) .resetLookup flags) ∧
      ∀ flag : CmsServerFlag, hasFlag flags (masks.mask flag) = true ↔
        flag ≠ .resetLookup ∧ zisGetParmValue zisParms flag.parm = some flag.enabling := by
  refine ⟨_, rfl, ?_⟩
  intro flag
  simp only [CmsFlagMasks.hasFlag_raiseIf, hasFlag_zero]
  cases flag <;> simp [CmsServerFlag.parm, CmsServerFlag.enabling]

/-- **The options depend on their own parameters** exactly where the lookup reset is not asked for,
or is asked for along with a cold start whose value is empty when its own is. -/
theorem getCMSConfigFlags_own_parms (masks : CmsFlagMasks) (zisParms : List ZisParmSetEntry) :
    OptionsOfOwnParms masks zisParms ↔
      ∀ resetLookup, zisGetParmValue zisParms zisParmResetLookup = some resetLookup →
        ∃ coldStartValue, zisGetParmValue zisParms zisParmColdStart = some coldStartValue ∧
          (coldStartValue = [] ↔ resetLookup = []) := by
  obtain ⟨flags, hflags, hown⟩ := getCMSConfigFlags_eq masks zisParms
  unfold OptionsOfOwnParms
  rw [hflags]
  cases hreset : zisGetParmValue zisParms zisParmResetLookup with
  | none =>
    constructor
    · intro _ resetLookup h
      cases h
    · intro _
      refine ⟨flags, rfl, ?_⟩
      intro flag
      rw [hown flag]
      refine ⟨fun h => h.2, fun h => ⟨?_, h⟩⟩
      intro hflag
      rw [hflag, CmsServerFlag.parm, hreset] at h
      cases h
  | some resetLookup =>
    cases hcold : zisGetParmValue zisParms zisParmColdStart with
    | none => simp
    | some coldStartValue =>
      simp only [Option.map_some, Option.some.injEq, exists_eq_left', forall_eq']
      constructor
      · intro h
        have reset := h .resetLookup
        rw [CmsFlagMasks.hasFlag_raiseIf, hown] at reset
        simpa [CmsServerFlag.parm, CmsServerFlag.enabling, hreset] using reset
      · intro h flag
        rw [CmsFlagMasks.hasFlag_raiseIf, hown]
        by_cases hflag : flag = .resetLookup
        · subst hflag
          simp [CmsServerFlag.parm, CmsServerFlag.enabling, hreset, h]
        · simp [hflag, Ne.symm hflag]

/-- A lookup reset without a cold start: there is no value to take the length of. -/
theorem reset_lookup_without_cold_start :
    ¬ ∀ (masks : CmsFlagMasks) (zisParms : List ZisParmSetEntry),
      OptionsOfOwnParms masks zisParms := by
  intro h
  let masks : CmsFlagMasks :=
    { mask := fun
        | .coldStart => 0x01#32
        | .debug => 0x02#32
        | .checkauth => 0x04#32
        | .devMode => 0x08#32
        | .devModeLpa => 0x10#32
        | .resetLookup => 0x20#32
      nonzero := by intro flag; cases flag <;> decide
      apart := by intro flag flag' hne; cases flag <;> cases flag' <;> first | contradiction | decide }
  obtain ⟨flags, hflags, -⟩ := h masks [⟨some zisParmResetLookup, some []⟩]
  have missing : getCMSConfigFlags masks [⟨some zisParmResetLookup, some []⟩] = none := by rfl
  rw [missing] at hflags
  cases hflags

/-! ## Modify commands -/

/-- The size of a `ZISPluginNickname`. -/
def pluginNicknameSize : Nat := 4

/-- `getPluginByNickname`. -/
def getPluginByNickname (w : World) (nickname : Text) : Option InstalledPlugin :=
  w.plugins.find? fun plugin => plugin.descriptor.nickname = nickname

/-- A text blank-padded to the size of a nickname. -/
def padNickname (text : Text) : Text :=
  text ++ List.replicate (pluginNicknameSize - text.length) ' '

/-- What a modify command comes to: the plugin whose handler is called, if any, or a copy of so many
characters over the end of the local nickname, after which nothing is known. -/
inductive ModifyOutcome where
  | routed (called : Option InstalledPlugin)
  | overrun (copied : Nat)

/-- `handleModifyCommands`. The length is a size, so no length passes the guard. -/
def handleModifyCommands (w : World) (target : Option Text) : ModifyOutcome :=
  let targetLength := match target with
    | some target => target.length
    | none => 0
  if targetLength ≤ 0 ∧ pluginNicknameSize < targetLength then .routed none
  else if pluginNicknameSize < targetLength then .overrun targetLength
  else
    match getPluginByNickname w (padNickname (target.getD [])) with
    | none => .routed none
    | some plugin =>
      if plugin.descriptor.handleCommand.isSome then .routed (some plugin) else .routed none

/-- A plugin a modify command is for: it bears the nickname and has a handler. -/
def InstalledPlugin.answersTo (nickname : Text) (plugin : InstalledPlugin) : Bool :=
  plugin.descriptor.nickname = nickname ∧ plugin.descriptor.handleCommand.isSome

/-- The plugins a target names: none for a target that is no nickname. -/
def targetedPlugins (w : World) (target : Text) : List InstalledPlugin :=
  if 0 < target.length ∧ target.length ≤ pluginNicknameSize then
    w.plugins.filter (·.answersTo (padNickname target))
  else []

/-- The handlers called are those of the targeted plugins, and the copy of the target stayed inside
the nickname. -/
def RoutedByNickname (w : World) (target : Option Text) : Prop :=
  ∃ called, handleModifyCommands w target = .routed called ∧
    called.toList = targetedPlugins w (target.getD [])

/-- The plugins of a nickname behind the one the search finds have no handler. -/
def NoOtherHandler (w : World) (nickname : Text) : Prop :=
  ∀ plugin ∈ (w.plugins.filter fun plugin => plugin.descriptor.nickname = nickname).drop 1,
    plugin.descriptor.handleCommand = none

/-- The plugin the search finds for a nickname has no handler. -/
def NoFoundHandler (w : World) (nickname : Text) : Prop :=
  ∀ plugin, getPluginByNickname w nickname = some plugin → plugin.descriptor.handleCommand = none

theorem handleModifyCommands_eq (w : World) (target : Option Text) :
    handleModifyCommands w target =
      if pluginNicknameSize < (target.getD []).length then .overrun (target.getD []).length
      else .routed ((getPluginByNickname w (padNickname (target.getD []))).filter
        (·.descriptor.handleCommand.isSome)) := by
  unfold handleModifyCommands
  have length : (match target with
      | some target => target.length
      | none => 0) = (target.getD []).length := by
    cases target <;> rfl
  simp only [length]
  rw [if_neg (by omega)]
  split
  · rfl
  · cases getPluginByNickname w (padNickname (target.getD [])) with
    | none => rfl
    | some plugin => simp only [Option.filter_some]; split <;> rfl

/-- The first of a list that passes a second test, against all that pass both. -/
theorem find?_filter_toList {α : Type} (p q : α → Bool) (xs : List α) :
    ((xs.find? p).filter q).toList = xs.filter (fun x => p x && q x) ↔
      ∀ x ∈ (xs.filter p).drop 1, q x = false := by
  induction xs with
  | nil => simp
  | cons x xs ih =>
    by_cases hp : p x
    · have rest : xs.filter (fun x => p x && q x) = [] ↔ ∀ y ∈ xs.filter p, q y = false := by
        simp [List.filter_eq_nil_iff, List.mem_filter]
      by_cases hq : q x
      · simp only [List.find?_cons_of_pos hp, Option.filter_some, hp, hq, if_true,
          Option.toList_some, List.filter_cons_of_pos, Bool.and_self, List.cons.injEq, true_and,
          List.drop_one, List.tail_cons]
        exact eq_comm.trans rest
      · simp only [List.find?_cons_of_pos hp, Option.filter_some, hp, hq, Bool.false_eq_true,
          if_false, Option.toList_none, Bool.and_false, not_false_eq_true,
          List.filter_cons_of_neg, List.filter_cons_of_pos, List.drop_one, List.tail_cons]
        exact eq_comm.trans rest
    · simp [hp, ih]

/-- **A modify command is routed by its target** exactly when the target is a nickname no other
plugin with a handler bears, or is missing and blanks are nobody's nickname who has a handler. -/
theorem handleModifyCommands_routed (w : World) (target : Option Text) :
    RoutedByNickname w target ↔
      (target.getD []).length ≤ pluginNicknameSize ∧
        (if (target.getD []).length = 0 then NoFoundHandler w (padNickname [])
        else NoOtherHandler w (padNickname (target.getD []))) := by
  unfold RoutedByNickname
  rw [handleModifyCommands_eq]
  generalize target.getD [] = text
  by_cases long : pluginNicknameSize < text.length
  · simp [long, Nat.not_le.mpr long]
  · have short : text.length ≤ pluginNicknameSize := Nat.not_lt.mp long
    simp only [long, if_false, ModifyOutcome.routed.injEq, exists_eq_left', short, true_and]
    split
    · next hempty =>
      obtain rfl := List.length_eq_zero_iff.mp hempty
      simp [targetedPlugins, NoFoundHandler, Option.filter_eq_none_iff]
    · next hne =>
      have hpos : 0 < text.length := Nat.pos_of_ne_zero hne
      unfold targetedPlugins NoOtherHandler getPluginByNickname
      rw [if_pos ⟨hpos, short⟩]
      have both : (fun plugin : InstalledPlugin => plugin.answersTo (padNickname text)) =
          fun plugin => decide (plugin.descriptor.nickname = padNickname text) &&
            plugin.descriptor.handleCommand.isSome := by
        funext plugin
        simp [InstalledPlugin.answersTo]
      rw [both, find?_filter_toList]
      simp

/-- A target longer than a nickname is copied over its end. -/
theorem long_target_overruns :
    ¬ ∀ (w : World) (target : Option Text), RoutedByNickname w target := by
  intro h
  obtain ⟨called, hcalled, -⟩ := h .ipl (some "MODIFY".toList)
  have overrun : handleModifyCommands .ipl (some "MODIFY".toList) = .overrun 6 := by rfl
  rw [overrun] at hcalled
  cases hcalled

end Zss.Zis
