import Zss.Tss.AccessList
import Zss.Tss.LineWalk

/-!
# What a caller may see of itself

`callerProfileHandler` in `secmgmttss.c`: over the listing of a caller's own ACID, whether the caller
is in a group, and the profiles of a class it has. The services of Top Secret turn to it where a
caller may not list more.
-/

namespace Zss.Tss

/-- `ZISGenresProfileEntry`. -/
structure ZisGenresProfileEntry where
  profile : Text
  owner : Text
deriving DecidableEq

/-- The input of `TSSCallerProfileParms`; a null pointer is none. -/
structure TssCallerProfileParms where
  extractGroups : Bool
  searchGroup : Text
  extractProfiles : Bool
  searchClass : Text
  profilesToExtract : Nat
  filterByPrefix : Option Text
  filterByProfile : Option Text

/-- What the handler keeps from line to line: of its entry only the profile is ever set. -/
structure CallerWalk where
  profiles : List ZisGenresProfileEntry
  entryProfile : Text
  foundStartProfile : Bool
  isInGroup : Bool

def CallerWalk.start : CallerWalk := ⟨[], zeroBuffer zisSecurityProfileMaxLength, false, false⟩

/-- What the handler sets in its parms. -/
structure CallerProfiles where
  isInGroup : Bool
  profiles : List ZisGenresProfileEntry
  profilesExtracted : Nat

def tssProfileKey : Text := ['P', 'R', 'O', 'F', 'I', 'L', 'E', 'S']

/-- The key of the lines of a class, as its buffer of 12 holds it. -/
def classKey (className : Text) : Text := (['X', 'A', ' '] ++ className).take 11

section

variable (utils : Utils) (parms : TssCallerProfileParms)

/-- What the handler does with a line of the searched class. -/
def storeCallerProfile (walk : CallerWalk) (profile owner : Text) : CallerWalk :=
  let stored : CallerWalk :=
    { walk with
      profiles := walk.profiles ++ [⟨profile, owner⟩]
      entryProfile := zeroBuffer zisSecurityProfileMaxLength }
  match parms.filterByPrefix with
  | some filter =>
    if profile.take filter.length = filter then stored else { walk with entryProfile := profile }
  | none =>
    match parms.filterByProfile with
    | some filter =>
      if walk.foundStartProfile then stored
      else if profile.take filter.length = filter then { stored with foundStartProfile := true }
      else { walk with entryProfile := profile }
    | none => stored

/-- The part of the handler's line for profiles. -/
def callerProfileLine (walk : CallerWalk) (line : Text) (keys : TssKeys) (numberOfKeys : Nat) :
    CallerWalk :=
  match tssFindDesiredKey (classKey parms.searchClass) keys with
  | none => walk
  | some keyIndex =>
    match utils.lastIndexOfString line tssOwnerKey with
    | none => walk
    | some ownerIndex =>
      let currOwner :=
        utils.padWithSpaces (((line.drop (ownerIndex + 6)).take 8 ++ zeroBuffer 8).take 8)
      match tssFindValueForKey utils line (u32 ((ownerIndex : Int) - 1)) keys keyIndex numberOfKeys
        walk.entryProfile with
      | none => walk
      | some profile => storeCallerProfile parms walk profile currOwner

/-- The part of the handler's line for groups. -/
def callerGroupLine (walk : CallerWalk) (line : Text) (keys : TssKeys) : CallerWalk :=
  if (tssFindDesiredKey tssProfileKey keys).isSome ∧
      (utils.lastIndexOfString line parms.searchGroup).isSome then
    { walk with isInGroup := true }
  else walk

/-- A line; none for -1. -/
def callerLine (walk : CallerWalk) (line : Text) : Option CallerWalk :=
  match tssParseLineForKeys utils line with
  | none => none
  | some (numberOfKeys, keys) =>
    let walk :=
      if parms.extractGroups && !walk.isInGroup then callerGroupLine utils parms walk line keys
      else walk
    some (if parms.extractProfiles then callerProfileLine utils parms walk line keys numberOfKeys
      else walk)

/-- `callerProfileHandler`: its return code, and what it set. -/
def callerProfileHandler (status : RadminApiStatus) (result : List RadminCommandOutput) :
    Int × CallerProfiles :=
  if status.racfRC ≠ 0 then (-1, ⟨false, [], 0⟩)
  else
    match result with
    | [] => (0, ⟨false, [], 0⟩)
    | block :: _ =>
      if tssIsErrorDetected (block.lines.headD []) then (-1, ⟨false, [], 0⟩)
      else
        match blockWalk
          (fun walk line => walk.profiles.length = parms.profilesToExtract ∨ tssIsOutputDone line)
          (callerLine utils parms) CallerWalk.start result with
        | none | some .failed => (-1, ⟨false, [], 0⟩)
        | some (.stopped walk) => (0, ⟨walk.isInGroup, walk.profiles, walk.profiles.length⟩)
        | some (.passed walk) => (0, ⟨walk.isInGroup, walk.profiles, 0⟩)

end

end Zss.Tss
