import Mathlib.Data.List.Basic
import Zss.Lib.Json
import Zss.Lib.LinkedList

/-!
# Pointer files

A file of the plugins directory names a plugin and where it is; the plugin's definition is at that
place. `zss.c` puts the paths together in buffers of 1024 bytes. `readPointerFile` is what it reads of
one such file, and `declared` what the file stands for; they agree where all goes well with the buffers
(`readPointerFile_declared`), and `rightFile_iff` says when that is.

The file system, the configuration manager, the environment and what makes a plugin of a definition
are not part of the repository (`World`).
-/

namespace Zss.Plugins

open Zss.Lib

/-- Null-terminated texts are their characters. -/
abbrev Text := List Char

/-- A service of a plugin, with the identifier its messages have. -/
structure DataService where
  identifier : Text
  loggingIdentifier : Nat

/-- The rest of the system. Storage is given where it is not asked for in vain (`slhAlloc`, by the file
it is asked for); that of a list element has some pointer in it. -/
structure World (Plugin RemoteStorage : Type) where
  jsonParseFile : Text → Option Json
  getenv : Text → Option Text
  slhAlloc : Text → Bool
  /-- `cfgGetIntC` of `components.zss.logLevels`. -/
  cfgGetIntC : Option Text → Option Int
  zoweLogAlways : Int
  zoweLogInfo : Int
  zoweLogDebug3 : Int
  /-- With the settings of the caching service, if there are any. -/
  makeApimlStorage : Option (Text → RemoteStorage)
  makeWebPlugin2 : Text → Json.Properties → Nat → Int → Option RemoteStorage → Option Plugin × Nat
  dataServices : Plugin → List DataService
  /-- The server has a table of logging identifiers. -/
  loggingIdsByName : Bool
  freshNext : Nat → Link

/-- What is noted on the way. -/
inductive Event where
  /-- A text is put together in a buffer of so many bytes; `kept` is what of it is then read back. -/
  | formatted (size : Nat) (text kept : Text)
  /-- A text is looked up that may not be there. -/
  | looked (identifier : Option Text)

/-- The text fits with its end and is not cut; what is looked up is there. -/
def Event.Right : Event → Prop
  | .formatted size text kept => kept.length < size ∧ kept = text
  | .looked identifier => identifier.isSome = true

/-- `sprintf` writes all of its text. -/
def sprintf (size : Nat) (text : Text) : Event := .formatted size text text

/-- `snprintf` writes what there is room for. -/
def snprintf (size : Nat) (text : Text) : Event × Text :=
  let kept := text.take (size - 1)
  (.formatted size text kept, kept)

/-- What a pointer file leads to. -/
structure Declared where
  identifier : Text
  location : Text
  definition : Json.Properties
  pluginLogLevel : Int

section

variable {Plugin RemoteStorage : Type} (world : World Plugin RemoteStorage)

/-! ## Reading a file -/

/-- `maxPathSize`, and the size of the path of a definition. -/
def maxPathSize : Nat := 1024

/-- `relativeTo`, with the value of the variable that it names. -/
def relativeToValue (relativeTo : Option Text) : Option Text :=
  match relativeTo with
  | some ('$' :: c :: name) =>
    match world.getenv (c :: name) with
    | some varValue => some varValue
    | none => relativeTo
  | _ => relativeTo

def withoutTrailingSlash (text : Text) : Text :=
  if text.getLast? = some '/' then text.dropLast else text

/-- The place of a plugin, put together from its two parts. -/
def joined (pluginLocation : Text) (relativeTo : Option Text) : Text :=
  let location := withoutTrailingSlash pluginLocation
  match relativeTo with
  | none => location
  | some relativeTo =>
    if pluginLocation.head? = some '/' then location
    else
      -- `relativeNeedsSlash`
      let slash := if relativeTo ≠ [] ∧ relativeTo.getLast? ≠ some '/' then ['/'] else []
      relativeTo ++ (slash ++ location)

/-- `resolvePluginLocation`, for a file. -/
def resolvePluginLocation (path : Text) (pluginLocation relativeTo : Option Text) :
    List Event × Option Text :=
  match pluginLocation with
  | none => ([], none)
  | some pluginLocation =>
    if world.slhAlloc path = false then ([], none)
    else
      let (event, resolved) :=
        snprintf maxPathSize (joined pluginLocation (relativeToValue world relativeTo))
      ([event], some resolved)

def definitionPath (location : Text) : Text := location ++ "/pluginDefinition.json".toList

/-- The object at the top of a file. -/
def parsedObject (path : Text) : Option Json.Properties :=
  (world.jsonParseFile path).bind Json.asObject

/-- The definition at a place, if it is that of the identifier. -/
def definitionAt (pluginIdentifier location : Text) : Option Json.Properties :=
  match parsedObject world (definitionPath location) with
  | none => none
  | some definition =>
    if definition.getString "identifier" = some pluginIdentifier then some definition else none

def readPluginDefinition (pluginIdentifier resolvedPluginLocation : Text) :
    List Event × Option Json.Properties :=
  ([sprintf maxPathSize (definitionPath resolvedPluginLocation)],
    definitionAt world pluginIdentifier resolvedPluginLocation)

/-- `getAndLimitLogLevel`, with whether a level was specified. -/
def getAndLimitLogLevel (identifier : Option Text) : Int × Bool :=
  match world.cfgGetIntC identifier with
  | some logLevel => (max world.zoweLogAlways (min logLevel world.zoweLogDebug3), true)
  | none => (world.zoweLogInfo, false)

/-- What the loop reads of a file with the right extension. -/
def readPointerFile (path : Text) : List Event × Option Declared :=
  match parsedObject world path with
  | none => ([], none)
  | some jsonObject =>
    let identifier := jsonObject.getString "identifier"
    let (resolving, resolvedPluginLocation) := resolvePluginLocation world path
      (jsonObject.getString "pluginLocation") (jsonObject.getString "relativeTo")
    -- the identifier is looked up before it is tested
    let pluginLogLevel := (getAndLimitLogLevel world identifier).1
    let events := resolving ++ [.looked identifier]
    match identifier, resolvedPluginLocation with
    | some identifier, some location =>
      let (reading, definition) := readPluginDefinition world identifier location
      (events ++ reading,
        definition.map fun definition => ⟨identifier, location, definition, pluginLogLevel⟩)
    | _, _ => (events, none)

/-! ## What a file stands for -/

/-- The place that a file names, where there is storage for it. -/
def placeOf (path : Text) (jsonObject : Json.Properties) : Option Text :=
  if world.slhAlloc path then
    (jsonObject.getString "pluginLocation").map fun pluginLocation =>
      joined pluginLocation (relativeToValue world (jsonObject.getString "relativeTo"))
  else none

def declared (path : Text) : Option Declared :=
  (parsedObject world path).bind fun jsonObject =>
    (jsonObject.getString "identifier").bind fun identifier =>
      (placeOf world path jsonObject).bind fun location =>
        (definitionAt world identifier location).map fun definition =>
          ⟨identifier, location, definition, (getAndLimitLogLevel world (some identifier)).1⟩

/-- **A file that does no harm**: if there is an object in it, it has an identifier, and its place, if
it names one, is short enough for the buffers. -/
def RightFile (path : Text) : Prop :=
  ∀ jsonObject, parsedObject world path = some jsonObject →
    (jsonObject.getString "identifier").isSome = true ∧
      ∀ location, placeOf world path jsonObject = some location →
        (definitionPath location).length < maxPathSize

variable {world} {path : Text}

/-! ## Buffers -/

theorem sprintf_right_iff {size : Nat} {text : Text} :
    (sprintf size text).Right ↔ text.length < size :=
  ⟨fun h => h.1, fun h => ⟨h, rfl⟩⟩

theorem snprintf_right_iff {size : Nat} {text : Text} (hpos : 0 < size) :
    (snprintf size text).1.Right ↔ text.length < size := by
  constructor
  · rintro ⟨hlt, hkept⟩
    rw [hkept] at hlt
    exact hlt
  · intro hlt
    have hkept : text.take (size - 1) = text := List.take_of_length_le (by omega)
    exact ⟨by rw [hkept]; exact hlt, hkept⟩

theorem snprintf_kept {size : Nat} {text : Text} (h : text.length < size) :
    (snprintf size text).2 = text :=
  List.take_of_length_le (by omega)

/-- What is resolved is the place of the file, cut where the buffer ends. -/
theorem resolvePluginLocation_eq (jsonObject : Json.Properties) :
    resolvePluginLocation world path (jsonObject.getString "pluginLocation")
        (jsonObject.getString "relativeTo") =
      match placeOf world path jsonObject with
      | none => ([], none)
      | some location =>
        ([(snprintf maxPathSize location).1], some (snprintf maxPathSize location).2) := by
  rw [placeOf]
  generalize jsonObject.getString "pluginLocation" = pluginLocation
  cases pluginLocation with
  | none => cases world.slhAlloc path <;> rfl
  | some pluginLocation =>
    rw [resolvePluginLocation]
    cases world.slhAlloc path <;> rfl

theorem length_definitionPath (location : Text) :
    (definitionPath location).length = location.length + 22 := by
  rw [definitionPath, List.length_append]
  rfl

/-! ## The file -/

/-- What is read of a file that does no harm is what it declares. -/
theorem readPointerFile_declared (h : RightFile world path) :
    (readPointerFile world path).2 = declared world path := by
  rw [readPointerFile, declared]
  cases hobject : parsedObject world path with
  | none => rfl
  | some jsonObject =>
    obtain ⟨hidentifier, hplace⟩ := h jsonObject hobject
    obtain ⟨identifier, hidentifier⟩ := Option.isSome_iff_exists.mp hidentifier
    simp only [resolvePluginLocation_eq, hidentifier, Option.bind_some]
    cases hlocation : placeOf world path jsonObject with
    | none => rfl
    | some location =>
      have hlength := hplace location hlocation
      rw [length_definitionPath] at hlength
      simp only [snprintf_kept (show location.length < maxPathSize by omega), Option.bind_some]
      rfl

/-- All goes well with the buffers, and with the identifier, for a file that does no harm. -/
theorem rightFile_iff :
    (∀ event ∈ (readPointerFile world path).1, event.Right) ↔ RightFile world path := by
  rw [readPointerFile, RightFile]
  cases hobject : parsedObject world path with
  | none => exact iff_of_true (fun _ h => nomatch h) nofun
  | some jsonObject =>
    simp only [resolvePluginLocation_eq, Option.some.injEq, forall_eq']
    cases hidentifier : jsonObject.getString "identifier" with
    | none =>
      refine iff_of_false (fun h => ?_) (fun h => nomatch h.1)
      have hlooked := h (.looked none) (List.mem_append_right _ List.mem_cons_self)
      cases hlooked
    | some identifier =>
      cases hplace : placeOf world path jsonObject with
      | none =>
        refine iff_of_true ?_ ⟨rfl, nofun⟩
        simp only [List.nil_append, List.forall_mem_singleton]
        rfl
      | some location =>
        simp only [readPluginDefinition, List.forall_mem_append, List.forall_mem_singleton,
          sprintf_right_iff, length_definitionPath, Option.some.injEq, forall_eq',
          snprintf_right_iff (show 0 < maxPathSize by decide)]
        constructor
        · rintro ⟨⟨hlocation, _⟩, hdefinition⟩
          rw [snprintf_kept hlocation] at hdefinition
          exact ⟨rfl, hdefinition⟩
        · rintro ⟨_, hdefinition⟩
          have hlocation : location.length < maxPathSize := by omega
          rw [snprintf_kept hlocation]
          exact ⟨⟨hlocation, rfl⟩, hdefinition⟩

end

end Zss.Plugins
