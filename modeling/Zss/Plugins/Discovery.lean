import Zss.Plugins.PointerFile

/-!
# Plugin discovery

`readWebPluginDefinitions` reads the plugins directory, record by record, and makes a plugin of each
pointer file it finds. The plugins are put into a list by hand. `discovered_iff` says for which
directories the list is that of the plugins that the files declare, with every path inside its buffer.

A directory read fills the buffer with records that begin with their length. What the records hold is
what the loop reads there (`DirectoryRead`).

## What is not established

What a plugin is once it is made: `makeWebPlugin2` is a part of the world. A directory that changes
while it is read is what the reads say it is.
-/

namespace Zss.Plugins

open Zss.Lib

def nul : Char := '\x00'

/-! ## Directory records -/

def byteAt (buffer : List Char) (offset : Int) : Option Char :=
  if offset < 0 then none else buffer[offset.toNat]?

/-- A `short`, its higher byte first. -/
def shortAt (buffer : List Char) (offset : Int) : Option Int :=
  match byteAt buffer offset, byteAt buffer (offset + 1) with
  | some high, some low =>
    let n : Int := 256 * high.toNat + low.toNat
    some (if n < 0x8000 then n else n - 0x10000)
  | _, _ => none

/-- The string from an offset on. -/
def stringAt (buffer : List Char) (offset : Int) : Option Text :=
  let rest := buffer.drop offset.toNat
  if 0 ≤ offset ∧ rest.contains nul = true then some (rest.takeWhile (· ≠ nul)) else none

/-- `entryLength` and `name` of a record. -/
def entryAt (buffer : List Char) (entryStart : Int) : Option (Int × Text) :=
  match shortAt buffer entryStart, stringAt buffer (entryStart + 4) with
  | some entryLength, some name => some (entryLength, name)
  | _, _ => none

/-- The names of so many records. -/
def namesFrom (buffer : List Char) : Nat → Int → Option (List Text)
  | 0, _ => some []
  | entries + 1, entryStart =>
    match entryAt buffer entryStart with
    | none => none
    | some (entryLength, name) =>
      (namesFrom buffer entries (entryStart + entryLength)).map (name :: ·)

/-- `DIR_BUFFER_SIZE`. -/
def dirBufferSize : Nat := 4096

/-- A read of the directory with some records in it, and their names. -/
structure DirectoryRead where
  buffer : List Char
  entriesRead : Nat
  names : List Text
  length_eq : buffer.length = dirBufferSize
  some_read : 0 < entriesRead
  names_eq : namesFrom buffer entriesRead 0 = some names

/-- The plugins directory, with what is read of it if it can be opened. -/
structure PluginsDirectory where
  dirname : Text
  dirname_ne : dirname ≠ []
  reads : Option (List DirectoryRead)

/-! ## The list -/

/-- What is done with a plugin besides. -/
inductive Effect (Plugin : Type) where
  | initialized (plugin : Plugin)
  | named (key : Text) (loggingIdentifier : Nat)
  | leveled (loggingIdentifier : Nat) (logLevel : Int)

structure State (Plugin : Type) where
  list : LinkedList Plugin
  idMultiplier : Nat
  events : List Event
  effects : List (Effect Plugin)

/-- What the function returns, with the list that the definitions are served from, if there is one. -/
structure Outcome (Plugin : Type) where
  webPluginListHead : Link
  state : State Plugin
  served : Option Link

section

variable {Plugin RemoteStorage : Type} (world : World Plugin RemoteStorage)

def formatDataServiceIdentifier (unformattedIdentifier : Text) (idNameSeparator : Char) : Text :=
  unformattedIdentifier.map fun c => if c = '/' then idNameSeparator else c

/-- A data service gets its name in the table of the server, and its level. -/
def dataServiceEffects (service : DataService) : List (Effect Plugin) :=
  let dataServiceIdentifier := formatDataServiceIdentifier service.identifier '.'
  let (dataServiceLogLevel, logLevelWasSpecified) :=
    getAndLimitLogLevel world (some dataServiceIdentifier)
  .named (formatDataServiceIdentifier service.identifier ':') service.loggingIdentifier ::
    if logLevelWasSpecified then [.leveled service.loggingIdentifier dataServiceLogLevel] else []

def pluginEffects (plugin : Plugin) : List (Effect Plugin) :=
  .initialized plugin ::
    if world.loggingIdsByName then
      (world.dataServices plugin).flatMap (dataServiceEffects world)
    else []

/-- `makeWebPlugin2` of what a file declares. -/
def makePlugin (d : Declared) (idMultiplier : Nat) : Option Plugin × Nat :=
  world.makeWebPlugin2 d.location d.definition idMultiplier d.pluginLogLevel
    (world.makeApimlStorage.map fun makeApimlStorage => makeApimlStorage d.identifier)

/-- A plugin is made and put behind the last one. -/
def State.add (state : State Plugin) (d : Declared) : State Plugin :=
  match makePlugin world d state.idMultiplier with
  | (none, idMultiplier) => { state with idMultiplier := idMultiplier }
  | (some plugin, idMultiplier) =>
    { state with
      list := state.list.append world.freshNext plugin
      idMultiplier := idMultiplier
      effects := state.effects ++ pluginEffects world plugin }

/-- `sizeof(path)`. -/
def pathSize : Nat := 1025

def State.noted (state : State Plugin) (events : List Event) : State Plugin :=
  { state with events := state.events ++ events }

/-- A file of the directory is read. -/
def readFile (state : State Plugin) (path : Text) : State Plugin :=
  let read := readPointerFile world path
  let state := state.noted (sprintf pathSize path :: read.1)
  match read.2 with
  | none => state
  | some d => state.add world d

def isJsonFile (name : Text) : Bool := ".json".toList.isSuffixOf name

def pathOf (dirname name : Text) : Text :=
  -- `needsSlash`
  dirname ++ ((if dirname.getLast? = some '/' then [] else ['/']) ++ name)

def readEntry (dirname : Text) (state : State Plugin) (name : Text) : State Plugin :=
  if isJsonFile name then readFile world state (pathOf dirname name) else state

/-- The records of one read. There is nothing where a record is not in the buffer. -/
def readEntries (dirname : Text) (buffer : List Char) : Nat → Int → State Plugin → Option (State Plugin)
  | 0, _, state => some state
  | entries + 1, entryStart, state =>
    match entryAt buffer entryStart with
    | none => none
    | some (entryLength, name) =>
      readEntries dirname buffer entries (entryStart + entryLength)
        (readEntry world dirname state name)

def readDirectory (dirname : Text) : List DirectoryRead → State Plugin → Option (State Plugin)
  | [], state => some state
  | read :: reads, state =>
    match readEntries world dirname read.buffer read.entriesRead 0 state with
    | none => none
    | some state => readDirectory dirname reads state

def readWebPluginDefinitions (directory : PluginsDirectory) : Option (Outcome Plugin) :=
  let start : State Plugin := ⟨.empty, 1, [], []⟩
  let state := match directory.reads with
    | none => some start
    | some reads => readDirectory world directory.dirname reads start
  state.map fun state =>
    { webPluginListHead := state.list.head
      state := state
      served := if state.list.head = .null then none else some state.list.head }

/-! ## What is to be discovered -/

/-- The names of the directory's records, in order. -/
def PluginsDirectory.names (directory : PluginsDirectory) : List Text :=
  (directory.reads.getD []).flatMap DirectoryRead.names

/-- The paths of its pointer files. -/
def PluginsDirectory.pointerFiles (directory : PluginsDirectory) : List Text :=
  (directory.names.filter isJsonFile).map (pathOf directory.dirname)

/-- The plugins that files declare, made one after the other. -/
def listed : Nat → List Text → List Plugin
  | _, [] => []
  | idMultiplier, path :: paths =>
    match declared world path with
    | none => listed idMultiplier paths
    | some d =>
      let (plugin, idMultiplier) := makePlugin world d idMultiplier
      plugin.toList ++ listed idMultiplier paths

/-- **The plugins are discovered.** The list, up to its null pointer, is that of the plugins that the
files declare, and the same without a file that declares none. -/
structure Discovered (directory : PluginsDirectory) (outcome : Outcome Plugin) : Prop where
  right : ∀ event ∈ outcome.state.events, event.Right
  list : Linked outcome.state.list.nodes outcome.webPluginListHead
    (listed world 1 directory.pointerFiles)
  others : ∀ front path behind, directory.pointerFiles = front ++ path :: behind →
    declared world path = none →
    Linked outcome.state.list.nodes outcome.webPluginListHead (listed world 1 (front ++ behind))

/-- **A directory that does no harm**: every path is short enough, every file does no harm, and the
storage of the last list element has the null pointer already. -/
structure RightDirectory (directory : PluginsDirectory) : Prop where
  files : ∀ path ∈ directory.pointerFiles, path.length < pathSize ∧ RightFile world path
  last : ∀ k, (listed world 1 directory.pointerFiles).length = k + 1 → world.freshNext k = .null

/-! ## Reads -/

variable {world} {dirname : Text}

theorem readEntries_eq {buffer : List Char} {entries : Nat} {entryStart : Int} {names : List Text}
    (h : namesFrom buffer entries entryStart = some names) (state : State Plugin) :
    readEntries world dirname buffer entries entryStart state =
      some (names.foldl (readEntry world dirname) state) := by
  induction entries generalizing entryStart names state with
  | zero =>
    obtain rfl := Option.some.inj h
    rfl
  | succ entries ih =>
    rw [namesFrom] at h
    rw [readEntries]
    cases hentry : entryAt buffer entryStart with
    | none =>
      rw [hentry] at h
      cases h
    | some entry =>
      obtain ⟨entryLength, name⟩ := entry
      rw [hentry] at h
      obtain ⟨rest, hrest, rfl⟩ := Option.map_eq_some_iff.mp h
      exact ih hrest _

theorem readDirectory_eq (reads : List DirectoryRead) (state : State Plugin) :
    readDirectory world dirname reads state =
      some ((reads.flatMap DirectoryRead.names).foldl (readEntry world dirname) state) := by
  induction reads generalizing state with
  | nil => rfl
  | cons read reads ih =>
    rw [readDirectory, readEntries_eq read.names_eq, List.flatMap_cons, List.foldl_append]
    exact ih _

/-- Only the pointer files count. -/
theorem foldl_readEntry (names : List Text) (state : State Plugin) :
    names.foldl (readEntry world dirname) state =
      ((names.filter isJsonFile).map (pathOf dirname)).foldl (readFile world) state := by
  induction names generalizing state with
  | nil => rfl
  | cons name names ih =>
    rw [List.foldl_cons, ih, readEntry]
    by_cases hjson : isJsonFile name = true
    · rw [if_pos hjson, List.filter_cons_of_pos hjson, List.map_cons, List.foldl_cons]
    · rw [if_neg hjson, List.filter_cons_of_neg hjson]

/-- The function reads the pointer files one after the other, and comes to an end. -/
theorem readWebPluginDefinitions_eq (directory : PluginsDirectory) :
    readWebPluginDefinitions world directory =
      let state := directory.pointerFiles.foldl (readFile world) ⟨.empty, 1, [], []⟩
      some ⟨state.list.head, state,
        if state.list.head = .null then none else some state.list.head⟩ := by
  rw [readWebPluginDefinitions, PluginsDirectory.pointerFiles, PluginsDirectory.names,
    ← foldl_readEntry]
  cases directory.reads with
  | none => rfl
  | some reads =>
    simp only [readDirectory_eq, Option.map_some, Option.getD_some]

/-! ## Files -/

variable {path : Text} {paths : List Text} {state : State Plugin}

theorem noted_add (events : List Event) (d : Declared) :
    (state.noted events).add world d = (state.add world d).noted events := by
  have hnumber : (state.noted events).idMultiplier = state.idMultiplier := rfl
  rw [State.add, State.add, hnumber]
  cases makePlugin world d state.idMultiplier with
  | mk plugin idMultiplier => cases plugin <;> rfl

theorem add_events (d : Declared) : (state.add world d).events = state.events := by
  rw [State.add]
  split
  next => rfl
  next => rfl

/-- What is noted of a file. -/
theorem readFile_events : (readFile world state path).events =
    state.events ++ sprintf pathSize path :: (readPointerFile world path).1 := by
  rw [readFile]
  cases (readPointerFile world path).2 with
  | none => rfl
  | some d => exact add_events d

/-- What is noted is as it should be if every path is short enough and every file does no harm. -/
theorem foldl_right_iff (paths : List Text) (state : State Plugin) :
    (∀ event ∈ (paths.foldl (readFile world) state).events, event.Right) ↔
      (∀ event ∈ state.events, event.Right) ∧
        ∀ path ∈ paths, path.length < pathSize ∧ RightFile world path := by
  induction paths generalizing state with
  | nil => exact (and_iff_left fun _ h => nomatch h).symm
  | cons path paths ih =>
    rw [List.foldl_cons, ih, readFile_events, List.forall_mem_append, List.forall_mem_cons,
      List.forall_mem_cons, sprintf_right_iff, rightFile_iff, and_assoc]

/-- A file that does no harm adds the plugin that it declares. -/
theorem readFile_right (state : State Plugin) (h : RightFile world path) : ∃ events, readFile world state path =
    match declared world path with
    | none => state.noted events
    | some d => (state.add world d).noted events := by
  refine ⟨sprintf pathSize path :: (readPointerFile world path).1, ?_⟩
  rw [readFile]
  simp only [readPointerFile_declared h, noted_add]

/-- The list is put together of the plugins that the files declare. -/
theorem foldl_listed (state : State Plugin) {values : List Plugin} (hfiles : ∀ path ∈ paths, RightFile world path)
    (h : LinkedList.Chained world.freshNext state.list values) :
    LinkedList.Chained world.freshNext (paths.foldl (readFile world) state).list
      (values ++ listed world state.idMultiplier paths) := by
  induction paths generalizing state values with
  | nil =>
    rw [listed, List.append_nil]
    exact h
  | cons path paths ih =>
    obtain ⟨hpath, hpaths⟩ := List.forall_mem_cons.mp hfiles
    obtain ⟨events, hread⟩ := readFile_right state hpath
    rw [List.foldl_cons, hread, listed]
    cases declared world path with
    | none => exact ih _ hpaths h
    | some d =>
      cases hmade : makePlugin world d state.idMultiplier with
      | mk plugin idMultiplier =>
        simp only [hmade]
        cases plugin with
        | none =>
          have hadd : state.add world d = { state with idMultiplier := idMultiplier } := by
            rw [State.add, hmade]
          rw [hadd]
          exact ih _ hpaths h
        | some plugin =>
          have hadd : (state.add world d).list = state.list.append world.freshNext plugin ∧
              (state.add world d).idMultiplier = idMultiplier := by
            rw [State.add, hmade]
            exact ⟨rfl, rfl⟩
          have hrest := ih ((state.add world d).noted events) hpaths
            (hadd.1 ▸ h.append plugin)
          rw [List.append_assoc] at hrest
          have hnumber : ((state.add world d).noted events).idMultiplier = idMultiplier := hadd.2
          rw [hnumber] at hrest
          exact hrest

/-- A file that declares no plugin changes nothing of the others. -/
theorem listed_without (front : List Text) (behind : List Text) (idMultiplier : Nat)
    (h : declared world path = none) :
    listed world idMultiplier (front ++ path :: behind) = listed world idMultiplier (front ++ behind) := by
  induction front generalizing idMultiplier with
  | nil => rw [List.nil_append, List.nil_append, listed, h]
  | cons first front ih =>
    rw [List.cons_append, List.cons_append, listed, listed]
    cases declared world first with
    | none => exact ih idMultiplier
    | some d => exact congrArg _ (ih _)

theorem chained_pointerFiles (directory : PluginsDirectory)
    (hfiles : ∀ path ∈ directory.pointerFiles, path.length < pathSize ∧ RightFile world path) :
    LinkedList.Chained world.freshNext
      (directory.pointerFiles.foldl (readFile world) ⟨.empty, 1, [], []⟩).list
      (listed world 1 directory.pointerFiles) :=
  foldl_listed ⟨.empty, 1, [], []⟩ (fun path hpath => (hfiles path hpath).2)
    LinkedList.chained_empty

theorem discovered_of_right {directory : PluginsDirectory} (h : RightDirectory world directory) :
    ∃ outcome, readWebPluginDefinitions world directory = some outcome ∧
      Discovered world directory outcome := by
  have list := (chained_pointerFiles directory h.files).linked_iff.mpr h.last
  refine ⟨_, readWebPluginDefinitions_eq directory,
    (foldl_right_iff directory.pointerFiles _).mpr ⟨(fun _ h => nomatch h), h.files⟩, list, ?_⟩
  intro front path behind hpaths hnone
  rw [← listed_without front behind 1 hnone, ← hpaths]
  exact list

theorem right_of_discovered {directory : PluginsDirectory} {outcome : Outcome Plugin}
    (hrun : readWebPluginDefinitions world directory = some outcome)
    (h : Discovered world directory outcome) : RightDirectory world directory := by
  rw [readWebPluginDefinitions_eq] at hrun
  obtain rfl := Option.some.inj hrun
  obtain ⟨_, files⟩ := (foldl_right_iff directory.pointerFiles _).mp h.right
  exact ⟨files, (chained_pointerFiles directory files).linked_iff.mp h.list⟩

/-- **The plugins are discovered** in a directory that does no harm, and in no other. -/
theorem discovered_iff (world : World Plugin RemoteStorage) (directory : PluginsDirectory) :
    (∃ outcome, readWebPluginDefinitions world directory = some outcome ∧
      Discovered world directory outcome) ↔ RightDirectory world directory := by
  constructor
  · rintro ⟨outcome, hrun, discovered⟩
    exact right_of_discovered hrun discovered
  · exact discovered_of_right

end

/-! ## A place that is too long -/

/-- A plugin's place with 1020 characters. -/
def longPlace : Text := '/' :: List.replicate 1018 'a' ++ ['a']

/-- One pointer file, to that place. -/
def longPlaceWorld : World Unit Unit where
  jsonParseFile path :=
    if path = "/plugins/a.json".toList then
      some (.object [("identifier", .string "org.a".toList), ("pluginLocation", .string longPlace)])
    else none
  getenv _ := none
  slhAlloc _ := true
  cfgGetIntC _ := none
  zoweLogAlways := 0
  zoweLogInfo := 2
  zoweLogDebug3 := 5
  makeApimlStorage := none
  makeWebPlugin2 _ _ idMultiplier _ _ := (some (), idMultiplier + 1)
  dataServices _ := []
  loggingIdsByName := true
  freshNext _ := .null

/-- The one record of that directory, with its length in front. -/
def onePointerFile : PluginsDirectory where
  dirname := "/plugins".toList
  dirname_ne := by decide
  reads := some [
    { buffer := '\x00' :: Char.ofNat 10 :: '\x00' :: Char.ofNat 6 ::
        ("a.json".toList ++ List.replicate 4086 nul)
      entriesRead := 1
      names := ["a.json".toList]
      length_eq := by
        rw [List.length_cons, List.length_cons, List.length_cons, List.length_cons,
          List.length_append, List.length_replicate]
        rfl
      some_read := Nat.one_pos
      names_eq := by decide }]

theorem longPlace_not_discovered :
    ¬ ∃ outcome, readWebPluginDefinitions longPlaceWorld onePointerFile = some outcome ∧
      Discovered longPlaceWorld onePointerFile outcome := by
  rintro ⟨outcome, hrun, discovered⟩
  have hfile := (right_of_discovered hrun discovered).files "/plugins/a.json".toList (by decide)
  have hjoined : withoutTrailingSlash longPlace = longPlace := by
    rw [withoutTrailingSlash, longPlace, List.getLast?_concat]
    exact if_neg (by decide)
  have hshort := (hfile.2 _ rfl).2 longPlace (congrArg some hjoined)
  rw [length_definitionPath, longPlace, List.length_append, List.length_cons,
    List.length_replicate] at hshort
  exact absurd hshort (by decide)

end Zss.Plugins
