import Mathlib.Data.List.TakeWhile
import Zss.Zisaux.Request

/-!
# Commands for an auxiliary address space

A command is put into its field by `zisauxMgrInitCommand`; the host splits it into tokens, sets the
log level where its verb is LOG, and passes any other to the user module. It comes from the console,
where there is no reason code to set, or with a request. `commands_right_iff` says when all of this is
as the commands are meant.

What is written beyond the command's field is counted, and a reason code that is set through a null
pointer ends the command (`Fault`). Storage for the tokens is given or refused call by call.

## What is not established

What the user module makes of a command, and that a log level does anything.
-/

namespace Zss.Zisaux.Commands

open Zss.Zisaux

def rcZisauxCommandTooLong : Int := 32

/-- The characters of a C string. -/
def cString (text : Text) : Text := text.takeWhile (· ≠ '\x00')

/-- `strcmp` of a token finds it equal. -/
def Equals (token : Text) (literal : String) : Prop := cString token = literal.toList

instance (token : Text) (literal : String) : Decidable (Equals token literal) :=
  inferInstanceAs (Decidable (cString token = literal.toList))

/-! ## A command is made -/

/-- `sizeof(command->text)`. -/
def textSize : Nat := 126

/-- `ZISAUXCommand`, without its route. The length is an unsigned byte. -/
structure ZisauxCommand where
  length : Nat
  text : Text

/-- What `zisauxMgrInitCommand` comes to: its return code, the command, and how many characters it
writes behind the command's text. -/
structure Initialized where
  rc : Int
  command : ZisauxCommand
  beyond : Nat

/-- `zisauxMgrInitCommand`. The branch for a text that is too long names its code and does not
return it. -/
def zisauxMgrInitCommand (commandText : Text) : Initialized :=
  let length := commandText.length % 256
  { rc := rcZisauxOk
    command := ⟨length, (commandText.take length ++ List.replicate textSize ' ').take textSize⟩
    beyond := length - textSize }

/-! ## Tokens -/

/-- The tokens that were found, the capacity of their array, and how often storage was asked for. -/
structure Tokens where
  tokens : List Text
  capacity : Nat
  asked : Nat

section

variable (slhAlloc : Nat → Bool)

/-- The array of tokens, doubled where it is full. -/
def Tokens.grow (t : Tokens) : Option Tokens :=
  if t.capacity ≤ t.tokens.length then
    if slhAlloc t.asked = false then none
    else some { t with capacity := t.capacity * 2, asked := t.asked + 1 }
  else some t

/-- One token is copied. -/
def Tokens.push (t : Tokens) (token : Text) : Option Tokens :=
  if slhAlloc t.asked = false then none
  else some { t with tokens := t.tokens ++ [token], asked := t.asked + 1 }

def Tokens.add (t : Tokens) (token : Text) : Option Tokens :=
  (t.grow slhAlloc).bind (·.push slhAlloc token)

/-- The loop of `auxutilTokenizeString`, for so many rounds: the delimiters are skipped, a token is
measured up to the next one, and the loop goes on behind that. -/
def tokenizeFor (delim : Char) : Nat → Text → Tokens → Option Tokens
  | 0, _, t => some t
  | rounds + 1, text, t =>
    let rest := text.dropWhile (· = delim)
    let token := rest.takeWhile (· ≠ delim)
    if token = [] then some t
    else
      match t.add slhAlloc token with
      | none => none
      | some t' => tokenizeFor delim rounds (rest.drop (token.length + 1)) t'

/-- `auxutilTokenizeString`: the tokens, or nothing where storage is refused. -/
def auxutilTokenizeString (text : Text) (delim : Char) : Option (List Text) :=
  if slhAlloc 0 = false then none
  else (tokenizeFor slhAlloc delim text.length text ⟨[], 4, 1⟩).map Tokens.tokens

end

/-! ## The host -/

/-- `CMSModifyCommandStatus`. -/
inductive ModifyStatus where
  | unknown
  | processed
  | consumed
  | rejected
deriving DecidableEq

/-- The levels of `logSetLevel`. -/
inductive LogLevel where
  | na
  | severe
  | warning
  | info
  | debug
  | debug2
  | debug3
deriving DecidableEq

/-- What the user module's command handler comes to, and the status it leaves. -/
structure Reply where
  call : GuestCall
  status : ModifyStatus

/-- The host: whether a heap is made for a command, the answers to what is asked of it, and the user
module's command handler, where it has one. -/
structure Host where
  heap : Bool
  slhAlloc : Nat → Bool
  handleCommand : Option (List Text → Reply)

/-- What `handleAUXCommand` comes to: its return code, the reason code where it sets one, the status
in the response, the log level, and the tokens the user module was given, where it was called. -/
structure Handled where
  rc : Int
  reasonCode : Option Int
  status : ModifyStatus
  logLevel : LogLevel
  passed : Option (List Text)

inductive Fault where
  | nullReasonCode

/-- The level of a name. -/
def levelNamed (level : Text) : Option LogLevel :=
  if Equals level "SEVERE" then some .severe
  else if Equals level "WARNING" then some .warning
  else if Equals level "INFO" then some .info
  else if Equals level "DEBUG" then some .debug
  else if Equals level "DEBUG2" then some .debug2
  else if Equals level "DEBUG3" then some .debug3
  else none

/-- `handleCommandVerbLog`: the status and the log level. A level without a name is rejected, and
the command goes on. -/
def handleCommandVerbLog (args : List Text) (logLevel : LogLevel) : ModifyStatus × LogLevel :=
  match args with
  | [component, level] =>
    if ¬ Equals component "STC" then (.rejected, logLevel)
    else (.consumed, (levelNamed level).getD .na)
  | _ => (.rejected, logLevel)

/-- `handleUserModuleCommand`: its return code and the reason code that it sets. -/
def handleUserModuleCommand (reply : Reply) (supplied : Bool) : Except Fault (Int × Option Int) :=
  let (rc, rsn) := callUserModuleCommandHandler reply.call
  if rc ≠ rcZisauxOk then
    if supplied = false then .error .nullReasonCode else .ok (rc, some rsn)
  else .ok (rcZisauxOk, none)

/-- The verb of a command that was split, and its handler. -/
def dispatch (handle : List Text → Reply) (supplied : Bool) (logLevel : LogLevel) (verb : Text)
    (args : List Text) : Except Fault Handled :=
  if Equals verb "LOG" then
    let (status, logLevel') := handleCommandVerbLog args logLevel
    .ok ⟨rcZisauxOk, none, status, logLevel', none⟩
  else
    let reply := handle (verb :: args)
    (handleUserModuleCommand reply supplied).map fun (rc, reasonCode) =>
      ⟨rc, reasonCode, reply.status, logLevel, some (verb :: args)⟩

/-- A command that nothing is done for. -/
def Handled.unknown (logLevel : LogLevel) : Handled := ⟨rcZisauxOk, none, .unknown, logLevel, none⟩

/-- What `handleAUXCommand` does with the tokens, where there are any and the user module has a
handler. -/
def handleTokens (host : Host) (supplied : Bool) (logLevel : LogLevel) :
    Option (List Text) → Except Fault Handled
  | some (verb :: args) =>
    match host.handleCommand with
    | some handle => dispatch handle supplied logLevel verb args
    | none => .ok (.unknown logLevel)
  | _ => .ok (.unknown logLevel)

/-- A reason code that is supplied is set to the one `handleAUXCommand` began with. -/
def Handled.ending (supplied : Bool) (handled : Handled) : Handled :=
  if supplied then { handled with reasonCode := some 0 } else handled

/-- `handleAUXCommand`; whether a reason code is supplied is an argument. -/
def handleAuxCommand (host : Host) (supplied : Bool) (logLevel : LogLevel) (text : Text) :
    Except Fault Handled :=
  if host.heap = false then .ok ⟨rcZisauxAllocFailed, none, .unknown, logLevel, none⟩
  else (handleTokens host supplied logLevel (auxutilTokenizeString host.slhAlloc text ' ')).map
    (.ending supplied)

/-! ## The two ways -/

inductive ConsoleCommandType where
  | modify
  | start
  | stop
deriving DecidableEq

/-- `handleModifyCommand`: its return code, and for a modify command what it is handled with. -/
def handleModifyCommand (host : Host) (logLevel : LogLevel) (type : ConsoleCommandType)
    (command : Text) : Int × Option (Except Fault Handled) :=
  if textSize < command.length then (8, none)
  else if type = .modify then (0, some (handleAuxCommand host false logLevel command))
  else (0, none)

/-- `handleCommandRequest`. -/
def handleCommandRequest (host : Host) (logLevel : LogLevel) (command : Text) :
    Except Fault Handled :=
  handleAuxCommand host true logLevel command

/-- Where a command comes from. -/
inductive Origin where
  | console
  | request
deriving DecidableEq

/-- A request supplies a reason code. -/
def Origin.supplied : Origin → Bool
  | .console => false
  | .request => true

/-- A command that is received, with what it is handled with. -/
def received (host : Host) (logLevel : LogLevel) (text : Text) :
    Origin → Option (Except Fault Handled)
  | .console => (handleModifyCommand host logLevel .modify text).2
  | .request => some (handleCommandRequest host logLevel text)

/-! ## The tokens of a text -/

/-- The pieces of a text between its delimiters, the empty ones left out. -/
def words (delim : Char) (text : Text) : List Text := (text.splitOn delim).filter (· ≠ [])

section

variable {delim : Char}

theorem words_nil : words delim [] = [] := rfl

theorem words_delim (text : Text) : words delim (delim :: text) = words delim text := by
  have hsplit : (([] : Text) ++ delim :: text).splitOn delim = [] :: text.splitOn delim :=
    List.splitOn_append_cons_self_of_not_mem List.not_mem_nil text
  rw [List.nil_append] at hsplit
  rw [words, hsplit]
  rfl

theorem words_token {token : Text} (hne : token ≠ []) (hnot : delim ∉ token) (text : Text) :
    words delim (token ++ delim :: text) = token :: words delim text := by
  rw [words, List.splitOn_append_cons_self_of_not_mem hnot]
  exact List.filter_cons_of_pos (decide_eq_true hne)

theorem words_last {token : Text} (hne : token ≠ []) (hnot : delim ∉ token) :
    words delim token = [token] := by
  rw [words, List.splitOn_eq_singleton hnot]
  exact List.filter_cons_of_pos (decide_eq_true hne)

theorem words_dropWhile (text : Text) :
    words delim (text.dropWhile (· = delim)) = words delim text := by
  induction text with
  | nil => rfl
  | cons c text ih =>
    rw [List.dropWhile_cons]
    split
    next hc => rw [ih, of_decide_eq_true hc, words_delim]
    next => rfl

theorem words_of_append {token tail : Text} (hne : token ≠ []) (hnot : delim ∉ token)
    (htail : ∀ c ∈ tail.head?, c = delim) :
    words delim (token ++ tail) =
      token :: words delim ((token ++ tail).drop (token.length + 1)) := by
  cases tail with
  | nil =>
    rw [List.append_nil, words_last hne hnot, List.drop_of_length_le (Nat.le_succ _), words_nil]
  | cons c tail =>
    obtain rfl : c = delim := htail c rfl
    rw [words_token hne hnot, List.drop_append, List.drop_of_length_le (Nat.le_succ _),
      Nat.add_sub_cancel_left, List.nil_append, List.drop_succ_cons, List.drop_zero]

/-- A text that does not begin with a delimiter has its first token up to the next one. -/
theorem words_of_rest {rest : Text} (hne : rest.takeWhile (· ≠ delim) ≠ []) :
    words delim rest = rest.takeWhile (· ≠ delim) ::
      words delim (rest.drop ((rest.takeWhile (· ≠ delim)).length + 1)) := by
  have hnot : delim ∉ rest.takeWhile (· ≠ delim) := by
    intro hmem
    simpa using List.mem_takeWhile_imp hmem
  have htail : ∀ c ∈ (rest.dropWhile (· ≠ delim)).head?, c = delim := by
    intro c hc
    have hhead := List.head?_dropWhile_not (fun x => decide (x ≠ delim)) rest
    rw [Option.mem_def.mp hc] at hhead
    simpa using hhead
  have happend := words_of_append hne hnot htail
  rw [List.takeWhile_append_dropWhile] at happend
  exact happend

/-- Where there is no token, there are only delimiters. -/
theorem words_of_blank {text : Text}
    (h : (text.dropWhile (· = delim)).takeWhile (· ≠ delim) = []) : words delim text = [] := by
  rw [← words_dropWhile]
  cases hdrop : text.dropWhile (· = delim) with
  | nil => rfl
  | cons c tail =>
    have hhead := List.head?_dropWhile_not (fun x => decide (x = delim)) text
    rw [hdrop] at hhead h
    have hc : c ≠ delim := by simpa using hhead
    rw [List.takeWhile_cons, if_pos (decide_eq_true hc)] at h
    cases h

end

/-! ## The tokenizer -/

section

variable (slhAlloc : Nat → Bool)

/-- The tokens are added, one after the other. -/
def Tokens.addAll (t : Tokens) : List Text → Option Tokens
  | [] => some t
  | token :: tokens => (t.add slhAlloc token).bind (·.addAll tokens)

/-- The loop adds the words of the text. -/
theorem tokenizeFor_eq (delim : Char) (rounds : Nat) (text : Text) (t : Tokens)
    (enough : text.length ≤ rounds) :
    tokenizeFor slhAlloc delim rounds text t = t.addAll slhAlloc (words delim text) := by
  induction rounds generalizing text t with
  | zero =>
    cases text with
    | nil => rfl
    | cons c text => exact absurd enough (Nat.not_succ_le_zero _)
  | succ rounds ih =>
    rw [tokenizeFor]
    by_cases hblank : (text.dropWhile (· = delim)).takeWhile (· ≠ delim) = []
    · rw [words_of_blank hblank]
      exact if_pos hblank
    · rw [← words_dropWhile, words_of_rest hblank, Tokens.addAll]
      simp only [if_neg hblank]
      cases t.add slhAlloc ((text.dropWhile (· = delim)).takeWhile (· ≠ delim)) with
      | none => rfl
      | some t' =>
        have hle := (text.dropWhile_suffix (· = delim)).length_le
        have hfewer : ((text.dropWhile (· = delim)).drop
            (((text.dropWhile (· = delim)).takeWhile (· ≠ delim)).length + 1)).length ≤ rounds := by
          rw [List.length_drop]
          omega
        exact ih _ t' hfewer

/-- How often storage is asked for so many tokens, with so many there already. -/
def askedFor : Nat → Nat → Nat → Nat
  | 0, _, _ => 0
  | n + 1, count, capacity =>
    if capacity ≤ count then 2 + askedFor n (count + 1) (capacity * 2)
    else 1 + askedFor n (count + 1) capacity

/-- Storage is given so many times, from one call on. -/
def Given (first n : Nat) : Prop := ∀ k < n, slhAlloc (first + k) = true

instance (first n : Nat) : Decidable (Given slhAlloc first n) :=
  inferInstanceAs (Decidable (∀ k < n, slhAlloc (first + k) = true))

variable {slhAlloc}

theorem given_add (first m n : Nat) :
    Given slhAlloc first (m + n) ↔ Given slhAlloc first m ∧ Given slhAlloc (first + m) n := by
  constructor
  · intro h
    refine ⟨fun k hk => h k (by omega), fun k hk => ?_⟩
    rw [Nat.add_assoc]
    exact h (m + k) (by omega)
  · rintro ⟨hfirst, hrest⟩ k hk
    by_cases hkm : k < m
    · exact hfirst k hkm
    · have hlater := hrest (k - m) (by omega)
      rw [Nat.add_assoc, Nat.add_sub_cancel' (Nat.le_of_not_lt hkm)] at hlater
      exact hlater

theorem given_one (first : Nat) : Given slhAlloc first 1 ↔ slhAlloc first = true := by
  constructor
  · intro h
    exact h 0 Nat.one_pos
  · intro h k hk
    obtain rfl : k = 0 := by omega
    exact h

theorem push_eq (t : Tokens) (token : Text) :
    t.push slhAlloc token = if Given slhAlloc t.asked 1 then
      some ⟨t.tokens ++ [token], t.capacity, t.asked + 1⟩ else none := by
  rw [Tokens.push]
  by_cases hgiven : slhAlloc t.asked = true
  · rw [if_pos ((given_one _).mpr hgiven), hgiven]
    rfl
  · rw [if_neg fun h => hgiven ((given_one _).mp h), if_pos (Bool.eq_false_iff.mpr hgiven)]

/-- A token is added where storage is given for it, and for the array where that is full. -/
theorem add_eq (t : Tokens) (token : Text) :
    t.add slhAlloc token =
      if t.capacity ≤ t.tokens.length then
        if Given slhAlloc t.asked 2 then
          some ⟨t.tokens ++ [token], t.capacity * 2, t.asked + 2⟩ else none
      else if Given slhAlloc t.asked 1 then
        some ⟨t.tokens ++ [token], t.capacity, t.asked + 1⟩ else none := by
  rw [Tokens.add, Tokens.grow]
  by_cases hfull : t.capacity ≤ t.tokens.length
  · rw [if_pos hfull, if_pos hfull]
    by_cases hgiven : slhAlloc t.asked = true
    · have hgrown := (given_one _).mpr hgiven
      rw [hgiven, if_neg Bool.noConfusion, Option.bind_some, push_eq]
      by_cases hpushed : Given slhAlloc (t.asked + 1) 1
      · rw [if_pos hpushed, if_pos ((given_add _ 1 1).mpr ⟨hgrown, hpushed⟩)]
      · rw [if_neg hpushed, if_neg fun h => hpushed ((given_add _ 1 1).mp h).2]
    · rw [if_pos (Bool.eq_false_iff.mpr hgiven), Option.bind_none,
        if_neg fun h => hgiven ((given_one _).mp ((given_add _ 1 1).mp h).1)]
  · rw [if_neg hfull, if_neg hfull, Option.bind_some, push_eq]

/-- The tokens are there where storage is given each time it is asked for. -/
theorem addAll_tokens (tokens : List Text) (t : Tokens) :
    (t.addAll slhAlloc tokens).map Tokens.tokens =
      if Given slhAlloc t.asked (askedFor tokens.length t.tokens.length t.capacity) then
        some (t.tokens ++ tokens) else none := by
  induction tokens generalizing t with
  | nil =>
    have hnone : Given slhAlloc t.asked 0 := fun k hk => absurd hk (Nat.not_lt_zero k)
    rw [List.append_nil]
    exact (if_pos hnone).symm
  | cons token tokens ih =>
    rw [Tokens.addAll, add_eq, List.length_cons, askedFor]
    by_cases hfull : t.capacity ≤ t.tokens.length
    · simp only [if_pos hfull, given_add _ 2]
      by_cases hgiven : Given slhAlloc t.asked 2
      · rw [if_pos hgiven, Option.bind_some, ih]
        simp only [hgiven, true_and, List.length_append, List.length_singleton, List.append_assoc,
          List.singleton_append]
      · rw [if_neg hgiven, if_neg fun h => hgiven h.1]
        rfl
    · simp only [if_neg hfull, given_add _ 1]
      by_cases hgiven : Given slhAlloc t.asked 1
      · rw [if_pos hgiven, Option.bind_some, ih]
        simp only [hgiven, true_and, List.length_append, List.length_singleton, List.append_assoc,
          List.singleton_append]
      · rw [if_neg hgiven, if_neg fun h => hgiven h.1]
        rfl

/-- `auxutilTokenizeString` finds the words of the text, where storage is given for them. -/
theorem auxutilTokenizeString_eq (text : Text) (delim : Char) :
    auxutilTokenizeString slhAlloc text delim =
      if Given slhAlloc 0 (1 + askedFor (words delim text).length 0 4) then
        some (words delim text) else none := by
  rw [auxutilTokenizeString, tokenizeFor_eq slhAlloc delim text.length text _ (Nat.le_refl _),
    addAll_tokens]
  simp only [given_add 0 1, given_one]
  by_cases hgiven : slhAlloc 0 = true
  · simp only [hgiven, Bool.true_eq_false, if_false, true_and]
    rfl
  · rw [if_pos (Bool.eq_false_iff.mpr hgiven), if_neg fun h => hgiven h.1]

end

/-! ## What a command is to do -/

/-- A text that is too long is refused and nothing is written behind the field; any other is what the
tokenizer finds. -/
structure InitRight (commandText : Text) : Prop where
  refused : textSize < commandText.length →
    (zisauxMgrInitCommand commandText).rc = rcZisauxCommandTooLong
  inside : (zisauxMgrInitCommand commandText).beyond = 0
  unchanged : commandText.length ≤ textSize →
    let command := (zisauxMgrInitCommand commandText).command
    (zisauxMgrInitCommand commandText).rc = rcZisauxOk ∧
      command.text.take command.length = commandText

/-- Storage is given for a command's heap and for each of its tokens. -/
def StorageGiven (host : Host) (text : Text) : Prop :=
  host.heap = true ∧ Given host.slhAlloc 0 (1 + askedFor (words ' ' text).length 0 4)

/-- The user module's handler fails. -/
def Reply.Fails (reply : Reply) : Prop := (callUserModuleCommandHandler reply.call).1 ≠ rcZisauxOk

/-- The arguments of LOG that are known: the component and a level. -/
def KnownLog (args : List Text) : Prop :=
  ∃ component level, args = [component, level] ∧ Equals component "STC" ∧
    (levelNamed level).isSome = true

/-- The log level changes for a known LOG command only; one that is not known is rejected and changes
nothing; another command is passed on with its tokens; and where the user module fails, its codes are
reported. -/
structure HandledRight (host : Host) (logLevel : LogLevel) (text : Text) (supplied : Bool)
    (handled : Handled) : Prop where
  levels : handled.logLevel ≠ logLevel → ∃ verb component level, words ' ' text =
    [verb, component, level] ∧ Equals verb "LOG" ∧ Equals component "STC" ∧
      levelNamed level = some handled.logLevel
  rejected : host.handleCommand.isSome = true → StorageGiven host text → ∀ verb args,
    words ' ' text = verb :: args → Equals verb "LOG" → ¬ KnownLog args →
    handled.status = .rejected ∧ handled.logLevel = logLevel ∧ handled.passed = none
  passed : host.handleCommand.isSome = true → ∀ verb args, words ' ' text = verb :: args →
    ¬ Equals verb "LOG" → handled.passed = some (verb :: args)
  failing : ∀ handle, host.handleCommand = some handle → ∀ tokens, handled.passed = some tokens →
    (handle tokens).Fails →
    handled.rc = (callUserModuleCommandHandler (handle tokens).call).1 ∧ (supplied = true →
      handled.reasonCode = some (callUserModuleCommandHandler (handle tokens).call).2)

/-- A command that is received is handled right, and to the end. -/
def CommandRight (host : Host) (logLevel : LogLevel) (text : Text) (origin : Origin) : Prop :=
  ∀ outcome, received host logLevel text origin = some outcome →
    ∃ handled, outcome = .ok handled ∧ HandledRight host logLevel text origin.supplied handled

/-- A LOG command that is split has a known level where its component is known; for any other storage
is given, and the user module does not fail, or it fails with reason code zero and that is asked
for. -/
def CommandFine (host : Host) (text : Text) (supplied : Bool) : Prop :=
  ∀ handle, host.handleCommand = some handle → ∀ verb args, words ' ' text = verb :: args →
    (Equals verb "LOG" → StorageGiven host text → ∀ component level, args = [component, level] →
      Equals component "STC" → (levelNamed level).isSome = true) ∧
    (¬ Equals verb "LOG" → StorageGiven host text ∧ ((handle (verb :: args)).Fails →
      supplied = true ∧ (callUserModuleCommandHandler (handle (verb :: args)).call).2 = 0))

/-! ## A command is made right -/

theorem init_iff (commandText : Text) : InitRight commandText ↔ commandText.length ≤ textSize := by
  have hok : rcZisauxOk ≠ rcZisauxCommandTooLong := by decide
  constructor
  · intro right
    by_contra hlong
    exact hok (right.refused (Nat.lt_of_not_le hlong))
  · intro hfits
    have hlength : commandText.length % 256 = commandText.length := by
      have hsize : textSize < 256 := by decide
      omega
    refine ⟨fun hlong => absurd hlong (Nat.not_lt_of_le hfits), ?_, fun _ => ⟨rfl, ?_⟩⟩
    · show commandText.length % 256 - textSize = 0
      omega
    · show ((commandText.take (commandText.length % 256) ++ List.replicate textSize ' ').take
        textSize).take (commandText.length % 256) = commandText
      rw [hlength, List.take_length, List.take_take, Nat.min_eq_left hfits, List.take_left]

/-! ## A command is handled right -/

section

variable {host : Host} {logLevel : LogLevel} {text : Text} {supplied : Bool}

/-- Nothing is done for a command. -/
structure Handled.Idle (logLevel : LogLevel) (handled : Handled) : Prop where
  status : handled.status = .unknown
  logLevel : handled.logLevel = logLevel
  passed : handled.passed = none

theorem idle_unknown (supplied : Bool) :
    (Handled.ending supplied (.unknown logLevel)).Idle logLevel := by
  cases supplied with
  | false => exact ⟨rfl, rfl, rfl⟩
  | true => exact ⟨rfl, rfl, rfl⟩

/-- Nothing is done for a command without a word, by a user module without a handler, or without
storage. -/
theorem handleAuxCommand_idle
    (h : host.handleCommand = none ∨ ¬ StorageGiven host text ∨ words ' ' text = []) :
    ∃ handled, handleAuxCommand host supplied logLevel text = .ok handled ∧
      handled.Idle logLevel := by
  rw [handleAuxCommand]
  by_cases hheap : host.heap = false
  · rw [if_pos hheap]
    exact ⟨_, rfl, rfl, rfl, rfl⟩
  · rw [if_neg hheap, auxutilTokenizeString_eq]
    have hunknown : handleTokens host supplied logLevel
        (if Given host.slhAlloc 0 (1 + askedFor (words ' ' text).length 0 4) then
          some (words ' ' text) else none) = .ok (.unknown logLevel) := by
      rcases h with hnone | hstorage | hwords
      · unfold handleTokens
        rw [hnone]
        split <;> rfl
      · have hrefused : ¬ Given host.slhAlloc 0 (1 + askedFor (words ' ' text).length 0 4) :=
          fun hgiven => hstorage ⟨Bool.not_eq_false _ ▸ hheap, hgiven⟩
        rw [if_neg hrefused]
        rfl
      · rw [hwords]
        split <;> rfl
    rw [hunknown]
    exact ⟨_, rfl, idle_unknown supplied⟩

variable {verb : Text} {args : List Text}

/-- A command that is split has its verb looked at. -/
theorem handleAuxCommand_dispatch {handle : List Text → Reply} (hgiven : StorageGiven host text)
    (hhandle : host.handleCommand = some handle) (hwords : words ' ' text = verb :: args) :
    handleAuxCommand host supplied logLevel text =
      (dispatch handle supplied logLevel verb args).map (.ending supplied) := by
  have hheap : ¬ host.heap = false := by
    rw [hgiven.1]
    exact Bool.noConfusion
  rw [handleAuxCommand, if_neg hheap, auxutilTokenizeString_eq, if_pos hgiven.2, hwords,
    handleTokens, hhandle]

/-- Where nothing is done, that is right unless a command is to be passed on. -/
theorem handledRight_of_idle {handled : Handled} (idle : handled.Idle logLevel)
    (hlog : host.handleCommand.isSome = true → ∀ verb args, words ' ' text = verb :: args →
      Equals verb "LOG" ∧ ¬ StorageGiven host text) :
    HandledRight host logLevel text supplied handled := by
  refine ⟨fun hlevel => absurd idle.logLevel hlevel, ?_, ?_, ?_⟩
  · intro hsome hgiven verb args hwords _ _
    exact absurd hgiven (hlog hsome verb args hwords).2
  · intro hsome verb args hwords hverb
    exact absurd (hlog hsome verb args hwords).1 hverb
  · intro handle _ tokens hpassed _
    rw [idle.passed] at hpassed
    cases hpassed

/-- What LOG comes to. -/
theorem handleCommandVerbLog_cases (args : List Text) (logLevel : LogLevel) :
    (∃ component level, args = [component, level] ∧ Equals component "STC" ∧
      handleCommandVerbLog args logLevel = (.consumed, (levelNamed level).getD .na)) ∨
    ((∀ component level, args = [component, level] → ¬ Equals component "STC") ∧
      handleCommandVerbLog args logLevel = (.rejected, logLevel)) := by
  rcases args with _ | ⟨component, _ | ⟨level, _ | ⟨more, args⟩⟩⟩
  · exact .inr ⟨nofun, rfl⟩
  · exact .inr ⟨nofun, rfl⟩
  · by_cases hcomponent : Equals component "STC"
    · exact .inl ⟨component, level, rfl, hcomponent, if_neg (not_not.mpr hcomponent)⟩
    · refine .inr ⟨?_, if_pos hcomponent⟩
      intro component' level' heq
      cases heq
      exact hcomponent
  · exact .inr ⟨nofun, rfl⟩

/-- LOG is handled right where a level with a known component is known. -/
theorem log_right_iff (hsome : host.handleCommand.isSome = true) (hgiven : StorageGiven host text)
    (hwords : words ' ' text = verb :: args) (hverb : Equals verb "LOG") :
    HandledRight host logLevel text supplied (.ending supplied ⟨rcZisauxOk, none,
        (handleCommandVerbLog args logLevel).1, (handleCommandVerbLog args logLevel).2, none⟩) ↔
      ∀ component level, args = [component, level] → Equals component "STC" →
        (levelNamed level).isSome = true := by
  have hending : ∀ handled : Handled, (handled.ending supplied).status = handled.status ∧
      (handled.ending supplied).logLevel = handled.logLevel ∧
      (handled.ending supplied).passed = handled.passed := by
    intro handled
    cases supplied with
    | false => exact ⟨rfl, rfl, rfl⟩
    | true => exact ⟨rfl, rfl, rfl⟩
  obtain ⟨hstatus, hlevel, hpassed⟩ := hending ⟨rcZisauxOk, none,
    (handleCommandVerbLog args logLevel).1, (handleCommandVerbLog args logLevel).2, none⟩
  rcases handleCommandVerbLog_cases args logLevel with
    ⟨component, level, rfl, hcomponent, hlog⟩ | ⟨hother, hlog⟩
  · constructor
    · rintro right component' level' heq -
      cases heq
      by_contra hunknown
      have hrejected := right.rejected hsome hgiven verb _ hwords hverb
        fun ⟨_, _, hargs, _, hknown⟩ => by
          cases hargs
          exact hunknown hknown
      rw [hstatus, hlog] at hrejected
      exact absurd hrejected.1 nofun
    · intro hknown
      have hsomeLevel := hknown component level rfl hcomponent
      obtain ⟨l, hl⟩ := Option.isSome_iff_exists.mp hsomeLevel
      refine ⟨fun _ => ⟨verb, component, level, hwords, hverb, hcomponent, ?_⟩, ?_, ?_, ?_⟩
      · rw [hlevel, hlog, hl]
        rfl
      · intro _ _ verb' args' hwords' _ hnot
        cases hwords.symm.trans hwords'
        exact absurd ⟨component, level, rfl, hcomponent, hsomeLevel⟩ hnot
      · intro _ verb' args' hwords' hnot
        cases hwords.symm.trans hwords'
        exact absurd hverb hnot
      · intro _ _ tokens htokens _
        rw [hpassed] at htokens
        cases htokens
  · constructor
    · intro _ component level hargs hcomponent
      exact absurd hcomponent (hother component level hargs)
    · intro _
      refine ⟨fun hchanged => ?_, ?_, ?_, ?_⟩
      · rw [hlevel, hlog] at hchanged
        exact absurd rfl hchanged
      · intro _ _ _ _ _ _ _
        rw [hstatus, hlevel, hpassed, hlog]
        exact ⟨rfl, rfl, rfl⟩
      · intro _ verb' args' hwords' hnot
        cases hwords.symm.trans hwords'
        exact absurd hverb hnot
      · intro _ _ tokens htokens _
        rw [hpassed] at htokens
        cases htokens

/-- A command for the user module is handled right where that does not fail. -/
theorem user_right_iff {handle : List Text → Reply} (hhandle : host.handleCommand = some handle)
    (hwords : words ' ' text = verb :: args) (hverb : ¬ Equals verb "LOG") :
    (∃ handled, (dispatch handle supplied logLevel verb args).map (.ending supplied) = .ok handled ∧
        HandledRight host logLevel text supplied handled) ↔
      ((handle (verb :: args)).Fails → supplied = true ∧
        (callUserModuleCommandHandler (handle (verb :: args)).call).2 = 0) := by
  have hpassedRight : ∀ handled : Handled, handled.logLevel = logLevel →
      handled.passed = some (verb :: args) →
      ((handle (verb :: args)).Fails →
        handled.rc = (callUserModuleCommandHandler (handle (verb :: args)).call).1 ∧
        (supplied = true → handled.reasonCode =
          some (callUserModuleCommandHandler (handle (verb :: args)).call).2)) →
      HandledRight host logLevel text supplied handled := by
    intro handled hlevel hpassed hfailing
    refine ⟨fun hchanged => absurd hlevel hchanged, ?_, ?_, ?_⟩
    · intro _ _ verb' args' hwords' hlog _
      cases hwords.symm.trans hwords'
      exact absurd hlog hverb
    · intro _ verb' args' hwords' _
      cases hwords.symm.trans hwords'
      exact hpassed
    · intro handle' hhandle' tokens htokens hfails
      cases hhandle.symm.trans hhandle'
      cases hpassed.symm.trans htokens
      exact hfailing hfails
  rw [dispatch, if_neg hverb]
  dsimp only
  rw [handleUserModuleCommand]
  dsimp only
  by_cases hfails : (callUserModuleCommandHandler (handle (verb :: args)).call).1 ≠ rcZisauxOk
  · rw [if_pos hfails]
    cases supplied with
    | false =>
      constructor
      · rintro ⟨handled, hhandled, -⟩
        cases hhandled
      · intro h
        exact absurd (h hfails).1 nofun
    | true =>
      constructor
      · rintro ⟨handled, hhandled, right⟩ _
        cases hhandled
        have hreason := (right.failing handle hhandle _ rfl hfails).2 rfl
        exact ⟨rfl, (Option.some_inj.mp hreason).symm⟩
      · intro h
        refine ⟨_, rfl, hpassedRight _ rfl rfl fun _ => ⟨rfl, fun _ => ?_⟩⟩
        exact congrArg some (h hfails).2.symm
  · rw [if_neg hfails]
    constructor
    · intro _ h
      exact absurd h hfails
    · intro _
      cases supplied with
      | false | true => exact ⟨_, rfl, hpassedRight _ rfl rfl fun h => absurd h hfails⟩

/-- What is asked of a command with these words. -/
theorem commandFine_cons {handle : List Text → Reply} (hhandle : host.handleCommand = some handle)
    (hwords : words ' ' text = verb :: args) :
    CommandFine host text supplied ↔
      (Equals verb "LOG" → StorageGiven host text → ∀ component level,
        args = [component, level] → Equals component "STC" → (levelNamed level).isSome = true) ∧
      (¬ Equals verb "LOG" → StorageGiven host text ∧ ((handle (verb :: args)).Fails →
        supplied = true ∧ (callUserModuleCommandHandler (handle (verb :: args)).call).2 = 0)) := by
  constructor
  · intro fine
    exact fine handle hhandle verb args hwords
  · intro h handle' hhandle' verb' args' hwords'
    cases hhandle.symm.trans hhandle'
    cases hwords.symm.trans hwords'
    exact h

/-- LOG is handled right where it gets no storage, or names a level for a known component. -/
theorem handled_log_iff {handle : List Text → Reply} (hhandle : host.handleCommand = some handle)
    (hwords : words ' ' text = verb :: args) (hverb : Equals verb "LOG") :
    (∃ handled, handleAuxCommand host supplied logLevel text = .ok handled ∧
        HandledRight host logLevel text supplied handled) ↔
      (StorageGiven host text → ∀ component level, args = [component, level] →
        Equals component "STC" → (levelNamed level).isSome = true) := by
  have hsome : host.handleCommand.isSome = true := Option.isSome_of_eq_some hhandle
  by_cases hgiven : StorageGiven host text
  · rw [handleAuxCommand_dispatch hgiven hhandle hwords, dispatch, if_pos hverb]
    constructor
    · rintro ⟨handled, hhandled, right⟩ _
      cases hhandled
      exact (log_right_iff hsome hgiven hwords hverb).mp right
    · intro h
      exact ⟨_, rfl, (log_right_iff hsome hgiven hwords hverb).mpr (h hgiven)⟩
  · obtain ⟨handled, hhandled, idle⟩ := @handleAuxCommand_idle host logLevel text supplied
      (.inr (.inl hgiven))
    constructor
    · intro _ h
      exact absurd h hgiven
    · intro _
      refine ⟨handled, hhandled, handledRight_of_idle idle fun _ verb' args' hwords' => ?_⟩
      cases hwords.symm.trans hwords'
      exact ⟨hverb, hgiven⟩

/-- A command for the user module needs its storage to be passed. -/
theorem handled_user_iff {handle : List Text → Reply} (hhandle : host.handleCommand = some handle)
    (hwords : words ' ' text = verb :: args) (hverb : ¬ Equals verb "LOG") :
    (∃ handled, handleAuxCommand host supplied logLevel text = .ok handled ∧
        HandledRight host logLevel text supplied handled) ↔
      StorageGiven host text ∧ ((handle (verb :: args)).Fails → supplied = true ∧
        (callUserModuleCommandHandler (handle (verb :: args)).call).2 = 0) := by
  by_cases hgiven : StorageGiven host text
  · rw [handleAuxCommand_dispatch hgiven hhandle hwords, user_right_iff hhandle hwords hverb]
    exact (and_iff_right hgiven).symm
  · obtain ⟨handled, hhandled, idle⟩ := @handleAuxCommand_idle host logLevel text supplied
      (.inr (.inl hgiven))
    constructor
    · rintro ⟨handled', hhandled', right⟩
      cases hhandled.symm.trans hhandled'
      have hpassed := right.passed (Option.isSome_of_eq_some hhandle) verb args hwords hverb
      rw [idle.passed] at hpassed
      cases hpassed
    · intro h
      exact absurd h.1 hgiven

/-- A command is handled right where nothing of it goes wrong. -/
theorem handled_right_iff :
    (∃ handled, handleAuxCommand host supplied logLevel text = .ok handled ∧
        HandledRight host logLevel text supplied handled) ↔ CommandFine host text supplied := by
  cases hhandle : host.handleCommand with
  | none =>
    obtain ⟨handled, hhandled, idle⟩ := @handleAuxCommand_idle host logLevel text supplied
      (.inl hhandle)
    constructor
    · intro _ handle hsome
      rw [hhandle] at hsome
      cases hsome
    · intro _
      refine ⟨handled, hhandled, handledRight_of_idle idle fun hsome => ?_⟩
      rw [hhandle] at hsome
      cases hsome
  | some handle =>
    cases hwords : words ' ' text with
    | nil =>
      obtain ⟨handled, hhandled, idle⟩ := @handleAuxCommand_idle host logLevel text supplied
        (.inr (.inr hwords))
      constructor
      · intro _ _ _ verb args hcons
        rw [hwords] at hcons
        cases hcons
      · intro _
        refine ⟨handled, hhandled, handledRight_of_idle idle fun _ verb args hcons => ?_⟩
        rw [hwords] at hcons
        cases hcons
    | cons verb args =>
      rw [commandFine_cons hhandle hwords]
      by_cases hverb : Equals verb "LOG"
      · rw [handled_log_iff hhandle hwords hverb]
        exact ⟨fun h => ⟨fun _ => h, fun hnot => absurd hverb hnot⟩, fun h => h.1 hverb⟩
      · rw [handled_user_iff hhandle hwords hverb]
        exact ⟨fun h => ⟨fun hlog => absurd hlog hverb, fun _ => h⟩, fun h => h.2 hverb⟩

/-- A command is received from the console where it is not too long, and with every request. -/
theorem received_eq (origin : Origin) :
    received host logLevel text origin =
      if origin = .console ∧ textSize < text.length then none
      else some (handleAuxCommand host origin.supplied logLevel text) := by
  cases origin with
  | console =>
    simp only [received, handleModifyCommand, true_and]
    split
    next => rfl
    next => rfl
  | request =>
    rw [if_neg fun h => nomatch h.1]
    rfl

end

/-- A text is put into a command right exactly where it is not too long; and a command that is
received is handled right exactly where LOG, for a known component, names a known level, and any other
is split and does not fail in the user module. -/
theorem commands_right_iff (commandText : Text) (host : Host) (logLevel : LogLevel) (text : Text)
    (origin : Origin) :
    InitRight commandText ∧ CommandRight host logLevel text origin ↔
      commandText.length ≤ textSize ∧ (¬ (origin = .console ∧ textSize < text.length) →
        CommandFine host text origin.supplied) := by
  rw [init_iff, CommandRight, received_eq]
  refine and_congr_right fun _ => ?_
  by_cases hlong : origin = .console ∧ textSize < text.length
  · rw [if_pos hlong]
    exact ⟨fun _ h => absurd hlong h, fun _ => nofun⟩
  · rw [if_neg hlong, ← handled_right_iff]
    constructor
    · intro right _
      exact right _ rfl
    · intro h outcome houtcome
      cases houtcome
      exact h hlong

/-- A host that is given storage, and whose user module does nothing. -/
def sampleHost : Host := ⟨true, fun _ => true, some fun _ => ⟨.returned 0, .processed⟩⟩

/-- A level that is not known is consumed. -/
theorem unknown_level_consumed :
    ¬ (InitRight "LOG STC WARN".toList ∧
      CommandRight sampleHost .info "LOG STC WARN".toList .console) := by
  rintro ⟨-, right⟩
  obtain ⟨handled, hhandled, handledRight⟩ := right _ rfl
  obtain rfl := Except.ok.inj hhandled
  have hgiven : StorageGiven sampleHost "LOG STC WARN".toList := ⟨rfl, fun _ _ => rfl⟩
  have hwords : words ' ' "LOG STC WARN".toList = ["LOG".toList, "STC".toList, "WARN".toList] := by
    decide
  have hrejected := handledRight.rejected rfl hgiven _ _ hwords (by decide) (by
    rintro ⟨component, level, hargs, -, hknown⟩
    cases hargs
    revert hknown
    decide)
  revert hrejected
  decide

end Zss.Zisaux.Commands
