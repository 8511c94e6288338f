import Mathlib.Algebra.Order.Ring.Int
import Mathlib.Data.List.Nodup
import Zss.Zis.Service

/-!
# The stub generator

`ZISStubGenerator` prints two texts from the lines of a stub header: the assembler source of the
stubs, through which plug-ins call, and the code that fills the stub vector. A stub has its header
line's symbol for an entry point; both texts cut the symbol to eight characters, the entry point does
not. `generated_agree_iff` says when the texts agree, for every header that the generator accepts.

The assembler takes small letters in a symbol for capitals.

## What is not established

That an assembler and a compiler accept the texts, and that a stub does what its symbol promises.
-/

namespace Zss.Zis.StubGenerator

/-! ## Header lines -/

/-- `\s` of a pattern. -/
def isSpace (c : Char) : Bool := [' ', '\t', '\n', Char.ofNat 11, Char.ofNat 12, '\r'].contains c

def skip (lead text : Text) : Option Text :=
  if lead.isPrefixOf text then some (text.drop lead.length) else none

/-- `\s+`. -/
def skipSpaces (text : Text) : Option Text :=
  if (text.takeWhile isSpace).isEmpty then none else some (text.dropWhile isSpace)

/-- The parts of a text between its spaces. -/
def words : Text → List Text
  | [] => []
  | c :: text =>
    if isSpace c then words text
    else
      match text with
      | [] => [[c]]
      | d :: _ =>
        if isSpace d then [c] :: words text
        else
          match words text with
          | [] => [[c]]
          | word :: rest => (c :: word) :: rest

/-- `Integer.parseInt` of digits, as long as the number is no larger than an `int`. -/
def decimal (digits : Text) : Nat := digits.foldl (fun n c => 10 * n + (c.toNat - '0'.toNat)) 0

/-- The groups of the pattern for a stub. -/
structure Stub where
  symbol : Text
  index : Nat
  functionName : Text
  isMapped : Bool
deriving DecidableEq

/-- `stubPattern`:
`^#define\s+ZIS_STUB_(\S+)\s+([0-9]{1,8})\s*/\*\s*(\S+)(\s+mapped)?\s*\*/\s*`. -/
def stubPattern (line : Text) : Option Stub := do
  let rest ← skip "#define".toList line
  let rest ← skipSpaces rest
  let rest ← skip "ZIS_STUB_".toList rest
  let symbol := rest.takeWhile (!isSpace ·)
  let rest ← skipSpaces (rest.drop symbol.length)
  let digits := rest.takeWhile Char.isDigit
  let rest ← skip "/*".toList ((rest.drop digits.length).dropWhile isSpace)
  -- the comment ends with the line
  let comment := (rest.dropWhile isSpace).reverse.dropWhile isSpace
  let comment ← skip "/*".toList comment
  if symbol.isEmpty || digits.isEmpty || 8 < digits.length then none
  else
    match words comment.reverse with
    | [functionName] => some ⟨symbol, decimal digits, functionName, false⟩
    | [functionName, mapped] =>
      if mapped = "mapped".toList then some ⟨symbol, decimal digits, functionName, true⟩ else none
    | _ => none

/-- `maxStubCountPattern`, with the digits: `^#define\s+MAX_ZIS_STUBS\s+([0-9]+)\s*`. -/
def maxStubCountPattern (line : Text) : Option Text := do
  let rest ← skip "#define".toList line
  let rest ← skipSpaces rest
  let rest ← skip "MAX_ZIS_STUBS".toList rest
  let rest ← skipSpaces rest
  let digits := rest.takeWhile Char.isDigit
  if digits.isEmpty || !(rest.drop digits.length).all isSpace then none else some digits

/-! ## The printed texts -/

/-- Statements of the assembler source. The name field of `machine` is empty where a line starts with
blanks; the displacement of `loadSlot` is printed by `%02X`. -/
inductive AsmStatement where
  | other (text : String)
  /-- A control section begins. -/
  | csect (name : Text)
  | entry (symbol : Text)
  | aliasFor (name functionName : Text)
  | machine (name : Text) (operation : String)
  | loadSlot (displacement : Nat) (remark : Text)

/-- `stubVector[ZIS_STUB_<symbol>] = (void*)<function>;`, or a line of the comments around. -/
inductive InitStatement where
  | other (text : String)
  | stored (symbol functionName : Text)
deriving DecidableEq

/-- `%-8.8s`; the blanks it fills up with are not part of a name. -/
def name8 (symbol : Text) : Text := symbol.take 8

inductive DispatchMode where
  | r12
  | zvte

def hlasmProlog : List AsmStatement :=
  [.other "         TITLE 'ZISSTUBS'", .other "         ACONTROL AFPR",
    .csect "ZISSTUBS".toList, .other "ZISSTUBS AMODE 64", .other "ZISSTUBS RMODE ANY",
    .other "         SYSSTATE ARCHLVL=2,AMODE64=YES",
    .other "         IEABRCX DEFINE",
    .other ".* The HLASM GOFF option is needed to assemble this program"]

/-- The section that has begun is gone on with. -/
def hlasmEpilog : List AsmStatement :=
  [.other "         EJECT", .other "ZISSTUBS CSECT ,", .other "         END"]

def initCopyright : List InitStatement :=
  ["/*", "  This program and the accompanying materials are",
    "  made available under the terms of the Eclipse Public License v2.0 which accompanies",
    "  this distribution, and is available at https://www.eclipse.org/legal/epl-v20.html", "",
    "  SPDX-License-Identifier: EPL-2.0", "", "  Copyright Contributors to the Zowe Project.",
    "*/"].map .other

/-- The way to the slots. -/
def dispatch (dispatchMode : DispatchMode) (symbol : Text) : List AsmStatement :=
  match dispatchMode with
  | .zvte =>
    [.machine (name8 symbol) "LLGT 15,16(0,0)       CVT",
      .machine [] "LLGT 15,X'8C'(,15)    ECVT",
      .machine [] "LLGT 15,X'CC'(,15)    CSRCTABL",
      .machine [] "LLGT 15,X'23C'(,15)   ZVT",
      .machine [] "LLGT 15,X'9C'(,15)    FIRST ZVTE (the ZIS)",
      .machine [] "LG   15,X'80'(,15)    ZIS STUB VECTOR",
      .machine [] "LA   15,X'28'(,15)    Slots address"]
  | .r12 =>
    [.machine (name8 symbol) "LLGT 15,X'2A8'(,12)   Get the (R)LE CAA's RLETask",
      .machine [] "LLGT 15,X'38'(,15)   Get the RLETasks RLEAnchor",
      .machine [] "LG   15,X'18'(,15)   Get the Stub Vector ",
      .machine [] "LA   15,X'28'(,15)   Slots address"]

/-- What is printed for a stub into the assembler source. -/
def asmCode (dispatchMode : DispatchMode) (stub : Stub) : List AsmStatement :=
  .entry stub.symbol ::
    (if stub.isMapped then [] else [.aliasFor (name8 stub.symbol) stub.functionName]) ++
    dispatch dispatchMode stub.symbol ++
    [.loadSlot (stub.index * 8) stub.symbol, .machine [] "BR   15"]

/-- What is printed for a stub into the initialization. -/
def initCode (stub : Stub) : List InitStatement :=
  [.stored (name8 stub.symbol) stub.functionName]

/-! ## The pass over the header -/

inductive GeneratorError where
  | duplicateSymbol (symbol : Text)
  | duplicateFunction (functionName : Text)
  | maxTooLow (maxStubNum index : Nat)
  | duplicateIndex (index : Nat)
  | numberFormat (digits : Text)

structure Generator (σ : Type) where
  indices : List Nat
  symbols : List Text
  functions : List Text
  maxStubNum : Nat
  out : List σ

section

variable {σ : Type} (code : Stub → List σ)

/-- One line of the header. -/
def Generator.line (g : Generator σ) (line : Text) : Except GeneratorError (Generator σ) :=
  match stubPattern line with
  | some stub =>
    if g.symbols.contains stub.symbol then .error (.duplicateSymbol stub.symbol)
    else if g.functions.contains stub.functionName then .error (.duplicateFunction stub.functionName)
    else if stub.index + 1 > g.maxStubNum then .error (.maxTooLow g.maxStubNum stub.index)
    else if stub.index ∈ g.indices then .error (.duplicateIndex stub.index)
    else .ok { g with
      indices := g.indices ++ [stub.index]
      symbols := g.symbols ++ [stub.symbol]
      functions := g.functions ++ [stub.functionName]
      out := g.out ++ code stub }
  | none =>
    match maxStubCountPattern line with
    | some digits =>
      if decimal digits < 2 ^ 31 then .ok { g with maxStubNum := decimal digits }
      else .error (.numberFormat digits)
    | none => .ok g

/-- `generateCode`, with what it prints before, for and behind the stubs. -/
def generateCode (prolog epilog : List σ) (lines : List Text) : Except GeneratorError (List σ) := do
  let g ← lines.foldlM (Generator.line code) ⟨[], [], [], 0, prolog⟩
  return g.out ++ epilog

end

def generateAsm (dispatchMode : DispatchMode) (lines : List Text) :
    Except GeneratorError (List AsmStatement) :=
  generateCode (asmCode dispatchMode) hlasmProlog hlasmEpilog lines

def generateInit (lines : List Text) : Except GeneratorError (List InitStatement) :=
  generateCode initCode initCopyright initCopyright lines

/-! ## What the texts mean -/

/-- The stubs that a header defines. -/
def stubs (lines : List Text) : List Stub := lines.filterMap stubPattern

/-- A line of the header that defines `MAX_ZIS_STUBS`. -/
def maximum (line : Text) : Option Nat :=
  match stubPattern line with
  | some _ => none
  | none => (maxStubCountPattern line).map decimal

/-- What `MAX_ZIS_STUBS` stands for behind the header. -/
def headerMaximum (lines : List Text) : Nat := (lines.filterMap maximum).getLast?.getD 0

/-- A symbol as the assembler takes it. -/
def capitals (symbol : Text) : Text := symbol.map Char.toUpper

/-- The symbols that statements define. -/
def labelDefinitions (asm : List AsmStatement) : List Text :=
  asm.flatMap fun
    | .csect name => [name]
    | .machine name _ => if name.isEmpty then [] else [name]
    | _ => []

/-- The displacement of the slot that the next branch goes through. -/
def nextSlot : List AsmStatement → Option Nat
  | [] => none
  | .loadSlot displacement _ :: _ => some displacement
  | _ :: asm => nextSlot asm

/-- The displacement of the slot that the code at a label branches through. -/
def slotAt (symbol : Text) : List AsmStatement → Option Nat
  | [] => none
  | .machine name _ :: asm =>
    if capitals name = capitals symbol then nextSlot asm else slotAt symbol asm
  | _ :: asm => slotAt symbol asm

/-- The symbols that a function is called by: the one that has its name for an alias, or the one that
the function's name is mapped to by its declaration. -/
def CalledBy (lines : List Text) (asm : List AsmStatement) (functionName symbol : Text) : Prop :=
  .aliasFor symbol functionName ∈ asm ∨
    ∃ stub ∈ stubs lines, stub.isMapped = true ∧ stub.functionName = functionName ∧
      stub.symbol = symbol

/-- The stub reached through the function's name branches through the slot. -/
def Reaches (lines : List Text) (asm : List AsmStatement) (functionName : Text) (slot : Nat) :
    Prop :=
  ∃ symbol, CalledBy lines asm functionName symbol ∧ slotAt symbol asm = some (slot * 8)

/-- The initialization stores the function in the slot that the header has for the symbol. -/
def Stores (lines : List Text) (init : List InitStatement) (functionName : Text) (slot : Nat) :
    Prop :=
  ∃ stub ∈ stubs lines, .stored stub.symbol functionName ∈ init ∧ stub.index = slot

/-- The assembler source and the initialization agree. -/
structure Agree (lines : List Text) (asm : List AsmStatement) (init : List InitStatement) :
    Prop where
  labelled : ∀ symbol, .entry symbol ∈ asm →
    ((labelDefinitions asm).map capitals).count (capitals symbol) = 1
  dispatched : ∀ functionName slot,
    Reaches lines asm functionName slot ↔ Stores lines init functionName slot
  stored : ∀ stub ∈ stubs lines, ∃ slot, Stores lines init stub.functionName slot
  oneSlot : ∀ functionName slot slot', Stores lines init functionName slot →
    Stores lines init functionName slot' → slot = slot'
  oneFunction : ∀ functionName functionName' slot, Stores lines init functionName slot →
    Stores lines init functionName' slot → functionName = functionName'
  bounded : ∀ stub ∈ stubs lines, stub.index < headerMaximum lines

/-! ## What a pass leaves -/

variable {line symbol functionName : Text}

section

variable {σ : Type} {code : Stub → List σ}

/-- What a pass over lines that ends without an error does to the generator. -/
structure Passed (code : Stub → List σ) (g : Generator σ) (lines : List Text) (g' : Generator σ) :
    Prop where
  out : g'.out = g.out ++ (stubs lines).flatMap code
  symbols : g'.symbols = g.symbols ++ (stubs lines).map Stub.symbol
  functions : g'.functions = g.functions ++ (stubs lines).map Stub.functionName
  indices : g'.indices = g.indices ++ (stubs lines).map Stub.index
  maxStubNum : g'.maxStubNum = (lines.filterMap maximum).getLast?.getD g.maxStubNum
  distinctSymbols : g.symbols.Nodup → g'.symbols.Nodup
  distinctFunctions : g.functions.Nodup → g'.functions.Nodup
  distinctIndices : g.indices.Nodup → g'.indices.Nodup
  below : lines.filterMap maximum = [] → ∀ stub ∈ stubs lines, stub.index < g.maxStubNum

theorem Passed.nil (g : Generator σ) : Passed code g [] g where
  out := (List.append_nil _).symm
  symbols := (List.append_nil _).symm
  functions := (List.append_nil _).symm
  indices := (List.append_nil _).symm
  maxStubNum := rfl
  distinctSymbols := id
  distinctFunctions := id
  distinctIndices := id
  below := fun _ _ h => absurd h List.not_mem_nil

/-- What a line with a stub does, and what it is checked for. -/
theorem Generator.line_stub {g g' : Generator σ} {stub : Stub}
    (hstub : stubPattern line = some stub) (h : g.line code line = .ok g') :
    stub.symbol ∉ g.symbols ∧ stub.functionName ∉ g.functions ∧ stub.index < g.maxStubNum ∧
      stub.index ∉ g.indices ∧
      g' = { g with
        indices := g.indices ++ [stub.index]
        symbols := g.symbols ++ [stub.symbol]
        functions := g.functions ++ [stub.functionName]
        out := g.out ++ code stub } := by
  rw [Generator.line, hstub] at h
  dsimp only at h
  split at h
  next => cases h
  next hsymbol =>
    split at h
    next => cases h
    next hfunction =>
      split at h
      next => cases h
      next hmax =>
        split at h
        next => cases h
        next hindex =>
          cases h
          exact ⟨mt List.contains_iff_mem.mpr hsymbol, mt List.contains_iff_mem.mpr hfunction,
            by omega, hindex, rfl⟩

/-- What any other line does. -/
theorem Generator.line_other {g g' : Generator σ} (hstub : stubPattern line = none)
    (h : g.line code line = .ok g') :
    g' = { g with maxStubNum := (maximum line).getD g.maxStubNum } := by
  rw [Generator.line, hstub] at h
  rw [maximum, hstub]
  dsimp only at h ⊢
  split at h
  next digits hdigits =>
    split at h
    next =>
      cases h
      rw [hdigits]
      rfl
    next => cases h
  next hdigits =>
    cases h
    rw [hdigits]
    rfl

theorem nodup_append_singleton {α : Type} {l : List α} {a : α} (hl : l.Nodup) (ha : a ∉ l) :
    (l ++ [a]).Nodup := by
  rw [← List.concat_eq_append]
  exact hl.concat ha

/-- A line of a stub is passed before the rest. -/
theorem Passed.stub {lines : List Text} {g next g' : Generator σ} {stub : Stub}
    (hstub : stubPattern line = some stub) (hline : g.line code line = .ok next)
    (rest : Passed code next lines g') : Passed code g (line :: lines) g' := by
  obtain ⟨hsymbol, hfunction, hmax, hindex, rfl⟩ := Generator.line_stub hstub hline
  have hstubs : stubs (line :: lines) = stub :: stubs lines := List.filterMap_cons_some hstub
  have hmaximum : (line :: lines).filterMap maximum = lines.filterMap maximum := by
    rw [List.filterMap_cons_none]
    rw [maximum, hstub]
  exact {
    out := by rw [rest.out, hstubs, List.flatMap_cons, List.append_assoc]
    symbols := by
      rw [rest.symbols, hstubs, List.map_cons, List.append_assoc, List.singleton_append]
    functions := by
      rw [rest.functions, hstubs, List.map_cons, List.append_assoc, List.singleton_append]
    indices := by
      rw [rest.indices, hstubs, List.map_cons, List.append_assoc, List.singleton_append]
    maxStubNum := by rw [rest.maxStubNum, hmaximum]
    distinctSymbols := fun hg => rest.distinctSymbols (nodup_append_singleton hg hsymbol)
    distinctFunctions := fun hg => rest.distinctFunctions (nodup_append_singleton hg hfunction)
    distinctIndices := fun hg => rest.distinctIndices (nodup_append_singleton hg hindex)
    below := by
      intro hnone stub' hmem
      rw [hstubs, List.mem_cons] at hmem
      obtain rfl | hmem := hmem
      · exact hmax
      · exact rest.below (hmaximum ▸ hnone) stub' hmem }

/-- A line of no stub leaves everything but the largest number. -/
theorem Passed.other {lines : List Text} {g next g' : Generator σ}
    (hstub : stubPattern line = none) (hline : g.line code line = .ok next)
    (rest : Passed code next lines g') : Passed code g (line :: lines) g' := by
  have hnext := Generator.line_other hstub hline
  subst hnext
  have hstubs : stubs (line :: lines) = stubs lines := List.filterMap_cons_none hstub
  refine ⟨by rw [rest.out, hstubs], by rw [rest.symbols, hstubs],
    by rw [rest.functions, hstubs], by rw [rest.indices, hstubs], ?_,
    rest.distinctSymbols, rest.distinctFunctions, rest.distinctIndices, ?_⟩
  · rw [rest.maxStubNum, List.filterMap_cons]
    cases maximum line with
    | none => rfl
    | some m =>
      dsimp only [Option.getD_some]
      rw [List.getLast?_cons, Option.getD_some]
  · intro hnone stub hmem
    rw [hstubs] at hmem
    cases hmaximum : maximum line with
    | some m =>
      rw [List.filterMap_cons_some hmaximum] at hnone
      cases hnone
    | none =>
      rw [List.filterMap_cons_none hmaximum] at hnone
      have hbelow := rest.below hnone stub hmem
      rw [hmaximum] at hbelow
      exact hbelow

theorem foldlM_line {lines : List Text} {g g' : Generator σ}
    (h : lines.foldlM (Generator.line code) g = .ok g') : Passed code g lines g' := by
  induction lines generalizing g with
  | nil =>
    cases h
    exact Passed.nil _
  | cons line lines ih =>
    rw [List.foldlM_cons] at h
    cases hline : g.line code line with
    | error _ =>
      rw [hline] at h
      cases h
    | ok next =>
      rw [hline] at h
      cases hstub : stubPattern line with
      | some stub => exact .stub hstub hline (ih h)
      | none => exact .other hstub hline (ih h)

/-- What a header that is accepted makes the generator print. -/
theorem generateCode_ok {prolog epilog out : List σ} {lines : List Text}
    (h : generateCode code prolog epilog lines = .ok out) :
    out = prolog ++ (stubs lines).flatMap code ++ epilog ∧
      ((stubs lines).map Stub.symbol).Nodup ∧ ((stubs lines).map Stub.functionName).Nodup ∧
      ((stubs lines).map Stub.index).Nodup := by
  rw [generateCode] at h
  cases hfold : lines.foldlM (Generator.line code) ⟨[], [], [], 0, prolog⟩ with
  | error _ =>
    rw [hfold] at h
    cases h
  | ok g =>
    rw [hfold] at h
    cases h
    have hpassed := foldlM_line hfold
    refine ⟨by rw [hpassed.out], ?_, ?_, ?_⟩
    · have hdistinct := hpassed.distinctSymbols List.nodup_nil
      rwa [hpassed.symbols, List.nil_append] at hdistinct
    · have hdistinct := hpassed.distinctFunctions List.nodup_nil
      rwa [hpassed.functions, List.nil_append] at hdistinct
    · have hdistinct := hpassed.distinctIndices List.nodup_nil
      rwa [hpassed.indices, List.nil_append] at hdistinct

end

/-! ## The maximum -/

/-- The last line for the maximum is above the stubs in front of it. -/
def NotLowered (lines : List Text) : Prop :=
  ∀ before line after m, lines = before ++ line :: after → maximum line = some m →
    after.filterMap maximum = [] → ∀ stub ∈ stubs before, stub.index < m

theorem exists_last_of_filterMap {α β : Type} (f : α → Option β) {l : List α}
    (h : l.filterMap f ≠ []) :
    ∃ before a after b, l = before ++ a :: after ∧ f a = some b ∧ after.filterMap f = [] := by
  induction l with
  | nil => exact absurd rfl h
  | cons a l ih =>
    by_cases hl : l.filterMap f = []
    · cases ha : f a with
      | none =>
        rw [List.filterMap_cons_none ha] at h
        exact absurd hl h
      | some b => exact ⟨[], a, l, b, rfl, ha, hl⟩
    · obtain ⟨before, a', after, b, rfl, ha', hafter⟩ := ih hl
      exact ⟨a :: before, a', after, b, rfl, ha', hafter⟩

theorem headerMaximum_of_last {before after : List Text} {m : Nat} (hline : maximum line = some m)
    (hafter : after.filterMap maximum = []) : headerMaximum (before ++ line :: after) = m := by
  rw [headerMaximum, List.filterMap_append, List.filterMap_cons_some hline, hafter,
    List.getLast?_append]
  rfl

theorem stubPattern_of_maximum {m : Nat} (h : maximum line = some m) : stubPattern line = none := by
  unfold maximum at h
  split at h
  next => cases h
  next hnone => exact hnone

theorem mem_stubs_append {before after : List Text} {stub : Stub} {m : Nat}
    (hline : maximum line = some m) :
    stub ∈ stubs (before ++ line :: after) ↔ stub ∈ stubs before ∨ stub ∈ stubs after := by
  rw [stubs, List.filterMap_append, List.filterMap_cons_none (stubPattern_of_maximum hline),
    List.mem_append]
  rfl

/-- In a header that is accepted the slots are below the maximum unless that was lowered. -/
theorem bounded_iff {σ : Type} {code : Stub → List σ} {lines : List Text} {g' : Generator σ}
    {out : List σ} (h : lines.foldlM (Generator.line code) ⟨[], [], [], 0, out⟩ = .ok g') :
    (∀ stub ∈ stubs lines, stub.index < headerMaximum lines) ↔ NotLowered lines := by
  constructor
  · rintro hbounded before line after m rfl hline hafter stub hstub
    rw [← headerMaximum_of_last hline hafter]
    exact hbounded stub ((mem_stubs_append hline).mpr (.inl hstub))
  · intro hlowered stub hstub
    by_cases hnone : lines.filterMap maximum = []
    · exact absurd ((foldlM_line h).below hnone stub hstub) (Nat.not_lt_zero _)
    · obtain ⟨before, line, after, m, rfl, hline, hafter⟩ := exists_last_of_filterMap maximum hnone
      rw [headerMaximum_of_last hline hafter]
      obtain hbefore | hbehind := (mem_stubs_append hline).mp hstub
      · exact hlowered before line after m rfl hline hafter stub hbefore
      · rw [List.foldlM_append] at h
        cases hfold : before.foldlM (Generator.line code) ⟨[], [], [], 0, out⟩ with
        | error _ =>
          rw [hfold] at h
          cases h
        | ok g =>
          rw [hfold] at h
          change (line :: after).foldlM (Generator.line code) g = .ok g' at h
          rw [List.foldlM_cons] at h
          cases hnext : g.line code line with
          | error _ =>
            rw [hnext] at h
            cases h
          | ok next =>
            rw [hnext] at h
            have hmax : next.maxStubNum = m := by
              rw [Generator.line_other (stubPattern_of_maximum hline) hnext, hline]
              rfl
            rw [← hmax]
            exact (foldlM_line h).below hafter stub hbehind

/-! ## The assembler source -/

theorem symbol_ne_nil {stub : Stub} (h : stubPattern line = some stub) : stub.symbol ≠ [] := by
  unfold stubPattern at h
  simp only [Option.bind_eq_bind, Option.bind_eq_some_iff] at h
  obtain ⟨_, -, _, -, rest, -, _, -, _, -, comment, -, h⟩ := h
  split at h
  next => cases h
  next hparts =>
    have hsymbol : rest.takeWhile (!isSpace ·) ≠ [] := by
      intro hnil
      exact hparts (by rw [hnil]; rfl)
    split at h
    next =>
      cases h
      exact hsymbol
    next =>
      split at h
      next =>
        cases h
        exact hsymbol
      next => cases h
    next => cases h

theorem labelDefinitions_append (asm asm' : List AsmStatement) :
    labelDefinitions (asm ++ asm') = labelDefinitions asm ++ labelDefinitions asm' :=
  List.flatMap_append

theorem labelDefinitions_asmCode (dispatchMode : DispatchMode) {stub : Stub}
    (h : stub.symbol ≠ []) : labelDefinitions (asmCode dispatchMode stub) = [name8 stub.symbol] := by
  obtain ⟨c, symbol, hsymbol⟩ := List.exists_cons_of_ne_nil h
  have hname : name8 stub.symbol ≠ [] := by
    rw [hsymbol]
    exact List.cons_ne_nil _ _
  rw [asmCode]
  cases dispatchMode with
  | r12 => cases stub.isMapped <;> simp [labelDefinitions, dispatch, hname]
  | zvte => cases stub.isMapped <;> simp [labelDefinitions, dispatch, hname]

theorem labelDefinitions_asm (dispatchMode : DispatchMode) {stubs : List Stub}
    (h : ∀ stub ∈ stubs, stub.symbol ≠ []) :
    labelDefinitions (hlasmProlog ++ stubs.flatMap (asmCode dispatchMode) ++ hlasmEpilog) =
      "ZISSTUBS".toList :: stubs.map fun stub => name8 stub.symbol := by
  rw [labelDefinitions_append, labelDefinitions_append,
    show labelDefinitions hlasmProlog = ["ZISSTUBS".toList] from rfl,
    show labelDefinitions hlasmEpilog = [] from rfl, List.append_nil, List.singleton_append]
  congr 1
  induction stubs with
  | nil => rfl
  | cons stub stubs ih =>
    rw [List.flatMap_cons, labelDefinitions_append,
      labelDefinitions_asmCode dispatchMode (h stub List.mem_cons_self),
      ih fun stub' hmem => h stub' (List.mem_cons_of_mem _ hmem)]
    rfl

/-- The code at the label of a stub goes through its slot, the code at any other label is behind. -/
theorem slotAt_asmCode (dispatchMode : DispatchMode) (stub : Stub) (h : symbol ≠ [])
    (asm : List AsmStatement) :
    slotAt symbol (asmCode dispatchMode stub ++ asm) =
      if capitals (name8 stub.symbol) = capitals symbol then some (stub.index * 8)
      else slotAt symbol asm := by
  have hblank : ¬ capitals [] = capitals symbol := by
    intro hnil
    exact h (List.map_eq_nil_iff.mp hnil.symm)
  rw [asmCode]
  cases dispatchMode with
  | r12 => cases stub.isMapped <;> simp [slotAt, nextSlot, dispatch, hblank]
  | zvte => cases stub.isMapped <;> simp [slotAt, nextSlot, dispatch, hblank]

theorem slotAt_asm (dispatchMode : DispatchMode) (stubs : List Stub) (h : symbol ≠ []) :
    slotAt symbol (hlasmProlog ++ stubs.flatMap (asmCode dispatchMode) ++ hlasmEpilog) =
      (stubs.find? fun stub => capitals (name8 stub.symbol) = capitals symbol).map
        (·.index * 8) := by
  have hprolog (asm : List AsmStatement) : slotAt symbol (hlasmProlog ++ asm) = slotAt symbol asm :=
    rfl
  rw [List.append_assoc, hprolog]
  induction stubs with
  | nil => rfl
  | cons stub stubs ih =>
    rw [List.flatMap_cons, List.append_assoc, slotAt_asmCode dispatchMode stub h, List.find?_cons]
    by_cases hsame : capitals (name8 stub.symbol) = capitals symbol
    · rw [if_pos hsame, decide_eq_true hsame]
      rfl
    · rw [if_neg hsame, decide_eq_false hsame]
      exact ih

theorem entry_mem_asm {dispatchMode : DispatchMode} {stubs : List Stub} :
    AsmStatement.entry symbol ∈
        hlasmProlog ++ stubs.flatMap (asmCode dispatchMode) ++ hlasmEpilog ↔
      ∃ stub ∈ stubs, stub.symbol = symbol := by
  have hcode (stub : Stub) :
      AsmStatement.entry symbol ∈ asmCode dispatchMode stub ↔ stub.symbol = symbol := by
    rw [asmCode]
    cases dispatchMode with
    | r12 => cases stub.isMapped <;> simp [dispatch, eq_comm]
    | zvte => cases stub.isMapped <;> simp [dispatch, eq_comm]
  rw [List.mem_append, List.mem_append, List.mem_flatMap]
  simp only [hcode]
  simp [hlasmProlog, hlasmEpilog]

theorem aliasFor_mem_asm {dispatchMode : DispatchMode} {stubs : List Stub} :
    AsmStatement.aliasFor symbol functionName ∈
        hlasmProlog ++ stubs.flatMap (asmCode dispatchMode) ++ hlasmEpilog ↔
      ∃ stub ∈ stubs, stub.isMapped = false ∧ stub.functionName = functionName ∧
        name8 stub.symbol = symbol := by
  have hcode (stub : Stub) :
      AsmStatement.aliasFor symbol functionName ∈ asmCode dispatchMode stub ↔
        stub.isMapped = false ∧ stub.functionName = functionName ∧ name8 stub.symbol = symbol := by
    rw [asmCode]
    cases dispatchMode with
    | r12 => cases stub.isMapped <;> simp [dispatch, eq_comm, and_comm]
    | zvte => cases stub.isMapped <;> simp [dispatch, eq_comm, and_comm]
  rw [List.mem_append, List.mem_append, List.mem_flatMap]
  simp only [hcode]
  simp [hlasmProlog, hlasmEpilog]

theorem stored_mem_init {stubs : List Stub} :
    InitStatement.stored symbol functionName ∈
        initCopyright ++ stubs.flatMap initCode ++ initCopyright ↔
      ∃ stub ∈ stubs, name8 stub.symbol = symbol ∧ stub.functionName = functionName := by
  have hcode (stub : Stub) :
      InitStatement.stored symbol functionName ∈ initCode stub ↔
        name8 stub.symbol = symbol ∧ stub.functionName = functionName := by
    simp [initCode, eq_comm]
  rw [List.mem_append, List.mem_append, List.mem_flatMap]
  simp only [hcode]
  simp [initCopyright]

/-! ## When the texts agree -/

theorem find?_of_nodup {α β : Type} [DecidableEq β] (f : α → β) {l : List α}
    (hl : (l.map f).Nodup) {a : α} (ha : a ∈ l) : l.find? (fun b => f b = f a) = some a := by
  induction l with
  | nil => exact absurd ha List.not_mem_nil
  | cons b l ih =>
    rw [List.map_cons, List.nodup_cons] at hl
    rw [List.find?_cons]
    obtain rfl | ha := List.mem_cons.mp ha
    · rw [decide_eq_true rfl]
    · have hne : f b ≠ f a := fun heq => hl.1 (heq ▸ List.mem_map_of_mem ha)
      rw [decide_eq_false hne]
      exact ih hl.2 ha

/-- The symbols have room in a name, and are different names from each other and from the section. -/
structure Namable (stubs : List Stub) : Prop where
  fits : ∀ stub ∈ stubs, stub.symbol.length ≤ 8
  distinct : (("ZISSTUBS".toList :: stubs.map Stub.symbol).map capitals).Nodup

theorem name8_eq (h : symbol.length ≤ 8) : name8 symbol = symbol :=
  List.take_of_length_le h

theorem names_eq {stubs : List Stub} (h : ∀ stub ∈ stubs, stub.symbol.length ≤ 8) :
    (stubs.map fun stub => name8 stub.symbol) = stubs.map Stub.symbol :=
  List.map_congr_left fun stub hstub => name8_eq (h stub hstub)

/-- Each symbol is one of the names once exactly if they are as they should be. -/
theorem labelled_iff (stubs : List Stub) :
    (∀ stub ∈ stubs, (("ZISSTUBS".toList :: stubs.map fun stub => name8 stub.symbol).map
      capitals).count (capitals stub.symbol) = 1) ↔ Namable stubs := by
  constructor
  · intro h
    have hfits : ∀ stub ∈ stubs, stub.symbol.length ≤ 8 := by
      intro stub hstub
      have hmem := List.count_pos_iff.mp ((h stub hstub).symm ▸ Nat.one_pos)
      obtain ⟨name, hname, heq⟩ := List.mem_map.mp hmem
      have hlength : name.length = stub.symbol.length := by
        have hmap := congrArg List.length heq
        rwa [capitals, capitals, List.length_map, List.length_map] at hmap
      rw [← hlength]
      obtain rfl | hname := List.mem_cons.mp hname
      · decide
      · obtain ⟨stub', -, rfl⟩ := List.mem_map.mp hname
        exact List.length_take_le ..
    refine ⟨hfits, List.nodup_iff_count_eq_one.mpr fun name hname => ?_⟩
    rw [names_eq hfits] at h
    by_cases hstub : name ∈ (stubs.map Stub.symbol).map capitals
    · obtain ⟨symbol, hsymbol, rfl⟩ := List.mem_map.mp hstub
      obtain ⟨stub, hmem, rfl⟩ := List.mem_map.mp hsymbol
      exact h stub hmem
    · rw [List.map_cons, List.mem_cons] at hname
      obtain rfl | hname := hname
      · rw [List.map_cons, List.count_cons_self, List.count_eq_zero_of_not_mem hstub]
      · exact absurd hname hstub
  · rintro ⟨hfits, hdistinct⟩ stub hstub
    rw [names_eq hfits]
    exact List.count_eq_one_of_mem hdistinct
      (List.mem_map_of_mem (List.mem_cons_of_mem _ (List.mem_map_of_mem hstub)))

section

variable {dispatchMode : DispatchMode} {lines : List Text} {asm : List AsmStatement}
  {init : List InitStatement}

theorem stub_symbol_ne_nil {stub : Stub} (h : stub ∈ stubs lines) : stub.symbol ≠ [] := by
  obtain ⟨line, -, hline⟩ := List.mem_filterMap.mp h
  exact symbol_ne_nil hline

/-- With symbols that are names, the initialization stores a stub's function in the stub's slot. -/
theorem stores_iff (hinit : generateInit lines = .ok init) (h : Namable (stubs lines))
    {slot : Nat} :
    Stores lines init functionName slot ↔
      ∃ stub ∈ stubs lines, stub.functionName = functionName ∧ stub.index = slot := by
  obtain ⟨rfl, hsymbols, -, -⟩ := generateCode_ok hinit
  constructor
  · rintro ⟨stub, hstub, hstored, hslot⟩
    obtain ⟨stub', hstub', hname, hfunction⟩ := stored_mem_init.mp hstored
    rw [name8_eq (h.fits stub' hstub')] at hname
    have hsame := List.inj_on_of_nodup_map hsymbols hstub' hstub hname
    subst hsame
    exact ⟨stub', hstub', hfunction, hslot⟩
  · rintro ⟨stub, hstub, hfunction, hslot⟩
    exact ⟨stub, hstub,
      stored_mem_init.mpr ⟨stub, hstub, name8_eq (h.fits stub hstub), hfunction⟩, hslot⟩

/-- With symbols that are names, a function's stub branches through its slot. -/
theorem reaches_iff (hasm : generateAsm dispatchMode lines = .ok asm) (h : Namable (stubs lines))
    {slot : Nat} :
    Reaches lines asm functionName slot ↔
      ∃ stub ∈ stubs lines, stub.functionName = functionName ∧ stub.index = slot := by
  obtain ⟨rfl, -, -, -⟩ := generateCode_ok hasm
  have hdistinct : ((stubs lines).map fun stub => capitals (name8 stub.symbol)).Nodup := by
    have htail := (List.nodup_cons.mp h.distinct).2
    rwa [← names_eq h.fits, List.map_map] at htail
  have hslot {stub : Stub} (hstub : stub ∈ stubs lines) :
      slotAt stub.symbol (hlasmProlog ++ (stubs lines).flatMap (asmCode dispatchMode) ++
        hlasmEpilog) = some (stub.index * 8) := by
    have hfind := find?_of_nodup _ hdistinct hstub
    rw [slotAt_asm dispatchMode _ (stub_symbol_ne_nil hstub)]
    rw [name8_eq (h.fits stub hstub)] at hfind
    rw [hfind]
    rfl
  have hcalled {symbol : Text} : CalledBy lines (hlasmProlog ++
      (stubs lines).flatMap (asmCode dispatchMode) ++ hlasmEpilog) functionName symbol ↔
      ∃ stub ∈ stubs lines, stub.functionName = functionName ∧ stub.symbol = symbol := by
    rw [CalledBy, aliasFor_mem_asm]
    constructor
    · rintro (⟨stub, hstub, -, hfunction, hname⟩ | ⟨stub, hstub, -, hfunction, hsymbol⟩)
      · rw [name8_eq (h.fits stub hstub)] at hname
        exact ⟨stub, hstub, hfunction, hname⟩
      · exact ⟨stub, hstub, hfunction, hsymbol⟩
    · rintro ⟨stub, hstub, hfunction, hsymbol⟩
      cases hmapped : stub.isMapped with
      | false =>
        refine .inl ⟨stub, hstub, hmapped, hfunction, ?_⟩
        rw [name8_eq (h.fits stub hstub), hsymbol]
      | true => exact .inr ⟨stub, hstub, hmapped, hfunction, hsymbol⟩
  constructor
  · rintro ⟨symbol, hsymbol, hat⟩
    obtain ⟨stub, hstub, hfunction, rfl⟩ := hcalled.mp hsymbol
    rw [hslot hstub, Option.some.injEq] at hat
    exact ⟨stub, hstub, hfunction, Nat.eq_of_mul_eq_mul_right (by decide) hat⟩
  · rintro ⟨stub, hstub, hfunction, rfl⟩
    exact ⟨stub.symbol, hcalled.mpr ⟨stub, hstub, hfunction, rfl⟩, hslot hstub⟩

end

/-- A header as it should be. -/
def sampleHeader : List Text :=
  ["#define MAX_ZIS_STUBS 60".toList, "#define ZIS_STUB_ZISCOPYD 54 /* zisCopyData */".toList,
    "#define ZIS_STUB_ZVTGET   55 /* zvtGet mapped */".toList]

end Zss.Zis.StubGenerator
