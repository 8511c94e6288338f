import Mathlib.Algebra.Order.BigOperators.Group.List
import Mathlib.Algebra.Order.Ring.Nat
import Zss.Environment.DecodeKey
import Zss.Lib.JsonText

/-!
# Settings from the environment

`readEnvSettings` puts the variables with a prefix into one JSON text, in a buffer of fixed size, and
has it parsed. A variable is cut into its key and its value by `strtok`, the value is put into the
text as it is, and what room is left in the buffer is an unsigned difference. `settings_right_iff`
says for which environments the settings that are read are those of the variables.

The parser is code of another repository: it is an argument, and is taken to read JSON (`parse`).
Storage from `safeMalloc` is cleared, so that the copy of a variable ends where the variable does.

## What is not established

That the parser reads JSON: that it does is an assumption of the result. Variables that change while
they are read are left out.
-/

namespace Zss.Environment.Settings

open Zss.Lib.JsonText

/-! ## Variables -/

/-- A variable of an environment: its name is not empty and holds no `=`, and neither part holds the
character that ends a string. -/
structure Variable where
  name : Text
  value : Text
  name_ne : name ≠ []
  name_plain : '=' ∉ name
  name_text : nul ∉ name
  value_text : nul ∉ value

/-- An entry of `environ`. -/
def Variable.entry (v : Variable) : Text := v.name ++ '=' :: v.value

/-- `startsWith`. -/
def startsWith (pre str : Text) : Bool := pre.isPrefixOf str

/-- `strtok` with `=`: the token, and what is left for the next call. -/
def strtok (text : Text) : Option (Text × Text) :=
  let rest := text.dropWhile (· = '=')
  if rest = [] then none
  else some (rest.takeWhile (· ≠ '='), (rest.dropWhile (· ≠ '=')).drop 1)

/-- `splitEnvKeyValue`: the two entries of its array. -/
def splitEnvKeyValue (buf : Text) : Option Text × Option Text :=
  match strtok buf with
  | none => (none, none)
  | some (key, rest) => (some key, (strtok rest).map Prod.fst)

/-! ## Rows -/

/-- `isNumber`. -/
def isNumber (s : Text) : Bool := s.all Char.isDigit

/-- A value that `returnJSONRow` does not put into quotation marks. -/
def spliced (val : Text) : Bool :=
  isNumber val || val.head? = some '[' || val = "true".toList || val = "false".toList

/-- `returnJSONRow`, none for NULL. Its storage has room for the row. -/
def returnJsonRow (key val : Text) : Option Text :=
  if spliced val then some ('"' :: (key ++ '"' :: ':' :: val))
  else if val.head? = some '\x7b' then none
  else some ('"' :: (key ++ '"' :: ':' :: '"' :: (val ++ ['"'])))

/-! ## The buffer -/

/-- `sizeof(envJsonStr)`. -/
def bufferSize : Nat := 4096

/-- The variables of `envVarsToObject`: how many variables had a value, the position in the buffer,
what was written into the buffer from its beginning, and how many characters behind it. -/
structure Assembly where
  j : Nat
  pos : Nat
  cells : Text
  beyond : Nat

/-- What `snprintf` writes where it is given this size. -/
def snprintf (size : Nat) (s : Text) : Text := if size = 0 then [] else s.take (size - 1) ++ [nul]

/-- `sizeof(envJsonStr) - pos`, unsigned. -/
def remaining (pos : Nat) : Nat := (((bufferSize : Int) - pos) % 18446744073709551616).toNat

/-- `pos += snprintf(envJsonStr + pos, sizeof(envJsonStr) - pos, ...)`. -/
def Assembly.put (a : Assembly) (s : Text) : Assembly :=
  let written := snprintf (remaining a.pos) s
  { a with
    pos := a.pos + s.length
    cells := a.cells.take a.pos ++ written.take (bufferSize - a.pos)
    beyond := a.beyond + (written.length - (bufferSize - a.pos)) }

/-- A row is put, behind a comma where a variable came before. -/
def Assembly.add (a : Assembly) : Option Text → Assembly
  | none => a
  | some row => (if a.j > 1 then a.put ", ".toList else a).put row

def Assembly.start : Assembly := ⟨0, 0, [], 0⟩

section

variable (a2e : Char → Char)

/-- The key as it is printed: the string that `decodeEnvKey` writes. -/
def envKey (encodedKey : Text) : Text :=
  ((decodeEnvKey a2e (5 * encodedKey.length + 1) encodedKey).getD []).takeWhile (· ≠ nul)

/-- A round of the loop of `envVarsToObject`. -/
def visit (pre : Text) (a : Assembly) (v : Variable) : Assembly :=
  if startsWith pre v.entry then
    match splitEnvKeyValue v.entry with
    | (some key, some val) => { a with j := a.j + 1 }.add (returnJsonRow (envKey a2e key) val)
    | _ => a
  else a

/-- The buffer with the whole text. -/
def assembled (pre : Text) (environ : List Variable) : Assembly :=
  (environ.foldl (visit a2e pre) (Assembly.start.put "\x7b ".toList)).put " \x7d".toList

/-- The settings that are read, none for NULL, and how many characters were written behind the
buffer. -/
structure Outcome where
  envSettings : Option (List (Text × Value))
  beyond : Nat

/-- `envVarsToObject`. -/
def envVarsToObject (jsonParseString : Text → Option Value) (pre : Option Text)
    (environ : List Variable) : Outcome :=
  let a := assembled a2e (pre.getD []) environ
  { envSettings := (jsonParseString (a.cells.takeWhile (· ≠ nul))).bind Value.asObject
    beyond := a.beyond }

/-- `readEnvSettings`. -/
def readEnvSettings (jsonParseString : Text → Option Value) (pre : Option Text)
    (environ : List Variable) : Outcome :=
  envVarsToObject a2e jsonParseString pre environ

end

/-! ## What is meant -/

section

variable (rules : StringRules) (a2e : Char → Char)

/-- The value of a setting: a number, a boolean, or an array of such, where the text is one, and
otherwise the text. -/
def settingValue (text : Text) : Value :=
  match readValue rules (text.length + 1) text with
  | some (v, []) => if v.flat then v else .string text
  | _ => .string text

/-- The variable has the prefix. -/
def hasPrefix (pre : Option Text) (v : Variable) : Bool := (pre.getD []).isPrefixOf v.entry

/-- The settings of an environment: each variable with the prefix, under its decoded key. -/
def settings (pre : Option Text) (environ : List Variable) : List (Text × Value) :=
  (environ.filter (hasPrefix pre)).map fun v => (decoded a2e v.name, settingValue rules v.value)

/-- The settings are read, and nothing is written behind the buffer. -/
structure Reads (pre : Option Text) (environ : List Variable) (outcome : Outcome) : Prop where
  envSettings : outcome.envSettings = some (settings rules a2e pre environ)
  within : outcome.beyond = 0

/-- The settings of an environment are read as is meant: also of any part of it, so that no variable
makes a difference to the setting of another. -/
def Right (jsonParseString : Text → Option Value) (pre : Option Text) (environ : List Variable) :
    Prop :=
  ∀ part : List Variable, part.Sublist environ →
    Reads rules a2e pre part (readEnvSettings a2e jsonParseString pre part)

/-! ## When it is -/

/-- The text stands in the JSON text for its value: what is spliced is a number, a boolean or an
array of such, and what is put into quotation marks is another text without escapes. -/
def PlainValue (text : Text) : Prop :=
  match settingValue rules text with
  | .number _ => isNumber text = true
  | .string _ => isNumber text = false ∧ text.head? ≠ some '[' ∧ text.head? ≠ some '\x7b' ∧
      ∀ c ∈ text, rules.Itself c
  | _ => True

/-- The variable is not cut, and needs no escapes. -/
structure Plain (v : Variable) : Prop where
  key : ∀ c ∈ decoded a2e v.name, rules.Itself c
  value_ne : v.value ≠ []
  value_plain : '=' ∉ v.value
  value : PlainValue rules v.value

/-- The size of a variable in the text. -/
def rowSize (v : Variable) : Nat :=
  (decoded a2e v.name).length + v.value.length +
    match settingValue rules v.value with
    | .string _ => 5
    | _ => 3

/-- The size of the text. -/
def textSize (pre : Option Text) (environ : List Variable) : Nat :=
  2 + ((environ.filter (hasPrefix pre)).map fun v => rowSize rules a2e v + 2).sum

end

/-! ## Keys -/

theorem envKey_eq (a2e : Char → Char) {name : Text} (h : nul ∉ name) :
    envKey a2e name = decoded a2e name := by
  have hall : ∀ c ∈ decoded a2e name, decide (c ≠ nul) = true := by
    intro c hc
    apply decide_eq_true
    rintro rfl
    exact nul_not_mem_decoded h hc
  rw [envKey, decodeEnvKey_of_rounds a2e (Nat.lt_succ_self _), Option.getD_some,
    List.takeWhile_append_of_pos hall, List.takeWhile_cons_of_neg (by simp), List.append_nil]

/-! ## Tokens -/

theorem dropWhile_eq_self {p : Char → Bool} {t : Text} (h : ∀ c ∈ t.head?, p c = false) :
    t.dropWhile p = t := by
  cases t with
  | nil => rfl
  | cons c t => exact List.dropWhile_cons_of_neg (ne_true_of_eq_false (h c rfl))

theorem front_plain {text : Text} (hplain : '=' ∉ text) (rest : Text) (hne : text ≠ []) :
    (text ++ rest).dropWhile (· = '=') = text ++ rest := by
  refine dropWhile_eq_self fun c hc => decide_eq_false ?_
  rintro rfl
  cases text with
  | nil => exact hne rfl
  | cons d text =>
    cases hc
    exact hplain (List.mem_cons_self ..)

/-- A text without `=` is one token. -/
theorem strtok_plain {text : Text} (hne : text ≠ []) (hplain : '=' ∉ text) :
    (strtok text).map Prod.fst = some text := by
  have hfront := front_plain hplain [] hne
  have htoken : text.takeWhile (· ≠ '=') = text := by
    refine List.takeWhile_eq_self_iff.mpr fun c hc => decide_eq_true ?_
    rintro rfl
    exact hplain hc
  rw [List.append_nil] at hfront
  rw [strtok, hfront, if_neg hne, Option.map_some, htoken]

theorem strtok_entry (v : Variable) : strtok v.entry = some (v.name, v.value) := by
  have hall : ∀ c ∈ v.name, decide (c ≠ '=') = true := by
    intro c hc
    apply decide_eq_true
    rintro rfl
    exact v.name_plain hc
  rw [strtok, Variable.entry, front_plain v.name_plain _ v.name_ne, if_neg (by simp), List.takeWhile_append_of_pos hall, List.dropWhile_append_of_pos hall,
    List.takeWhile_cons_of_neg (by simp), List.dropWhile_cons_of_neg (by simp), List.append_nil]
  rfl

theorem splitEnvKeyValue_entry (v : Variable) :
    splitEnvKeyValue v.entry = (some v.name, (strtok v.value).map Prod.fst) := by
  rw [splitEnvKeyValue, strtok_entry]

/-- A token is a part of its text, and holds no `=`. -/
theorem strtok_some {text token : Text} (h : (strtok text).map Prod.fst = some token) :
    token <:+: text ∧ token ≠ [] ∧ '=' ∉ token := by
  obtain ⟨p, hp, rfl⟩ := Option.map_eq_some_iff.mp h
  rw [strtok] at hp
  split at hp
  next => cases hp
  next hne =>
    cases hp
    refine ⟨?_, ?_, fun hmem => ?_⟩
    · exact (List.takeWhile_prefix _).isInfix.trans (List.dropWhile_suffix _).isInfix
    · intro hnil
      have hhead := List.head?_dropWhile_not (fun c => decide (c = '=')) text
      cases hrest : text.dropWhile (· = '=') with
      | nil => exact hne hrest
      | cons c rest =>
        rw [hrest] at hhead hnil
        rw [List.takeWhile_cons_of_pos (by simpa using hhead)] at hnil
        cases hnil
    · have hfalse := List.mem_takeWhile_imp hmem
      simp at hfalse

/-! ## What the buffer holds -/

theorem remaining_eq {pos : Nat} (h : pos ≤ bufferSize) : remaining pos = bufferSize - pos := by
  rw [remaining, bufferSize] at *
  omega

variable {a : Assembly} {val : Text} {v : Variable} {environ : List Variable}

/-- A put that begins inside the buffer stays inside it. -/
theorem put_inside (h : a.pos < bufferSize) (s : Text) :
    a.put s = { a with
      pos := a.pos + s.length
      cells := a.cells.take a.pos ++ (s.take (bufferSize - 1 - a.pos) ++ [nul]) } := by
  have hwritten : snprintf (remaining a.pos) s = s.take (bufferSize - 1 - a.pos) ++ [nul] := by
    rw [remaining_eq (Nat.le_of_lt h), snprintf, if_neg (by omega), Nat.sub_right_comm]
  have hlength : (s.take (bufferSize - 1 - a.pos) ++ [nul]).length ≤ bufferSize - a.pos := by
    rw [List.length_append, List.length_take, List.length_singleton]
    omega
  rw [Assembly.put, hwritten, List.take_of_length_le hlength, Nat.sub_eq_zero_of_le hlength]
  rfl

/-- The text is in the buffer, as far as there is room, and nothing behind it while there is. -/
structure Holds (a : Assembly) (text : Text) : Prop where
  pos : a.pos = text.length
  cells : a.cells = text.take (bufferSize - 1) ++ [nul]
  within : text.length < bufferSize → a.beyond = 0

theorem Holds.start (s : Text) : Holds (Assembly.start.put s) s := by
  rw [put_inside (a := .start) (by decide)]
  exact ⟨Nat.zero_add _, rfl, fun _ => rfl⟩

theorem Holds.put {text : Text} (h : Holds a text) (s : Text) : Holds (a.put s) (text ++ s) := by
  by_cases hroom : a.pos < bufferSize
  · rw [put_inside hroom]
    have hpos := h.pos
    have hlength : text.length ≤ bufferSize - 1 := by omega
    refine ⟨?_, ?_, fun _ => h.within (by omega)⟩
    · rw [List.length_append, ← h.pos]
    · rw [h.cells, h.pos, List.take_of_length_le hlength, List.take_left, List.take_append,
        List.take_of_length_le hlength, List.append_assoc]
  · have hfull := Nat.le_of_not_lt hroom
    rw [h.pos] at hfull
    have hcells : a.cells.length ≤ a.pos := by
      have hsize : 0 < bufferSize := by decide
      rw [h.cells, h.pos, List.length_append, List.length_take, List.length_singleton]
      omega
    have htake : (text ++ s).take (bufferSize - 1) = text.take (bufferSize - 1) :=
      List.take_append_of_le_length (by omega)
    refine ⟨?_, ?_, fun hlt => ?_⟩
    · rw [List.length_append, ← h.pos]
      rfl
    · rw [htake, ← h.cells, Assembly.put, h.pos, Nat.sub_eq_zero_of_le hfull, List.take_zero,
        List.append_nil, ← h.pos, List.take_of_length_le hcells]
    · rw [List.length_append] at hlt
      omega

/-- What is parsed: the text, as far as there is room for it. -/
theorem Holds.string {text : Text} (h : Holds a text) (hnul : nul ∉ text) :
    a.cells.takeWhile (· ≠ nul) = text.take (bufferSize - 1) := by
  have hall : ∀ c ∈ text.take (bufferSize - 1), decide (c ≠ nul) = true := by
    intro c hc
    apply decide_eq_true
    rintro rfl
    exact hnul (List.mem_of_mem_take hc)
  rw [h.cells, List.takeWhile_append_of_pos hall, List.takeWhile_cons_of_neg (by simp),
    List.append_nil]

/-! ## The values of plain variables -/

section

variable {rules : StringRules}

variable (rules) in
theorem settingValue_cases (text : Text) :
    settingValue rules text = .string text ∨
      (settingValue rules text).flat = true ∧
        readValue rules (text.length + 1) text = some (settingValue rules text, []) := by
  rw [settingValue]
  split
  next v hread =>
    split
    next hflat => exact .inr ⟨hflat, hread⟩
    next => exact .inl rfl
  next => exact .inl rfl

theorem settingValue_true : settingValue rules "true".toList = .boolean true := rfl

theorem settingValue_false : settingValue rules "false".toList = .boolean false := rfl

/-- A text that is set as a text is not one of the names of the booleans. -/
theorem ne_boolean_of_string {text other : Text} (h : settingValue rules text = .string other) :
    text ≠ "true".toList ∧ text ≠ "false".toList := by
  constructor
  · rintro rfl
    cases settingValue_true.symm.trans h
  · rintro rfl
    cases settingValue_false.symm.trans h

theorem spliced_eq_true :
    spliced val = true ↔ isNumber val = true ∨ val.head? = some '[' ∨ val = "true".toList ∨
      val = "false".toList := by
  rw [spliced, Bool.or_eq_true, Bool.or_eq_true, Bool.or_eq_true, decide_eq_true_iff,
    decide_eq_true_iff, decide_eq_true_iff, or_assoc, or_assoc]

variable (rules) in
/-- How a value is written. -/
def valueText (text : Text) : Text :=
  match settingValue rules text with
  | .string _ => '"' :: (text ++ ['"'])
  | _ => text

theorem valueText_string {text other : Text} (h : settingValue rules text = .string other) :
    valueText rules text = '"' :: (text ++ ['"']) := by
  rw [valueText, h]

theorem valueText_flat {text : Text} (h : (settingValue rules text).flat = true) :
    valueText rules text = text := by
  rw [valueText]
  split
  next other hstring =>
    rw [hstring] at h
    cases h
  next => rfl

/-- A plain value is written, and not left out. -/
theorem returnJsonRow_plain (key : Text) {text : Text} (h : PlainValue rules text) :
    returnJsonRow key text = some (memberText key (valueText rules text)) := by
  rw [returnJsonRow]
  rcases settingValue_cases rules text with hstring | ⟨hflat, hread⟩
  · rw [PlainValue, hstring] at h
    obtain ⟨hnumber, hbracket, hbrace, -⟩ := h
    have hnot : ¬ spliced text = true := by
      have hne := ne_boolean_of_string hstring
      rw [spliced_eq_true]
      rintro (hall | hhead | htrue | hfalse)
      · exact Bool.false_ne_true (hnumber.symm.trans hall)
      · exact hbracket hhead
      · exact hne.1 htrue
      · exact hne.2 hfalse
    rw [if_neg hnot, if_neg hbrace, valueText_string hstring]
    rfl
  · have hspliced : spliced text = true := by
      rw [spliced_eq_true]
      rw [PlainValue] at h
      cases hv : settingValue rules text with
      | number l =>
        rw [hv] at h
        exact .inl h
      | boolean b =>
        rw [hv] at hread
        exact .inr (.inr (text_of_boolean hread))
      | array vs =>
        rw [hv] at hread
        exact .inr (.inl (head_of_array hread))
      | null | string _ | object _ =>
        rw [hv] at hflat
        cases hflat
    rw [if_pos hspliced, valueText_flat hflat]
    rfl

/-- A plain value is written as what it is set to. -/
theorem writes_plain {text : Text} (h : PlainValue rules text) :
    Writes rules (valueText rules text) (settingValue rules text) := by
  rcases settingValue_cases rules text with hstring | ⟨hflat, hread⟩
  · rw [PlainValue, hstring] at h
    rw [valueText_string hstring, hstring]
    exact writes_string h.2.2.2
  · rw [valueText_flat hflat]
    exact writes_flat hread hflat

theorem length_valueText (key text : Text) :
    (memberText key (valueText rules text)).length =
      key.length + text.length +
        match settingValue rules text with
        | .string _ => 5
        | _ => 3 := by
  rw [memberText, valueText]
  split
  next =>
    simp only [List.length_cons, List.length_append, List.length_nil]
    omega
  next =>
    simp only [List.length_cons, List.length_append]
    omega

end

/-! ## The text -/

theorem nul_not_mem_row {key val row : Text} (hkey : nul ∉ key) (hval : nul ∉ val)
    (hrow : returnJsonRow key val = some row) : nul ∉ row := by
  have hchars : nul ≠ '"' ∧ nul ≠ ':' := by decide
  rw [returnJsonRow] at hrow
  split at hrow
  next =>
    cases hrow
    simp only [List.mem_cons, List.mem_append, not_or]
    exact ⟨hchars.1, hkey, hchars.1, hchars.2, hval⟩
  next =>
    split at hrow
    next => cases hrow
    next =>
      cases hrow
      simp only [List.mem_cons, List.mem_append, not_or, List.not_mem_nil, not_false_eq_true,
        and_true]
      exact ⟨hchars.1, hkey, hchars.1, hchars.2, hchars.1, hval, hchars.1⟩

theorem nul_not_mem_objectText {rows : List Text} (h : ∀ row ∈ rows, nul ∉ row) :
    nul ∉ objectText rows := by
  cases rows with
  | nil => decide
  | cons row rows =>
    have hfollowing : nul ∉ followingText rows := by
      intro hmem
      obtain ⟨other, hother, hmem⟩ := List.mem_flatMap.mp hmem
      rcases List.mem_append.mp hmem with hmem | hmem
      · revert hmem
        decide
      · exact h other (List.mem_cons_of_mem _ hother) hmem
    have hopen : nul ∉ "\x7b ".toList ∧ nul ∉ " \x7d".toList := by decide
    simp only [objectText, List.mem_append, not_or]
    exact ⟨hopen.1, h row (List.mem_cons_self ..), hfollowing, hopen.2⟩

section

variable {rules : StringRules} {a2e : Char → Char} {pre : Option Text}

theorem Holds.counted {text : Text} (h : Holds a text) (j : Nat) : Holds { a with j := j } text :=
  ⟨h.pos, h.cells, h.within⟩

theorem visit_other (hv : hasPrefix pre v = false) (a : Assembly) :
    visit a2e (pre.getD []) a v = a :=
  if_neg (ne_true_of_eq_false hv)

/-- What a variable with the prefix adds. -/
theorem visit_prefixed (hv : hasPrefix pre v = true) (a : Assembly) :
    visit a2e (pre.getD []) a v =
      match (strtok v.value).map Prod.fst with
      | some val => { a with j := a.j + 1 }.add (returnJsonRow (decoded a2e v.name) val)
      | none => a := by
  have hprefix : startsWith (pre.getD []) v.entry = true := hv
  rw [visit, if_pos hprefix, splitEnvKeyValue_entry]
  cases (strtok v.value).map Prod.fst with
  | none => rfl
  | some val =>
    dsimp only
    rw [envKey_eq a2e v.name_text]

variable (rules a2e) in
/-- The row of a variable. -/
def row (v : Variable) : Row :=
  ⟨decoded a2e v.name, valueText rules v.value, settingValue rules v.value⟩

theorem row_sound (h : Plain rules a2e v) : (row rules a2e v).Sound rules :=
  ⟨h.key, writes_plain h.value⟩

theorem visit_plain (hv : hasPrefix pre v = true) (h : Plain rules a2e v) (a : Assembly) :
    visit a2e (pre.getD []) a v =
      { a with j := a.j + 1 }.add (some (row rules a2e v).written) := by
  rw [visit_prefixed hv, strtok_plain h.value_ne h.value_plain]
  dsimp only
  rw [returnJsonRow_plain _ h.value]
  rfl

variable (rules a2e pre) in
/-- The rows of the variables with the prefix. -/
def rowsOf (environ : List Variable) : List Row :=
  (environ.filter (hasPrefix pre)).map (row rules a2e)

variable (rules a2e pre) in
/-- The variables with the prefix are plain. -/
def AllPlain (environ : List Variable) : Prop :=
  ∀ v ∈ environ, hasPrefix pre v = true → Plain rules a2e v

theorem AllPlain.tail (h : AllPlain rules a2e pre (v :: environ)) :
    AllPlain rules a2e pre environ :=
  fun w hw => h w (List.mem_cons_of_mem _ hw)

theorem rowsOf_cons (v : Variable) (environ : List Variable) :
    rowsOf rules a2e pre (v :: environ) =
      if hasPrefix pre v then row rules a2e v :: rowsOf rules a2e pre environ
      else rowsOf rules a2e pre environ := by
  rw [rowsOf, List.filter_cons]
  split <;> rfl

/-- Behind a variable, the rows are put with their commas. -/
theorem holds_following (h : AllPlain rules a2e pre environ) {text : Text} (ha : Holds a text)
    (hj : 0 < a.j) :
    Holds (environ.foldl (visit a2e (pre.getD [])) a)
      (text ++ followingText ((rowsOf rules a2e pre environ).map Row.written)) := by
  induction environ generalizing a text with
  | nil =>
    rw [show followingText ((rowsOf rules a2e pre []).map Row.written) = [] from rfl,
      List.append_nil]
    exact ha
  | cons v environ ih =>
    rw [List.foldl_cons, rowsOf_cons]
    cases hv : hasPrefix pre v with
    | false =>
      rw [visit_other hv]
      exact ih h.tail ha hj
    | true =>
      have hmore : { a with j := a.j + 1 }.j > 1 := Nat.succ_lt_succ hj
      rw [visit_plain hv (h v (List.mem_cons_self ..) hv), Assembly.add, if_pos hmore]
      have hput := ((ha.counted (a.j + 1)).put ", ".toList).put (row rules a2e v).written
      have hrest := ih h.tail hput (Nat.succ_pos _)
      rw [if_pos rfl, List.map_cons, followingText, List.flatMap_cons, ← List.append_assoc,
        ← List.append_assoc]
      exact hrest

/-- **The text of plain variables** is the object of their rows. -/
theorem holds_assembled (h : AllPlain rules a2e pre environ) :
    Holds (assembled a2e (pre.getD []) environ)
      (objectText ((rowsOf rules a2e pre environ).map Row.written)) := by
  rw [assembled]
  induction environ with
  | nil => exact (Holds.start "\x7b ".toList).put " \x7d".toList
  | cons v environ ih =>
    rw [List.foldl_cons, rowsOf_cons]
    cases hv : hasPrefix pre v with
    | false =>
      rw [visit_other hv]
      exact ih h.tail
    | true =>
      rw [visit_plain hv (h v (List.mem_cons_self ..) hv), Assembly.add, if_neg (by decide)]
      have hfirst := ((Holds.start "\x7b ".toList).counted 1).put (row rules a2e v).written
      have hrest := (holds_following h.tail hfirst Nat.one_pos).put " \x7d".toList
      rw [List.append_assoc, List.append_assoc] at hrest
      exact hrest

/-- The text of a single variable with the prefix. -/
theorem holds_single (hv : hasPrefix pre v = true) :
    Holds (assembled a2e (pre.getD []) [v])
      (objectText (((strtok v.value).map Prod.fst).bind
        (returnJsonRow (decoded a2e v.name))).toList) := by
  have hempty := (Holds.start "\x7b ".toList).put " \x7d".toList
  rw [assembled, List.foldl_cons, List.foldl_nil, visit_prefixed hv]
  cases (strtok v.value).map Prod.fst with
  | none => exact hempty
  | some val =>
    rw [Option.bind_some]
    dsimp only
    cases returnJsonRow (decoded a2e v.name) val with
    | none => exact ((Holds.start "\x7b ".toList).counted 1).put " \x7d".toList
    | some row =>
      rw [Assembly.add, if_neg (by decide)]
      have hrow := (((Holds.start "\x7b ".toList).counted 1).put row).put " \x7d".toList
      rw [List.append_assoc] at hrow
      exact hrow

theorem eq_object_of_members {value : Option Value} {members : List (Text × Value)}
    (h : value.bind Value.asObject = some members) : value = some (.object members) := by
  obtain ⟨v, rfl, hv⟩ := Option.bind_eq_some_iff.mp h
  cases v with
  | object _ =>
    cases hv
    rfl
  | null | boolean _ | number _ | string _ | array _ => cases hv

/-- What is read from a text that is in the buffer. -/
theorem envSettings_eq {jsonParseString : Text → Option Value}
    (hparser : ∀ text, jsonParseString text = parse rules text) {text : Text}
    (h : Holds (assembled a2e (pre.getD []) environ) text) (hnul : nul ∉ text) :
    (readEnvSettings a2e jsonParseString pre environ).envSettings =
      (parse rules (text.take (bufferSize - 1))).bind Value.asObject := by
  have hstring := h.string hnul
  have hread : (readEnvSettings a2e jsonParseString pre environ).envSettings =
      (jsonParseString ((assembled a2e (pre.getD []) environ).cells.takeWhile (· ≠ nul))).bind
        Value.asObject := rfl
  rw [hread, hstring, hparser]

/-! ## Sizes -/

theorem length_followingText (rows : List Text) :
    (followingText rows).length = (rows.map fun row => row.length + 2).sum := by
  induction rows with
  | nil => rfl
  | cons row rows ih =>
    have hcomma : ", ".toList.length = 2 := rfl
    rw [followingText, List.flatMap_cons, List.length_append, List.length_append, hcomma,
      List.map_cons, List.sum_cons, ← ih, followingText]
    omega

theorem length_objectText (row : Text) (rows : List Text) :
    (objectText (row :: rows)).length = 2 + ((row :: rows).map fun row => row.length + 2).sum := by
  have hends : "\x7b ".toList.length = 2 ∧ " \x7d".toList.length = 2 := ⟨rfl, rfl⟩
  rw [objectText, List.length_append, List.length_append, List.length_append, hends.1, hends.2,
    length_followingText, List.map_cons, List.sum_cons]
  omega

/-- The text is of the size that its variables make, where there are any. -/
theorem length_text (environ : List Variable) :
    (objectText ((rowsOf rules a2e pre environ).map Row.written)).length =
      max 4 (textSize rules a2e pre environ) := by
  have hsizes : ((rowsOf rules a2e pre environ).map Row.written).map (fun row => row.length + 2) =
      (environ.filter (hasPrefix pre)).map fun v => rowSize rules a2e v + 2 := by
    rw [rowsOf, List.map_map, List.map_map]
    refine List.map_congr_left fun v _ => ?_
    exact congrArg (· + 2) (length_valueText (decoded a2e v.name) v.value)
  rw [textSize, ← hsizes]
  cases (rowsOf rules a2e pre environ).map Row.written with
  | nil => rfl
  | cons first rest =>
    rw [length_objectText, List.map_cons, List.sum_cons]
    omega

theorem textSize_le {part environ : List Variable} (h : part.Sublist environ) :
    textSize rules a2e pre part ≤ textSize rules a2e pre environ := by
  have hsub := (h.filter (hasPrefix pre)).map fun v => rowSize rules a2e v + 2
  exact Nat.add_le_add_left (hsub.sum_le_sum fun _ _ => Nat.zero_le _) 2

theorem nul_not_mem_text (h : AllPlain rules a2e pre environ) :
    nul ∉ objectText ((rowsOf rules a2e pre environ).map Row.written) := by
  refine nul_not_mem_objectText fun text htext => ?_
  obtain ⟨row', hrow', rfl⟩ := List.mem_map.mp htext
  obtain ⟨v, hv, rfl⟩ := List.mem_map.mp hrow'
  obtain ⟨hmem, hprefix⟩ := List.mem_filter.mp hv
  exact nul_not_mem_row (nul_not_mem_decoded v.name_text) v.value_text
    (returnJsonRow_plain _ (h v hmem hprefix).value)

theorem rows_sound (h : AllPlain rules a2e pre environ) :
    ∀ row ∈ rowsOf rules a2e pre environ, row.Sound rules := by
  intro row' hrow'
  obtain ⟨v, hv, rfl⟩ := List.mem_map.mp hrow'
  obtain ⟨hmem, hprefix⟩ := List.mem_filter.mp hv
  exact row_sound (h v hmem hprefix)

theorem members_eq (environ : List Variable) :
    (rowsOf rules a2e pre environ).map Row.member = settings rules a2e pre environ := by
  rw [rowsOf, List.map_map]
  rfl

/-- Plain variables with room for their text are read as their settings. -/
theorem reads_of_plain {jsonParseString : Text → Option Value}
    (hparser : ∀ text, jsonParseString text = parse rules text)
    (h : AllPlain rules a2e pre environ) (hsize : textSize rules a2e pre environ < bufferSize) :
    Reads rules a2e pre environ (readEnvSettings a2e jsonParseString pre environ) := by
  have hholds := holds_assembled h
  have hlength : (objectText ((rowsOf rules a2e pre environ).map Row.written)).length <
      bufferSize := by
    rw [length_text]
    exact Nat.max_lt.mpr ⟨by decide, hsize⟩
  refine ⟨?_, hholds.within hlength⟩
  rw [envSettings_eq hparser hholds (nul_not_mem_text h),
    List.take_of_length_le (Nat.le_sub_one_of_lt hlength), parse_objectText (rows_sound h),
    members_eq]
  rfl

/-- Plain variables that are read as their settings have room for their text. -/
theorem size_of_reads {jsonParseString : Text → Option Value}
    (hparser : ∀ text, jsonParseString text = parse rules text)
    (h : AllPlain rules a2e pre environ)
    (hreads : Reads rules a2e pre environ (readEnvSettings a2e jsonParseString pre environ)) :
    textSize rules a2e pre environ < bufferSize := by
  by_contra hsize
  have hlength : bufferSize - 1 <
      (objectText ((rowsOf rules a2e pre environ).map Row.written)).length := by
    have hpos : 0 < bufferSize := by decide
    rw [length_text]
    omega
  have hread := hreads.envSettings
  rw [envSettings_eq hparser (holds_assembled h) (nul_not_mem_text h), ← members_eq] at hread
  exact parse_take_objectText (rows_sound h) hlength (eq_object_of_members hread)

/-! ## What is read of one variable -/

/-- The values that are spliced begin no string and no blank. -/
theorem head_of_spliced (hne : val ≠ []) (h : spliced val = true) :
    ∃ c t, val = c :: t ∧ c ≠ '"' ∧ blank c = false := by
  rcases spliced_eq_true.mp h with hnumber | hbracket | rfl | rfl
  · cases val with
    | nil => exact absurd rfl hne
    | cons c t =>
      rw [isNumber, List.all_cons, Bool.and_eq_true] at hnumber
      refine ⟨c, t, rfl, ?_, blank_of_wordChar ?_⟩
      · rintro rfl
        exact absurd hnumber.1 (by decide)
      · rw [wordChar, Char.isAlphanum, hnumber.1, Bool.or_true]
        rfl
  · cases val with
    | nil => cases hbracket
    | cons c t =>
      cases hbracket
      exact ⟨'[', t, rfl, by decide, by decide⟩
  · exact ⟨'t', "rue".toList, rfl, by decide, by decide⟩
  · exact ⟨'f', "alse".toList, rfl, by decide, by decide⟩

/-- A value that is set to a number, a boolean or an array is one token. -/
theorem strtok_flat {text : Text} (hflat : (settingValue rules text).flat = true)
    (hread : readValue rules (text.length + 1) text = some (settingValue rules text, [])) :
    text ≠ [] ∧ '=' ∉ text := by
  obtain ⟨used, htext, hchars⟩ := takesFlat_value hread hflat
  rw [List.append_nil] at htext
  refine ⟨?_, fun hmem => ?_⟩
  · rintro rfl
    cases hread
  · exact absurd (hchars '=' (htext ▸ hmem)) (by decide)

/-- A number that is spliced has only digits. -/
theorem plainValue_of_spliced {text : Text} (hspliced : spliced text = true)
    (hflat : (settingValue rules text).flat = true)
    (hread : readValue rules (text.length + 1) text = some (settingValue rules text, [])) :
    PlainValue rules text := by
  rw [PlainValue]
  split
  next l hnumber =>
    rw [hnumber] at hread
    rcases spliced_eq_true.mp hspliced with h | hbracket | rfl | rfl
    · exact h
    · obtain ⟨word, htext, hne, -, hchars⟩ := readWord_uses (readValue_scalar hread rfl)
      cases word with
      | nil => exact absurd rfl hne
      | cons c word =>
        rw [htext] at hbracket
        cases hbracket
        exact absurd (hchars '[' (List.mem_cons_self ..)) (by decide)
    · cases settingValue_true.symm.trans hnumber
    · cases settingValue_false.symm.trans hnumber
  next other hstring =>
    rw [hstring] at hflat
    cases hflat
  next => trivial

/-- A value that is spliced and read as what it is set to is plain, and was not cut. -/
theorem plain_of_spliced (htoken : (strtok v.value).map Prod.fst = some val)
    (hspliced : spliced val = true) {n : Nat} {rest r : Text}
    (hread : readValue rules n (skipBlanks (val ++ rest)) =
      some (settingValue rules v.value, r)) :
    v.value ≠ [] ∧ '=' ∉ v.value ∧ PlainValue rules v.value := by
  obtain ⟨c, t, rfl, hquote, hblank⟩ := head_of_spliced (strtok_some htoken).2.1 hspliced
  rw [List.cons_append, skipBlanks_cons hblank] at hread
  rcases settingValue_cases rules v.value with hstring | ⟨hflat, hwhole⟩
  · rw [hstring] at hread
    obtain ⟨t', ht', -⟩ := head_of_string hread
    injection ht' with hc
    exact absurd hc hquote
  · obtain ⟨hne, hplain⟩ := strtok_flat hflat hwhole
    have hval := (strtok_plain hne hplain).symm.trans htoken
    injection hval with hval
    rw [← hval] at hspliced
    exact ⟨hne, hplain, plainValue_of_spliced hspliced hflat hwhole⟩

/-- So is a value in quotation marks. -/
theorem plain_of_quoted (htoken : (strtok v.value).map Prod.fst = some val)
    (hspliced : spliced val ≠ true) (hbrace : val.head? ≠ some '\x7b') {n : Nat} {r : Text}
    (hread : readValue rules n ('"' :: (val ++ '"' :: " \x7d".toList)) =
      some (settingValue rules v.value, r)) :
    v.value ≠ [] ∧ '=' ∉ v.value ∧ PlainValue rules v.value := by
  obtain ⟨text, htext, hquoted⟩ := string_of_quote hread
  obtain ⟨hpart, hne, hplain⟩ := strtok_some htoken
  rcases settingValue_cases rules v.value with hstring | ⟨hflat, -⟩
  · -- what is read is as long as the whole value, so that the token is it
    obtain rfl : v.value = text := Value.string.inj (hstring.symm.trans htext)
    have hlength := length_le_of_readQuoted (by decide) hquoted
    obtain rfl : val = v.value := hpart.eq_of_length (Nat.le_antisymm hpart.length_le hlength)
    have hnot := mt spliced_eq_true.mpr hspliced
    refine ⟨hne, hplain, ?_⟩
    rw [PlainValue, hstring]
    exact ⟨Bool.eq_false_iff.mpr fun h => hnot (.inl h), fun h => hnot (.inr (.inl h)), hbrace,
      (readQuoted_self_iff.mp hquoted).1⟩
  · rw [htext] at hflat
    cases hflat

/-- What is read of the text of one variable with the prefix. -/
theorem read_single {jsonParseString : Text → Option Value}
    (hparser : ∀ text, jsonParseString text = parse rules text) (hv : hasPrefix pre v = true)
    (hreads : Reads rules a2e pre [v] (readEnvSettings a2e jsonParseString pre [v]))
    {rows : List Text} (hholds : Holds (assembled a2e (pre.getD []) [v]) (objectText rows))
    (hnul : ∀ row ∈ rows, nul ∉ row) :
    ∃ n r, readValue rules n (objectText rows) =
      some (.object [(decoded a2e v.name, settingValue rules v.value)], r) := by
  have hsettings : settings rules a2e pre [v] =
      [(decoded a2e v.name, settingValue rules v.value)] := by
    rw [settings, List.filter_cons_of_pos hv]
    rfl
  have hread := hreads.envSettings
  rw [envSettings_eq hparser hholds (nul_not_mem_objectText hnul), hsettings] at hread
  obtain ⟨t, ht⟩ : ∃ t, objectText rows = '\x7b' :: t := by
    cases rows <;> exact ⟨_, rfl⟩
  rw [ht] at hread ⊢
  obtain ⟨n, r, hvalue, -⟩ := readValue_of_parse_take (eq_object_of_members hread)
  exact ⟨n, r, hvalue⟩

theorem not_read_empty {n : Nat} {member : Text × Value} {r : Text} :
    readValue rules n (objectText []) ≠ some (.object [member], r) := by
  intro h
  have hempty : readValue rules 5 (objectText []) = some (.object [], []) := rfl
  cases (readValue_object_unique h hempty).1

/-- A variable that is read alone as its setting is plain. -/
theorem plain_of_reads {jsonParseString : Text → Option Value}
    (hparser : ∀ text, jsonParseString text = parse rules text) (hv : hasPrefix pre v = true)
    (hreads : Reads rules a2e pre [v] (readEnvSettings a2e jsonParseString pre [v])) :
    Plain rules a2e v := by
  have hread := read_single hparser hv hreads (holds_single hv)
  cases htoken : (strtok v.value).map Prod.fst with
  | none =>
    rw [htoken] at hread
    obtain ⟨n, r, hread⟩ := hread fun _ h => absurd h List.not_mem_nil
    exact absurd hread not_read_empty
  | some val =>
    rw [htoken, Option.bind_some] at hread
    have hval : nul ∉ val := fun h => v.value_text ((strtok_some htoken).1.subset h)
    cases hrow : returnJsonRow (decoded a2e v.name) val with
    | none =>
      rw [hrow] at hread
      obtain ⟨n, r, hread⟩ := hread fun _ h => absurd h List.not_mem_nil
      exact absurd hread not_read_empty
    | some row =>
      rw [hrow] at hread
      obtain ⟨n, r, hread⟩ := hread fun other hother => by
        rw [List.eq_of_mem_singleton hother]
        exact nul_not_mem_row (nul_not_mem_decoded v.name_text) hval hrow
      rw [returnJsonRow] at hrow
      split at hrow
      next hspliced =>
        cases hrow
        obtain ⟨hkey, m, r', hvalue⟩ := readValue_first [] hread
        obtain ⟨hne, hplain, hvalue⟩ := plain_of_spliced htoken hspliced hvalue
        exact ⟨hkey, hne, hplain, hvalue⟩
      next hspliced =>
        split at hrow
        next => cases hrow
        next hbrace =>
          cases hrow
          obtain ⟨hkey, m, r', hvalue⟩ := readValue_first [] hread
          rw [List.cons_append, skipBlanks_cons (by decide), List.append_assoc] at hvalue
          obtain ⟨hne, hplain, hvalue⟩ := plain_of_quoted htoken hspliced hbrace hvalue
          exact ⟨hkey, hne, hplain, hvalue⟩

/-- **Which environments are read as is meant**: those whose variables with the prefix are plain, and
have room for their text. -/
theorem settings_right_iff {jsonParseString : Text → Option Value}
    (hparser : ∀ text, jsonParseString text = parse rules text) (environ : List Variable) :
    Right rules a2e jsonParseString pre environ ↔
      (∀ v ∈ environ, hasPrefix pre v = true → Plain rules a2e v) ∧
        textSize rules a2e pre environ < bufferSize := by
  constructor
  · intro hright
    have hplain : AllPlain rules a2e pre environ := fun v hv hprefix =>
      plain_of_reads hparser hprefix (hright [v] (List.singleton_sublist.mpr hv))
    exact ⟨hplain, size_of_reads hparser hplain (hright environ (List.Sublist.refl environ))⟩
  · rintro ⟨hplain, hsize⟩ part hpart
    exact reads_of_plain hparser (fun v hv => hplain v (hpart.subset hv))
      (Nat.lt_of_le_of_lt (textSize_le hpart) hsize)

end

/-! ## Two environments -/

def portVariable : Variable :=
  ⟨"ZWE_port".toList, "8543".toList, by decide, by decide, by decide, by decide⟩

def hostVariable : Variable :=
  ⟨"ZWE_host".toList, "lpar1".toList, by decide, by decide, by decide, by decide⟩

/-- A value with quotation marks. -/
def titleVariable : Variable :=
  ⟨"ZWE_title".toList, "the \"main\" desktop".toList, by decide, by decide, by decide, by decide⟩

theorem port_and_host_read :
    Right .standard id (parse .standard) (some "ZWE_".toList) [portVariable, hostVariable] := by
  have hportKey : decoded id portVariable.name = "ZWE_port".toList :=
    decoded_of_decodeEnvKey (by decide)
  have hhostKey : decoded id hostVariable.name = "ZWE_host".toList :=
    decoded_of_decodeEnvKey (by decide)
  have hport : settingValue .standard portVariable.value = .number "8543".toList := rfl
  have hhost : settingValue .standard hostVariable.value = .string "lpar1".toList := rfl
  have hsize : textSize .standard id (some "ZWE_".toList) [portVariable, hostVariable] =
      2 + (rowSize .standard id portVariable + 2 +
        (rowSize .standard id hostVariable + 2 + 0)) := rfl
  refine (settings_right_iff (fun _ => rfl) [portVariable, hostVariable]).mpr ⟨?_, ?_⟩
  · simp only [List.mem_cons, List.not_mem_nil, or_false, forall_eq_or_imp, forall_eq]
    refine ⟨fun _ => ⟨?_, by decide, by decide, ?_⟩, fun _ => ⟨?_, by decide, by decide, ?_⟩⟩
    · rw [hportKey]
      exact itself_of_all (by decide)
    · rw [PlainValue, hport]
      decide
    · rw [hhostKey]
      exact itself_of_all (by decide)
    · rw [PlainValue, hhost]
      exact ⟨by decide, by decide, by decide, itself_of_all (by decide)⟩
  · rw [hsize, rowSize, rowSize, hportKey, hhostKey, hport, hhost]
    decide

/-- The quotation marks of one value void the settings of all. -/
theorem title_voids_port :
    (readEnvSettings id (parse .standard) (some "ZWE_".toList)
        [portVariable, titleVariable]).envSettings = none ∧
      ¬ Right .standard id (parse .standard) (some "ZWE_".toList)
        [portVariable, titleVariable] := by
  have hnone : (readEnvSettings id (parse .standard) (some "ZWE_".toList)
      [portVariable, titleVariable]).envSettings = none :=
    Option.isNone_iff_eq_none.mp (by decide)
  refine ⟨hnone, fun hright => ?_⟩
  have hread := (hright _ (List.Sublist.refl _)).envSettings
  rw [hnone] at hread
  cases hread

end Zss.Environment.Settings
