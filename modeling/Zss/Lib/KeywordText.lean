import Mathlib.Data.List.Basic

/-!
# Commands of keywords and their values

A command is a name and clauses, each a blank, a word and a value in parentheses: operands with
separators between them, or a quoted text. A delimiter ends an operand, so that an operand which
contains one is not read back; an operand may be empty. `parseCommand_text` is the round trip, and
`parseCommand_sound` what a command that is read tells of its text.
-/

namespace Zss.Lib.KeywordText

abbrev Text := List Char

/-! ## The language -/

def quote : Char := Char.ofNat 39

def isSeparator (c : Char) : Bool := c = ' ' ∨ c = ','

/-- A character that ends a word or an operand. -/
def isDelimiter (c : Char) : Bool :=
  isSeparator c || c = '(' || c = ')' || c = quote || c = Char.ofNat 0

inductive Value where
  | operands (words : List Text)
  | quoted (text : Text)
deriving DecidableEq

structure Clause where
  word : Text
  value : Value
deriving DecidableEq

/-- No character of a word ends it. -/
def CleanWord (word : Text) : Prop := ∀ c ∈ word, isDelimiter c = false

instance (word : Text) : Decidable (CleanWord word) :=
  List.decidableBAll (fun c => isDelimiter c = false) word

/-- A character that a quoted text may have. -/
def isQuotable (c : Char) : Bool := c ≠ quote ∧ c ≠ Char.ofNat 0

def Value.Clean : Value → Prop
  | .operands words => words ≠ [] ∧ ∀ word ∈ words, CleanWord word
  | .quoted text => ∀ c ∈ text, isQuotable c = true

def Clause.Clean (clause : Clause) : Prop := CleanWord clause.word ∧ clause.value.Clean

/-! ## Printing -/

def joinWords : List Text → Text
  | [] => []
  | [word] => word
  | word :: next :: words => word ++ ',' :: joinWords (next :: words)

def Value.text : Value → Text
  | .operands words => joinWords words
  | .quoted text => quote :: text ++ [quote]

def Clause.text (clause : Clause) : Text :=
  ' ' :: clause.word ++ '(' :: clause.value.text ++ [')']

/-- The clauses after the name of a command. -/
def clausesText (clauses : List Clause) : Text := clauses.flatMap Clause.text

/-! ## Parsing -/

/-- A word up to its parenthesis, and what follows. -/
def parseWord : Text → Option (Text × Text)
  | [] => none
  | c :: text =>
    if c = '(' then some ([], text)
    else if isDelimiter c then none
    else (parseWord text).map fun (word, rest) => (c :: word, rest)

/-- Operands up to the closing parenthesis. -/
def parseOperands : Text → Option (List Text × Text)
  | [] => none
  | c :: text =>
    if c = ')' then some ([[]], text)
    else if isSeparator c then (parseOperands text).map fun (words, rest) => ([] :: words, rest)
    else if isDelimiter c then none
    else
      match parseOperands text with
      | some (word :: words, rest) => some ((c :: word) :: words, rest)
      | some ([], _) | none => none

/-- The closing parenthesis of a quoted text. -/
def parseClosing : Text → Option (Text × Text)
  | ')' :: rest => some ([], rest)
  | _ => none

/-- A quoted text up to its closing quote and parenthesis. -/
def parseQuoted : Text → Option (Text × Text)
  | [] => none
  | c :: text =>
    if c = quote then parseClosing text
    else if c = Char.ofNat 0 then none
    else (parseQuoted text).map fun (value, rest) => (c :: value, rest)

def parseValue : Text → Option (Value × Text)
  | [] => none
  | c :: text =>
    if c = quote then (parseQuoted text).map fun (value, rest) => (.quoted value, rest)
    else (parseOperands (c :: text)).map fun (words, rest) => (.operands words, rest)

/-- A clause after its blank. -/
def parseClause (text : Text) : Option (Clause × Text) :=
  match parseWord text with
  | none => none
  | some (word, text) => (parseValue text).map fun (value, rest) => (⟨word, value⟩, rest)

/-- As many clauses as there are, up to a bound. -/
def parseClauses : Nat → Text → Option (List Clause)
  | _, [] => some []
  | 0, _ :: _ => none
  | fuel + 1, c :: text =>
    if c = ' ' then
      match parseClause text with
      | none => none
      | some (clause, rest) => (parseClauses fuel rest).map (clause :: ·)
    else none

/-- The clauses of a command by its name. -/
def parseCommand (name text : Text) : Option (List Clause) :=
  if name.isPrefixOf text then parseClauses text.length (text.drop name.length) else none

/-! ## A command that is printed is read -/

variable {c : Char} {word text rest : Text} {words : List Text}

private theorem ne_paren_of_word (h : isDelimiter c = false) : c ≠ '(' ∧ c ≠ ')' ∧ c ≠ quote := by
  refine ⟨?_, ?_, ?_⟩ <;> rintro rfl <;> revert h <;> decide

private theorem not_separator_of_word (h : isDelimiter c = false) : isSeparator c = false := by
  simp only [isDelimiter, Bool.or_eq_false_iff] at h
  exact h.1.1.1.1

theorem parseWord_text (h : CleanWord word) : parseWord (word ++ '(' :: rest) = some (word, rest) := by
  induction word with
  | nil => rfl
  | cons c word ih =>
    have hc := h c List.mem_cons_self
    rw [List.cons_append, parseWord, if_neg (ne_paren_of_word hc).1,
      ih fun d hd => h d (List.mem_cons_of_mem _ hd)]
    simp [hc]

/-- A clean word before operands belongs to the first of them. -/
theorem parseOperands_append (hclean : CleanWord word) {first : Text}
    (h : parseOperands text = some (first :: words, rest)) :
    parseOperands (word ++ text) = some ((word ++ first) :: words, rest) := by
  induction word with
  | nil => exact h
  | cons c word ih =>
    have hc := hclean c List.mem_cons_self
    have htail := ih fun d hd => hclean d (List.mem_cons_of_mem _ hd)
    rw [List.cons_append, parseOperands, if_neg (ne_paren_of_word hc).2.1, htail]
    simp [hc, not_separator_of_word hc]

theorem parseOperands_text (hne : words ≠ []) (hclean : ∀ word ∈ words, CleanWord word) :
    parseOperands (joinWords words ++ ')' :: rest) = some (words, rest) := by
  have hend : parseOperands (')' :: rest) = some ([[]], rest) := rfl
  induction words with
  | nil => exact absurd rfl hne
  | cons word words ih =>
    have hword := hclean word List.mem_cons_self
    cases words with
    | nil =>
      have h := parseOperands_append hword hend
      rwa [List.append_nil] at h
    | cons next words =>
      have htail := ih (List.cons_ne_nil _ _) fun w hw => hclean w (List.mem_cons_of_mem _ hw)
      have hcomma : parseOperands (',' :: (joinWords (next :: words) ++ ')' :: rest)) =
          some ([] :: next :: words, rest) := by
        rw [parseOperands, htail]
        rfl
      have h := parseOperands_append hword hcomma
      rw [List.append_nil] at h
      rw [joinWords, List.append_assoc, List.cons_append]
      exact h

theorem parseQuoted_text (h : ∀ c ∈ text, isQuotable c = true) :
    parseQuoted (text ++ quote :: ')' :: rest) = some (text, rest) := by
  induction text with
  | nil => rfl
  | cons c text ih =>
    have hc := h c List.mem_cons_self
    simp only [isQuotable, ne_eq, decide_eq_true_eq] at hc
    rw [List.cons_append, parseQuoted, if_neg hc.1, if_neg hc.2,
      ih fun d hd => h d (List.mem_cons_of_mem _ hd)]
    rfl

theorem parseValue_text {value : Value} (h : value.Clean) :
    parseValue (value.text ++ ')' :: rest) = some (value, rest) := by
  cases value with
  | quoted text =>
    have hquoted : parseQuoted (text ++ quote :: ')' :: rest) = some (text, rest) :=
      parseQuoted_text h
    simp only [Value.text, List.cons_append, List.append_assoc, List.nil_append, parseValue,
      if_pos, hquoted]
    rfl
  | operands words =>
    obtain ⟨hne, hclean⟩ := h
    have hoperands : parseOperands (joinWords words ++ ')' :: rest) = some (words, rest) :=
      parseOperands_text hne hclean
    rw [Value.text]
    cases htext : joinWords words ++ ')' :: rest with
    | nil => rw [htext] at hoperands; cases hoperands
    | cons c text =>
      rw [htext] at hoperands
      have hc : c ≠ quote := by
        rintro rfl
        rw [parseOperands] at hoperands
        simp [quote, isSeparator, isDelimiter] at hoperands
      rw [parseValue, if_neg hc, hoperands]
      rfl

theorem parseClause_text {clause : Clause} (h : clause.Clean) :
    parseClause (clause.word ++ '(' :: (clause.value.text ++ ')' :: rest)) =
      some (clause, rest) := by
  rw [parseClause, parseWord_text h.1]
  simp only [parseValue_text h.2]
  rfl

theorem Clause.text_append (clause : Clause) (rest : Text) :
    clause.text ++ rest = ' ' :: (clause.word ++ '(' :: (clause.value.text ++ ')' :: rest)) := by
  simp only [Clause.text, List.cons_append, List.append_assoc, List.nil_append]

variable {clauses : List Clause}

theorem parseClauses_text {fuel : Nat} (hfuel : clauses.length ≤ fuel)
    (h : ∀ clause ∈ clauses, clause.Clean) :
    parseClauses fuel (clausesText clauses) = some clauses := by
  induction clauses generalizing fuel with
  | nil => cases fuel <;> rfl
  | cons clause clauses ih =>
    cases fuel with
    | zero => exact absurd hfuel (Nat.not_succ_le_zero _)
    | succ fuel =>
      have htail := ih (Nat.le_of_succ_le_succ hfuel)
        fun next hnext => h next (List.mem_cons_of_mem _ hnext)
      rw [clausesText, List.flatMap_cons, ← clausesText, Clause.text_append, parseClauses,
        if_pos rfl, parseClause_text (h clause List.mem_cons_self)]
      exact congrArg (Option.map (clause :: ·)) htail

theorem length_clauses_le (clauses : List Clause) :
    clauses.length ≤ (clausesText clauses).length := by
  induction clauses with
  | nil => exact Nat.le_refl _
  | cons clause clauses ih =>
    rw [clausesText, List.flatMap_cons, ← clausesText, List.length_append, List.length_cons,
      Clause.text, List.cons_append, List.cons_append, List.length_cons]
    omega

/-- **Round trip.** Clean clauses are read back from the text of their command. -/
theorem parseCommand_text (name : Text) (h : ∀ clause ∈ clauses, clause.Clean) :
    parseCommand name (name ++ clausesText clauses) = some clauses := by
  rw [parseCommand, if_pos (List.isPrefixOf_iff_prefix.mpr (List.prefix_append _ _)),
    List.drop_left]
  apply parseClauses_text _ h
  rw [List.length_append]
  exact Nat.le_trans (length_clauses_le clauses) (Nat.le_add_left _ _)

/-! ## What is read is clean and as long as its text -/

theorem parseWord_sound (h : parseWord text = some (word, rest)) :
    CleanWord word ∧ text.length = word.length + 1 + rest.length := by
  induction text generalizing word with
  | nil => cases h
  | cons c text ih =>
    rw [parseWord] at h
    split at h
    next =>
      cases h
      refine ⟨fun d hd => absurd hd List.not_mem_nil, ?_⟩
      simp only [List.length_cons, List.length_nil]
      omega
    next =>
      split at h
      next => cases h
      next hc =>
        obtain ⟨⟨tail, rest'⟩, htail, heq⟩ := Option.map_eq_some_iff.mp h
        cases heq
        obtain ⟨hclean, hlength⟩ := ih htail
        refine ⟨List.forall_mem_cons.mpr ⟨Bool.eq_false_iff.mpr hc, hclean⟩, ?_⟩
        simp only [List.length_cons, hlength]
        omega

theorem length_joinWords_cons {first : Text} :
    (joinWords ((c :: first) :: words)).length = (joinWords (first :: words)).length + 1 := by
  cases words <;> simp only [joinWords, List.cons_append, List.length_cons]

theorem parseOperands_sound (h : parseOperands text = some (words, rest)) :
    (words ≠ [] ∧ ∀ word ∈ words, CleanWord word) ∧
      text.length = (joinWords words).length + 1 + rest.length := by
  induction text generalizing words with
  | nil => cases h
  | cons c text ih =>
    rw [parseOperands] at h
    split at h
    next =>
      cases h
      refine ⟨⟨List.cons_ne_nil _ _, ?_⟩, ?_⟩
      · simp [CleanWord]
      · simp only [joinWords, List.length_cons, List.length_nil]
        omega
    next =>
      split at h
      next =>
        obtain ⟨⟨tail, rest'⟩, htail, heq⟩ := Option.map_eq_some_iff.mp h
        cases heq
        obtain ⟨⟨hne, hclean⟩, hlength⟩ := ih htail
        refine ⟨⟨List.cons_ne_nil _ _, List.forall_mem_cons.mpr
          ⟨fun d hd => absurd hd List.not_mem_nil, hclean⟩⟩, ?_⟩
        cases tail with
        | nil => exact absurd rfl hne
        | cons next tail =>
          simp only [joinWords, List.nil_append, List.length_cons, hlength]
          omega
      next =>
        split at h
        next => cases h
        next hc =>
          split at h
          next first tail rest' htail =>
            cases h
            obtain ⟨⟨-, hclean⟩, hlength⟩ := ih htail
            obtain ⟨hfirst, hothers⟩ := List.forall_mem_cons.mp hclean
            refine ⟨⟨List.cons_ne_nil _ _, List.forall_mem_cons.mpr
              ⟨List.forall_mem_cons.mpr ⟨Bool.eq_false_iff.mpr hc, hfirst⟩, hothers⟩⟩, ?_⟩
            rw [length_joinWords_cons, List.length_cons, hlength]
            omega
          next => cases h
          next => cases h

theorem parseQuoted_sound {value : Text} (h : parseQuoted text = some (value, rest)) :
    (∀ c ∈ value, isQuotable c = true) ∧ text.length = value.length + 2 + rest.length := by
  induction text generalizing value with
  | nil => cases h
  | cons c text ih =>
    rw [parseQuoted] at h
    split at h
    next =>
      unfold parseClosing at h
      split at h
      next =>
        cases h
        refine ⟨fun d hd => absurd hd List.not_mem_nil, ?_⟩
        simp only [List.length_cons, List.length_nil]
        omega
      next => cases h
    next hquote =>
      split at h
      next => cases h
      next hzero =>
        obtain ⟨⟨tail, rest'⟩, htail, heq⟩ := Option.map_eq_some_iff.mp h
        cases heq
        obtain ⟨hclean, hlength⟩ := ih htail
        refine ⟨List.forall_mem_cons.mpr ⟨?_, hclean⟩, ?_⟩
        · simp [isQuotable, hquote, hzero]
        · simp only [List.length_cons, hlength]
          omega

theorem parseValue_sound {value : Value} (h : parseValue text = some (value, rest)) :
    value.Clean ∧ text.length = value.text.length + 1 + rest.length := by
  cases text with
  | nil => cases h
  | cons c text =>
    rw [parseValue] at h
    split at h
    next =>
      obtain ⟨⟨quoted, rest'⟩, hquoted, heq⟩ := Option.map_eq_some_iff.mp h
      cases heq
      obtain ⟨hclean, hlength⟩ := parseQuoted_sound hquoted
      refine ⟨hclean, ?_⟩
      simp only [Value.text, List.length_cons, List.length_append, List.length_nil, hlength]
      omega
    next =>
      obtain ⟨⟨words, rest'⟩, hwords, heq⟩ := Option.map_eq_some_iff.mp h
      cases heq
      exact parseOperands_sound hwords

theorem parseClause_sound {clause : Clause} (h : parseClause text = some (clause, rest)) :
    clause.Clean ∧ text.length + 1 = clause.text.length + rest.length := by
  rw [parseClause] at h
  split at h
  next => cases h
  next word afterWord hword =>
    obtain ⟨⟨value, rest'⟩, hvalue, heq⟩ := Option.map_eq_some_iff.mp h
    cases heq
    obtain ⟨hcleanWord, hlengthWord⟩ := parseWord_sound hword
    obtain ⟨hcleanValue, hlengthValue⟩ := parseValue_sound hvalue
    refine ⟨⟨hcleanWord, hcleanValue⟩, ?_⟩
    simp only [Clause.text, List.length_append, List.length_cons, List.length_nil]
    omega

theorem parseClauses_sound {fuel : Nat} (h : parseClauses fuel text = some clauses) :
    (∀ clause ∈ clauses, clause.Clean) ∧ text.length = (clausesText clauses).length := by
  induction fuel generalizing text clauses with
  | zero =>
    cases text with
    | nil => cases h; exact ⟨fun _ hmem => absurd hmem List.not_mem_nil, rfl⟩
    | cons => cases h
  | succ fuel ih =>
    cases text with
    | nil => cases h; exact ⟨fun _ hmem => absurd hmem List.not_mem_nil, rfl⟩
    | cons c text =>
      rw [parseClauses] at h
      split at h
      next =>
        split at h
        next => cases h
        next clause rest hclause =>
          obtain ⟨tail, htail, rfl⟩ := Option.map_eq_some_iff.mp h
          obtain ⟨hclean, hlength⟩ := parseClause_sound hclause
          obtain ⟨hcleanTail, hlengthTail⟩ := ih htail
          refine ⟨List.forall_mem_cons.mpr ⟨hclean, hcleanTail⟩, ?_⟩
          rw [clausesText, List.flatMap_cons, ← clausesText, List.length_append, List.length_cons,
            hlength, hlengthTail]
      next => cases h

/-- **What is read.** A command that is read has clean clauses, and its text is as long as theirs. -/
theorem parseCommand_sound {name : Text} (h : parseCommand name text = some clauses) :
    (∀ clause ∈ clauses, clause.Clean) ∧
      text.length = (name ++ clausesText clauses).length := by
  rw [parseCommand] at h
  split at h
  next hname =>
    obtain ⟨rest, rfl⟩ := List.isPrefixOf_iff_prefix.mp hname
    rw [List.drop_left] at h
    obtain ⟨hclean, hlength⟩ := parseClauses_sound h
    exact ⟨hclean, by rw [List.length_append, List.length_append, hlength]⟩
  next => cases h

/-- **Cut text.** The text of clean clauses is read back from as many of its characters as there
are at most, exactly when it is whole. -/
theorem parseCommand_take_iff (name : Text) (size : Nat) (h : ∀ clause ∈ clauses, clause.Clean) :
    parseCommand name ((name ++ clausesText clauses).take size) = some clauses ↔
      (name ++ clausesText clauses).length ≤ size := by
  constructor
  · intro hread
    have hlength := (parseCommand_sound hread).2
    rw [List.length_take] at hlength
    omega
  · intro hsize
    rw [List.take_of_length_le hsize]
    exact parseCommand_text name h

end Zss.Lib.KeywordText
