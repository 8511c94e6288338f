import Mathlib.Data.List.TakeWhile

/-!
# JSON texts

A reader takes a JSON value from the front of a text and leaves the rest. Which characters a string
may hold as they are, and what an escape stands for, is left to the rules of a parser
(`StringRules`). A number is kept as its literal.

What is read does not depend on what follows (`readValue_append`), and a string that is read as its
own text holds no character that needs an escape (`readString_self`).
-/

namespace Zss.Lib.JsonText

abbrev Text := List Char

inductive Value where
  | null
  | boolean (b : Bool)
  | number (literal : Text)
  | string (text : Text)
  | array (items : List Value)
  | object (members : List (Text × Value))

/-- The members of an object. -/
def Value.asObject : Value → Option (List (Text × Value))
  | .object members => some members
  | _ => none

/-- The character that begins an escape. -/
def backslash : Char := Char.ofNat 92

/-- The characters a string may hold as they are, and what the text behind a backslash stands for. An
escape stands for no more than it takes, takes no quotation mark but where it stands for one, and
does not depend on what follows. -/
structure StringRules where
  raw : Char → Bool
  escape : Text → Option (Text × Text)
  escape_uses : ∀ {text stands rest : Text}, escape text = some (stands, rest) →
    ∃ used, text = used ++ rest ∧ stands.length ≤ used.length ∧
      ('"' ∈ used → used = ['"'] ∧ stands = ['"'])
  escape_append : ∀ {text stands rest : Text}, escape text = some (stands, rest) →
    ∀ more, escape (text ++ more) = some (stands, rest ++ more)

/-! ## Words -/

/-- The part of a number behind its fraction. -/
def exponentPart : Text → Bool
  | [] => true
  | c :: t =>
    let digits := match t with
      | '+' :: t => t
      | '-' :: t => t
      | t => t
    (c = 'e' || c = 'E') && digits ≠ [] && digits.all Char.isDigit

/-- The part of a number behind its integer. -/
def fractionPart : Text → Bool
  | '.' :: t => t.takeWhile Char.isDigit ≠ [] && exponentPart (t.dropWhile Char.isDigit)
  | t => exponentPart t

def unsignedLiteral (t : Text) : Bool :=
  let integer := t.takeWhile Char.isDigit
  integer ≠ [] && (integer.head? ≠ some '0' || integer = ['0']) &&
    fractionPart (t.dropWhile Char.isDigit)

/-- A number as JSON writes it. -/
def numberLiteral : Text → Bool
  | '-' :: t => unsignedLiteral t
  | t => unsignedLiteral t

/-- The characters of numbers and of the three names. -/
def wordChar (c : Char) : Bool := c.isAlphanum || c = '+' || c = '-' || c = '.'

def wordValue (word : Text) : Option Value :=
  if word = "true".toList then some (.boolean true)
  else if word = "false".toList then some (.boolean false)
  else if word = "null".toList then some .null
  else if numberLiteral word then some (.number word)
  else none

def readWord (t : Text) : Option (Value × Text) :=
  (wordValue (t.takeWhile wordChar)).map (·, t.dropWhile wordChar)

/-! ## Blanks -/

def blank (c : Char) : Bool := c = ' ' || c = '\t' || c = '\n' || c = '\r'

def skipBlanks (t : Text) : Text := t.dropWhile blank

/-- What is behind a character, where it comes next. -/
def after (c : Char) (t : Text) : Option Text :=
  match skipBlanks t with
  | [] => none
  | d :: rest => if d = c then some rest else none

/-! ## Reading -/

section

variable (rules : StringRules)

/-- The rest of a string, in so many steps. -/
def readString : Nat → Text → Option (Text × Text)
  | 0, _ => none
  | _ + 1, [] => none
  | n + 1, c :: t =>
    if c = '"' then some ([], t)
    else if c = backslash then
      (rules.escape t).bind fun e => (readString n e.2).map fun p => (e.1 ++ p.1, p.2)
    else if rules.raw c then (readString n t).map fun p => (c :: p.1, p.2)
    else none

/-- The rest of a string. -/
def readQuoted (t : Text) : Option (Text × Text) := readString rules (t.length + 1) t

/-- A member of an object, its value read by a function. -/
def readMember (read : Text → Option (Value × Text)) (t : Text) :
    Option ((Text × Value) × Text) :=
  (after '"' t).bind fun t =>
    (readQuoted rules t).bind fun key =>
      (after ':' key.2).bind fun t =>
        (read (skipBlanks t)).map fun value => ((key.1, value.1), value.2)

/-- An array behind its bracket, its items read by a function. -/
def readArray (readItems : Text → Option (List Value × Text)) (t : Text) : Option (Value × Text) :=
  match after ']' t with
  | some rest => some (.array [], rest)
  | none => (readItems (skipBlanks t)).map fun p => (.array p.1, p.2)

/-- An object behind its brace, its members read by a function. -/
def readObject (readMembers : Text → Option (List (Text × Value) × Text)) (t : Text) :
    Option (Value × Text) :=
  match after '\x7d' t with
  | some rest => some (.object [], rest)
  | none => (readMembers t).map fun p => (.object p.1, p.2)

mutual

/-- A value, in so many steps. -/
def readValue : Nat → Text → Option (Value × Text)
  | 0, _ => none
  | _ + 1, [] => none
  | n + 1, c :: t =>
    if c = '"' then (readQuoted rules t).map fun p => (.string p.1, p.2)
    else if c = '[' then readArray (readItems n) t
    else if c = '\x7b' then readObject (readMembers n) t
    else readWord (c :: t)

/-- The items of an array, up to the bracket that closes it. -/
def readItems : Nat → Text → Option (List Value × Text)
  | 0, _ => none
  | n + 1, t =>
    (readValue n t).bind fun item =>
      match after ']' item.2 with
      | some rest => some ([item.1], rest)
      | none =>
        (after ',' item.2).bind fun t =>
          (readItems n (skipBlanks t)).map fun p => (item.1 :: p.1, p.2)

/-- The members of an object, up to the brace that closes it. -/
def readMembers : Nat → Text → Option (List (Text × Value) × Text)
  | 0, _ => none
  | n + 1, t =>
    (readMember rules (readValue n) t).bind fun member =>
      match after '\x7d' member.2 with
      | some rest => some ([member.1], rest)
      | none =>
        (after ',' member.2).bind fun t =>
          (readMembers n t).map fun p => (member.1 :: p.1, p.2)

end

/-- The value of a text. -/
def parse (t : Text) : Option Value :=
  (readValue rules ((skipBlanks t).length + 1) (skipBlanks t)).bind fun p =>
    if skipBlanks p.2 = [] then some p.1 else none

end

/-! ## Strings -/

section

variable {rules : StringRules}

/-- A character that a string holds as it is. -/
def StringRules.Itself (rules : StringRules) (c : Char) : Prop :=
  c ≠ '"' ∧ c ≠ backslash ∧ rules.raw c = true

instance (rules : StringRules) (c : Char) : Decidable (rules.Itself c) :=
  inferInstanceAs (Decidable (c ≠ '"' ∧ c ≠ backslash ∧ rules.raw c = true))

/-- Whether every character of a text stands for itself can be computed. -/
theorem itself_of_all {text : Text} (h : (text.all fun c => decide (rules.Itself c)) = true) :
    ∀ c ∈ text, rules.Itself c :=
  fun c hc => of_decide_eq_true (List.all_eq_true.mp h c hc)

theorem readString_quote (n : Nat) (t : Text) : readString rules (n + 1) ('"' :: t) = some ([], t) :=
  rfl

theorem readString_escape (n : Nat) (t : Text) :
    readString rules (n + 1) (backslash :: t) =
      (rules.escape t).bind fun e => (readString rules n e.2).map fun p => (e.1 ++ p.1, p.2) :=
  rfl

theorem readString_itself {c : Char} (hc : rules.Itself c) (n : Nat) (t : Text) :
    readString rules (n + 1) (c :: t) = (readString rules n t).map fun p => (c :: p.1, p.2) := by
  rw [readString, if_neg hc.1, if_neg hc.2.1, if_pos hc.2.2]

/-- How the rest of a string begins that can be read. -/
theorem readString_cases {n : Nat} {t d r : Text} (h : readString rules n t = some (d, r)) :
    ∃ m, n = m + 1 ∧
      ((t = '"' :: r ∧ d = []) ∨
        (∃ t' stands rest d', t = backslash :: t' ∧ rules.escape t' = some (stands, rest) ∧
          readString rules m rest = some (d', r) ∧ d = stands ++ d') ∨
        ∃ c t' d', t = c :: t' ∧ rules.Itself c ∧ readString rules m t' = some (d', r) ∧
          d = c :: d') := by
  cases n with
  | zero => cases h
  | succ m =>
    refine ⟨m, rfl, ?_⟩
    cases t with
    | nil => cases h
    | cons c t =>
      rw [readString] at h
      split at h
      next hc =>
        cases h
        rw [hc]
        exact .inl ⟨rfl, rfl⟩
      next hquote =>
        split at h
        next hc =>
          obtain ⟨⟨stands, rest⟩, hescape, h⟩ := Option.bind_eq_some_iff.mp h
          obtain ⟨⟨d', r'⟩, hrest, h⟩ := Option.map_eq_some_iff.mp h
          cases h
          exact .inr (.inl ⟨t, stands, rest, d', congrArg (· :: t) hc, hescape, hrest, rfl⟩)
        next hbackslash =>
          split at h
          next hraw =>
            obtain ⟨⟨d', r'⟩, hrest, h⟩ := Option.map_eq_some_iff.mp h
            cases h
            exact .inr (.inr ⟨c, t, d', rfl, ⟨hquote, hbackslash, hraw⟩, hrest, rfl⟩)
          next => cases h

/-- A string stands for no more than it takes, and a quotation mark ends it. -/
theorem readString_uses {n : Nat} {t d r : Text} (h : readString rules n t = some (d, r)) :
    ∃ used, t = used ++ '"' :: r ∧ d.length ≤ used.length := by
  induction n generalizing t d with
  | zero => cases h
  | succ n ih =>
    obtain ⟨m, hm, h⟩ := readString_cases h
    cases hm
    rcases h with ⟨rfl, rfl⟩ | ⟨t', stands, rest, d', rfl, hescape, hrest, rfl⟩ |
      ⟨c, t', d', rfl, -, hrest, rfl⟩
    · exact ⟨[], rfl, Nat.le_refl _⟩
    · obtain ⟨used', hused', hle', -⟩ := rules.escape_uses hescape
      obtain ⟨used, hused, hle⟩ := ih hrest
      refine ⟨backslash :: (used' ++ used), ?_, ?_⟩
      · rw [hused', hused, List.cons_append, List.append_assoc]
      · rw [List.length_append, List.length_cons, List.length_append]
        omega
    · obtain ⟨used, hused, hle⟩ := ih hrest
      exact ⟨c :: used, congrArg (c :: ·) hused, Nat.succ_le_succ hle⟩

theorem readString_append {n m : Nat} (hnm : n ≤ m) {t d r : Text}
    (h : readString rules n t = some (d, r)) (more : Text) :
    readString rules m (t ++ more) = some (d, r ++ more) := by
  induction n generalizing m t d with
  | zero => cases h
  | succ n ih =>
    obtain ⟨k, hk, h⟩ := readString_cases h
    cases hk
    obtain ⟨m, rfl⟩ := Nat.exists_eq_succ_of_ne_zero (Nat.ne_zero_of_lt hnm)
    have hle := Nat.le_of_succ_le_succ hnm
    rcases h with ⟨rfl, rfl⟩ | ⟨t', stands, rest, d', rfl, hescape, hrest, rfl⟩ |
      ⟨c, t', d', rfl, hc, hrest, rfl⟩
    · exact readString_quote m (r ++ more)
    · rw [List.cons_append, readString_escape, rules.escape_append hescape, Option.bind_some,
        ih hle hrest]
      rfl
    · rw [List.cons_append, readString_itself hc, ih hle hrest]
      rfl

/-- A text whose characters all stand for themselves is read up to the quotation mark behind it. -/
theorem readString_plain {t : Text} (ht : ∀ c ∈ t, rules.Itself c) {n : Nat} (hn : t.length < n)
    (rest : Text) : readString rules n (t ++ '"' :: rest) = some (t, rest) := by
  induction t generalizing n with
  | nil =>
    obtain ⟨n, rfl⟩ := Nat.exists_eq_succ_of_ne_zero (Nat.ne_zero_of_lt hn)
    exact readString_quote n rest
  | cons c t ih =>
    obtain ⟨n, rfl⟩ := Nat.exists_eq_succ_of_ne_zero (Nat.ne_zero_of_lt hn)
    rw [List.cons_append, readString_itself (ht c (List.mem_cons_self ..)),
      ih (fun d hd => ht d (List.mem_cons_of_mem _ hd)) (Nat.lt_of_succ_lt_succ hn)]
    rfl

/-- What a text begins with that does not have the element behind a front of it is within the
front. -/
theorem append_of_append_cons {α : Type} {x : α} {a b used rest : List α}
    (h : a ++ x :: b = used ++ rest) (hx : x ∉ used) : ∃ a', a = used ++ a' ∧ rest = a' ++ x :: b := by
  rcases List.append_eq_append_iff.mp h with ⟨e, hu, hq⟩ | ⟨e, hu, hq⟩
  · cases e with
    | nil => exact ⟨[], by rw [hu, List.append_nil, List.append_nil], hq.symm⟩
    | cons y e =>
      injection hq with hy _
      rw [hu, ← hy] at hx
      exact absurd (List.mem_append_right _ (List.mem_cons_self ..)) hx
  · exact ⟨e, hu, hq⟩

/-- A text without quotation marks is not read beyond the one behind it, unless what it stands for
has one; and as many characters as it has are only these. -/
theorem readString_stops {n : Nat} {a b d r : Text} (ha : '"' ∉ a)
    (h : readString rules n (a ++ '"' :: b) = some (d, r)) :
    '"' ∈ d.take a.length ∨
      r = b ∧ d.length ≤ a.length ∧ (d.length = a.length → ∀ c ∈ a, rules.Itself c) := by
  induction n generalizing a d with
  | zero => cases h
  | succ n ih =>
    obtain ⟨m, hm, h⟩ := readString_cases h
    cases hm
    rcases h with ⟨ht, rfl⟩ | ⟨t', stands, rest, d', ht, hescape, hrest, rfl⟩ |
      ⟨c, t', d', ht, hc, hrest, rfl⟩
    · cases a with
      | nil =>
        cases ht
        exact .inr ⟨rfl, Nat.le_refl _, fun _ _ hc => absurd hc List.not_mem_nil⟩
      | cons c a =>
        cases ht
        exact absurd (List.mem_cons_self ..) ha
    · cases a with
      | nil => cases ht
      | cons c a =>
        rw [List.cons_append] at ht
        injection ht with _ ht
        obtain ⟨used, hused, hle, hquote⟩ := rules.escape_uses hescape
        have ha' : '"' ∉ a := fun hmem => ha (List.mem_cons_of_mem _ hmem)
        by_cases hmem : '"' ∈ used
        · obtain ⟨-, rfl⟩ := hquote hmem
          exact .inl (List.mem_cons_self ..)
        · -- the escape ends before the quotation mark behind the text
          obtain ⟨a', rfl, hrest'⟩ := append_of_append_cons (ht.trans hused) hmem
          rw [hrest'] at hrest
          rcases ih (fun h => ha' (List.mem_append_right _ h)) hrest with h | ⟨hr, hlen, -⟩
          · left
            rw [List.take_append, List.mem_append]
            right
            refine List.take_subset_take_left _ ?_ h
            rw [List.length_cons, List.length_append]
            omega
          · right
            refine ⟨hr, ?_, fun heq => ?_⟩
            · rw [List.length_append, List.length_cons, List.length_append]
              omega
            · rw [List.length_append, List.length_cons, List.length_append] at heq
              omega
    · cases a with
      | nil =>
        cases ht
        exact absurd rfl hc.1
      | cons x a =>
        rw [List.cons_append] at ht
        injection ht with hx ht
        subst hx
        subst ht
        rcases ih (fun hmem => ha (List.mem_cons_of_mem _ hmem)) hrest with h | ⟨hr, hlen, hitself⟩
        · exact .inl (List.mem_cons_of_mem _ h)
        · refine .inr ⟨hr, Nat.succ_le_succ hlen, fun heq c' hc' => ?_⟩
          rcases List.mem_cons.mp hc' with rfl | hmem
          · exact hc
          · exact hitself (Nat.succ.inj heq) c' hmem

/-- **A string that is read as its own text** has only characters that stand for themselves, and ends
at the quotation mark behind it. -/
theorem readString_self {n : Nat} {t rest r : Text}
    (h : readString rules n (t ++ '"' :: rest) = some (t, r)) :
    (∀ c ∈ t, rules.Itself c) ∧ r = rest := by
  have hquote : '"' ∉ t := by
    intro hmem
    obtain ⟨a, b, rfl, ha⟩ := List.eq_append_cons_of_mem hmem
    rw [List.append_assoc, List.cons_append] at h
    rcases readString_stops ha h with hmem | ⟨-, hlen, -⟩
    · rw [List.take_left] at hmem
      exact ha hmem
    · rw [List.length_append, List.length_cons] at hlen
      omega
  rcases readString_stops hquote h with hmem | ⟨hr, -, hitself⟩
  · rw [List.take_length] at hmem
    exact absurd hmem hquote
  · exact ⟨hitself rfl, hr⟩

end

/-! ## What follows does not matter -/

theorem skipBlanks_cons {c : Char} (hc : blank c = false) (t : Text) : skipBlanks (c :: t) = c :: t :=
  List.dropWhile_cons_of_neg (ne_true_of_eq_false hc)

theorem skipBlanks_append {t : Text} (ht : skipBlanks t ≠ []) (more : Text) :
    skipBlanks (t ++ more) = skipBlanks t ++ more := by
  rw [skipBlanks, List.dropWhile_append, if_neg (by simpa [skipBlanks] using ht)]
  rfl

theorem after_eq_some {c : Char} {t rest : Text} :
    after c t = some rest ↔ skipBlanks t = c :: rest := by
  rw [after]
  split
  next h => simp [h]
  next d rest' h =>
    rw [h]
    constructor
    · intro heq
      split at heq
      next hd =>
        cases heq
        rw [hd]
      next => cases heq
    · intro heq
      cases heq
      exact if_pos rfl

theorem after_append {c : Char} {t rest : Text} (h : after c t = some rest) (more : Text) :
    after c (t ++ more) = some (rest ++ more) := by
  rw [after_eq_some] at h ⊢
  rw [skipBlanks_append (by rw [h]; exact List.cons_ne_nil c rest), h]
  rfl

/-- Another character comes next. -/
theorem after_append_none {c d : Char} (hcd : c ≠ d) {t rest : Text} (h : after d t = some rest)
    (more : Text) : after c (t ++ more) = none := by
  rw [after, after_eq_some.mp (after_append h more)]
  exact if_neg (Ne.symm hcd)

/-- What comes next in a text that is not blank comes next with more behind it. -/
theorem after_none_append {c : Char} {t : Text} (h : after c t = none) (ht : skipBlanks t ≠ [])
    (more : Text) : after c (t ++ more) = none := by
  rw [after] at h
  rw [after, skipBlanks_append ht]
  cases hskip : skipBlanks t with
  | nil => exact absurd hskip ht
  | cons d rest =>
    rw [hskip] at h
    dsimp only at h
    rw [List.cons_append]
    dsimp only
    split
    next hd =>
      rw [if_pos hd] at h
      cases h
    next => rfl

/-- A text is not empty in which a character comes next. -/
theorem ne_nil_of_after {c : Char} {t rest : Text} (h : after c t = some rest) : t ≠ [] := by
  rintro rfl
  cases h

/-- A word ends where a text does: there is more of the text, or what follows begins no word. -/
def Parted (rest more : Text) : Prop := rest ≠ [] ∨ ∀ c ∈ more.head?, wordChar c = false

theorem parted_of_after {c : Char} {t rest : Text} (h : after c t = some rest) (more : Text) :
    Parted t more :=
  .inl (ne_nil_of_after h)

/-- The word at the front of a text is the same with more behind the text. -/
theorem word_append {t more : Text} (hmore : Parted (t.dropWhile wordChar) more) :
    (t ++ more).takeWhile wordChar = t.takeWhile wordChar ∧
      (t ++ more).dropWhile wordChar = t.dropWhile wordChar ++ more := by
  have hsplit := List.takeWhile_append_dropWhile (p := wordChar) (l := t)
  have hword : ∀ c ∈ t.takeWhile wordChar, wordChar c = true :=
    fun c hc => List.mem_takeWhile_imp hc
  -- what is behind the word begins none
  have hrest : (t.dropWhile wordChar ++ more).takeWhile wordChar = [] ∧
      (t.dropWhile wordChar ++ more).dropWhile wordChar = t.dropWhile wordChar ++ more := by
    have hhead : ∀ c ∈ (t.dropWhile wordChar ++ more).head?, wordChar c = false := by
      have hdrop := List.head?_dropWhile_not wordChar t
      cases hr : t.dropWhile wordChar with
      | nil => exact hmore.resolve_left (fun hne => hne hr)
      | cons d r =>
        rw [hr] at hdrop
        intro c hc
        cases hc
        simpa using hdrop
    cases hall : t.dropWhile wordChar ++ more with
    | nil => exact ⟨rfl, rfl⟩
    | cons c u =>
      have hc : wordChar c = false := hhead c (by rw [hall]; rfl)
      exact ⟨List.takeWhile_cons_of_neg (ne_true_of_eq_false hc),
        List.dropWhile_cons_of_neg (ne_true_of_eq_false hc)⟩
  have htext : t ++ more = t.takeWhile wordChar ++ (t.dropWhile wordChar ++ more) := by
    rw [← List.append_assoc, hsplit]
  constructor
  · rw [htext, List.takeWhile_append_of_pos hword, hrest.1, List.append_nil]
  · rw [htext, List.dropWhile_append_of_pos hword, hrest.2]

theorem readWord_append {t r : Text} {v : Value} (h : readWord t = some (v, r)) {more : Text}
    (hmore : Parted r more) : readWord (t ++ more) = some (v, r ++ more) := by
  obtain ⟨value, hvalue, h⟩ := Option.map_eq_some_iff.mp h
  cases h
  obtain ⟨htake, hdrop⟩ := word_append hmore
  rw [readWord, htake, hdrop, hvalue]
  rfl

section

variable {rules : StringRules}

theorem readQuoted_append {t d r : Text} (h : readQuoted rules t = some (d, r)) (more : Text) :
    readQuoted rules (t ++ more) = some (d, r ++ more) := by
  refine readString_append ?_ h more
  rw [List.length_append]
  omega

variable {more : Text}

theorem readMember_append {read read' : Text → Option (Value × Text)} (hnil : read [] = none)
    (hread : ∀ {t r : Text} {v : Value}, read t = some (v, r) → Parted r more →
      read' (t ++ more) = some (v, r ++ more))
    {t r : Text} {member : Text × Value} (h : readMember rules read t = some (member, r))
    (hmore : Parted r more) : readMember rules read' (t ++ more) = some (member, r ++ more) := by
  obtain ⟨t₁, hquote, h⟩ := Option.bind_eq_some_iff.mp h
  obtain ⟨⟨key, t₂⟩, hkey, h⟩ := Option.bind_eq_some_iff.mp h
  obtain ⟨t₃, hcolon, h⟩ := Option.bind_eq_some_iff.mp h
  obtain ⟨⟨v, r'⟩, hvalue, h⟩ := Option.map_eq_some_iff.mp h
  cases h
  have hblanks : skipBlanks t₃ ≠ [] := by
    intro hempty
    rw [hempty, hnil] at hvalue
    cases hvalue
  rw [readMember, after_append hquote, Option.bind_some, readQuoted_append hkey, Option.bind_some,
    after_append hcolon, Option.bind_some, skipBlanks_append hblanks, hread hvalue hmore]
  rfl

theorem readArray_append {items items' : Text → Option (List Value × Text)} (hnil : items [] = none)
    (hitems : ∀ {t r : Text} {vs : List Value}, items t = some (vs, r) →
      items' (t ++ more) = some (vs, r ++ more))
    {t r : Text} {v : Value} (h : readArray items t = some (v, r)) :
    readArray items' (t ++ more) = some (v, r ++ more) := by
  rw [readArray] at h
  split at h
  next rest hclose =>
    cases h
    rw [readArray, after_append hclose]
  next hclose =>
    obtain ⟨⟨vs, r'⟩, hvs, h⟩ := Option.map_eq_some_iff.mp h
    cases h
    have hblanks : skipBlanks t ≠ [] := by
      intro hempty
      rw [hempty, hnil] at hvs
      cases hvs
    rw [readArray, after_none_append hclose hblanks, skipBlanks_append hblanks, hitems hvs]
    rfl

theorem readObject_append {members members' : Text → Option (List (Text × Value) × Text)}
    (hblank : ∀ t, skipBlanks t = [] → members t = none)
    (hmembers : ∀ {t r : Text} {ms : List (Text × Value)}, members t = some (ms, r) →
      members' (t ++ more) = some (ms, r ++ more))
    {t r : Text} {v : Value} (h : readObject members t = some (v, r)) :
    readObject members' (t ++ more) = some (v, r ++ more) := by
  rw [readObject] at h
  split at h
  next rest hclose =>
    cases h
    rw [readObject, after_append hclose]
  next hclose =>
    obtain ⟨⟨ms, r'⟩, hms, h⟩ := Option.map_eq_some_iff.mp h
    cases h
    have hblanks : skipBlanks t ≠ [] := by
      intro hempty
      rw [hblank t hempty] at hms
      cases hms
    rw [readObject, after_none_append hclose hblanks, hmembers hms]
    rfl

theorem readValue_nil (n : Nat) : readValue rules n [] = none := by
  cases n <;> rfl

theorem readItems_nil (n : Nat) : readItems rules n [] = none := by
  cases n with
  | zero => rfl
  | succ n => rw [readItems, readValue_nil, Option.bind_none]

theorem readMembers_blank (n : Nat) {t : Text} (ht : skipBlanks t = []) :
    readMembers rules n t = none := by
  cases n with
  | zero => rfl
  | succ n =>
    have hquote : after '"' t = none := by rw [after, ht]
    rw [readMembers, readMember, hquote, Option.bind_none, Option.bind_none]

mutual

/-- **A value is read the same** with more behind the text and more steps. -/
theorem readValue_append {n m : Nat} (hnm : n ≤ m) {t r : Text} {v : Value}
    (h : readValue rules n t = some (v, r)) (hmore : Parted r more) :
    readValue rules m (t ++ more) = some (v, r ++ more) := by
  match n, m, t, h with
  | n + 1, m + 1, c :: t, h =>
    have hle := Nat.le_of_succ_le_succ hnm
    rw [readValue] at h
    rw [List.cons_append, readValue]
    split
    next hc =>
      rw [if_pos hc] at h
      obtain ⟨⟨text, r'⟩, htext, h⟩ := Option.map_eq_some_iff.mp h
      cases h
      rw [readQuoted_append htext]
      rfl
    next hquote =>
      rw [if_neg hquote] at h
      split
      next hc =>
        rw [if_pos hc] at h
        exact readArray_append (readItems_nil n) (readItems_append hle) h
      next hbracket =>
        rw [if_neg hbracket] at h
        split
        next hc =>
          rw [if_pos hc] at h
          exact readObject_append (fun _ => readMembers_blank n) (readMembers_append hle) h
        next hbrace =>
          rw [if_neg hbrace] at h
          exact readWord_append h hmore

theorem readItems_append {n m : Nat} (hnm : n ≤ m) {t r : Text} {vs : List Value}
    (h : readItems rules n t = some (vs, r)) :
    readItems rules m (t ++ more) = some (vs, r ++ more) := by
  match n, m, h with
  | n + 1, m + 1, h =>
    have hle := Nat.le_of_succ_le_succ hnm
    rw [readItems] at h
    obtain ⟨⟨v, t₁⟩, hvalue, h⟩ := Option.bind_eq_some_iff.mp h
    dsimp only at h
    split at h
    next rest hclose =>
      cases h
      rw [readItems, readValue_append hle hvalue (parted_of_after hclose more), Option.bind_some]
      dsimp only
      rw [after_append hclose]
    next hclose =>
      obtain ⟨t₂, hcomma, h⟩ := Option.bind_eq_some_iff.mp h
      obtain ⟨⟨vs', r'⟩, hitems, h⟩ := Option.map_eq_some_iff.mp h
      cases h
      have hblanks : skipBlanks t₂ ≠ [] := by
        intro hempty
        rw [hempty, readItems_nil] at hitems
        cases hitems
      rw [readItems, readValue_append hle hvalue (parted_of_after hcomma more), Option.bind_some]
      dsimp only
      rw [after_append_none (by decide) hcomma, after_append hcomma, Option.bind_some,
        skipBlanks_append hblanks, readItems_append hle hitems]
      rfl

theorem readMembers_append {n m : Nat} (hnm : n ≤ m) {t r : Text} {ms : List (Text × Value)}
    (h : readMembers rules n t = some (ms, r)) :
    readMembers rules m (t ++ more) = some (ms, r ++ more) := by
  match n, m, h with
  | n + 1, m + 1, h =>
    have hle := Nat.le_of_succ_le_succ hnm
    rw [readMembers] at h
    obtain ⟨⟨member, t₁⟩, hmember, h⟩ := Option.bind_eq_some_iff.mp h
    dsimp only at h
    split at h
    next rest hclose =>
      cases h
      rw [readMembers, readMember_append (readValue_nil n) (readValue_append hle) hmember
        (parted_of_after hclose more), Option.bind_some]
      dsimp only
      rw [after_append hclose]
    next hclose =>
      obtain ⟨t₂, hcomma, h⟩ := Option.bind_eq_some_iff.mp h
      obtain ⟨⟨ms', r'⟩, hmembers, h⟩ := Option.map_eq_some_iff.mp h
      cases h
      rw [readMembers, readMember_append (readValue_nil n) (readValue_append hle) hmember
        (parted_of_after hcomma more), Option.bind_some]
      dsimp only
      rw [after_append_none (by decide) hcomma, after_append hcomma, Option.bind_some,
        readMembers_append hle hmembers]
      rfl

end

/-- An object is read the same with anything behind it. -/
theorem readValue_object_append {n m : Nat} (hnm : n ≤ m) {t r : Text} {v : Value}
    (h : readValue rules n ('\x7b' :: t) = some (v, r)) (more : Text) :
    readValue rules m ('\x7b' :: (t ++ more)) = some (v, r ++ more) := by
  match n, m, h with
  | n + 1, m + 1, h =>
    exact readObject_append (fun _ => readMembers_blank n)
      (readMembers_append (Nat.le_of_succ_le_succ hnm)) h

/-- The number of steps does not matter to what is read. -/
theorem readValue_object_unique {n m : Nat} {t r r' : Text} {v v' : Value}
    (h : readValue rules n ('\x7b' :: t) = some (v, r))
    (h' : readValue rules m ('\x7b' :: t) = some (v', r')) : v = v' ∧ r = r' := by
  have hsame := readValue_object_append (Nat.le_max_left n m) h []
  rw [readValue_object_append (Nat.le_max_right n m) h' [], List.append_nil, List.append_nil] at hsame
  injection hsame with hpair
  injection hpair with hv hr
  exact ⟨hv.symm, hr.symm⟩

/-- Of an object, what its beginning is parsed to is read from the whole, and something is left of
it. -/
theorem readValue_of_parse_take {t : Text} {v : Value} {k : Nat}
    (h : parse rules (('\x7b' :: t).take k) = some v) :
    ∃ n r, readValue rules n ('\x7b' :: t) = some (v, r) ∧ (k < t.length + 1 → r ≠ []) := by
  cases k with
  | zero => cases h
  | succ k =>
    rw [List.take_succ_cons, parse, skipBlanks_cons (by decide)] at h
    obtain ⟨⟨v', r⟩, hread, h⟩ := Option.bind_eq_some_iff.mp h
    dsimp only at h
    split at h
    next =>
      cases h
      have happend := readValue_object_append (Nat.le_refl _) hread (t.drop k)
      rw [List.take_append_drop] at happend
      refine ⟨_, _, happend, fun hk hnil => ?_⟩
      have hdrop := List.drop_eq_nil_iff.mp (List.append_eq_nil_iff.mp hnil).2
      omega
    next => cases h

end

/-! ## What is read of what was written -/

section

variable {rules : StringRules}

theorem readQuoted_self_iff {text rest r : Text} :
    readQuoted rules (text ++ '"' :: rest) = some (text, r) ↔
      (∀ c ∈ text, rules.Itself c) ∧ r = rest := by
  constructor
  · exact readString_self
  · rintro ⟨hitself, rfl⟩
    refine readString_plain hitself ?_ r
    rw [List.length_append, List.length_cons]
    omega

/-- A member has the key that was written exactly if that needs no escapes. -/
theorem readMember_iff {read : Text → Option (Value × Text)} {s key t r : Text} {v : Value}
    (hs : after '"' s = some (key ++ '"' :: ':' :: t)) :
    readMember rules read s = some ((key, v), r) ↔
      (∀ c ∈ key, rules.Itself c) ∧ read (skipBlanks t) = some (v, r) := by
  have hcolon : after ':' (':' :: t) = some t := rfl
  rw [readMember, hs, Option.bind_some]
  constructor
  · intro h
    obtain ⟨⟨k, t₁⟩, hkey, h⟩ := Option.bind_eq_some_iff.mp h
    obtain ⟨t₂, hafter, h⟩ := Option.bind_eq_some_iff.mp h
    obtain ⟨⟨v', r'⟩, hvalue, h⟩ := Option.map_eq_some_iff.mp h
    cases h
    obtain ⟨hitself, rfl⟩ := readQuoted_self_iff.mp hkey
    cases hcolon.symm.trans hafter
    exact ⟨hitself, hvalue⟩
  · rintro ⟨hitself, hvalue⟩
    rw [readQuoted_self_iff.mpr ⟨hitself, rfl⟩, Option.bind_some, hcolon, Option.bind_some, hvalue]
    rfl

theorem readValue_string (n : Nat) (t : Text) :
    readValue rules (n + 1) ('"' :: t) = (readQuoted rules t).map fun p => (.string p.1, p.2) := rfl

theorem string_of_quote {n : Nat} {t r : Text} {v : Value}
    (h : readValue rules n ('"' :: t) = some (v, r)) :
    ∃ text, v = .string text ∧ readQuoted rules t = some (text, r) := by
  cases n with
  | zero => cases h
  | succ n =>
    rw [readValue_string] at h
    obtain ⟨⟨text, r'⟩, htext, h⟩ := Option.map_eq_some_iff.mp h
    cases h
    exact ⟨text, rfl, htext⟩

/-- A string that is read from a text before its quotation mark, with none behind, is not longer. -/
theorem length_le_of_readQuoted {text behind d r : Text} (hbehind : '"' ∉ behind)
    (h : readQuoted rules (text ++ '"' :: behind) = some (d, r)) : d.length ≤ text.length := by
  obtain ⟨used, hused, hle⟩ := readString_uses h
  refine Nat.le_trans hle ?_
  rcases List.append_eq_append_iff.mp hused with ⟨e, rfl, hrest⟩ | ⟨e, rfl, -⟩
  · cases e with
    | nil =>
      rw [List.append_nil]
    | cons c e =>
      injection hrest with _ hrest
      rw [hrest] at hbehind
      exact absurd (List.mem_append_right _ (List.mem_cons_self ..)) hbehind
  · rw [List.length_append]
    exact Nat.le_add_right ..

/-- A text is written as a value: with anything behind it that begins no word, it is read back. -/
structure Writes (rules : StringRules) (text : Text) (v : Value) : Prop where
  front : skipBlanks text = text
  ne_nil : text ≠ []
  reads : ∀ {n : Nat}, text.length < n → ∀ {rest : Text}, (∀ c ∈ rest.head?, wordChar c = false) →
    readValue rules n (text ++ rest) = some (v, rest)

/-- A value that is read from the whole of a text is written by it. -/
theorem writes_of_read {text : Text} {v : Value}
    (h : readValue rules (text.length + 1) text = some (v, [])) (hfront : skipBlanks text = text) :
    Writes rules text v where
  front := hfront
  ne_nil := by
    rintro rfl
    cases h
  reads hn _ hrest := readValue_append hn h (.inr hrest)

theorem writes_string {text : Text} (h : ∀ c ∈ text, rules.Itself c) :
    Writes rules ('"' :: (text ++ ['"'])) (.string text) where
  front := rfl
  ne_nil := nofun
  reads {n} hn rest _ := by
    obtain ⟨n, rfl⟩ := Nat.exists_eq_succ_of_ne_zero (Nat.ne_zero_of_lt hn)
    have hquoted : readQuoted rules (text ++ '"' :: rest) = some (text, rest) :=
      readQuoted_self_iff.mpr ⟨h, rfl⟩
    rw [List.cons_append, List.append_assoc, readValue_string]
    exact congrArg (Option.map _) hquoted

/-- A member as it is written. -/
def memberText (key text : Text) : Text := '"' :: (key ++ '"' :: ':' :: text)

/-- Members as they are written behind another. -/
def followingText (rows : List Text) : Text := rows.flatMap fun row => ", ".toList ++ row

/-- An object as it is written, from its members. -/
def objectText : List Text → Text
  | [] => "\x7b  \x7d".toList
  | row :: rows => "\x7b ".toList ++ (row ++ (followingText rows ++ " \x7d".toList))

/-- A key, the text of its value, and the value. -/
structure Row where
  key : Text
  text : Text
  value : Value

/-- The row is read back as it was written. -/
structure Row.Sound (rules : StringRules) (row : Row) : Prop where
  key : ∀ c ∈ row.key, rules.Itself c
  writes : Writes rules row.text row.value

def Row.written (row : Row) : Text := memberText row.key row.text

def Row.member (row : Row) : Text × Value := (row.key, row.value)

variable {s rest r : Text} {rows : List Row}

theorem after_memberText (key text rest : Text) (hs : skipBlanks s = memberText key text ++ rest) :
    after '"' s = some (key ++ '"' :: ':' :: (text ++ rest)) := by
  rw [after_eq_some, hs, memberText, List.cons_append, List.append_assoc, List.cons_append,
    List.cons_append]

/-- What is behind a row: the brace, or a comma and the next row. -/
theorem followingText_head (rows : List Text) :
    ∀ c ∈ (followingText rows ++ " \x7d".toList).head?, wordChar c = false := by
  intro c hc
  cases rows with
  | nil =>
    cases hc
    decide
  | cons row rows =>
    cases hc
    decide

theorem readMember_row {row : Row} (hrow : row.Sound rules)
    (hrest : ∀ c ∈ rest.head?, wordChar c = false) {n : Nat} (hn : row.text.length < n)
    (hs : skipBlanks s = row.written ++ rest) :
    readMember rules (readValue rules n) s = some (row.member, rest) := by
  refine (readMember_iff (after_memberText row.key row.text rest hs)).mpr ⟨hrow.key, ?_⟩
  rw [skipBlanks_append (by rw [hrow.writes.front]; exact hrow.writes.ne_nil), hrow.writes.front]
  exact hrow.writes.reads hn hrest

theorem length_lt_of_written {row : Row} (hs : skipBlanks s = row.written ++ rest) :
    row.text.length < s.length := by
  have hle := (List.dropWhile_suffix (l := s) blank).length_le
  rw [skipBlanks] at hs
  rw [hs, Row.written, memberText] at hle
  simp only [List.length_append, List.length_cons] at hle
  omega

/-- **Rows are read back** as the members they were written for. -/
theorem readMembers_rows {row : Row} (hrow : row.Sound rules)
    (hrows : ∀ row ∈ rows, row.Sound rules) {n : Nat} (hn : s.length < n)
    (hs : skipBlanks s =
      row.written ++ (followingText (rows.map Row.written) ++ " \x7d".toList)) :
    readMembers rules n s = some ((row :: rows).map Row.member, []) := by
  induction rows generalizing row n s with
  | nil =>
    obtain ⟨n, rfl⟩ := Nat.exists_eq_succ_of_ne_zero (Nat.ne_zero_of_lt hn)
    have htext : row.text.length < n := Nat.lt_of_lt_of_le (length_lt_of_written hs) (by omega)
    rw [readMembers, readMember_row hrow (followingText_head []) htext hs, Option.bind_some]
    rfl
  | cons next rows ih =>
    obtain ⟨n, rfl⟩ := Nat.exists_eq_succ_of_ne_zero (Nat.ne_zero_of_lt hn)
    have htext : row.text.length < n := Nat.lt_of_lt_of_le (length_lt_of_written hs) (by omega)
    have hmember := readMember_row hrow
      (followingText_head ((next :: rows).map Row.written)) htext hs
    have hfollowing : followingText ((next :: rows).map Row.written) ++ " \x7d".toList =
        ',' :: ' ' :: (next.written ++
          (followingText (rows.map Row.written) ++ " \x7d".toList)) := by
      rw [followingText, List.map_cons, List.flatMap_cons, List.append_assoc, List.append_assoc]
      rfl
    rw [hfollowing] at hs hmember
    have hnext := ih (hrows next (List.mem_cons_self ..))
      (fun other h => hrows other (List.mem_cons_of_mem _ h)) (n := n)
      (s := ' ' :: (next.written ++ (followingText (rows.map Row.written) ++ " \x7d".toList)))
      (by
        have hle := (List.dropWhile_suffix (l := s) blank).length_le
        rw [skipBlanks] at hs
        rw [hs, List.length_append, List.length_cons] at hle
        omega) rfl
    have hclose : ∀ t, after '\x7d' (',' :: t) = none := fun _ => rfl
    have hcomma : ∀ t, after ',' (',' :: t) = some t := fun _ => rfl
    rw [readMembers, hmember, Option.bind_some]
    dsimp only
    rw [hclose, hcomma, Option.bind_some, hnext]
    rfl

/-- **An object is read back** as the members it was written from. -/
theorem readValue_objectText (hrows : ∀ row ∈ rows, row.Sound rules) {n : Nat}
    (hn : (objectText (rows.map Row.written)).length < n) :
    readValue rules n (objectText (rows.map Row.written)) =
      some (.object (rows.map Row.member), []) := by
  obtain ⟨n, rfl⟩ := Nat.exists_eq_succ_of_ne_zero (Nat.ne_zero_of_lt hn)
  cases rows with
  | nil => rfl
  | cons row rows =>
    have htext : objectText ((row :: rows).map Row.written) = '\x7b' :: ' ' ::
        (row.written ++ (followingText (rows.map Row.written) ++ " \x7d".toList)) := rfl
    have hclose : ∀ t, after '\x7d' (' ' :: (row.written ++ t)) = none := fun _ => rfl
    rw [htext] at hn ⊢
    have hmembers := readMembers_rows (hrows row (List.mem_cons_self ..))
      (fun other h => hrows other (List.mem_cons_of_mem _ h)) (Nat.lt_of_succ_lt_succ hn) rfl
    have hread : readObject (readMembers rules n) (' ' ::
        (row.written ++ (followingText (rows.map Row.written) ++ " \x7d".toList))) =
          some (.object ((row :: rows).map Row.member), []) := by
      rw [readObject, hclose, hmembers]
      rfl
    exact hread

/-- An object that is written is parsed. -/
theorem parse_objectText (hrows : ∀ row ∈ rows, row.Sound rules) :
    parse rules (objectText (rows.map Row.written)) = some (.object (rows.map Row.member)) := by
  have hfront : skipBlanks (objectText (rows.map Row.written)) =
      objectText (rows.map Row.written) := by
    cases rows <;> rfl
  rw [parse, hfront, readValue_objectText hrows (Nat.lt_succ_self _)]
  rfl

/-- Of an object that is written, no beginning is parsed to its members. -/
theorem parse_take_objectText (hrows : ∀ row ∈ rows, row.Sound rules) {k : Nat}
    (hk : k < (objectText (rows.map Row.written)).length) :
    parse rules ((objectText (rows.map Row.written)).take k) ≠
      some (.object (rows.map Row.member)) := by
  intro h
  obtain ⟨t, ht⟩ : ∃ t, objectText (rows.map Row.written) = '\x7b' :: t := by
    cases rows <;> exact ⟨_, rfl⟩
  have hwhole := readValue_objectText hrows (Nat.lt_succ_self _)
  rw [ht] at h hk hwhole
  obtain ⟨n, r, hread, hleft⟩ := readValue_of_parse_take h
  exact hleft hk (readValue_object_unique hread hwhole).2

end

/-! ## What is read of any text -/

section

variable {rules : StringRules}

theorem readMembers_head {n : Nat} {member : Text × Value} {members : List (Text × Value)}
    (h : readMembers rules n s = some (member :: members, r)) :
    ∃ m r', readMember rules (readValue rules m) s = some (member, r') := by
  cases n with
  | zero => cases h
  | succ n =>
    rw [readMembers] at h
    obtain ⟨⟨first, t⟩, hfirst, h⟩ := Option.bind_eq_some_iff.mp h
    dsimp only at h
    split at h
    next =>
      cases h
      exact ⟨n, t, hfirst⟩
    next =>
      obtain ⟨t', -, h⟩ := Option.bind_eq_some_iff.mp h
      obtain ⟨p, -, h⟩ := Option.map_eq_some_iff.mp h
      cases h
      exact ⟨n, t, hfirst⟩

/-- The first member of an object that is read with the key it was written with. -/
theorem readValue_first {n : Nat} {key text r : Text} (rows : List Text) {v : Value}
    {members : List (Text × Value)}
    (h : readValue rules n (objectText (memberText key text :: rows)) =
      some (.object ((key, v) :: members), r)) :
    (∀ c ∈ key, rules.Itself c) ∧
      ∃ m r', readValue rules m (skipBlanks (text ++ (followingText rows ++ " \x7d".toList))) =
        some (v, r') := by
  cases n with
  | zero => cases h
  | succ n =>
    have hobject : readObject (readMembers rules n)
        (' ' :: (memberText key text ++ (followingText rows ++ " \x7d".toList))) =
          some (.object ((key, v) :: members), r) := h
    have hclose : ∀ t, after '\x7d' (' ' :: (memberText key text ++ t)) = none := fun _ => rfl
    rw [readObject, hclose] at hobject
    obtain ⟨⟨ms, r₁⟩, hmembers, hobject⟩ := Option.map_eq_some_iff.mp hobject
    cases hobject
    obtain ⟨m, r₂, hmember⟩ := readMembers_head hmembers
    have hsame := (readMember_iff (after_memberText key text _ rfl)).mp hmember
    exact ⟨hsame.1, m, r₂, hsame.2⟩

end

/-! ## Flat values -/

/-- Numbers and booleans. -/
def Value.scalar : Value → Bool
  | .boolean _ | .number _ => true
  | _ => false

/-- Numbers and booleans, and arrays of them. -/
def Value.flat : Value → Bool
  | .array items => items.all Value.scalar
  | v => v.scalar

/-- The characters of flat values. -/
def flatChar (c : Char) : Bool := wordChar c || blank c || c = '[' || c = ',' || c = ']'

/-- What was taken from the front of a text has only such characters. -/
def TakesFlat (t r : Text) : Prop := ∃ used, t = used ++ r ∧ ∀ c ∈ used, flatChar c = true

theorem TakesFlat.trans {t r r' : Text} (h : TakesFlat t r) (h' : TakesFlat r r') :
    TakesFlat t r' := by
  obtain ⟨used, rfl, hused⟩ := h
  obtain ⟨used', rfl, hused'⟩ := h'
  refine ⟨used ++ used', (List.append_assoc ..).symm, fun c hc => ?_⟩
  rcases List.mem_append.mp hc with h | h
  · exact hused c h
  · exact hused' c h

theorem takesFlat_cons {c : Char} (hc : flatChar c = true) (t : Text) : TakesFlat (c :: t) t :=
  ⟨[c], rfl, fun _ h => List.eq_of_mem_singleton h ▸ hc⟩

theorem takesFlat_skipBlanks (t : Text) : TakesFlat t (skipBlanks t) := by
  refine ⟨t.takeWhile blank, List.takeWhile_append_dropWhile.symm, fun c hc => ?_⟩
  have hblank : blank c = true := List.mem_takeWhile_imp hc
  rw [flatChar, hblank, Bool.or_true]
  rfl

theorem takesFlat_after {c : Char} (hc : flatChar c = true) {t rest : Text}
    (h : after c t = some rest) : TakesFlat t rest := by
  have hskip := takesFlat_skipBlanks t
  rw [after_eq_some.mp h] at hskip
  exact hskip.trans (takesFlat_cons hc rest)

/-- A word that is read is all of its characters. -/
theorem readWord_uses {t r : Text} {v : Value} (h : readWord t = some (v, r)) :
    ∃ word, t = word ++ r ∧ word ≠ [] ∧ wordValue word = some v ∧ ∀ c ∈ word, wordChar c = true := by
  obtain ⟨value, hvalue, h⟩ := Option.map_eq_some_iff.mp h
  cases h
  refine ⟨t.takeWhile wordChar, List.takeWhile_append_dropWhile.symm, ?_, hvalue,
    fun c hc => List.mem_takeWhile_imp hc⟩
  intro hnil
  rw [hnil] at hvalue
  cases hvalue

theorem wordValue_cases {word : Text} {v : Value} (h : wordValue word = some v) :
    (word = "true".toList ∧ v = .boolean true) ∨ (word = "false".toList ∧ v = .boolean false) ∨
      v = .null ∨ v = .number word := by
  rw [wordValue] at h
  split at h
  next ht =>
    cases h
    exact .inl ⟨ht, rfl⟩
  next =>
    split at h
    next hf =>
      cases h
      exact .inr (.inl ⟨hf, rfl⟩)
    next =>
      split at h
      next =>
        cases h
        exact .inr (.inr (.inl rfl))
      next =>
        split at h
        next =>
          cases h
          exact .inr (.inr (.inr rfl))
        next => cases h

section

variable {rules : StringRules}

theorem readArray_value {items : Text → Option (List Value × Text)} {t r : Text} {v : Value}
    (h : readArray items t = some (v, r)) : ∃ vs, v = .array vs := by
  rw [readArray] at h
  split at h
  next =>
    cases h
    exact ⟨[], rfl⟩
  next =>
    obtain ⟨⟨vs, r'⟩, -, h⟩ := Option.map_eq_some_iff.mp h
    cases h
    exact ⟨vs, rfl⟩

theorem readObject_value {members : Text → Option (List (Text × Value) × Text)} {t r : Text}
    {v : Value} (h : readObject members t = some (v, r)) : ∃ ms, v = .object ms := by
  rw [readObject] at h
  split at h
  next =>
    cases h
    exact ⟨[], rfl⟩
  next =>
    obtain ⟨⟨ms, r'⟩, -, h⟩ := Option.map_eq_some_iff.mp h
    cases h
    exact ⟨ms, rfl⟩

/-- The first character tells what is read. -/
theorem readValue_cases {n : Nat} {t r : Text} {v : Value} (h : readValue rules n t = some (v, r)) :
    ∃ m c t', n = m + 1 ∧ t = c :: t' ∧
      ((c = '"' ∧ ∃ text, v = .string text ∧ readQuoted rules t' = some (text, r)) ∨
        (c = '[' ∧ readArray (readItems rules m) t' = some (v, r)) ∨
        (c = '\x7b' ∧ ∃ members, v = .object members) ∨
        readWord t = some (v, r)) := by
  match n, t, h with
  | m + 1, c :: t, h =>
    refine ⟨m, c, t, rfl, rfl, ?_⟩
    rw [readValue] at h
    split at h
    next hc =>
      obtain ⟨⟨text, r'⟩, htext, h⟩ := Option.map_eq_some_iff.mp h
      cases h
      exact .inl ⟨hc, text, rfl, htext⟩
    next =>
      split at h
      next hc => exact .inr (.inl ⟨hc, h⟩)
      next =>
        split at h
        next hc => exact .inr (.inr (.inl ⟨hc, readObject_value h⟩))
        next => exact .inr (.inr (.inr h))

theorem readValue_scalar {n : Nat} {t r : Text} {v : Value} (h : readValue rules n t = some (v, r))
    (hv : v.scalar = true) : readWord t = some (v, r) := by
  obtain ⟨m, c, t', -, -, ⟨-, text, rfl, -⟩ | ⟨-, harray⟩ | ⟨-, members, rfl⟩ | hword⟩ :=
    readValue_cases h
  · cases hv
  · obtain ⟨vs, rfl⟩ := readArray_value harray
    cases hv
  · cases hv
  · exact hword

theorem takesFlat_scalar {n : Nat} {t r : Text} {v : Value}
    (h : readValue rules n t = some (v, r)) (hv : v.scalar = true) : TakesFlat t r := by
  obtain ⟨word, ht, -, -, hword⟩ := readWord_uses (readValue_scalar h hv)
  refine ⟨word, ht, fun c hc => ?_⟩
  rw [flatChar, hword c hc]
  rfl

theorem takesFlat_items {n : Nat} {t r : Text} {vs : List Value}
    (h : readItems rules n t = some (vs, r)) (hvs : vs.all Value.scalar = true) :
    TakesFlat t r := by
  induction n generalizing t vs with
  | zero => cases h
  | succ n ih =>
    rw [readItems] at h
    obtain ⟨⟨v, t₁⟩, hvalue, h⟩ := Option.bind_eq_some_iff.mp h
    dsimp only at h
    split at h
    next rest hclose =>
      cases h
      rw [List.all_cons, Bool.and_eq_true] at hvs
      exact (takesFlat_scalar hvalue hvs.1).trans (takesFlat_after (by decide) hclose)
    next =>
      obtain ⟨t₂, hcomma, h⟩ := Option.bind_eq_some_iff.mp h
      obtain ⟨⟨vs', r'⟩, hitems, h⟩ := Option.map_eq_some_iff.mp h
      cases h
      rw [List.all_cons, Bool.and_eq_true] at hvs
      have hfirst := (takesFlat_scalar hvalue hvs.1).trans (takesFlat_after (by decide) hcomma)
      exact (hfirst.trans (takesFlat_skipBlanks t₂)).trans (ih hitems hvs.2)

/-- A flat value has only the characters of flat values. -/
theorem takesFlat_value {n : Nat} {t r : Text} {v : Value} (h : readValue rules n t = some (v, r))
    (hv : v.flat = true) : TakesFlat t r := by
  obtain ⟨m, c, t', -, rfl, ⟨-, text, rfl, -⟩ | ⟨rfl, harray⟩ | ⟨-, members, rfl⟩ | hword⟩ :=
    readValue_cases h
  · cases hv
  · have hbracket := takesFlat_cons (c := '[') (by decide) t'
    rw [readArray] at harray
    split at harray
    next hclose =>
      cases harray
      exact hbracket.trans (takesFlat_after (by decide) hclose)
    next =>
      obtain ⟨⟨vs, r'⟩, hitems, harray⟩ := Option.map_eq_some_iff.mp harray
      cases harray
      exact (hbracket.trans (takesFlat_skipBlanks t')).trans (takesFlat_items hitems hv)
  · cases hv
  · obtain ⟨word, ht, -, -, hchars⟩ := readWord_uses hword
    refine ⟨word, ht, fun d hd => ?_⟩
    rw [flatChar, hchars d hd]
    rfl

theorem blank_of_wordChar {c : Char} (h : wordChar c = true) : blank c = false := by
  cases hblank : blank c with
  | false => rfl
  | true =>
    have hcases : ((c = ' ' ∨ c = '\t') ∨ c = '\n') ∨ c = '\r' := by simpa [blank] using hblank
    rcases hcases with ((rfl | rfl) | rfl) | rfl <;> cases h

/-- A flat value does not begin with a blank. -/
theorem skipBlanks_flat {n : Nat} {t r : Text} {v : Value} (h : readValue rules n t = some (v, r))
    (hv : v.flat = true) : skipBlanks t = t := by
  obtain ⟨m, c, t', -, rfl, ⟨-, text, rfl, -⟩ | ⟨rfl, -⟩ | ⟨-, members, rfl⟩ | hword⟩ :=
    readValue_cases h
  · cases hv
  · exact skipBlanks_cons (by decide) t'
  · cases hv
  · obtain ⟨word, ht, hne, -, hchars⟩ := readWord_uses hword
    cases word with
    | nil => exact absurd rfl hne
    | cons d word =>
      injection ht with hd
      exact skipBlanks_cons (blank_of_wordChar (hchars c (hd ▸ List.mem_cons_self ..))) t'

/-- A flat value is written by the text it is read from. -/
theorem writes_flat {text : Text} {v : Value}
    (h : readValue rules (text.length + 1) text = some (v, [])) (hv : v.flat = true) :
    Writes rules text v :=
  writes_of_read h (skipBlanks_flat h hv)

theorem head_of_array {n : Nat} {t r : Text} {vs : List Value}
    (h : readValue rules n t = some (.array vs, r)) : t.head? = some '[' := by
  obtain ⟨m, c, t', -, rfl, ⟨-, text, hv, -⟩ | ⟨rfl, -⟩ | ⟨-, members, hv⟩ | hword⟩ :=
    readValue_cases h
  · cases hv
  · rfl
  · cases hv
  · obtain ⟨word, -, -, hvalue, -⟩ := readWord_uses hword
    rcases wordValue_cases hvalue with ⟨-, hv⟩ | ⟨-, hv⟩ | hv | hv <;> cases hv

theorem head_of_string {n : Nat} {t r text : Text}
    (h : readValue rules n t = some (.string text, r)) :
    ∃ t', t = '"' :: t' ∧ readQuoted rules t' = some (text, r) := by
  obtain ⟨m, c, t', -, rfl, ⟨rfl, text', hv, htext⟩ | ⟨-, harray⟩ | ⟨-, members, hv⟩ | hword⟩ :=
    readValue_cases h
  · cases hv
    exact ⟨t', rfl, htext⟩
  · obtain ⟨vs, hv⟩ := readArray_value harray
    cases hv
  · cases hv
  · obtain ⟨word, -, -, hvalue, -⟩ := readWord_uses hword
    rcases wordValue_cases hvalue with ⟨-, hv⟩ | ⟨-, hv⟩ | hv | hv <;> cases hv

/-- A boolean is read from its name. -/
theorem text_of_boolean {n : Nat} {t : Text} {b : Bool}
    (h : readValue rules n t = some (.boolean b, [])) : t = "true".toList ∨ t = "false".toList := by
  obtain ⟨word, rfl, -, hvalue, -⟩ := readWord_uses (readValue_scalar h rfl)
  rw [List.append_nil]
  rcases wordValue_cases hvalue with ⟨hword, -⟩ | ⟨hword, -⟩ | hv | hv
  · exact .inl hword
  · exact .inr hword
  · cases hv
  · cases hv

end

/-! ## The rules of JSON -/

/-- What a character behind a backslash stands for. -/
def unescaped (c : Char) : Option Char :=
  if c = '"' ∨ c = backslash ∨ c = '/' then some c
  else if c = 'b' then some (Char.ofNat 8)
  else if c = 'f' then some (Char.ofNat 12)
  else if c = 'n' then some '\n'
  else if c = 'r' then some '\r'
  else if c = 't' then some '\t'
  else none

def hexDigit (c : Char) : Option Nat :=
  if c.isDigit then some (c.toNat - '0'.toNat)
  else if 'a' ≤ c ∧ c ≤ 'f' then some (c.toNat - 'a'.toNat + 10)
  else if 'A' ≤ c ∧ c ≤ 'F' then some (c.toNat - 'A'.toNat + 10)
  else none

/-- The character of four hexadecimal digits. -/
def hexCharacter : Text → Option (Text × Text)
  | a :: b :: c :: d :: rest => do
    let a ← hexDigit a
    let b ← hexDigit b
    let c ← hexDigit c
    let d ← hexDigit d
    some ([Char.ofNat (((a * 16 + b) * 16 + c) * 16 + d)], rest)
  | _ => none

def standardEscape : Text → Option (Text × Text)
  | [] => none
  | c :: t => if c = 'u' then hexCharacter t else (unescaped c).map fun d => ([d], t)

theorem ne_quote_of_hexDigit {c : Char} {n : Nat} (h : hexDigit c = some n) : '"' ≠ c := by
  rintro rfl
  cases h

theorem hexCharacter_eq_some {t stands rest : Text} (h : hexCharacter t = some (stands, rest)) :
    ∃ used, t = used ++ rest ∧ '"' ∉ used ∧ stands.length ≤ used.length ∧
      ∀ more, hexCharacter (t ++ more) = some (stands, rest ++ more) := by
  match t, h with
  | a :: b :: c :: d :: t, h =>
    obtain ⟨a', ha, h⟩ := Option.bind_eq_some_iff.mp h
    obtain ⟨b', hb, h⟩ := Option.bind_eq_some_iff.mp h
    obtain ⟨c', hc, h⟩ := Option.bind_eq_some_iff.mp h
    obtain ⟨d', hd, h⟩ := Option.bind_eq_some_iff.mp h
    cases h
    refine ⟨[a, b, c, d], rfl, ?_, Nat.succ_le_succ (Nat.zero_le _), fun more => ?_⟩
    · simp only [List.mem_cons, List.not_mem_nil, or_false, not_or]
      exact ⟨ne_quote_of_hexDigit ha, ne_quote_of_hexDigit hb, ne_quote_of_hexDigit hc,
        ne_quote_of_hexDigit hd⟩
    · rw [List.cons_append, List.cons_append, List.cons_append, List.cons_append, hexCharacter, ha,
        hb, hc, hd]
      rfl

/-- Of the characters behind a backslash, the quotation mark stands for itself. -/
theorem unescaped_quote {d : Char} (h : unescaped '"' = some d) : d = '"' := by
  cases h
  rfl

theorem standardEscape_uses {t stands rest : Text} (h : standardEscape t = some (stands, rest)) :
    ∃ used, t = used ++ rest ∧ stands.length ≤ used.length ∧
      ('"' ∈ used → used = ['"'] ∧ stands = ['"']) := by
  cases t with
  | nil => cases h
  | cons c t =>
    rw [standardEscape] at h
    split at h
    next hc =>
      obtain ⟨used, rfl, hquote, hle, -⟩ := hexCharacter_eq_some h
      refine ⟨c :: used, rfl, Nat.le_succ_of_le hle, fun hmem => ?_⟩
      rcases List.mem_cons.mp hmem with hcq | hmem
      · rw [hc] at hcq
        exact absurd hcq (by decide)
      · exact absurd hmem hquote
    next =>
      obtain ⟨d, hd, h⟩ := Option.map_eq_some_iff.mp h
      cases h
      refine ⟨[c], rfl, Nat.le_refl _, fun hmem => ?_⟩
      obtain rfl : '"' = c := List.eq_of_mem_singleton hmem
      exact ⟨rfl, congrArg (fun x => [x]) (unescaped_quote hd)⟩

theorem standardEscape_append {t stands rest : Text}
    (h : standardEscape t = some (stands, rest)) (more : Text) :
    standardEscape (t ++ more) = some (stands, rest ++ more) := by
  cases t with
  | nil => cases h
  | cons c t =>
    rw [standardEscape] at h
    rw [List.cons_append, standardEscape]
    split
    next hc =>
      rw [if_pos hc] at h
      obtain ⟨-, -, -, -, happend⟩ := hexCharacter_eq_some h
      exact happend more
    next hc =>
      rw [if_neg hc] at h
      obtain ⟨d, hd, h⟩ := Option.map_eq_some_iff.mp h
      cases h
      rw [hd]
      rfl

/-- The rules of JSON itself. -/
def StringRules.standard : StringRules where
  raw c := decide (32 ≤ c.toNat)
  escape := standardEscape
  escape_uses := standardEscape_uses
  escape_append := standardEscape_append

end Zss.Lib.JsonText
