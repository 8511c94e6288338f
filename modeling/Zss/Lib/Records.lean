import Mathlib.Data.List.Nodup

/-!
# Records read from marked lines

A listing tells records one after the other: a line with the name of a record begins it, one may add
a detail, one closes it, and a last line may end the listing. A reader keeps a draft of the record
it is in and takes it down where it is closed. A line that it misses can spoil what it takes down;
where it may miss lines in the midst of a listing is `MayMiss` (`records_take_iff_mayMiss`).
-/

namespace Zss.Lib

universe u v

/-! ## Reading -/

/-- What a line says of its record. -/
inductive Mark (α : Type u) (β : Type v) where
  | name (a : α)
  | detail (b : β)
  | idle
  | close
  | last
deriving DecidableEq

/-- What is known of a record. -/
@[ext] structure Draft (α : Type u) (β : Type v) where
  name : Option α
  detail : Option β
deriving DecidableEq

section

variable {α : Type u} {β : Type v}

def Draft.empty : Draft α β := ⟨none, none⟩

/-- The draft behind a line. -/
def Draft.note (draft : Draft α β) : Mark α β → Draft α β
  | .name a => { draft with name := some a }
  | .detail b => { draft with detail := some b }
  | .close => .empty
  | .idle | .last => draft

/-- The draft behind lines. -/
def Draft.notes (draft : Draft α β) (marks : List (Mark α β)) : Draft α β :=
  marks.foldl Draft.note draft

/-- The records closed in the lines up to the last. -/
def records (draft : Draft α β) : List (Mark α β) → List (Draft α β)
  | [] => []
  | .last :: _ => []
  | .close :: marks => draft :: records .empty marks
  | .name a :: marks => records (draft.note (.name a)) marks
  | .detail b :: marks => records (draft.note (.detail b)) marks
  | .idle :: marks => records draft marks

/-- A reader with room for so many records sees that it is done: a line comes when there is no room,
or the last does. -/
def seesEnd : Nat → List (Mark α β) → Bool
  | _, [] => false
  | 0, _ :: _ => true
  | _ + 1, .last :: _ => true
  | n + 1, .close :: marks => seesEnd n marks
  | n + 1, _ :: marks => seesEnd (n + 1) marks

/-- Each record has its name first and at most one detail, and no line follows the last. -/
def Listed : Draft α β → List (Mark α β) → Prop
  | _, [] => True
  | draft, .name a :: marks => draft = .empty ∧ Listed ⟨some a, none⟩ marks
  | draft, .detail b :: marks =>
    draft.name ≠ none ∧ draft.detail = none ∧ Listed ⟨draft.name, some b⟩ marks
  | draft, .idle :: marks => Listed draft marks
  | draft, .close :: marks => draft.name ≠ none ∧ Listed .empty marks
  | draft, .last :: marks => draft = .empty ∧ marks = []

/-- How many records are closed. -/
def closes : List (Mark α β) → Nat
  | [] => 0
  | .close :: marks => closes marks + 1
  | _ :: marks => closes marks

def Mark.name? : Mark α β → Option α
  | .name a => some a
  | _ => none

/-- The names told. -/
def names (marks : List (Mark α β)) : List α := marks.filterMap Mark.name?

/-! ## Parts of a listing -/

@[simp] theorem Draft.notes_cons (draft : Draft α β) (mark : Mark α β) (marks : List (Mark α β)) :
    draft.notes (mark :: marks) = (draft.note mark).notes marks := rfl

theorem Draft.notes_append (draft : Draft α β) (before after : List (Mark α β)) :
    draft.notes (before ++ after) = (draft.notes before).notes after :=
  List.foldl_append

theorem names_append (before after : List (Mark α β)) :
    names (before ++ after) = names before ++ names after :=
  List.filterMap_append

theorem mem_names {a : α} {marks : List (Mark α β)} : a ∈ names marks ↔ .name a ∈ marks := by
  rw [names, List.mem_filterMap]
  constructor
  · rintro ⟨mark, hmem, hmark⟩
    cases mark <;> cases hmark
    exact hmem
  · intro hmem
    exact ⟨_, hmem, rfl⟩

variable {draft : Draft α β} {marks before after : List (Mark α β)} {n : Nat}

theorem records_append (hlast : Mark.last ∉ before) :
    records draft (before ++ after) =
      records draft before ++ records (draft.notes before) after := by
  induction before generalizing draft with
  | nil => rfl
  | cons mark before ih =>
    have htail : Mark.last ∉ before := fun h => hlast (List.mem_cons_of_mem mark h)
    cases mark with
    | last => exact absurd List.mem_cons_self hlast
    | close => exact congrArg (draft :: ·) (ih htail)
    | name a => exact ih htail
    | detail b => exact ih htail
    | idle => exact ih htail

theorem length_records (hlast : Mark.last ∉ marks) :
    (records draft marks).length = closes marks := by
  induction marks generalizing draft with
  | nil => rfl
  | cons mark marks ih =>
    have htail : Mark.last ∉ marks := fun h => hlast (List.mem_cons_of_mem mark h)
    cases mark with
    | last => exact absurd List.mem_cons_self hlast
    | close => rw [records, List.length_cons, ih htail, closes]
    | name a => exact ih htail
    | detail b => exact ih htail
    | idle => exact ih htail

theorem seesEnd_append (hlast : Mark.last ∉ before) (hroom : closes before < n) :
    seesEnd n (before ++ after) = seesEnd (n - closes before) after := by
  induction before generalizing n with
  | nil => rfl
  | cons mark before ih =>
    have htail : Mark.last ∉ before := fun h => hlast (List.mem_cons_of_mem mark h)
    obtain ⟨n, rfl⟩ : ∃ m, n = m + 1 := Nat.exists_eq_succ_of_ne_zero (by omega)
    cases mark with
    | last => exact absurd List.mem_cons_self hlast
    | close =>
      rw [closes] at hroom ⊢
      rw [List.cons_append, seesEnd, ih htail (by omega), Nat.add_sub_add_right]
    | name a => exact ih htail hroom
    | detail b => exact ih htail hroom
    | idle => exact ih htail hroom

theorem Listed.left (h : Listed draft (before ++ after)) : Listed draft before := by
  induction before generalizing draft with
  | nil => trivial
  | cons mark before ih =>
    cases mark with
    | last => exact ⟨h.1, (List.append_eq_nil_iff.mp h.2).1⟩
    | close => exact ⟨h.1, ih h.2⟩
    | name a => exact ⟨h.1, ih h.2⟩
    | detail b => exact ⟨h.1, h.2.1, ih h.2.2⟩
    | idle => exact ih h

/-- Behind lines without the last the listing goes on from their draft. -/
theorem Listed.right (h : Listed draft (before ++ after)) (hlast : Mark.last ∉ before) :
    Listed (draft.notes before) after := by
  induction before generalizing draft with
  | nil => exact h
  | cons mark before ih =>
    have htail : Mark.last ∉ before := fun h => hlast (List.mem_cons_of_mem mark h)
    cases mark with
    | last => exact absurd List.mem_cons_self hlast
    | close => exact ih h.2 htail
    | name a =>
      obtain ⟨rfl, h⟩ := h
      exact ih h htail
    | detail b => exact ih h.2.2 htail
    | idle => exact ih h htail

/-- The last line is the last. -/
theorem Listed.nothing_after (h : Listed draft (before ++ after)) (hlast : Mark.last ∈ before) :
    after = [] := by
  induction before generalizing draft with
  | nil => cases hlast
  | cons mark before ih =>
    cases mark with
    | last => exact (List.append_eq_nil_iff.mp h.2).2
    | close => exact ih h.2 (by simpa using hlast)
    | name a => exact ih h.2 (by simpa using hlast)
    | detail b => exact ih h.2.2 (by simpa using hlast)
    | idle => exact ih h (by simpa using hlast)

/-! ## Drafts -/

theorem records_idle (h : ∀ mark ∈ before, mark = .idle) :
    records draft (before ++ after) = records draft after := by
  induction before with
  | nil => rfl
  | cons mark before ih =>
    obtain ⟨rfl, htail⟩ := List.forall_mem_cons.mp h
    exact ih htail

/-- The first record closed. -/
theorem records_close (hclose : Mark.close ∉ before) (hlast : Mark.last ∉ before) :
    records draft (before ++ .close :: after) = draft.notes before :: records .empty after := by
  induction before generalizing draft with
  | nil => rfl
  | cons mark before ih =>
    have hcloses : Mark.close ∉ before := fun h => hclose (List.mem_cons_of_mem mark h)
    have hlasts : Mark.last ∉ before := fun h => hlast (List.mem_cons_of_mem mark h)
    cases mark with
    | last => exact absurd List.mem_cons_self hlast
    | close => exact absurd List.mem_cons_self hclose
    | name a => exact ih hcloses hlasts
    | detail b => exact ih hcloses hlasts
    | idle => exact ih hcloses hlasts

/-- Where a record is read its close stands. -/
theorem exists_close {record : Draft α β} {others : List (Draft α β)}
    (h : records draft marks = record :: others) :
    ∃ before after, marks = before ++ .close :: after ∧ Mark.close ∉ before ∧
      Mark.last ∉ before ∧ record = draft.notes before ∧ others = records .empty after := by
  induction marks generalizing draft with
  | nil => cases h
  | cons mark marks ih =>
    have later {draft' : Draft α β} (hmark : draft.note mark = draft')
        (hclose : Mark.close ≠ mark) (hlast : Mark.last ≠ mark)
        (h : records draft' marks = record :: others) :
        ∃ before after, mark :: marks = before ++ .close :: after ∧ Mark.close ∉ before ∧
          Mark.last ∉ before ∧ record = draft.notes before ∧ others = records .empty after := by
      obtain ⟨before, after, rfl, hcloses, hlasts, hrecord, hothers⟩ := ih h
      refine ⟨mark :: before, after, rfl, ?_, ?_, ?_, hothers⟩
      · exact List.not_mem_cons_of_ne_of_not_mem hclose hcloses
      · exact List.not_mem_cons_of_ne_of_not_mem hlast hlasts
      · rw [hrecord, Draft.notes_cons, hmark]
    cases mark with
    | last => cases h
    | close =>
      obtain ⟨rfl, rfl⟩ := List.cons.inj h
      exact ⟨[], marks, rfl, List.not_mem_nil, List.not_mem_nil, rfl, rfl⟩
    | name a => exact later rfl nofun nofun h
    | detail b => exact later rfl nofun nofun h
    | idle => exact later rfl nofun nofun h

/-- A name in the draft behind lines is one of theirs, or was in it before. -/
theorem mem_names_of_notes {a : α} (h : (draft.notes marks).name = some a) :
    a ∈ names marks ∨ draft.name = some a := by
  induction marks generalizing draft with
  | nil => exact .inr h
  | cons mark marks ih =>
    rcases ih h with hmem | hname
    · exact .inl (mem_names.mpr (List.mem_cons_of_mem mark (mem_names.mp hmem)))
    · cases mark with
      | name b =>
        obtain rfl : b = a := Option.some.inj hname
        exact .inl (mem_names.mpr List.mem_cons_self)
      | close => cases hname
      | detail b => exact .inr hname
      | idle => exact .inr hname
      | last => exact .inr hname

/-- Lines that close no record keep a name. -/
theorem notes_name_ne_none (hclose : Mark.close ∉ marks) (h : draft.name ≠ none) :
    (draft.notes marks).name ≠ none := by
  induction marks generalizing draft with
  | nil => exact h
  | cons mark marks ih =>
    have hcloses : Mark.close ∉ marks := fun h => hclose (List.mem_cons_of_mem mark h)
    cases mark with
    | close => exact absurd List.mem_cons_self hclose
    | name a => exact ih hcloses (Option.some_ne_none a)
    | detail b => exact ih hcloses h
    | idle => exact ih hcloses h
    | last => exact ih hcloses h

/-- Lines that close no record leave the last name they tell. -/
theorem exists_name_of_notes {a : α} (hclose : Mark.close ∉ marks) (hmem : a ∈ names marks) :
    ∃ b ∈ names marks, (draft.notes marks).name = some b := by
  obtain ⟨before, after, rfl⟩ := List.append_of_mem (mem_names.mp hmem)
  have hafter : Mark.close ∉ after := fun h =>
    hclose (List.mem_append_right before (List.mem_cons_of_mem _ h))
  have hsome : (draft.notes (before ++ .name a :: after)).name ≠ none := by
    rw [Draft.notes_append, Draft.notes_cons]
    exact notes_name_ne_none hafter (Option.some_ne_none a)
  obtain ⟨b, hb⟩ := Option.ne_none_iff_exists'.mp hsome
  rcases mem_names_of_notes hb with hin | hin
  · exact ⟨b, hin, hb⟩
  · refine ⟨b, ?_, hb⟩
    rw [Draft.notes_append, Draft.notes_cons] at hb
    rcases mem_names_of_notes hb with hin' | hin'
    · exact mem_names.mpr (List.mem_append_right before
        (List.mem_cons_of_mem _ (mem_names.mp hin')))
    · obtain rfl : a = b := Option.some.inj hin'
      exact hmem

theorem notes_name_of_no_names (hclose : Mark.close ∉ marks) (h : names marks = []) :
    (draft.notes marks).name = draft.name := by
  induction marks generalizing draft with
  | nil => rfl
  | cons mark marks ih =>
    have hcloses : Mark.close ∉ marks := fun h => hclose (List.mem_cons_of_mem mark h)
    cases mark with
    | close => exact absurd List.mem_cons_self hclose
    | name a => cases h
    | detail b => exact ih hcloses h
    | idle => exact ih hcloses h
    | last => exact ih hcloses h

/-- Lines that close no record keep a detail. -/
theorem notes_detail_ne_none (hclose : Mark.close ∉ marks) (h : draft.detail ≠ none) :
    (draft.notes marks).detail ≠ none := by
  induction marks generalizing draft with
  | nil => exact h
  | cons mark marks ih =>
    have hcloses : Mark.close ∉ marks := fun h => hclose (List.mem_cons_of_mem mark h)
    cases mark with
    | close => exact absurd List.mem_cons_self hclose
    | name a => exact ih hcloses h
    | detail b => exact ih hcloses (Option.some_ne_none b)
    | idle => exact ih hcloses h
    | last => exact ih hcloses h

theorem notes_detail_of_no_detail (hclose : Mark.close ∉ marks)
    (hdetail : ∀ b, Mark.detail b ∉ marks) : (draft.notes marks).detail = draft.detail := by
  induction marks generalizing draft with
  | nil => rfl
  | cons mark marks ih =>
    have hcloses : Mark.close ∉ marks := fun h => hclose (List.mem_cons_of_mem mark h)
    have hdetails : ∀ b, Mark.detail b ∉ marks := fun b h => hdetail b (List.mem_cons_of_mem mark h)
    cases mark with
    | close => exact absurd List.mem_cons_self hclose
    | detail b => exact absurd List.mem_cons_self (hdetail b)
    | name a => exact ih hcloses hdetails
    | idle => exact ih hcloses hdetails
    | last => exact ih hcloses hdetails

/-- A record begins with its name. -/
theorem Listed.empty_of_names (h : Listed draft marks) (hclose : Mark.close ∉ marks)
    (hnames : names marks ≠ []) : draft = .empty := by
  induction marks generalizing draft with
  | nil => exact absurd rfl hnames
  | cons mark marks ih =>
    have hcloses : Mark.close ∉ marks := fun h => hclose (List.mem_cons_of_mem mark h)
    cases mark with
    | close => exact absurd List.mem_cons_self hclose
    | name a => exact h.1
    | detail b =>
      have hempty := congrArg Draft.detail (ih h.2.2 hcloses hnames)
      exact absurd hempty (Option.some_ne_none b)
    | idle => exact ih h hcloses hnames
    | last => exact h.1

/-- A record has its detail once. -/
theorem Listed.detail_of_mem {b : β} (h : Listed draft marks) (hclose : Mark.close ∉ marks)
    (hmem : Mark.detail b ∈ marks) :
    draft.detail = none ∧ (draft.notes marks).detail ≠ none := by
  induction marks generalizing draft with
  | nil => cases hmem
  | cons mark marks ih =>
    have hcloses : Mark.close ∉ marks := fun h => hclose (List.mem_cons_of_mem mark h)
    cases mark with
    | close => exact absurd List.mem_cons_self hclose
    | name a =>
      obtain ⟨rfl, h⟩ := h
      exact ⟨rfl, (ih h hcloses (by simpa using hmem)).2⟩
    | detail c =>
      have hkept : ((draft.note (.detail c)).notes marks).detail ≠ none :=
        notes_detail_ne_none hcloses (Option.some_ne_none c)
      exact ⟨h.2.1, hkept⟩
    | idle => exact ih h hcloses (by simpa using hmem)
    | last =>
      obtain ⟨rfl, rfl⟩ := h
      exact absurd hmem (by simp)

/-- A record is closed with its name. -/
theorem Listed.named_at_close (h : Listed draft (before ++ .close :: after)) :
    (draft.notes before).name ≠ none := by
  have hlast : Mark.last ∉ before := fun hlast => by cases h.nothing_after hlast
  exact (h.right hlast).1

theorem notes_name_mem {a : α} (h : (Draft.empty.notes marks : Draft α β).name = some a) :
    a ∈ names marks := by
  rcases mem_names_of_notes h with hmem | hname
  · exact hmem
  · cases hname

/-- The first record closed behind lines is named in them. -/
theorem first_record_named (hlast : Mark.last ∉ before) :
    ∃ record others, records draft (before ++ .close :: after) = record :: others ∧
      ∀ a, record.name = some a → a ∈ names before ∨ draft.name = some a := by
  induction before generalizing draft with
  | nil => exact ⟨draft, _, rfl, fun a h => .inr h⟩
  | cons mark before ih =>
    have htail : Mark.last ∉ before := fun h => hlast (List.mem_cons_of_mem mark h)
    have later (draft' : Draft α β) (hname : ∀ a, draft'.name = some a →
        a ∈ names (mark :: before) ∨ draft.name = some a)
        (hrecords : records draft (mark :: before ++ .close :: after) =
          records draft' (before ++ .close :: after)) :
        ∃ record others, records draft (mark :: before ++ .close :: after) = record :: others ∧
          ∀ a, record.name = some a → a ∈ names (mark :: before) ∨ draft.name = some a := by
      obtain ⟨record, others, hrecord, hnamed⟩ := @ih draft' htail
      refine ⟨record, others, hrecords.trans hrecord, fun a ha => ?_⟩
      rcases hnamed a ha with hmem | hsome
      · exact .inl (mem_names.mpr (List.mem_cons_of_mem mark (mem_names.mp hmem)))
      · exact hname a hsome
    cases mark with
    | last => exact absurd List.mem_cons_self hlast
    | close => exact ⟨draft, _, rfl, fun a h => .inr h⟩
    | name b =>
      refine later (draft.note (.name b)) (fun a ha => ?_) rfl
      obtain rfl : b = a := Option.some.inj ha
      exact .inl (mem_names.mpr List.mem_cons_self)
    | detail b => exact later (draft.note (.detail b)) (fun a ha => .inr ha) rfl
    | idle => exact later draft (fun a ha => .inr ha) rfl

/-- Where a draft has a name and its detail, lines up to the close of its record tell neither. -/
theorem notes_kept (hlisted : Listed draft marks)
    (hclose : Mark.close ∉ marks) :
    (draft.name ≠ none → names marks = []) ∧
      (draft.detail ≠ none → ∀ b, Mark.detail b ∉ marks) := by
  refine ⟨fun hname => ?_, fun hdetail b hmem => hdetail (hlisted.detail_of_mem hclose hmem).1⟩
  by_contra hne
  exact hname (congrArg Draft.name (hlisted.empty_of_names hclose hne))

/-- The records of a listing have their names from it. -/
theorem mem_names_of_mem_records {record : Draft α β} {a : α}
    (hmem : record ∈ records draft marks) (hname : record.name = some a) :
    a ∈ names marks ∨ draft.name = some a := by
  induction marks generalizing draft with
  | nil => cases hmem
  | cons mark marks ih =>
    have later : a ∈ names marks → a ∈ names (mark :: marks) := fun h =>
      mem_names.mpr (List.mem_cons_of_mem mark (mem_names.mp h))
    cases mark with
    | last => cases hmem
    | close =>
      rcases List.mem_cons.mp hmem with rfl | hmem
      · exact .inr hname
      · rcases ih hmem with h | h
        · exact .inl (later h)
        · cases h
    | name b =>
      rcases ih hmem with h | h
      · exact .inl (later h)
      · obtain rfl : b = a := Option.some.inj h
        exact .inl (mem_names.mpr List.mem_cons_self)
    | detail b => exact (ih hmem).imp_left later
    | idle => exact (ih hmem).imp_left later

/-- **A listing from a record on** lists what the whole one does from this record on. -/
theorem dropWhile_records [DecidableEq α] {a : α}
    (hlisted : Listed .empty (before ++ .name a :: after))
    (hnodup : (names (before ++ .name a :: after)).Nodup) :
    (records .empty (before ++ .name a :: after)).dropWhile (fun record => record.name ≠ some a) =
      records .empty (.name a :: after) := by
  have hlast : Mark.last ∉ before := fun hin => by cases hlisted.nothing_after hin
  have hempty := (hlisted.right hlast).1
  have hafter := (hlisted.right hlast).2
  rw [records_append hlast, hempty, List.dropWhile_append_of_pos]
  · cases hrecords : records Draft.empty (Mark.name a :: after) with
    | nil => rfl
    | cons record others =>
      obtain ⟨front, back, rfl, hclose, -, rfl, -⟩ :=
        @exists_close _ _ ⟨some a, none⟩ _ _ _ hrecords
      have hnames := (notes_kept hafter.left hclose).1 (Option.some_ne_none a)
      have hname := @notes_name_of_no_names _ _ ⟨some a, none⟩ front hclose hnames
      rw [List.dropWhile_cons_of_neg]
      simp [hname]
  · intro record hmem
    apply decide_eq_true
    intro hname
    rcases mem_names_of_mem_records hmem hname with hin | hin
    · rw [names_append] at hnodup
      have hfirst : a ∈ names (Mark.name a :: after) := mem_names.mpr List.mem_cons_self
      exact (List.nodup_append.mp hnodup).2.2 a hin a hfirst rfl
    · cases hin

end

/-! ## Missed lines -/

section

variable {α : Type u} {β : Type v}

/-- The record left open before the gap is closed by the end of another behind it, which tells the
same of it as its own end does; it is the last there is room for. -/
def Spliced (n : Nat) (shown hidden rest : List (Mark α β)) : Prop :=
  closes shown + 1 = n ∧ ∃ ending later tail others,
    hidden = ending ++ .close :: later ∧ rest = tail ++ .close :: others ∧
      (Mark.close ∉ ending ∧ names ending = []) ∧ (Mark.close ∉ tail ∧ names tail = []) ∧
      Draft.empty.notes (shown ++ ending) = Draft.empty.notes (shown ++ tail)

/-- A reader with room for so many records may miss the hidden lines: it is done before them, they
say nothing, or what they say is said again. -/
def MayMiss (n : Nat) (shown hidden rest : List (Mark α β)) : Prop :=
  n ≤ closes shown ∨ (∀ mark ∈ hidden, mark = .idle) ∨ Spliced n shown hidden rest

variable {n : Nat} {shown hidden rest : List (Mark α β)}

theorem records_take_of_mayMiss (hlisted : Listed .empty (shown ++ (hidden ++ rest)))
    (h : MayMiss n shown hidden rest) :
    (records .empty (shown ++ rest)).take n =
      (records .empty (shown ++ (hidden ++ rest))).take n := by
  by_cases hlast : Mark.last ∈ shown
  · obtain ⟨rfl, rfl⟩ := List.append_eq_nil_iff.mp (hlisted.nothing_after hlast)
    rfl
  rw [records_append hlast, records_append hlast]
  rcases h with hroom | hidle |
    ⟨hroom, ending, later, tail, others, rfl, rfl, hending, htail, hsame⟩
  · rw [List.take_append_of_le_length (by rwa [length_records hlast]),
      List.take_append_of_le_length (by rwa [length_records hlast])]
  · rw [records_idle hidle]
  · have hhidden := hlisted.right hlast
    have hlastEnding : Mark.last ∉ ending := fun hin => by
      rw [List.append_assoc] at hhidden
      cases hhidden.nothing_after hin
    have hlastTail : Mark.last ∉ tail := fun hin => by
      rw [← List.append_assoc] at hhidden
      cases hhidden.nothing_after (List.mem_append_right _ hin)
    rw [List.append_assoc, List.cons_append, records_close htail.1 hlastTail,
      records_close hending.1 hlastEnding, ← Draft.notes_append, ← Draft.notes_append, hsame]
    have hlen : (records .empty shown).length + 1 = n := by rwa [length_records hlast]
    rw [← hlen, List.take_length_add_append, List.take_length_add_append]
    rfl

/-- What is read behind the lines before the gap, with the room they leave. -/
theorem take_behind (hlast : Mark.last ∉ shown)
    (heq : (records .empty (shown ++ rest)).take n =
      (records .empty (shown ++ (hidden ++ rest))).take n) :
    (records (Draft.empty.notes shown) rest).take (n - closes shown) =
      (records (Draft.empty.notes shown) (hidden ++ rest)).take (n - closes shown) := by
  rw [records_append hlast, records_append hlast, List.take_append, List.take_append,
    length_records hlast] at heq
  exact List.append_cancel_left heq

/-- A name is told once. -/
theorem not_mem_names_right {a : α} {before after : List (Mark α β)}
    (hnodup : (names (before ++ after)).Nodup) (hbefore : a ∈ names before) :
    a ∉ names after := by
  rw [names_append] at hnodup
  exact fun hafter => (List.nodup_append.mp hnodup).2.2 a hbefore a hafter rfl

/-- Where a record is closed in the gap, another is closed for it, and no more. -/
theorem spliced_of_close (hlisted : Listed .empty (shown ++ (hidden ++ rest)))
    (hnodup : (names (shown ++ (hidden ++ rest))).Nodup) (hlast : Mark.last ∉ shown)
    (hroom : closes shown < n) (hclose : Mark.close ∈ hidden)
    (heq : (records .empty (shown ++ rest)).take n =
      (records .empty (shown ++ (hidden ++ rest))).take n) :
    Spliced n shown hidden rest := by
  have hbehind := take_behind hlast heq
  obtain ⟨k, hk⟩ : ∃ k, n - closes shown = k + 1 := Nat.exists_eq_succ_of_ne_zero (by omega)
  obtain ⟨ending, later, rfl, hending⟩ := List.eq_append_cons_of_mem hclose
  have hlistedHidden := hlisted.right hlast
  rw [List.append_assoc] at hlistedHidden
  have hlastEnding : Mark.last ∉ ending := fun hin => by
    cases hlistedHidden.nothing_after hin
  rw [hk, List.append_assoc, List.cons_append, records_close hending hlastEnding,
    List.take_succ_cons] at hbehind
  -- the record that is taken down instead
  obtain ⟨record, others, hrecord⟩ : ∃ record others,
      records (Draft.empty.notes shown) rest = record :: others := by
    cases hrest : records (Draft.empty.notes shown) rest with
    | nil =>
      rw [hrest] at hbehind
      cases hbehind
    | cons record others => exact ⟨record, others, rfl⟩
  obtain ⟨tail, final, rfl, htail, hlastTail, rfl, rfl⟩ := exists_close hrecord
  rw [hrecord, List.take_succ_cons] at hbehind
  obtain ⟨hsame, hrest⟩ := List.cons.inj hbehind
  obtain ⟨a, ha⟩ := Option.ne_none_iff_exists'.mp hlistedHidden.named_at_close
  have haIn : a ∈ names (shown ++ ending) := by
    rw [← Draft.notes_append] at ha
    exact notes_name_mem ha
  have hnames :
      (names ((shown ++ ending) ++ (.close :: later ++ (tail ++ .close :: final)))).Nodup := by
    simpa only [List.append_assoc, List.cons_append] using hnodup
  have hnoTail : names tail = [] := by
    by_contra hne
    obtain ⟨b, hb⟩ := List.exists_mem_of_ne_nil _ hne
    obtain ⟨c, hc, hname⟩ := @exists_name_of_notes _ _ (Draft.empty.notes shown) tail b htail hb
    rw [hsame, ha] at hname
    obtain rfl : a = c := Option.some.inj hname
    refine not_mem_names_right hnames haIn ?_
    rw [names_append, names_append]
    exact List.mem_append_right _ (List.mem_append_left _ hc)
  have hnoEnding : names ending = [] := by
    by_contra hne
    have hempty := hlistedHidden.left.empty_of_names hending hne
    rw [hempty] at hsame ha
    rw [← hsame, notes_name_of_no_names htail hnoTail] at ha
    cases ha
  have hroom' : closes shown + 1 = n := by
    by_contra hmore
    obtain ⟨j, rfl⟩ : ∃ j, k = j + 1 := Nat.exists_eq_succ_of_ne_zero (by omega)
    -- the next record is named in the gap, and the one taken down behind it
    have hlistedLater : Listed .empty ((later ++ tail) ++ .close :: final) := by
      rw [List.append_assoc]
      exact (hlistedHidden.right hlastEnding).2
    have hlastLater : Mark.last ∉ later ++ tail := fun hin => by
      cases hlistedLater.nothing_after hin
    obtain ⟨next, others, hnext, hnamed⟩ :=
      @first_record_named _ _ .empty (later ++ tail) final hlastLater
    rw [← List.append_assoc, hnext, List.take_succ_cons] at hrest
    obtain ⟨others', hfinal⟩ : ∃ others', records .empty final = next :: others' := by
      cases hrecords : records Draft.empty final with
      | nil =>
        rw [hrecords] at hrest
        cases hrest
      | cons record others' =>
        rw [hrecords, List.take_succ_cons] at hrest
        exact ⟨others', by rw [(List.cons.inj hrest).1]⟩
    obtain ⟨front, _, hfront, -, -, hnextFront, -⟩ := exists_close hnext
    obtain ⟨front', back', rfl, -, -, hnextFinal, -⟩ := exists_close hfinal
    obtain ⟨c, hc⟩ : ∃ c, next.name = some c := by
      rw [hfront] at hlistedLater
      rw [hnextFront]
      exact Option.ne_none_iff_exists'.mp hlistedLater.named_at_close
    have hcLater : c ∈ names later := by
      rcases hnamed c hc with hmem | hname
      · rwa [names_append, hnoTail, List.append_nil] at hmem
      · cases hname
    have hcFinal : c ∈ names front' := notes_name_mem (hnextFinal ▸ hc)
    have hsplit : (names ((shown ++ ending ++ .close :: later) ++
        (tail ++ .close :: (front' ++ .close :: back')))).Nodup := by
      simpa only [List.append_assoc, List.cons_append] using hnodup
    refine not_mem_names_right hsplit ?_ ?_ (a := c)
    · rw [names_append]
      exact List.mem_append_right _ (mem_names.mpr (List.mem_cons_of_mem _ (mem_names.mp hcLater)))
    · refine mem_names.mpr (List.mem_append_right tail (List.mem_cons_of_mem _ ?_))
      exact List.mem_append_left _ (mem_names.mp hcFinal)
  refine ⟨hroom', ending, later, tail, final, rfl, rfl, ⟨hending, hnoEnding⟩, ⟨htail, hnoTail⟩, ?_⟩
  rw [Draft.notes_append, Draft.notes_append, hsame]

theorem last_mem_of_seesEnd {marks : List (Mark α β)} (h : seesEnd (n + 1) marks = true)
    (hclose : Mark.close ∉ marks) : Mark.last ∈ marks := by
  induction marks with
  | nil => cases h
  | cons mark marks ih =>
    have hcloses : Mark.close ∉ marks := fun h => hclose (List.mem_cons_of_mem mark h)
    cases mark with
    | close => exact absurd List.mem_cons_self hclose
    | last => exact List.mem_cons_self
    | name a => exact List.mem_cons_of_mem _ (ih h hcloses)
    | detail b => exact List.mem_cons_of_mem _ (ih h hcloses)
    | idle => exact List.mem_cons_of_mem _ (ih h hcloses)

/-- What lines that close no record say is in the draft behind them. -/
theorem notes_told {draft : Draft α β} {marks : List (Mark α β)} (hlisted : Listed draft marks)
    (hclose : Mark.close ∉ marks) (hlast : Mark.last ∉ marks) (h : ¬ ∀ mark ∈ marks, mark = .idle) :
    draft.name = none ∧ (draft.notes marks).name ≠ none ∨
      draft.detail = none ∧ (draft.notes marks).detail ≠ none := by
  simp only [not_forall] at h
  obtain ⟨mark, hmem, hmark⟩ := h
  cases mark with
  | idle => exact absurd rfl hmark
  | close => exact absurd hmem hclose
  | last => exact absurd hmem hlast
  | name a =>
    have hnames := mem_names.mpr hmem
    have hempty := hlisted.empty_of_names hclose (List.ne_nil_of_mem hnames)
    obtain ⟨b, -, hb⟩ := @exists_name_of_notes _ _ draft _ _ hclose hnames
    exact .inl ⟨congrArg Draft.name hempty, by rw [hb]; exact Option.some_ne_none b⟩
  | detail b => exact .inr (hlisted.detail_of_mem hclose hmem)

/-- Where no record is closed in the gap, its lines say nothing. -/
theorem idle_of_no_close (hlisted : Listed .empty (shown ++ (hidden ++ rest)))
    (hlast : Mark.last ∉ shown) (hroom : closes shown < n) (hclose : Mark.close ∉ hidden)
    (hsees : seesEnd n (shown ++ rest) = true)
    (heq : (records .empty (shown ++ rest)).take n =
      (records .empty (shown ++ (hidden ++ rest))).take n) :
    ∀ mark ∈ hidden, mark = .idle := by
  by_contra hsaid
  rw [seesEnd_append hlast hroom] at hsees
  obtain ⟨k, hk⟩ : ∃ k, n - closes shown = k + 1 := Nat.exists_eq_succ_of_ne_zero (by omega)
  have hlistedHidden := hlisted.right hlast
  have hlastHidden : Mark.last ∉ hidden := fun hin => by
    rw [hlistedHidden.nothing_after hin] at hsees
    cases hsees
  have hlistedRest := hlistedHidden.right hlastHidden
  have told := notes_told hlistedHidden.left hclose hlastHidden hsaid
  by_cases hcloseRest : Mark.close ∈ rest
  · obtain ⟨tail, final, rfl, htail⟩ := List.eq_append_cons_of_mem hcloseRest
    have hlastTail : Mark.last ∉ tail := fun hin => by
      cases hlistedRest.nothing_after hin
    have hneither : Mark.close ∉ hidden ++ tail ∧ Mark.last ∉ hidden ++ tail :=
      ⟨by simp [hclose, htail], by simp [hlastHidden, hlastTail]⟩
    have hbehind := take_behind hlast heq
    rw [← List.append_assoc, records_close htail hlastTail,
      records_close hneither.1 hneither.2, hk, List.take_succ_cons, List.take_succ_cons,
      Draft.notes_append] at hbehind
    have hsame := (List.cons.inj hbehind).1
    have kept := notes_kept hlistedRest.left htail
    rcases told with ⟨hnone, hsome⟩ | ⟨hnone, hsome⟩
    · have hname := congrArg Draft.name hsame
      rw [notes_name_of_no_names htail (kept.1 hsome),
        notes_name_of_no_names htail (kept.1 hsome), hnone] at hname
      exact hsome hname.symm
    · have hdetail := congrArg Draft.detail hsame
      rw [notes_detail_of_no_detail htail (kept.2 hsome),
        notes_detail_of_no_detail htail (kept.2 hsome), hnone] at hdetail
      exact hsome hdetail.symm
  · -- the last line comes, and the record of the gap is still open
    rw [hk] at hsees
    obtain ⟨before, after, rfl⟩ := List.append_of_mem (last_mem_of_seesEnd hsees hcloseRest)
    have hcloseBefore : Mark.close ∉ before := fun h =>
      hcloseRest (List.mem_append_left _ h)
    have hlastBefore : Mark.last ∉ before := fun hin => by
      cases hlistedRest.nothing_after hin
    have hempty := (hlistedRest.right hlastBefore).1
    rcases told with ⟨-, hsome⟩ | ⟨-, hsome⟩
    · exact notes_name_ne_none hcloseBefore hsome (congrArg Draft.name hempty)
    · exact notes_detail_ne_none hcloseBefore hsome (congrArg Draft.detail hempty)

/-- **Missed lines.** A reader of a listing whose names differ, which sees that it is done, takes
down the same records without the hidden lines exactly when it may miss them. -/
theorem records_take_iff_mayMiss (hlisted : Listed .empty (shown ++ (hidden ++ rest)))
    (hnodup : (names (shown ++ (hidden ++ rest))).Nodup)
    (hsees : seesEnd n (shown ++ rest) = true) :
    (records .empty (shown ++ rest)).take n =
        (records .empty (shown ++ (hidden ++ rest))).take n ↔ MayMiss n shown hidden rest := by
  refine ⟨fun heq => ?_, records_take_of_mayMiss hlisted⟩
  by_cases hlast : Mark.last ∈ shown
  · obtain ⟨rfl, -⟩ := List.append_eq_nil_iff.mp (hlisted.nothing_after hlast)
    exact .inr (.inl (List.forall_mem_nil _))
  by_cases hroom : closes shown < n
  · by_cases hclose : Mark.close ∈ hidden
    · exact .inr (.inr (spliced_of_close hlisted hnodup hlast hroom hclose heq))
    · exact .inr (.inl (idle_of_no_close hlisted hlast hroom hclose hsees heq))
  · exact .inl (Nat.le_of_not_lt hroom)

end

end Zss.Lib
