import Mathlib.Data.List.TakeWhile
import Zss.Apiml.CachingService

/-!
# A caching service

A common library and a caching service that do as documented (`plainService_documented`), for every
key and value. An entry is written as JSON; what is not a small letter is written with an escape of
its own, and a path has its key as it is.
-/

namespace Zss.Apiml

/-! ## Text -/

def IsSmallLetter (c : Char) : Prop := 'a'.toNat ≤ c.toNat ∧ c.toNat ≤ 'z'.toNat

instance (c : Char) : Decidable (IsSmallLetter c) := inferInstanceAs (Decidable (_ ∧ _))

/-- A small letter as it is, another character as so many `u`. -/
def encodeChar (c : Char) : Text :=
  if IsSmallLetter c then [c] else '\\' :: (List.replicate c.toNat 'u' ++ [';'])

def encodeText (text : Text) : Text := text.flatMap encodeChar

/-- Reads what was encoded; within an escape, so many `u` were read. -/
def decodeFrom : Option Nat → Text → Text
  | none, [] => []
  | none, c :: rest => if c = '\\' then decodeFrom (some 0) rest else c :: decodeFrom none rest
  | some _, [] => []
  | some n, c :: rest =>
    if c = 'u' then decodeFrom (some (n + 1)) rest else Char.ofNat n :: decodeFrom none rest

theorem decodeFrom_replicate (n k : Nat) (rest : Text) :
    decodeFrom (some n) (List.replicate k 'u' ++ ';' :: rest) =
      Char.ofNat (n + k) :: decodeFrom none rest := by
  induction k generalizing n with
  | zero => rfl
  | succ k ih =>
    show decodeFrom (some (n + 1)) (List.replicate k 'u' ++ ';' :: rest) = _
    rw [ih, Nat.add_right_comm, Nat.add_assoc]

theorem decodeFrom_encodeChar (c : Char) (rest : Text) :
    decodeFrom none (encodeChar c ++ rest) = c :: decodeFrom none rest := by
  unfold encodeChar
  split
  next hplain =>
    have hc : c ≠ '\\' := by
      rintro rfl
      exact absurd hplain (by decide)
    show (if c = '\\' then _ else _) = _
    rw [if_neg hc]
    rfl
  next =>
    have hescape := decodeFrom_replicate 0 c.toNat rest
    rw [Nat.zero_add, Char.ofNat_toNat] at hescape
    rw [List.cons_append, List.append_assoc]
    exact hescape

theorem decodeFrom_encodeText (text : Text) : decodeFrom none (encodeText text) = text := by
  induction text with
  | nil => rfl
  | cons c text ih =>
    show decodeFrom none (encodeChar c ++ encodeText text) = _
    rw [decodeFrom_encodeChar, ih]

/-- What is written: ASCII, neither a quote nor NUL. -/
def Clean (c : Char) : Prop := c.toNat < 128 ∧ c ≠ '"' ∧ c ≠ '\x00'

theorem clean_of_isSmallLetter {c : Char} (h : IsSmallLetter c) : Clean c := by
  refine ⟨Nat.lt_of_le_of_lt h.2 (by decide), ?_, ?_⟩
  · rintro rfl
    exact absurd h (by decide)
  · rintro rfl
    exact absurd h (by decide)

theorem clean_encodeText {text : Text} : ∀ c ∈ encodeText text, Clean c := by
  intro c hc
  obtain ⟨d, -, hc⟩ := List.mem_flatMap.mp hc
  unfold encodeChar at hc
  split at hc
  next hplain => exact (List.mem_singleton.mp hc) ▸ clean_of_isSmallLetter hplain
  next =>
    obtain rfl | hc := List.mem_cons.mp hc
    · exact ⟨by decide, by decide, by decide⟩
    · obtain hc | hc := List.mem_append.mp hc
      · obtain rfl := List.eq_of_mem_replicate hc
        exact ⟨by decide, by decide, by decide⟩
      · obtain rfl := List.mem_singleton.mp hc
        exact ⟨by decide, by decide, by decide⟩

/-! ## An entry -/

def toByte (c : Char) : UInt8 := UInt8.ofNat c.toNat

def ofByte (byte : UInt8) : Char := Char.ofNat byte.toNat

theorem ofByte_toByte {c : Char} (h : c.toNat < 128) : ofByte (toByte c) = c := by
  have hbyte : (toByte c).toNat = c.toNat :=
    UInt8.toNat_ofNat_of_lt' (Nat.lt_trans h (by decide))
  unfold ofByte
  rw [hbyte, Char.ofNat_toNat]

/-- The JSON text of an entry, as it is written piece by piece. -/
def entryChunks (key value : Text) : List Text :=
  ["\x7b\"key\":\"".toList, encodeText key, "\",\"value\":\"".toList, encodeText value,
    "\"\x7d".toList]

def writeEntry (key value : Text) : Bytes := (entryChunks key value).flatten.map toByte

/-- Up to the next quote, and what follows it. -/
def quoted (text : Text) : Text × Text :=
  (text.takeWhile (· ≠ '"'), text.dropWhile (· ≠ '"'))

/-- The key and the value of an entry. -/
def readEntry (body : Bytes) : Text × Text :=
  let (key, rest) := quoted ((body.map ofByte).drop 8)
  let (value, _) := quoted (rest.drop 11)
  (decodeFrom none key, decodeFrom none value)

theorem quoted_encodeText (text rest : Text) :
    quoted (encodeText text ++ '"' :: rest) = (encodeText text, '"' :: rest) := by
  have hclean : ∀ c ∈ encodeText text, decide (c ≠ '"') = true := fun c hc =>
    decide_eq_true (clean_encodeText c hc).2.1
  unfold quoted
  rw [List.takeWhile_append_of_pos hclean, List.dropWhile_append_of_pos hclean]
  simp

/-- The text of an entry is ASCII, and has no NUL. -/
theorem entryChunks_ascii {key value : Text} {c : Char}
    (hc : c ∈ (entryChunks key value).flatten) : c.toNat < 128 ∧ c ≠ '\x00' := by
  obtain ⟨chunk, hchunk, hc⟩ := List.mem_flatten.mp hc
  have hfixed : ∀ text : Text, text.all (fun c => decide (c.toNat < 128 ∧ c ≠ '\x00')) = true →
      c ∈ text → c.toNat < 128 ∧ c ≠ '\x00' := fun text htext hmem =>
    of_decide_eq_true (List.all_eq_true.mp htext c hmem)
  have hencoded : ∀ text, c ∈ encodeText text → c.toNat < 128 ∧ c ≠ '\x00' := fun text hmem =>
    ⟨(clean_encodeText c hmem).1, (clean_encodeText c hmem).2.2⟩
  simp only [entryChunks, List.mem_cons, List.not_mem_nil, or_false] at hchunk
  obtain rfl | rfl | rfl | rfl | rfl := hchunk
  · exact hfixed _ (by decide) hc
  · exact hencoded key hc
  · exact hfixed _ (by decide) hc
  · exact hencoded value hc
  · exact hfixed _ (by decide) hc

/-- **What is written of an entry is read.** -/
theorem readEntry_writeEntry (key value : Text) :
    readEntry (writeEntry key value) = (key, value) := by
  have hbytes : (writeEntry key value).map ofByte = (entryChunks key value).flatten := by
    unfold writeEntry
    rw [List.map_map]
    exact (List.map_congr_left fun c hc => ofByte_toByte (entryChunks_ascii hc).1).trans
      (List.map_id _)
  unfold readEntry
  rw [hbytes]
  have hdrop : (entryChunks key value).flatten.drop 8 =
      encodeText key ++ '"' :: (",\"value\":\"".toList ++ (encodeText value ++ ['"', '\x7d'])) :=
    rfl
  rw [hdrop, quoted_encodeText]
  show (decodeFrom none (encodeText key),
    decodeFrom none (quoted (encodeText value ++ ['"', '\x7d'])).1) = _
  rw [quoted_encodeText, decodeFrom_encodeText, decodeFrom_encodeText]

/-! ## The service -/

/-- The JSON text of an object without members. -/
def emptyObject : Bytes := "\x7b\x7d".toList.map toByte

theorem writeEntry_ne_emptyObject (key value : Text) : writeEntry key value ≠ emptyObject := nofun

/-- JSON is an entry, or an object without members. -/
def plainLibrary : Library where
  Json := Option (Text × Text)
  JsonObject := Option (Text × Text)
  percentEncode key := key
  bodyChunks := entryChunks
  ibm1047ToIso88591 := toByte
  jsonParseUnterminatedUtf8String body contentLength :=
    body.map fun body =>
      if body.take contentLength = emptyObject then none
      else some (readEntry (body.take contentLength))
  jsonAsObject json := json
  jsonObjectGetString object name :=
    object.bind fun entry => if name = "value".toList then some entry.2 else none

def plainRead (request : ApimlRequest) : Option CacheRequest :=
  let key := request.path.drop (cachingServiceUri.length + 1)
  match request.method, request.body with
  | .put, some body => some (.put (readEntry body).1 (readEntry body).2)
  | .post, some body => some (.post (readEntry body).1 (readEntry body).2)
  | .get, none => some (.get key)
  | .delete, none => some (.delete key)
  | _, _ => none

def plainWrite : CacheAnswer → HttpResponse
  | .done => ⟨204, 0, some []⟩
  | .entry key value => ⟨200, (writeEntry key value).length, some (writeEntry key value)⟩
  | .notFound _ => ⟨404, emptyObject.length, some emptyObject⟩
  | .conflict _ => ⟨409, emptyObject.length, some emptyObject⟩

def plainService : Service where
  read := plainRead
  write _ := plainWrite
  badRequest := ⟨400, 0, some []⟩

/-- **It does as documented.** -/
theorem plainService_documented : plainService.Documented plainLibrary where
  read_put key value := by
    show some (CacheRequest.put (readEntry (writeEntry key value)).1
      (readEntry (writeEntry key value)).2) = _
    rw [readEntry_writeEntry]
  read_post key value := by
    show some (CacheRequest.post (readEntry (writeEntry key value)).1
      (readEntry (writeEntry key value)).2) = _
    rw [readEntry_writeEntry]
  read_get key := rfl
  read_delete key := rfl
  no_nul key value hmem := (entryChunks_ascii hmem).2 rfl
  status request answer := by
    cases answer with
    | done => exact .inr (.inr rfl)
    | entry key value => rfl
    | notFound key => rfl
    | conflict key => rfl
  json key answer := by cases answer <;> rfl
  value key value json hparse := by
    have hparsed : plainLibrary.jsonParseUnterminatedUtf8String (some (writeEntry key value))
        (writeEntry key value).length = some (some (key, value)) := by
      show some (if _ then none else some _) = _
      rw [List.take_length, if_neg (writeEntry_ne_emptyObject key value), readEntry_writeEntry]
    exact ⟨some (key, value), hparse.symm.trans hparsed, rfl⟩

end Zss.Apiml
