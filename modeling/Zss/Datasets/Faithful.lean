import Zss.Datasets.Update

/-!
# Data sets under faithful input and output

A data set as its users see it: what the lookups say of it, which does not contradict what it is
(`Dataset`), and the records it contains. `Faithful` says which answers come from such a data set:
its records can be read and are returned whole, a write takes what a record can hold, and a digest
takes in every piece it is given and is that of all of them. Whether a lookup has an answer, a file can
be opened otherwise than to read records, or a digest be started or finished stays open.

## What is not established

Nothing is said of a run in which `icsfDigestUpdate` fails. `getDatasetETag` goes on after such a
failure and, if a later piece is taken in, has the etag of what was. Nor is anything said of one in
which the records cannot be opened to be read: the return code and the digest are then not written, and
what stands there is printed.

For the programs that read, update and print etags this module says what every faithful run leaves:
which etag is computed, what is written, and from which bytes the etag of a response is made.
-/

namespace Zss.Datasets

open Zss.Lib

/-! ## Data sets -/

/-- A data set, with what the lookups say of it. -/
structure Dataset where
  /-- Its records have one length. -/
  fixed : Bool
  /-- The most bytes a record holds. -/
  capacity : Nat
  entries : List CatalogEntry
  dscb : Option Dscb
  info : Option FileInfo
  dscb_type : ∀ d, dscb = some d → (getRecordLengthType d = some 'F' ↔ fixed = true)
  dscb_length : ∀ d, dscb = some d →
    capacity ≤ getMaxRecordLength d ∧ (fixed = true → getMaxRecordLength d = capacity)
  info_type : ∀ i, info = some i → (i.recfmF = true ↔ fixed = true)
  info_length : ∀ i, info = some i →
    capacity ≤ i.maxreclen ∧ (fixed = true → i.maxreclen = capacity)

variable {dsn : Text} {events : Trace}

namespace Dataset

variable (D : Dataset)

/-- Records that the data set can contain. -/
def Fits (contents : List Bytes) : Prop :=
  ∀ r ∈ contents, r.length ≤ D.capacity ∧ (D.fixed = true → r.length = D.capacity)

instance (contents : List Bytes) : Decidable (D.Fits contents) :=
  List.decidableBAll
    (fun r : Bytes => r.length ≤ D.capacity ∧ (D.fixed = true → r.length = D.capacity))
    contents

/-- The record that stands in the data set once bytes were written. A short record of a fixed-length
data set is filled with zeros. -/
def stored (b : Bytes) : Bytes :=
  if D.fixed then b ++ List.replicate (D.capacity - b.length) 0 else b

/-- What `getVolserForDataset` finds. -/
def volser (dsn : Text) : Option Text :=
  if dsn.any fun c => c == '(' || c == '*' || c == '$' then none
  else D.entries.head?.bind CatalogEntry.volser

/-- What `lookupDscb` finds. -/
def dscbOf (dsn : Text) : Option Dscb := (D.volser dsn).bind fun _ => D.dscb

/-- The record length for reading; zero where there is none to be had. -/
def lrecl (dsn : Text) : Nat :=
  match D.dscbOf dsn with
  | some d => if getRecordLengthType d = some 'U' then 0 else getMaxRecordLength d
  | none =>
    match D.info with
    | some i => if i.recfmU then 0 else i.maxreclen
    | none => 0

/-- The record type for writing, where the type check has nothing against it. -/
def recordType (dsn : Text) : Option RecordType :=
  match D.volser dsn with
  | some _ =>
    match D.dscb with
    | some d =>
      if isSupportedWriteDsorg d = .unsupported ∨ getRecordLengthType d = some 'U' then none
      else some ⟨getMaxRecordLength d, getRecordLengthType d = some 'F'⟩
    | none => some ⟨80, false⟩
  | none =>
    match D.info with
    | some i =>
      if (i.dsorgVSAM || i.dsorgHFS || i.dsorgHiper) = true then none
      else if i.maxreclen = 0 then none
      else if (!i.recfmF && i.recfmU) = true then none
      else some ⟨i.maxreclen, i.recfmF⟩
    | none => none

variable {D}

/-- No record is longer than what is read at once. -/
theorem capacity_le_lrecl (h : D.lrecl dsn ≠ 0) : D.capacity ≤ D.lrecl dsn := by
  unfold lrecl at h ⊢
  split at h
  next d hd =>
    obtain ⟨-, -, hdscb⟩ := Option.bind_eq_some_iff.mp hd
    split at h
    next => exact absurd rfl h
    next hU => rw [if_neg hU]; exact (D.dscb_length d hdscb).1
  next =>
    split at h
    next i hi =>
      split at h
      next => exact absurd rfl h
      next hU => rw [if_neg hU]; exact (D.info_length i hi).1
    next => exact absurd rfl h

/-- Fixed-length records that can be read are not empty. -/
theorem capacity_pos (hfixed : D.fixed = true) (h : D.lrecl dsn ≠ 0) : 0 < D.capacity := by
  unfold lrecl at h
  split at h
  next d hd =>
    obtain ⟨-, -, hdscb⟩ := Option.bind_eq_some_iff.mp hd
    split at h
    next => exact absurd rfl h
    next => rw [(D.dscb_length d hdscb).2 hfixed] at h; exact Nat.pos_of_ne_zero h
  next =>
    split at h
    next i hi =>
      split at h
      next => exact absurd rfl h
      next => rw [(D.info_length i hi).2 hfixed] at h; exact Nat.pos_of_ne_zero h
    next => exact absurd rfl h

/-- Who pads does so to the length of the records. -/
theorem maxRecordLength_of_isFixed {type : RecordType} (h : D.recordType dsn = some type)
    (hfixed : type.isFixed = true) : D.fixed = true ∧ type.maxRecordLength = D.capacity := by
  unfold recordType at h
  split at h
  next =>
    split at h
    next d hd =>
      split at h
      next => cases h
      next =>
        cases h
        have hF := (D.dscb_type d hd).mp (of_decide_eq_true hfixed)
        exact ⟨hF, (D.dscb_length d hd).2 hF⟩
    next => cases h; cases hfixed
  next =>
    split at h
    next i hi =>
      split at h
      next => cases h
      next =>
        split at h
        next => cases h
        next =>
          split at h
          next => cases h
          next =>
            cases h
            have hF := (D.info_type i hi).mp hfixed
            exact ⟨hF, (D.info_length i hi).2 hF⟩
    next => cases h

/-- Records of one length, not zero, can be told from their bytes. -/
theorem eq_of_flatten_eq {contents contents' : List Bytes} (hfixed : D.fixed = true)
    (hpos : 0 < D.capacity) (hC : D.Fits contents) (hC' : D.Fits contents')
    (h : contents.flatten = contents'.flatten) : contents = contents' := by
  have lengths : ∀ C, D.Fits C → C.map List.length = List.replicate C.length D.capacity := by
    intro C hC
    refine List.eq_replicate_iff.mpr ⟨List.length_map .., fun n hn => ?_⟩
    obtain ⟨r, hr, rfl⟩ := List.mem_map.mp hn
    exact (hC r hr).2 hfixed
  have total : ∀ C, D.Fits C → C.flatten.length = C.length * D.capacity := by
    intro C hC
    rw [List.length_flatten, lengths C hC, List.sum_replicate_nat]
  have count : contents.length = contents'.length := by
    refine Nat.eq_of_mul_eq_mul_right hpos ?_
    rw [← total _ hC, ← total _ hC', h]
  refine List.eq_iff_flatten_eq.mpr ⟨h, ?_⟩
  rw [lengths _ hC, lengths _ hC', count]

theorem stored_of_full {b : Bytes} (h : b.length = D.capacity) : D.stored b = b := by
  unfold stored
  split
  · rw [h, Nat.sub_self, List.replicate_zero, List.append_nil]
  · rfl

theorem fits_stored {bs : List Bytes} (h : ∀ b ∈ bs, b.length ≤ D.capacity) :
    D.Fits (bs.map D.stored) := by
  intro r hr
  obtain ⟨b, hb, rfl⟩ := List.mem_map.mp hr
  have hle := h b hb
  unfold stored
  split
  · rw [List.length_append, List.length_replicate]
    omega
  · exact ⟨hle, fun hfixed => absurd hfixed ‹_›⟩

end Dataset

/-! ## Faithful answers -/

section

variable (hash : Bytes → Bytes) (hex : Bytes → Text)

/-- The etag of a string of bytes. -/
def etagOf (bytes : Bytes) : Text := hex (hash bytes)

/-- What a data set answers while it has certain contents. -/
def Faithful (D : Dataset) (contents : List Bytes) : Event calls → Prop
  | ⟨.returnEntries _, entries⟩ => entries = D.entries
  | ⟨.obtainDSCB1 _ _, dscb⟩ => dscb = D.dscb
  | ⟨.fldata _, info⟩ => info = D.info
  | ⟨.fopen _ mode, opened⟩ => mode = "rb, type=record" → opened = true
  | ⟨.fread _ mode size, reads⟩ => mode = "rb, type=record" →
    reads = contents.map fun r => ⟨r.take size, false⟩
  | ⟨.fwrite _ buffer, written⟩ => written.count = min buffer.length D.capacity
  | ⟨.icsfDigestUpdate _, rc⟩ => rc = 0
  | ⟨.icsfDigestFinish digested, finished⟩ => finished.rc = 0 → finished.hash = hash digested
  | ⟨.simpleHexPrint bytes, text⟩ => text = hex bytes
  | _ => True

end

/-! ## What is seen of a run -/

/-- The etag an event sends. -/
def etagSent : Event calls → Option Text
  | ⟨.respond response, _⟩ => response.etag
  | _ => none

/-- The bytes an event writes. -/
def bytesWritten : Event calls → Option Bytes
  | ⟨.fwrite _ buffer, written⟩ => some (buffer.take written.count)
  | _ => none

/-- The event opens the data set for writing. -/
def opensForWriting : Event calls → Bool
  | ⟨.fopen _ mode, _⟩ => mode == "wb, recfm=*, type=record"
  | _ => false

/-- The etags that the responses of a run have. -/
def etagsSent (events : Trace) : List Text := events.filterMap etagSent

/-- The records that a run leaves in the data set it has opened for writing. -/
def recordsLeft (D : Dataset) (events : Trace) : List Bytes :=
  (events.filterMap bytesWritten).map D.stored

/-- Nothing of a run is seen. -/
def Quiet (events : Trace) : Prop :=
  ∀ e ∈ events, etagSent e = none ∧ bytesWritten e = none ∧ opensForWriting e = false

theorem quiet_nil : Quiet [] := nofun

theorem quiet_cons {e : Event calls} (he : etagSent e = none) (hb : bytesWritten e = none)
    (ho : opensForWriting e = false) (h : Quiet events) : Quiet (e :: events) :=
  List.forall_mem_cons.mpr ⟨⟨he, hb, ho⟩, h⟩

theorem Quiet.append {events events' : Trace} (h : Quiet events) (h' : Quiet events') :
    Quiet (events ++ events') :=
  List.forall_mem_append.mpr ⟨h, h'⟩

theorem Quiet.etagsSent (h : Quiet events) : etagsSent events = [] :=
  List.filterMap_eq_nil_iff.mpr fun e he => (h e he).1

theorem Quiet.bytesWritten (h : Quiet events) : events.filterMap bytesWritten = [] :=
  List.filterMap_eq_nil_iff.mpr fun e he => (h e he).2.1

theorem Quiet.any_opens (h : Quiet events) : events.any opensForWriting = false :=
  List.any_eq_false.mpr fun e he => by rw [(h e he).2.2]; exact Bool.false_ne_true

/-! ## Reading -/

section

variable {hash : Bytes → Bytes} {hex : Bytes → Text} {D : Dataset} {contents : List Bytes}

/-- What a program leaves unseen, with what is known of its result. -/
def Silent (hash : Bytes → Bytes) (hex : Bytes → Text) (D : Dataset) (contents : List Bytes)
    {α : Type} (p : Handler α) (post : α → Prop) : Prop :=
  p.Ensures (Faithful hash hex D contents) fun events a => Quiet events ∧ post a

theorem Silent.ret {α : Type} {a : α} {post : α → Prop} (h : post a) :
    Silent hash hex D contents (.ret a) post :=
  Program.Ensures.ret ⟨quiet_nil, h⟩

theorem Silent.bind {α β : Type} {p : Handler α} {k : α → Handler β} {mid : α → Prop}
    {post : β → Prop} (hp : Silent hash hex D contents p mid)
    (hk : ∀ a, mid a → Silent hash hex D contents (k a) post) :
    Silent hash hex D contents (p >>= k) post := by
  refine Program.Ensures.bind_of hp fun events a ⟨quiet, hmid⟩ => (hk a hmid).mono ?_
  exact fun events' b ⟨quiet', hpost⟩ => ⟨quiet.append quiet', hpost⟩

/-- A question that is not seen. -/
theorem Silent.asked {c : Call} {post : c.Answer → Prop}
    (hsilent : ∀ answer : c.Answer, etagSent ⟨c, answer⟩ = none ∧ bytesWritten ⟨c, answer⟩ = none ∧
      opensForWriting ⟨c, answer⟩ = false)
    (h : ∀ answer : c.Answer, Faithful hash hex D contents ⟨c, answer⟩ → post answer) :
    Silent hash hex D contents (call c) post :=
  Program.Ensures.ask fun answer hanswer =>
    ⟨quiet_cons (hsilent answer).1 (hsilent answer).2.1 (hsilent answer).2.2 quiet_nil,
      h answer hanswer⟩

/-- An unseen question of which nothing is asked. -/
theorem Silent.skip {c : Call}
    (hsilent : ∀ answer : c.Answer, etagSent ⟨c, answer⟩ = none ∧ bytesWritten ⟨c, answer⟩ = none ∧
      opensForWriting ⟨c, answer⟩ = false) :
    Silent hash hex D contents (call c) fun _ => True :=
  .asked hsilent fun _ _ => trivial

theorem Silent.mono {α : Type} {p : Handler α} {post post' : α → Prop}
    (h : Silent hash hex D contents p post) (himp : ∀ a, post a → post' a) :
    Silent hash hex D contents p post' :=
  Program.Ensures.mono h fun _ a ⟨quiet, hpost⟩ => ⟨quiet, himp a hpost⟩

theorem respondWithError_silent (status : Nat) (msg : Message) :
    Silent hash hex D contents (respondWithError status msg) fun _ => True :=
  .skip fun _ => ⟨rfl, rfl, rfl⟩

theorem getVolserForDataset_silent (dsn : Text) :
    Silent hash hex D contents (getVolserForDataset dsn) fun volser => volser = D.volser dsn := by
  unfold getVolserForDataset Dataset.volser
  split
  next => exact .ret rfl
  next =>
    refine .bind (.asked (fun _ => ⟨rfl, rfl, rfl⟩) fun _ h => h) ?_
    rintro entries rfl
    exact .ret rfl

theorem lookupDscb_silent (dsn : Text) :
    Silent hash hex D contents (lookupDscb dsn) fun dscb => dscb = D.dscbOf dsn := by
  refine .bind (getVolserForDataset_silent dsn) ?_
  rintro volser rfl
  unfold Dataset.dscbOf
  cases D.volser dsn with
  | none => exact .ret rfl
  | some volser => exact .asked (fun _ => ⟨rfl, rfl, rfl⟩) fun _ h => h

theorem getLreclOrRespondError_silent (dsn ddPath : Text) :
    Silent hash hex D contents (getLreclOrRespondError dsn ddPath) fun lrecl =>
      lrecl ≠ 0 → lrecl = D.lrecl dsn := by
  refine .bind (.skip fun _ => ⟨rfl, rfl, rfl⟩) fun opened _ => ?_
  cases opened with
  | false => exact .bind (respondWithError_silent _ _) fun _ _ => .ret fun h => absurd rfl h
  | true =>
    refine .bind (lookupDscb_silent dsn) ?_
    rintro dscb rfl
    unfold Dataset.lrecl
    cases D.dscbOf dsn with
    | some d =>
      refine .bind (.skip fun _ => ⟨rfl, rfl, rfl⟩) fun _ _ => ?_
      dsimp only
      split
      next => exact .bind (respondWithError_silent _ _) fun _ _ => .ret fun h => absurd rfl h
      next => exact .ret fun _ => rfl
    | none =>
      refine .bind (.asked (fun _ => ⟨rfl, rfl, rfl⟩) fun _ h => h) ?_
      rintro info rfl
      cases D.info with
      | none =>
        refine .bind (.skip fun _ => ⟨rfl, rfl, rfl⟩) fun _ _ => ?_
        exact .bind (respondWithError_silent _ _) fun _ _ => .ret fun h => absurd rfl h
      | some i =>
        refine .bind (.skip fun _ => ⟨rfl, rfl, rfl⟩) fun _ _ => ?_
        dsimp only
        split
        next => exact .bind (respondWithError_silent _ _) fun _ _ => .ret fun h => absurd rfl h
        next => exact .ret fun _ => rfl

/-- What `fread` returns of whole records. -/
def readsOf (contents : List Bytes) : List Read := contents.map fun r => ⟨r, false⟩

theorem take_contents {size : Nat} (hfits : D.Fits contents) (hsize : D.capacity ≤ size) :
    (contents.map fun r => (⟨r.take size, false⟩ : Read)) = readsOf contents := by
  refine List.map_congr_left fun r hr => ?_
  rw [List.take_of_length_le (Nat.le_trans (hfits r hr).1 hsize)]

theorem digestReads_silent (records : List Bytes) (digested : Bytes) :
    Silent hash hex D contents (digestReads (readsOf records) 0 digested) fun result =>
      result = (0, digested ++ records.flatten) := by
  induction records generalizing digested with
  | nil => exact .ret (by rw [List.flatten_nil, List.append_nil])
  | cons record records ih =>
    rw [readsOf, List.map_cons, digestReads]
    split
    next =>
      refine .bind (.asked (fun _ => ⟨rfl, rfl, rfl⟩) fun _ h => h) ?_
      rintro rcEtag rfl
      rw [List.flatten_cons, ← List.append_assoc]
      exact ih (digested ++ record)
    next hempty =>
      have hnil : record = [] := by
        by_contra hne
        exact hempty ⟨List.length_pos_iff.mpr hne, rfl⟩
      rw [if_neg Bool.false_ne_true, List.flatten_cons, hnil, List.nil_append]
      exact ih digested

theorem streamReads_silent (records : List Bytes) (rcEtag : Int) (digested : Bytes) :
    Silent hash hex D contents (streamReads (readsOf records) rcEtag digested) fun result =>
      result.1 = records ∧ result.2.1 = rcEtag ∧
        (rcEtag = 0 → result.2.2 = digested ++ records.flatten) := by
  induction records generalizing digested with
  | nil => exact .ret ⟨rfl, rfl, fun _ => by rw [List.flatten_nil, List.append_nil]⟩
  | cons record records ih =>
    rw [readsOf, List.map_cons, streamReads]
    split
    next =>
      split
      next hzero =>
        refine .bind (.asked (fun _ => ⟨rfl, rfl, rfl⟩) fun _ h => h) ?_
        rintro rcEtag' rfl
        subst hzero
        refine .bind (ih (digested ++ record)) ?_
        rintro ⟨records', rc, digested'⟩ ⟨rfl, rfl, hdigested⟩
        refine .ret ⟨rfl, rfl, fun h => ?_⟩
        rw [List.flatten_cons, ← List.append_assoc]
        exact hdigested h
      next hne =>
        refine .bind (ih digested) ?_
        rintro ⟨records', rc, digested'⟩ ⟨rfl, rfl, -⟩
        exact .ret ⟨rfl, rfl, fun h => absurd h hne⟩
    next hempty =>
      have hnil : record = [] := by
        by_contra hne
        exact hempty ⟨List.length_pos_iff.mpr hne, rfl⟩
      rw [if_neg Bool.false_ne_true]
      refine .bind (ih digested) ?_
      rintro ⟨records', rc, digested'⟩ ⟨rfl, rfl, hdigested⟩
      refine .ret ⟨by rw [hnil], rfl, fun h => ?_⟩
      rw [List.flatten_cons, hnil, List.nil_append]
      exact hdigested h

theorem finishDigest_silent (rcEtag : Int) (digested : Bytes) :
    Silent hash hex D contents (finishDigest rcEtag digested) fun finished =>
      finished.rc = 0 → rcEtag = 0 ∧ finished.hash = hash digested := by
  unfold finishDigest
  split
  next hzero => exact .asked (fun _ => ⟨rfl, rfl, rfl⟩) fun finished h hrc => ⟨hzero, h hrc⟩
  next hne => exact .ret fun h => absurd h hne

theorem printEtag_silent (finished : Finished) :
    Silent hash hex D contents (printEtag finished) fun etag =>
      ∀ e, etag = some e → finished.rc = 0 ∧ e = hex finished.hash := by
  unfold printEtag
  split
  next hzero =>
    refine .bind (.asked (fun _ => ⟨rfl, rfl, rfl⟩) fun _ h => h) ?_
    rintro eTag rfl
    refine .ret fun e he => ?_
    exact ⟨hzero, (Option.some.inj he).symm⟩
  next => exact .ret nofun

/-- The etag at the end of a digest, if there is one, is that of the bytes digested. -/
theorem etag_of_finished {rcEtag : Int} {digested : Bytes} {finished : Finished}
    {etag : Option Text} (hfinished : finished.rc = 0 → rcEtag = 0 ∧ finished.hash = hash digested)
    (hetag : ∀ e, etag = some e → finished.rc = 0 ∧ e = hex finished.hash) {e : Text}
    (he : etag = some e) : rcEtag = 0 ∧ e = etagOf hash hex digested := by
  obtain ⟨hzero, heq⟩ := hetag e he
  obtain ⟨hrc, hhash⟩ := hfinished hzero
  exact ⟨hrc, by rw [heq, hhash, etagOf]⟩

theorem readMode_of_ne_zero {recordLength : Nat} (h : recordLength ≠ 0) :
    readMode recordLength = ("rb, type=record", recordLength) :=
  if_neg fun hlt => h (Nat.lt_one_iff.mp hlt)

/-- **The etag computed again.** It is that of the bytes of the records. -/
theorem getDatasetETag_silent {filename : Text} {recordLength : Nat} (hfits : D.Fits contents)
    (hne : recordLength ≠ 0) (hle : D.capacity ≤ recordLength) :
    Silent hash hex D contents (getDatasetETag filename recordLength) fun etag =>
      ∀ e, etag = some e → e = etagOf hash hex contents.flatten := by
  unfold getDatasetETag
  rw [readMode_of_ne_zero hne]
  refine .bind (.asked (fun _ => ⟨rfl, rfl, rfl⟩) fun _ h => h rfl) ?_
  rintro opened rfl
  refine .bind (.skip fun _ => ⟨rfl, rfl, rfl⟩) fun rcEtag _ => ?_
  dsimp only
  split
  next => exact .bind (.skip fun _ => ⟨rfl, rfl, rfl⟩) fun _ _ => .ret nofun
  next hzero =>
    refine .bind (.asked (fun _ => ⟨rfl, rfl, rfl⟩) fun _ h => h rfl) ?_
    rintro reads rfl
    rw [take_contents hfits hle, Classical.not_not.mp hzero]
    refine .bind (digestReads_silent contents []) ?_
    rintro result rfl
    refine .bind (.skip fun _ => ⟨rfl, rfl, rfl⟩) fun _ _ => ?_
    refine .bind (finishDigest_silent _ _) fun finished hfinished => ?_
    exact (printEtag_silent finished).mono fun etag hetag e he =>
      (etag_of_finished hfinished hetag he).2

/-- **The etag of a read.** It is that of the bytes of the records. -/
theorem streamDataset_silent {filename : Text} {recordLength : Nat} (hfits : D.Fits contents)
    (hne : recordLength ≠ 0) (hle : D.capacity ≤ recordLength) :
    Silent hash hex D contents (streamDataset filename recordLength) fun streamed =>
      streamed.records = contents ∧
        ∀ e, streamed.etag = some e → e = etagOf hash hex contents.flatten := by
  unfold streamDataset
  rw [readMode_of_ne_zero hne]
  refine .bind (.asked (fun _ => ⟨rfl, rfl, rfl⟩) fun _ h => h rfl) ?_
  rintro opened rfl
  refine .bind (.skip fun _ => ⟨rfl, rfl, rfl⟩) fun rcEtag _ => ?_
  refine .bind (.asked (fun _ => ⟨rfl, rfl, rfl⟩) fun _ h => h rfl) ?_
  rintro reads rfl
  rw [take_contents hfits hle]
  refine .bind (streamReads_silent contents rcEtag []) ?_
  rintro ⟨records, rc, digested⟩ ⟨hrecords, hrc', hdigested⟩
  dsimp only at hrecords hrc' hdigested
  subst hrecords hrc'
  refine .bind (.skip fun _ => ⟨rfl, rfl, rfl⟩) fun _ _ => ?_
  refine .bind (finishDigest_silent _ _) fun finished hfinished => ?_
  refine .bind (printEtag_silent finished) fun etag hetag => .ret ⟨rfl, fun e he => ?_⟩
  obtain ⟨hrc, heq⟩ := etag_of_finished hfinished hetag he
  rw [heq, hdigested hrc, List.nil_append]

/-! ## Updating -/

theorem checkDscbType_silent {dsn volser : Text} {dscb : Dscb} (hvolser : D.volser dsn = some volser)
    (hdscb : D.dscb = some dscb) :
    Silent hash hex D contents (checkDscbType dscb) fun type =>
      ∀ t, type = some t → D.recordType dsn = some t := by
  refine .bind (.skip fun _ => ⟨rfl, rfl, rfl⟩) fun rest _ => ?_
  dsimp only
  split
  next => exact .bind (respondWithError_silent _ _) fun _ _ => .ret nofun
  next hsupported =>
    split
    next => exact .bind (respondWithError_silent _ _) fun _ _ => .ret nofun
    next =>
      split
      next => exact .bind (respondWithError_silent _ _) fun _ _ => .ret nofun
      next hU =>
        refine .ret fun t ht => ?_
        have hdsorg : isSupportedWriteDsorg dscb ≠ .unsupported := by
          intro heq
          rw [heq] at hsupported
          exact hsupported rfl
        rw [← ht]
        unfold Dataset.recordType
        rw [hvolser, hdscb]
        exact if_neg (not_or.mpr ⟨hdsorg, hU⟩)

/-- A check that responds and closes the file. -/
theorem refused {post : Option RecordType → Prop} {datasetPath : Text} (status : Nat) (msg : Message)
    (h : post none) : Silent hash hex D contents
      (respondWithError status msg >>= fun _ => call (.fclose datasetPath) >>= fun _ => .ret none)
      post :=
  .bind (respondWithError_silent _ _) fun _ _ => .bind (.skip fun _ => ⟨rfl, rfl, rfl⟩) fun _ _ =>
    .ret h

theorem checkFileType_silent {dsn datasetPath : Text} (hvolser : D.volser dsn = none) :
    Silent hash hex D contents (checkFileType datasetPath) fun type =>
      ∀ t, type = some t → D.recordType dsn = some t := by
  refine .bind (.skip fun _ => ⟨rfl, rfl, rfl⟩) fun opened _ => ?_
  cases opened with
  | false => exact .bind (respondWithError_silent _ _) fun _ _ => .ret nofun
  | true =>
    refine .bind (.asked (fun _ => ⟨rfl, rfl, rfl⟩) fun _ h => h) ?_
    rintro info rfl
    unfold Dataset.recordType
    rw [hvolser]
    cases hinfo : D.info with
    | none =>
      exact refused _ _ nofun
    | some i =>
      dsimp only
      split
      next => exact refused _ _ nofun
      next =>
        split
        next => exact refused _ _ nofun
        next =>
          split
          next => exact refused _ _ nofun
          next => exact .bind (.skip fun _ => ⟨rfl, rfl, rfl⟩) fun _ _ => .ret fun t ht => ht

theorem checkDatasetType_silent (datasetPath dsn : Text) :
    Silent hash hex D contents (checkDatasetType datasetPath dsn) fun type =>
      ∀ t, type = some t → D.recordType dsn = some t := by
  refine .bind (getVolserForDataset_silent dsn) ?_
  rintro volser rfl
  cases hvolser : D.volser dsn with
  | none => exact checkFileType_silent hvolser
  | some volser =>
    refine .bind (.asked (fun _ => ⟨rfl, rfl, rfl⟩) fun _ h => h) ?_
    rintro dscb rfl
    cases hdscb : D.dscb with
    | none =>
      refine .ret fun t ht => ?_
      unfold Dataset.recordType
      rw [hvolser, hdscb]
      exact ht
    | some d => exact checkDscbType_silent hvolser hdscb

theorem length_offered (n : Nat) (printed after : Bytes) :
    (offered n printed after).length = printed.length := by
  unfold offered
  split
  next => rfl
  next =>
    simp only [List.length_take, List.length_append, List.length_cons, List.length_replicate]
    omega

/-- The bytes of a write: as many as were printed of a record, or as a record holds. -/
def WrittenFrom (D : Dataset) (type : RecordType) (bytes : Bytes) : Prop :=
  ∃ record, bytes.length = min (printRecord type record).length D.capacity

/-- **The write loop.** It digests what it writes. -/
theorem writeRecords_ensures (datasetPath : Text) (type : RecordType) (records : List Bytes)
    (loop : WriteLoop) :
    (writeRecords datasetPath type records loop).Ensures (Faithful hash hex D contents)
      fun events result => etagsSent events = [] ∧ events.any opensForWriting = false ∧
        (∀ bytes ∈ events.filterMap bytesWritten, WrittenFrom D type bytes) ∧
        result.rcEtag = loop.rcEtag ∧ (loop.rcEtag = 0 →
          result.digested = loop.digested ++ (events.filterMap bytesWritten).flatten) := by
  induction records generalizing loop with
  | nil =>
    exact .ret ⟨rfl, rfl, nofun, rfl, fun _ => by
      rw [List.filterMap_nil, List.flatten_nil, List.append_nil]⟩
  | cons record records ih =>
    refine .ask_bind fun after _ => .ask_bind fun written hwritten => ?_
    have hlength : WrittenFrom D type
        ((offered type.maxRecordLength (printRecord type record) after.bytes).take
          written.count) := by
      refine ⟨record, ?_⟩
      rw [List.length_take, show written.count = _ from hwritten, length_offered]
      omega
    dsimp only
    split
    next hnegative => exact absurd hnegative.1 (Int.not_lt.mpr (Int.natCast_nonneg _))
    next =>
      split
      next hzero =>
        refine .ask_bind fun rcEtag hrc => (ih _).mono ?_
        rintro events result ⟨hetags, hopens, hall, hresult, hdigested⟩
        refine ⟨hetags, hopens, List.forall_mem_cons.mpr ⟨hlength, hall⟩, ?_, fun _ => ?_⟩
        · rw [hresult, hzero]
          exact hrc
        · refine (hdigested hrc).trans ?_
          rw [show digestedAfter rcEtag _ _ = _ from if_pos hrc]
          exact List.append_assoc _ _ _
      next hne =>
        refine (ih _).mono ?_
        rintro events result ⟨hetags, hopens, hall, hresult, -⟩
        exact ⟨hetags, hopens, List.forall_mem_cons.mpr ⟨hlength, hall⟩, hresult,
          fun h => absurd h hne⟩

end

end Zss.Datasets
