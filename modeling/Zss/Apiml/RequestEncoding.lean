import Mathlib.Algebra.Order.Ring.Int
import Mathlib.Data.List.TakeWhile
import Zss.Apiml.Storage

/-!
# What is asked of the caching service

`createOrChange` of `storageApiml.c` sends what the JSON printer wrote. The printer's buffer grows by
doubling, its output is copied and measured again up to the next NUL; the paths of `get` and `remove`
are printed to a buffer of fixed size, and a response that could not be allocated is not told from one
that is there. `asked_iff` says when all of this is right, for every sequence of writes and whatever
storage is given or refused.

This is the code of `Zss.Apiml.Storage` with its capacities as they are, numbers of type `int`, and
with every answer of the allocator and of the HTTP client given in advance (`World`), so that what is
done with a refused allocation is a result and not an unfinished run.

## What is not established

What the service makes of the request (`Zss.Apiml.SharedMap`), and that the JSON printer writes
JSON: its writes are any.
-/

namespace Zss.Apiml.RequestEncoding

open Zss.Lib Program

/-! ## The world -/

/-- `INT_MAX`. -/
def intMax : Nat := 2147483647

/-- What nothing is promised of: a number that overflows, and a null response that is read. -/
inductive Fault where
  | overflow
  | nullResponse

/-- What one call of `printerGrowBuffer` meets: whether storage is given, and what its caller finds
for the value that is not returned then. -/
structure Growth where
  allocated : Bool
  value : Bool

/-- The buffer has grown and the caller takes it so. -/
def Growth.Good (g : Growth) : Prop := g.allocated = true ∧ g.value = true

/-- What the HTTP client answers, call by call; nothing is received where receiving fails. -/
structure Exchange where
  contextStatus : Int
  sessionStatus : Int
  stageStatus : Int
  sendStatus : Int
  received : Option HttpResponse
  slhAllocated : Bool
  responseAllocated : Bool
  valueAllocated : Bool

/-- All that is answered in a call. `growth` has the answer to each growth of the buffer, in order,
and `behindOutput` what stands in storage behind the output's copy, up to the next NUL. -/
structure World where
  printerAllocated : Bool
  bufferAllocated : Bool
  jsonPrinterAllocated : Bool
  growth : Nat → Growth
  outputAllocated : Bool
  behindOutput : Text
  exchange : Exchange

/-! ## The body -/

/-- `JsonMemoryPrinter`; the buffer is its bytes up to the size. How often it was asked to grow is
counted. -/
structure JsonMemoryPrinter where
  buffer : Text
  capacity : Nat
  error : Bool
  growths : Nat

/-- `printerGrowBuffer`. -/
def printerGrowBuffer (growth : Growth) (printer : JsonMemoryPrinter) :
    Except Fault (Bool × JsonMemoryPrinter) :=
  if intMax < printer.capacity * 2 then .error .overflow
  else if growth.allocated = false then .ok (false, { printer with growths := printer.growths + 1 })
  else .ok (growth.value,
    { printer with capacity := printer.capacity * 2, growths := printer.growths + 1 })

section

variable (growth : Nat → Growth)

/-- The loop of `jsonWriteCallback`, for so many rounds. -/
def growFor (len : Nat) : Nat → JsonMemoryPrinter → Except Fault JsonMemoryPrinter
  | 0, printer => .ok printer
  | rounds + 1, printer =>
    if printer.capacity - printer.buffer.length < len then
      match printerGrowBuffer (growth printer.growths) printer with
      | .error fault => .error fault
      | .ok (grown, printer') =>
        if grown = false then .ok { printer' with error := true }
        else growFor len rounds printer'
    else .ok printer

/-- `jsonWriteCallback`. The capacity doubles, so there are not more rounds than bytes. -/
def jsonWriteCallback (printer : JsonMemoryPrinter) (data : Text) :
    Except Fault JsonMemoryPrinter :=
  if printer.error then .ok printer
  else
    match growFor growth data.length data.length printer with
    | .error fault => .error fault
    | .ok printer' =>
      if printer'.error then .ok printer'
      else .ok { printer' with buffer := printer'.buffer ++ data }

/-- What the JSON printer writes. -/
def writeChunks : List Text → JsonMemoryPrinter → Except Fault JsonMemoryPrinter
  | [], printer => .ok printer
  | data :: chunks, printer =>
    match jsonWriteCallback growth printer data with
    | .error fault => .error fault
    | .ok printer' => writeChunks chunks printer'

end

/-- `makeJsonMemoryPrinter`. -/
def makeJsonMemoryPrinter (w : World) : Option JsonMemoryPrinter :=
  if w.printerAllocated = false then none
  else if w.bufferAllocated = false then none
  else if w.jsonPrinterAllocated = false then none
  else some ⟨[], initialCapacity, false, 0⟩

/-- `jsonMemoryPrinterGetOutput`, as a string: no NUL is written behind what is copied. -/
def jsonMemoryPrinterGetOutput (w : World) (printer : JsonMemoryPrinter) : Option Text :=
  if printer.error then none
  else if w.outputAllocated = false then none
  else some ((printer.buffer ++ w.behindOutput).takeWhile (· ≠ '\x00'))

section

variable (lib : Library) (w : World)

/-- The printer with a key and a value printed to it. -/
def printed (key value : Text) : Except Fault (Option JsonMemoryPrinter) :=
  match makeJsonMemoryPrinter w with
  | none => .ok none
  | some printer => (writeChunks w.growth (lib.bodyChunks key value) printer).map some

/-- `apimlCreateCachingServiceRequestBody`. -/
def apimlCreateCachingServiceRequestBody (key value : Text) : Except Fault (Option Bytes) :=
  (printed lib w key value).map fun printer =>
    (printer.bind (jsonMemoryPrinterGetOutput w)).map (·.map lib.ibm1047ToIso88591)

/-! ## A request -/

/-- `receiveResponse`: the response, or the status. -/
def receiveResponse (e : Exchange) : Except StorageStatus HttpResponse :=
  match e.received with
  | none => .error .responseError
  | some response => if e.slhAllocated = false then .error .allocError else .ok response

/-- `receiveJsonResponse` or `receiveResponse`. -/
def receiveFor (e : Exchange) (request : ApimlRequest) :
    Except StorageStatus (HttpResponse × Option lib.Json) :=
  match receiveResponse e with
  | .error status => .error status
  | .ok response =>
    if request.parseJson then
      match lib.jsonParseUnterminatedUtf8String response.body response.contentLength with
      | none => .error .jsonResponseError
      | some json => .ok (response, some json)
    else .ok (response, none)

/-- `apimlDoRequest`: the response, which is null where it cannot be allocated, or the status. -/
def apimlDoRequest (e : Exchange) (request : ApimlRequest) :
    Except StorageStatus (Option (ApimlResponse lib)) :=
  if e.contextStatus ≠ 0 then .error .httpError
  else if e.sessionStatus ≠ 0 then .error .httpError
  else if e.stageStatus ≠ 0 then .error .httpError
  else if e.sendStatus ≠ 0 then .error .httpError
  else
    match receiveFor lib e request with
    | .error status => .error status
    | .ok (session, jsonResponse) =>
      if e.responseAllocated = false then .ok none
      else .ok (some ⟨jsonResponse, session.statusCode⟩)

/-- A response that is read, also where it is null. -/
def readResponse {lib : Library} (response : Option (ApimlResponse lib)) :
    Except Fault (ApimlResponse lib) :=
  match response with
  | none => .error .nullResponse
  | some response => .ok response

/-- The status of a request whose answer has no text. -/
def statusOf (request : ApimlRequest) : Except Fault StorageStatus :=
  match apimlDoRequest lib w.exchange request with
  | .error status => .ok status
  | .ok response => (readResponse response).map fun response =>
      transformHttpStatus response.statusCode

/-! ## The operations -/

/-- What `createOrChange` comes to: the request it makes, where it makes one, and its status. -/
structure Changed where
  request : Option ApimlRequest
  result : Except Fault StorageStatus

/-- `createOrChange`. -/
def createOrChange (op : CreateOrChange) (key value : Text) : Changed :=
  match apimlCreateCachingServiceRequestBody lib w key value with
  | .error fault => ⟨none, .error fault⟩
  | .ok none => ⟨none, .ok .allocError⟩
  | .ok (some body) =>
    let method : HttpMethod := if op = .change then .put else .post
    let request : ApimlRequest := ⟨method, cachingServiceUri, some body, false⟩
    ⟨some request, statusOf lib w request⟩

/-- The path that `get` and `remove` print, behind the size of `percentEncodedKey`. -/
def requestPath (key : Text) : Except Fault Text :=
  if intMax < key.length * 3 + 1 then .error .overflow
  else .ok (keyPath lib key)

/-- `getValue`: the value, or its status. -/
def getValue (jsonResponse : Option lib.Json) : StorageStatus × Option Text :=
  match lib.jsonAsObject jsonResponse with
  | none => (.invalidKvResponse, none)
  | some keyValue =>
    match lib.jsonObjectGetString keyValue "value".toList with
    | none => (.invalidKvResponse, none)
    | some val => if w.exchange.valueAllocated = false then (.allocError, none) else (.ok, some val)

/-- `apimlStorageGetString`: its status and the value. -/
def apimlStorageGetString (key : Text) : Except Fault (StorageStatus × Option Text) :=
  match requestPath lib key with
  | .error fault => .error fault
  | .ok path =>
    match apimlDoRequest lib w.exchange ⟨.get, path, none, true⟩ with
    | .error status => .ok (status, none)
    | .ok response => (readResponse response).map fun response =>
        let status := transformHttpStatus response.statusCode
        if status ≠ .ok then (status, none) else getValue lib w response.jsonResponse

/-- `apimlStorageRemove`: its status. -/
def apimlStorageRemove (key : Text) : Except Fault StorageStatus :=
  match requestPath lib key with
  | .error fault => .error fault
  | .ok path => statusOf lib w ⟨.delete, path, none, false⟩

end

/-! ## How the buffer grows -/

/-- The capacity after so many growths. -/
def capacityOf (growths : Nat) : Nat := initialCapacity * 2 ^ growths

theorem capacityOf_succ (g : Nat) : capacityOf (g + 1) = capacityOf g * 2 := by
  rw [capacityOf, capacityOf, Nat.pow_succ, Nat.mul_assoc]

theorem capacityOf_pos (g : Nat) : 0 < capacityOf g :=
  Nat.mul_pos (by decide) (Nat.two_pow_pos g)

theorem capacityOf_mono {g g' : Nat} (h : g ≤ g') : capacityOf g ≤ capacityOf g' :=
  Nat.mul_le_mul_left _ (Nat.pow_le_pow_right (by decide) h)

/-- How it ends that a buffer grows: after so many growths there is room, a growth fails, or the
capacity overflows. -/
inductive GrowthEnd where
  | enough (growths : Nat)
  | refused (growths : Nat)
  | overflow

/-- How the buffer grows for so many bytes in all, from the growth that is next. -/
inductive Grows (growth : Nat → Growth) (total : Nat) : Nat → GrowthEnd → Prop
  | enough {g : Nat} : total ≤ capacityOf g → Grows growth total g (.enough g)
  | refused {g : Nat} : capacityOf g < total → capacityOf g * 2 ≤ intMax → ¬ (growth g).Good →
      Grows growth total g (.refused g)
  | overflow {g : Nat} : capacityOf g < total → intMax < capacityOf g * 2 →
      Grows growth total g .overflow
  | next {g : Nat} {e : GrowthEnd} : capacityOf g < total → capacityOf g * 2 ≤ intMax →
      (growth g).Good → Grows growth total (g + 1) e → Grows growth total g e

section

variable {growth : Nat → Growth} {total total' g : Nat}

/-- Room for some bytes first, then for more. -/
theorem Grows.trans {e e' : GrowthEnd} {g' : Nat} (h : Grows growth total g e)
    (he : e = .enough g') (hle : total ≤ total') (rest : Grows growth total' g' e') :
    Grows growth total' g e' := by
  induction h with
  | enough _ => cases he; exact rest
  | refused _ _ _ => cases he
  | overflow _ _ => cases he
  | next hneeded hfits hgood _ ih => exact .next (by omega) hfits hgood (ih he)

/-- What goes wrong for some bytes goes wrong for more. -/
theorem Grows.refused_mono {e : GrowthEnd} {k : Nat} (h : Grows growth total g e)
    (he : e = .refused k) (hle : total ≤ total') : Grows growth total' g (.refused k) := by
  induction h with
  | enough _ => cases he
  | refused hneeded hfits hbad => cases he; exact .refused (by omega) hfits hbad
  | overflow _ _ => cases he
  | next hneeded hfits hgood _ ih => exact .next (by omega) hfits hgood (ih he)

theorem Grows.overflow_mono {e : GrowthEnd} (h : Grows growth total g e) (he : e = .overflow)
    (hle : total ≤ total') : Grows growth total' g .overflow := by
  induction h with
  | enough _ => cases he
  | refused _ _ _ => cases he
  | overflow hneeded hover => exact .overflow (by omega) hover
  | next hneeded hfits hgood _ ih => exact .next (by omega) hfits hgood (ih he)

/-- The growths before the end are good ones. -/
theorem Grows.good {e : GrowthEnd} (h : Grows growth total g e) :
    match e with
    | .enough g' => g ≤ g' ∧ total ≤ capacityOf g' ∧
        ∀ k, g ≤ k → k < g' → (growth k).Good ∧ capacityOf k * 2 ≤ intMax
    | .refused k => g ≤ k ∧ capacityOf k < total ∧ capacityOf k * 2 ≤ intMax ∧
        ¬ (growth k).Good ∧ ∀ j, g ≤ j → j < k → (growth j).Good ∧ capacityOf j * 2 ≤ intMax
    | .overflow => ∃ k, g ≤ k ∧ capacityOf k < total ∧ intMax < capacityOf k * 2 ∧
        ∀ j, g ≤ j → j < k → (growth j).Good ∧ capacityOf j * 2 ≤ intMax := by
  induction h with
  | enough hroom => exact ⟨Nat.le_refl _, hroom, fun k h h' => absurd h (by omega)⟩
  | refused hneeded hfits hbad =>
    exact ⟨Nat.le_refl _, hneeded, hfits, hbad, fun k h h' => absurd h (by omega)⟩
  | overflow hneeded hover =>
    exact ⟨_, Nat.le_refl _, hneeded, hover, fun k h h' => absurd h (by omega)⟩
  | @next g e hneeded hfits hgood _ ih =>
    have hfirst : ∀ k, (∀ j, g + 1 ≤ j → j < k → (growth j).Good ∧ capacityOf j * 2 ≤ intMax) →
        ∀ j, g ≤ j → j < k → (growth j).Good ∧ capacityOf j * 2 ≤ intMax := by
      intro k hrest j hj hjk
      rcases Nat.eq_or_lt_of_le hj with rfl | hj
      · exact ⟨hgood, hfits⟩
      · exact hrest j hj hjk
    cases e with
    | enough g' =>
      obtain ⟨hg, hroom, hrest⟩ := ih
      exact ⟨by omega, hroom, hfirst g' hrest⟩
    | refused k =>
      obtain ⟨hg, hneed, hfit, hbad, hrest⟩ := ih
      exact ⟨by omega, hneed, hfit, hbad, hfirst k hrest⟩
    | overflow =>
      obtain ⟨k, hg, hneed, hover, hrest⟩ := ih
      exact ⟨k, by omega, hneed, hover, hfirst k hrest⟩

end

/-- A printer that has grown so often, without an error. -/
def running (buffer : Text) (g : Nat) : JsonMemoryPrinter := ⟨buffer, capacityOf g, false, g⟩

/-- What a printer is at the end of its growths. -/
def GrowthEnd.Leaves (buffer : Text) :
    GrowthEnd → Except Fault JsonMemoryPrinter → Prop
  | .enough g, result => result = .ok (running buffer g)
  | .refused g, result =>
    ∃ printer, result = .ok printer ∧ printer.error = true ∧ printer.growths = g + 1
  | .overflow, result => result = .error .overflow

theorem printerGrowBuffer_running (growth : Nat → Growth) (buffer : Text) (g : Nat) :
    printerGrowBuffer (growth (running buffer g).growths) (running buffer g) =
      if intMax < capacityOf g * 2 then .error .overflow
      else if (growth g).allocated = false then .ok (false, ⟨buffer, capacityOf g, false, g + 1⟩)
      else .ok ((growth g).value, running buffer (g + 1)) := by
  rw [running, running, capacityOf_succ]
  rfl

theorem growFor_grows (growth : Nat → Growth) {buffer : Text} {len g rounds : Nat}
    (hroom : buffer.length ≤ capacityOf g) (hrounds : buffer.length + len - capacityOf g ≤ rounds) :
    ∃ e, Grows growth (buffer.length + len) g e ∧
      e.Leaves buffer (growFor growth len rounds (running buffer g)) := by
  induction rounds generalizing g with
  | zero => exact ⟨.enough g, .enough (by omega), rfl⟩
  | succ rounds ih =>
    rw [growFor, printerGrowBuffer_running]
    by_cases hneeded : (running buffer g).capacity - (running buffer g).buffer.length < len
    · have hmore : capacityOf g < buffer.length + len := by
        have hneeded' : capacityOf g - buffer.length < len := hneeded
        omega
      rw [if_pos hneeded]
      by_cases hover : intMax < capacityOf g * 2
      · rw [if_pos hover]
        exact ⟨.overflow, .overflow hmore hover, rfl⟩
      · rw [if_neg hover]
        have hfits : capacityOf g * 2 ≤ intMax := Nat.le_of_not_lt hover
        by_cases hallocated : (growth g).allocated = false
        · have hbad : ¬ (growth g).Good := fun hgood =>
            Bool.false_ne_true (hallocated.symm.trans hgood.1)
          rw [if_pos hallocated]
          exact ⟨.refused g, .refused hmore hfits hbad, _, rfl, rfl, rfl⟩
        · rw [if_neg hallocated]
          by_cases hvalue : (growth g).value = false
          · have hbad : ¬ (growth g).Good := fun hgood =>
              Bool.false_ne_true (hvalue.symm.trans hgood.2)
            dsimp only
            rw [if_pos hvalue]
            exact ⟨.refused g, .refused hmore hfits hbad, _, rfl, rfl, rfl⟩
          · have hgood : (growth g).Good :=
              ⟨Bool.eq_true_of_not_eq_false hallocated, Bool.eq_true_of_not_eq_false hvalue⟩
            have hpos := capacityOf_pos g
            have hdouble := capacityOf_succ g
            obtain ⟨e, grows, leaves⟩ := ih (g := g + 1) (by omega) (by omega)
            dsimp only
            rw [if_neg hvalue]
            exact ⟨e, .next hmore hfits hgood grows, leaves⟩
    · have hneeded' : ¬ capacityOf g - buffer.length < len := hneeded
      rw [if_neg hneeded]
      exact ⟨.enough g, .enough (by omega), rfl⟩

/-- Nothing more is written after an error. -/
theorem writeChunks_error (growth : Nat → Growth) (chunks : List Text)
    {printer : JsonMemoryPrinter} (h : printer.error = true) :
    writeChunks growth chunks printer = .ok printer := by
  induction chunks with
  | nil => rfl
  | cons data chunks ih =>
    rw [writeChunks, jsonWriteCallback, if_pos h]
    exact ih

theorem writeChunks_cons (growth : Nat → Growth) (data : Text) (chunks : List Text) (buffer : Text)
    (g : Nat) :
    writeChunks growth (data :: chunks) (running buffer g) =
      match growFor growth data.length data.length (running buffer g) with
      | .error fault => .error fault
      | .ok printer =>
        if printer.error then .ok printer
        else writeChunks growth chunks { printer with buffer := printer.buffer ++ data } := by
  have hrunning : ¬ (running buffer g).error = true := Bool.false_ne_true
  rw [writeChunks, jsonWriteCallback, if_neg hrunning]
  cases growFor growth data.length data.length (running buffer g) with
  | error fault => rfl
  | ok printer =>
    by_cases herror : printer.error = true
    · simp only [if_pos herror]
      exact writeChunks_error growth chunks herror
    · simp only [if_neg herror]

/-- What is written grows the buffer as its bytes do when they are written at once. -/
theorem writeChunks_grows (growth : Nat → Growth) (chunks : List Text) {buffer : Text} {g : Nat}
    (hroom : buffer.length ≤ capacityOf g) :
    ∃ e, Grows growth (buffer.length + chunks.flatten.length) g e ∧
      e.Leaves (buffer ++ chunks.flatten) (writeChunks growth chunks (running buffer g)) := by
  induction chunks generalizing g buffer with
  | nil =>
    refine ⟨.enough g, .enough hroom, ?_⟩
    rw [List.flatten_nil, List.append_nil]
    rfl
  | cons data chunks ih =>
    have htotal : buffer.length + data.length ≤ buffer.length + (data :: chunks).flatten.length := by
      rw [List.flatten_cons, List.length_append]
      omega
    obtain ⟨e, grows, leaves⟩ : ∃ e, Grows growth (buffer.length + data.length) g e ∧
        e.Leaves buffer (growFor growth data.length data.length (running buffer g)) :=
      growFor_grows growth hroom (by omega)
    rw [writeChunks_cons]
    cases e with
    | enough g' =>
      have hgrown : growFor growth data.length data.length (running buffer g) =
        .ok (running buffer g') := leaves
      have hroom' : (buffer ++ data).length ≤ capacityOf g' := by
        rw [List.length_append]
        exact grows.good.2.1
      obtain ⟨e', grows', leaves'⟩ := ih hroom'
      rw [List.length_append, Nat.add_assoc, ← List.length_append, ← List.flatten_cons] at grows'
      rw [List.append_assoc, ← List.flatten_cons] at leaves'
      refine ⟨e', grows.trans rfl htotal grows', ?_⟩
      rw [hgrown]
      exact leaves'
    | refused k =>
      obtain ⟨printer, hgrown, herror, hgrowths⟩ := leaves
      refine ⟨.refused k, grows.refused_mono rfl htotal, printer, ?_, herror, hgrowths⟩
      rw [hgrown]
      exact if_pos herror
    | overflow =>
      have hgrown : growFor growth data.length data.length (running buffer g) =
        .error .overflow := leaves
      refine ⟨.overflow, grows.overflow_mono rfl htotal, ?_⟩
      rw [hgrown]
      rfl

/-! ## What is asked -/

/-- The bytes that the JSON printer writes for a key and a value. -/
def written (lib : Library) (key value : Text) : Text := (lib.bodyChunks key value).flatten

/-- The printer is made. -/
def World.Makes (w : World) : Prop :=
  w.printerAllocated = true ∧ w.bufferAllocated = true ∧ w.jsonPrinterAllocated = true

/-- A request is answered; where it asks for JSON, the response has some. -/
def Exchange.Answered (lib : Library) (e : Exchange) (parseJson : Bool) : Prop :=
  e.contextStatus = 0 ∧ e.sessionStatus = 0 ∧ e.stageStatus = 0 ∧ e.sendStatus = 0 ∧
    e.slhAllocated = true ∧ ∃ response, e.received = some response ∧ (parseJson = true →
      (lib.jsonParseUnterminatedUtf8String response.body response.contentLength).isSome = true)

section

variable (lib : Library) (w : World) (op : CreateOrChange) (key value key' : Text)

/-- A request has all the bytes that were written and no others; a growth that is refused gives an
error and no request; and where storage is given each time it is asked for, there is a request. -/
structure Encoded : Prop where
  defined : (createOrChange lib w op key value).result ≠ .error .overflow
  exact : ∀ request, (createOrChange lib w op key value).request = some request →
    request.body = some ((written lib key value).map lib.ibm1047ToIso88591)
  refused : ∀ printer, printed lib w key value = .ok (some printer) →
    (∃ k < printer.growths, (w.growth k).allocated = false) →
    createOrChange lib w op key value = ⟨none, .ok .allocError⟩
  sent : ∀ printer, printed lib w key value = .ok (some printer) →
    (∀ k < printer.growths, (w.growth k).allocated = true) → w.outputAllocated = true →
    (createOrChange lib w op key value).request ≠ none

/-- Both keys have a path, and two keys have two. -/
def PathsApart : Prop :=
  ∃ path path', requestPath lib key = .ok path ∧ requestPath lib key' = .ok path' ∧
    (key ≠ key' → path ≠ path')

/-- No response is read that is not there. -/
structure NothingMissing : Prop where
  changed : (createOrChange lib w op key value).result ≠ .error .nullResponse
  got : apimlStorageGetString lib w key ≠ .error .nullResponse
  removed : apimlStorageRemove lib w key ≠ .error .nullResponse

/-- What is asked of the service for a key and a value, and beside another key, is right. -/
structure AskedRight : Prop where
  encoded : Encoded lib w op key value
  apart : PathsApart lib key key'
  present : NothingMissing lib w op key value

/-- A growth that the bytes need and that comes to be asked for doubles to a number of type `int`, and
where it is given and the output is, its value is true; and where all is given, no NUL is written and
one stands behind the output. -/
structure Encodable : Prop where
  growths : w.Makes → ∀ k, capacityOf k < (written lib key value).length →
    (∀ j < k, (w.growth j).Good) → capacityOf k * 2 ≤ intMax ∧
      ((w.growth k).allocated = true → w.outputAllocated = true → (w.growth k).value = true)
  terminated : w.Makes → w.outputAllocated = true →
    (∀ k, capacityOf k < (written lib key value).length → (w.growth k).Good) →
    '\x00' ∉ written lib key value ∧ ∀ c ∈ w.behindOutput.head?, c = '\x00'

/-- The sizes of the encoded keys are of type `int`, and two keys differ where their encodings are
not cut. -/
def KeysApart : Prop :=
  key.length * 3 + 1 ≤ intMax ∧ key'.length * 3 + 1 ≤ intMax ∧
    (key ≠ key' → (lib.percentEncode key).take 4066 ≠ (lib.percentEncode key').take 4066)

/-- The response to a request that is answered is allocated. -/
structure ResponsesAllocated : Prop where
  changed : w.Makes → w.outputAllocated = true →
    (∀ k, capacityOf k < (written lib key value).length → (w.growth k).Good) →
    w.exchange.Answered lib false → w.exchange.responseAllocated = true
  got : w.exchange.Answered lib true → w.exchange.responseAllocated = true
  removed : w.exchange.Answered lib false → w.exchange.responseAllocated = true

/-- The condition of `asked_iff`. -/
structure Askable : Prop where
  encodable : Encodable lib w key value
  apart : KeysApart lib key key'
  allocated : ResponsesAllocated lib w key value

end

/-! ## The body is what was written -/

/-- What is measured up to the next NUL is as long as what was copied exactly when it is that. -/
theorem measured_iff (f : Char → UInt8) (text behind : Text) :
    ((text ++ behind).takeWhile (· ≠ '\x00')).map f = text.map f ↔
      '\x00' ∉ text ∧ ∀ c ∈ behind.head?, c = '\x00' := by
  constructor
  · intro h
    have hlength : ((text ++ behind).takeWhile (· ≠ '\x00')).length = text.length := by
      simpa only [List.length_map] using congrArg List.length h
    have hprefix : (text ++ behind).takeWhile (· ≠ '\x00') = text := by
      have htake := List.prefix_iff_eq_take.mp (List.takeWhile_prefix (l := text ++ behind)
        (fun c => decide (c ≠ '\x00')))
      rw [hlength, List.take_left] at htake
      exact htake
    have hnul : '\x00' ∉ text := by
      intro hmem
      rw [← hprefix] at hmem
      simpa using List.mem_takeWhile_imp hmem
    refine ⟨hnul, fun c hc => ?_⟩
    cases behind with
    | nil => cases hc
    | cons d behind =>
      obtain rfl : d = c := by simpa using hc
      by_contra hne
      have hall : ∀ x ∈ text, decide (x ≠ '\x00') = true := fun x hx =>
        decide_eq_true fun heq => hnul (heq ▸ hx)
      have hstands : (d :: behind).takeWhile (fun c => decide (c ≠ '\x00')) =
          d :: behind.takeWhile (fun c => decide (c ≠ '\x00')) :=
        List.takeWhile_cons_of_pos (decide_eq_true hne)
      rw [List.takeWhile_append_of_pos hall, hstands, List.length_append, List.length_cons] at hlength
      omega
  · rintro ⟨hnul, hbehind⟩
    have hall : ∀ x ∈ text, decide (x ≠ '\x00') = true := fun x hx =>
      decide_eq_true fun heq => hnul (heq ▸ hx)
    have hnone : behind.takeWhile (fun c => decide (c ≠ '\x00')) = [] := by
      cases behind with
      | nil => rfl
      | cons d behind =>
        have hd : d = '\x00' := hbehind d rfl
        exact List.takeWhile_cons_of_neg (by simpa using hd)
    rw [List.takeWhile_append_of_pos hall, hnone, List.append_nil]

section

variable {lib : Library} {w : World} {op : CreateOrChange} {key value key' : Text}

theorem statusOf_ne_overflow (request : ApimlRequest) :
    statusOf lib w request ≠ .error .overflow := by
  unfold statusOf
  cases apimlDoRequest lib w.exchange request with
  | error status => nofun
  | ok response => cases response <;> nofun

theorem receiveFor_eq_ok {e : Exchange} {request : ApimlRequest}
    {result : HttpResponse × Option lib.Json} (h : receiveFor lib e request = .ok result) :
    e.slhAllocated = true ∧ ∃ response, e.received = some response ∧ (request.parseJson = true →
      (lib.jsonParseUnterminatedUtf8String response.body response.contentLength).isSome = true) := by
  unfold receiveFor receiveResponse at h
  cases hreceived : e.received with
  | none =>
    rw [hreceived] at h
    cases h
  | some response =>
    rw [hreceived] at h
    cases hslh : e.slhAllocated with
    | false =>
      rw [hslh] at h
      cases h
    | true =>
      rw [hslh] at h
      refine ⟨rfl, response, rfl, fun hparse => ?_⟩
      simp only [Bool.true_eq_false, if_false, if_pos hparse] at h
      cases hjson : lib.jsonParseUnterminatedUtf8String response.body response.contentLength with
      | none =>
        rw [hjson] at h
        cases h
      | some json => rfl

theorem exists_receiveFor {e : Exchange} {request : ApimlRequest} {response : HttpResponse}
    (hslh : e.slhAllocated = true) (hreceived : e.received = some response)
    (hjson : request.parseJson = true →
      (lib.jsonParseUnterminatedUtf8String response.body response.contentLength).isSome = true) :
    ∃ result, receiveFor lib e request = .ok result := by
  have hresponse : receiveResponse e = .ok response := by
    rw [receiveResponse, hreceived, hslh]
    rfl
  rw [receiveFor, hresponse]
  dsimp only
  split
  next hparse =>
    obtain ⟨json, hsome⟩ := Option.isSome_iff_exists.mp (hjson hparse)
    exact ⟨(response, some json), by rw [hsome]⟩
  next => exact ⟨_, rfl⟩

/-- A response is null where it would be an answer and is not allocated. -/
theorem apimlDoRequest_eq_null_iff (e : Exchange) (request : ApimlRequest) :
    apimlDoRequest lib e request = .ok none ↔
      e.Answered lib request.parseJson ∧ e.responseAllocated = false := by
  constructor
  · intro h
    unfold apimlDoRequest at h
    split at h
    next => cases h
    next hcontext =>
      split at h
      next => cases h
      next hsession =>
        split at h
        next => cases h
        next hstage =>
          split at h
          next => cases h
          next hsend =>
            split at h
            next => cases h
            next session jsonResponse hreceive =>
              split at h
              next hnull =>
                obtain ⟨hslh, hresponse⟩ := receiveFor_eq_ok hreceive
                exact ⟨⟨not_not.mp hcontext, not_not.mp hsession, not_not.mp hstage,
                  not_not.mp hsend, hslh, hresponse⟩, hnull⟩
              next => cases h
  · rintro ⟨⟨hcontext, hsession, hstage, hsend, hslh, response, hreceived, hjson⟩, hnull⟩
    obtain ⟨result, hresult⟩ := exists_receiveFor hslh hreceived hjson
    rw [apimlDoRequest, hcontext, hsession, hstage, hsend, hresult, hnull]
    rfl

theorem statusOf_null_iff (request : ApimlRequest) :
    statusOf lib w request = .error .nullResponse ↔
      w.exchange.Answered lib request.parseJson ∧ w.exchange.responseAllocated = false := by
  rw [← apimlDoRequest_eq_null_iff, statusOf]
  cases apimlDoRequest lib w.exchange request with
  | error status => exact ⟨nofun, nofun⟩
  | ok response =>
    cases response with
    | none => exact ⟨fun _ => rfl, fun _ => rfl⟩
    | some response => exact ⟨nofun, nofun⟩

/-! ## When it is right -/

/-- No body where there is no printer. -/
theorem printed_of_not_makes (h : ¬ w.Makes) : printed lib w key value = .ok none := by
  have hnone : makeJsonMemoryPrinter w = none := by
    unfold makeJsonMemoryPrinter
    split
    next => rfl
    next hprinter =>
      split
      next => rfl
      next hbuffer =>
        split
        next => rfl
        next hjsonPrinter =>
          exact absurd ⟨Bool.eq_true_of_not_eq_false hprinter, Bool.eq_true_of_not_eq_false hbuffer,
            Bool.eq_true_of_not_eq_false hjsonPrinter⟩ h
  rw [printed, hnone]

/-- Where there is one, its buffer grows for what is written. -/
theorem printed_grows (h : w.Makes) :
    ∃ e result, Grows w.growth (written lib key value).length 0 e ∧
      e.Leaves (written lib key value) result ∧ printed lib w key value = result.map some := by
  have hsome : makeJsonMemoryPrinter w = some (running [] 0) := by
    rw [makeJsonMemoryPrinter, h.1, h.2.1, h.2.2]
    rfl
  have hroom : ([] : Text).length ≤ capacityOf 0 := Nat.zero_le _
  obtain ⟨e, grows, leaves⟩ := writeChunks_grows w.growth (lib.bodyChunks key value) hroom
  rw [List.length_nil, Nat.zero_add] at grows
  rw [List.nil_append] at leaves
  refine ⟨e, _, grows, leaves, ?_⟩
  rw [printed, hsome]

/-- The request with a body. -/
def bodyRequest (op : CreateOrChange) (body : Bytes) : ApimlRequest :=
  ⟨if op = .change then .put else .post, cachingServiceUri, some body, false⟩

theorem createOrChange_none (h : printed lib w key value = .ok none) :
    createOrChange lib w op key value = ⟨none, .ok .allocError⟩ := by
  rw [createOrChange, apimlCreateCachingServiceRequestBody, h]
  rfl

theorem createOrChange_fault {fault : Fault} (h : printed lib w key value = .error fault) :
    createOrChange lib w op key value = ⟨none, .error fault⟩ := by
  rw [createOrChange, apimlCreateCachingServiceRequestBody, h]
  rfl

theorem body_eq {printer : JsonMemoryPrinter} (h : printed lib w key value = .ok (some printer)) :
    apimlCreateCachingServiceRequestBody lib w key value =
      .ok ((jsonMemoryPrinterGetOutput w printer).map (·.map lib.ibm1047ToIso88591)) := by
  rw [apimlCreateCachingServiceRequestBody, h]
  rfl

theorem createOrChange_refused {printer : JsonMemoryPrinter}
    (h : printed lib w key value = .ok (some printer))
    (hout : printer.error = true ∨ w.outputAllocated = false) :
    createOrChange lib w op key value = ⟨none, .ok .allocError⟩ := by
  have houtput : jsonMemoryPrinterGetOutput w printer = none := by
    rw [jsonMemoryPrinterGetOutput]
    rcases hout with herror | hfalse
    · rw [if_pos herror]
    · rw [if_pos hfalse]
      split <;> rfl
  rw [createOrChange, body_eq h, houtput]
  rfl

theorem createOrChange_sent {printer : JsonMemoryPrinter}
    (h : printed lib w key value = .ok (some printer)) (herror : printer.error = false)
    (hout : w.outputAllocated = true) :
    createOrChange lib w op key value =
      let request := bodyRequest op (((printer.buffer ++ w.behindOutput).takeWhile
        (· ≠ '\x00')).map lib.ibm1047ToIso88591)
      ⟨some request, statusOf lib w request⟩ := by
  have houtput : jsonMemoryPrinterGetOutput w printer =
      some ((printer.buffer ++ w.behindOutput).takeWhile (· ≠ '\x00')) := by
    rw [jsonMemoryPrinterGetOutput, herror, hout]
    rfl
  rw [createOrChange, body_eq h, houtput]
  rfl

/-- The growths that are needed are those before there is room. -/
theorem needed_lt {total g k : Nat} (hroom : total ≤ capacityOf g) (hk : capacityOf k < total) :
    k < g := by
  by_contra hle
  have hmono := capacityOf_mono (Nat.le_of_not_lt hle)
  omega

/-- Where there is room in the end, the body is measured right or it is not. -/
theorem encoded_iff_of_enough {g : Nat} (hmakes : w.Makes)
    (grows : Grows w.growth (written lib key value).length 0 (.enough g))
    (hprinted : printed lib w key value = .ok (some (running (written lib key value) g))) :
    Encoded lib w op key value ↔ Encodable lib w key value := by
  obtain ⟨-, hroom, hbefore⟩ := grows.good
  have hgrowths : ∀ k, capacityOf k < (written lib key value).length →
      (w.growth k).Good ∧ capacityOf k * 2 ≤ intMax := fun k hk =>
    hbefore k (Nat.zero_le k) (needed_lt hroom hk)
  by_cases hout : w.outputAllocated = true
  · have hsent := @createOrChange_sent lib w op key value _ hprinted rfl hout
    constructor
    · intro encoded
      refine ⟨fun _ k hk _ => ⟨(hgrowths k hk).2, fun _ _ => (hgrowths k hk).1.2⟩, fun _ _ _ => ?_⟩
      have hbody := encoded.exact _ (congrArg Changed.request hsent)
      exact (measured_iff _ _ _).mp (Option.some_inj.mp hbody)
    · intro encodable
      have hbody := (measured_iff lib.ibm1047ToIso88591 _ _).mpr
        (encodable.terminated hmakes hout fun k hk => (hgrowths k hk).1)
      refine ⟨?_, ?_, ?_, ?_⟩
      · rw [hsent]
        exact statusOf_ne_overflow _
      · intro request hrequest
        rw [hsent] at hrequest
        cases hrequest
        exact congrArg some hbody
      · rintro printer hprinter ⟨k, hk, hrefused⟩
        rw [hprinted] at hprinter
        cases hprinter
        have hallocated := (hbefore k (Nat.zero_le k) hk).1.1
        exact absurd (hrefused.symm.trans hallocated) Bool.false_ne_true
      · intro printer _ _ _
        rw [hsent]
        nofun
  · have hrefused := @createOrChange_refused lib w op key value _ hprinted
      (.inr (Bool.eq_false_of_not_eq_true hout))
    constructor
    · intro _
      exact ⟨fun _ k hk _ => ⟨(hgrowths k hk).2, fun _ h => absurd h hout⟩,
        fun _ h => absurd h hout⟩
    · intro _
      refine ⟨?_, ?_, fun _ _ _ => hrefused, fun _ _ _ h => absurd h hout⟩
      · rw [hrefused]
        nofun
      · intro request hrequest
        rw [hrefused] at hrequest
        cases hrequest

/-- Where a growth fails there is no request, which is right where storage was refused. -/
theorem encoded_iff_of_refused {k : Nat} {printer : JsonMemoryPrinter} (hmakes : w.Makes)
    (grows : Grows w.growth (written lib key value).length 0 (.refused k))
    (hprinted : printed lib w key value = .ok (some printer)) (herror : printer.error = true)
    (hcount : printer.growths = k + 1) :
    Encoded lib w op key value ↔ Encodable lib w key value := by
  obtain ⟨-, hneeded, hfits, hbad, hbefore⟩ := grows.good
  have hrefused := @createOrChange_refused lib w op key value _ hprinted (.inl herror)
  constructor
  · intro encoded
    have hnot : (w.growth k).allocated = true → w.outputAllocated = true → False := by
      intro hallocated hout
      refine encoded.sent printer hprinted (fun j hj => ?_) hout (by rw [hrefused])
      rw [hcount] at hj
      rcases Nat.eq_or_lt_of_le (Nat.le_of_lt_succ hj) with rfl | hj
      · exact hallocated
      · exact (hbefore j (Nat.zero_le j) hj).1.1
    refine ⟨fun _ j hj hreached => ?_, fun _ hout hall => (hbad (hall k hneeded)).elim⟩
    rcases Nat.lt_trichotomy j k with hlt | rfl | hlt
    · exact ⟨(hbefore j (Nat.zero_le j) hlt).2, fun _ _ => (hbefore j (Nat.zero_le j) hlt).1.2⟩
    · exact ⟨hfits, fun hallocated hout => (hnot hallocated hout).elim⟩
    · exact absurd (hreached k hlt) hbad
  · intro encodable
    refine ⟨?_, ?_, fun _ _ _ => hrefused, ?_⟩
    · rw [hrefused]
      nofun
    · intro request hrequest
      rw [hrefused] at hrequest
      cases hrequest
    · intro printer' hprinter hall hout
      rw [hprinted] at hprinter
      cases hprinter
      have hallocated := hall k (by omega)
      have hvalue := (encodable.growths hmakes k hneeded fun j hj =>
        (hbefore j (Nat.zero_le j) hj).1).2 hallocated hout
      exact (hbad ⟨hallocated, hvalue⟩).elim

/-- A capacity that overflows is not one of type `int`. -/
theorem not_encodable_of_overflow (hmakes : w.Makes)
    (grows : Grows w.growth (written lib key value).length 0 .overflow) :
    ¬ Encodable lib w key value := by
  intro encodable
  obtain ⟨k, -, hneeded, hover, hbefore⟩ := grows.good
  have hfits := (encodable.growths hmakes k hneeded fun j hj =>
    (hbefore j (Nat.zero_le j) hj).1).1
  omega

theorem encoded_iff_encodable : Encoded lib w op key value ↔ Encodable lib w key value := by
  by_cases hmakes : w.Makes
  · obtain ⟨e, result, grows, leaves, hprinted⟩ := @printed_grows lib w key value hmakes
    cases e with
    | enough g =>
      cases (leaves : result = .ok (running (written lib key value) g))
      exact encoded_iff_of_enough hmakes grows hprinted
    | refused k =>
      obtain ⟨printer, rfl, herror, hcount⟩ := leaves
      exact encoded_iff_of_refused hmakes grows hprinted herror hcount
    | overflow =>
      cases (leaves : result = .error .overflow)
      constructor
      · intro encoded
        exact absurd (congrArg Changed.result (createOrChange_fault hprinted)) encoded.defined
      · intro encodable
        exact (not_encodable_of_overflow hmakes grows encodable).elim
  · have hnone := @createOrChange_none lib w op key value (printed_of_not_makes hmakes)
    constructor
    · intro _
      exact ⟨fun h => absurd h hmakes, fun h => absurd h hmakes⟩
    · intro _
      refine ⟨?_, ?_, fun _ _ _ => hnone, ?_⟩
      · rw [hnone]
        nofun
      · intro request hrequest
        rw [hnone] at hrequest
        cases hrequest
      · intro printer hprinter
        rw [printed_of_not_makes hmakes] at hprinter
        cases hprinter

theorem requestPath_of_fits (h : key.length * 3 + 1 ≤ intMax) :
    requestPath lib key = .ok (keyPath lib key) :=
  if_neg (Nat.not_lt_of_le h)

/-- The paths of two keys are equal where the encodings are, as far as they are not cut. -/
theorem keyPath_eq_iff : keyPath lib key = keyPath lib key' ↔
    (lib.percentEncode key).take 4066 = (lib.percentEncode key').take 4066 := by
  have hpath : ∀ k, keyPath lib k = cachingServiceUri ++ '/' :: (lib.percentEncode k).take 4066 := by
    intro k
    have hlength : cachingServiceUri.length = 28 := rfl
    rw [keyPath, List.take_append, hlength, List.take_of_length_le (by rw [hlength]; decide)]
    rfl
  rw [hpath, hpath, List.append_cancel_left_eq, List.cons_inj_right]

theorem apart_iff : PathsApart lib key key' ↔ KeysApart lib key key' := by
  constructor
  · rintro ⟨path, path', hpath, hpath', hne⟩
    have hfits : ∀ {k p}, requestPath lib k = .ok p → k.length * 3 + 1 ≤ intMax ∧ keyPath lib k = p := by
      intro k p h
      unfold requestPath at h
      split at h
      next => cases h
      next hfits => exact ⟨Nat.le_of_not_lt hfits, Except.ok.inj h⟩
    obtain ⟨hkey, rfl⟩ := hfits hpath
    obtain ⟨hkey', rfl⟩ := hfits hpath'
    exact ⟨hkey, hkey', fun h heq => hne h (keyPath_eq_iff.mpr heq)⟩
  · rintro ⟨hkey, hkey', hne⟩
    exact ⟨_, _, requestPath_of_fits hkey, requestPath_of_fits hkey',
      fun h heq => hne h (keyPath_eq_iff.mp heq)⟩

/-- `createOrChange` reads a null response where a body is sent and the response is not allocated. -/
theorem changed_null_iff (encodable : Encodable lib w key value) :
    (createOrChange lib w op key value).result = .error .nullResponse ↔
      (w.Makes ∧ w.outputAllocated = true ∧
        ∀ k, capacityOf k < (written lib key value).length → (w.growth k).Good) ∧
      w.exchange.Answered lib false ∧ w.exchange.responseAllocated = false := by
  by_cases hmakes : w.Makes
  · obtain ⟨e, result, grows, leaves, hprinted⟩ := @printed_grows lib w key value hmakes
    have hgood := grows.good
    cases e with
    | enough g =>
      obtain ⟨-, hroom, hbefore⟩ := hgood
      cases (leaves : result = .ok (running (written lib key value) g))
      by_cases hout : w.outputAllocated = true
      · rw [@createOrChange_sent lib w op key value _ hprinted rfl hout]
        have hall : ∀ k, capacityOf k < (written lib key value).length → (w.growth k).Good :=
          fun k hk => (hbefore k (Nat.zero_le k) (needed_lt hroom hk)).1
        exact (statusOf_null_iff _).trans ⟨fun h => ⟨⟨hmakes, hout, hall⟩, h⟩, fun h => h.2⟩
      · rw [@createOrChange_refused lib w op key value _ hprinted
          (.inr (Bool.eq_false_of_not_eq_true hout))]
        exact ⟨nofun, fun h => absurd h.1.2.1 hout⟩
    | refused k =>
      obtain ⟨-, hneeded, -, hbad, -⟩ := hgood
      obtain ⟨printer, rfl, herror, -⟩ := leaves
      rw [@createOrChange_refused lib w op key value _ hprinted (.inl herror)]
      exact ⟨nofun, fun h => absurd (h.1.2.2 k hneeded) hbad⟩
    | overflow => exact (not_encodable_of_overflow hmakes grows encodable).elim
  · rw [@createOrChange_none lib w op key value (printed_of_not_makes hmakes)]
    exact ⟨nofun, fun h => absurd h.1.1 hmakes⟩

theorem got_null_iff (h : key.length * 3 + 1 ≤ intMax) :
    apimlStorageGetString lib w key = .error .nullResponse ↔
      w.exchange.Answered lib true ∧ w.exchange.responseAllocated = false := by
  have hrequest := @apimlDoRequest_eq_null_iff lib w.exchange ⟨.get, keyPath lib key, none, true⟩
  refine Iff.trans ?_ hrequest
  rw [apimlStorageGetString, requestPath_of_fits h]
  dsimp only
  cases apimlDoRequest lib w.exchange ⟨.get, keyPath lib key, none, true⟩ with
  | error status => exact ⟨nofun, nofun⟩
  | ok response =>
    cases response with
    | none => exact ⟨fun _ => rfl, fun _ => rfl⟩
    | some response => exact ⟨nofun, nofun⟩

theorem removed_null_iff (h : key.length * 3 + 1 ≤ intMax) :
    apimlStorageRemove lib w key = .error .nullResponse ↔
      w.exchange.Answered lib false ∧ w.exchange.responseAllocated = false := by
  rw [apimlStorageRemove, requestPath_of_fits h]
  exact statusOf_null_iff _

theorem present_iff (encodable : Encodable lib w key value) (h : key.length * 3 + 1 ≤ intMax) :
    NothingMissing lib w op key value ↔ ResponsesAllocated lib w key value := by
  constructor
  · intro present
    refine ⟨fun hmakes hout hall answered => ?_, fun answered => ?_, fun answered => ?_⟩
    · by_contra hnull
      exact present.changed ((changed_null_iff encodable).mpr
        ⟨⟨hmakes, hout, hall⟩, answered, Bool.eq_false_of_not_eq_true hnull⟩)
    · by_contra hnull
      exact present.got ((got_null_iff h).mpr ⟨answered, Bool.eq_false_of_not_eq_true hnull⟩)
    · by_contra hnull
      exact present.removed ((removed_null_iff h).mpr ⟨answered, Bool.eq_false_of_not_eq_true hnull⟩)
  · intro allocated
    refine ⟨fun hnull => ?_, fun hnull => ?_, fun hnull => ?_⟩
    · obtain ⟨⟨hmakes, hout, hall⟩, answered, hfalse⟩ := (changed_null_iff encodable).mp hnull
      exact Bool.false_ne_true (hfalse.symm.trans (allocated.changed hmakes hout hall answered))
    · obtain ⟨answered, hfalse⟩ := (got_null_iff h).mp hnull
      exact Bool.false_ne_true (hfalse.symm.trans (allocated.got answered))
    · obtain ⟨answered, hfalse⟩ := (removed_null_iff h).mp hnull
      exact Bool.false_ne_true (hfalse.symm.trans (allocated.removed answered))

end

/-- What is asked of the service is right exactly where each growth that is given is taken for one
and doubles to an `int`, a NUL stands behind the output and not in it, the encodings of two keys
differ before they are cut, and the response to an answered request is allocated. -/
theorem asked_iff (lib : Library) (w : World) (op : CreateOrChange) (key value key' : Text) :
    AskedRight lib w op key value key' ↔ Askable lib w key value key' := by
  constructor
  · rintro ⟨encoded, apart, present⟩
    have encodable := encoded_iff_encodable.mp encoded
    have keys := apart_iff.mp apart
    exact ⟨encodable, keys, (present_iff encodable keys.1).mp present⟩
  · rintro ⟨encodable, keys, allocated⟩
    exact ⟨encoded_iff_encodable.mpr encodable, apart_iff.mpr keys,
      (present_iff encodable keys.1).mpr allocated⟩

/-- A common library for keys and values of letters, which it need not encode. -/
def plainLibrary : Library where
  Json := Unit
  JsonObject := Unit
  percentEncode key := key
  bodyChunks key value :=
    ["\x7b\"key\":\"".toList, key, "\",\"value\":\"".toList, value, "\"\x7d".toList]
  ibm1047ToIso88591 c := c.val.toUInt8
  jsonParseUnterminatedUtf8String _ _ := some ()
  jsonAsObject json := json
  jsonObjectGetString _ _ := none

/-- Everything is given, and every request is answered. -/
def givingWorld : World where
  printerAllocated := true
  bufferAllocated := true
  jsonPrinterAllocated := true
  growth _ := ⟨true, true⟩
  outputAllocated := true
  behindOutput := []
  exchange := ⟨0, 0, 0, 0, some ⟨200, 0, none⟩, true, true, true⟩

/-- Two keys of 4067 letters that differ in the last one have the same path. -/
theorem cut_paths_collide : ¬ AskedRight plainLibrary givingWorld .change
    (List.replicate 4066 'a' ++ ['b']) [] (List.replicate 4066 'a' ++ ['c']) := by
  rintro ⟨-, apart, -⟩
  have hdiffer : List.replicate 4066 'a' ++ ['b'] ≠ List.replicate 4066 'a' ++ ['c'] := by
    rw [Ne, List.append_cancel_left_eq]
    decide
  obtain ⟨-, -, hapart⟩ := apart_iff.mp apart
  have hcut : ∀ c, (List.replicate 4066 'a' ++ [c]).take 4066 = List.replicate 4066 'a' := by
    intro c
    exact List.take_left' (List.length_replicate ..)
  exact hapart hdiffer ((hcut 'b').trans (hcut 'c').symm)

end Zss.Apiml.RequestEncoding
