import Mathlib.Data.List.TakeWhile
import Zss.Apiml.PlainService

/-!
# The storage as a shared map

What is called at the same time answers as one call after the other would on a map, and a set does
not fail (`shared_map`), where a POST finds that its key is still not there. Where another set comes
between the PUT and the POST of a set, the POST is answered with a conflict and the set fails
(`set_between_fails`).

## What is not established

That calls return. The service is one that does what it documents (`service.Documented`); a service
that is out of reach or answers otherwise is outside of the result.
-/

namespace Zss.Apiml

open Zss.Lib Program

section

variable {lib : Library} {service : Service} {store : Store} {t : Client}
  {pre : ApimlWorld → Prop}

/-- The steps that are looked at. -/
def apimlAllowed (service : Service) (s : ApimlWorld) (_ : Client) (e : Event apimlInterface) :
    Prop :=
  Healthy e ∧ Sound service s e

/-- The judgment along a call that leaves the world as it is. -/
abbrev ApimlQuiet {α : Type} (service : Service) (t : Client) (pre : ApimlWorld → Prop)
    (post : α → Prop) (p : ApimlProgram α) : Prop :=
  Quiet (apimlWorld service) (apimlAllowed service) t pre post p

/-- The judgment along a call. -/
abbrev ApimlAbides {α : Type} (service : Service) (store : Store) (t : Client)
    (post : α → ApimlWorld → Prop) (p : ApimlProgram α) (s : ApimlWorld) : Prop :=
  Abides (apimlWorld service) (apimlAllowed service) (apimlProtocol store) t post p s

/-! ## The body -/

/-- A printer that has met no error. -/
structure JsonMemoryPrinter.Ok (printer : JsonMemoryPrinter) : Prop where
  capacity : 0 < printer.capacity
  size : printer.buffer.length ≤ printer.capacity
  error : printer.error = false

/-- Storage that is asked for is given. -/
theorem safeMalloc_quiet {α : Type} {post : α → Prop} {k : Bool → ApimlProgram α}
    (hk : ApimlQuiet service t pre post (k true)) :
    ApimlQuiet service t pre post (call .safeMalloc >>= k) := by
  refine .unchanged_bind (fun _ _ => rfl) fun s allocated hallowed => ?_
  have hallocated : allocated = true := hallowed.1
  subst hallocated
  exact hk

variable {printer : JsonMemoryPrinter} {s : ApimlWorld} {key : Text}

/-- Where its loop ends, a printer has grown enough. -/
theorem growFor_quiet (len rounds : Nat) (h : printer.Ok)
    (hrounds : len ≤ printer.capacity - printer.buffer.length + rounds) :
    ApimlQuiet service t pre (fun printer' => printer'.Ok ∧ printer'.buffer = printer.buffer ∧
      printer'.buffer.length + len ≤ printer'.capacity) (growFor len rounds printer) := by
  have hsize := h.size
  have hcapacity := h.capacity
  induction rounds generalizing printer with
  | zero => exact ⟨h, rfl, by omega⟩
  | succ rounds ih =>
    refine .ite (fun _ => ?_) fun henough => ⟨h, rfl, by omega⟩
    refine safeMalloc_quiet ?_
    refine .unchanged_bind (fun _ _ => rfl) fun s value hallowed => ?_
    have hvalue : value = true := hallowed.2
    subst hvalue
    have hdouble : printer.buffer.length ≤ printer.capacity * 2 := by omega
    have hpositive : 0 < printer.capacity * 2 := by omega
    have hgrown : JsonMemoryPrinter.Ok { printer with capacity := printer.capacity * 2 } :=
      ⟨hpositive, hdouble, h.error⟩
    exact ih hgrown (by dsimp only; omega) hdouble hpositive

theorem jsonWriteCallback_quiet (h : printer.Ok) (data : Text) :
    ApimlQuiet service t pre (fun printer' => printer'.Ok ∧
      printer'.buffer = printer.buffer ++ data) (jsonWriteCallback printer data) := by
  unfold jsonWriteCallback
  refine .ite (fun herror => ?_) fun _ => ?_
  · exact absurd (h.error.symm.trans herror) Bool.false_ne_true
  · refine .bind (growFor_quiet data.length data.length h (Nat.le_add_left _ _))
      fun printer' hgrown => ?_
    obtain ⟨h', hbuffer, hfits⟩ := hgrown
    refine .ite (fun herror => ?_) fun _ => ?_
    · exact absurd (h'.error.symm.trans herror) Bool.false_ne_true
    · refine ⟨⟨h'.capacity, ?_, h'.error⟩, ?_⟩
      · rw [List.length_append]
        exact hfits
      · rw [hbuffer]

/-- All that is written stands in the buffer. -/
theorem writeChunks_quiet (chunks : List Text) (h : printer.Ok) :
    ApimlQuiet service t pre (fun printer' => printer'.Ok ∧
      printer'.buffer = printer.buffer ++ chunks.flatten) (writeChunks chunks printer) := by
  induction chunks generalizing printer with
  | nil => exact ⟨h, (List.append_nil _).symm⟩
  | cons data chunks ih =>
    refine .bind (jsonWriteCallback_quiet h data) fun printer' hwritten => ?_
    obtain ⟨h', hbuffer⟩ := hwritten
    have hflatten : printer'.buffer ++ chunks.flatten =
        printer.buffer ++ (data :: chunks).flatten := by
      rw [hbuffer, List.flatten_cons, List.append_assoc]
    rw [← hflatten]
    exact ih h'

theorem makeJsonMemoryPrinter_quiet :
    ApimlQuiet service t pre (· = some ⟨[], initialCapacity, false⟩) makeJsonMemoryPrinter :=
  safeMalloc_quiet (safeMalloc_quiet (safeMalloc_quiet rfl))

/-- The output is what was written, where it has no NUL. -/
theorem jsonMemoryPrinterGetOutput_quiet (h : printer.Ok) (hnul : '\x00' ∉ printer.buffer) :
    ApimlQuiet service t pre (· = some printer.buffer) (jsonMemoryPrinterGetOutput printer) := by
  unfold jsonMemoryPrinterGetOutput
  refine .ite (fun herror => ?_) fun _ => ?_
  · exact absurd (h.error.symm.trans herror) Bool.false_ne_true
  · refine safeMalloc_quiet ?_
    refine .unchanged_bind (fun _ _ => rfl) fun s behind hallowed => ?_
    have hbehind : behind = [] := hallowed.2
    subst hbehind
    refine congrArg some ?_
    rw [List.append_nil, List.takeWhile_eq_self_iff]
    intro c hc
    have hne : c ≠ '\x00' := fun heq => hnul (heq ▸ hc)
    simpa using hne

/-- The body of a request is what the JSON printer wrote. -/
theorem body_quiet (hservice : service.Documented lib) (key value : Text) :
    ApimlQuiet service t pre
      (· = some ((lib.bodyChunks key value).flatten.map lib.ibm1047ToIso88591))
      (apimlCreateCachingServiceRequestBody lib key value) := by
  refine .bind makeJsonMemoryPrinter_quiet fun printer hprinter => ?_
  subst hprinter
  have hok : JsonMemoryPrinter.Ok ⟨[], initialCapacity, false⟩ :=
    ⟨by decide, Nat.zero_le _, rfl⟩
  refine .bind (writeChunks_quiet (lib.bodyChunks key value) hok) fun printer hwritten => ?_
  obtain ⟨hok', hbuffer⟩ := hwritten
  rw [List.nil_append] at hbuffer
  rw [← hbuffer]
  refine .bind (jsonMemoryPrinterGetOutput_quiet hok' ?_) fun output houtput => ?_
  · rw [hbuffer]
    exact hservice.no_nul key value
  · subst houtput
    exact rfl

/-! ## A request -/

/-- What was decided for a call. -/
def Noted (t : Client) (s : ApimlWorld) : Option Outcome → Prop
  | some outcome => (t, outcome) ∈ s.log
  | none => ∀ outcome, (t, outcome) ∉ s.log

theorem Noted.rely {s s' : ApimlWorld} {outcome : Option Outcome} (h : Noted t s outcome)
    (hrely : apimlRely t s s') : Noted t s' outcome := by
  cases outcome with
  | none => exact fun outcome hmem => h outcome ((hrely.2 outcome).mp hmem)
  | some outcome => exact (hrely.2 outcome).mpr h

/-- A request that is made for a call. -/
def Serves : StorageOp → CacheRequest → Prop
  | .set key value, .put key' value' => key' = key ∧ value' = value
  | .set key value, .post key' value' => key' = key ∧ value' = value
  | .get key, .get key' => key' = key
  | .remove key, .delete key' => key' = key
  | _, _ => False

/-- What a request decides is what the call on a map answers and leaves. -/
theorem apply_of_decided {op : StorageOp} {request : CacheRequest} {outcome : Outcome}
    (hserves : Serves op request) (store : Store)
    (h : decided request (request.apply store).2 = some outcome) :
    op.apply store = ((request.apply store).1, outcome) := by
  cases op with
  | set key value =>
    cases request with
    | put key' value' =>
      obtain ⟨rfl, rfl⟩ := hserves
      cases hkey : store key' with
      | none => simp [CacheRequest.apply, hkey, decided] at h
      | some old =>
        simp only [CacheRequest.apply, hkey, decided, Option.some.injEq] at h
        simp [StorageOp.apply, CacheRequest.apply, hkey, ← h]
    | post key' value' =>
      obtain ⟨rfl, rfl⟩ := hserves
      cases hkey : store key' with
      | some old => simp [CacheRequest.apply, hkey, decided] at h
      | none =>
        simp only [CacheRequest.apply, hkey, decided, Option.some.injEq] at h
        simp [StorageOp.apply, CacheRequest.apply, hkey, ← h]
    | get key' => exact hserves.elim
    | delete key' => exact hserves.elim
  | get key =>
    cases request with
    | get key' =>
      obtain rfl := hserves
      cases hkey : store key' <;>
        simp_all [CacheRequest.apply, StorageOp.apply, decided]
    | put key' value' => exact hserves.elim
    | post key' value' => exact hserves.elim
    | delete key' => exact hserves.elim
  | remove key =>
    cases request with
    | delete key' =>
      obtain rfl := hserves
      cases hkey : store key' <;>
        simp_all [CacheRequest.apply, StorageOp.apply, decided]
    | put key' value' => exact hserves.elim
    | post key' value' => exact hserves.elim
    | get key' => exact hserves.elim

/-- What a request leaves where it decides nothing. -/
theorem apply_of_undecided (request : CacheRequest) (store : Store)
    (h : decided request (request.apply store).2 = none) : (request.apply store).1 = store := by
  cases request with
  | put key value | post key value =>
    cases hkey : store key <;> simp_all [CacheRequest.apply, decided]
  | get key => cases hkey : store key <;> simp_all [CacheRequest.apply]
  | delete key => cases hkey : store key <;> simp_all [CacheRequest.apply, decided]

/-- There is no conflict where a POST adds a key that is not there. -/
theorem apply_ne_conflict {request : CacheRequest} {store : Store}
    (h : ∀ key value, request = .post key value → store key = none) (key : Text) :
    (request.apply store).2 ≠ .conflict key := by
  cases request with
  | put key' value => cases hkey : store key' <;> simp [CacheRequest.apply, hkey]
  | post key' value => simp [CacheRequest.apply, h key' value rfl]
  | get key' | delete key' => cases hkey : store key' <;> simp [CacheRequest.apply, hkey]

/-- The service answered a request of a call, and this is what it decided. -/
structure Replied (service : Service) (t : Client) (request : CacheRequest) (store : Store)
    (s : ApimlWorld) : Prop where
  response : s.response t = some (service.write request (request.apply store).2)
  noted : Noted t s (decided request (request.apply store).2)

/-- **A request is one step of the map.** -/
theorem serve_replied {request : ApimlRequest} {cacheRequest : CacheRequest} (hinv : s.Inv store)
    (hnoted : Noted t s none) (hserves : Serves t.op cacheRequest)
    (hread : service.read request = some cacheRequest) :
    (s.serve service t request).Inv store ∧
      (apimlProtocol store).guar t s (s.serve service t request) ∧
      Replied service t cacheRequest s.store (s.serve service t request) := by
  unfold ApimlWorld.serve
  rw [hread]
  dsimp only
  cases hdecided : decided cacheRequest (cacheRequest.apply s.store).2 with
  | none =>
    have hstore := apply_of_undecided cacheRequest s.store hdecided
    rw [Option.map_none, Option.toList_none, List.append_nil, hstore]
    refine ⟨⟨hinv.serial, hinv.once⟩, fun u hu => ⟨?_, fun _ => Iff.rfl⟩, ?_, ?_⟩
    · exact Function.update_of_ne hu _ _
    · exact Function.update_self _ _ _
    · rw [hdecided]
      exact hnoted
  | some outcome =>
    have happly := apply_of_decided hserves s.store hdecided
    rw [Option.map_some, Option.toList_some]
    refine ⟨⟨?_, hinv.once.snoc hnoted outcome⟩, fun u hu => ⟨?_, fun _ => ?_⟩, ?_, ?_⟩
    · have hserial := hinv.serial.snoc t
      rw [happly] at hserial
      exact hserial
    · exact Function.update_of_ne hu _ _
    · exact mem_snoc_of_ne hu _ _
    · exact Function.update_self _ _ _
    · rw [hdecided]
      exact List.mem_append_right _ (List.mem_singleton.mpr rfl)

/-- What is received is the answer. -/
theorem receive_quiet (rounds : Nat) (response : HttpResponse) :
    ApimlQuiet service t (fun s => s.response t = some response) (· = some response)
      (receive rounds) := by
  induction rounds with
  | zero => exact .ask_bind fun _ never => nomatch never
  | succ rounds ih =>
    refine .ask_bind fun s (result : Int × Option HttpResponse) s' hs hallowed hstep => ?_
    obtain ⟨status, received⟩ := result
    have hstatus : status = 0 := hallowed.1
    subst hstatus
    cases received with
    | none =>
      cases hstep
      exact ⟨rfl, ih⟩
    | some received =>
      change (if s.response t = some received then some s else none) = _ at hstep
      split at hstep
      next hreceived =>
        cases hstep
        exact ⟨rfl, hreceived.symm.trans hs⟩
      next => cases hstep

theorem receiveResponse_quiet (rounds : Nat) (response : HttpResponse) :
    ApimlQuiet service t (fun s => s.response t = some response) (· = .ok response)
      (receiveResponse rounds) := by
  refine .bind (receive_quiet rounds response) fun received hreceived => ?_
  subst hreceived
  refine .unchanged_bind (fun _ _ => rfl) fun s allocated hallowed => ?_
  have hallocated : allocated = true := hallowed.1
  subst hallocated
  exact rfl

/-- What `apimlDoRequest` receives is the answer, and its JSON where it is asked for. -/
theorem receiveFor_quiet (request : ApimlRequest) (rounds : Nat) {response : HttpResponse}
    (hjson : request.parseJson = true →
      (lib.jsonParseUnterminatedUtf8String response.body response.contentLength).isSome = true) :
    ApimlQuiet service t (fun s => s.response t = some response) (fun result => ∃ jsonResponse,
      result = .ok (response, jsonResponse) ∧ (request.parseJson = true →
        lib.jsonParseUnterminatedUtf8String response.body response.contentLength = jsonResponse))
      (receiveFor lib request rounds) := by
  unfold receiveFor
  refine .ite (fun hparse => ?_) fun hparse => ?_
  · refine .bind (receiveResponse_quiet rounds response) fun result hresult => ?_
    subst hresult
    obtain ⟨json, hsome⟩ := Option.isSome_iff_exists.mp (hjson hparse)
    dsimp only
    rw [hsome]
    exact ⟨some json, rfl, fun _ => rfl⟩
  · refine .bind (receiveResponse_quiet rounds response) fun result hresult => ?_
    subst hresult
    exact ⟨none, rfl, fun h => absurd h hparse⟩

/-- What comes of a request that is made for a call: the answer to it, and what it decided. -/
def Responded (service : Service) (t : Client) (request : ApimlRequest)
    (cacheRequest : CacheRequest) (result : Except StorageStatus (Option (ApimlResponse lib)))
    (s : ApimlWorld) : Prop :=
  ∃ before answer jsonResponse, (cacheRequest.apply before).2 = answer ∧
    (∀ key, answer ≠ .conflict key) ∧ Noted t s (decided cacheRequest answer) ∧
    result = .ok (some ⟨jsonResponse, (service.write cacheRequest answer).statusCode⟩) ∧
    (request.parseJson = true → lib.jsonParseUnterminatedUtf8String
      (service.write cacheRequest answer).body
      (service.write cacheRequest answer).contentLength = jsonResponse)

/-- The answer to a request is received. -/
theorem apimlDoRequest_abides {request : ApimlRequest} {cacheRequest : CacheRequest}
    (rounds : Nat) (hnoted : Noted t s none) (hserves : Serves t.op cacheRequest)
    (hread : service.read request = some cacheRequest)
    (hjson : request.parseJson = true → ∀ answer,
      (lib.jsonParseUnterminatedUtf8String (service.write cacheRequest answer).body
        (service.write cacheRequest answer).contentLength).isSome = true) :
    ApimlAbides service store t (Responded service t request cacheRequest)
      (apimlDoRequest lib request rounds) s := by
  -- the context, the session and the staged request
  refine .unchanged_bind (fun _ _ => rfl) fun s₁ hrely (status : Int) hallowed =>
    .ite (fun h => absurd hallowed.1 h) fun _ => ?_
  replace hnoted := hnoted.rely hrely
  refine .unchanged_bind (fun _ _ => rfl) fun s₂ hrely (status : Int) hallowed =>
    .ite (fun h => absurd hallowed.1 h) fun _ => ?_
  replace hnoted := hnoted.rely hrely
  refine .unchanged_bind (fun _ _ => rfl) fun s₃ hrely (status : Int) hallowed =>
    .ite (fun h => absurd hallowed.1 h) fun _ => ?_
  replace hnoted := hnoted.rely hrely
  -- the request reaches the service
  refine .ask_bind fun s₄ hrely hinv (status : Int) s₅ hallowed hstep => ?_
  replace hnoted := hnoted.rely hrely
  have hstatus : status = 0 := hallowed.1
  subst hstatus
  cases hstep
  obtain ⟨hinv', hguar, hreplied⟩ := serve_replied hinv hnoted hserves hread
  refine ⟨hinv', hguar, .ite (fun h => absurd rfl h) fun _ => ?_⟩
  have hconflict := apply_ne_conflict fun key value hpost => hallowed.2 key value (hpost ▸ hread)
  refine Quiet.abides_bind (receiveFor_quiet request rounds fun hparse => hjson hparse _)
    hreplied.response (fun _ _ h hrely => hrely.1.trans h) fun result s₆ hrely hresult => ?_
  obtain ⟨jsonResponse, hresult, hparsed⟩ := hresult
  subst hresult
  refine .unchanged_bind (fun _ _ => rfl) fun s₇ hrely' allocated hallowed => ?_
  have hallocated : allocated = true := hallowed.1
  subst hallocated
  refine .ret fun s₈ hrely'' _ => ?_
  exact ⟨_, _, jsonResponse, rfl, hconflict,
    ((hreplied.noted.rely hrely).rely hrely').rely hrely'', rfl, hparsed⟩

/-! ## The operations -/

theorem transformHttpStatus_done {statusCode : Int} (h : CacheAnswer.HasStatus statusCode .done) :
    transformHttpStatus statusCode = .ok := by
  obtain rfl | rfl | rfl := h <;> rfl

theorem transformHttpStatus_notFound {statusCode : Int}
    (h : CacheAnswer.HasStatus statusCode (.notFound key)) :
    transformHttpStatus statusCode = .keyNotFound := by
  obtain rfl := h
  rfl

/-- What comes of a PUT or a POST that is made for a set. -/
theorem createOrChange_abides (hservice : service.Documented lib) (op : CreateOrChange)
    {key value : Text} (rounds : Nat) (hop : t.op = .set key value) (hnoted : Noted t s none) :
    ApimlAbides service store t (fun status s' =>
      (status = .ok ∧ Noted t s' (some (.ok, none))) ∨
      (op = .change ∧ status = .keyNotFound ∧ Noted t s' none))
      (createOrChange lib op key value rounds) s := by
  have hcreated : ApimlQuiet service t (fun _ => True) _ _ := body_quiet hservice key value
  refine hcreated.abides_bind trivial (fun _ _ h _ => h) fun body s' hrely hbody => ?_
  subst hbody
  replace hnoted := hnoted.rely hrely
  cases op with
  | change =>
    have hserves : Serves t.op (.put key value) := hop ▸ ⟨rfl, rfl⟩
    refine .bind_of (apimlDoRequest_abides rounds hnoted hserves
      (hservice.read_put key value) nofun) fun result s'' hresult => ?_
    obtain ⟨before, answer, jsonResponse, hanswer, -, hdecided, rfl, -⟩ := hresult
    have hstatus := hservice.status (.put key value) answer
    refine .ret fun s₃ hrely' _ => ?_
    cases hkey : before key with
    | none =>
      simp only [CacheRequest.apply, hkey] at hanswer
      subst hanswer
      exact .inr ⟨rfl, transformHttpStatus_notFound hstatus, hdecided.rely hrely'⟩
    | some old =>
      simp only [CacheRequest.apply, hkey] at hanswer
      subst hanswer
      exact .inl ⟨transformHttpStatus_done hstatus, hdecided.rely hrely'⟩
  | create =>
    have hserves : Serves t.op (.post key value) := hop ▸ ⟨rfl, rfl⟩
    refine .bind_of (apimlDoRequest_abides rounds hnoted hserves
      (hservice.read_post key value) nofun) fun result s'' hresult => ?_
    obtain ⟨before, answer, jsonResponse, hanswer, hconflict, hdecided, rfl, -⟩ := hresult
    have hstatus := hservice.status (.post key value) answer
    refine .ret fun s₃ hrely' _ => ?_
    cases hkey : before key with
    | none =>
      simp only [CacheRequest.apply, hkey] at hanswer
      subst hanswer
      exact .inl ⟨transformHttpStatus_done hstatus, hdecided.rely hrely'⟩
    | some old =>
      simp only [CacheRequest.apply, hkey] at hanswer
      exact absurd hanswer.symm (hconflict key)

/-- **A set comes to a map's answer.** -/
theorem apimlStorageSetString_abides (hservice : service.Documented lib) {key value : Text}
    (rounds : Nat) (hop : t.op = .set key value) (hnoted : Noted t s none) :
    ApimlAbides service store t (fun status s' => Noted t s' (some (status, none)))
      (apimlStorageSetString lib key value rounds) s := by
  refine .bind_of (createOrChange_abides hservice .change rounds hop hnoted)
    fun status s' hstatus => ?_
  obtain ⟨rfl, hnoted⟩ | ⟨_, rfl, hnoted⟩ := hstatus
  · exact .ret fun _ hrely _ => hnoted.rely hrely
  · refine (createOrChange_abides hservice .create rounds hop hnoted).mono
      fun status s'' hstatus => ?_
    obtain ⟨rfl, hnoted⟩ | ⟨hchange, _⟩ := hstatus
    · exact hnoted
    · cases hchange

/-- The path of a key that fits is the whole one. -/
theorem keyPath_eq (hfits : (cachingServiceUri ++ '/' :: lib.percentEncode key).length ≤ 4095) :
    keyPath lib key = cachingServiceUri ++ '/' :: lib.percentEncode key :=
  List.take_of_length_le hfits

/-- The value of an entry is read. -/
theorem getValue_quiet {jsonResponse : Option lib.Json} {object : lib.JsonObject} {value : Text}
    (hobject : lib.jsonAsObject jsonResponse = some object)
    (hvalue : lib.jsonObjectGetString object "value".toList = some value) :
    ApimlQuiet service t pre (· = (.ok, some value)) (getValue lib jsonResponse) := by
  unfold getValue
  rw [hobject]
  dsimp only
  rw [hvalue]
  exact safeMalloc_quiet rfl

/-- **A get comes to a map's answer.** -/
theorem apimlStorageGetString_abides (hservice : service.Documented lib) (rounds : Nat)
    (hop : t.op = .get key)
    (hfits : (cachingServiceUri ++ '/' :: lib.percentEncode key).length ≤ 4095)
    (hnoted : Noted t s none) :
    ApimlAbides service store t (fun outcome s' => Noted t s' (some outcome))
      (apimlStorageGetString lib key rounds) s := by
  unfold apimlStorageGetString
  rw [keyPath_eq hfits]
  have hserves : Serves t.op (.get key) := by rw [hop]; rfl
  refine .bind_of (apimlDoRequest_abides rounds hnoted hserves
    (hservice.read_get key) fun _ => hservice.json key) fun result s' hresult => ?_
  obtain ⟨before, answer, jsonResponse, hanswer, -, hdecided, rfl, hparsed⟩ := hresult
  have hstatus := hservice.status (.get key) answer
  cases hkey : before key with
  | none =>
    simp only [CacheRequest.apply, hkey] at hanswer
    subst hanswer
    have hnotFound := transformHttpStatus_notFound hstatus
    refine .ite (fun _ => ?_) fun hok => ?_
    · refine .ret fun _ hrely _ => ?_
      rw [hnotFound]
      exact hdecided.rely hrely
    · exact absurd (hnotFound.symm.trans (not_not.mp hok)) nofun
  | some value =>
    simp only [CacheRequest.apply, hkey] at hanswer
    subst hanswer
    have hok : transformHttpStatus (service.write (.get key) (.entry key value)).statusCode = .ok :=
      congrArg transformHttpStatus hstatus
    refine .ite (fun h => absurd hok h) fun _ => ?_
    obtain ⟨json, hsome⟩ := Option.isSome_iff_exists.mp (hservice.json key (.entry key value))
    obtain ⟨object, hobject, hvalue⟩ := hservice.value key value json hsome
    have hjson : jsonResponse = some json := (hparsed rfl).symm.trans hsome
    subst hjson
    have hread : ApimlQuiet service t (fun _ => True) _ _ := getValue_quiet hobject hvalue
    refine hread.abides trivial (fun _ _ h _ => h) fun outcome s'' hrely houtcome => ?_
    subst houtcome
    exact hdecided.rely hrely

/-- **A removal comes to a map's answer.** -/
theorem apimlStorageRemove_abides (hservice : service.Documented lib) (rounds : Nat)
    (hop : t.op = .remove key)
    (hfits : (cachingServiceUri ++ '/' :: lib.percentEncode key).length ≤ 4095)
    (hnoted : Noted t s none) :
    ApimlAbides service store t (fun status s' => Noted t s' (some (status, none)))
      (apimlStorageRemove lib key rounds) s := by
  unfold apimlStorageRemove
  rw [keyPath_eq hfits]
  have hserves : Serves t.op (.delete key) := by rw [hop]; rfl
  refine .bind_of (apimlDoRequest_abides rounds hnoted hserves
    (hservice.read_delete key) nofun) fun result s' hresult => ?_
  obtain ⟨before, answer, jsonResponse, hanswer, -, hdecided, rfl, -⟩ := hresult
  have hstatus := hservice.status (.delete key) answer
  refine .ret fun s'' hrely _ => ?_
  cases hkey : before key with
  | none =>
    simp only [CacheRequest.apply, hkey] at hanswer
    subst hanswer
    rw [transformHttpStatus_notFound hstatus]
    exact hdecided.rely hrely
  | some value =>
    simp only [CacheRequest.apply, hkey] at hanswer
    subst hanswer
    rw [transformHttpStatus_done hstatus]
    exact hdecided.rely hrely

/-! ## Every order of steps -/

/-- A call that begins comes to a map's answer. -/
theorem begins_abides (hservice : service.Documented lib) {p : ApimlProgram Outcome}
    (hfresh : ∀ outcome, (t, outcome) ∉ s.log) (hbegins : Begins lib s t p) :
    ApimlAbides service store t (fun outcome s' => Noted t s' (some outcome)) p s := by
  cases hbegins with
  | call rounds hfits =>
    cases hop : t.op with
    | set key value =>
      exact .bind_of (apimlStorageSetString_abides hservice rounds hop hfresh)
        fun status s' hnoted => .ret fun s'' hrely _ => hnoted.rely hrely
    | get key =>
      rw [hop] at hfits
      exact apimlStorageGetString_abides hservice rounds hop hfits hfresh
    | remove key =>
      rw [hop] at hfits
      exact .bind_of (apimlStorageRemove_abides hservice rounds hop hfits hfresh)
        fun status s' hnoted => .ret fun s'' hrely _ => hnoted.rely hrely

/-- **The storage is a shared map.** In whatever order the calls take their steps, there is an order
of the calls, each of them once, in which a map answers as they do and is left as the service is;
all that have returned stand in it, and only calls that were made; and no set fails. -/
theorem shared_map (hservice : service.Documented lib)
    {pool : Pool apimlInterface ApimlWorld Client Outcome}
    (h : Pool.Reaches (apimlWorld service) (Begins lib) (apimlAllowed service) (.start store)
      pool) :
    (∃ log : List (Client × Outcome),
      Serial StorageOp.apply Client.op store log pool.world.store ∧ CallsOnce log ∧
      (∀ t outcome, pool.thread t = some (.ret outcome) → (t, outcome) ∈ log) ∧
      ∀ t outcome, (t, outcome) ∈ log → pool.thread t ≠ none) ∧
    ∀ id key value outcome,
      pool.thread ⟨id, .set key value⟩ = some (.ret outcome) → outcome = (.ok, none) := by
  have hstart : (ApimlWorld.start store).Inv store := ⟨rfl, List.nodup_nil⟩
  have habides : pool.Abides (apimlWorld service) (apimlAllowed service) (apimlProtocol store)
      (fun t outcome s => (t, outcome) ∈ s.log) :=
    Pool.reaches_abides (fun _ _ _ _ hfresh hbegins => begins_abides hservice hfresh hbegins) hstart
      (fun _ _ => List.not_mem_nil) h
  refine ⟨⟨pool.world.log, habides.inv.serial, habides.inv.once,
    fun t outcome ht => habides.returned ht,
    fun t outcome hlog hidle => habides.idle t hidle outcome hlog⟩, ?_⟩
  intro id key value outcome ht
  obtain ⟨before, hanswer⟩ := habides.inv.serial.answered (habides.returned ht)
  exact hanswer.symm

end

/-! ## A run of each kind -/

abbrev received (answer : CacheAnswer) : Int × Option HttpResponse := (0, some (plainWrite answer))

def setter : Client := ⟨0, .set ['k'] ['v']⟩

def otherSetter : Client := ⟨1, .set ['k'] ['w']⟩

def getter : Client := ⟨2, .get ['k']⟩

/-- A get and a set of a key that is there. -/
theorem shared_map_run : ∃ pool : Pool apimlInterface ApimlWorld Client Outcome,
    pool.thread setter = some (.ret (.ok, none)) ∧
    pool.thread getter = some (.ret (.ok, some ['o'])) ∧
    ∃ log, Serial StorageOp.apply Client.op
      (Function.update (fun _ => none) ['k'] (some ['o'])) log pool.world.store ∧
      (setter, .ok, none) ∈ log ∧ (getter, .ok, some ['o']) ∈ log := by
  have h : Pool.Reaches (apimlWorld plainService) (Begins plainLibrary)
      (apimlAllowed plainService)
      (.start (Function.update (fun _ => none) ['k'] (some ['o']))) _ := .refl
  have h := h.begin setter rfl (.call 1 trivial)
  have h := h.begin getter rfl (.call 1 (by decide))
  -- the body
  iterate 4 have h := h.advance setter rfl true ⟨rfl, trivial⟩ rfl
  have h := h.advance setter rfl [] ⟨trivial, rfl⟩ rfl
  iterate 3 have h := h.advance setter rfl (0 : Int) ⟨rfl, trivial⟩ rfl
  -- the get comes before the PUT, and returns after it
  iterate 3 have h := h.advance getter rfl (0 : Int) ⟨rfl, trivial⟩ rfl
  have h := h.advance getter rfl (0 : Int) ⟨rfl, nofun⟩ rfl
  have h := h.advance setter rfl (0 : Int) ⟨rfl, nofun⟩ rfl
  have h := h.advance setter rfl (received .done) ⟨rfl, trivial⟩ rfl
  have h := h.advance setter rfl true ⟨rfl, trivial⟩ rfl
  have h := h.advance setter rfl true ⟨rfl, trivial⟩ rfl
  have h := h.advance getter rfl (received (.entry ['k'] ['o'])) ⟨rfl, trivial⟩ rfl
  iterate 3 have h := h.advance getter rfl true ⟨rfl, trivial⟩ rfl
  obtain ⟨⟨log, hserial, _, hreturned, _⟩, _⟩ := shared_map plainService_documented h
  exact ⟨_, rfl, rfl, log, hserial, hreturned setter _ rfl, hreturned getter _ rfl⟩

/-- A set fails where another one comes between its PUT and its POST, and no map answers so. -/
theorem set_between_fails : ∃ pool : Pool apimlInterface ApimlWorld Client Outcome,
    Pool.Reaches (apimlWorld plainService) (Begins plainLibrary) (fun _ _ e => Healthy e)
      (.start fun _ => none) pool ∧
    pool.thread setter = some (.ret (.httpError, none)) ∧
    ∀ store log store', Serial StorageOp.apply Client.op store log store' →
      (setter, .httpError, none) ∉ log := by
  have h : Pool.Reaches (apimlWorld plainService) (Begins plainLibrary) (fun _ _ e => Healthy e)
      (.start fun _ => none) _ := .refl
  have h := h.begin setter rfl (.call 1 trivial)
  -- the PUT finds no key
  iterate 4 have h := h.advance setter rfl true rfl rfl
  have h := h.advance setter rfl [] trivial rfl
  iterate 4 have h := h.advance setter rfl (0 : Int) rfl rfl
  have h := h.advance setter rfl (received (.notFound ['k'])) rfl rfl
  have h := h.advance setter rfl true rfl rfl
  have h := h.advance setter rfl true rfl rfl
  -- the other set adds it
  have h := h.begin otherSetter rfl (.call 1 trivial)
  iterate 4 have h := h.advance otherSetter rfl true rfl rfl
  have h := h.advance otherSetter rfl [] trivial rfl
  iterate 4 have h := h.advance otherSetter rfl (0 : Int) rfl rfl
  have h := h.advance otherSetter rfl (received (.notFound ['k'])) rfl rfl
  iterate 6 have h := h.advance otherSetter rfl true rfl rfl
  have h := h.advance otherSetter rfl [] trivial rfl
  iterate 4 have h := h.advance otherSetter rfl (0 : Int) rfl rfl
  have h := h.advance otherSetter rfl (received .done) rfl rfl
  have h := h.advance otherSetter rfl true rfl rfl
  have h := h.advance otherSetter rfl true rfl rfl
  -- the POST is a conflict
  iterate 4 have h := h.advance setter rfl true rfl rfl
  have h := h.advance setter rfl [] trivial rfl
  iterate 4 have h := h.advance setter rfl (0 : Int) rfl rfl
  have h := h.advance setter rfl (received (.conflict ['k'])) rfl rfl
  have h := h.advance setter rfl true rfl rfl
  have h := h.advance setter rfl true rfl rfl
  refine ⟨_, h, rfl, fun store log store' hserial hmem => ?_⟩
  obtain ⟨before, hanswer⟩ := hserial.answered hmem
  cases hanswer

end Zss.Apiml
