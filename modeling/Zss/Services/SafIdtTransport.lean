import Mathlib.Data.List.TakeWhile
import Zss.Services.Auth
import Zss.Services.SafIdt
import Zss.Zis.Router

/-!
# The transport of a token

`zisGenerateOrValidateSafIdtWithAppl` of `client.c` puts a user, a password, an application and a token
into a parm list and calls the authorization service, whose `handleGenerateToken` gives the token's
buffer to the security product. The parm list comes back whole, and as many bytes of it as it says are
copied into the caller's buffer. `transported_iff` says when the caller then has what the security
product has put there.

The cross-memory call and the security product are not part of the repository (`World`); nor is the
length of a token, `ZIS_AUTH_SERVICE_SAFIDT_LENGTH`, which is twice a length of the product's headers.

## What is not established

That the token is good, and that it is the one of the user who asks.
-/

namespace Zss.Services.SafIdtTransport

open Zss.Services.Auth (Text SafAuthStatus StatusInfo rcCmsOk rcZisAuthsrvOk rcZisAuthsrvDeleteFailed
  rcZisAuthsrvCreateFailed rcZisAuthsrvSafAbended rcZisAuthsrvSafError)
open Zss.Services.SafIdt (Write)
open Zss.Zis (rcZisSrvcOk rcZisSrvcServiceFailed rcZisSrvcCmsFailed)

def rcZisAuthsrvBadEyecatcher : Int := 9
def rcZisAuthsrvInputStringTooLong : Int := 13
def rcZisAuthsrvBadSafServiceVersion : Int := 22

def zisSafIdtServiceCurrentVersion : Int := 1

/-! ## Data -/

def nul : Char := '\x00'

/-- A string: its characters, none of which ends it. -/
structure CString where
  chars : Text
  noNul : nul ∉ chars

def CString.strlen (s : CString) : Nat := s.chars.length

/-- The string at the beginning of storage. -/
def cString (storage : Text) : Text := storage.takeWhile (· ≠ nul)

/-- A field of so many bytes, with a text at its beginning and zeros behind it. -/
def field (size : Nat) (text : Text) : Text := (text ++ List.replicate size nul).take size

def userIdSize : Nat := 9
def passwordSize : Nat := 101
def applSize : Nat := 9

/-- `ZIS_AUTH_SERVICE_SAFIDT_OPTION_IDT_APPL`. -/
def optionIdtAppl : Nat := 0x40

structure SafIdtService where
  safIdtServiceVersion : Int
  safIdtLen : Int
  options : Nat
  safIdt : Text
  applNullTerm : Text

/-- `AuthServiceParmList`, without the fields of other functions. -/
structure AuthServiceParmList where
  eyecatcher : Text
  userIDNullTerm : Text
  passwordNullTerm : Text
  status : StatusInfo
  safIdtService : SafIdtService

def authServiceParmlistEyecatcher : Text := "RSCMPASS".toList

/-- `IDTA`: where the token is, how much room there is for it, and how long it is. -/
structure Idta where
  idtBuffer : Text
  idtBufferLen : Nat
  idtLen : Int

/-- The calls of other programs, in order. -/
inductive Call where
  | cmsCallService (parmList : AuthServiceParmList)
  | safVerifyCreate (userID password : Text) (appl : Option Text) (idta : Idta)
  | safVerifyDelete

/-- `ZISAuthServiceStatus`. -/
structure ZisAuthServiceStatus where
  cmsRC : Int
  serviceRC : Int
  info : Option StatusInfo

section

variable (safIdtLength : Nat)

/-- What the caller passes. The storage at `safIdt` is the caller's buffer, at least of the length that
is asked for, and there is a string in it. -/
structure Request where
  userName : CString
  password : CString
  appl : Option CString
  safIdt : Text
  status : ZisAuthServiceStatus
  long : safIdtLength + 1 ≤ safIdt.length
  terminated : nul ∈ safIdt

/-- What the security product does with an `IDTA`: it writes to its buffer and sets its length. -/
structure Created where
  status : SafAuthStatus
  idtBuffer : Text
  idtLen : Int
  length_eq : idtBuffer.length = safIdtLength

/-- A cross-memory call: it does not bring the parm list back and fails, or the service runs to its
end. -/
inductive Transfer where
  | failed (cmsRC : Int) (h : cmsRC ≠ rcCmsOk)
  | served (cmsRC : Int)

/-- The rest of the system, with what is behind the client's parm list. -/
structure World where
  transfer : Transfer
  created : Created safIdtLength
  deleted : SafAuthStatus
  behind : Nat → Char

variable {safIdtLength}

/-! ## The service -/

/-- What the service comes to: its code, the parm list that is copied back, and its calls. -/
structure Served where
  rc : Int
  parmList : AuthServiceParmList
  calls : List Call

def handleGenerateToken (world : World safIdtLength) (parmList : AuthServiceParmList) : Served :=
  let service := parmList.safIdtService
  if zisSafIdtServiceCurrentVersion < service.safIdtServiceVersion then
    ⟨rcZisAuthsrvBadSafServiceVersion, parmList, []⟩
  else
    let idta : Idta := ⟨service.safIdt, safIdtLength, service.safIdtLen⟩
    let appl := if service.options &&& optionIdtAppl ≠ 0 then some service.applNullTerm else none
    let create := Call.safVerifyCreate parmList.userIDNullTerm parmList.passwordNullTerm appl idta
    -- the buffer of the `IDTA` is that of the parm list
    let service := { service with safIdt := world.created.idtBuffer }
    let status := StatusInfo.safStatus world.created.status
    if world.created.status.safRC ≠ 0 then
      ⟨rcZisAuthsrvSafError, { parmList with status := status, safIdtService := service }, [create]⟩
    else
      let service := { service with safIdtLen := world.created.idtLen }
      ⟨if world.deleted.safRC ≠ 0 then rcZisAuthsrvDeleteFailed else rcZisAuthsrvOk,
        { parmList with status := status, safIdtService := service }, [create, .safVerifyDelete]⟩

/-- `zisAuthServiceFunction`, with the function code of a token. The parm list is copied in, and
copied back behind the handler. -/
def zisAuthServiceFunction (world : World safIdtLength) (parmList : AuthServiceParmList) : Served :=
  if parmList.eyecatcher ≠ authServiceParmlistEyecatcher then
    ⟨rcZisAuthsrvBadEyecatcher, parmList, []⟩
  else handleGenerateToken world parmList

/-! ## The client -/

/-- What `authRequest` comes to. -/
structure Requested where
  rc : Int
  status : ZisAuthServiceStatus
  parmList : AuthServiceParmList
  calls : List Call

/-- The codes of the service that come with a status. -/
def informs (serviceRC : Int) : Bool :=
  serviceRC == rcZisAuthsrvSafAbended || serviceRC == rcZisAuthsrvDeleteFailed ||
    serviceRC == rcZisAuthsrvCreateFailed || serviceRC == rcZisAuthsrvSafError

def authRequest (world : World safIdtLength) (parmList : AuthServiceParmList)
    (status : ZisAuthServiceStatus) : Requested :=
  match world.transfer with
  | .failed cmsRC _ =>
    ⟨rcZisSrvcCmsFailed, { status with cmsRC := cmsRC }, parmList, [.cmsCallService parmList]⟩
  | .served cmsRC =>
    let served := zisAuthServiceFunction world parmList
    let calls := .cmsCallService parmList :: served.calls
    if cmsRC ≠ rcCmsOk then
      ⟨rcZisSrvcCmsFailed, { status with cmsRC := cmsRC }, served.parmList, calls⟩
    else if served.rc ≠ rcZisAuthsrvOk then
      let info := if informs served.rc then some served.parmList.status else status.info
      ⟨rcZisSrvcServiceFailed, { status with serviceRC := served.rc, info := info },
        served.parmList, calls⟩
    else ⟨rcZisSrvcOk, status, served.parmList, calls⟩

/-- The application name, if there is one that is not empty. -/
def Request.applName (request : Request safIdtLength) : Option CString :=
  request.appl.filter fun appl => appl.strlen != 0

/-- The token that the caller has. -/
def Request.token (request : Request safIdtLength) : Text := cString request.safIdt

/-- The characters of the application's name in a parm list. -/
def Request.applChars (request : Request safIdtLength) : Text :=
  match request.applName with
  | none => []
  | some appl => appl.chars

/-- The parm list with all of a request in it. -/
def Request.filled (request : Request safIdtLength) : AuthServiceParmList where
  eyecatcher := authServiceParmlistEyecatcher
  userIDNullTerm := field userIdSize request.userName.chars
  passwordNullTerm := field passwordSize request.password.chars
  status := .safStatus ⟨0, 0, 0⟩
  safIdtService :=
    { safIdtServiceVersion := 1
      safIdtLen := request.token.length
      options := if request.applName.isSome then optionIdtAppl else 0
      safIdt := field safIdtLength request.token
      applNullTerm := field applSize request.applChars }

/-- The parm list of a request, if all of it fits. -/
def Request.parmList (request : Request safIdtLength) : Option AuthServiceParmList :=
  if userIdSize ≤ request.userName.strlen then none
  else if passwordSize ≤ request.password.strlen then none
  else if applSize ≤ request.applChars.length then none
  else if safIdtLength ≤ request.token.length then none
  else some request.filled

/-- The bytes from the token of a parm list on: the token's buffer, the application's name, and
whatever is behind the parm list. -/
def fromToken (world : World safIdtLength) (parmList : AuthServiceParmList) (i : Nat) : Char :=
  let service := parmList.safIdtService
  match (service.safIdt ++ service.applNullTerm)[i]? with
  | some c => c
  | none => world.behind (i - (safIdtLength + applSize))

/-- What the function comes to, with what it writes from `safIdt` on. -/
structure Outcome where
  rc : Int
  status : ZisAuthServiceStatus
  safIdt : Text
  writes : List Write
  calls : List Call

/-- The token of the parm list is copied back: the buffer is cleared, and as many bytes are copied as
the parm list has it. -/
def copyBack (world : World safIdtLength) (parmList : AuthServiceParmList) (safIdt : Text) :
    List Write × Text :=
  let safIdtLen := parmList.safIdtService.safIdtLen
  if 0 < safIdtLen then
    let cleared := List.replicate (safIdtLength + 1) nul ++ safIdt.drop (safIdtLength + 1)
    ([⟨safIdtLength + 1, 0, safIdtLength + 1⟩, ⟨safIdtLength + 1, 0, safIdtLen.toNat⟩],
      (List.range safIdtLen.toNat).map (fromToken world parmList) ++ cleared.drop safIdtLen.toNat)
  else ([], safIdt)

def zisGenerateOrValidateSafIdtWithAppl (request : Request safIdtLength)
    (world : World safIdtLength) : Outcome :=
  match request.parmList with
  | none =>
    ⟨rcZisSrvcServiceFailed, { request.status with serviceRC := rcZisAuthsrvInputStringTooLong },
      request.safIdt, [], []⟩
  | some parmList =>
    let requested := authRequest world parmList request.status
    let copied := copyBack world requested.parmList request.safIdt
    ⟨requested.rc, requested.status, copied.2, copied.1, requested.calls⟩

/-! ## What is to be transported -/

/-- All of the request fits into its fields. -/
def Request.Fits (request : Request safIdtLength) : Prop :=
  request.userName.strlen < userIdSize ∧ request.password.strlen < passwordSize ∧
    request.applChars.length < applSize ∧ request.token.length < safIdtLength

/-- The security product was asked. -/
def Call.asks : Call → Bool
  | .safVerifyCreate .. => true
  | _ => false

/-- **A token is transported.** -/
structure Transported (request : Request safIdtLength) (world : World safIdtLength)
    (outcome : Outcome) : Prop where
  inside : ∀ w ∈ outcome.writes, w.inside = true
  /-- A token that is longer than the buffer is in storage that is longer too. -/
  terminated : nul ∈ outcome.safIdt.take (max (safIdtLength + 1) (request.token.length + 1))
  succeeded : outcome.rc = rcZisSrvcOk → outcome.calls.any Call.asks = true ∧
    world.created.status.safRC = 0 ∧ .safVerifyDelete ∈ outcome.calls ∧ world.deleted.safRC = 0
  token : outcome.rc = rcZisSrvcOk →
    world.created.idtBuffer.take world.created.idtLen.toNat ++ [nul] <+: outcome.safIdt
  unchanged : outcome.calls.any Call.asks = false ∨
      world.created.status.safRC ≠ 0 ∧ world.created.idtBuffer = field safIdtLength request.token →
    cString outcome.safIdt = request.token
  refused : ¬ request.Fits → outcome.rc = rcZisSrvcServiceFailed ∧
    outcome.status.serviceRC = rcZisAuthsrvInputStringTooLong ∧ outcome.calls = []

/-- The service was asked and has a token. -/
def World.Given (world : World safIdtLength) : Prop :=
  (∃ cmsRC, world.transfer = .served cmsRC) ∧ world.created.status.safRC = 0

/-- The service succeeds. -/
def World.Succeeds (world : World safIdtLength) : Prop :=
  world.transfer = .served rcCmsOk ∧ world.created.status.safRC = 0 ∧ world.deleted.safRC = 0

/-- The length that the security product gives is one that the client can take over: at most that of
the buffer, or one more where a zero is there to end the string; and where nothing is copied on
success, the caller has no token either. -/
def Takeable (request : Request safIdtLength) (world : World safIdtLength) : Prop :=
  (world.created.idtLen ≤ safIdtLength ∨
    world.created.idtLen = safIdtLength + 1 ∧
      (request.applName = none ∨ ¬ world.Succeeds ∧ nul ∈ world.created.idtBuffer)) ∧
  (world.Succeeds → world.created.idtLen ≤ 0 → request.token = [])

variable {request : Request safIdtLength} {world : World safIdtLength}

/-! ## Strings and fields -/

theorem length_field (size : Nat) (text : Text) : (field size text).length = size := by
  rw [field, List.length_take, List.length_append, List.length_replicate]
  omega

theorem take_field {size : Nat} {text : Text} (h : text.length ≤ size) :
    (field size text).take text.length = text := by
  rw [field, List.take_take, Nat.min_eq_left h, List.take_left']
  rfl

/-- A string is followed by what ends it. -/
theorem cString_append {storage : Text} (h : nul ∈ storage) :
    ∃ rest, storage = cString storage ++ nul :: rest := by
  induction storage with
  | nil => cases h
  | cons c storage ih =>
    by_cases hc : c = nul
    · subst hc
      exact ⟨storage, rfl⟩
    · obtain ⟨rest, hrest⟩ := ih ((List.mem_cons.mp h).resolve_left fun heq => hc heq.symm)
      refine ⟨rest, ?_⟩
      rw [cString, List.takeWhile_cons, if_pos (decide_eq_true hc), List.cons_append]
      exact congrArg (c :: ·) hrest

theorem nul_not_mem_cString (storage : Text) : nul ∉ cString storage := by
  intro hmem
  have hne := List.mem_takeWhile_imp (p := fun c => decide (c ≠ nul)) hmem
  exact of_decide_eq_true hne rfl

theorem cString_of_append {text rest : Text} (h : nul ∉ text) : cString (text ++ nul :: rest) = text := by
  rw [cString, List.takeWhile_append_of_pos, List.takeWhile_cons_of_neg, List.append_nil]
  · exact fun hnul => of_decide_eq_true hnul rfl
  · exact fun c hc => decide_eq_true fun heq => h (heq ▸ hc)

/-! ## What is copied back -/

/-- The fields of a parm list that are copied back are as long as they are to be. -/
structure SafIdtService.Sized (safIdtLength : Nat) (service : SafIdtService) : Prop where
  safIdt : service.safIdt.length = safIdtLength
  applNullTerm : service.applNullTerm.length = applSize

section

variable {parmList : AuthServiceParmList} {safIdt : Text}

theorem copyBack_none (h : parmList.safIdtService.safIdtLen ≤ 0) :
    copyBack world parmList safIdt = ([], safIdt) :=
  if_neg (Int.not_lt.mpr h)

/-- So many bytes of the parm list, and what is behind them in the cleared buffer. -/
theorem copyBack_some {n : Nat} (h : parmList.safIdtService.safIdtLen = n) (hpos : 0 < n) :
    copyBack world parmList safIdt =
      ([⟨safIdtLength + 1, 0, safIdtLength + 1⟩, ⟨safIdtLength + 1, 0, n⟩],
        (List.range n).map (fromToken world parmList) ++
          (List.replicate (safIdtLength + 1) nul ++ safIdt.drop (safIdtLength + 1)).drop n) := by
  rw [copyBack, h]
  exact if_pos (Int.natCast_pos.mpr hpos)

/-- Bytes of the parm list itself. -/
theorem map_fromToken (world : World safIdtLength) (parmList : AuthServiceParmList) {n : Nat}
    (h : n ≤ (parmList.safIdtService.safIdt ++
      parmList.safIdtService.applNullTerm).length) :
    (List.range n).map (fromToken world parmList) =
      (parmList.safIdtService.safIdt ++ parmList.safIdtService.applNullTerm).take n := by
  apply List.ext_getElem
  · rw [List.length_map, List.length_range, List.length_take, Nat.min_eq_left h]
  · intro i hi hi'
    rw [List.length_map, List.length_range] at hi
    rw [List.getElem_map, List.getElem_range, List.getElem_take, fromToken]
    simp only [List.getElem?_eq_getElem (Nat.lt_of_lt_of_le hi h)]

variable (sized : parmList.safIdtService.Sized safIdtLength)
include sized

/-- A length that the token's buffer has: the token arrives with zeros behind it. -/
theorem copyBack_fits (world : World safIdtLength) (safIdt : Text) {n : Nat}
    (h : parmList.safIdtService.safIdtLen = n) (hpos : 0 < n)
    (hle : n ≤ safIdtLength) : ∃ rest, copyBack world parmList safIdt =
      ([⟨safIdtLength + 1, 0, safIdtLength + 1⟩, ⟨safIdtLength + 1, 0, n⟩],
        parmList.safIdtService.safIdt.take n ++ nul :: rest) := by
  have hinside : n ≤ parmList.safIdtService.safIdt.length := sized.safIdt.symm ▸ hle
  have hbytes := map_fromToken world parmList (Nat.le_trans hinside
    (List.length_append ▸ Nat.le_add_right _ parmList.safIdtService.applNullTerm.length))
  obtain ⟨k, hk⟩ := Nat.exists_eq_add_of_le hle
  refine ⟨List.replicate k nul ++ safIdt.drop (safIdtLength + 1), ?_⟩
  rw [copyBack_some h hpos, hbytes, List.take_append_of_le_length hinside,
    List.drop_append_of_le_length (by rw [List.length_replicate]; omega), List.drop_replicate,
    show safIdtLength + 1 - n = k + 1 by omega, List.replicate_succ, List.cons_append]

/-- One byte more: the first of the application's name ends up where the string is to end. -/
theorem copyBack_one_more (world : World safIdtLength) (safIdt : Text)
    (h : parmList.safIdtService.safIdtLen = (safIdtLength + 1 : Nat)) :
    copyBack world parmList safIdt =
      ([⟨safIdtLength + 1, 0, safIdtLength + 1⟩, ⟨safIdtLength + 1, 0, safIdtLength + 1⟩],
        parmList.safIdtService.safIdt ++ parmList.safIdtService.applNullTerm.take 1 ++
          safIdt.drop (safIdtLength + 1)) := by
  have hbytes := map_fromToken world parmList (n := safIdtLength + 1) (by
    rw [List.length_append, sized.safIdt, sized.applNullTerm]
    exact Nat.add_le_add_left (by decide) _)
  rw [copyBack_some h (Nat.succ_pos _), hbytes, ← sized.safIdt, List.take_length_add_append,
    List.drop_append_of_le_length (Nat.le_of_eq List.length_replicate.symm), List.drop_replicate,
    Nat.sub_self]
  rfl

end

/-- What is cleared and what is copied, with a length that there is room for. -/
theorem written_inside {n : Nat} (h : n ≤ safIdtLength + 1) :
    ∀ w ∈ [Write.mk (safIdtLength + 1) 0 (safIdtLength + 1), Write.mk (safIdtLength + 1) 0 n],
      w.inside = true := by
  rw [List.forall_mem_cons, List.forall_mem_singleton]
  exact ⟨decide_eq_true (Nat.le_of_eq (Nat.zero_add _)), decide_eq_true (by rwa [Nat.zero_add])⟩

theorem take_one_more {text : Text} {size : Nat} (h : text.length = size) (a : Char) (rest : Text) :
    (text ++ a :: rest).take (size + 1) = text ++ [a] := by
  subst h
  rw [List.take_length_add_append]
  rfl

/-- Storage with a string and a zero in its first bytes. -/
theorem nul_mem_take {text rest : Text} {size : Nat} (h : text.length < size) :
    nul ∈ (text ++ nul :: rest).take size := by
  rw [List.take_append, List.take_of_length_le (Nat.le_of_lt h)]
  obtain ⟨k, hk⟩ := Nat.exists_eq_add_of_lt h
  rw [show size - text.length = k + 1 by omega, List.take_succ_cons]
  exact List.mem_append_right _ List.mem_cons_self

/-- With the length of the caller's own token, a string arrives; the token itself, if it is still
there. -/
theorem copyBack_own (world : World safIdtLength) (hfits : request.Fits) {parmList : AuthServiceParmList}
    (sized : parmList.safIdtService.Sized safIdtLength)
    (hlen : parmList.safIdtService.safIdtLen = request.token.length) :
    (∀ w ∈ (copyBack world parmList request.safIdt).1, w.inside = true) ∧
      nul ∈ (copyBack world parmList request.safIdt).2.take (safIdtLength + 1) ∧
      (parmList.safIdtService.safIdt = field safIdtLength request.token →
        cString (copyBack world parmList request.safIdt).2 = request.token) := by
  have hshort : request.token.length < safIdtLength := hfits.2.2.2
  rcases Nat.eq_zero_or_pos request.token.length with hzero | hpos
  · obtain ⟨rest, hrest⟩ := cString_append request.terminated
    rw [copyBack_none (by rw [hlen, hzero]; rfl)]
    refine ⟨fun w hw => absurd hw List.not_mem_nil, ?_, fun _ => rfl⟩
    rw [hrest]
    exact nul_mem_take (Nat.lt_succ_of_lt hshort)
  · obtain ⟨rest, hcopied⟩ := copyBack_fits sized world request.safIdt hlen
      hpos (Nat.le_of_lt hshort)
    rw [hcopied]
    refine ⟨written_inside (by omega), ?_, fun hkept => ?_⟩
    · have hle := List.length_take_le request.token.length parmList.safIdtService.safIdt
      exact nul_mem_take (by omega)
    · rw [hkept, take_field (Nat.le_of_lt hshort)]
      exact cString_of_append (nul_not_mem_cString _)

/-! ## The call -/

theorem sized_filled (request : Request safIdtLength) :
    request.filled.safIdtService.Sized safIdtLength :=
  ⟨length_field _ _, length_field _ _⟩

theorem parmList_of_fits (h : request.Fits) : request.parmList = some request.filled := by
  obtain ⟨huser, hpassword, happl, htoken⟩ := h
  rw [Request.parmList, if_neg (Nat.not_le_of_lt huser), if_neg (Nat.not_le_of_lt hpassword),
    if_neg (Nat.not_le_of_lt happl), if_neg (Nat.not_le_of_lt htoken)]

theorem parmList_of_not_fits (h : ¬ request.Fits) : request.parmList = none := by
  rw [Request.parmList]
  split
  next => rfl
  next huser =>
    split
    next => rfl
    next hpassword =>
      split
      next => rfl
      next happl =>
        rw [if_pos]
        apply Nat.le_of_not_lt
        intro htoken
        exact h ⟨Nat.lt_of_not_le huser, Nat.lt_of_not_le hpassword, Nat.lt_of_not_le happl, htoken⟩

theorem handled_filled (world : World safIdtLength) (request : Request safIdtLength) :
    zisAuthServiceFunction world request.filled = handleGenerateToken world request.filled :=
  if_neg (not_not_intro rfl)

/-- The service, where the security product gives no token. -/
theorem served_refused (request : Request safIdtLength) (h : world.created.status.safRC ≠ 0) :
    ∃ parmList create, zisAuthServiceFunction world request.filled =
        ⟨rcZisAuthsrvSafError, parmList, [create]⟩ ∧ create.asks = true ∧
      parmList.safIdtService =
        { request.filled.safIdtService with safIdt := world.created.idtBuffer } := by
  have hversion : ¬ zisSafIdtServiceCurrentVersion <
      request.filled.safIdtService.safIdtServiceVersion := Int.lt_irrefl 1
  rw [handled_filled, handleGenerateToken]
  simp only [if_neg hversion, if_pos h]
  exact ⟨_, _, rfl, rfl, rfl⟩

/-- The service, where it has a token. -/
theorem served_created (request : Request safIdtLength) (h : world.created.status.safRC = 0) :
    ∃ parmList create, zisAuthServiceFunction world request.filled =
        ⟨if world.deleted.safRC ≠ 0 then rcZisAuthsrvDeleteFailed else rcZisAuthsrvOk, parmList,
          [create, .safVerifyDelete]⟩ ∧ create.asks = true ∧
      parmList.safIdtService =
        { request.filled.safIdtService with
          safIdt := world.created.idtBuffer
          safIdtLen := world.created.idtLen } := by
  have hversion : ¬ zisSafIdtServiceCurrentVersion <
      request.filled.safIdtService.safIdtServiceVersion := Int.lt_irrefl 1
  have hcreated : ¬ world.created.status.safRC ≠ 0 := not_not_intro h
  rw [handled_filled, handleGenerateToken]
  simp only [if_neg hversion, if_neg hcreated]
  exact ⟨_, _, rfl, rfl, rfl⟩

theorem requested_served {cmsRC : Int} (h : world.transfer = .served cmsRC)
    {parmList : AuthServiceParmList} {served : Served}
    (hserved : zisAuthServiceFunction world parmList = served) (status : ZisAuthServiceStatus) :
    (authRequest world parmList status).parmList = served.parmList ∧
      (authRequest world parmList status).calls = .cmsCallService parmList :: served.calls ∧
      ((authRequest world parmList status).rc = rcZisSrvcOk ↔
        cmsRC = rcCmsOk ∧ served.rc = rcZisAuthsrvOk) := by
  rw [authRequest, h]
  simp only [hserved]
  split
  next hcms =>
    refine ⟨rfl, rfl, fun hrc => ?_, fun hok => absurd hok.1 hcms⟩
    cases hrc
  next hcms =>
    split
    next hrc => exact ⟨rfl, rfl, nofun, fun hok => absurd hok.2 hrc⟩
    next hrc => exact ⟨rfl, rfl, fun _ => ⟨not_not.mp hcms, not_not.mp hrc⟩, fun _ => rfl⟩

theorem outcome_of_fits (h : request.Fits) : zisGenerateOrValidateSafIdtWithAppl request world =
    let requested := authRequest world request.filled request.status
    let copied := copyBack world requested.parmList request.safIdt
    ⟨requested.rc, requested.status, copied.2, copied.1, requested.calls⟩ := by
  rw [zisGenerateOrValidateSafIdtWithAppl, parmList_of_fits h]

/-! ## Without a token of the service -/

/-- What does not fit is refused before anything is called. -/
theorem transported_refused (world : World safIdtLength) (h : ¬ request.Fits) :
    Transported request world (zisGenerateOrValidateSafIdtWithAppl request world) := by
  rw [zisGenerateOrValidateSafIdtWithAppl, parmList_of_not_fits h]
  refine ⟨fun w hw => absurd hw List.not_mem_nil, ?_, nofun, nofun, fun _ => rfl,
    fun _ => ⟨rfl, rfl, rfl⟩⟩
  obtain ⟨rest, hrest⟩ := cString_append request.terminated
  change nul ∈ request.safIdt.take _
  rw [hrest]
  exact nul_mem_take (Nat.lt_of_lt_of_le (Nat.lt_succ_self _) (Nat.le_max_right _ _))

/-- A parm list with the length of the caller's own token comes back. -/
theorem transported_own (hfits : request.Fits) {parmList : AuthServiceParmList}
    (sized : parmList.safIdtService.Sized safIdtLength)
    (hlen : parmList.safIdtService.safIdtLen = request.token.length) {rc : Int}
    (hrc : rc ≠ rcZisSrvcOk) {calls : List Call}
    (hkept : calls.any Call.asks = false ∨
        world.created.status.safRC ≠ 0 ∧
          world.created.idtBuffer = field safIdtLength request.token →
      parmList.safIdtService.safIdt = field safIdtLength request.token)
    (status : ZisAuthServiceStatus) :
    Transported request world ⟨rc, status, (copyBack world parmList request.safIdt).2,
      (copyBack world parmList request.safIdt).1, calls⟩ := by
  obtain ⟨hinside, hterminated, htoken⟩ := copyBack_own world hfits sized hlen
  have hmax : max (safIdtLength + 1) (request.token.length + 1) = safIdtLength + 1 :=
    Nat.max_eq_left (Nat.succ_le_succ (Nat.le_of_lt hfits.2.2.2))
  refine ⟨hinside, ?_, fun hok => absurd hok hrc, fun hok => absurd hok hrc,
    fun h => htoken (hkept h), fun hnot => absurd hfits hnot⟩
  rw [hmax]
  exact hterminated

theorem transported_of_not_given (hfits : request.Fits) (hnot : ¬ world.Given) :
    Transported request world (zisGenerateOrValidateSafIdtWithAppl request world) := by
  rw [outcome_of_fits hfits]
  cases htransfer : world.transfer with
  | failed cmsRC hne =>
    have hrc : rcZisSrvcCmsFailed ≠ rcZisSrvcOk := by decide
    rw [authRequest, htransfer]
    exact transported_own hfits (sized_filled request) rfl hrc (fun _ => rfl) _
  | served cmsRC =>
    have hrefused : world.created.status.safRC ≠ 0 := fun h => hnot ⟨⟨cmsRC, htransfer⟩, h⟩
    obtain ⟨parmList, create, hserved, hasks, hservice⟩ := served_refused request hrefused
    obtain ⟨hparm, hcalls, hrc⟩ := requested_served htransfer hserved request.status
    simp only [hparm, hcalls]
    refine transported_own hfits ?_ ?_ ?_ ?_ _
    · rw [hservice]
      exact ⟨world.created.length_eq, length_field _ _⟩
    · rw [hservice]
      rfl
    · have herror : rcZisAuthsrvSafError ≠ rcZisAuthsrvOk := by decide
      exact fun hok => herror (hrc.mp hok).2
    · rintro (hsilent | ⟨_, hkept⟩)
      · rw [List.any_cons, List.any_cons, hasks] at hsilent
        cases hsilent
      · rw [hservice]
        exact hkept

/-! ## With a token of the service -/

/-- The application's name has a zero for its first byte if there is none. -/
theorem applField_head (request : Request safIdtLength) :
    ∃ a rest, field applSize request.applChars = a :: rest ∧
      (a = nul ↔ request.applName = none) := by
  cases happl : request.applName with
  | none =>
    refine ⟨nul, List.replicate 8 nul, ?_, fun _ => rfl, fun _ => rfl⟩
    rw [Request.applChars, happl]
    rfl
  | some appl =>
    have hne : appl.strlen ≠ 0 := by
      have hfilter := Option.filter_eq_some_iff.mp happl
      simpa using hfilter.2
    obtain ⟨chars, noNul⟩ := appl
    cases chars with
    | nil => exact absurd rfl hne
    | cons c chars =>
      refine ⟨c, (chars ++ List.replicate applSize nul).take 8, ?_,
      fun hc => absurd (hc ▸ List.mem_cons_self) noNul, nofun⟩
      rw [Request.applChars, happl]
      rfl

/-- The parm list that comes back with a token of the service. -/
structure Returned (request : Request safIdtLength) (world : World safIdtLength)
    (parmList : AuthServiceParmList) : Prop where
  safIdtLen : parmList.safIdtService.safIdtLen = world.created.idtLen
  safIdt : parmList.safIdtService.safIdt = world.created.idtBuffer
  applNullTerm : parmList.safIdtService.applNullTerm = field applSize request.applChars

/-- What is to hold of the caller's storage then. -/
structure Handed (request : Request safIdtLength) (world : World safIdtLength)
    (copied : List Write × Text) : Prop where
  inside : ∀ w ∈ copied.1, w.inside = true
  terminated : nul ∈ copied.2.take (safIdtLength + 1)
  token : world.Succeeds →
    world.created.idtBuffer.take world.created.idtLen.toNat ++ [nul] <+: copied.2

theorem transported_given (hfits : request.Fits) (hgiven : world.Given) :
    ∃ parmList, Returned request world parmList ∧
      (Transported request world (zisGenerateOrValidateSafIdtWithAppl request world) ↔
        Handed request world (copyBack world parmList request.safIdt)) := by
  obtain ⟨⟨cmsRC, htransfer⟩, hcreated⟩ := hgiven
  obtain ⟨parmList, create, hserved, hasks, hservice⟩ := served_created request hcreated
  obtain ⟨hparm, hcalls, hrc⟩ := requested_served htransfer hserved request.status
  have hmax : max (safIdtLength + 1) (request.token.length + 1) = safIdtLength + 1 :=
    Nat.max_eq_left (Nat.succ_le_succ (Nat.le_of_lt hfits.2.2.2))
  have hsucceeds : (authRequest world request.filled request.status).rc = rcZisSrvcOk ↔
      world.Succeeds := by
    rw [hrc, World.Succeeds, htransfer]
    by_cases hdeleted : world.deleted.safRC = 0
    · simp only [hcreated, hdeleted, ne_eq, not_true_eq_false, if_false, and_true,
        Transfer.served.injEq]
    · have herror : rcZisAuthsrvDeleteFailed ≠ rcZisAuthsrvOk := by decide
      simp only [hdeleted, ne_eq, not_false_eq_true, if_true, herror, and_false]
  refine ⟨parmList, ⟨by rw [hservice], by rw [hservice], by rw [hservice]; rfl⟩, ?_⟩
  rw [outcome_of_fits hfits]
  simp only [hparm, hcalls]
  constructor
  · intro transported
    refine ⟨transported.inside, ?_, fun h => transported.token (hsucceeds.mpr h)⟩
    rw [← hmax]
    exact transported.terminated
  · rintro ⟨hinside, hterminated, htoken⟩
    refine ⟨hinside, ?_, fun hok => ?_, fun hok => htoken (hsucceeds.mp hok), ?_,
      fun hnot => absurd hfits hnot⟩
    · rw [hmax]
      exact hterminated
    · refine ⟨?_, hcreated, ?_, (hsucceeds.mp hok).2.2⟩
      · rw [List.any_cons, List.any_cons, hasks]
        rfl
      · exact List.mem_cons_of_mem _ (List.mem_cons_of_mem _ List.mem_cons_self)
    · rintro (hsilent | ⟨hrefused, _⟩)
      · rw [List.any_cons, List.any_cons, hasks] at hsilent
        cases hsilent
      · exact absurd hcreated hrefused

section

variable {parmList : AuthServiceParmList} (returned : Returned request world parmList)
include returned

theorem Returned.sized : parmList.safIdtService.Sized safIdtLength where
  safIdt := returned.safIdt ▸ world.created.length_eq
  applNullTerm := returned.applNullTerm ▸ length_field _ _

/-- Nothing is copied: the caller's token stays. -/
theorem handed_none (hfits : request.Fits) (h : world.created.idtLen ≤ 0) :
    Handed request world (copyBack world parmList request.safIdt) ↔ Takeable request world := by
  obtain ⟨rest, hrest⟩ := cString_append request.terminated
  have hnone : world.created.idtLen.toNat = 0 := Int.toNat_of_nonpos h
  have hle : world.created.idtLen ≤ safIdtLength := Int.le_trans h (Int.natCast_nonneg _)
  rw [copyBack_none (returned.safIdtLen ▸ h)]
  constructor
  · intro handed
    refine ⟨.inl hle, fun hsucceeds _ => ?_⟩
    have hprefix := handed.token hsucceeds
    rw [hnone, List.take_zero, List.nil_append] at hprefix
    obtain ⟨tail, htail⟩ := hprefix
    have hempty : cString ([nul] ++ tail) = [] := rfl
    rw [htail] at hempty
    exact hempty
  · rintro ⟨_, htoken⟩
    refine ⟨fun w hw => absurd hw List.not_mem_nil, ?_, fun hsucceeds => ?_⟩
    · change nul ∈ request.safIdt.take _
      rw [hrest]
      exact nul_mem_take (Nat.lt_succ_of_lt hfits.2.2.2)
    · have hempty : cString request.safIdt = [] := htoken hsucceeds h
      change _ <+: request.safIdt
      rw [hrest, hempty, hnone]
      exact ⟨rest, rfl⟩

variable {n : Nat} (hn : world.created.idtLen = n)
include hn

theorem handed_fits (hpos : 0 < n) (hle : n ≤ safIdtLength) :
    Handed request world (copyBack world parmList request.safIdt) ↔ Takeable request world := by
  obtain ⟨rest, hcopied⟩ := copyBack_fits returned.sized world request.safIdt
    (returned.safIdtLen.trans hn) hpos hle
  rw [hcopied, returned.safIdt]
  refine iff_of_true ⟨written_inside (by omega), ?_, fun _ => ?_⟩
    ⟨.inl (by omega), fun _ hnone => by omega⟩
  · have hshort := List.length_take_le n world.created.idtBuffer
    exact nul_mem_take (by omega)
  · rw [hn]
    exact ⟨rest, by rw [List.append_assoc]; rfl⟩

theorem handed_one_more (hlen : n = safIdtLength + 1) :
    Handed request world (copyBack world parmList request.safIdt) ↔ Takeable request world := by
  subst hlen
  obtain ⟨a, appl, happl, hzero⟩ := applField_head request
  have hlength := world.created.length_eq
  have hcopied := copyBack_one_more returned.sized world request.safIdt
    (returned.safIdtLen.trans hn)
  have hall : world.created.idtBuffer.take world.created.idtLen.toNat = world.created.idtBuffer := by
    rw [hn]
    exact List.take_of_length_le (Nat.le_trans (Nat.le_of_eq hlength) (Nat.le_succ _))
  have hbuffer : ∀ rest : Text, (world.created.idtBuffer ++ a :: rest).take (safIdtLength + 1) =
      world.created.idtBuffer ++ [a] := fun rest => take_one_more hlength a rest
  rw [hcopied, returned.safIdt, returned.applNullTerm, happl, List.append_assoc]
  constructor
  · rintro ⟨hinside, hterminated, htoken⟩
    refine ⟨.inr ⟨hn, ?_⟩, fun _ hnone => by omega⟩
    by_cases ha : a = nul
    · exact .inl (hzero.mp ha)
    · change nul ∈ (world.created.idtBuffer ++ a :: request.safIdt.drop _).take _ at hterminated
      rw [hbuffer, List.mem_append, List.mem_singleton] at hterminated
      refine .inr ⟨fun hsucceeds => ?_, hterminated.resolve_right fun heq => ha heq.symm⟩
      have hprefix := htoken hsucceeds
      rw [hall, List.prefix_append_right_inj, List.take_succ_cons] at hprefix
      exact ha (List.cons_prefix_cons.mp hprefix).1.symm
  · rintro ⟨hle | ⟨_, hone⟩, _⟩
    · omega
    · refine ⟨written_inside (Nat.le_refl _), ?_, fun hsucceeds => ?_⟩
      · change nul ∈ (world.created.idtBuffer ++ a :: request.safIdt.drop _).take _
        rw [hbuffer, List.mem_append, List.mem_singleton]
        rcases hone with hname | ⟨_, hnul⟩
        · exact .inr (hzero.mpr hname).symm
        · exact .inl hnul
      · have ha : a = nul := hzero.mpr (hone.resolve_right fun h => h.1 hsucceeds)
        rw [hall, List.prefix_append_right_inj, ha]
        exact ⟨_, rfl⟩

theorem handed_beyond (hgt : safIdtLength + 1 < n) :
    Handed request world (copyBack world parmList request.safIdt) ↔ Takeable request world := by
  rw [copyBack_some (returned.safIdtLen.trans hn) (by omega)]
  refine iff_of_false ?_ ?_
  · intro handed
    have hinside : 0 + n ≤ safIdtLength + 1 := of_decide_eq_true
      (handed.inside _ (List.mem_cons_of_mem _ List.mem_cons_self))
    omega
  · rintro ⟨hle | ⟨heq, _⟩, _⟩ <;> omega

end

theorem transported_given_iff (hfits : request.Fits) (hgiven : world.Given) :
    Transported request world (zisGenerateOrValidateSafIdtWithAppl request world) ↔
      Takeable request world := by
  obtain ⟨parmList, returned, hiff⟩ := transported_given hfits hgiven
  rw [hiff]
  rcases Int.lt_or_le 0 world.created.idtLen with hpos | hnone
  · obtain ⟨n, hn⟩ := Int.eq_ofNat_of_zero_le (Int.le_of_lt hpos)
    rcases Nat.lt_trichotomy n (safIdtLength + 1) with hlt | hone | hgt
    · exact handed_fits returned hn (by omega) (Nat.le_of_lt_succ hlt)
    · exact handed_one_more returned hn hone
    · exact handed_beyond returned hn hgt
  · exact handed_none returned hfits hnone

/-- **A token is transported** whenever the length that the security product gives for it is one that
the client can take over. -/
theorem transported_iff (request : Request safIdtLength) (world : World safIdtLength) :
    Transported request world (zisGenerateOrValidateSafIdtWithAppl request world) ↔
      (request.Fits → world.Given → Takeable request world) := by
  by_cases hfits : request.Fits
  · by_cases hgiven : world.Given
    · rw [transported_given_iff hfits hgiven]
      exact ⟨fun h _ _ => h, fun h => h hfits hgiven⟩
    · exact ⟨fun _ _ h => absurd h hgiven, fun _ => transported_of_not_given hfits hgiven⟩
  · exact ⟨fun _ h => absurd h hfits, fun _ => transported_refused world hfits⟩

end

/-! ## A length beyond the buffer -/

/-- A request for a token, with a buffer for one of 2048 bytes. -/
def user1Request : Request 2048 where
  userName := ⟨"USER1".toList, by decide⟩
  password := ⟨"PASSWORD".toList, by decide⟩
  appl := none
  safIdt := List.replicate 2049 nul
  status := ⟨0, 0, none⟩
  long := Nat.le_of_eq List.length_replicate.symm
  terminated := List.mem_replicate.mpr ⟨by decide, rfl⟩

/-- The security product succeeds, with 3000 for the token's length. -/
def longTokenWorld : World 2048 where
  transfer := .served rcCmsOk
  created := ⟨⟨0, 0, 0⟩, List.replicate 2048 'T', 3000, List.length_replicate⟩
  deleted := ⟨0, 0, 0⟩
  behind := fun _ => 'x'

theorem longToken_not_transported : ¬ Transported user1Request longTokenWorld
    (zisGenerateOrValidateSafIdtWithAppl user1Request longTokenWorld) := by
  have hfits : user1Request.Fits := ⟨by decide, by decide, by decide, by decide⟩
  rw [transported_given_iff hfits ⟨⟨rcCmsOk, rfl⟩, rfl⟩]
  rintro ⟨hle | ⟨heq, _⟩, _⟩
  · exact absurd hle (by decide)
  · exact absurd heq (by decide)

end Zss.Services.SafIdtTransport
