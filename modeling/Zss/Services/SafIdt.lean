import Mathlib.Data.List.Basic
import Zss.Lib.Json

/-!
# The user name of a token

`extractUsernameFromJwt` of `safIdtService.c` looks for the payload of a JSON web token, puts the
padding back that a token leaves out, decodes it and takes the claim `sub` for the user name. The two
buffers for the payload are as long as the payload and one or two bytes more. What is written is
noted with the buffer it is written to; `username_extracted_iff` says when it all stays inside and the
name is the claim.

The Base64 decoder, the conversion to the machine's characters and the JSON parser are not part of the
repository. The pointer to the object of a payload that is none gives no string.

## What is not established

That a token is genuine: its signature is nobody's concern here.
-/

namespace Zss.Services.SafIdt

open Zss.Lib

/-- Bytes written from an offset on in a buffer of some size. -/
structure Write where
  size : Nat
  offset : Nat
  length : Nat
deriving DecidableEq

def Write.inside (w : Write) : Bool := w.offset + w.length ≤ w.size

/-- What the function writes, and the string that is then in `username`. -/
structure Extraction where
  writes : List Write
  username : List Char

/-- `sizeof(username)` of the caller. -/
def usernameSize : Nat := 9

/-- The string from the first such character on. -/
def strchr (c : Char) : List Char → Option (List Char)
  | [] => none
  | x :: text => if x = c then some (x :: text) else strchr c text

/-- The payload between the first two dots: `payLoadLength` characters from `startPayload` on. -/
def locatePayload (jwt : List Char) : Option (List Char) := do
  let startPayload ← (strchr '.' jwt).map List.tail
  let endPayload ← strchr '.' startPayload
  return startPayload.take (startPayload.length - endPayload.length)

/-- The characters that a token leaves out. -/
def base64Padding (payLoadLength : Nat) : List Char :=
  if payLoadLength % 4 = 3 then ['=']
  else if payLoadLength % 4 = 2 then ['=', '=']
  else []

/-- `allocateLength`, which is to count the terminating character and the padding. -/
def allocateLength (payLoadLength : Nat) : Nat :=
  if payLoadLength % 4 = 3 then payLoadLength + 1
  else if payLoadLength % 4 = 2 then payLoadLength + 2
  else payLoadLength + 1

/-- What the decoder has written when it comes back, with success or not. -/
def written {α : Type} : Except α α → α
  | .ok decoded => decoded
  | .error decoded => decoded

/-- The buffers are cleared, the payload is copied and padded, and then decoded. -/
def payloadWrites (payload decoded : List Char) : List Write :=
  let size := allocateLength payload.length
  [⟨size, 0, size⟩, ⟨size, 0, size⟩, ⟨size, 0, payload.length⟩,
    -- `strcat` ends the string behind the padding
    ⟨size, payload.length, (base64Padding payload.length).length + 1⟩, ⟨size, 0, decoded.length⟩]

section

variable (decodeBase64 : List Char → Except (List Char) (List Char)) (a2e : Char → Char)
  (jsonParseUnterminatedString : List Char → Option Json)

/-- The claim `sub` of a payload that was decoded. -/
def subClaim (decodedPayload : List Char) : Option (List Char) := do
  let payload ← jsonParseUnterminatedString (decodedPayload.map a2e)
  (payload.asObject.getD []).getString "sub"

/-- `username` starts with the empty string that the caller has put there. -/
def extractUsernameFromJwt (jwt : List Char) : Extraction :=
  match locatePayload jwt with
  | none => ⟨[], []⟩
  | some payload =>
    let decoded := decodeBase64 (payload ++ base64Padding payload.length)
    let writes := payloadWrites payload (written decoded)
    match decoded with
    | .error _ => ⟨writes, []⟩
    | .ok decodedPayload =>
      let writes := writes ++ [⟨allocateLength payload.length, 0, decodedPayload.length⟩]
      match subClaim a2e jsonParseUnterminatedString decodedPayload with
      | none => ⟨writes, []⟩
      | some sub =>
        if sub.length = 0 then ⟨writes, []⟩
        else if sub.length ≤ 8 then ⟨writes ++ [⟨usernameSize, 0, sub.length + 1⟩], sub⟩
        else ⟨writes, []⟩

/-! ## What the name is to be -/

/-- The token has the payload between its first two dots. -/
def HasPayload (jwt payload : List Char) : Prop :=
  ∃ header rest, jwt = header ++ '.' :: (payload ++ '.' :: rest) ∧ '.' ∉ header ∧ '.' ∉ payload

/-- The payload decodes to an object with such a string for its claim `sub`. -/
def HasSub (payload sub : List Char) : Prop :=
  ∃ decodedPayload properties,
    decodeBase64 (payload ++ base64Padding payload.length) = .ok decodedPayload ∧
    jsonParseUnterminatedString (decodedPayload.map a2e) = some (.object properties) ∧
    Json.Properties.value properties "sub" = some (.string sub)

/-- The claim of a token that a user name has room for. -/
def IsClaim (jwt sub : List Char) : Prop :=
  (∃ payload, HasPayload jwt payload ∧
    HasSub decodeBase64 a2e jsonParseUnterminatedString payload sub) ∧
  1 ≤ sub.length ∧ sub.length ≤ 8

/-- The name that is set is the claim, and none is set where there is no such claim. -/
def NamesClaim (jwt username : List Char) : Prop :=
  (username ≠ [] ↔ ∃ sub, IsClaim decodeBase64 a2e jsonParseUnterminatedString jwt sub) ∧
  ∀ sub, IsClaim decodeBase64 a2e jsonParseUnterminatedString jwt sub → username = sub

end

/-! ## The payload -/

theorem strchr_eq_some {c : Char} {text rest : List Char} (h : strchr c text = some rest) :
    ∃ before tail, rest = c :: tail ∧ text = before ++ c :: tail ∧ c ∉ before := by
  induction text with
  | nil => cases h
  | cons x text ih =>
    rw [strchr] at h
    split at h
    next hx =>
      subst hx
      exact ⟨[], text, (Option.some.inj h).symm, rfl, List.not_mem_nil⟩
    next hx =>
      obtain ⟨before, tail, hrest, htext, hnot⟩ := ih h
      refine ⟨x :: before, tail, hrest, by rw [htext, List.cons_append], ?_⟩
      rw [List.mem_cons, not_or]
      exact ⟨fun heq => hx heq.symm, hnot⟩

theorem strchr_append {c : Char} {before : List Char} (h : c ∉ before) (tail : List Char) :
    strchr c (before ++ c :: tail) = some (c :: tail) := by
  induction before with
  | nil => exact if_pos rfl
  | cons x before ih =>
    rw [List.mem_cons, not_or] at h
    rw [List.cons_append, strchr, if_neg fun heq => h.1 heq.symm, ih h.2]

theorem locatePayload_eq_some_iff {jwt payload : List Char} :
    locatePayload jwt = some payload ↔ HasPayload jwt payload := by
  constructor
  · intro h
    obtain ⟨startPayload, hstart, h⟩ := Option.bind_eq_some_iff.mp h
    obtain ⟨endPayload, hend, h⟩ := Option.bind_eq_some_iff.mp h
    obtain ⟨dot, hdot, rfl⟩ := Option.map_eq_some_iff.mp hstart
    obtain ⟨header, tail, rfl, hjwt, hheader⟩ := strchr_eq_some hdot
    obtain ⟨before, rest, rfl, htail, hbefore⟩ := strchr_eq_some hend
    have hpayload : before = payload := by
      rw [← Option.some.inj h, htail]
      simp
    subst hpayload
    exact ⟨header, rest, by rw [hjwt, ← htail]; rfl, hheader, hbefore⟩
  · rintro ⟨header, rest, rfl, hheader, hpayload⟩
    rw [locatePayload, strchr_append hheader]
    dsimp only [Option.map_some, List.tail_cons, Option.bind_eq_bind, Option.bind_some]
    rw [strchr_append hpayload]
    simp

/-! ## The name -/

section

variable {decodeBase64 : List Char → Except (List Char) (List Char)} {a2e : Char → Char}
  {jsonParseUnterminatedString : List Char → Option Json}

theorem subClaim_eq_some_iff {decodedPayload sub : List Char} :
    subClaim a2e jsonParseUnterminatedString decodedPayload = some sub ↔
      ∃ properties, jsonParseUnterminatedString (decodedPayload.map a2e) = some (.object properties) ∧
        Json.Properties.value properties "sub" = some (.string sub) := by
  rw [subClaim, Option.bind_eq_bind, Option.bind_eq_some_iff]
  constructor
  · rintro ⟨payload, hparse, hsub⟩
    obtain ⟨value, hvalue, hstring⟩ := Option.bind_eq_some_iff.mp hsub
    cases payload with
    | object properties =>
      refine ⟨properties, hparse, ?_⟩
      cases value with
      | string text => exact hvalue.trans (congrArg (some ∘ Json.string) (Option.some.inj hstring))
      | number _ | boolean _ | array _ | object _ => cases hstring
    | string _ | number _ | boolean _ | array _ => cases hvalue
  · rintro ⟨properties, hparse, hvalue⟩
    exact ⟨_, hparse, Option.bind_eq_some_iff.mpr ⟨_, hvalue, rfl⟩⟩

/-- With one payload in the token, its claim is what the decoded payload holds. -/
theorem isClaim_iff {jwt payload sub : List Char} (h : locatePayload jwt = some payload) :
    IsClaim decodeBase64 a2e jsonParseUnterminatedString jwt sub ↔
      (∃ decodedPayload,
        decodeBase64 (payload ++ base64Padding payload.length) = .ok decodedPayload ∧
        subClaim a2e jsonParseUnterminatedString decodedPayload = some sub) ∧
      1 ≤ sub.length ∧ sub.length ≤ 8 := by
  refine and_congr ?_ Iff.rfl
  constructor
  · rintro ⟨payload', hpayload', decodedPayload, properties, hdecoded, hparse, hvalue⟩
    have hsame := Option.some.inj (h.symm.trans (locatePayload_eq_some_iff.mpr hpayload'))
    subst hsame
    exact ⟨decodedPayload, hdecoded, subClaim_eq_some_iff.mpr ⟨properties, hparse, hvalue⟩⟩
  · rintro ⟨decodedPayload, hdecoded, hsub⟩
    obtain ⟨properties, hparse, hvalue⟩ := subClaim_eq_some_iff.mp hsub
    exact ⟨payload, locatePayload_eq_some_iff.mp h, decodedPayload, properties, hdecoded, hparse,
      hvalue⟩

theorem isClaim_iff_of_decoded {jwt payload decodedPayload sub : List Char}
    (hpayload : locatePayload jwt = some payload)
    (hdecoded : decodeBase64 (payload ++ base64Padding payload.length) = .ok decodedPayload) :
    IsClaim decodeBase64 a2e jsonParseUnterminatedString jwt sub ↔
      subClaim a2e jsonParseUnterminatedString decodedPayload = some sub ∧
        1 ≤ sub.length ∧ sub.length ≤ 8 := by
  rw [isClaim_iff hpayload, hdecoded]
  refine and_congr ?_ Iff.rfl
  constructor
  · rintro ⟨_, hok, hsub⟩
    cases hok
    exact hsub
  · intro hsub
    exact ⟨_, rfl, hsub⟩

/-- Without a claim the name is to be empty. -/
theorem namesClaim_nil {jwt : List Char}
    (h : ∀ sub, ¬ IsClaim decodeBase64 a2e jsonParseUnterminatedString jwt sub) :
    NamesClaim decodeBase64 a2e jsonParseUnterminatedString jwt [] :=
  ⟨⟨fun hne => absurd rfl hne, fun ⟨sub, hsub⟩ => absurd hsub (h sub)⟩,
    fun sub hsub => absurd hsub (h sub)⟩

/-- Whatever is written where, the name is the claim. -/
theorem extractUsernameFromJwt_names (jwt : List Char) :
    NamesClaim decodeBase64 a2e jsonParseUnterminatedString jwt
      (extractUsernameFromJwt decodeBase64 a2e jsonParseUnterminatedString jwt).username := by
  unfold extractUsernameFromJwt
  cases hpayload : locatePayload jwt with
  | none =>
    apply namesClaim_nil
    rintro sub ⟨⟨payload, hhas, -⟩, -⟩
    rw [locatePayload_eq_some_iff.mpr hhas] at hpayload
    cases hpayload
  | some payload =>
    dsimp only
    cases hdecoded : decodeBase64 (payload ++ base64Padding payload.length) with
    | error _ =>
      apply namesClaim_nil
      rintro sub hclaim
      obtain ⟨⟨decodedPayload, hok, -⟩, -⟩ := (isClaim_iff hpayload).mp hclaim
      rw [hdecoded] at hok
      cases hok
    | ok decodedPayload =>
      have hclaim {sub : List Char} :
          IsClaim decodeBase64 a2e jsonParseUnterminatedString jwt sub ↔
            subClaim a2e jsonParseUnterminatedString decodedPayload = some sub ∧
              1 ≤ sub.length ∧ sub.length ≤ 8 :=
        isClaim_iff_of_decoded hpayload hdecoded
      dsimp only
      cases hsub : subClaim a2e jsonParseUnterminatedString decodedPayload with
      | none =>
        apply namesClaim_nil
        intro sub h
        have heq := (hclaim.mp h).1
        rw [hsub] at heq
        cases heq
      | some sub =>
        have hsame {sub' : List Char}
            (h : IsClaim decodeBase64 a2e jsonParseUnterminatedString jwt sub') :
            sub' = sub ∧ 1 ≤ sub'.length ∧ sub'.length ≤ 8 := by
          have heq := (hclaim.mp h).1
          rw [hsub] at heq
          exact ⟨(Option.some.inj heq).symm, (hclaim.mp h).2⟩
        dsimp only
        split
        next hempty =>
          apply namesClaim_nil
          intro sub' h
          obtain ⟨rfl, hlength, -⟩ := hsame h
          omega
        next hne =>
          split
          next hfits =>
            have hnil : sub ≠ [] := fun h => hne (congrArg List.length h)
            refine ⟨⟨fun _ => ⟨sub, hclaim.mpr ⟨hsub, by omega, hfits⟩⟩, fun _ => hnil⟩, ?_⟩
            intro sub' h
            exact (hsame h).1.symm
          next hlong =>
            apply namesClaim_nil
            intro sub' h
            obtain ⟨rfl, -, hlength⟩ := hsame h
            exact hlong hlength

/-! ## The buffers -/

/-- The buffers have room for the payload, the padding and the end of the string. -/
theorem allocateLength_fits_iff (payLoadLength : Nat) :
    payLoadLength + (base64Padding payLoadLength).length + 1 ≤ allocateLength payLoadLength ↔
      payLoadLength % 4 = 0 ∨ payLoadLength % 4 = 1 := by
  have hmod := Nat.mod_lt payLoadLength (show 0 < 4 by decide)
  unfold base64Padding allocateLength
  split
  next h3 => rw [List.length_singleton]; omega
  next h3 =>
    split
    next h2 => rw [List.length_cons, List.length_singleton]; omega
    next h2 => rw [List.length_nil]; omega

/-- The writes: those up to the decoder's, then the conversion of what was decoded and the copy of a
name that there is room for. -/
theorem writes_eq {jwt payload : List Char} (hpayload : locatePayload jwt = some payload) :
    ∃ more,
      (extractUsernameFromJwt decodeBase64 a2e jsonParseUnterminatedString jwt).writes =
        payloadWrites payload (written (decodeBase64 (payload ++ base64Padding payload.length))) ++
          more ∧
      ∀ w ∈ more,
        w = ⟨allocateLength payload.length, 0,
          (written (decodeBase64 (payload ++ base64Padding payload.length))).length⟩ ∨
        w.offset + w.length ≤ w.size := by
  unfold extractUsernameFromJwt
  rw [hpayload]
  dsimp only
  cases decodeBase64 (payload ++ base64Padding payload.length) with
  | error text => exact ⟨[], (List.append_nil _).symm, fun w hw => absurd hw List.not_mem_nil⟩
  | ok text =>
    have converted : ∀ w ∈ [(⟨allocateLength payload.length, 0, text.length⟩ : Write)],
        w = ⟨allocateLength payload.length, 0, (written (.ok text)).length⟩ ∨
        w.offset + w.length ≤ w.size := by
      intro w hw
      exact .inl (List.mem_singleton.mp hw)
    dsimp only
    cases subClaim a2e jsonParseUnterminatedString text with
    | none => exact ⟨_, rfl, converted⟩
    | some sub =>
      dsimp only
      split
      next => exact ⟨_, rfl, converted⟩
      next =>
        split
        next hfits =>
          refine ⟨_, List.append_assoc .., fun w hw => ?_⟩
          obtain hw | hw := List.mem_append.mp hw
          · exact converted w hw
          · rw [List.mem_singleton.mp hw, usernameSize]
            dsimp only
            omega
        next => exact ⟨_, rfl, converted⟩

/-- What is written is in the buffers, if the string with its padding is. -/
theorem writes_inside_iff
    (bounded : ∀ text, 4 * (written (decodeBase64 text)).length ≤ 3 * text.length)
    {jwt payload : List Char} (hpayload : locatePayload jwt = some payload) :
    (∀ w ∈ (extractUsernameFromJwt decodeBase64 a2e jsonParseUnterminatedString jwt).writes,
        w.inside = true) ↔
      payload.length % 4 = 0 ∨ payload.length % 4 = 1 := by
  rw [← allocateLength_fits_iff]
  obtain ⟨more, hwrites, hmore⟩ :=
    @writes_eq decodeBase64 a2e jsonParseUnterminatedString jwt payload hpayload
  have hbound := bounded (payload ++ base64Padding payload.length)
  rw [List.length_append] at hbound
  rw [hwrites, payloadWrites]
  constructor
  · intro h
    exact of_decide_eq_true (h ⟨allocateLength payload.length, payload.length,
      (base64Padding payload.length).length + 1⟩ (by simp))
  · intro hfits w hw
    apply decide_eq_true
    obtain hw | hw := List.mem_append.mp hw
    · simp only [List.mem_cons, List.not_mem_nil, or_false] at hw
      obtain rfl | rfl | rfl | rfl | rfl := hw <;> dsimp only <;> omega
    · obtain rfl | hinside := hmore w hw
      · dsimp only
        omega
      · exact hinside

/-- Everything is written inside of the buffers, and the name is the claim, exactly when the payload,
if there is one, has a length that leaves 0 or 1 on division by 4: for 2 and 3 the padding and the
end of the string are one character more than the buffer has room for. -/
theorem username_extracted_iff
    (decodeBase64 : List Char → Except (List Char) (List Char)) (a2e : Char → Char)
    (jsonParseUnterminatedString : List Char → Option Json)
    (bounded : ∀ text, 4 * (written (decodeBase64 text)).length ≤ 3 * text.length)
    (jwt : List Char) :
    (∀ w ∈ (extractUsernameFromJwt decodeBase64 a2e jsonParseUnterminatedString jwt).writes,
        w.inside = true) ∧
      NamesClaim decodeBase64 a2e jsonParseUnterminatedString jwt
        (extractUsernameFromJwt decodeBase64 a2e jsonParseUnterminatedString jwt).username ↔
    ∀ payload, HasPayload jwt payload → payload.length % 4 = 0 ∨ payload.length % 4 = 1 := by
  rw [and_iff_left (extractUsernameFromJwt_names jwt)]
  cases hpayload : locatePayload jwt with
  | none =>
    refine iff_of_true ?_ ?_
    · unfold extractUsernameFromJwt
      rw [hpayload]
      exact fun w hw => absurd hw List.not_mem_nil
    · intro payload h
      rw [locatePayload_eq_some_iff.mpr h] at hpayload
      cases hpayload
  | some payload =>
    rw [writes_inside_iff bounded hpayload]
    constructor
    · intro h payload' hpayload'
      have hsame := Option.some.inj
        (hpayload.symm.trans (locatePayload_eq_some_iff.mpr hpayload'))
      exact hsame ▸ h
    · intro h
      exact h payload (locatePayload_eq_some_iff.mp hpayload)

end

/-! ## Two tokens -/

/-- A decoder that knows one text. -/
def decodeOne (encoded decoded text : List Char) : Except (List Char) (List Char) :=
  if text = encoded ∧ 4 * decoded.length ≤ 3 * encoded.length then .ok decoded else .error []

theorem decodeOne_bounded (encoded decoded text : List Char) :
    4 * (written (decodeOne encoded decoded text)).length ≤ 3 * text.length := by
  unfold decodeOne
  split
  next h =>
    rw [h.1]
    exact h.2
  next => simp [written]

/-- A parser that knows one object, that of a user. -/
def parseSub (user text : List Char) : Option Json :=
  if text = "\x7b\"sub\":\"".toList ++ user ++ "\"\x7d".toList then
    some (.object [("sub", .string user)])
  else none

/-- The name of a token whose payload has twenty characters. -/
theorem username_extracted_user1 :
    (extractUsernameFromJwt
        (decodeOne "eyJzdWIiOiJVU0VSMSJ9".toList "\x7b\"sub\":\"USER1\"\x7d".toList) id
        (parseSub "USER1".toList) "eyJhbGciOiJub25lIn0.eyJzdWIiOiJVU0VSMSJ9.".toList).username =
      "USER1".toList ∧
    ∀ w ∈ (extractUsernameFromJwt
        (decodeOne "eyJzdWIiOiJVU0VSMSJ9".toList "\x7b\"sub\":\"USER1\"\x7d".toList) id
        (parseSub "USER1".toList) "eyJhbGciOiJub25lIn0.eyJzdWIiOiJVU0VSMSJ9.".toList).writes,
      w.inside = true := by
  refine ⟨by decide, ((username_extracted_iff _ id _ (decodeOne_bounded _ _) _).mpr ?_).1⟩
  intro payload hpayload
  have hlocated := locatePayload_eq_some_iff.mpr hpayload
  have heq : payload = "eyJzdWIiOiJVU0VSMSJ9".toList := Option.some.inj (hlocated.symm.trans rfl)
  exact .inl (heq ▸ rfl)

/-- The payload of a token has twenty-three characters: the string with its padding ends one byte
behind the buffer. -/
theorem padded_payload_overflows :
    ¬ ∀ w ∈ (extractUsernameFromJwt
        (decodeOne "eyJzdWIiOiJJQk1VU0VSIn0=".toList "\x7b\"sub\":\"IBMUSER\"\x7d".toList) id
        (parseSub "IBMUSER".toList) "eyJhbGciOiJub25lIn0.eyJzdWIiOiJJQk1VU0VSIn0.".toList).writes,
      w.inside = true := by decide

end Zss.Services.SafIdt
