import Zss.Datasets.VsamSessions

/-!
# What the session table keeps

Every entry of the table has a key block of its own, made of the component and the user that its ACB
was opened for, and a state in use with an open ACB (`Sessions.Sound`). Each call of a request is
followed from the state before to the state after it; a considerate request that takes an ACB over
leaves everything as it was, one that opens an ACB adds an entry with its blocks, and one that closes
it at once leaves nothing of them.

## What is not established

The condition is enough, not exact. Requests are served one after the other, and the records that
are read and written through an ACB are not looked at.
-/

namespace Zss.Datasets

open Zss.Lib

/-! ## The invariant -/

namespace Sessions

/-- An entry in order. -/
def Entry (w : Sessions) (key : Text) (pair state : Addr) : Prop :=
  ∃ name username endsInZero content acb,
    w.pairs.get pair = some ⟨some name, username, endsInZero⟩ ∧
    key = name.chars ++ username.chars ∧
    w.states.get state = some content ∧ content.acb = some acb ∧
    w.acbs.get acb = some ⟨username, name.chars⟩ ∧
    ∀ buffer, content.key = some buffer → w.keyBuffers.Live buffer

/-- Every entry is in order, and what is in use belongs to one. -/
structure Sound (w : Sessions) : Prop where
  faultless : w.faults = []
  entry : ∀ key pair state, w.acbTable.get key = some (pair, state) → w.Entry key pair state
  pairs : ∀ pair, w.pairs.Live pair → ∃ key state, w.acbTable.get key = some (pair, state)
  states : ∀ state, w.states.Live state → ∃ key pair, w.acbTable.get key = some (pair, state)
  keyBuffers : ∀ buffer, w.keyBuffers.Live buffer →
    ∃ state content, w.states.get state = some content ∧ content.key = some buffer
  acbs : ∀ acb, w.acbs.Live acb →
    ∃ state content, w.states.get state = some content ∧ content.acb = some acb

/-- A request that closes has closed what it used. -/
def Closed (w : Sessions) : Prop :=
  w.serving.closeAfter = true → ∀ acb ∈ w.serving.used, ¬ w.acbs.Live acb

variable {w t : Sessions} {key : Text} {pair state acb : Addr}

theorem sound_empty : empty.Sound where
  faultless := rfl
  entry _ _ _ h := by cases h
  pairs _ h := by simp [empty, Storage.Live] at h
  states _ h := by simp [empty, Storage.Live] at h
  keyBuffers _ h := by simp [empty, Storage.Live] at h
  acbs _ h := by simp [empty, Storage.Live] at h

/-- The ACB of a state in use. -/
theorem Sound.of_state (sound : w.Sound) {content : StatefulACB}
    (h : w.states.get state = some content) :
    ∃ (name : CatalogName) (username : UserName) (acb : Addr), content.acb = some acb ∧
      w.acbs.get acb = some ⟨username, name.chars⟩ ∧
      ∀ buffer, content.key = some buffer → w.keyBuffers.Live buffer := by
  obtain ⟨key, pair, hget⟩ := sound.states state (Storage.live_of_get h)
  obtain ⟨name, username, -, content', acb, -, -, hstate, hacb, hacbs, hbuffer⟩ :=
    sound.entry key pair state hget
  rw [h, Option.some.injEq] at hstate
  subst hstate
  exact ⟨name, username, acb, hacb, hacbs, hbuffer⟩

theorem Sound.live_acb (sound : w.Sound) {content : StatefulACB}
    (h : w.states.get state = some content) (hacb : content.acb = some acb) : w.acbs.Live acb := by
  obtain ⟨name, username, acb', hacb', hacbs, -⟩ := sound.of_state h
  rw [hacb, Option.some.injEq] at hacb'
  exact Storage.live_of_get (hacb' ▸ hacbs)

/-- What is in order is kept. -/
theorem Sound.kept (sound : w.Sound) (closed : w.Closed) : w.Kept where
  faultless := sound.faultless
  pairs pair := by
    refine ⟨sound.pairs pair, ?_⟩
    rintro ⟨key, state, h⟩
    obtain ⟨name, username, zero, content, acb, hpair, -⟩ := sound.entry key pair state h
    exact Storage.live_of_get hpair
  states state := by
    refine ⟨sound.states state, ?_⟩
    rintro ⟨key, pair, h⟩
    obtain ⟨name, username, zero, content, acb, -, -, hstate, -⟩ := sound.entry key pair state h
    exact Storage.live_of_get hstate
  keyBuffers buffer := by
    refine ⟨sound.keyBuffers buffer, ?_⟩
    rintro ⟨state, content, hcontent, hkey⟩
    obtain ⟨-, -, -, -, -, hbuffer⟩ := sound.of_state hcontent
    exact hbuffer buffer hkey
  acbs acb := by
    refine ⟨sound.acbs acb, ?_⟩
    rintro ⟨state, content, hcontent, hacb⟩
    exact sound.live_acb hcontent hacb
  closed hclose acb hused := by
    refine ⟨closed hclose acb hused, fun state content hcontent hacb => ?_⟩
    exact closed hclose acb hused (sound.live_acb hcontent hacb)

/-- Where nothing is seen to differ, all stays in order. -/
theorem Sound.congr (sound : w.Sound) (hfaults : t.faults = w.faults)
    (htable : ∀ key, t.acbTable.get key = w.acbTable.get key)
    (hpairs : ∀ a, t.pairs.get a = w.pairs.get a) (hstates : ∀ a, t.states.get a = w.states.get a)
    (hbuffers : ∀ a, t.keyBuffers.get a = w.keyBuffers.get a)
    (hacbs : ∀ a, t.acbs.get a = w.acbs.get a) : t.Sound where
  faultless := hfaults.trans sound.faultless
  entry key pair state h := by
    have entry := sound.entry key pair state (htable key ▸ h)
    simpa only [Entry, Storage.Live, hpairs, hstates, hbuffers, hacbs] using entry
  pairs pair h := by
    simpa only [htable] using sound.pairs pair (by rwa [Storage.Live, ← hpairs])
  states state h := by
    simpa only [htable] using sound.states state (by rwa [Storage.Live, ← hstates])
  keyBuffers buffer h := by
    simpa only [hstates] using sound.keyBuffers buffer (by rwa [Storage.Live, ← hbuffers])
  acbs acb h := by
    simpa only [hstates] using sound.acbs acb (by rwa [Storage.Live, ← hacbs])

/-- The key buffer that a new state has, if it has one. -/
def BufferGained (before after : Storage Nat) : Option Addr → Prop
  | none => ∀ a, after.get a = before.get a
  | some buffer => ∃ length, before.Gains after buffer length

theorem BufferGained.live {before after : Storage Nat} {buffer : Option Addr} {b : Addr}
    (h : BufferGained before after buffer) (hb : before.Live b) : after.Live b := by
  cases buffer with
  | none => rwa [Storage.Live, h b]
  | some buffer =>
    obtain ⟨length, gains⟩ := h
    exact gains.live hb

theorem BufferGained.live_cases {before after : Storage Nat} {buffer : Option Addr} {b : Addr}
    (h : BufferGained before after buffer) (hb : after.Live b) :
    buffer = some b ∨ before.Live b := by
  cases buffer with
  | none => exact .inr (by rwa [Storage.Live, ← h b])
  | some buffer =>
    obtain ⟨length, gains⟩ := h
    rcases gains.live_cases hb with heq | hlive
    · exact .inl (congrArg some heq.symm)
    · exact .inr hlive

/-- A session opened: a state with an open ACB more, of which the table does not know yet. -/
structure Opened (w t : Sessions) (state acb : Addr) (content : StatefulACB) : Prop where
  faults : t.faults = w.faults
  acbTable : t.acbTable = w.acbTable
  pairs : t.pairs = w.pairs
  requester : t.serving.requester = w.serving.requester
  closeAfter : t.serving.closeAfter = w.serving.closeAfter
  used : ∀ a ∈ t.serving.used, a ∈ w.serving.used ∨ a = acb
  states : w.states.Gains t.states state content
  ofState : content.acb = some acb
  acbs : w.acbs.Gains t.acbs acb w.serving.requester
  keyBuffers : BufferGained w.keyBuffers t.keyBuffers content.key

/-- **An entry more.** A new key, with a pair, a state and an ACB of its own. -/
theorem Sound.put (sound : w.Sound) {name : CatalogName} {username : UserName} {zero : Bool}
    {content : StatefulACB} (hfaults : t.faults = w.faults)
    (hnew : w.acbTable.get (name.chars ++ username.chars) = none)
    (htable : t.acbTable = w.acbTable.put (name.chars ++ username.chars) (pair, state))
    (hpairs : w.pairs.Gains t.pairs pair ⟨some name, username, zero⟩)
    (hstates : w.states.Gains t.states state content) (hacb : content.acb = some acb)
    (hacbs : w.acbs.Gains t.acbs acb ⟨username, name.chars⟩)
    (hbuffers : BufferGained w.keyBuffers t.keyBuffers content.key) : t.Sound := by
  have old : ∀ {key value}, w.acbTable.get key = some value → t.acbTable.get key = some value := by
    intro key value h
    rw [htable, Table.get_put_iff]
    refine .inr ⟨?_, h⟩
    rintro rfl
    rw [hnew] at h
    cases h
  have new : t.acbTable.get (name.chars ++ username.chars) = some (pair, state) := by
    rw [htable, Table.get_put_self]
  refine ⟨hfaults.trans sound.faultless, fun key p s h => ?_, fun p hp => ?_, fun s hs => ?_,
    fun b hb => ?_, fun a ha => ?_⟩
  · rw [htable, Table.get_put_iff] at h
    rcases h with ⟨rfl, heq⟩ | ⟨-, h⟩
    · cases heq
      refine ⟨name, username, zero, content, acb, hpairs.get_self, rfl, hstates.get_self, hacb,
        hacbs.get_self, fun buffer hbuffer => ?_⟩
      rw [hbuffer] at hbuffers
      obtain ⟨length, gains⟩ := hbuffers
      exact Storage.live_of_get gains.get_self
    · obtain ⟨name', username', zero', content', acb', hp, hkey, hs, hc, ha, hb⟩ :=
        sound.entry key p s h
      exact ⟨name', username', zero', content', acb', hpairs.get_of_get hp, hkey,
        hstates.get_of_get hs, hc, hacbs.get_of_get ha, fun b hcb => hbuffers.live (hb b hcb)⟩
  · rcases hpairs.live_cases hp with rfl | hp
    · exact ⟨_, _, new⟩
    · obtain ⟨key, s, h⟩ := sound.pairs p hp
      exact ⟨key, s, old h⟩
  · rcases hstates.live_cases hs with rfl | hs
    · exact ⟨_, _, new⟩
    · obtain ⟨key, p, h⟩ := sound.states s hs
      exact ⟨key, p, old h⟩
  · rcases hbuffers.live_cases hb with hkey | hb
    · exact ⟨state, content, hstates.get_self, hkey⟩
    · obtain ⟨s, c, hs, hc⟩ := sound.keyBuffers b hb
      exact ⟨s, c, hstates.get_of_get hs, hc⟩
  · rcases hacbs.live_cases ha with rfl | ha
    · exact ⟨state, content, hstates.get_self, hacb⟩
    · obtain ⟨s, c, hs, hc⟩ := sound.acbs a ha
      exact ⟨s, c, hstates.get_of_get hs, hc⟩

end Sessions

/-! ## Calls -/

/-- What a program of a request leads to, if each of its calls is answered considerately. -/
abbrev LeadsTo (request : VsamRequest) (w : Sessions) {α : Type} (p : Handler α)
    (post : α → Sessions → Prop) : Prop :=
  Program.Leads sessions (fun e => considerate request e = true) w p post

section

variable {request : VsamRequest} {w : Sessions}

theorem call_leads {c : Call} {post : c.Answer → Sessions → Prop}
    (h : ∀ answer t, considerate request ⟨c, answer⟩ = true → w.after ⟨c, answer⟩ = some t →
      post answer t) : LeadsTo request w (call c) post :=
  .ask h

/-- A call that leaves one state, whatever its answer. -/
theorem call_leads_to {c : Call} {t : Sessions} (h : ∀ answer, w.after ⟨c, answer⟩ = some t) :
    LeadsTo request w (call c) fun answer u => considerate request ⟨c, answer⟩ = true ∧ u = t := by
  refine call_leads fun answer u hconsiderate hu => ⟨hconsiderate, ?_⟩
  rw [h answer, Option.some.injEq] at hu
  exact hu.symm

theorem respondWithError_leads (status : Nat) (msg : Message) :
    LeadsTo request w (respondWithError status msg) fun _ t => t = w :=
  (call_leads_to fun _ => rfl).mono fun _ _ h => h.2

/-- A call whose answer is determined. -/
theorem call_leads_eq {c : Call} {given : c.Answer} {inst : ∀ a, Decidable (a = given)}
    {next : Sessions} (h : ∀ a, w.after ⟨c, a⟩ = if a = given then some next else none) :
    LeadsTo request w (call c) fun a t => a = given ∧ t = next := by
  refine call_leads fun a t _ ht => ?_
  rw [h] at ht
  split at ht
  next ha => exact ⟨ha, (Option.some.inj ht).symm⟩
  next => cases ht

theorem safeMalloc_pair_leads (key : DsnUidPair) :
    LeadsTo request w (call (.safeMalloc (.pair key))) fun a t => a = w.pairs.fresh ∧
      t = { w with pairs := w.pairs.obtain key, serving := w.nameDataSet key.dsnData } :=
  call_leads_eq fun _ => rfl

theorem safeMalloc_state_leads (content : StatefulACB) :
    LeadsTo request w (call (.safeMalloc (.state content))) fun a t => a = w.states.fresh ∧
      t = { w with states := w.states.obtain content } :=
  call_leads_eq fun _ => rfl

theorem safeMalloc_keyBuffer_leads (length : Nat) :
    LeadsTo request w (call (.safeMalloc (.keyBuffer length))) fun a t =>
      a = w.keyBuffers.fresh ∧ t = { w with keyBuffers := w.keyBuffers.obtain length } :=
  call_leads_eq fun _ => rfl

theorem openACB_leads (ddNumber : Nat) (type : VsamType) (maxlrecl maxbuffer : Nat) :
    LeadsTo request w (call (.openACB ddNumber type maxlrecl maxbuffer)) fun acb t =>
      acb = some w.acbs.fresh ∧ t = { w with acbs := w.acbs.obtain w.serving.requester } := by
  refine call_leads fun acb t hconsiderate ht => ?_
  cases acb with
  | none => cases hconsiderate
  | some acb =>
    have hopen : w.after ⟨.openACB ddNumber type maxlrecl maxbuffer, some acb⟩ =
        if acb = w.acbs.fresh then some { w with acbs := w.acbs.obtain w.serving.requester }
        else none := rfl
    rw [hopen] at ht
    split at ht
    next h => exact ⟨congrArg some h, (Option.some.inj ht).symm⟩
    next => cases ht

/-- The state and the ACB that stand in the table under a key. -/
def Sessions.found (w : Sessions) (key : KeyRef) : Option (Addr × Addr) :=
  (w.find key).bind fun state =>
    ((w.states.get state).bind StatefulACB.acb).map fun acb => (state, acb)

theorem lookupACB_leads {key : KeyRef} (hfaults : w.keyFaults key = [])
    (hlive : ∀ state, w.find key = some state → w.states.Live state) :
    LeadsTo request w (lookupACB key) fun result t =>
      considerate request ⟨.htGet key, w.find key⟩ = true ∧ result = w.found key ∧ t = w := by
  unfold lookupACB
  refine .ask_bind fun found t hconsiderate ht => ?_
  obtain ⟨rfl, rfl⟩ : found = w.find key ∧ t = w := by
    have hget : sessions.step w ⟨.htGet key, found⟩ =
        if found = w.find key then some { w with faults := w.faults ++ w.keyFaults key }
        else none := rfl
    rw [hget] at ht
    split at ht
    next h =>
      rw [hfaults, List.append_nil] at ht
      exact ⟨h, (Option.some.inj ht).symm⟩
    next => cases ht
  cases hfind : t.find key with
  | none =>
    rw [hfind] at hconsiderate
    exact .ret ⟨hconsiderate, by rw [Sessions.found, hfind]; rfl, rfl⟩
  | some state =>
    rw [hfind] at hconsiderate
    obtain ⟨stored, hstored⟩ := Storage.live_iff.mp (hlive state hfind)
    refine .ask_bind fun content u _ hu => ?_
    simp only [sessions, Sessions.after, hstored] at hu
    split at hu
    next heq =>
      cases hu
      refine .ret ⟨hconsiderate, ?_, rfl⟩
      rw [Sessions.found, hfind, Option.bind_some, hstored, heq]
      rfl
    next => cases hu

/-! ## Opening -/

/-- A component without an entry of its own is taken for an ESDS. -/
theorem vsamTypeOf_zero : vsamTypeOf 0 ≠ .ksds := by decide

/-- What the catalog names for a request that it serves. -/
theorem entry_of_considerate {dsn : Text} {entry : VsamEntry}
    (h : considerate request ⟨.returnVSAMEntries dsn, some entry⟩ = true) :
    (dsn = padded 44 request.absolutePath → entry.type = 'C' → entry.assoc.isSome = true) ∧
      (isCloseAfter request.closeAfter = true → entry.type = 'D' →
        vsamTypeOf entry.vsamType ≠ .ksds) := by
  have hparts : ((dsn != padded 44 request.absolutePath || entry.type != 'C' ||
      entry.assoc.isSome) && (!isCloseAfter request.closeAfter || entry.type != 'D' ||
        decide (vsamTypeOf entry.vsamType ≠ .ksds))) = true := h
  simp only [Bool.and_eq_true, Bool.or_eq_true, bne_iff_ne, Bool.not_eq_true',
    decide_eq_true_eq] at hparts
  obtain ⟨hassoc, hksds⟩ := hparts
  constructor
  · rintro hdsn htype
    exact hassoc.resolve_left fun hne => hne.elim (absurd hdsn) (absurd htype)
  · intro hclose htype
    refine hksds.resolve_left fun hne => hne.elim (fun hopen => ?_) (absurd htype)
    rw [hclose] at hopen
    cases hopen

/-- An allocation succeeds, or finds its DD name in use where there is another. -/
theorem dynalloc_of_considerate {dsn : Text} {ddNumber : Nat} {da : DynallocDD}
    (h : considerate request ⟨.dynallocDataset dsn ddNumber, da⟩ = true) :
    da.returnCode = 0 ∨ (da.reasonCode = ddNameInUse ∧ ddNumber < 99999) := by
  have hparts : (da.returnCode == 0 ||
      (da.reasonCode == ddNameInUse && decide (ddNumber < 99999))) = true := h
  simpa only [Bool.or_eq_true, Bool.and_eq_true, beq_iff_eq, decide_eq_true_eq] using hparts

theorem searchCatalog_leads :
    LeadsTo request w (searchCatalog (padded 44 request.absolutePath)) fun result t => t = w ∧
      ∀ component, result = some component → (∃ name, component.dsnData = some name) ∧
        (isCloseAfter request.closeAfter = true → vsamTypeOf component.vsamType ≠ .ksds) := by
  unfold searchCatalog
  refine .bind_of (call_leads_to fun _ => rfl) ?_
  rintro entry _ ⟨hconsiderate, rfl⟩
  cases entry with
  | none => exact .bind_of (respondWithError_leads _ _) fun _ t ht => .ret ⟨ht, nofun⟩
  | some entry =>
    obtain ⟨hassoc, hksds⟩ := entry_of_considerate hconsiderate
    dsimp only
    split
    next htype =>
      obtain ⟨name, hname⟩ := Option.isSome_iff_exists.mp (hassoc rfl htype)
      refine .bind_of (call_leads_to fun _ => rfl) ?_
      rintro dataEntry _ ⟨hdata, rfl⟩
      refine .ret ⟨rfl, fun component hcomponent => ?_⟩
      cases hcomponent
      cases dataEntry with
      | none => exact ⟨⟨name, hname⟩, fun _ => vsamTypeOf_zero⟩
      | some dataEntry =>
        rw [clusterComponent]
        split
        next hD =>
          exact ⟨⟨dataEntry.name, rfl⟩, fun hclose => (entry_of_considerate hdata).2 hclose hD⟩
        next => exact ⟨⟨name, hname⟩, fun _ => vsamTypeOf_zero⟩
    next =>
      split
      next hD =>
        refine .ret ⟨rfl, fun component hcomponent => ?_⟩
        cases hcomponent
        exact ⟨⟨entry.name, rfl⟩, fun hclose => hksds hclose hD⟩
      next => exact .bind_of (respondWithError_leads _ _) fun _ t ht => .ret ⟨ht, nofun⟩

/-- An allocation that may be tried again has succeeded or found its DD name in use. -/
theorem retryDynalloc_leads (dsn : Text) (left : Nat) (hleft : left ≤ 99999)
    (last : Nat × DynallocDD)
    (hlast : last.2.returnCode = 0 ∨ (last.2.reasonCode = ddNameInUse ∧ 0 < left)) :
    LeadsTo request w (retryDynalloc dsn left last) fun result t =>
      result.2.returnCode = 0 ∧ t = w := by
  induction left generalizing last with
  | zero => exact .ret ⟨hlast.resolve_right fun h => Nat.lt_irrefl 0 h.2, rfl⟩
  | succ left ih =>
    rw [retryDynalloc]
    split
    next =>
      refine .bind_of (call_leads_to fun _ => rfl) ?_
      rintro da _ ⟨hconsiderate, rfl⟩
      refine ih (Nat.le_of_succ_le hleft) _ ?_
      exact (dynalloc_of_considerate hconsiderate).imp_right fun h => ⟨h.1, by omega⟩
    next hne => exact .ret ⟨hlast.resolve_right fun h => hne h.1, rfl⟩

theorem allocateDD_leads (dsn : Text) :
    LeadsTo request w (allocateDD dsn) fun result t => result.2.returnCode = 0 ∧ t = w := by
  unfold allocateDD
  refine .bind_of (call_leads_to fun _ => rfl) ?_
  rintro da _ ⟨hconsiderate, rfl⟩
  refine retryDynalloc_leads dsn 99999 le_rfl _ ?_
  exact (dynalloc_of_considerate hconsiderate).imp_right fun h => ⟨h.1, by omega⟩

/-- A state that is in use is written. -/
theorem writeState_leads {state : Addr} (content : StatefulACB) (hlive : w.states.Live state) :
    LeadsTo request w (call (.writeState state content)) fun _ t =>
      t = { w with states := w.states.modify state fun _ => content } := by
  refine (call_leads_to fun _ => rfl).mono fun _ t ht => ?_
  rw [ht.2, if_pos hlive, List.append_nil]

/-- An ACB is used by the one who opened it. -/
theorem use_of_own {acb : Addr} (h : w.acbs.get acb = some w.serving.requester) :
    w.use acb = { w with serving := w.serving.note acb } := by
  rw [Sessions.use, Sessions.useFaults, if_pos h, List.append_nil]

theorem pointFirst_leads {state acb : Addr} {type : VsamType} {keyLen : Nat}
    (hlive : w.states.Live state) (hacb : w.acbs.get acb = some w.serving.requester) :
    LeadsTo request w (pointFirst state acb type keyLen) fun returnCode t => returnCode = 0 ∧
      if type = .ksds then
        t = { w with
          keyBuffers := w.keyBuffers.obtain (keyLen + 1)
          states := w.states.modify state fun _ => ⟨some acb, type, some w.keyBuffers.fresh⟩ }
      else t = { w with serving := w.serving.note acb } := by
  unfold pointFirst
  split
  next hksds =>
    refine .bind_of (safeMalloc_keyBuffer_leads _) ?_
    rintro key _ ⟨rfl, rfl⟩
    exact .bind_of (writeState_leads _ hlive) fun _ t ht => .ret ⟨rfl, ht⟩
  next hne =>
    refine (call_leads_to fun _ => rfl).mono fun returnCode t ht => ⟨?_, ?_⟩
    · exact beq_iff_eq.mp ht.1
    · rw [ht.2, use_of_own hacb]

theorem openSession_leads (dsn : Text) {component : Component} :
    LeadsTo request w (openSession dsn component) fun result t =>
      ∃ state acb content, result = some (state, acb) ∧ w.Opened t state acb content ∧
        (vsamTypeOf component.vsamType ≠ .ksds → content.key = none) := by
  unfold openSession
  refine .bind_of (allocateDD_leads dsn) ?_
  rintro ⟨ddNumber, da⟩ w ⟨hok, rfl⟩
  dsimp only
  rw [if_neg (Classical.not_not.mpr hok)]
  refine .bind_of (safeMalloc_state_leads _) ?_
  rintro state _ ⟨rfl, rfl⟩
  refine .bind_of (openACB_leads _ _ _ _) ?_
  rintro _ _ ⟨rfl, rfl⟩
  dsimp only
  refine .bind_of (writeState_leads _ (Storage.live_obtain_fresh _ _)) ?_
  rintro _ _ rfl
  have states := (Storage.gains_obtain w.states ⟨none, vsamTypeOf component.vsamType, none⟩).modify
    fun _ => ⟨some w.acbs.fresh, vsamTypeOf component.vsamType, none⟩
  have acbs := Storage.gains_obtain w.acbs w.serving.requester
  refine .bind_of (pointFirst_leads (Storage.live_of_get states.get_self) acbs.get_self) ?_
  rintro _ t ⟨rfl, ht⟩
  rw [if_neg (Classical.not_not.mpr rfl)]
  refine .ret ?_
  split at ht
  next hksds =>
    subst ht
    refine ⟨_, _, _, rfl, ⟨rfl, rfl, rfl, rfl, rfl, fun a ha => .inl ha, states.modify _, rfl, acbs,
      ⟨_, Storage.gains_obtain _ _⟩⟩, fun hne => absurd hksds hne⟩
  next hne =>
    subst ht
    refine ⟨_, _, _, rfl, ⟨rfl, rfl, rfl, rfl, rfl, fun a ha => ?_, states, rfl, acbs,
      fun _ => rfl⟩, fun _ => rfl⟩
    rcases List.mem_append.mp ha with ha | ha
    · exact .inl ha
    · exact .inr (List.mem_singleton.mp ha)

/-! ## Serving -/

theorem streamVSAMDataset_leads {acb : Addr} (hacb : w.acbs.get acb = some w.serving.requester)
    (rplParms : Option VsamType) (component : Component) :
    LeadsTo request w (streamVSAMDataset acb rplParms component) fun _ t =>
      t = { w with serving := (w.serving.note acb).note acb } := by
  unfold streamVSAMDataset
  refine .bind_of (call_leads_to fun _ => rfl) ?_
  rintro _ _ ⟨-, rfl⟩
  rw [use_of_own hacb]
  refine .bind_of (call_leads_to fun _ => rfl) ?_
  rintro reads _ ⟨-, rfl⟩
  rw [use_of_own (by exact hacb)]
  exact (call_leads_to fun _ => rfl).mono fun _ _ h => h.2

/-- A block in use is given back. -/
theorem freeFaults_of_live {α : Type} {blocks : Storage α} {a : Addr} (h : blocks.Live a) :
    Sessions.freeFaults blocks a = [] :=
  if_pos h

theorem closeSession_leads {acb state pair : Addr} {key : DsnUidPair}
    (hacb : w.acbs.get acb = some w.serving.requester) (hpair : w.pairs.get pair = some key)
    (hterminated : key.terminated = true) (hstate : w.states.Live state) :
    LeadsTo request w (closeSession acb state pair) fun _ t =>
      t = { w with
        acbs := w.acbs.release acb
        acbTable := w.acbTable.remove key.text
        pairs := w.pairs.release pair
        states := w.states.release state } := by
  unfold closeSession
  refine .bind_of (call_leads_to fun _ => rfl) ?_
  rintro _ _ ⟨-, rfl⟩
  refine .bind_of (call_leads_to fun _ => rfl) ?_
  rintro _ _ ⟨-, rfl⟩
  refine .bind_of (call_leads_to fun _ => rfl) ?_
  rintro _ _ ⟨-, rfl⟩
  refine (call_leads_to fun _ => rfl).mono fun _ t ht => ?_
  rw [ht.2]
  simp [Sessions.useFaults, Sessions.tableUnder, Sessions.keyText, Sessions.keyFaults,
    freeFaults_of_live, Storage.live_of_get hpair, hacb, hpair, hterminated, hstate]

/-- A key that is made for the request. -/
def keyOf (request : VsamRequest) (name : CatalogName) (zero : Bool) : DsnUidPair :=
  ⟨some name, request.username, zero⟩

/-- The request has made its key, and has used nothing yet. -/
structure Keyed (request : VsamRequest) (name : CatalogName) (zero : Bool) (w t : Sessions) :
    Prop where
  faults : t.faults = w.faults
  acbTable : t.acbTable = w.acbTable
  pairs : t.pairs = w.pairs.obtain (keyOf request name zero)
  states : t.states = w.states
  keyBuffers : t.keyBuffers = w.keyBuffers
  acbs : t.acbs = w.acbs
  requester : t.serving.requester = ⟨request.username, name.chars⟩
  closeAfter : t.serving.closeAfter = isCloseAfter request.closeAfter
  used : t.serving.used = []
  terminated : (keyOf request name zero).terminated = true

variable {t : Sessions} {name : CatalogName} {zero : Bool}

/-- An ACB is taken over and left open; the key is given back. -/
theorem serveFound_leads (sound : w.Sound) (keyed : Keyed request name zero w t) {state acb : Addr}
    (hclose : isCloseAfter request.closeAfter = false)
    (hacb : w.acbs.get acb = some ⟨request.username, name.chars⟩) (component : Component) :
    LeadsTo request t (serveFound (isCloseAfter request.closeAfter) component w.pairs.fresh state acb)
      fun _ u => u.Sound ∧ u.Closed := by
  unfold serveFound
  refine .bind_of (call_leads_to fun _ => rfl) ?_
  rintro _ _ ⟨-, rfl⟩
  have hown : t.acbs.get acb = some t.serving.requester := by
    rw [keyed.acbs, keyed.requester, hacb]
  refine .bind_of (streamVSAMDataset_leads (by exact hown) _ _) ?_
  rintro _ _ rfl
  rw [hclose, if_neg Bool.false_ne_true]
  refine .ret ⟨sound.congr ?_ (fun key => ?_) (fun a => ?_) (fun a => ?_) (fun a => ?_)
    (fun a => ?_), fun h => ?_⟩
  · have hlive : t.pairs.Live w.pairs.fresh := by
      rw [keyed.pairs]
      exact Storage.live_obtain_fresh _ _
    exact (congrArg _ (freeFaults_of_live hlive)).trans ((List.append_nil _).trans keyed.faults)
  · exact congrArg (Table.get · key) keyed.acbTable
  · show (t.pairs.release w.pairs.fresh).get a = _
    rw [keyed.pairs]
    exact (Storage.gains_obtain _ _).get_release a
  · exact congrArg (Storage.get · a) keyed.states
  · exact congrArg (Storage.get · a) keyed.keyBuffers
  · exact congrArg (Storage.get · a) keyed.acbs
  · exact absurd ((keyed.closeAfter.symm.trans h).symm.trans hclose) Bool.false_ne_true.symm

/-- The name in a key is followed by the user: equal keys are of the same requester. -/
theorem requester_of_key {dataSet dataSet' : Text} {username username' : UserName}
    (hlength : dataSet.length = 44) (hlength' : dataSet'.length = 44)
    (h : dataSet ++ username.chars = dataSet' ++ username'.chars) :
    dataSet = dataSet' ∧ username = username' := by
  obtain ⟨hname, huser⟩ := List.append_inj h (hlength.trans hlength'.symm)
  refine ⟨hname, ?_⟩
  cases username
  cases username'
  cases huser
  rfl

/-- A new session is put under a new key; one that is closed at once leaves nothing. -/
theorem serveOpened_leads (sound : w.Sound) (keyed : Keyed request name zero w t)
    (hnew : w.acbTable.get (name.chars ++ request.username.chars) = none) {component : Component}
    (hksds : isCloseAfter request.closeAfter = true → vsamTypeOf component.vsamType ≠ .ksds)
    (dsn : Text) :
    LeadsTo request t
      (serveOpened dsn (isCloseAfter request.closeAfter) component w.pairs.fresh)
      fun _ u => u.Sound ∧ u.Closed := by
  unfold serveOpened
  refine .bind_of (openSession_leads dsn) ?_
  rintro _ u ⟨state, acb, content, rfl, opened, hkey⟩
  dsimp only
  have pairs : w.pairs.Gains u.pairs w.pairs.fresh (keyOf request name zero) := by
    rw [opened.pairs, keyed.pairs]
    exact Storage.gains_obtain _ _
  have states : w.states.Gains u.states state content := keyed.states ▸ opened.states
  have acbs : w.acbs.Gains u.acbs acb ⟨request.username, name.chars⟩ :=
    keyed.requester ▸ keyed.acbs ▸ opened.acbs
  have keyBuffers : Sessions.BufferGained w.keyBuffers u.keyBuffers content.key :=
    keyed.keyBuffers ▸ opened.keyBuffers
  have hused : ∀ a ∈ u.serving.used, a = acb := by
    intro a ha
    refine (opened.used a ha).resolve_left fun h => ?_
    rw [keyed.used] at h
    cases h
  have hown : u.acbs.get acb = some u.serving.requester := by
    rw [acbs.get_self, opened.requester, keyed.requester]
  refine .bind_of (call_leads_to fun _ => rfl) ?_
  rintro _ _ ⟨-, rfl⟩
  refine .bind_of (streamVSAMDataset_leads (by exact hown) _ _) ?_
  rintro _ _ rfl
  have htable : u.tableUnder (.block w.pairs.fresh) (fun text =>
      u.acbTable.put text (w.pairs.fresh, state)) =
      w.acbTable.put (name.chars ++ request.username.chars) (w.pairs.fresh, state) := by
    rw [Sessions.tableUnder, Sessions.keyText, pairs.get_self, opened.acbTable, keyed.acbTable]
    rfl
  have hfaults : u.faults ++ u.keyFaults (.block w.pairs.fresh) = w.faults := by
    rw [Sessions.keyFaults, pairs.get_self]
    show u.faults ++ (if (keyOf request name zero).terminated then [] else _) = _
    rw [keyed.terminated, if_pos rfl, List.append_nil, opened.faults, keyed.faults]
  split
  next hclose =>
    refine (closeSession_leads (by exact hown) (by exact pairs.get_self) keyed.terminated
      (by exact Storage.live_of_get states.get_self)).mono ?_
    rintro _ _ rfl
    have hnone := hkey (hksds hclose)
    rw [hnone] at keyBuffers
    refine ⟨sound.congr hfaults (fun key => ?_) pairs.get_release states.get_release keyBuffers
      acbs.get_release, fun _ a ha => ?_⟩
    · show Table.get (Table.remove _ (name.chars ++ request.username.chars)) key = _
      rw [htable]
      by_cases hkey : key = name.chars ++ request.username.chars
      · rw [hkey, Table.get_remove_self, hnew]
      · rw [Table.get_remove_ne _ hkey, Table.get_put_ne _ _ hkey]
    · have haacb : a = acb := by
        rcases List.mem_append.mp ha with ha | ha
        · rcases List.mem_append.mp ha with ha | ha
          · exact hused a ha
          · exact List.mem_singleton.mp ha
        · exact List.mem_singleton.mp ha
      rw [haacb]
      exact Storage.not_live_release_self _ _
  next hopen =>
    refine .ret ⟨sound.put hfaults hnew htable pairs states opened.ofState acbs keyBuffers,
      fun hclose => ?_⟩
    exact absurd ((opened.closeAfter.trans keyed.closeAfter).symm.trans hclose) hopen

/-- What the table has under a key is a state in use, with an ACB that the requester opened. -/
theorem entry_of_key (sound : w.Sound) {dataSet : Text} {username : UserName}
    (hlength : dataSet.length = 44) {value : Addr × Addr}
    (h : w.acbTable.get (dataSet ++ username.chars) = some value) :
    ∃ content acb, w.states.get value.2 = some content ∧ content.acb = some acb ∧
      w.acbs.get acb = some ⟨username, dataSet⟩ := by
  obtain ⟨pair, state⟩ := value
  obtain ⟨name, username', -, content, acb, -, hkey, hstate, hacb, hacbs, -⟩ :=
    sound.entry _ pair state h
  obtain ⟨hname, huser⟩ := requester_of_key hlength name.length_eq hkey
  rw [hname, huser]
  exact ⟨content, acb, hstate, hacb, hacbs⟩

/-- A key leads to states in use. -/
theorem live_of_find (sound : w.Sound) {key : KeyRef} {state : Addr}
    (h : w.find key = some state) : w.states.Live state := by
  obtain ⟨⟨pair, state⟩, hvalue, rfl⟩ := Option.map_eq_some_iff.mp h
  obtain ⟨text, -, htext⟩ := Option.bind_eq_some_iff.mp hvalue
  obtain ⟨name, username, -, content, acb, -, -, hstate, -⟩ := sound.entry text pair state htext
  exact Storage.live_of_get hstate

/-- The state of a request that has come in. -/
structure Begun (request : VsamRequest) (w : Sessions) : Prop where
  requester : w.serving.requester = ⟨request.username, request.absolutePath⟩
  closeAfter : w.serving.closeAfter = isCloseAfter request.closeAfter
  used : w.serving.used = []

theorem Begun.closed (begun : Begun request w) : w.Closed := by
  intro _ acb hacb
  rw [begun.used] at hacb
  cases hacb

theorem serveComponent_leads (hget : request.method = .methodGET) (sound : w.Sound)
    (begun : Begun request w) {component : Component} (hname : component.dsnData = some name)
    (hksds : isCloseAfter request.closeAfter = true → vsamTypeOf component.vsamType ≠ .ksds)
    (dsn : Text) :
    LeadsTo request w
      (serveComponent dsn request.username (isCloseAfter request.closeAfter) component)
      fun _ u => u.Sound ∧ u.Closed := by
  unfold serveComponent
  refine .bind_of (call_leads_to fun _ => rfl) ?_
  rintro rest w ⟨hrest, rfl⟩
  refine .bind_of (safeMalloc_pair_leads _) ?_
  rintro _ t ⟨rfl, ht⟩
  have keyed : Keyed request name rest.startsWithZero w t := by
    subst ht
    rw [hname]
    refine ⟨rfl, rfl, rfl, rfl, rfl, rfl, ?_, begun.closeAfter, begun.used, ?_⟩
    · show Requester.mk w.serving.requester.username name.chars = _
      rw [begun.requester]
    · show (false || decide (request.username.chars.length < 8) || rest.startsWithZero) = true
      exact hrest
  have hpair : t.pairs.get w.pairs.fresh = some (keyOf request name rest.startsWithZero) := by
    rw [keyed.pairs, Storage.get_obtain_fresh]
  have hfind : t.find (.block w.pairs.fresh) =
      (w.acbTable.get (name.chars ++ request.username.chars)).map Prod.snd := by
    rw [Sessions.find, Sessions.keyText, hpair, keyed.acbTable]
    rfl
  have hfaults : t.keyFaults (.block w.pairs.fresh) = [] := by
    rw [Sessions.keyFaults, hpair]
    exact if_pos keyed.terminated
  refine .bind_of (lookupACB_leads hfaults fun state hstate => ?_) ?_
  · rw [hfind] at hstate
    rw [keyed.states]
    exact live_of_find sound (show w.find (.array _ true) = some state from hstate)
  rintro _ t ⟨hconsiderate, rfl, rfl⟩
  rw [hfind] at hconsiderate
  rw [Sessions.found, hfind]
  cases hvalue : w.acbTable.get (name.chars ++ request.username.chars) with
  | none => exact serveOpened_leads sound keyed hvalue hksds dsn
  | some value =>
    obtain ⟨content, acb, hcontent, hacb, hacbs⟩ := entry_of_key sound name.length_eq hvalue
    rw [Option.map_some, Option.bind_some, keyed.states, hcontent, Option.bind_some, hacb]
    refine serveFound_leads sound keyed ?_ hacbs component
    simpa only [considerate, hget, hvalue, Option.map_some, Option.isSome_some, Bool.and_true,
      Bool.not_eq_true'] using hconsiderate

theorem respondWithVSAMDataset_leads (hget : request.method = .methodGET) (sound : w.Sound)
    (begun : Begun request w) :
    LeadsTo request w
      (respondWithVSAMDataset request.absolutePath request.username request.closeAfter)
      fun _ u => u.Sound ∧ u.Closed := by
  unfold respondWithVSAMDataset
  split
  next => exact (respondWithError_leads _ _).mono fun _ t ht => ht ▸ ⟨sound, begun.closed⟩
  next =>
    refine .bind_of searchCatalog_leads ?_
    rintro result w ⟨rfl, hresult⟩
    cases result with
    | none => exact .ret ⟨sound, begun.closed⟩
    | some component =>
      obtain ⟨⟨name, hname⟩, hksds⟩ := hresult component rfl
      exact serveComponent_leads hget sound begun hname hksds _

/-! ## Updating -/

/-- Nothing but what the request has used has changed. -/
def OnlyUsed (w t : Sessions) : Prop :=
  ∃ serving : Serving, t = { w with serving := serving } ∧
    serving.requester = w.serving.requester ∧ serving.closeAfter = w.serving.closeAfter

theorem OnlyUsed.refl (w : Sessions) : OnlyUsed w w := ⟨w.serving, rfl, rfl, rfl⟩

theorem OnlyUsed.use {acb : Addr} (h : w.acbs.get acb = some w.serving.requester)
    (hafter : OnlyUsed w t) : OnlyUsed w (t.use acb) := by
  obtain ⟨serving, rfl, hrequester, hclose⟩ := hafter
  exact ⟨serving.note acb, use_of_own (h.trans (congrArg some hrequester.symm)), hrequester, hclose⟩

theorem OnlyUsed.sound (sound : w.Sound) (h : OnlyUsed w t) : t.Sound := by
  obtain ⟨serving, rfl, -, -⟩ := h
  exact sound.congr rfl (fun _ => rfl) (fun _ => rfl) (fun _ => rfl) (fun _ => rfl) fun _ => rfl

theorem OnlyUsed.closed (h : OnlyUsed w t) (hclose : w.serving.closeAfter = false) : t.Closed := by
  obtain ⟨serving, rfl, -, hserving⟩ := h
  intro hclosing
  exact absurd (hserving.symm.trans hclosing |>.symm.trans hclose) Bool.false_ne_true.symm

theorem putRecords_leads {acb : Addr} (h : w.acbs.get acb = some w.serving.requester)
    (hafter : OnlyUsed w t) (records : List Bytes) (recordsWritten : Nat) :
    LeadsTo request t (putRecords (some acb) records recordsWritten) fun _ u => OnlyUsed w u := by
  induction records generalizing t recordsWritten with
  | nil => exact .ret hafter
  | cons record records ih =>
    unfold putRecords
    refine .bind_of (call_leads_to fun _ => rfl) ?_
    rintro status _ ⟨-, rfl⟩
    split
    next =>
      refine .bind_of (respondWithError_leads _ _) ?_
      rintro _ _ rfl
      exact .ret (hafter.use h)
    next => exact ih (hafter.use h) _

theorem updateVSAMDatasetWithJSON_leads (hpost : request.method = .methodPOST) (sound : w.Sound)
    (begun : Begun request w) (recordArray : List JsonItem) :
    LeadsTo request w
      (updateVSAMDatasetWithJSON recordArray request.absolutePath request.username)
      fun _ u => u.Sound ∧ u.Closed := by
  unfold updateVSAMDatasetWithJSON
  refine .bind_of (call_leads_to fun _ => rfl) ?_
  rintro rest w ⟨hrest, rfl⟩
  refine .bind_of (lookupACB_leads ?_ fun _ => live_of_find sound) ?_
  · rw [updateKey]
    split
    next => rfl
    next => exact if_pos hrest
  rintro _ w ⟨hconsiderate, rfl, rfl⟩
  simp only [considerate, hpost, Bool.and_eq_true, beq_iff_eq, Bool.not_eq_true'] at hconsiderate
  obtain ⟨⟨hfound, hlength⟩, hclose⟩ := hconsiderate
  have hkey : updateKey request.absolutePath request.username rest =
      .array (request.absolutePath ++ request.username.chars)
        (decide (request.username.chars.length < 8) || rest.startsWithZero) := by
    rw [updateKey, hlength, if_neg (Nat.lt_irrefl 44), List.take_of_length_le (Nat.le_of_eq hlength)]
  rw [hkey] at hfound ⊢
  obtain ⟨state, hfind⟩ := Option.isSome_iff_exists.mp hfound
  obtain ⟨value, hvalue, rfl⟩ := Option.map_eq_some_iff.mp hfind
  obtain ⟨content, acb, hcontent, hacb, hacbs⟩ := entry_of_key sound hlength hvalue
  have hown : w.acbs.get acb = some w.serving.requester := by
    rw [hacbs, begun.requester]
  have hresult : (w.found (.array (request.absolutePath ++ request.username.chars)
      (decide (request.username.chars.length < 8) || rest.startsWithZero))).map Prod.snd =
      some acb := by
    rw [Sessions.found, hfind, Option.bind_some, hcontent, Option.bind_some, hacb]
    rfl
  have ends : ∀ t, OnlyUsed w t → t.Sound ∧ t.Closed := fun t h =>
    ⟨h.sound sound, h.closed (begun.closeAfter.trans hclose)⟩
  dsimp only
  rw [hresult]
  refine .bind_of (call_leads_to fun _ => rfl) ?_
  rintro maxRecordLength _ ⟨-, rfl⟩
  have hused : OnlyUsed w (w.use acb) := (OnlyUsed.refl w).use hown
  split
  next => exact (respondWithError_leads _ _).mono fun _ t ht => ht ▸ ends _ hused
  next records _ =>
    refine .bind_of (putRecords_leads hown hused records 0) fun recordsWritten t ht => ?_
    exact (respondWithError_leads _ _).mono fun _ u hu => hu ▸ ends _ ht

theorem updateVSAMDataset_leads (hpost : request.method = .methodPOST) (sound : w.Sound)
    (begun : Begun request w) :
    LeadsTo request w
      (updateVSAMDataset request.contentBody request.username request.absolutePath)
      fun _ u => u.Sound ∧ u.Closed := by
  unfold updateVSAMDataset
  have refused : ∀ (status : Nat) (msg : Message), LeadsTo request w (respondWithError status msg)
      fun _ u => u.Sound ∧ u.Closed := fun status msg =>
    (respondWithError_leads status msg).mono fun _ t ht => ht ▸ ⟨sound, begun.closed⟩
  refine .bind_of (call_leads_to fun _ => rfl) ?_
  rintro converted w ⟨-, rfl⟩
  cases converted with
  | none => exact refused _ _
  | some convertedBody =>
    refine .bind_of (call_leads_to fun _ => rfl) ?_
    rintro body w ⟨-, rfl⟩
    cases body with
    | invalid => exact refused _ _
    | notObject => exact .ret ⟨sound, begun.closed⟩
    | object etag records => exact updateVSAMDatasetWithJSON_leads hpost sound begun records

theorem serveVSAMDatasetContents_leads (sound : w.Sound) (begun : Begun request w) :
    LeadsTo request w (serveVSAMDatasetContents request) fun _ u => u.Sound ∧ u.Closed := by
  unfold serveVSAMDatasetContents
  split
  next hget => exact respondWithVSAMDataset_leads hget sound begun
  next hpost => exact updateVSAMDataset_leads hpost sound begun

end

/-! ## Runs -/

/-- A request whose calls are all answered considerately. -/
def Served.Considerate (served : Served) : Prop :=
  ∀ e ∈ served.events, considerate served.request e = true

instance (served : Served) : Decidable served.Considerate :=
  List.decidableBAll (fun e : Event calls => considerate served.request e = true) served.events

/-- **The step lemma.** A considerate request leaves the table in order. -/
theorem served_sound {w t : Sessions} {served : Served} (sound : w.Sound)
    (hconsiderate : served.Considerate) (hstep : vsamService.step w served = some t) :
    t.Sound ∧ t.Closed := by
  have begins : (w.begin served.request).Sound :=
    sound.congr rfl (fun _ => rfl) (fun _ => rfl) (fun _ => rfl) (fun _ => rfl) fun _ => rfl
  exact (serveVSAMDatasetContents_leads begins ⟨rfl, rfl, rfl⟩).of_runs served.runs hconsiderate hstep

/-- **The session table.** In every state that considerate requests lead to, the table is in
order. -/
theorem vsamService_kept {requests : List Served} {w : Sessions}
    (considerate : vsamService.Meets (fun _ served => served.Considerate) Sessions.empty requests)
    (visits : vsamService.Visits Sessions.empty requests w) : w.Kept := by
  have inv : w.Sound ∧ w.Closed := by
    refine vsamService.visits_keeps (I := fun w => w.Sound ∧ w.Closed) ?_
      ⟨Sessions.sound_empty, nofun⟩ considerate visits
    exact fun _ _ _ h hserved hstep => served_sound h.1 hserved hstep
  exact inv.1.kept inv.2

/-! ## Sample runs -/

/-- The name of a data component that uses all of its 44 characters. -/
def sampleComponent : CatalogName := ⟨List.replicate 44 'V', by decide, by decide⟩

/-- Requests of one user for that data set. -/
def sampleVsamRequest (method : VsamMethod) (closeAfter : Option Text) : VsamRequest :=
  ⟨method, ⟨['U'], by decide, by decide⟩, sampleComponent.chars, closeAfter, []⟩

/-- Everything succeeds: a key, a state and an ACB are as given, and the table has a state or not. -/
def sampleAnswers (pair state acb : Addr) (found : Option Addr) : (c : Call) → c.Answer
  | .returnVSAMEntries _ => some ⟨'D', sampleComponent, none, 0, 4096, 80, 0, 0⟩
  | .safeMalloc (.pair _) => pair
  | .safeMalloc (.state _) => state
  | .htGet _ => found
  | .readState _ => ⟨some acb, .esds, none⟩
  | .openACB .. => some acb
  | .convertCharset body => some body
  | .jsonParseUpdate _ => .object none [some [0x81]]
  | .rplBufLen _ => 80
  | c => c.anyAnswer

/-- A request served with these answers. -/
def sampleServed (request : VsamRequest) (answers : (c : Call) → c.Answer) : Served :=
  ⟨request, ((serveVSAMDatasetContents request).exec answers).1,
    Program.runs_exec answers (serveVSAMDatasetContents request)⟩

/-- A read opens an ACB, a second one takes it over, and so does an update. -/
def sampleRequests : List Served :=
  [sampleServed (sampleVsamRequest .methodGET none) (sampleAnswers 0 0 0 none),
    sampleServed (sampleVsamRequest .methodGET none) (sampleAnswers 1 0 0 (some 0)),
    sampleServed (sampleVsamRequest .methodPOST none) (sampleAnswers 2 0 0 (some 0))]

theorem vsamService_kept_sample : ∃ w, vsamService.Visits Sessions.empty sampleRequests w ∧
    w.serving.used = [0, 0] ∧ w.Kept := by
  have hrun : ((vsamService.run Sessions.empty sampleRequests).map fun w => w.serving.used) =
      some [0, 0] := by decide
  obtain ⟨w, hw, hused⟩ := Option.map_eq_some_iff.mp hrun
  have visits := vsamService.visits_of_run hw
  exact ⟨w, visits, hused, vsamService_kept (by decide) visits⟩

/-- A read that closes after a read of the same user for the same data set: the key block is freed,
used for the removal of the entry, and freed again. -/
theorem closed_session_freed_twice :
    ∃ w, vsamService.Visits Sessions.empty
      [sampleServed (sampleVsamRequest .methodGET none) (sampleAnswers 0 0 0 none),
        sampleServed (sampleVsamRequest .methodGET (some ['t', 'r', 'u', 'e']))
          (sampleAnswers 1 0 0 (some 0))] w ∧
      w.faults = [.usedAfterFree, .freedTwice] ∧ ¬ w.Kept := by
  have hrun : ((vsamService.run Sessions.empty
      [sampleServed (sampleVsamRequest .methodGET none) (sampleAnswers 0 0 0 none),
        sampleServed (sampleVsamRequest .methodGET (some ['t', 'r', 'u', 'e']))
          (sampleAnswers 1 0 0 (some 0))]).map fun w => w.faults) =
      some [.usedAfterFree, .freedTwice] := by decide
  obtain ⟨w, hw, hfaults⟩ := Option.map_eq_some_iff.mp hrun
  refine ⟨w, vsamService.visits_of_run hw, hfaults, fun kept => ?_⟩
  rw [kept.faultless] at hfaults
  cases hfaults

end Zss.Datasets
