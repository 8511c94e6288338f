import Zss.Zisaux.Manager

/-!
# The registry of guests

What the manager's tables owe its guests (`Registered`), what they hold in any run (`Held`), and
which runs keep the first. A start that registers a nickname or an ASCB a second time leaves the
earlier guest's area in use, and out of one of the tables for good: the area names the ASCB it is
registered under and the table has one nickname for it.

## What is not established

That an address space comes up, or ends when it is stopped. Requests to the manager are taken one
after the other.
-/

namespace Zss.Zisaux

open Zss.Lib

/-! ## Two invariants -/

/-- A stop under the guest's nickname terminates the guest's address space, and if the system agrees
the guest is gone. -/
def Stoppable (w : GuestWorld) (guest : Guest) : Prop :=
  stopTarget w.mgr guest.nickname = some guest.stoken ∧
    ∃ v, zisauxMgrStopGuest w guest.nickname 0 = some (v, ⟨rcZisauxOk, none⟩) ∧ guest ∉ v.guests

/-- The registry as it ought to be. -/
structure Registered (w : GuestWorld) : Prop where
  paired : ∀ comm, w.mgr.nicknameToComm.Holds comm ↔ w.mgr.ascbToComm.Holds comm
  allocated : ∀ comm, w.mgr.commPool.Live comm ↔
    w.mgr.nicknameToComm.Holds comm ∧ w.mgr.ascbToComm.Holds comm
  stoppable : ∀ guest ∈ w.guests, Stoppable w guest

/-- What every run keeps: entries lead to areas in use, a nickname's to an area of its own and an
ASCB's to the area that names it, and the area of a guest is in use and names its address space. -/
structure Held (w : GuestWorld) : Prop where
  eyecatcher : w.mgr.eyecatcher = zisauxMgrEyecatcher
  named : ∀ n comm, w.mgr.nicknameToComm.get n = some comm → w.mgr.commPool.Live comm
  once : ∀ n m comm, w.mgr.nicknameToComm.get n = some comm →
    w.mgr.nicknameToComm.get m = some comm → n = m
  placed : ∀ a comm, w.mgr.ascbToComm.get a = some comm →
    ∃ area, w.mgr.commPool.get comm = some area ∧ area.ascb = a
  guest : ∀ guest ∈ w.guests, ∃ area, w.mgr.commPool.get guest.comm = some area ∧
    area.stoken = guest.stoken

/-- The registry's part of a start that registers: neither key is registered. -/
def RegistersFresh (w : GuestWorld) : ManagerStep → Prop
  | .start nickname _ _ _ env => env.starts w.mgr = true →
      w.mgr.nicknameToComm.get nickname = none ∧ w.mgr.ascbToComm.get env.ascb = none
  | .stop _ _ => True
  | .ends _ => True

/-! ## Stopping a guest -/

section

variable {w w' : GuestWorld}

theorem Held.ascb_once (held : Held w) {a b : Nat} {comm : Addr}
    (ha : w.mgr.ascbToComm.get a = some comm) (hb : w.mgr.ascbToComm.get b = some comm) :
    a = b := by
  obtain ⟨area, harea, rfl⟩ := held.placed a comm ha
  obtain ⟨area', harea', rfl⟩ := held.placed b comm hb
  rw [harea, Option.some.injEq] at harea'
  rw [harea']

/-- A guest can be stopped if its nickname leads to its area, and only then. -/
theorem stoppable_iff (held : Held w) {guest : Guest} (hg : guest ∈ w.guests) :
    Stoppable w guest ↔ w.mgr.nicknameToComm.get guest.nickname = some guest.comm := by
  have heye : ¬ w.mgr.eyecatcher ≠ zisauxMgrEyecatcher := fun h => h held.eyecatcher
  constructor
  · rintro ⟨htarget, v, hstop, hgone⟩
    rw [zisauxMgrStopGuest, if_neg heye] at hstop
    cases hn : w.mgr.nicknameToComm.get guest.nickname with
    | none =>
      rw [stopTarget, hn] at htarget
      cases htarget
    | some comm =>
      rw [hn] at hstop
      obtain ⟨area, harea⟩ := Storage.live_iff.mp (held.named _ comm hn)
      simp only [harea, Option.map_some, ne_eq, not_true_eq_false, if_false, Option.some.injEq,
        Prod.mk.injEq, and_true] at hstop
      subst hstop
      by_contra hne
      apply hgone
      rw [List.mem_filter]
      exact ⟨hg, by simpa using fun heq => hne (congrArg some heq.symm)⟩
  · intro hn
    obtain ⟨area, harea, hstoken⟩ := held.guest guest hg
    refine ⟨?_, ?_⟩
    · rw [stopTarget, hn, Option.bind_some, harea, Option.map_some, hstoken]
    · rw [zisauxMgrStopGuest, if_neg heye, hn]
      simp only [harea, Option.map_some, ne_eq, not_true_eq_false, if_false]
      refine ⟨_, rfl, ?_⟩
      intro hmem
      simp at hmem

/-! ## Steps that register nothing -/

/-- The tables and the areas, up to what the registry reads of them, and no guest more. -/
structure Unmoved (w w' : GuestWorld) : Prop where
  eyecatcher : w'.mgr.eyecatcher = w.mgr.eyecatcher
  nicknames : w'.mgr.nicknameToComm = w.mgr.nicknameToComm
  ascbs : w'.mgr.ascbToComm = w.mgr.ascbToComm
  areas : ∀ comm, (w'.mgr.commPool.get comm).map (fun area => (area.ascb, area.stoken)) =
    (w.mgr.commPool.get comm).map fun area => (area.ascb, area.stoken)
  guests : ∀ guest' ∈ w'.guests, ∃ guest ∈ w.guests, guest'.nickname = guest.nickname ∧
    guest'.comm = guest.comm ∧ guest'.stoken = guest.stoken

theorem Unmoved.live (same : Unmoved w w') (comm : Addr) :
    w'.mgr.commPool.Live comm ↔ w.mgr.commPool.Live comm := by
  have h := congrArg Option.isSome (same.areas comm)
  rw [Option.isSome_map, Option.isSome_map] at h
  rw [Storage.Live, Storage.Live, h]

theorem Unmoved.area (same : Unmoved w w') {comm : Addr} {area : CommArea}
    (h : w.mgr.commPool.get comm = some area) :
    ∃ area', w'.mgr.commPool.get comm = some area' ∧ area'.ascb = area.ascb ∧
      area'.stoken = area.stoken := by
  have hsame := same.areas comm
  rw [h, Option.map_some, Option.map_eq_some_iff] at hsame
  obtain ⟨area', harea', heq⟩ := hsame
  exact ⟨area', harea', congrArg Prod.fst heq, congrArg Prod.snd heq⟩

theorem Held.of_unmoved (held : Held w) (same : Unmoved w w') : Held w' where
  eyecatcher := same.eyecatcher.trans held.eyecatcher
  named n comm hn := (same.live comm).mpr (held.named n comm (same.nicknames ▸ hn))
  once n m comm hn hm := held.once n m comm (same.nicknames ▸ hn) (same.nicknames ▸ hm)
  placed a comm ha := by
    obtain ⟨area, harea, hascb⟩ := held.placed a comm (same.ascbs ▸ ha)
    obtain ⟨area', harea', hascb', -⟩ := same.area harea
    exact ⟨area', harea', hascb'.trans hascb⟩
  guest guest' hg' := by
    obtain ⟨guest, hg, -, hcomm, hstoken⟩ := same.guests guest' hg'
    obtain ⟨area, harea, heq⟩ := held.guest guest hg
    obtain ⟨area', harea', -, hstoken'⟩ := same.area harea
    exact ⟨area', hcomm ▸ harea', by rw [hstoken', heq, hstoken]⟩

theorem Registered.of_unmoved (held : Held w) (registered : Registered w) (same : Unmoved w w') :
    Registered w' where
  paired comm := by rw [same.nicknames, same.ascbs]; exact registered.paired comm
  allocated comm := by
    rw [same.nicknames, same.ascbs, same.live]
    exact registered.allocated comm
  stoppable guest' hg' := by
    obtain ⟨guest, hg, hnickname, hcomm, -⟩ := same.guests guest' hg'
    rw [stoppable_iff (held.of_unmoved same) hg', same.nicknames, hnickname, hcomm]
    exact (stoppable_iff held hg).mp (registered.stoppable guest hg)

theorem Unmoved.refl (w : GuestWorld) : Unmoved w w where
  eyecatcher := rfl
  nicknames := rfl
  ascbs := rfl
  areas _ := rfl
  guests guest hg := ⟨guest, hg, rfl, rfl, rfl⟩

theorem guestEnds_unmoved (w : GuestWorld) (comm : Addr) : Unmoved w (guestEnds w comm) := by
  unfold guestEnds
  split
  next =>
    refine ⟨rfl, rfl, rfl, ?_, ?_⟩
    · intro c
      by_cases hc : c = comm
      · subst hc
        rw [auxTermExit, Storage.get_modify_self, Option.map_map]
        rfl
      · rw [auxTermExit, Storage.get_modify_ne _ _ hc]
    · intro guest' hg'
      obtain ⟨guest, hg, rfl⟩ := List.mem_map.mp hg'
      refine ⟨guest, hg, ?_⟩
      split <;> exact ⟨rfl, rfl, rfl⟩
  next => exact Unmoved.refl w

/-! ## A start -/

/-- What a start does: it registers a guest, or leaves the registry as it was. -/
theorem zisauxMgrStartGuest2_cases (held : Held w) (nickname guestModuleName : Text)
    (guestParm : Option Text) (flags : BitVec 32) (env : StartOutcome) :
    (env.starts w.mgr = false ∧
      Unmoved w (zisauxMgrStartGuest2 w nickname guestModuleName guestParm flags env).1) ∨
    (env.starts w.mgr = true ∧ ∃ guest : Guest, guest.nickname = nickname ∧
      guest.comm = w.mgr.commPool.fresh ∧ guest.stoken = env.stoken ∧
      (zisauxMgrStartGuest2 w nickname guestModuleName guestParm flags env).1 =
        { mgr := registerGuest { w.mgr with commPool := w.mgr.commPool.obtain clearedCommArea }
            nickname w.mgr.commPool.fresh flags env
          guests := guest :: w.guests }) := by
  have heye : ¬ w.mgr.eyecatcher ≠ zisauxMgrEyecatcher := fun h => h held.eyecatcher
  have hfreed : Unmoved w { w with mgr := { w.mgr with
      commPool := (w.mgr.commPool.obtain clearedCommArea).release w.mgr.commPool.fresh } } :=
    { Unmoved.refl w with areas := fun comm => by rw [Storage.get_release_obtain] }
  rw [zisauxMgrStartGuest2, if_neg heye]
  unfold StartOutcome.starts
  by_cases htcb : env.tcb = w.mgr.managerTCB
  · rw [if_neg (not_not_intro htcb)]
    cases hstorage : env.storage with
    | false => exact .inl ⟨by simp, Unmoved.refl w⟩
    | true =>
      dsimp only
      rw [if_neg (by decide)]
      split
      next hprint => exact .inl ⟨by simp [hprint], hfreed⟩
      next hprint =>
        split
        next hstart => exact .inl ⟨by simp [hstart], hfreed⟩
        next hstart =>
          rw [not_not] at hstart
          rw [not_lt] at hprint
          exact .inr ⟨by simp [htcb, hprint, hstart], _, rfl, rfl, rfl, rfl⟩
  · rw [if_pos htcb]
    exact .inl ⟨by simp [htcb], Unmoved.refl w⟩

/-- The manager once a guest is registered. -/
def registeredMgr (mgr : Manager) (nickname : Nickname) (flags : BitVec 32) (env : StartOutcome) :
    Manager :=
  registerGuest { mgr with commPool := mgr.commPool.obtain clearedCommArea } nickname
    mgr.commPool.fresh flags env

section

variable {mgr : Manager} {nickname : Nickname} {flags : BitVec 32} {env : StartOutcome}

theorem registeredMgr_new (mgr : Manager) (nickname : Nickname) (flags : BitVec 32)
    (env : StartOutcome) : ∃ area,
      (registeredMgr mgr nickname flags env).commPool.get mgr.commPool.fresh = some area ∧
      area.ascb = env.ascb ∧ area.stoken = env.stoken := by
  refine ⟨_, by rw [registeredMgr, registerGuest, Storage.get_modify_self,
    Storage.get_obtain_fresh, Option.map_some], ?_⟩
  unfold setCommAreaFlags
  split <;> exact ⟨rfl, rfl⟩

theorem registeredMgr_old {comm : Addr} (hne : comm ≠ mgr.commPool.fresh) :
    (registeredMgr mgr nickname flags env).commPool.get comm = mgr.commPool.get comm := by
  rw [registeredMgr, registerGuest, Storage.get_modify_ne _ _ hne, Storage.get_obtain_ne _ _ hne]

theorem registeredMgr_live (comm : Addr) :
    (registeredMgr mgr nickname flags env).commPool.Live comm ↔
      comm = mgr.commPool.fresh ∨ mgr.commPool.Live comm := by
  by_cases hc : comm = mgr.commPool.fresh
  · obtain ⟨area, harea, -⟩ := registeredMgr_new mgr nickname flags env
    exact ⟨fun _ => .inl hc, fun _ => hc ▸ Storage.live_of_get harea⟩
  · rw [Storage.Live, registeredMgr_old hc, Storage.Live]
    exact ⟨.inr, fun h => h.resolve_left hc⟩

theorem registeredMgr_get {comm : Addr} {area : CommArea}
    (h : mgr.commPool.get comm = some area) :
    (registeredMgr mgr nickname flags env).commPool.get comm = some area := by
  rw [registeredMgr_old (Storage.ne_fresh_of_live (Storage.live_of_get h)), h]

end

theorem held_register (held : Held w) {guest : Guest} {flags : BitVec 32} {env : StartOutcome}
    (hcomm : guest.comm = w.mgr.commPool.fresh) (hstoken : guest.stoken = env.stoken) :
    Held ⟨registeredMgr w.mgr guest.nickname flags env, guest :: w.guests⟩ where
  eyecatcher := held.eyecatcher
  named n comm hn := by
    rw [registeredMgr_live]
    rcases Table.get_put_iff.mp hn with ⟨-, rfl⟩ | ⟨-, h⟩
    · exact .inl rfl
    · exact .inr (held.named n comm h)
  once n m comm hn hm := by
    rcases Table.get_put_iff.mp hn with ⟨rfl, rfl⟩ | ⟨-, hn⟩
    · rcases Table.get_put_iff.mp hm with ⟨rfl, -⟩ | ⟨-, hm⟩
      · rfl
      · exact absurd rfl (Storage.ne_fresh_of_live (held.named m _ hm))
    · rcases Table.get_put_iff.mp hm with ⟨-, rfl⟩ | ⟨-, hm⟩
      · exact absurd rfl (Storage.ne_fresh_of_live (held.named n _ hn))
      · exact held.once n m comm hn hm
  placed a comm ha := by
    rcases Table.get_put_iff.mp ha with ⟨rfl, rfl⟩ | ⟨-, h⟩
    · obtain ⟨area, harea, hascb, -⟩ := registeredMgr_new w.mgr guest.nickname flags env
      exact ⟨area, harea, hascb⟩
    · obtain ⟨area, harea, hascb⟩ := held.placed a comm h
      exact ⟨area, registeredMgr_get harea, hascb⟩
  guest other hg := by
    rcases List.mem_cons.mp hg with rfl | hg
    · obtain ⟨area, harea, -, hs⟩ := registeredMgr_new w.mgr other.nickname flags env
      exact ⟨area, hcomm ▸ harea, hs.trans hstoken.symm⟩
    · obtain ⟨area, harea, hs⟩ := held.guest other hg
      exact ⟨area, registeredMgr_get harea, hs⟩

/-- Registering new keys keeps the registry as it ought to be. -/
theorem registered_register (held : Held w) (registered : Registered w) {guest : Guest}
    {flags : BitVec 32} {env : StartOutcome} (hcomm : guest.comm = w.mgr.commPool.fresh)
    (hstoken : guest.stoken = env.stoken)
    (hnickname : w.mgr.nicknameToComm.get guest.nickname = none)
    (hascb : w.mgr.ascbToComm.get env.ascb = none) :
    Registered ⟨registeredMgr w.mgr guest.nickname flags env, guest :: w.guests⟩ where
  paired comm := by
    refine (Table.holds_put_iff hnickname).trans (Iff.trans ?_ (Table.holds_put_iff hascb).symm)
    show _ ∨ w.mgr.nicknameToComm.Holds comm ↔ _ ∨ w.mgr.ascbToComm.Holds comm
    rw [registered.paired comm]
  allocated comm := by
    have hn : (registeredMgr w.mgr guest.nickname flags env).nicknameToComm.Holds comm ↔
        comm = w.mgr.commPool.fresh ∨ w.mgr.nicknameToComm.Holds comm :=
      Table.holds_put_iff hnickname
    have ha : (registeredMgr w.mgr guest.nickname flags env).ascbToComm.Holds comm ↔
        comm = w.mgr.commPool.fresh ∨ w.mgr.ascbToComm.Holds comm := Table.holds_put_iff hascb
    rw [registeredMgr_live, hn, ha, registered.allocated comm, or_and_left]
  stoppable other hg := by
    rw [stoppable_iff (held_register held hcomm hstoken) hg]
    rcases List.mem_cons.mp hg with rfl | hg
    · rw [hcomm]
      exact Table.get_put_self _ _ _
    · have hold := (stoppable_iff held hg).mp (registered.stoppable other hg)
      have hne : other.nickname ≠ guest.nickname := by
        intro heq
        rw [heq, hnickname] at hold
        cases hold
      exact (Table.get_put_ne _ _ hne).trans hold

/-- Registering a known key leaves an area in use that is not in both tables. -/
theorem not_registered_register (held : Held w) {nickname : Nickname} {guests : List Guest}
    {flags : BitVec 32} {env : StartOutcome}
    (hknown : ¬ (w.mgr.nicknameToComm.get nickname = none ∧
      w.mgr.ascbToComm.get env.ascb = none)) :
    ¬ Registered ⟨registeredMgr w.mgr nickname flags env, guests⟩ := by
  intro registered
  cases hnickname : w.mgr.nicknameToComm.get nickname with
  | some comm =>
    have hlive := held.named nickname comm hnickname
    have hin := ((registered.allocated comm).mp
      ((registeredMgr_live comm).mpr (.inr hlive))).1
    exact Table.not_holds_put (Storage.ne_fresh_of_live hlive)
      (fun l hl => held.once l nickname comm hl hnickname) hin
  | none =>
    cases hascb : w.mgr.ascbToComm.get env.ascb with
    | none => exact hknown ⟨hnickname, hascb⟩
    | some comm =>
      obtain ⟨area, harea, -⟩ := held.placed env.ascb comm hascb
      have hlive := Storage.live_of_get harea
      have hin := ((registered.allocated comm).mp
        ((registeredMgr_live comm).mpr (.inr hlive))).2
      exact Table.not_holds_put (Storage.ne_fresh_of_live hlive)
        (fun l hl => held.ascb_once hl hascb) hin

/-! ## A stop -/

/-- What a stop does: it takes a guest's entries and area away, or nothing. -/
theorem zisauxMgrStopGuest_cases (held : Held w) (nickname : Nickname) (termRC : Int) :
    ∃ v reply, zisauxMgrStopGuest w nickname termRC = some (v, reply) ∧
      (v = w ∨ ∃ comm area, w.mgr.nicknameToComm.get nickname = some comm ∧
        w.mgr.commPool.get comm = some area ∧
        v = { mgr := { w.mgr with
                nicknameToComm := w.mgr.nicknameToComm.remove nickname
                ascbToComm := w.mgr.ascbToComm.remove area.ascb
                commPool := (auxTermExit w.mgr.commPool comm).release comm }
              guests := w.guests.filter fun guest => guest.comm ≠ comm }) := by
  rw [zisauxMgrStopGuest, if_neg fun h => h held.eyecatcher]
  cases hn : w.mgr.nicknameToComm.get nickname with
  | none => exact ⟨w, _, rfl, .inl rfl⟩
  | some comm =>
    obtain ⟨area, harea⟩ := Storage.live_iff.mp (held.named nickname comm hn)
    dsimp only
    rw [harea, Option.map_some]
    split
    next => exact ⟨w, _, rfl, .inl rfl⟩
    next => exact ⟨_, _, rfl, .inr ⟨comm, area, rfl, harea, rfl⟩⟩

/-- The world without a guest that was found by its nickname. -/
def stoppedWorld (w : GuestWorld) (nickname : Nickname) (comm : Addr) (area : CommArea) :
    GuestWorld where
  mgr := { w.mgr with
    nicknameToComm := w.mgr.nicknameToComm.remove nickname
    ascbToComm := w.mgr.ascbToComm.remove area.ascb
    commPool := (auxTermExit w.mgr.commPool comm).release comm }
  guests := w.guests.filter fun guest => guest.comm ≠ comm

theorem stoppedWorld_get {nickname : Nickname} {comm c : Addr} {area : CommArea} (hne : c ≠ comm) :
    (stoppedWorld w nickname comm area).mgr.commPool.get c = w.mgr.commPool.get c := by
  rw [stoppedWorld, Storage.get_release_ne _ hne, auxTermExit, Storage.get_modify_ne _ _ hne]

theorem held_stop (held : Held w) {nickname : Nickname} {comm : Addr} {area : CommArea}
    (hn : w.mgr.nicknameToComm.get nickname = some comm)
    (harea : w.mgr.commPool.get comm = some area) :
    Held (stoppedWorld w nickname comm area) where
  eyecatcher := held.eyecatcher
  named n c hleft := by
    obtain ⟨hne, h⟩ := Table.get_remove_iff.mp hleft
    have hc : c ≠ comm := by
      rintro rfl
      exact hne (held.once n nickname c h hn)
    rw [Storage.Live, stoppedWorld_get hc]
    exact held.named n c h
  once n m c h h' := held.once n m c (Table.get_remove_iff.mp h).2 (Table.get_remove_iff.mp h').2
  placed a c h := by
    obtain ⟨hne, h⟩ := Table.get_remove_iff.mp h
    obtain ⟨area', harea', hascb⟩ := held.placed a c h
    have hc : c ≠ comm := by
      rintro rfl
      rw [harea, Option.some.injEq] at harea'
      exact hne (hascb.symm.trans (congrArg CommArea.ascb harea'.symm))
    exact ⟨area', by rw [stoppedWorld_get hc, harea'], hascb⟩
  guest guest hg := by
    obtain ⟨hg, hc⟩ := List.mem_filter.mp hg
    rw [decide_eq_true_eq] at hc
    obtain ⟨area', harea', hstoken⟩ := held.guest guest hg
    exact ⟨area', by rw [stoppedWorld_get hc, harea'], hstoken⟩

/-- A stop takes the guest's area out of both tables, as both had it. -/
theorem registered_stop (held : Held w) (registered : Registered w) {nickname : Nickname}
    {comm : Addr} {area : CommArea} (hn : w.mgr.nicknameToComm.get nickname = some comm)
    (harea : w.mgr.commPool.get comm = some area) :
    Registered (stoppedWorld w nickname comm area) := by
  have ha : w.mgr.ascbToComm.get area.ascb = some comm := by
    obtain ⟨a, ha⟩ := (registered.paired comm).mp ⟨nickname, hn⟩
    obtain ⟨area', harea', rfl⟩ := held.placed a comm ha
    rw [harea, Option.some.injEq] at harea'
    rw [harea', ha]
  have nicknames : ∀ c, (stoppedWorld w nickname comm area).mgr.nicknameToComm.Holds c ↔
      c ≠ comm ∧ w.mgr.nicknameToComm.Holds c := fun c =>
    Table.holds_remove_iff hn fun l hl => held.once l nickname comm hl hn
  have ascbs : ∀ c, (stoppedWorld w nickname comm area).mgr.ascbToComm.Holds c ↔
      c ≠ comm ∧ w.mgr.ascbToComm.Holds c := fun c =>
    Table.holds_remove_iff ha fun l hl => held.ascb_once hl ha
  have areas : ∀ c, (stoppedWorld w nickname comm area).mgr.commPool.Live c ↔
      c ≠ comm ∧ w.mgr.commPool.Live c := by
    intro c
    by_cases hc : c = comm
    · subst hc
      exact ⟨fun h => absurd h (Storage.not_live_release_self _ c), fun h => absurd rfl h.1⟩
    · rw [Storage.Live, stoppedWorld_get hc, Storage.Live]
      exact ⟨fun h => ⟨hc, h⟩, And.right⟩
  refine ⟨?_, ?_, ?_⟩
  · intro c
    rw [nicknames, ascbs, registered.paired c]
  · intro c
    rw [nicknames, ascbs, areas, registered.allocated c, and_and_left]
  · intro guest hg
    rw [stoppable_iff (held_stop held hn harea) hg]
    obtain ⟨hmem, hc⟩ := List.mem_filter.mp hg
    rw [decide_eq_true_eq] at hc
    have hold := (stoppable_iff held hmem).mp (registered.stoppable guest hmem)
    have hne : guest.nickname ≠ nickname := by
      intro heq
      rw [heq, hn, Option.some.injEq] at hold
      exact hc hold.symm
    exact (Table.get_remove_ne _ hne).trans hold

/-! ## Runs -/

theorem step_held {step : ManagerStep} (held : Held w) (h : auxManager.step w step = some w') :
    Held w' := by
  cases step with
  | start nickname guestModuleName guestParm flags env =>
    rw [auxManager_start, Option.some.injEq] at h
    subst h
    rcases zisauxMgrStartGuest2_cases held nickname guestModuleName guestParm flags env with
      ⟨-, same⟩ | ⟨-, guest, rfl, hcomm, hstoken, heq⟩
    · exact held.of_unmoved same
    · rw [heq]
      exact held_register held hcomm hstoken
  | stop nickname termRC =>
    obtain ⟨v, reply, heq, hv⟩ := zisauxMgrStopGuest_cases held nickname termRC
    rw [auxManager_stop, heq, Option.map_some, Option.some.injEq] at h
    subst h
    rcases hv with rfl | ⟨comm, area, hn, harea, rfl⟩
    · exact held
    · exact held_stop held hn harea
  | ends comm =>
    rw [auxManager_ends, Option.some.injEq] at h
    exact h ▸ held.of_unmoved (guestEnds_unmoved w comm)

theorem step_registered {step : ManagerStep} (held : Held w) (registered : Registered w)
    (hc : RegistersFresh w step) (h : auxManager.step w step = some w') : Registered w' := by
  cases step with
  | start nickname guestModuleName guestParm flags env =>
    rw [auxManager_start, Option.some.injEq] at h
    subst h
    rcases zisauxMgrStartGuest2_cases held nickname guestModuleName guestParm flags env with
      ⟨-, same⟩ | ⟨hstarts, guest, rfl, hcomm, hstoken, heq⟩
    · exact registered.of_unmoved held same
    · rw [heq]
      obtain ⟨hnickname, hascb⟩ := hc hstarts
      exact registered_register held registered hcomm hstoken hnickname hascb
  | stop nickname termRC =>
    obtain ⟨v, reply, heq, hv⟩ := zisauxMgrStopGuest_cases held nickname termRC
    rw [auxManager_stop, heq, Option.map_some, Option.some.injEq] at h
    subst h
    rcases hv with rfl | ⟨comm, area, hn, harea, rfl⟩
    · exact registered
    · exact registered_stop held registered hn harea
  | ends comm =>
    rw [auxManager_ends, Option.some.injEq] at h
    exact h ▸ registered.of_unmoved held (guestEnds_unmoved w comm)

/-- A start that registers a known key. -/
theorem step_not_registered {step : ManagerStep} (held : Held w) (hc : ¬ RegistersFresh w step)
    (h : auxManager.step w step = some w') : ¬ Registered w' := by
  cases step with
  | start nickname guestModuleName guestParm flags env =>
    obtain ⟨hstarts, hknown⟩ := Classical.not_imp.mp hc
    rw [auxManager_start, Option.some.injEq] at h
    subst h
    rcases zisauxMgrStartGuest2_cases held nickname guestModuleName guestParm flags env with
      ⟨hnot, -⟩ | ⟨-, guest, rfl, -, -, heq⟩
    · rw [hstarts] at hnot
      cases hnot
    · rw [heq]
      exact not_registered_register held hknown
  | stop nickname termRC => exact absurd trivial hc
  | ends comm => exact absurd trivial hc

theorem step_enabled (step : ManagerStep) (held : Held w) :
    ∃ v, auxManager.step w step = some v := by
  cases step with
  | start nickname guestModuleName guestParm flags env => exact ⟨_, rfl⟩
  | stop nickname termRC =>
    obtain ⟨v, reply, heq, -⟩ := zisauxMgrStopGuest_cases held nickname termRC
    exact ⟨v, by rw [auxManager_stop, heq, Option.map_some]⟩
  | ends comm => exact ⟨_, rfl⟩

end

theorem zisauxMgrInit_held {tcb : Nat} {ascbTable nicknameTable pool : Bool} {mgr : Manager}
    (h : zisauxMgrInit tcb ascbTable nicknameTable pool = .ok mgr) :
    Held ⟨mgr, []⟩ ∧ Registered ⟨mgr, []⟩ := by
  unfold zisauxMgrInit at h
  split at h
  next => cases h
  next =>
    split at h
    next => cases h
    next =>
      split at h
      next => cases h
      next =>
        cases h
        refine ⟨⟨rfl, nofun, nofun, nofun, nofun⟩, ⟨?_, ?_, nofun⟩⟩
        · intro comm
          exact iff_of_false (Table.not_holds_empty comm) (Table.not_holds_empty comm)
        · intro comm
          refine iff_of_false ?_ fun h => Table.not_holds_empty comm h.1
          simp [Storage.Live]

/-- **The registry of guests, exactly.** Whatever is asked of an initialized manager, no area is
read or written that is not in use; and in every state on the way the two tables have the same
areas, these are the areas in use, and every guest can be found and stopped by its nickname, exactly
if no start registers a nickname or an ASCB that is registered. -/
theorem registered_iff {tcb : Nat} {ascbTable nicknameTable pool : Bool} {mgr : Manager}
    (start : zisauxMgrInit tcb ascbTable nicknameTable pool = .ok mgr) (steps : List ManagerStep) :
    (∃ u, auxManager.run ⟨mgr, []⟩ steps = some u) ∧
      ((∀ v, auxManager.Visits ⟨mgr, []⟩ steps v → Registered v) ↔
        auxManager.Meets RegistersFresh ⟨mgr, []⟩ steps) := by
  obtain ⟨held, registered⟩ := zisauxMgrInit_held start
  obtain ⟨u, hrun⟩ := auxManager.exists_run (fun s e t inv hstep => step_held inv hstep)
    (fun s e inv => step_enabled e inv) held steps
  refine ⟨⟨u, hrun⟩, ?_⟩
  exact auxManager.visits_iff_meets (fun s e t inv hstep => step_held inv hstep)
    (fun s e t inv hr hc hstep => step_registered inv hr hc hstep)
    (fun s e t inv hc hstep => step_not_registered inv hc hstep) held registered hrun

/-! ## A nickname used twice -/

def sampleMgr : Manager where
  eyecatcher := zisauxMgrEyecatcher
  hostSTC := defaultHostSTC
  ascbToComm := Table.empty
  nicknameToComm := Table.empty
  managerTCB := 1
  commPool := Storage.empty

/-- A start that finds storage and gets an address space. -/
def sampleStart (nickname : Nickname) (ascb stoken : Nat) : ManagerStep :=
  .start nickname ['M', 'O', 'D'] none 0
    { tcb := 1, storage := true, printRC := 40, parmSize := 100, startRC := 0, startRSN := 0,
      ascb := ascb, stoken := stoken, parentASID := 0x40 }

theorem registered_iff_sample :
    (∃ u, auxManager.run ⟨sampleMgr, []⟩ [sampleStart ['A'] 1 1, sampleStart ['B'] 2 2,
        .stop ['A'] 0, sampleStart ['A'] 1 3] = some u) ∧
      ((∀ v, auxManager.Visits ⟨sampleMgr, []⟩ [sampleStart ['A'] 1 1, sampleStart ['B'] 2 2,
          .stop ['A'] 0, sampleStart ['A'] 1 3] v → Registered v) ↔
        auxManager.Meets RegistersFresh ⟨sampleMgr, []⟩ [sampleStart ['A'] 1 1,
          sampleStart ['B'] 2 2, .stop ['A'] 0, sampleStart ['A'] 1 3]) :=
  registered_iff (rfl : zisauxMgrInit 1 true true true = .ok sampleMgr) _

/-- Two guests under one nickname: the second start succeeds, the first guest is never found again,
and its area stays in the ASCB table alone. -/
theorem second_guest_hides_first :
    ∃ u, auxManager.run ⟨sampleMgr, []⟩ [sampleStart ['A'] 1 1, sampleStart ['A'] 2 2] = some u ∧
      ¬ Registered u := by
  refine ⟨_, rfl, ?_⟩
  intro registered
  obtain ⟨n, hn⟩ := ((registered.allocated 0).mp (by decide +kernel)).1
  rcases Table.get_put_iff.mp hn with ⟨-, h⟩ | ⟨hne, h⟩
  · cases h
  · rcases Table.get_put_iff.mp h with ⟨rfl, -⟩ | ⟨-, h⟩
    · exact hne rfl
    · cases h

end Zss.Zisaux
