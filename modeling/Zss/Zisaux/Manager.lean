import Zss.Lib.Flags
import Zss.Lib.Machine
import Zss.Lib.Storage
import Zss.Lib.Table
import Zss.Zisaux.Request

/-!
# The AUX manager and its guests

`aux-manager.c`, the part that starts and stops guest address spaces. A guest has a communication
area, obtained for it and given to its termination exit, and two entries: its nickname and its ASCB
lead to the area. A stop finds the area by the nickname, has the address space terminated, waits for
the exit to post the area, and takes both entries and the area away.

A world is the manager with the guests it has started and not stopped. The guests are the system's,
not the manager's: they say what the registry is for. A run of `auxManager` is a sequence of starts,
stops and guests that end by themselves, with every outcome of the calls they make. `Registered` is
what such a run ought to keep, and `registered_iff` says which do: those in which no start comes to
register a nickname or an ASCB that is registered. A start checks neither, and the entry it replaces
was the only way to the area of an earlier guest.

The tables are common-c's, by their contract: a `put` of a known key replaces its value. The flags
that the host sets in the area and the fields of its own are left out.
-/

namespace Zss.Zisaux

open Zss.Lib

/-! ## Communication areas -/

def rcZisauxError : Int := 8
def rcZisauxCpoolAllocFailed : Int := 9
def rcZisauxCommNotAllocated : Int := 10
def rcZisauxPrintError : Int := 11
def rcZisauxAsNotStarted : Int := 12
def rcZisauxCommNotFound : Int := 13
def rcZisauxAsNotStopped : Int := 14
def rcZisauxBadEyecatcher : Int := 16
def rcZisauxNotManagerTcb : Int := 42

def zisauxHostFlagCommPcOn : BitVec 32 := 0x00000004

def zisAuxFlagReusasidNo : BitVec 32 := 0x00000001
def zisAuxFlagCommPcOff : BitVec 32 := 0x00000002

/-- `ZISAUXCommArea`, as far as the manager writes it. `termECB` is whether it was posted. -/
structure CommArea where
  flag : BitVec 32
  termECB : Bool
  stoken : Nat
  ascb : Nat
  parentASID : Nat

/-- What `allocCommArea` leaves in a new area. -/
def clearedCommArea : CommArea where
  flag := 0
  termECB := false
  stoken := 0
  ascb := 0
  parentASID := 0

/-- `setCommAreaFlags`. -/
def setCommAreaFlags (area : CommArea) (auxFlags : BitVec 32) : CommArea :=
  if hasFlag auxFlags zisAuxFlagCommPcOff then
    { area with flag := clearFlag area.flag zisauxHostFlagCommPcOn }
  else { area with flag := setFlag area.flag zisauxHostFlagCommPcOn }

/-- `auxTermExit`: the system calls it with the area of the guest that ends. -/
def auxTermExit (pool : Storage CommArea) (comm : Addr) : Storage CommArea :=
  pool.modify comm fun area => { area with termECB := true }

/-! ## The manager -/

/-- The key of a nickname: four characters behind four bytes of zeros. -/
abbrev Nickname := Text

def zisauxMgrEyecatcher : Text := ['Z', 'I', 'S', 'A', 'U', 'X', 'M', ' ']

def defaultHostSTC : Text := ['Z', 'W', 'E', 'S', 'A', 'U', 'X', ' ']

/-- `ZISAUXManager`. -/
structure Manager where
  eyecatcher : Text
  hostSTC : Text
  ascbToComm : Table Nat Addr
  nicknameToComm : Table Nickname Addr
  managerTCB : Nat
  commPool : Storage CommArea

/-- `zisauxMgrInit` under a task, with or without storage for the tables and for the pool. -/
def zisauxMgrInit (tcb : Nat) (ascbTable nicknameTable pool : Bool) : Except Int Manager :=
  if !ascbTable then .error rcZisauxError
  else if !nicknameTable then .error rcZisauxError
  else if !pool then .error rcZisauxCpoolAllocFailed
  else .ok {
    eyecatcher := zisauxMgrEyecatcher
    hostSTC := defaultHostSTC
    ascbToComm := Table.empty
    nicknameToComm := Table.empty
    managerTCB := tcb
    commPool := Storage.empty }

/-- The attributes that `makeASCREAttributes` sets. -/
structure Attributes where
  noswap : Bool
  reusasid : Bool

def makeASCREAttributes (auxFlags : BitVec 32) : Attributes where
  noswap := true
  reusasid := !hasFlag auxFlags zisAuxFlagReusasidNo

/-- A number as `%08X` prints its low word. -/
def hexWord (n : Nat) : Text := ((Nat.toDigits 16 (n % 2 ^ 32)).map Char.toUpper).leftpad 8 '0'

/-- The parm string of a host, in a buffer of a size. -/
def hostParm (size : Nat) (guestModuleName : Text) (comm : Addr) (guestParm : Option Text) : Text :=
  ([':', '=', ')', ',', 'M', 'O', 'D', '='] ++ guestModuleName ++
    [',', 'C', 'O', 'M', 'M', '='] ++ hexWord comm ++ [','] ++ guestParm.getD []).take (size - 1)

/-- An address space created with a termination exit, and the area the exit is given. -/
structure Guest where
  nickname : Nickname
  startCmd : Text
  hostParm : Text
  attributes : Attributes
  comm : Addr
  stoken : Nat
  ended : Bool

/-- The manager, and the guests it has started and not stopped. -/
structure GuestWorld where
  mgr : Manager
  guests : List Guest

/-- What a start meets: the caller's task, whether there is an area, what `snprintf` returns and how
long a parm string it has room for, and what the creation of the address space answers. -/
structure StartOutcome where
  tcb : Nat
  storage : Bool
  printRC : Int
  parmSize : Nat
  startRC : Nat
  startRSN : Nat
  ascb : Nat
  stoken : Nat
  parentASID : Nat

/-- The start comes to the creation of an address space, and there is one. -/
def StartOutcome.starts (env : StartOutcome) (mgr : Manager) : Bool :=
  env.tcb = mgr.managerTCB ∧ env.storage = true ∧ 0 ≤ env.printRC ∧ env.startRC = 0

/-- What a caller of the manager gets. -/
structure MgrReply where
  rc : Int
  reasonCode : Option Nat

/-- The entries of a new guest, and its area. -/
def registerGuest (mgr : Manager) (nickname : Nickname) (comm : Addr) (flags : BitVec 32)
    (env : StartOutcome) : Manager :=
  { mgr with
    nicknameToComm := mgr.nicknameToComm.put nickname comm
    ascbToComm := mgr.ascbToComm.put env.ascb comm
    commPool := mgr.commPool.modify comm fun area =>
      setCommAreaFlags
        { area with stoken := env.stoken, ascb := env.ascb, parentASID := env.parentASID } flags }

/-- `zisauxMgrStartGuest2`. -/
def zisauxMgrStartGuest2 (w : GuestWorld) (nickname guestModuleName : Text)
    (guestParm : Option Text) (flags : BitVec 32) (env : StartOutcome) : GuestWorld × MgrReply :=
  if w.mgr.eyecatcher ≠ zisauxMgrEyecatcher then (w, ⟨rcZisauxBadEyecatcher, none⟩)
  else if env.tcb ≠ w.mgr.managerTCB then (w, ⟨rcZisauxNotManagerTcb, none⟩)
  else if !env.storage then (w, ⟨rcZisauxCommNotAllocated, none⟩)
  else
    let comm := w.mgr.commPool.fresh
    let mgr := { w.mgr with commPool := w.mgr.commPool.obtain clearedCommArea }
    let freed := { mgr with commPool := mgr.commPool.release comm }
    if env.printRC < 0 then ({ w with mgr := freed }, ⟨rcZisauxPrintError, none⟩)
    else if env.startRC ≠ 0 then
      ({ w with mgr := freed },
        ⟨rcZisauxAsNotStarted, some (env.startRC <<< 16 ||| env.startRSN)⟩)
    else
      let guest := {
        nickname := nickname
        startCmd := mgr.hostSTC
        hostParm := hostParm env.parmSize guestModuleName comm guestParm
        attributes := makeASCREAttributes flags
        comm := comm
        stoken := env.stoken
        ended := false }
      ({ mgr := registerGuest mgr nickname comm flags env, guests := guest :: w.guests },
        ⟨rcZisauxOk, none⟩)

/-- The address space that a stop asks the system to terminate. -/
def stopTarget (mgr : Manager) (nickname : Nickname) : Option Nat :=
  ((mgr.nicknameToComm.get nickname).bind mgr.commPool.get).map (·.stoken)

/-- `zisauxMgrStopGuest`; `none` where the area it reads is not in use. Once the system has agreed,
the guest's exit posts the area, and the wait for that is over. -/
def zisauxMgrStopGuest (w : GuestWorld) (nickname : Nickname) (termRC : Int) :
    Option (GuestWorld × MgrReply) :=
  if w.mgr.eyecatcher ≠ zisauxMgrEyecatcher then some (w, ⟨rcZisauxBadEyecatcher, none⟩)
  else
    match w.mgr.nicknameToComm.get nickname with
    | none => some (w, ⟨rcZisauxCommNotFound, none⟩)
    | some comm =>
      (w.mgr.commPool.get comm).map fun area =>
        if termRC ≠ 0 then (w, ⟨rcZisauxAsNotStopped, none⟩)
        else
          ({ mgr := { w.mgr with
               nicknameToComm := w.mgr.nicknameToComm.remove nickname
               ascbToComm := w.mgr.ascbToComm.remove area.ascb
               commPool := (auxTermExit w.mgr.commPool comm).release comm }
             guests := w.guests.filter fun guest => guest.comm ≠ comm },
            ⟨rcZisauxOk, none⟩)

/-- The end of a guest's address space, unless there is no such guest or it has ended. -/
def guestEnds (w : GuestWorld) (comm : Addr) : GuestWorld :=
  if w.guests.any fun guest => guest.comm = comm ∧ guest.ended = false then
    { mgr := { w.mgr with commPool := auxTermExit w.mgr.commPool comm }
      guests := w.guests.map fun guest =>
        if guest.comm = comm then { guest with ended := true } else guest }
  else w

/-- What happens to the manager and its guests. -/
inductive ManagerStep where
  | start (nickname guestModuleName : Text) (guestParm : Option Text) (flags : BitVec 32)
      (env : StartOutcome)
  | stop (nickname : Nickname) (termRC : Int)
  | ends (comm : Addr)

/-- The manager under a sequence of calls and guests that end. -/
def auxManager : Machine GuestWorld ManagerStep where
  step w
    | .start nickname guestModuleName guestParm flags env =>
      some (zisauxMgrStartGuest2 w nickname guestModuleName guestParm flags env).1
    | .stop nickname termRC => (zisauxMgrStopGuest w nickname termRC).map Prod.fst
    | .ends comm => some (guestEnds w comm)

theorem auxManager_start (w : GuestWorld) (nickname guestModuleName : Text)
    (guestParm : Option Text) (flags : BitVec 32) (env : StartOutcome) :
    auxManager.step w (.start nickname guestModuleName guestParm flags env) =
      some (zisauxMgrStartGuest2 w nickname guestModuleName guestParm flags env).1 := rfl

theorem auxManager_stop (w : GuestWorld) (nickname : Nickname) (termRC : Int) :
    auxManager.step w (.stop nickname termRC) =
      (zisauxMgrStopGuest w nickname termRC).map Prod.fst := rfl

theorem auxManager_ends (w : GuestWorld) (comm : Addr) :
    auxManager.step w (.ends comm) = some (guestEnds w comm) := rfl

end Zss.Zisaux
