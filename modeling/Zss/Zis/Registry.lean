import Zss.Zis.Deploy

/-!
# What the registry's operations do to it

One inversion or one frame lemma for each operation of `server.c` on the registry, so that no
invariant has to unfold them. Three relations between the world before and the world after are all
the later proofs use.

* `Keeps`: what is reachable stays reachable and keeps its path. Every operation of a start does.
* `Quiet`: beyond that, no service anchor and no entry of the service table changes, and no service
  init is called. Everything a start does to a plugin, its services apart, is quiet.
* `ObtainedService` and `ActivatedService`: the outcomes of the two halves of the body of
  `installServices`.

A service anchor is reached in two ways: by the router through an entry of the service table
(`World.Entry`), by a start through the chain of its plugin's anchor (`World.Chained`). `Linked` says
that the first way leads nowhere the second does not, which is why a start that cleans the chains
leaves nothing of an earlier run to the router.
-/

namespace Zss.Zis

open Zss.Lib

variable {w w' : World} {path : ServicePath} {a b p : Addr} {plugin : Plugin} {service : Service}
  {env : ServiceEnv}

namespace World

/-! ## Reachability -/

/-- The service table sends a path to an anchor. -/
def Entry (w : World) (path : ServicePath) (a : Addr) : Prop :=
  ∃ table, w.serviceTable = some table ∧ crossMemoryMapGet table path = some a

/-- A plugin anchor of the chain, in storage. -/
def Anchored (w : World) (p : Addr) : Prop :=
  p ∈ w.pluginChain ∧ ∃ pa, w.pluginAnchors.read p = some pa

/-- A service anchor of a chain the server walks. -/
def Chained (w : World) (a : Addr) : Prop := ∃ p, w.Anchored p ∧ a ∈ w.serviceChain p

/-- Every entry of the service table leads to an anchor of its path, in a chain the server walks. -/
structure Linked (w : World) : Prop where
  entry : ∀ path a, w.Entry path a →
    ∃ anchor, w.serviceAnchors.read a = some anchor ∧ anchor.path = path
  chained : ∀ path a, w.Entry path a → w.Chained a

/-- The last service init called with an anchor. -/
def installer (w : World) (a : Addr) : Option (Plugin × Service × Int) :=
  w.calls.findSome? fun
    | .serviceInit plugin service b status =>
      if b = a then some (plugin, service, status) else none
    | _ => none

/-- What is reachable stays reachable, and an anchor's path stays what it is. -/
structure Keeps (w w' : World) : Prop where
  server : w.serverAnchor.isSome = true → w'.serverAnchor.isSome = true
  anchored : ∀ p, w.Anchored p → w'.Anchored p
  chained : ∀ a, w.Chained a → w'.Chained a
  path : ∀ a anchor, w.serviceAnchors.read a = some anchor →
    ∃ anchor', w'.serviceAnchors.read a = some anchor' ∧ anchor'.path = anchor.path
  plugins : ∀ plugin, plugin ∈ w.plugins.map (·.descriptor) →
    plugin ∈ w'.plugins.map (·.descriptor)
  calls : ∀ c, c ∈ w.calls → c ∈ w'.calls

/-- Beyond `Keeps`, no service is touched. -/
structure Quiet (w w' : World) : Prop extends Keeps w w' where
  anchors : w'.serviceAnchors = w.serviceAnchors
  table : w'.serviceTable = w.serviceTable
  installer : ∀ a, w'.installer a = w.installer a

theorem Keeps.refl (w : World) : Keeps w w :=
  ⟨fun h => h, fun _ h => h, fun _ h => h, fun _ anchor h => ⟨anchor, h, rfl⟩, fun _ h => h,
    fun _ h => h⟩

theorem Keeps.trans {u v w : World} (h : Keeps u v) (k : Keeps v w) : Keeps u w where
  server hs := k.server (h.server hs)
  anchored p hp := k.anchored p (h.anchored p hp)
  chained a ha := k.chained a (h.chained a ha)
  path a anchor hr := by
    obtain ⟨anchor', hr', hpath⟩ := h.path a anchor hr
    obtain ⟨anchor'', hr'', hpath'⟩ := k.path a anchor' hr'
    exact ⟨anchor'', hr'', hpath'.trans hpath⟩
  plugins plugin hin := k.plugins plugin (h.plugins plugin hin)
  calls c hin := k.calls c (h.calls c hin)

theorem Quiet.refl (w : World) : Quiet w w := ⟨.refl w, rfl, rfl, fun _ => rfl⟩

theorem Quiet.trans {u v w : World} (h : Quiet u v) (k : Quiet v w) : Quiet u w where
  toKeeps := h.toKeeps.trans k.toKeeps
  anchors := k.anchors.trans h.anchors
  table := k.table.trans h.table
  installer a := (k.installer a).trans (h.installer a)

/-- Entries are read off the service table. -/
theorem entry_congr (h : w'.serviceTable = w.serviceTable) : w'.Entry path a ↔ w.Entry path a := by
  unfold Entry
  rw [h]

/-- Linkage needs no more than the table it is about and what the operations keep. -/
theorem Linked.of_keeps (linked : w.Linked) (keeps : Keeps w w')
    (table : w'.serviceTable = w.serviceTable) : w'.Linked where
  entry path a h := by
    obtain ⟨anchor, hread, hpath⟩ := linked.entry path a ((entry_congr table).mp h)
    obtain ⟨anchor', hread', hpath'⟩ := keeps.path a anchor hread
    exact ⟨anchor', hread', hpath'.trans hpath⟩
  chained path a h := keeps.chained a (linked.chained path a ((entry_congr table).mp h))

/-! ## The callbacks -/

theorem installer_serviceInit (w : World) (plugin : Plugin) (service : Service) (a : Addr)
    (status : Int) :
    (w.called (.serviceInit plugin service a status)).installer a =
      some (plugin, service, status) := by
  simp [installer, called]

theorem installer_serviceInit_ne (w : World) (plugin : Plugin) (service : Service) (status : Int)
    (hne : b ≠ a) :
    (w.called (.serviceInit plugin service b status)).installer a = w.installer a := by
  simp [installer, called, hne]

/-- A call to anything but a service's init is quiet. -/
theorem called_quiet (w : World) {c : Callback}
    (hc : ∀ plugin service a status, c ≠ .serviceInit plugin service a status) :
    Quiet w (w.called c) where
  toKeeps := { Keeps.refl w with calls := fun _ h => List.mem_cons_of_mem _ h }
  anchors := rfl
  table := rfl
  installer a := by
    cases c with
    | serviceInit plugin service b status => exact absurd rfl (hc plugin service b status)
    | pluginInit | serviceInitOutcome | serviceTerm | pluginTerm => rfl

theorem called_keeps (w : World) (c : Callback) : Keeps w (w.called c) :=
  { Keeps.refl w with calls := fun _ h => List.mem_cons_of_mem _ h }

theorem Linked.called (linked : w.Linked) (c : Callback) : (w.called c).Linked :=
  linked.of_keeps (called_keeps w c) rfl

/-! ## Service anchors -/

/-- A change to one service anchor that spares its path. -/
theorem updateService_keeps (w : World) (a : Addr) {f : ServiceAnchor → ServiceAnchor}
    (hf : ∀ x, (f x).path = x.path) : Keeps w (w.updateService a f) where
  server h := h
  anchored _ h := h
  chained _ h := h
  path b anchor hread := by
    by_cases hb : a = b
    · subst hb
      exact ⟨f anchor, by simp [updateService, hread], hf anchor⟩
    · exact ⟨anchor, by rw [updateService, Heap.read_update_ne _ f hb, hread], rfl⟩
  plugins _ h := h
  calls _ h := h

/-- A new anchor joins the chain of its plugin's anchor. -/
theorem linkServiceAnchor_keeps (w : World) (p : Addr) (anchor : ServiceAnchor) :
    Keeps w (linkServiceAnchor w p anchor) where
  server h := h
  anchored _ hq := ⟨hq.1, hq.2.elim fun _ hpa => Heap.exists_read_update hpa _ _⟩
  chained b := by
    rintro ⟨q, ⟨hq, pa, hpa⟩, hb⟩
    refine ⟨q, ⟨hq, Heap.exists_read_update hpa _ _⟩, ?_⟩
    by_cases hqp : p = q
    · subst hqp
      simp only [serviceChain, hpa, Option.map_some, Option.getD_some, linkServiceAnchor,
        Heap.read_update_self] at hb ⊢
      exact List.mem_cons_of_mem _ hb
    · simp only [serviceChain, linkServiceAnchor, Heap.read_update_ne _ _ hqp] at hb ⊢
      exact hb
  path b x hread := ⟨x, Heap.read_alloc_of_some hread, rfl⟩
  plugins _ h := h
  calls _ h := h

/-- The anchor just linked is in a chain the server walks. -/
theorem linkServiceAnchor_chained (hp : w.Anchored p) (anchor : ServiceAnchor) :
    (linkServiceAnchor w p anchor).Chained w.serviceAnchors.fresh := by
  obtain ⟨pa, hpa⟩ := hp.2
  refine ⟨p, (linkServiceAnchor_keeps w p anchor).anchored p hp, ?_⟩
  simp [serviceChain, linkServiceAnchor, hpa]

/-- What `findServiceAnchor` answers is a live anchor of the plugin's chain. -/
theorem findServiceAnchor_some {name : Text} {anchor : ServiceAnchor}
    (h : findServiceAnchor w p name = some (a, anchor)) :
    a ∈ w.serviceChain p ∧ w.serviceAnchors.read a = some anchor ∧
      serviceAnchorMatches name anchor = true := by
  unfold findServiceAnchor at h
  obtain ⟨b, hb, hread⟩ := List.exists_of_findSome?_eq_some h
  split at hread
  · next x hx =>
    split at hread
    · next hm =>
      simp only [Option.some.injEq, Prod.mk.injEq] at hread
      obtain ⟨rfl, rfl⟩ := hread
      exact ⟨hb, hx, hm⟩
    · exact absurd hread (by simp)
  · exact absurd hread (by simp)

end World

/-! ## The anchor a service gets -/

/-- The outcomes of `obtainServiceAnchor`. -/
inductive ObtainedService (storage : Bool) (w : World) (plugin : Plugin) (p : Addr)
    (service : Service) : World × Option (Addr × ServicePath) → Prop
  | updated {a : Addr} {anchor : ServiceAnchor} :
      findServiceAnchor w p service.name = some (a, anchor) →
      isServiceAnchorCompatible service anchor = true →
      ObtainedService storage w plugin p service
        (w.updateService a fun anchor => zisUpdateServiceAnchor anchor service,
          some (a, anchor.path))
  | replaced {a : Addr} {old anchor : ServiceAnchor} :
      findServiceAnchor w p service.name = some (a, old) →
      isServiceAnchorCompatible service old = false →
      zisCreateServiceAnchor storage plugin service = some anchor →
      ObtainedService storage w plugin p service
        (linkServiceAnchor (w.updateService a discardServiceAnchor) p anchor,
          some ((w.updateService a discardServiceAnchor).serviceAnchors.fresh, anchor.path))
  | discarded {a : Addr} {old : ServiceAnchor} :
      findServiceAnchor w p service.name = some (a, old) →
      isServiceAnchorCompatible service old = false →
      zisCreateServiceAnchor storage plugin service = none →
      ObtainedService storage w plugin p service (w.updateService a discardServiceAnchor, none)
  | created {anchor : ServiceAnchor} :
      findServiceAnchor w p service.name = none →
      zisCreateServiceAnchor storage plugin service = some anchor →
      ObtainedService storage w plugin p service
        (linkServiceAnchor w p anchor, some (w.serviceAnchors.fresh, anchor.path))
  | refused :
      findServiceAnchor w p service.name = none →
      zisCreateServiceAnchor storage plugin service = none →
      ObtainedService storage w plugin p service (w, none)

/-- **`obtainServiceAnchor`, read backwards.** -/
theorem obtainServiceAnchor_obtained (storage : Bool) (w : World) (plugin : Plugin) (p : Addr)
    (service : Service) :
    ObtainedService storage w plugin p service
      (obtainServiceAnchor storage w plugin p service) := by
  unfold obtainServiceAnchor createServiceAnchor
  split
  · next a old hfind =>
    split
    · next hcompat => exact .updated hfind hcompat
    · next hcompat =>
      split
      · next hnone => exact .discarded hfind (Bool.not_eq_true _ ▸ hcompat) hnone
      · next anchor hsome => exact .replaced hfind (Bool.not_eq_true _ ▸ hcompat) hsome
  · next hfind =>
    split
    · next hnone => exact .refused hfind hnone
    · next anchor hsome => exact .created hfind hsome

/-- An update spares an anchor's path. -/
theorem zisUpdateServiceAnchor_path (service : Service) (anchor : ServiceAnchor) :
    (zisUpdateServiceAnchor anchor service).path = anchor.path :=
  (zisUpdateServiceAnchor_identity anchor service).1

theorem discardServiceAnchor_path (anchor : ServiceAnchor) :
    (discardServiceAnchor anchor).path = anchor.path := rfl

/-- Whatever comes of it, obtaining an anchor keeps what is reachable, calls nothing and leaves the
service table alone. -/
theorem ObtainedService.frame {storage : Bool} {r : World × Option (Addr × ServicePath)}
    (h : ObtainedService storage w plugin p service r) :
    World.Keeps w r.1 ∧ r.1.serviceTable = w.serviceTable ∧ r.1.calls = w.calls ∧
      r.1.plugins = w.plugins := by
  cases h with
  | updated =>
    exact ⟨World.updateService_keeps _ _ (zisUpdateServiceAnchor_path service), rfl, rfl, rfl⟩
  | @replaced a =>
    have keeps := World.updateService_keeps w a discardServiceAnchor_path
    exact ⟨keeps.trans (World.linkServiceAnchor_keeps _ _ _), rfl, rfl, rfl⟩
  | discarded => exact ⟨World.updateService_keeps _ _ discardServiceAnchor_path, rfl, rfl, rfl⟩
  | created => exact ⟨World.linkServiceAnchor_keeps _ _ _, rfl, rfl, rfl⟩
  | refused => exact ⟨.refl _, rfl, rfl, rfl⟩

/-- Obtaining an anchor is not installing it. -/
theorem ObtainedService.installer {storage : Bool} {o : Option (Addr × ServicePath)}
    (h : ObtainedService storage w plugin p service (w', o)) (b : Addr) :
    w'.installer b = w.installer b := by
  have calls : w'.calls = w.calls := h.frame.2.2.1
  rw [World.installer, calls, World.installer]

/-- The anchor a service gets carries its descriptor, stands in a chain and under the path the
service table is given. -/
theorem ObtainedService.anchor {storage : Bool}
    (h : ObtainedService storage w plugin p service (w', some (a, path))) (hp : w.Anchored p) :
    w'.Chained a ∧ ∃ anchor, w'.serviceAnchors.read a = some anchor ∧ anchor.path = path ∧
      Carries anchor service := by
  cases h with
  | @updated a anchor hfind hcompat =>
    obtain ⟨hin, hread, -⟩ := World.findServiceAnchor_some hfind
    refine ⟨⟨p, hp, hin⟩, zisUpdateServiceAnchor anchor service, ?_,
      zisUpdateServiceAnchor_path service anchor, update_carries hcompat⟩
    simp [World.updateService, hread]
  | @replaced a old anchor hfind hcompat hsome =>
    have hp' : (w.updateService a discardServiceAnchor).Anchored p := hp
    exact ⟨World.linkServiceAnchor_chained hp' anchor, anchor, Heap.read_alloc_fresh _ _, rfl,
      (zisCreateServiceAnchor_some hsome).2.2.2⟩
  | @created anchor hfind hsome =>
    exact ⟨World.linkServiceAnchor_chained hp anchor, anchor, Heap.read_alloc_fresh _ _, rfl,
      (zisCreateServiceAnchor_some hsome).2.2.2⟩

/-- What obtaining an anchor does to the other anchors: nothing, or to discard the one found. -/
theorem ObtainedService.others {storage : Bool} {r : World × Option (Addr × ServicePath)}
    (h : ObtainedService storage w plugin p service r) {x : ServiceAnchor}
    (hb : ∀ path, r.2 ≠ some (b, path)) (hread : r.1.serviceAnchors.read b = some x) :
    w.serviceAnchors.read b = some x ∨
      ∃ old, findServiceAnchor w p service.name = some (b, old) ∧
        isServiceAnchorCompatible service old = false ∧
        w.serviceAnchors.read b = some old ∧ x = discardServiceAnchor old := by
  have discarded : ∀ {a : Addr} {old : ServiceAnchor},
      findServiceAnchor w p service.name = some (a, old) →
      isServiceAnchorCompatible service old = false →
      (w.updateService a discardServiceAnchor).serviceAnchors.read b = some x →
      w.serviceAnchors.read b = some x ∨
        ∃ old, findServiceAnchor w p service.name = some (b, old) ∧
          isServiceAnchorCompatible service old = false ∧
          w.serviceAnchors.read b = some old ∧ x = discardServiceAnchor old := by
    intro a old hfind hcompat hread
    obtain ⟨rfl, old', hold, rfl⟩ | ⟨-, hsame⟩ := Heap.read_update_cases hread
    · have := (World.findServiceAnchor_some hfind).2.1
      rw [hold, Option.some.injEq] at this
      exact .inr ⟨old', this ▸ hfind, this ▸ hcompat, hold, rfl⟩
    · exact .inl hsame
  cases h with
  | @updated a anchor hfind hcompat =>
    obtain ⟨rfl, -⟩ | ⟨-, hsame⟩ := Heap.read_update_cases hread
    · exact absurd rfl (hb anchor.path)
    · exact .inl hsame
  | @replaced a old anchor hfind hcompat hsome =>
    obtain ⟨rfl, -⟩ | hsame := Heap.read_alloc_cases hread
    · exact absurd rfl (hb anchor.path)
    · exact discarded hfind hcompat hsame
  | discarded hfind hcompat => exact discarded hfind hcompat hread
  | @created anchor hfind hsome =>
    obtain ⟨rfl, -⟩ | hsame := Heap.read_alloc_cases hread
    · exact absurd rfl (hb anchor.path)
    · exact .inl hsame
  | refused => exact .inl hread

/-! ## The service table -/

theorem crossMemoryMapGet_assign (table : CrossMemoryMap) (path : ServicePath) (a : Addr)
    (k : ServicePath) :
    crossMemoryMapGet (crossMemoryMapAssign table path a) k =
      if k = path then (crossMemoryMapGet table k).map fun _ => a
      else crossMemoryMapGet table k := by
  induction table with
  | nil => simp [crossMemoryMapGet, crossMemoryMapAssign]
  | cons e table ih =>
    obtain ⟨key, b⟩ := e
    simp only [crossMemoryMapGet, crossMemoryMapAssign, List.map_cons] at ih ⊢
    by_cases hkey : key = path
    · subst hkey
      by_cases hk : k = key
      · simp [hk]
      · simp only [↓reduceIte, List.lookup_cons, beq_eq_false_iff_ne.mpr hk, ih, if_neg hk]
    · by_cases hk : k = key
      · subst hk
        simp [hkey]
      · simp only [if_neg hkey, List.lookup_cons, beq_eq_false_iff_ne.mpr hk, ih]

/-- A `put` that succeeds, followed by the assignment for a key that was known, sends the path to
the anchor and no other path anywhere new. -/
theorem crossMemoryMapPut_get {storage : Bool} {table : CrossMemoryMap}
    (hput : (crossMemoryMapPut storage table path a).2 ≠ -1) (k : ServicePath) :
    crossMemoryMapGet
        (if (crossMemoryMapPut storage table path a).2 = 1 then
          crossMemoryMapAssign (crossMemoryMapPut storage table path a).1 path a
        else (crossMemoryMapPut storage table path a).1) k =
      if k = path then some a else crossMemoryMapGet table k := by
  unfold crossMemoryMapPut at hput ⊢
  by_cases hknown : (table.lookup path).isSome
  · simp only [hknown, ↓reduceIte, crossMemoryMapGet_assign]
    by_cases hk : k = path
    · subst hk
      obtain ⟨b, hb⟩ := Option.isSome_iff_exists.mp hknown
      simp [crossMemoryMapGet, hb]
    · simp [hk]
  · cases storage with
    | false => simp [hknown] at hput
    | true =>
      simp only [hknown, Bool.false_eq_true, ↓reduceIte, zero_ne_one, crossMemoryMapGet,
        List.lookup_cons]
      by_cases hk : k = path
      · simp [hk]
      · simp [hk, beq_eq_false_iff_ne.mpr hk]

/-- A `put` fails only for a path the table does not have. -/
theorem crossMemoryMapPut_failed {storage : Bool} {table : CrossMemoryMap}
    (hput : (crossMemoryMapPut storage table path a).2 = -1) :
    storage = false ∧ crossMemoryMapGet table path = none := by
  unfold crossMemoryMapPut at hput
  by_cases hknown : (table.lookup path).isSome
  · simp [hknown] at hput
  · cases storage with
    | false => exact ⟨rfl, Option.not_isSome_iff_eq_none.mp hknown⟩
    | true => simp [hknown] at hput

/-! ## The activation of a service -/

/-- The outcomes of `activateService`. -/
inductive ActivatedService (env : ServiceEnv) (w : World) (plugin : Plugin) (service : Service)
    (a : Addr) (path : ServicePath) : World × Exit → Prop
  | failed :
      callServiceInit env.init service ≠ rcZisOk →
      ActivatedService env w plugin service a path
        (w.called (.serviceInit plugin service a (callServiceInit env.init service)), .next)
  | noTable :
      callServiceInit env.init service = rcZisOk → w.serviceTable = none →
      ActivatedService env w plugin service a path
        (w.called (.serviceInit plugin service a rcZisOk), .abend)
  | noEntry :
      callServiceInit env.init service = rcZisOk → env.mapStorage = false →
      (∀ b, ¬ w.Entry path b) →
      ActivatedService env w plugin service a path
        (w.called (.serviceInit plugin service a rcZisOk), .error rcZisError)
  | activated {table : CrossMemoryMap} :
      callServiceInit env.init service = rcZisOk →
      (env.mapStorage = true ∨ ∃ b, w.Entry path b) → w.serverAnchor.isSome = true →
      (∀ k b, crossMemoryMapGet table k = some b ↔
        (k = path ∧ b = a) ∨ (k ≠ path ∧ w.Entry k b)) →
      ActivatedService env w plugin service a path
        (((w.called (.serviceInit plugin service a rcZisOk)).setServiceTable
          (some table)).updateService a activateServiceAnchor, .next)

/-- **`activateService`, read backwards.** -/
theorem activateService_activated (env : ServiceEnv) (w : World) (plugin : Plugin)
    (service : Service) (a : Addr) (path : ServicePath) :
    ActivatedService env w plugin service a path
      (activateService env w plugin service a path) := by
  unfold activateService
  by_cases hinit : callServiceInit env.init service = rcZisOk
  · have htable : (w.called (.serviceInit plugin service a rcZisOk)).serviceTable =
        w.serviceTable := rfl
    simp only [hinit, ne_eq, not_true_eq_false, ↓reduceIte, htable]
    split
    · next hnone => exact .noTable hinit hnone
    · next table hsome =>
      have hentry : ∀ k b, w.Entry k b ↔ crossMemoryMapGet table k = some b := by
        intro k b
        simp [World.Entry, hsome]
      have hserver : w.serverAnchor.isSome = true := by
        cases hs : w.serverAnchor with
        | none => simp [World.serviceTable, hs] at hsome
        | some _ => rfl
      split
      · next hput =>
        obtain ⟨hstorage, hget⟩ := crossMemoryMapPut_failed hput
        exact .noEntry hinit hstorage fun b hb => by simp [hentry, hget] at hb
      · next hput =>
        refine .activated hinit ?_ hserver fun k b => ?_
        · by_contra hno
          obtain ⟨hstorage, hnone⟩ := not_or.mp hno
          refine hput ?_
          have : table.lookup path = none := by
            cases hl : table.lookup path with
            | none => rfl
            | some b => exact absurd ⟨b, (hentry path b).mpr hl⟩ hnone
          simp [crossMemoryMapPut, this, Bool.not_eq_true _ ▸ hstorage]
        · rw [crossMemoryMapPut_get hput, hentry]
          by_cases hk : k = path
          · simp [hk, eq_comm]
          · simp [hk]
  · simp only [ne_eq, hinit, not_false_eq_true, ↓reduceIte]
    exact .failed hinit

/-- Activating a service keeps what is reachable, whatever comes of it. -/
theorem ActivatedService.keeps {r : World × Exit}
    (h : ActivatedService env w plugin service a path r) : World.Keeps w r.1 := by
  cases h with
  | failed | noTable | noEntry => exact World.called_keeps w _
  | @activated table _ _ hserver _ =>
    obtain ⟨server, hserver⟩ := Option.isSome_iff_exists.mp hserver
    have setTable : World.Keeps (w.called (.serviceInit plugin service a rcZisOk))
        ((w.called (.serviceInit plugin service a rcZisOk)).setServiceTable (some table)) := by
      have chain : ((w.called (.serviceInit plugin service a rcZisOk)).setServiceTable
          (some table)).pluginChain = w.pluginChain := by
        simp [World.pluginChain, World.setServiceTable, World.called, hserver]
      have anchored : ∀ p, ((w.called (.serviceInit plugin service a rcZisOk)).setServiceTable
          (some table)).Anchored p ↔ w.Anchored p := by
        intro p
        rw [World.Anchored, chain]
        rfl
      exact
        { World.Keeps.refl _ with
          server := fun _ => by simp [World.setServiceTable, World.called, hserver]
          anchored := fun p hp => (anchored p).mpr hp
          chained := fun b ⟨p, hp, hb⟩ => ⟨p, (anchored p).mpr hp, hb⟩ }
    exact (World.called_keeps w _).trans
      (setTable.trans (World.updateService_keeps _ a fun _ => rfl))

/-- The entries after an activation are the entries before it, but for the activated path. -/
theorem World.entry_activated {c : Callback} {table : CrossMemoryMap} {k : ServicePath}
    {f : ServiceAnchor → ServiceAnchor} (hserver : w.serverAnchor.isSome = true) :
    (((w.called c).setServiceTable (some table)).updateService a f).Entry k b ↔
      crossMemoryMapGet table k = some b := by
  obtain ⟨server, hserver⟩ := Option.isSome_iff_exists.mp hserver
  simp [World.Entry, World.serviceTable, World.updateService, World.setServiceTable,
    World.called, hserver]

/-- Activating a linked anchor under its own path keeps the registry linked. -/
theorem ActivatedService.linked {r : World × Exit} {anchor : ServiceAnchor}
    (h : ActivatedService env w plugin service a path r) (linked : w.Linked)
    (chained : w.Chained a) (hread : w.serviceAnchors.read a = some anchor)
    (hpath : anchor.path = path) : r.1.Linked := by
  have keeps := h.keeps
  cases h with
  | failed | noTable | noEntry => exact linked.of_keeps keeps rfl
  | activated _ _ hserver hget =>
    refine ⟨fun k b hb => ?_, fun k b hb => ?_⟩
    · rcases (hget k b).mp ((World.entry_activated hserver).mp hb) with ⟨rfl, rfl⟩ | ⟨-, hold⟩
      · obtain ⟨x, hx, hp⟩ := keeps.path b anchor hread
        exact ⟨x, hx, hp.trans hpath⟩
      · obtain ⟨y, hy, hyp⟩ := linked.entry k b hold
        obtain ⟨x, hx, hp⟩ := keeps.path b y hy
        exact ⟨x, hx, hp.trans hyp⟩
    · rcases (hget k b).mp ((World.entry_activated hserver).mp hb) with ⟨rfl, rfl⟩ | ⟨-, hold⟩
      · exact keeps.chained b chained
      · exact keeps.chained b (linked.chained k b hold)

/-- **What the router reaches after an activation**: the anchor of the service under its path, as it
was or activated, or an anchor that was reachable and is untouched. -/
theorem ActivatedService.entry {r : World × Exit} {anchor : ServiceAnchor}
    (h : ActivatedService env w plugin service a path r) (linked : w.Linked)
    (hread : w.serviceAnchors.read a = some anchor) (hpath : anchor.path = path) {k : ServicePath}
    {x : ServiceAnchor} (hentry : r.1.Entry k b) (hx : r.1.serviceAnchors.read b = some x) :
    (b = a ∧ k = path ∧
        r.1.installer a = some (plugin, service, callServiceInit env.init service) ∧
        ((x = anchor ∧ callServiceInit env.init service ≠ rcZisOk) ∨
          (x = activateServiceAnchor anchor ∧ callServiceInit env.init service = rcZisOk ∧
            (env.mapStorage = true ∨ ∃ c, w.Entry path c)))) ∨
      (b ≠ a ∧ w.Entry k b ∧ w.serviceAnchors.read b = some x ∧
        r.1.installer b = w.installer b ∧
        (callServiceInit env.init service = rcZisOk → k ≠ path)) := by
  have ownPath : ∀ k, w.Entry k a → k = path := fun k hk => by
    obtain ⟨y, hy, hyp⟩ := linked.entry k a hk
    rw [hread, Option.some.injEq] at hy
    rw [← hyp, ← hy, hpath]
  cases h with
  | failed hinit =>
    by_cases hb : b = a
    · subst hb
      have : x = anchor := Option.some.inj (hx.symm.trans hread)
      exact .inl ⟨rfl, ownPath k hentry, World.installer_serviceInit .., .inl ⟨this, hinit⟩⟩
    · exact .inr ⟨hb, hentry, hx, World.installer_serviceInit_ne _ _ _ _ (Ne.symm hb),
        fun hok => absurd hok hinit⟩
  | noTable hinit hnone =>
    obtain ⟨table, htable, -⟩ := hentry
    exact absurd (hnone.symm.trans htable) (by simp)
  | noEntry hinit _ hnoEntry =>
    by_cases hb : b = a
    · subst hb
      exact absurd (ownPath k hentry ▸ hentry) (hnoEntry b)
    · exact .inr ⟨hb, hentry, hx, World.installer_serviceInit_ne _ _ _ _ (Ne.symm hb),
        fun _ hk => hnoEntry b (hk ▸ hentry)⟩
  | activated hinit hroom hserver hget =>
    rcases (hget k b).mp ((World.entry_activated hserver).mp hentry) with ⟨rfl, rfl⟩ | ⟨hk, hold⟩
    · have hx' : x = activateServiceAnchor anchor := by
        have hb : (w.serviceAnchors.update b activateServiceAnchor).read b = some x := hx
        rw [Heap.read_update_self, hread, Option.map_some, Option.some.injEq] at hb
        exact hb.symm
      exact .inl ⟨rfl, rfl, hinit ▸ World.installer_serviceInit w plugin service b _,
        .inr ⟨hx', hinit, hroom⟩⟩
    · have hb : b ≠ a := fun hba => hk (ownPath k (hba ▸ hold))
      have hx' : (w.serviceAnchors.update a activateServiceAnchor).read b = some x := hx
      rw [Heap.read_update_ne _ _ (Ne.symm hb)] at hx'
      exact .inr ⟨hb, hold, hx', World.installer_serviceInit_ne w plugin service _ (Ne.symm hb),
        fun _ => hk⟩

/-- The outcomes of `installService`. -/
inductive InstalledService (env : ServiceEnv) (w : World) (plugin : Plugin) (p : Addr)
    (service : Service) : World × Option Addr × Exit → Prop
  | refused {w' : World} :
      ObtainedService env.anchorStorage w plugin p service (w', none) →
      InstalledService env w plugin p service (w', service.anchor, .error rcZisError)
  | obtained {w' : World} {a : Addr} {path : ServicePath} {r : World × Exit} :
      ObtainedService env.anchorStorage w plugin p service (w', some (a, path)) →
      ActivatedService env (w'.called (.serviceInitOutcome plugin service a env.init)) plugin
        service a path r →
      InstalledService env w plugin p service (r.1, some a, r.2)

/-- **`installService`, read backwards.** -/
theorem installService_installed (env : ServiceEnv) (w : World) (plugin : Plugin) (p : Addr)
    (service : Service) :
    InstalledService env w plugin p service (installService env w plugin p service) := by
  have obtained := obtainServiceAnchor_obtained env.anchorStorage w plugin p service
  unfold installService
  split
  · next w' heq =>
    rw [heq] at obtained
    exact .refused obtained
  · next w' a path heq =>
    rw [heq] at obtained
    exact .obtained obtained (activateService_activated env _ plugin service a path)

/-- Installing a service keeps what is reachable. -/
theorem installService_keeps (env : ServiceEnv) (w : World) (plugin : Plugin) (p : Addr)
    (service : Service) : World.Keeps w (installService env w plugin p service).1 := by
  have installed := installService_installed env w plugin p service
  generalize installService env w plugin p service = r at installed
  cases installed with
  | refused obtained => exact obtained.frame.1
  | obtained obtained activated =>
    exact obtained.frame.1.trans ((World.called_keeps _ _).trans activated.keeps)

/-- Installing a service never loses the service table. -/
theorem installService_table (h : w.serviceTable.isSome = true) :
    (installService env w plugin p service).1.serviceTable.isSome = true := by
  have installed := installService_installed env w plugin p service
  generalize installService env w plugin p service = r at installed
  cases installed with
  | refused obtained => exact obtained.frame.2.1 ▸ h
  | @obtained w' a path r obtained activated =>
    have h' : w'.serviceTable.isSome = true := obtained.frame.2.1 ▸ h
    cases activated with
    | failed | noTable | noEntry => exact h'
    | activated _ _ hserver =>
      obtain ⟨server, hserver⟩ := Option.isSome_iff_exists.mp hserver
      have hserver' : w'.serverAnchor = some server := hserver
      simp [World.serviceTable, World.updateService, World.setServiceTable, World.called, hserver']

/-! ## The quiet operations of a plugin's installation -/

/-- A change to a plugin anchor that spares its chain is quiet. -/
theorem World.updatePlugin_quiet (w : World) (p : Addr) {f : PluginAnchor → PluginAnchor}
    (hf : ∀ x, (f x).firstService = x.firstService) : World.Quiet w (w.updatePlugin p f) := by
  have anchored : ∀ q, w.Anchored q → (w.updatePlugin p f).Anchored q := fun q hq =>
    ⟨hq.1, hq.2.elim fun _ hpa => Heap.exists_read_update hpa _ _⟩
  have chain : ∀ q, (w.updatePlugin p f).serviceChain q = w.serviceChain q := by
    intro q
    by_cases hqp : p = q
    · subst hqp
      simp [serviceChain, updatePlugin, Option.map_map, Function.comp_def, hf]
    · simp [serviceChain, updatePlugin, Heap.read_update_ne _ _ hqp]
  exact
    { server := fun h => h
      anchored := anchored
      chained := fun b ⟨q, hq, hb⟩ => ⟨q, anchored q hq, (chain q).symm ▸ hb⟩
      path := fun _ x h => ⟨x, h, rfl⟩
      plugins := fun _ h => h
      calls := fun _ h => h
      anchors := rfl
      table := rfl
      installer := fun _ => rfl }

/-- What `findPluginAnchor` answers is an anchor of the chain, in storage. -/
theorem findPluginAnchor_anchored {name : Text} (h : findPluginAnchor w name = some p) :
    w.Anchored p := by
  refine ⟨List.mem_of_find?_eq_some h, ?_⟩
  have := List.find?_some h
  split at this
  · next pa hpa => exact ⟨pa, hpa⟩
  · exact absurd this (by simp)

/-- A new plugin anchor at the head of the chain. -/
theorem linkPluginAnchor_quiet (w : World) (pa : PluginAnchor) :
    World.Quiet w (linkPluginAnchor w pa) := by
  cases hserver : w.serverAnchor with
  | none =>
    have none : ∀ p, ¬ w.Anchored p := fun p hp => by
      simpa [World.pluginChain, hserver] using hp.1
    exact
      { server := fun h => absurd h (by simp [hserver])
        anchored := fun p hp => absurd hp (none p)
        chained := fun _ ⟨p, hp, _⟩ => absurd hp (none p)
        path := fun _ x h => ⟨x, h, rfl⟩
        plugins := fun _ h => h
        calls := fun _ h => h
        anchors := rfl
        table := by simp [World.serviceTable, linkPluginAnchor, hserver]
        installer := fun _ => rfl }
  | some server =>
    have read : ∀ p, w.Anchored p → (w.pluginAnchors.alloc pa).read p = w.pluginAnchors.read p :=
      fun p hp => hp.2.elim fun x hx => (Heap.read_alloc_of_some hx).trans hx.symm
    have anchored : ∀ p, w.Anchored p →
        p ∈ w.pluginAnchors.fresh :: server.firstPlugin ∧
          ∃ x, (w.pluginAnchors.alloc pa).read p = some x := by
      intro p hp
      have hin : p ∈ server.firstPlugin := by simpa [World.pluginChain, hserver] using hp.1
      exact ⟨List.mem_cons_of_mem _ hin, (read p hp).symm ▸ hp.2⟩
    exact
      { server := fun _ => by simp [linkPluginAnchor, hserver]
        anchored := fun p hp => by
          simpa [World.Anchored, World.pluginChain, linkPluginAnchor, hserver] using anchored p hp
        chained := fun b ⟨p, hp, hb⟩ => by
          refine ⟨p, by
            simpa [World.Anchored, World.pluginChain, linkPluginAnchor, hserver]
              using anchored p hp, ?_⟩
          simpa [World.serviceChain, linkPluginAnchor, read p hp] using hb
        path := fun _ x h => ⟨x, h, rfl⟩
        plugins := fun _ h => h
        calls := fun _ h => h
        anchors := rfl
        table := by simp [World.serviceTable, linkPluginAnchor, hserver]
        installer := fun _ => rfl }

/-- The plugin anchor of an installation, found or new. -/
theorem obtainPluginAnchor_spec (storage : Bool) (w : World) (plugin : Plugin) :
    World.Quiet w (obtainPluginAnchor storage w plugin).1 ∧
      ∀ p, (obtainPluginAnchor storage w plugin).2 = some p → w.serverAnchor.isSome = true →
        (obtainPluginAnchor storage w plugin).1.Anchored p := by
  unfold obtainPluginAnchor
  split
  · next p hp =>
    refine ⟨.refl w, fun q hq _ => ?_⟩
    cases hq
    exact findPluginAnchor_anchored hp
  · split
    · exact ⟨.refl w, fun q hq => by simp at hq⟩
    · next pa _ =>
      refine ⟨linkPluginAnchor_quiet w pa, fun q hq hserver => ?_⟩
      cases hq
      obtain ⟨server, hserver⟩ := Option.isSome_iff_exists.mp hserver
      exact ⟨by simp [World.pluginChain, linkPluginAnchor, hserver],
        ⟨pa, Heap.read_alloc_fresh _ _⟩⟩

/-- Loading a module to LPA is quiet. -/
theorem loadPluginToLPA_quiet (env : PluginEnv) (lpaPresent : Bool) (w : World) (plugin : Plugin)
    (p : Addr) : World.Quiet w (loadPluginToLPA env lpaPresent w plugin p).1 := by
  unfold loadPluginToLPA
  split
  · split
    · exact .refl w
    · have updated := World.updatePlugin_quiet w p (f := fun pa =>
        { pa with
          moduleInfo := env.lpaModule
          flags := setFlag pa.flags pluginAnchorFlagLpa }) fun _ => rfl
      cases lpaPresent with
      | true => cases env.relocated <;> exact .refl w
      | false => cases env.relocated <;> exact updated
  · exact .refl w

/-- Relocating a module is quiet. -/
theorem relocatePluginToLPAIfNeeded_quiet (devMode : Bool) (env : PluginEnv) (w : World)
    (plugin : Plugin) (p : Addr) :
    World.Quiet w (relocatePluginToLPAIfNeeded devMode env w plugin p).1 := by
  unfold relocatePluginToLPAIfNeeded
  split
  · exact .refl w
  · split
    · split
      · exact .refl w
      · split
        · have removed := World.updatePlugin_quiet w p (f := fun pa =>
            { pa with
              moduleInfo := 0
              flags := clearFlag pa.flags pluginAnchorFlagLpa }) fun _ => rfl
          exact removed.trans (loadPluginToLPA_quiet env false _ plugin p)
        · exact loadPluginToLPA_quiet env true w plugin p
    · exact loadPluginToLPA_quiet env false w plugin p

/-- A plugin whose services a start installs: its anchor is in the chain, it is on the server's
list, and its init returned OK. -/
structure World.Installing (w : World) (plugin : Plugin) (p : Addr) : Prop where
  anchored : w.Anchored p
  listed : plugin ∈ w.plugins.map (·.descriptor)
  init : .pluginInit plugin rcZisOk ∈ w.calls

theorem World.Installing.of_keeps (h : w.Installing plugin p) (keeps : World.Keeps w w') :
    w'.Installing plugin p :=
  ⟨keeps.anchored p h.anchored, keeps.plugins plugin h.listed, keeps.calls _ h.init⟩

/-- A plugin's init is quiet, and where it returns OK the plugin's services are next. -/
theorem initPlugin_spec (env : PluginEnv) (w : World) (plugin : Plugin) (p : Addr) :
    World.Quiet w (initPlugin env w plugin p).1 ∧
      ((initPlugin env w plugin p).2 = rcZisOk → w.Anchored p →
        (initPlugin env w plugin p).1.Installing plugin p) := by
  have added : World.Quiet w (addPlugin w plugin p) :=
    { World.Quiet.refl w with
      plugins := fun _ h => by
        rw [addPlugin, List.map_cons]
        exact List.mem_cons_of_mem _ h }
  have updated : World.Quiet (addPlugin w plugin p) ((addPlugin w plugin p).updatePlugin p fun pa =>
      { pa with pluginVersion := plugin.pluginVersion }) :=
    World.updatePlugin_quiet _ p fun _ => rfl
  have quiet := added.trans updated
  refine ⟨quiet.trans (World.called_quiet _ fun _ _ _ _ h => by cases h), fun hok hp => ?_⟩
  refine ⟨quiet.anchored p hp, ?_, ?_⟩
  · simp [initPlugin, World.called, World.updatePlugin, addPlugin]
  · have hok' : callPluginInit env.init plugin = rcZisOk := hok
    simp [initPlugin, World.called, hok']

/-- Filling in the anchor fields of the plugin added last is quiet. -/
theorem setServiceAnchors_quiet (w : World) (anchors : List (Option Addr)) :
    World.Quiet w (setServiceAnchors w anchors) := by
  unfold setServiceAnchors
  split
  · exact .refl w
  · next head rest hplugins =>
    exact
      { World.Quiet.refl w with
        plugins := fun plugin h => by
          rw [hplugins] at h
          simpa using h }

end Zss.Zis
