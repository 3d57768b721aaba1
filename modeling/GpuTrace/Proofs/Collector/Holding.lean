import GpuTrace.Proofs.Collector.Clearing
import GpuTrace.Proofs.Collector.Custody

/-!
# Holding — an idle collector and its lists

A collector `Holds` some lists if it has registered just these, no call is pending, and no event or
pool is alive but those made for their commands. Creating a list adds it (`Holds.createList`), and
destroying one takes it away with its events (`Holds.destroyList`), so a collector that holds
nothing has left nothing behind (`Holds.nothing_left`).
-/

namespace GpuTrace

open Fallible

theorem Registry.createList_of_absent {r : Registry} {list : CommandListHandle}
    (absent : r.lists.get? list = none) (context : ContextHandle) (device : DeviceHandle)
    (immediate : Bool) :
    createList list context device immediate r = .ok () { r with
      lists := r.lists.insert list (.blank context device immediate r.nextEpoch)
      nextEpoch := r.nextEpoch + 1 } := by
  unfold createList
  rw [Table.contains_eq_false_iff.mpr absent]
  rfl

namespace Tracing

variable {t t' : Tracing} {list : CommandListHandle} {info info' : CommandList}
  {lists lists' : List (CommandListHandle × CommandList)}

def ownedBy (lists : List (CommandListHandle × CommandList)) :
    List (EventPoolHandle × EventHandle) :=
  lists.flatMap fun entry => entry.2.owned

/-- Just these lists are registered, nothing is pending, and only the events of these lists are
alive. -/
structure Holds (t : Tracing) (lists : List (CommandListHandle × CommandList)) : Prop where
  idle : t.registry.pending = []
  wellFormed : t.registry.WellFormed
  registered : t.registry.lists.entries.Perm lists
  custody : t.Custody True [] [] (ownedBy lists)

namespace Holds

theorem found (h : t.Holds ((list, info) :: lists)) : t.registry.lists.get? list = some info :=
  Table.mem_entries_iff.mp (h.registered.mem_iff.mpr List.mem_cons_self)

theorem erased (h : t.Holds ((list, info) :: lists)) :
    (t.registry.lists.erase list).entries.Perm lists :=
  ((Table.entries_perm h.found).symm.trans h.registered).cons_inv

theorem custody_single (h : t.Holds [(list, info)]) : t.Custody True [] [] info.owned :=
  h.custody.perm (.of_eq (List.append_nil _))

theorem advance (h : t.Holds lists) (now : UInt64) : Holds { t with now } lists :=
  { h with custody := h.custody.same rfl rfl }

theorem fresh (h : t.Holds lists) :
    Holds { t with driver := { t.driver with lastHandle := t.driver.lastHandle + 1 } } lists :=
  { h with custody := h.custody.moved (h.custody.driver.same (Nat.le_succ _) rfl rfl) rfl }

theorem changed (h : t.Holds ((list, info) :: lists)) (hidle : t'.registry.pending = [])
    (hwf : t'.registry.WellFormed)
    (hlists : t'.registry.lists = t.registry.lists.modify list fun _ => info')
    (hcustody : t'.Custody True [] [] (info'.owned ++ ownedBy lists)) :
    t'.Holds ((list, info') :: lists) where
  idle := hidle
  wellFormed := hwf
  registered := by
    rw [hlists]
    exact (Table.entries_modify_perm _ h.found).trans (h.erased.cons _)
  custody := hcustody

/-- **Creating a list** adds it without commands. -/
theorem createList (h : t.Holds lists) (absent : t.registry.lists.get? list = none)
    (context : ContextHandle) (device : DeviceHandle) (immediate : Bool) :
    ∃ r, exitListCreate list context device immediate (.ok ()) t = .ok () (t.withRegistry r) ∧
      Holds (t.withRegistry r)
        ((list, .blank context device immediate t.registry.nextEpoch) :: lists) ∧
      r.groupSizes = t.registry.groupSizes ∧ r.nextKernelId = t.registry.nextKernelId := by
  refine ⟨_, onRegistry_of_ok (Registry.createList_of_absent absent context device immediate),
    ⟨h.idle, h.wellFormed.move (.create absent), ?_, h.custody.same rfl rfl⟩, rfl, rfl⟩
  show (t.registry.lists.insert list _).entries.Perm _
  rw [Table.entries_insert_of_absent _ absent]
  exact (h.registered.append_right _).trans (List.perm_append_singleton _ _)

/-- **Destroying a list** takes it away, with its events. -/
theorem destroyList (h : t.Holds ((list, info) :: lists)) :
    Ends (exitListDestroy list (.ok ())) t (fun _ t' => t'.Holds lists ∧ Added t [] t')
      (fun _ _ => False) := by
  have hfree : t.registry.inUse list info.epoch = false := by
    unfold Registry.inUse
    rw [h.idle]
    rfl
  unfold exitListDestroy
  dsimp only
  rw [ends_drainAndFree_idle h.idle, ends_iff_of_ok (Registry.removeList_of_free h.found hfree)]
  have hcustody : Tracing.Custody True (t.withRegistry { t.registry with
      nextEpoch := t.registry.nextEpoch + 1, lists := t.registry.lists.erase list }) [] []
      (ownedOf info.commands.toList ++ ownedBy lists) := h.custody.same rfl rfl
  refine ((releaseCommands_within _ _).and (releaseCommands_custody hcustody)).imp ?_
    fun _ _ hfalse => hfalse.2
  rintro - _ ⟨⟨driver, warnings, -, rfl⟩, hreleased⟩
  exact ⟨⟨h.idle, h.wellFormed.move (.remove h.found hfree), h.erased, hreleased⟩,
    .of_eq rfl rfl rfl⟩

/-- Nothing is registered, pending or alive. -/
theorem nothing_left (h : t.Holds []) :
    t.collector.pendingCount = 0 ∧ t.collector.listCount = 0 ∧
      t.driver.events.keys = [] ∧ t.driver.pools.keys = [] :=
  ⟨congrArg List.length h.idle, h.registered.length_eq, h.custody.driver.events_perm.eq_nil,
    (h.custody.driver.pools_perm trivial).eq_nil⟩

end Holds

end Tracing

end GpuTrace
