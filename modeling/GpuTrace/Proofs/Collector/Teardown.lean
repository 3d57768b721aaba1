import GpuTrace.Proofs.Collector.Custody
import GpuTrace.Proofs.Collector.Sweep

/-!
# Teardowns — a list is drained, then freed

A list that is reset or destroyed is drained by a sweep over all lists. If a call of its own is
left, the teardown stops; otherwise its commands are taken out, the notices are given, and the
events that were made for the commands are destroyed with their pools (`drainAndFree_ends`).

The guard compares epochs, but pending calls have the epoch that their list has now, so it asks
whether any pending call refers to the list (`Registry.WellFormed.inUse_iff`). The driver refuses
nothing to a tracer that keeps its events and pools apart from the application's, so what it loses
is known exactly (`releaseCommands_without`).
-/

namespace GpuTrace

open Fallible

namespace Registry

variable {r : Registry} {list : CommandListHandle} {info : CommandList}

/-- `take` hands back the commands of the list and leaves `lists`; it stops if the list is in
use. -/
structure Takes (take : Fallible Registry (Array Command)) (list : CommandListHandle)
    (info : CommandList) (r : Registry) (lists : Table CommandListHandle CommandList) : Prop where
  of_free : r.inUse list info.epoch = false →
    take r = .ok info.commands { r with nextEpoch := r.nextEpoch + 1, lists }
  of_inUse : r.inUse list info.epoch = true →
    take r = .error (.listInUse list) { r with nextEpoch := r.nextEpoch + 1 }

/-- Whatever calls are pending, a list that is destroyed is gone. -/
theorem removeList_takes (found : r.lists.get? list = some info) (pending : List Call) :
    Takes (removeList list) list info { r with pending } (r.lists.erase list) where
  of_free := removeList_of_free found
  of_inUse used := bind_of_error (takeCommands_of_inUse found used)

/-- One that is reset is empty, under a new epoch. -/
theorem resetList_takes (found : r.lists.get? list = some info) (pending : List Call) :
    Takes (resetList list) list info { r with pending }
      (r.lists.modify list (CommandList.emptied r.nextEpoch)) where
  of_free := resetList_of_free found
  of_inUse used := bind_of_error (takeCommands_of_inUse found used)

end Registry

namespace Tracing

variable {t : Tracing} {events : List EventHandle} {pools : List EventPoolHandle}
  {owned : List (EventPoolHandle × EventHandle)}

/-! ## Releasing -/

/-- An event that was made for a command is destroyed with its pool; one that was lent is left
alone. -/
theorem releaseCommand_without {command : Command}
    (h : t.driver.Custody True events pools (command.signal.owned?.toList ++ owned)) :
    releaseCommand command t =
        .ok () { t with driver := t.driver.without command.signal.owned?.toList } ∧
      (t.driver.without command.signal.owned?.toList).Custody True events pools owned := by
  cases hs : command.signal with
  | borrowed event =>
    rw [hs] at h
    refine ⟨?_, h⟩
    unfold releaseCommand
    rw [hs]
    rfl
  | owned pool event =>
    rw [hs] at h
    obtain ⟨hevent, hpool, hrest⟩ := h.release_without trivial
    refine ⟨eq_ok_iff_ends.mpr ?_, hrest⟩
    unfold releaseCommand
    rw [hs]
    dsimp only
    rw [ends_bind, ends_onDriver, hevent]
    dsimp only
    rw [ends_bind, ends_onDriver, hpool]
    exact ⟨rfl, rfl⟩

/-- The driver loses the events that were made for the commands, with their pools. -/
theorem releaseCommands_without {commands : List Command}
    (h : t.driver.Custody True events pools (ownedOf commands ++ owned)) :
    releaseCommands commands t =
      .ok () { t with driver := t.driver.without (ownedOf commands) } := by
  induction commands generalizing t with
  | nil => rfl
  | cons command commands ih =>
    rw [ownedOf_cons, List.append_assoc] at h
    obtain ⟨hcommand, hrest⟩ := releaseCommand_without h
    rw [ownedOf_cons, Driver.without_append]
    exact (bind_of_ok hcommand).trans (ih hrest)

/-! ## Teardown -/

/-- The collector at work after a teardown: calls wait that waited before, the lists are these,
and the events of one of them are gone. -/
def tornDown (t : Tracing) (info : CommandList) (lists : Table CommandListHandle CommandList)
    (p : Profile) (notices : Array Notice) : Tracing :=
  let registry := { t.registry with
    pending := t.waiting t.registry.pending
    lists
    nextEpoch := t.registry.nextEpoch + 1 }
  { (t.withRegistry registry).withProfile p with
    driver := t.driver.without info.owned
    journal := { t.journal with notices } }

/-- A teardown stops if a call of the list waits, and otherwise finishes all calls that are ready,
tells of them, and frees the list. -/
theorem drainAndFree_ends {finishes : List KernelFinish} {p : Profile}
    {take : Fallible Registry (Array Command)} {list : CommandListHandle} {info : CommandList}
    {lists : Table CommandListHandle CommandList} (hwf : t.registry.WellFormed)
    (answered : t.Answered)
    (finalizes : t.Finalizes t.profile (t.ready t.registry.pending) finishes p)
    (found : t.registry.lists.get? list = some info)
    (custody : t.driver.Custody True events pools (info.owned ++ owned))
    (takes : Registry.Takes take list info
      { t.registry with pending := t.waiting t.registry.pending } lists) :
    Ends (drainAndFree take) t
      (fun _ t' => (∀ call ∈ t.waiting t.registry.pending, call.command.list ≠ list) ∧ ∃ notices,
        told { t.journal with notices } =
          told t.journal ++ (if t.collector.notifies then finishes else []) ∧
        t' = t.tornDown info lists p notices)
      (fun e _ => e = .listInUse list ∧
        ∃ call ∈ t.waiting t.registry.pending, call.command.list = list) := by
  have hsettled : Registry.WellFormed
      { t.registry with pending := t.waiting t.registry.pending } :=
    hwf.settle List.filter_sublist
  have hused := hsettled.inUse_iff found
  unfold drainAndFree
  rw [ends_bind]
  refine ends_of_ok ((sweep_eq_ok_iff hwf).mpr ⟨answered, p, finalizes, rfl⟩) ?_
  rw [ends_bind, ends_onRegistry]
  cases hu : Registry.inUse { t.registry with pending := t.waiting t.registry.pending } list
      info.epoch with
  | true => exact ends_of_error (takes.of_inUse hu) ⟨rfl, hused.mp hu⟩
  | false =>
    refine ends_of_ok (takes.of_free hu) ?_
    rw [ends_bind]
    refine (notify_told finishes).imp_ok ?_
    rintro - _ ⟨notices, rfl, htold⟩
    refine ends_of_ok (releaseCommands_without custody) ⟨?_, notices, htold, rfl⟩
    exact hsettled.not_pending found hu

end Tracing

end GpuTrace
