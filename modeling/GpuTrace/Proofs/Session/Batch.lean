import GpuTrace.Proofs.Collector.Execution
import GpuTrace.Proofs.Session.Deed

/-!
# Batches — what an execution does to the registry

An execution that answers has the effect of its whole batch and no other (`exitExecute_executed`):
calls of the same list under several entries count on, entries of immediate lists do nothing, and
lists without an entry stay as they are.

An execution that meets a command newer than its anchor keeps the calls of the commands in front
of it, with their counts, and has forgotten the call ids of the last execution; nothing is put
back (`addCalls_stops_partway`). In a session that happens to a list that gets a command between
the two hooks of its execution: the execution is refused, and has its first commands called
nevertheless (`half_executed_lateAppend`).
-/

namespace GpuTrace

open Fallible

/-! ## Executions that answer -/

namespace Tracing

open Registry

/-- **The effect of an execution.** The hook behind it answers exactly if every list of the token
is registered and, if it is deferred, has no command newer than its anchor. It then changes the
registry only. The calls of the deferred lists wait behind the others, entry by entry and slot by
slot, each with the queue of the token, the anchor of its entry, and the next call id of its
command. Each deferred list has all of its commands called as often as the token names it, and
knows the last call ids; all else about the lists is as before. -/
theorem exitExecute_executed (t : Tracing) (token : SubmitToken) :
    ((∃ t', exitExecute token (.ok ()) t = .ok () t') ↔
      ∀ entry ∈ token.anchors, t.registry.Accepts entry) ∧
    ∀ t', exitExecute token (.ok ()) t = .ok () t' →
      ∃ r, t' = t.withRegistry r ∧ Executed token.queue token.anchors t.registry r := by
  have hends : Ends (exitExecute token (.ok ())) t _ _ :=
    forM_submitList_executed token.anchors
  constructor
  · constructor
    · rintro ⟨t', hok⟩
      exact (hends.of_ok hok).1
    · intro hall
      cases hresult : exitExecute token (.ok ()) t with
      | ok _ t' => exact ⟨t', rfl⟩
      | error e t' => exact absurd hall (hends.of_error hresult)
  · intro t' hok
    exact (hends.of_ok hok).2

end Tracing

namespace Session

/-- A list of two barriers, an empty one, one that was not named, and an immediate one. -/
def mixedLists : Session :=
  (of .standard 7).run
    [.addDevice 1000 0, .create .default true, .exitListCreate ⟨50⟩ ⟨60⟩ ⟨1⟩ false (.ok ()),
      .exitListCreate ⟨51⟩ ⟨60⟩ ⟨1⟩ true (.ok ()), .exitListCreate ⟨52⟩ ⟨60⟩ ⟨1⟩ false (.ok ()),
      .exitListCreate ⟨53⟩ ⟨60⟩ ⟨1⟩ false (.ok ()),
      .enterAppend 0 ⟨50⟩ .barrier none, .exitAppend 0 (.ok ()),
      .enterAppend 1 ⟨50⟩ .barrier none, .exitAppend 1 (.ok ()),
      .enterAppend 2 ⟨51⟩ .barrier none, .exitAppend 2 (.ok ()),
      .enterAppend 3 ⟨53⟩ .barrier none, .exitAppend 3 (.ok ())]

/-- A batch with the first list twice, at different anchors. -/
def mixedBatch : SubmitToken :=
  ⟨⟨70⟩, [(⟨50⟩, ⟨7, 0⟩), (⟨51⟩, ⟨7, 0⟩), (⟨52⟩, ⟨8, 1⟩), (⟨50⟩, ⟨9, 2⟩)]⟩

theorem exitExecute_executed_mixedLists : ∃ (t t' : Tracing) (r : Registry),
    Tracing.exitExecute mixedBatch (.ok ()) t = .ok () t' ∧ t' = t.withRegistry r ∧
      Registry.Executed ⟨70⟩ mixedBatch.anchors t.registry r ∧
      t.registry.pending.map (·.callId) = [1] ∧ r.pending.map (·.callId) = [1, 1, 1, 2, 2] := by
  have hcollector : mixedLists.collector.isSome = true := by decide +kernel
  have hids : ∀ c ∈ mixedLists.collector, c.registry.pending.map (·.callId) = [1] ∧
      Ends (Tracing.exitExecute mixedBatch (.ok ())) (mixedLists.tracing c)
        (fun _ t' => t'.registry.pending.map (·.callId) = [1, 1, 1, 2, 2]) (fun _ _ => False) := by
    decide +kernel
  obtain ⟨c, hc⟩ := Option.isSome_iff_exists.mp hcollector
  obtain ⟨hbefore, hends⟩ := hids c hc
  obtain ⟨_, t', hexit, hafter⟩ := hends.exists_ok
  obtain ⟨r, rfl, hexecuted⟩ :=
    (Tracing.exitExecute_executed (mixedLists.tracing c) mixedBatch).2 t' hexit
  exact ⟨mixedLists.tracing c, _, r, hexit, rfl, hexecuted, hbefore, hafter⟩

end Session

/-! ## Executions that stop -/

namespace Registry

variable {r : Registry} {list : CommandListHandle} {info : CommandList} {queue : QueueHandle}
  {anchor : SubmitAnchor}

/-- **A batch that stops has called the commands in front of the one that it stopped at.** It
answers exactly if no command is newer than the anchor, and has then called all of them. If not,
it stops at the first one that is, with the calls of the commands before it queued and counted
and with the call ids of the last execution gone. That leaves the registry as it was only if
there are no such commands and no such ids. -/
theorem addCalls_stops_partway (found : r.lists.get? list = some info)
    (deferred : info.immediate = false) :
    (∀ n r', addCalls list queue anchor r = .ok n r' ↔
      (∀ c ∈ info.commands, c.appendTime ≤ anchor.hostTime) ∧ n = info.commands.size ∧
        r' = r.calledTo list info.clear queue anchor info.commands.size) ∧
    (∀ e r', addCalls list queue anchor r = .error e r' ↔
      (∃ c ∈ info.commands, anchor.hostTime < c.appendTime) ∧ e = .batchBeforeAppend ∧
        r' = r.calledTo list info.clear queue anchor (info.timely anchor)) ∧
    (r.calledTo list info.clear queue anchor (info.timely anchor) = r ↔
      info.timely anchor = 0 ∧ info.callIds = []) := by
  refine ⟨?_, ?_, ?_⟩
  · intro n r'
    rw [addCalls_eq found deferred, ← CommandList.timely_eq_size_iff]
    by_cases htimely : info.timely anchor = info.commands.size
    · simp [htimely, eq_comm]
    · simp [htimely]
  · intro e r'
    rw [addCalls_eq found deferred, ← CommandList.timely_lt_size_iff]
    have hle := CommandList.timely_le anchor info
    by_cases htimely : info.timely anchor = info.commands.size
    · simp [htimely]
    · have hlt : info.timely anchor < info.commands.size := by omega
      simp [htimely, hlt, eq_comm]
  · exact calledTo_eq_self_iff found (CommandList.timely_le anchor info)

end Registry

namespace Session

/-- A list with one barrier is executed; while it is executed again, it gets another one. -/
def lateAppend : Session :=
  (of .standard 7).run
    [.addDevice 1000 0, .create .default true, .exitListCreate ⟨50⟩ ⟨60⟩ ⟨1⟩ false (.ok ()),
      .enterAppend 0 ⟨50⟩ .barrier none, .exitAppend 0 (.ok ()),
      .enterExecute 0 ⟨70⟩ [⟨50⟩], .exitExecute 0 (.ok ()), .enterExecute 1 ⟨70⟩ [⟨50⟩],
      .advanceClock 1, .enterAppend 1 ⟨50⟩ .barrier none, .exitAppend 1 (.ok ())]

/-- One of its two barriers is timely. -/
theorem addCalls_stops_partway_lateAppend : ∃ (r r' : Registry) (info : CommandList),
    r.lists.get? ⟨50⟩ = some info ∧ info.immediate = false ∧ info.commands.size = 2 ∧
      Registry.addCalls ⟨50⟩ ⟨70⟩ ⟨7, 0⟩ r = .error .batchBeforeAppend r' ∧
      r' = r.calledTo ⟨50⟩ info.clear ⟨70⟩ ⟨7, 0⟩ 1 ∧ r' ≠ r := by
  have hcollector : lateAppend.collector.isSome = true := by decide +kernel
  have hlist : ∀ c ∈ lateAppend.collector, (c.registry.lists.get? ⟨50⟩).isSome = true := by
    decide +kernel
  have hinfo : ∀ c ∈ lateAppend.collector, ∀ info ∈ c.registry.lists.get? ⟨50⟩,
      info.immediate = false ∧ info.commands.size = 2 ∧ info.timely ⟨7, 0⟩ = 1 := by
    decide +kernel
  obtain ⟨c, hc⟩ := Option.isSome_iff_exists.mp hcollector
  obtain ⟨info, found⟩ := Option.isSome_iff_exists.mp (hlist c hc)
  obtain ⟨deferred, hsize, htimely⟩ := hinfo c hc info found
  obtain ⟨-, hstops, hsame⟩ :=
    @Registry.addCalls_stops_partway _ _ _ ⟨70⟩ ⟨7, 0⟩ found deferred
  rw [htimely] at hstops hsame
  have hlate : ∃ c ∈ info.commands, (⟨7, 0⟩ : SubmitAnchor).hostTime < c.appendTime := by
    rw [← CommandList.timely_lt_size_iff, htimely, hsize]
    decide
  refine ⟨c.registry, _, info, found, deferred, hsize, (hstops _ _).mpr ⟨hlate, rfl, rfl⟩, rfl, ?_⟩
  intro h
  exact absurd (hsame.mp h).1 (by decide)

/-- **An execution is not all or nothing.** It is refused, yet the first barrier waits once more,
counts one call more and its call is the list's only one. -/
theorem half_executed_lateAppend :
    lateAppend.collector.map (·.pendingCount) = some 1 ∧
      lateAppend.collector.map (·.registry.callIds ⟨50⟩) = some (.ok [1]) ∧
      lateAppend.collector.map (·.registry.command ⟨⟨50⟩, 0, 0⟩ |>.map (·.callCount)) =
        some (.ok 1) ∧
      (lateAppend.step (.exitExecute 1 (.ok ()))).1 = .error .batchBeforeAppend ∧
      (lateAppend.step (.exitExecute 1 (.ok ()))).2.collector.map (·.pendingCount) = some 2 ∧
      (lateAppend.step (.exitExecute 1 (.ok ()))).2.collector.map (·.registry.callIds ⟨50⟩) =
        some (.ok [2]) ∧
      (lateAppend.step (.exitExecute 1 (.ok ()))).2.collector.map
        (·.registry.command ⟨⟨50⟩, 0, 0⟩ |>.map (·.callCount)) = some (.ok 2) := by
  refine ⟨?_, ?_, ?_, ?_, ?_, ?_, ?_⟩
  · decide +kernel
  · decide +kernel
  · decide +kernel
  · decide +kernel
  · decide +kernel
  · decide +kernel
  · decide +kernel

end Session

end GpuTrace
