import GpuTrace.Proofs.Registry.Calls

/-!
# Stops — what a batch leaves behind that meets a command newer than its anchor

An execution takes its anchors before the driver call and queues its calls after it, so commands
can be appended in between. A batch goes through its list slot by slot, and looks at the time of
a command only when it is that command's turn. Up to there are the `timely` commands of the list.

`addCalls_eq` is the exact end of a batch: it calls the timely commands, and stops if there are
others. What a stopped batch leaves is the registry it found only if it called nothing and there
were no call ids to forget (`calledTo_eq_self_iff`).
-/

namespace GpuTrace

open Fallible

/-! ## Timely commands -/

namespace CommandList

variable {info : CommandList} {anchor : SubmitAnchor} {k : Nat} {c : Command}

/-- How many commands stand in front of the first one that is newer than the anchor. -/
def timely (anchor : SubmitAnchor) (info : CommandList) : Nat :=
  info.commands.toList.findIdx fun c => anchor.hostTime < c.appendTime

theorem timely_le (anchor : SubmitAnchor) (info : CommandList) :
    info.timely anchor ≤ info.commands.size := by
  have hle : info.timely anchor ≤ info.commands.toList.length := List.findIdx_le_length
  rwa [Array.length_toList] at hle

theorem appendTime_le_of_timely (h : k < info.timely anchor) (hc : info.commands[k]? = some c) :
    c.appendTime ≤ anchor.hostTime := by
  obtain ⟨hlt, rfl⟩ := Array.getElem?_eq_some_iff.mp hc
  have hnot := List.not_of_lt_findIdx h
  simpa using hnot

/-- The command behind the timely ones is late. -/
theorem lt_appendTime_of_timely (hc : info.commands[info.timely anchor]? = some c) :
    anchor.hostTime < c.appendTime := by
  obtain ⟨hlt, rfl⟩ := Array.getElem?_eq_some_iff.mp hc
  have hlt' : info.commands.toList.findIdx (fun c => anchor.hostTime < c.appendTime) <
      info.commands.toList.length := by rwa [Array.length_toList]
  have hlate := List.findIdx_getElem (w := hlt')
  simpa [timely] using hlate

theorem timely_eq_size_iff :
    info.timely anchor = info.commands.size ↔
      ∀ c ∈ info.commands, c.appendTime ≤ anchor.hostTime := by
  unfold timely
  rw [← Array.length_toList, List.findIdx_eq_length]
  simp

theorem timely_lt_size_iff :
    info.timely anchor < info.commands.size ↔
      ∃ c ∈ info.commands, anchor.hostTime < c.appendTime := by
  have hle := timely_le anchor info
  constructor
  · intro hlt
    have hc := Array.getElem?_eq_getElem hlt
    exact ⟨_, Array.getElem_mem hlt, lt_appendTime_of_timely hc⟩
  · rintro ⟨c, hc, hlate⟩
    have hne : info.timely anchor ≠ info.commands.size := by
      intro heq
      exact UInt64.not_le.mpr hlate (timely_eq_size_iff.mp heq c hc)
    omega

end CommandList

/-! ## Batches -/

namespace Registry

variable {r : Registry} {list : CommandListHandle} {info old : CommandList} {k : Nat}
  {c : Command} {queue : QueueHandle} {anchor : SubmitAnchor}

/-- A command that is newer than the anchor is refused, and nothing is undone. -/
theorem addBatchCall_late (found : r.lists.get? list = some old)
    (hc : info.commands[k]? = some c) (hlate : anchor.hostTime < c.appendTime) :
    addBatchCall ⟨list, info.epoch, k⟩ queue anchor (r.calledTo list info queue anchor k) =
      .error .batchBeforeAppend (r.calledTo list info queue anchor k) := by
  have hcommand : (r.calledTo list info queue anchor k).command ⟨list, info.epoch, k⟩ = .ok c := by
    refine command_eq_ok_iff.mpr ⟨info.called k, get?_put found _, rfl, ?_⟩
    simp [CommandList.called, hc]
  unfold addBatchCall
  refine (bind_of_ok rfl).trans ?_
  rw [hcommand]
  refine (bind_of_ok rfl).trans ?_
  rw [if_pos hlate]
  exact bind_of_error rfl

theorem forM_called_timely (info : CommandList) (found : r.lists.get? list = some old) (m : Nat)
    (hsize : k + m = info.commands.size) (hk : k ≤ info.timely anchor) :
    (List.range' k m).forM (fun slot => addBatchCall ⟨list, info.epoch, slot⟩ queue anchor)
        (r.calledTo list info queue anchor k) =
      if info.timely anchor = info.commands.size then
        .ok () (r.calledTo list info queue anchor info.commands.size)
      else .error .batchBeforeAppend (r.calledTo list info queue anchor (info.timely anchor)) := by
  have hle := CommandList.timely_le anchor info
  induction m generalizing k with
  | zero =>
    obtain rfl : k = info.commands.size := by omega
    rw [if_pos (by omega)]
    rfl
  | succ m ih =>
    have hlt : k < info.commands.size := by omega
    have hc : info.commands[k]? = some info.commands[k] := Array.getElem?_eq_getElem hlt
    rw [List.range'_succ]
    rcases Nat.lt_or_eq_of_le hk with htimely | rfl
    · have hold := CommandList.appendTime_le_of_timely htimely hc
      refine (bind_of_ok (addBatchCall_called found hc hold)).trans ?_
      apply ih
      · omega
      · exact htimely
    · have hlate := CommandList.lt_appendTime_of_timely hc
      rw [if_neg (by omega)]
      exact bind_of_error (addBatchCall_late found hc hlate)

/-- **The end of a batch.** It calls the timely commands of a deferred list, and stops if there
are others. -/
theorem addCalls_eq (found : r.lists.get? list = some info) (deferred : info.immediate = false) :
    addCalls list queue anchor r =
      if info.timely anchor = info.commands.size then
        .ok info.commands.size (r.calledTo list info.clear queue anchor info.commands.size)
      else
        .error .batchBeforeAppend
          (r.calledTo list info.clear queue anchor (info.timely anchor)) := by
  have hcalls :
      (List.range' 0 info.commands.size).forM
          (fun slot => addBatchCall ⟨list, info.epoch, slot⟩ queue anchor)
          (r.calledTo list info.clear queue anchor 0) = _ :=
    forM_called_timely info.clear found info.commands.size (Nat.zero_add _) (Nat.zero_le _)
  have hclear : { r with lists := r.lists.modify list fun i => { i with callIds := [] } } =
      r.calledTo list info.clear queue anchor 0 := modify_clear found
  rw [← List.range_eq_range'] at hcalls
  unfold addCalls
  refine (bind_of_ok rfl).trans ?_
  rw [list_eq_ok_iff.mpr found]
  refine (bind_of_ok rfl).trans ?_
  rw [deferred, if_neg Bool.false_ne_true]
  refine (bind_of_ok (modify_of_eq hclear)).trans ?_
  by_cases htimely : info.timely anchor = info.commands.size
  · have hall : info.clear.timely anchor = info.clear.commands.size := htimely
    rw [if_pos hall] at hcalls
    rw [if_pos htimely]
    exact (bind_of_ok hcalls).trans rfl
  · have hsome : ¬ info.clear.timely anchor = info.clear.commands.size := htimely
    rw [if_neg hsome] at hcalls
    rw [if_neg htimely]
    exact bind_of_error hcalls

/-- A batch leaves a registry as it was only if it calls nothing and had nothing to forget. -/
theorem calledTo_eq_self_iff (found : r.lists.get? list = some info)
    (hk : k ≤ info.commands.size) :
    r.calledTo list info.clear queue anchor k = r ↔ k = 0 ∧ info.callIds = [] := by
  constructor
  · intro heq
    have hpending := congrArg (·.pending.length) heq
    have hlist := congrArg (·.lists.get? list) heq
    have hcalls : (info.clear.calls list queue anchor k).length = k := by
      simp [CommandList.calls, CommandList.clear, hk]
    have hput : (r.calledTo list info.clear queue anchor k).lists.get? list =
        some (info.clear.called k) := get?_put found _
    obtain rfl : k = 0 := by
      simp only [calledTo, List.length_append, hcalls] at hpending
      omega
    refine ⟨rfl, ?_⟩
    rw [hput, CommandList.called_zero, found, Option.some.injEq] at hlist
    rw [← hlist]
    rfl
  · rintro ⟨rfl, hids⟩
    have hclear : info.clear = info := by
      unfold CommandList.clear
      rw [← hids]
    unfold calledTo
    rw [hclear, CommandList.called_zero, put_self found]
    simp [CommandList.calls]

end Registry

end GpuTrace
