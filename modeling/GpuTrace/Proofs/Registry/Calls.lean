import GpuTrace.Proofs.Registry.Move
import GpuTrace.Proofs.Table

/-!
# Calls — the exact effect of filling a list and of calling its commands

`filled` is a list with given commands, and `called k` is a list of which the first `k` commands
were called once more. One append adds one command to a list, wherever its calls stand
(`addCommand_put`), and one call steps from `called k` to `called (k + 1)` (`addCall_called`).

Executing a deferred list calls all of its commands, in slot order (`addCalls_put`). It stops only
if a command is newer than the anchor, with the commands before that one called (`addCalls_ends`).
-/

namespace GpuTrace

def Command.numbered (command : Command) (kernelId : Nat) : Command :=
  { command with kernelId }

/-! ## Lists -/

namespace CommandList

variable {info : CommandList} {k : Nat} {c : Command}

def filled (info : CommandList) (commands : Array Command) : CommandList :=
  { info with
    commands
    kernelIds := info.kernelIds ++ commands.toList.map (·.kernelId) }

/-- The list with one more call of each of its first `k` commands. -/
def called (k : Nat) (info : CommandList) : CommandList :=
  { info with
    commands := info.commands.mapIdx fun slot c =>
      if slot < k then { c with callCount := c.callCount + 1 } else c
    callIds := info.callIds ++ (info.commands.toList.take k).map (·.callCount + 1) }

def calls (info : CommandList) (list : CommandListHandle) (queue : QueueHandle)
    (anchor : SubmitAnchor) (k : Nat) : List Call :=
  (info.commands.toList.take k).mapIdx fun slot c =>
    ⟨⟨list, info.epoch, slot⟩, queue, anchor, c.callCount + 1⟩

def firstCalls (list : CommandListHandle) (epoch : Nat) (queue : QueueHandle)
    (anchor : SubmitAnchor) (n : Nat) : List Call :=
  (List.range n).map fun slot => ⟨⟨list, epoch, slot⟩, queue, anchor, 1⟩

theorem called_zero (info : CommandList) : called 0 info = info := by
  have hcommands : (info.commands.mapIdx fun slot c =>
      if slot < 0 then { c with callCount := c.callCount + 1 } else c) = info.commands := by
    apply Array.ext
    · simp
    · intro i _ _
      simp
  unfold called
  rw [hcommands, List.take_zero, List.map_nil, List.append_nil]

/-- All commands of a list are called, each once more. -/
theorem called_getElem? (info : CommandList) (slot : Nat) :
    (info.called info.commands.size).commands[slot]? =
      info.commands[slot]?.map fun c => { c with callCount := c.callCount + 1 } := by
  unfold called
  rw [Array.getElem?_mapIdx]
  refine Option.map_congr fun c hc => ?_
  rw [if_pos (Array.getElem?_eq_some_iff.mp hc).1]

theorem calls_getElem? (info : CommandList) (list : CommandListHandle) (queue : QueueHandle)
    (anchor : SubmitAnchor) (slot : Nat) :
    (info.calls list queue anchor info.commands.size)[slot]? =
      info.commands[slot]?.map fun c =>
        ⟨⟨list, info.epoch, slot⟩, queue, anchor, c.callCount + 1⟩ := by
  unfold calls
  rw [List.take_of_length_le (by simp), List.getElem?_mapIdx, Array.getElem?_toList]

theorem map_called {α : Type} (f : Command → α)
    (hf : ∀ c n, f { c with callCount := n } = f c) (info : CommandList) (k : Nat) :
    (info.called k).commands.toList.map f = info.commands.toList.map f := by
  apply List.ext_getElem?
  intro slot
  unfold called
  rw [List.getElem?_map, List.getElem?_map, Array.getElem?_toList, Array.getElem?_toList,
    Array.getElem?_mapIdx, Option.map_map]
  refine Option.map_congr fun c _ => ?_
  dsimp only [Function.comp]
  split
  · exact hf c _
  · rfl

theorem call_called (h : info.commands[k]? = some c) :
    (called k info).call k (c.callCount + 1) = called (k + 1) info := by
  obtain ⟨hlt, hc⟩ := Array.getElem?_eq_some_iff.mp h
  have hcommands : ((called k info).commands.modify k fun c' =>
      { c' with callCount := c.callCount + 1 }) = (called (k + 1) info).commands := by
    apply Array.ext
    · simp [called]
    · intro i _ _
      simp only [called, Array.getElem_modify, Array.getElem_mapIdx]
      -- Slot `k` is called now; any other slot is below `k + 1` if it was below `k`.
      by_cases hik : k = i
      · subst hik
        simp [hc]
      · have hiff : i < k + 1 ↔ i < k := by omega
        simp [hik, hiff]
  have hids : (info.commands.toList.take (k + 1)).map (fun c' : Command => c'.callCount + 1) =
      (info.commands.toList.take k).map (fun c' : Command => c'.callCount + 1) ++
        [c.callCount + 1] := by
    rw [List.take_succ_eq_append_getElem (by simpa using hlt), List.map_append]
    simp [hc]
  unfold call
  rw [hcommands]
  simp only [called, hids, List.append_assoc]

theorem calls_succ (list : CommandListHandle) (queue : QueueHandle) (anchor : SubmitAnchor)
    (h : info.commands[k]? = some c) :
    info.calls list queue anchor (k + 1) =
      info.calls list queue anchor k ++
        [⟨⟨list, info.epoch, k⟩, queue, anchor, c.callCount + 1⟩] := by
  obtain ⟨hlt, hc⟩ := Array.getElem?_eq_some_iff.mp h
  have hlength : (info.commands.toList.take k).length = k := by
    rw [List.length_take, Array.length_toList]
    omega
  unfold calls
  rw [List.take_succ_eq_append_getElem (by simpa using hlt), List.mapIdx_append]
  simp [hlength, hc]

/-- A command that is appended behind the called ones is not called. -/
theorem append_called (h : k ≤ info.commands.size) (c : Command) :
    (called k info).append c = called k (info.append c) := by
  have hnot : ¬ info.commands.size < k := Nat.not_lt.mpr h
  have htake : (info.commands.toList ++ [c]).take k = info.commands.toList.take k :=
    List.take_append_of_le_length (by simpa using h)
  unfold append called
  simp [hnot, htake]

theorem calls_append (list : CommandListHandle) (queue : QueueHandle) (anchor : SubmitAnchor)
    (h : k ≤ info.commands.size) (c : Command) :
    (info.append c).calls list queue anchor k = info.calls list queue anchor k := by
  have htake : (info.commands.toList ++ [c]).take k = info.commands.toList.take k :=
    List.take_append_of_le_length (by simpa using h)
  unfold append calls
  simp [htake]

theorem filled_empty (h : info.commands = #[]) : info.filled #[] = info := by
  cases info
  cases h
  simp [filled]

theorem append_filled (info : CommandList) (commands : Array Command) (c : Command) :
    (info.filled commands).append c = info.filled (commands.push c) := by
  unfold append filled
  simp

/-- Commands that were never called get their first calls. -/
theorem calls_first (info : CommandList) (list : CommandListHandle) (queue : QueueHandle)
    (anchor : SubmitAnchor) (h : ∀ c ∈ info.commands, c.callCount = 0) :
    info.calls list queue anchor info.commands.size =
      firstCalls list info.epoch queue anchor info.commands.size := by
  unfold calls firstCalls
  rw [List.take_of_length_le (by simp)]
  apply List.ext_getElem
  · simp
  · intro slot hslot _
    have hlt : slot < info.commands.size := by simpa using hslot
    have hzero := h _ (Array.getElem_mem hlt)
    simp [hzero]

end CommandList

/-! ## Registries -/

namespace Registry

open Fallible

variable {r : Registry} {list : CommandListHandle} {info old : CommandList} {slot k : Nat}
  {c : Command} {queue : QueueHandle} {anchor : SubmitAnchor}

/-- The registry with another list under a handle that is in use. -/
def put (r : Registry) (list : CommandListHandle) (info : CommandList) : Registry :=
  { r with lists := r.lists.modify list fun _ => info }

def numbered (r : Registry) (n : Nat) : Registry :=
  { r with nextKernelId := r.nextKernelId + n }

/-- Commands that were registered from `r` on, and one more. -/
def joined (r : Registry) (commands : Array Command) (command : Command) : Array Command :=
  commands.push (command.numbered (r.nextKernelId + commands.size))

/-- The registry after the calls of the first `k` commands of a list. -/
def calledTo (r : Registry) (list : CommandListHandle) (info : CommandList) (queue : QueueHandle)
    (anchor : SubmitAnchor) (k : Nat) : Registry :=
  { r.put list (info.called k) with
    pending := r.pending ++ info.calls list queue anchor k }

theorem get?_put (found : r.lists.get? list = some old) (info : CommandList) :
    (r.put list info).lists.get? list = some info := by
  unfold put
  rw [Table.get?_modify, if_pos rfl, found]
  rfl

theorem get?_put_ne {list' : CommandListHandle} (h : list' ≠ list) (info : CommandList) :
    (r.put list info).lists.get? list' = r.lists.get? list' := by
  unfold put
  rw [Table.get?_modify, if_neg h]

theorem put_put (info info' : CommandList) :
    (r.put list info).put list info' = r.put list info' := by
  unfold put
  rw [Table.modify_modify]

theorem put_calledTo (old info : CommandList) :
    (r.put list old).calledTo list info queue anchor k = r.calledTo list info queue anchor k := by
  unfold calledTo
  rw [put_put]
  rfl

theorem put_self (found : r.lists.get? list = some info) : r.put list info = r := by
  unfold put
  rw [Table.modify_self found]

theorem size_joined (r : Registry) (commands : Array Command) (command : Command) :
    (r.joined commands command).size = commands.size + 1 :=
  Array.size_push _

theorem numbered_put (info : CommandList) (n : Nat) :
    (r.put list info).numbered n = (r.numbered n).put list info := rfl

theorem numbered_numbered (m n : Nat) : (r.numbered m).numbered n = r.numbered (m + n) := by
  unfold numbered
  rw [Nat.add_assoc]

theorem modify_eq_put (found : r.lists.get? list = some info) (f : CommandList → CommandList) :
    { r with lists := r.lists.modify list f } = r.put list (f info) := by
  have hlists : r.lists.modify list f = r.lists.modify list fun _ => f info := by
    refine Table.modify_congr fun info' hinfo' => ?_
    rw [found] at hinfo'
    cases hinfo'
    rfl
  unfold put
  rw [hlists]

theorem addCommand_put (found : r.lists.get? list = some info) (command : Command) :
    addCommand list command r =
      .ok ⟨list, info.epoch, info.commands.size⟩
        ((r.numbered 1).put list (info.append (command.numbered r.nextKernelId))) := by
  rw [← modify_eq_put (r := r.numbered 1) found (CommandList.append _)]
  unfold addCommand
  rw [list_eq_ok_iff.mpr found]
  rfl

/-- A list takes one more command behind those that were called. -/
theorem addCommand_called (found : r.lists.get? list = some old) (command : Command)
    (h : k ≤ info.commands.size) :
    addCommand list command (r.calledTo list info queue anchor k) =
      .ok ⟨list, info.epoch, info.commands.size⟩
        ((r.numbered 1).calledTo list (info.append (command.numbered r.nextKernelId))
          queue anchor k) := by
  have hput : (r.calledTo list info queue anchor k).lists.get? list = some (info.called k) :=
    get?_put found _
  refine (addCommand_put hput command).trans ?_
  unfold calledTo put numbered
  rw [CommandList.append_called h, CommandList.calls_append list queue anchor h,
    Table.modify_modify]
  simp [CommandList.called]

theorem addCall_put (found : r.lists.get? list = some info) (hc : info.commands[slot]? = some c) :
    addCall (Call.of ⟨list, info.epoch, slot⟩ queue anchor) r =
      .ok () { r.put list (info.call slot (c.callCount + 1)) with
        pending := r.pending ++ [⟨⟨list, info.epoch, slot⟩, queue, anchor, c.callCount + 1⟩] } := by
  have hcommand : r.command ⟨list, info.epoch, slot⟩ = .ok c :=
    command_eq_ok_iff.mpr ⟨info, found, rfl, hc⟩
  rw [← modify_eq_put found (CommandList.call slot _)]
  unfold addCall Call.of
  dsimp only
  rw [hcommand]
  rfl

theorem command_calledTo (found : r.lists.get? list = some old)
    (hc : info.commands[slot]? = some c) (h : slot < k) :
    (r.calledTo list info queue anchor k).command ⟨list, info.epoch, slot⟩ =
      .ok { c with callCount := c.callCount + 1 } := by
  refine command_eq_ok_iff.mpr ⟨info.called k, get?_put found _, rfl, ?_⟩
  simp [CommandList.called, hc, h]

theorem command_calledTo_ne {ref : CommandRef} (h : ref.list ≠ list) :
    (r.calledTo list info queue anchor k).command ref = r.command ref := by
  have hget : (r.calledTo list info queue anchor k).lists.get? ref.list =
      r.lists.get? ref.list := get?_put_ne h _
  unfold command Registry.list
  rw [hget]

/-- One call steps from `called k` to `called (k + 1)`. -/
theorem addCall_called (found : r.lists.get? list = some old) (hc : info.commands[k]? = some c) :
    addCall (Call.of ⟨list, info.epoch, k⟩ queue anchor) (r.calledTo list info queue anchor k) =
      .ok () (r.calledTo list info queue anchor (k + 1)) := by
  have hput : (r.calledTo list info queue anchor k).lists.get? list = some (info.called k) :=
    get?_put found _
  have hslot : (info.called k).commands[k]? = some c := by
    simp [CommandList.called, hc]
  refine (addCall_put hput hslot).trans ?_
  unfold calledTo put
  rw [CommandList.call_called hc, CommandList.calls_succ list queue anchor hc,
    Table.modify_modify]
  simp only [List.append_assoc]
  rfl

theorem addBatchCall_called (found : r.lists.get? list = some old)
    (hc : info.commands[k]? = some c) (hold : c.appendTime ≤ anchor.hostTime) :
    addBatchCall ⟨list, info.epoch, k⟩ queue anchor (r.calledTo list info queue anchor k) =
      .ok () (r.calledTo list info queue anchor (k + 1)) := by
  have hput : (r.calledTo list info queue anchor k).lists.get? list = some (info.called k) :=
    get?_put found _
  have hcommand : (r.calledTo list info queue anchor k).command ⟨list, info.epoch, k⟩ = .ok c := by
    refine command_eq_ok_iff.mpr ⟨info.called k, hput, rfl, ?_⟩
    simp [CommandList.called, hc]
  have hlate : ¬ anchor.hostTime < c.appendTime := UInt64.not_lt.mpr hold
  unfold addBatchCall
  refine (bind_of_ok rfl).trans ?_
  rw [hcommand]
  refine (bind_of_ok rfl).trans ?_
  rw [if_neg hlate]
  exact addCall_called found hc

theorem forM_called (info : CommandList) (found : r.lists.get? list = some old)
    (hold : ∀ c ∈ info.commands, c.appendTime ≤ anchor.hostTime) (m : Nat)
    (hle : k + m ≤ info.commands.size) :
    (List.range' k m).forM (fun slot => addBatchCall ⟨list, info.epoch, slot⟩ queue anchor)
        (r.calledTo list info queue anchor k) =
      .ok () (r.calledTo list info queue anchor (k + m)) := by
  -- The registry depends on `k`, so the first call leaves the same statement for `k + 1`.
  induction m generalizing k with
  | zero => rfl
  | succ m ih =>
    have hlt : k < info.commands.size := by omega
    have hc : info.commands[k]? = some info.commands[k] := Array.getElem?_eq_getElem hlt
    have hfirst : addBatchCall ⟨list, info.epoch, k⟩ queue anchor
        (r.calledTo list info queue anchor k) =
          .ok () (r.calledTo list info queue anchor (k + 1)) :=
      addBatchCall_called found hc (hold _ (Array.getElem_mem hlt))
    have hrest := ih (k := k + 1) (by omega)
    rw [List.range'_succ]
    refine (bind_of_ok hfirst).trans (hrest.trans ?_)
    rw [Nat.add_assoc, Nat.add_comm 1 m]

theorem modify_clear (found : r.lists.get? list = some info) :
    { r with lists := r.lists.modify list fun i => { i with callIds := [] } } =
      r.calledTo list info.clear queue anchor 0 := by
  refine (modify_eq_put found CommandList.clear).trans ?_
  unfold calledTo
  rw [CommandList.called_zero]
  simp [CommandList.calls, put]

/-- **Executing a deferred list** calls each of its commands once, in slot order. -/
theorem addCalls_put (found : r.lists.get? list = some info) (deferred : info.immediate = false)
    (hold : ∀ c ∈ info.commands, c.appendTime ≤ anchor.hostTime) :
    addCalls list queue anchor r =
      .ok info.commands.size (r.calledTo list info.clear queue anchor info.commands.size) := by
  have hcalls : (List.range' 0 info.commands.size).forM
      (fun slot => addBatchCall ⟨list, info.epoch, slot⟩ queue anchor)
      (r.calledTo list info.clear queue anchor 0) =
        .ok () (r.calledTo list info.clear queue anchor (0 + info.commands.size)) :=
    forM_called info.clear found hold info.commands.size (Nat.le_of_eq (Nat.zero_add _))
  rw [Nat.zero_add, ← List.range_eq_range'] at hcalls
  unfold addCalls
  refine (bind_of_ok rfl).trans ?_
  rw [list_eq_ok_iff.mpr found]
  refine (bind_of_ok rfl).trans ?_
  rw [deferred]
  exact (bind_of_ok (modify_of_eq (modify_clear found))).trans ((bind_of_ok hcalls).trans rfl)

/-- A command that is newer than the anchor is not called, and nothing else happens. -/
theorem addBatchCall_called_ends (found : r.lists.get? list = some old)
    (hlt : k < info.commands.size) :
    Ends (addBatchCall ⟨list, info.epoch, k⟩ queue anchor) (r.calledTo list info queue anchor k)
      (fun _ r' => r' = r.calledTo list info queue anchor (k + 1))
      (fun _ r' => r' = r.calledTo list info queue anchor k) := by
  have hc : info.commands[k]? = some info.commands[k] := Array.getElem?_eq_getElem hlt
  by_cases hold : info.commands[k].appendTime ≤ anchor.hostTime
  · exact ends_of_ok (addBatchCall_called found hc hold) rfl
  · have hcommand : (r.calledTo list info queue anchor k).command ⟨list, info.epoch, k⟩ =
        .ok info.commands[k] := by
      refine command_eq_ok_iff.mpr ⟨info.called k, get?_put found _, rfl, ?_⟩
      simp [CommandList.called]
    unfold addBatchCall
    simp only [ends_bind, ends_get, ends_lift]
    rw [hcommand]
    dsimp only
    rw [if_pos (UInt64.not_le.mp hold), ends_bind]
    rfl

/-- A batch that stops has called the commands before the one that it stopped at. -/
theorem forM_called_ends (info : CommandList) (found : r.lists.get? list = some old) (m : Nat)
    (hle : k + m ≤ info.commands.size) :
    Ends ((List.range' k m).forM fun slot => addBatchCall ⟨list, info.epoch, slot⟩ queue anchor)
      (r.calledTo list info queue anchor k)
      (fun _ r' => r' = r.calledTo list info queue anchor (k + m))
      (fun _ r' => ∃ j < k + m, r' = r.calledTo list info queue anchor j) := by
  induction m generalizing k with
  | zero => exact rfl
  | succ m ih =>
    rw [List.range'_succ]
    refine ends_bind.mpr ((addBatchCall_called_ends found (by omega)).imp ?_ ?_)
    · rintro _ _ rfl
      have hrest := ih (k := k + 1) (by omega)
      rwa [Nat.add_assoc, Nat.add_comm 1 m] at hrest
    · rintro _ _ rfl
      exact ⟨k, by omega, rfl⟩

/-- **Executing a list, whatever the end**: a list that is deferred has its commands called once
more, in slot order, up to the one that the execution stopped at; another is left alone. -/
theorem addCalls_ends :
    Ends (addCalls list queue anchor) r
      (fun _ r' => ∃ info, r.lists.get? list = some info ∧ info.immediate = false ∧
        r' = r.calledTo list info.clear queue anchor info.commands.size)
      (fun _ r' => r' = r ∨ ∃ info, r.lists.get? list = some info ∧ info.immediate = false ∧
        ∃ k < info.commands.size, r' = r.calledTo list info.clear queue anchor k) := by
  unfold addCalls
  simp only [ends_bind, ends_get, ends_lift]
  cases hl : r.list list with
  | error e => exact .inl trivial
  | ok info =>
    have found := list_eq_ok_iff.mp hl
    dsimp only
    cases deferred : info.immediate with
    | true => exact .inl rfl
    | false =>
      have hbatch : Ends ((List.range' 0 info.commands.size).forM fun slot =>
            addBatchCall ⟨list, info.epoch, slot⟩ queue anchor)
          (r.calledTo list info.clear queue anchor 0)
          (fun _ r' => r' = r.calledTo list info.clear queue anchor (0 + info.commands.size))
          (fun _ r' => ∃ j < 0 + info.commands.size,
            r' = r.calledTo list info.clear queue anchor j) :=
        forM_called_ends info.clear found info.commands.size (Nat.le_of_eq (Nat.zero_add _))
      rw [Nat.zero_add, ← List.range_eq_range'] at hbatch
      simp only [Bool.false_eq_true, if_false, ends_bind, ends_modify, ends_pure]
      rw [modify_clear found]
      refine hbatch.imp ?_ ?_
      · rintro _ _ rfl
        exact ⟨info, found, deferred, rfl⟩
      · rintro _ _ ⟨k, hk, rfl⟩
        exact .inr ⟨info, found, deferred, k, hk, rfl⟩

end Registry

end GpuTrace
