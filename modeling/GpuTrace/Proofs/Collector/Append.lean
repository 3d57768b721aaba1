import GpuTrace.Proofs.Collector.Paths
import GpuTrace.Proofs.Driver.Reports

/-!
# Append — the exact effect of an append that is traced

If tracing is on, the driver makes events, and the list and the operation are known, the begin of an
append makes one event and answers it (`enterAppend_makes`). The end registers the command with it
(`exitAppend_registers`), and on an immediate list also makes its call (`exitAppend_calls`).
-/

namespace GpuTrace

open Fallible

/-! ## Registries -/

namespace Registry

variable {r : Registry} {list : CommandListHandle} {info : CommandList}

def withCommand (r : Registry) (list : CommandListHandle) (info : CommandList)
    (command : Command) : Registry :=
  (r.numbered 1).put list (info.append (command.numbered r.nextKernelId))

def withCall (r : Registry) (list : CommandListHandle) (info : CommandList) (command : Command)
    (anchor : SubmitAnchor) : Registry :=
  { (r.numbered 1).put list ((info.append (command.numbered r.nextKernelId)).call
      info.commands.size (command.callCount + 1)) with
    pending := r.pending ++ [⟨⟨list, info.epoch, info.commands.size⟩, list.asQueue, anchor,
      command.callCount + 1⟩] }

theorem addCall_withCommand (found : r.lists.get? list = some info) (command : Command)
    (anchor : SubmitAnchor) :
    addCall (Call.of ⟨list, info.epoch, info.commands.size⟩ list.asQueue anchor)
        (r.withCommand list info command) =
      .ok () (r.withCall list info command anchor) := by
  have hput : (r.withCommand list info command).lists.get? list =
      some (info.append (command.numbered r.nextKernelId)) := get?_put (r := r.numbered 1) found _
  have hslot : (info.append (command.numbered r.nextKernelId)).commands[info.commands.size]? =
      some (command.numbered r.nextKernelId) := Array.getElem?_push_size
  refine (addCall_put hput hslot).trans ?_
  unfold withCommand
  rw [put_put]
  rfl

theorem command_withCall (found : r.lists.get? list = some info) (command : Command)
    (anchor : SubmitAnchor) :
    (r.withCall list info command anchor).command ⟨list, info.epoch, info.commands.size⟩ =
      .ok { command.numbered r.nextKernelId with callCount := command.callCount + 1 } := by
  have hput : (r.withCall list info command anchor).lists.get? list =
      some ((info.append (command.numbered r.nextKernelId)).call info.commands.size
        (command.callCount + 1)) := get?_put (r := r.numbered 1) found _
  refine command_eq_ok_iff.mpr ⟨_, hput, rfl, ?_⟩
  show ((info.commands.push _).modify info.commands.size _)[info.commands.size]? = _
  rw [Array.getElem?_modify, if_pos rfl, Array.getElem?_push_size]
  rfl

theorem wellFormed_withCommand (h : r.WellFormed) (found : r.lists.get? list = some info)
    (command : Command) : (r.withCommand list info command).WellFormed :=
  h.move ((addCommand_ends command).of_ok (addCommand_put found command)).1

theorem wellFormed_withCall (h : r.WellFormed) (found : r.lists.get? list = some info)
    (command : Command) (anchor : SubmitAnchor) :
    (r.withCall list info command anchor).WellFormed :=
  (wellFormed_withCommand h found command).move
    ((addCall_ends _).of_ok (addCall_withCommand found command anchor))

theorem wellFormed_calledTo (h : r.WellFormed) (found : r.lists.get? list = some info)
    (deferred : info.immediate = false) {queue : QueueHandle} {anchor : SubmitAnchor}
    (hold : ∀ c ∈ info.commands, c.appendTime ≤ anchor.hostTime) :
    (r.calledTo list info.clear queue anchor info.commands.size).WellFormed := by
  have hwithin : Within (Reaches fun _ => True) (addCalls list queue anchor) :=
    within_addCalls list queue anchor trivial fun _ _ => trivial
  exact h.reaches ((hwithin r).of_ok (addCalls_put found deferred hold))

end Registry

/-! ## Hooks -/

namespace Tracing

open Registry

variable {t : Tracing} {list : CommandListHandle} {info : CommandList} {op : Operation}
  {props : Props} {anchor : Option SubmitAnchor} {state : DeviceState}

/-- The event that the driver gives next, in the pool before it. -/
def nextEvent (t : Tracing) : SignalEvent :=
  .owned ⟨t.driver.lastHandle + 1⟩ ⟨t.driver.lastHandle + 1 + 1⟩

def nextCommand (t : Tracing) (props : Props) (device : DeviceHandle) (frequency : UInt64) :
    Command :=
  ⟨props, t.nextEvent, device, 0, t.now, frequency, 0⟩

theorem createProfilingEvent_makes (h : t.driver.MakesEvents) (context : ContextHandle) :
    createProfilingEvent context t =
      .ok (.ok t.nextEvent) { t with driver := t.driver.withEvent } := by
  obtain ⟨d₁, hpool, hevent⟩ := h.withEvent context
  rw [eq_ok_iff_ends]
  unfold createProfilingEvent
  simp only [ends_bind, ends_onDriver]
  rw [hpool]
  simp only [ends_bind, ends_onDriver]
  rw [hevent]
  exact ⟨rfl, rfl⟩

/-- A deferred list submits later, so there is no anchor yet. -/
theorem appendAnchor_of_deferred (found : t.registry.lists.get? list = some info)
    (deferred : info.immediate = false) (device : DeviceHandle) :
    t.appendAnchor list device = .ok none := by
  unfold appendAnchor Registry.isImmediate
  rw [list_eq_ok_iff.mpr found]
  simp only [Functor.map, Except.map, deferred]
  rfl

theorem appendAnchor_of_immediate (found : t.registry.lists.get? list = some info)
    (immediate : info.immediate = true) {device : DeviceHandle} {anchor : SubmitAnchor}
    (hanchor : t.anchorOn device = .ok anchor) :
    t.appendAnchor list device = .ok (some anchor) := by
  unfold appendAnchor Registry.isImmediate
  rw [list_eq_ok_iff.mpr found, hanchor]
  simp only [Functor.map, Except.map, immediate]
  rfl

/-- The begin of an append makes an event for it. -/
theorem enterAppend_makes (henabled : t.collector.enabled = true)
    (found : t.registry.lists.get? list = some info) (hprops : t.propsOf op = .ok props)
    (hanchor : t.appendAnchor list info.device = .ok anchor)
    (htimer : t.driver.devices.get? info.device = some state) (hruns : state.frequency ≠ 0)
    (hmakes : t.driver.MakesEvents) :
    enterAppend list op none t =
      .ok ⟨some ⟨list, t.nextCommand props info.device state.frequency, anchor⟩,
          some t.nextEvent.event⟩
        { t with driver := t.driver.withEvent } := by
  have hdevice : t.registry.device list = .ok info.device := by
    unfold Registry.device
    rw [list_eq_ok_iff.mpr found]
    rfl
  have hcontext : t.registry.context list = .ok info.context := by
    unfold Registry.context
    rw [list_eq_ok_iff.mpr found]
    rfl
  have hfrequency : t.driver.withEvent.timerFrequency info.device = .ok state.frequency := by
    unfold Driver.timerFrequency Driver.device
    rw [show t.driver.withEvent.devices = t.driver.devices from rfl, htimer]
    rfl
  have hcommand : Command.of props t.nextEvent info.device t.now state.frequency =
      .ok (t.nextCommand props info.device state.frequency) := if_neg hruns
  rw [eq_ok_iff_ends]
  unfold enterAppend signalFor
  simp only [ends_bind, ends_get, henabled, hdevice, hprops, hanchor, hcontext, ends_lift,
    Bool.not_true, Bool.false_eq_true, if_false]
  rw [ends_iff_of_ok (createProfilingEvent_makes hmakes _)]
  simp only [ends_pure, ends_bind, ends_get, ends_lift, hfrequency, hcommand, and_self]

theorem exitAppend_registers (found : t.registry.lists.get? list = some info)
    (command : Command) :
    exitAppend ⟨list, command, none⟩ (.ok ()) t =
      .ok () (t.withRegistry (t.registry.withCommand list info command)) :=
  (bind_of_ok (onRegistry_of_ok (addCommand_put found command))).trans rfl

theorem exitAppend_calls (found : t.registry.lists.get? list = some info) (command : Command)
    (anchor : SubmitAnchor) :
    exitAppend ⟨list, command, some anchor⟩ (.ok ()) t =
      .ok () (t.withRegistry (t.registry.withCall list info command anchor)) :=
  (bind_of_ok (onRegistry_of_ok (addCommand_put found command))).trans
    (onRegistry_of_ok (addCall_withCommand found command anchor))

end Tracing

end GpuTrace
