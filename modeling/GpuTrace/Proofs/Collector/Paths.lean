import GpuTrace.Proofs.Collector.Frame
import GpuTrace.Proofs.Collector.Twins
import GpuTrace.Proofs.Registry.Calls
import GpuTrace.Proofs.Registry.WellFormed

/-!
# Paths — the immediate and the deferred way to submit

An operation that is appended to an immediate list is called with the append; one on a deferred
list is called when the list is executed, together with all others of the list. A `ListPair` has one
list of each kind, both empty, on one device and in one context. If the same operations are appended
to either of them, the lists fill with the same commands (`ListPair.appendAll_together`);
executing the deferred one then makes the calls that the appends made on the other
(`ListPair.exitExecute_deferred`), and these calls are twins (`ListPair.twins`).
-/

namespace GpuTrace

namespace Tracing

open Fallible

def appendThrough (list : CommandListHandle) (op : Operation) (signal : Option EventHandle) :
    Fallible Tracing Unit := do
  match (← enterAppend list op signal).inFlight with
  | some append => exitAppend append (.ok ())
  | none => return ()

def appendAll (list : CommandListHandle) (ops : List (Operation × Option EventHandle))
    (t : Tracing) : Tracing :=
  ops.foldl (fun t op => final (appendThrough list op.1 op.2) t) t

/-- An anchor shows the clock and the bits of the timer that count. -/
theorem anchorOn_eq {t : Tracing} {device : DeviceHandle} {state : DeviceState}
    (h : t.driver.devices.get? device = some state) :
    t.anchorOn device = .ok ⟨t.now, state.time &&& t.driver.timestampMask⟩ := by
  unfold anchorOn Driver.maskedTimestamp Driver.deviceTimestamp Driver.device
  rw [h]
  rfl

/-- An immediate and a deferred list where both paths begin: empty, in one context and on one
device of the driver. -/
structure ListPair (t₀ : Tracing) where
  direct : CommandListHandle
  deferred : CommandListHandle
  info : CommandList
  info' : CommandList
  state : DeviceState
  enabled : t₀.collector.enabled = true
  found : t₀.registry.lists.get? direct = some info
  found' : t₀.registry.lists.get? deferred = some info'
  immediate : info.immediate = true
  immediate' : info'.immediate = false
  empty : info.commands = #[]
  empty' : info'.commands = #[]
  context : info'.context = info.context
  device : info'.device = info.device
  timer : t₀.driver.devices.get? info.device = some state

namespace ListPair

variable {t₀ : Tracing} (p : ListPair t₀)

def anchor : SubmitAnchor :=
  ⟨t₀.now, p.state.time &&& t₀.driver.timestampMask⟩

def submitted (commands : Array Command) : Registry :=
  (t₀.registry.numbered commands.size).calledTo p.direct (p.info.filled commands)
    p.direct.asQueue p.anchor commands.size

def collected (commands : Array Command) : Registry :=
  (t₀.registry.numbered commands.size).put p.deferred (p.info'.filled commands)

def executed (queue : QueueHandle) (commands : Array Command) : Registry :=
  (t₀.registry.numbered commands.size).calledTo p.deferred (p.info'.filled commands).clear
    queue p.anchor commands.size

/-- Both paths after the same appends: the lists have the same commands, and nothing but the
registries differs. The clock and the timers stand still. -/
structure Beside (commands : Array Command) (t t' : Tracing) : Prop where
  driver : t₀.driver.Undisturbed t.driver
  now : t.now = t₀.now
  enabled : t.collector.enabled = true
  registry : t.registry = p.submitted commands
  beside : t' = t.withRegistry (p.collected commands)
  fresh : ∀ c ∈ commands, c.appendTime = t₀.now ∧ c.callCount = 0

def Together (t t' : Tracing) : Prop :=
  ∃ commands, p.Beside commands t t'

variable {p} {commands : Array Command} {t t' : Tracing}

theorem get?_collected : (p.collected commands).lists.get? p.deferred =
    some (p.info'.filled commands) :=
  Registry.get?_put p.found' _

/-! ## Begin -/

theorem beside_start (p : ListPair t₀) : p.Beside #[] t₀ t₀ where
  driver := refl_of Driver.Undisturbed _
  now := rfl
  enabled := p.enabled
  registry := by
    have hput : (t₀.registry.numbered 0).put p.direct p.info = t₀.registry :=
      Registry.put_self p.found
    show t₀.registry = _
    unfold submitted Registry.calledTo
    rw [CommandList.filled_empty p.empty, Array.size_empty, CommandList.called_zero, hput]
    simp [CommandList.calls, Registry.numbered]
  beside := by
    have hput : (t₀.registry.numbered 0).put p.deferred p.info' = t₀.registry :=
      Registry.put_self p.found'
    unfold collected
    rw [CommandList.filled_empty p.empty', Array.size_empty, hput]
    rfl
  fresh := by simp

namespace Beside

variable (h : p.Beside commands t t')

include h

theorem list : t.registry.list p.direct =
    .ok ((p.info.filled commands).called commands.size) := by
  rw [h.registry]
  exact Registry.list_eq_ok_iff.mpr (Registry.get?_put p.found _)

theorem list' : t'.registry.list p.deferred = .ok (p.info'.filled commands) := by
  rw [h.beside]
  exact Registry.list_eq_ok_iff.mpr get?_collected

theorem enabled' : t'.collector.enabled = true := by
  rw [h.beside]
  exact h.enabled

theorem now' : t'.now = t.now := by
  rw [h.beside]
  rfl

theorem device : t.registry.device p.direct = .ok p.info.device := by
  unfold Registry.device
  rw [h.list]
  rfl

theorem device' : t'.registry.device p.deferred = .ok p.info.device := by
  unfold Registry.device
  rw [h.list', ← p.device]
  rfl

theorem context : t.registry.context p.direct = .ok p.info.context := by
  unfold Registry.context
  rw [h.list]
  rfl

theorem context' : t'.registry.context p.deferred = .ok p.info.context := by
  unfold Registry.context
  rw [h.list', ← p.context]
  rfl

theorem isImmediate : t.registry.isImmediate p.direct = .ok true := by
  unfold Registry.isImmediate
  rw [h.list, ← p.immediate]
  rfl

theorem isImmediate' : t'.registry.isImmediate p.deferred = .ok false := by
  unfold Registry.isImmediate
  rw [h.list', ← p.immediate']
  rfl

theorem anchorOn : t.anchorOn p.info.device = .ok p.anchor := by
  have htimer : t.driver.devices.get? p.info.device = some p.state := by
    rw [h.driver.devices, p.timer]
  rw [anchorOn_eq htimer, h.now, h.driver.timestampMask]
  rfl

theorem anchorOn' : t'.anchorOn p.info.device = .ok p.anchor := by
  rw [h.beside]
  exact h.anchorOn

theorem propsOf (op : Operation) : t'.propsOf op = t.propsOf op := by
  have himage : (p.collected commands).imageSize = (p.submitted commands).imageSize := rfl
  have hgroup : (p.collected commands).groupSize = (p.submitted commands).groupSize := rfl
  have hregistry : t'.registry = p.collected commands := by
    rw [h.beside]
    rfl
  have hdriver : t'.driver = t.driver := by
    rw [h.beside]
    rfl
  unfold Tracing.propsOf
  rw [hregistry, h.registry, hdriver, himage, hgroup]

theorem appendAnchor : t.appendAnchor p.direct p.info.device = .ok (some p.anchor) := by
  unfold Tracing.appendAnchor
  rw [h.isImmediate, h.anchorOn]
  rfl

theorem appendAnchor' : t'.appendAnchor p.deferred p.info.device = .ok none := by
  unfold Tracing.appendAnchor
  rw [h.isImmediate']
  rfl

end Beside

/-! ## Appending -/

theorem sharesDriver (p : ListPair t₀) : SharesDriver False p.Together where
  onDriver call hcall := by
    rintro t _ ⟨commands, h⟩
    obtain ⟨hdriver, hnow, henabled, hregistry, rfl, hfresh⟩ := h
    exact ⟨rfl, commands, trans_of Driver.Undisturbed hdriver (hcall _), hnow, henabled, hregistry,
      rfl, hfresh⟩
  warn w := by
    refine lockstep_modify ?_
    rintro t _ ⟨commands, h⟩
    obtain ⟨hdriver, hnow, henabled, hregistry, rfl, hfresh⟩ := h
    exact ⟨commands, hdriver, hnow, henabled, hregistry, rfl, hfresh⟩

/-- Both appends are in flight with one command, or neither is; only the one on the immediate list
has an anchor. -/
def SameAppend (p : ListPair t₀) (answer answer' : AppendAnswer) : Prop :=
  answer.inFlight = none ∧ answer'.inFlight = none ∨
    ∃ command : Command, command.appendTime = t₀.now ∧ command.callCount = 0 ∧
      answer.inFlight = some ⟨p.direct, command, some p.anchor⟩ ∧
      answer'.inFlight = some ⟨p.deferred, command, none⟩

theorem enterAppend_lockstep (p : ListPair t₀) (op : Operation) (signal : Option EventHandle) :
    Lockstep False p.Together p.SameAppend (enterAppend p.direct op signal)
      (enterAppend p.deferred op signal) := by
  unfold enterAppend
  refine lockstep_bind lockstep_get fun t t' ht => ?_
  obtain ⟨commands, h⟩ := ht
  rw [h.enabled, h.enabled', h.device, h.device', h.propsOf op, h.context, h.context', h.now',
    h.now]
  -- Reading the anchor is all that the immediate list does more; it can not fail here.
  simp only [Bool.not_true, Bool.false_eq_true, if_false, lift_ok_bind, h.appendAnchor,
    h.appendAnchor']
  refine lockstep_bind_eq (lockstep_lift _) fun props => ?_
  refine lockstep_bind_eq (p.sharesDriver.signalFor _ _ _) fun made => ?_
  cases made with
  | none => exact lockstep_pure (.inl ⟨rfl, rfl⟩)
  | some signalEvent =>
    -- An event may have been made in between, so the states are read again.
    refine lockstep_bind lockstep_get fun t₁ t₁' ht₁ => ?_
    obtain ⟨_, h₁⟩ := ht₁
    rw [h₁.beside]
    refine lockstep_bind_eq (lockstep_lift _) fun frequency => ?_
    cases hcommand : Command.of props signalEvent p.info.device t₀.now frequency with
    | error e => exact lockstep_throw e
    | ok command =>
      rw [Command.eq_of_ok hcommand]
      exact lockstep_pure (.inr ⟨_, rfl, rfl, rfl, rfl⟩)

/-- On the immediate list the command is called with the append. -/
theorem exitAppend_direct (command : Command) (h : t.registry = p.submitted commands) :
    exitAppend ⟨p.direct, command, some p.anchor⟩ (.ok ()) t =
      .ok () (t.withRegistry (p.submitted (t₀.registry.joined commands command))) := by
  let r := t₀.registry.numbered (commands.size + 1)
  let info := p.info.filled (t₀.registry.joined commands command)
  have hadd : Registry.addCommand p.direct command t.registry =
      .ok ⟨p.direct, p.info.epoch, commands.size⟩
        (r.calledTo p.direct info p.direct.asQueue p.anchor commands.size) := by
    have hinfo : info = (p.info.filled commands).append
        (command.numbered (t₀.registry.nextKernelId + commands.size)) :=
      (CommandList.append_filled _ _ _).symm
    rw [h, hinfo]
    exact Registry.addCommand_called (r := t₀.registry.numbered commands.size) p.found command
      (Nat.le_refl _)
  have hcall : Registry.addCall
      (Call.of ⟨p.direct, p.info.epoch, commands.size⟩ p.direct.asQueue p.anchor)
      (r.calledTo p.direct info p.direct.asQueue p.anchor commands.size) =
        .ok () (r.calledTo p.direct info p.direct.asQueue p.anchor (commands.size + 1)) :=
    Registry.addCall_called p.found Array.getElem?_push_size
  unfold submitted
  rw [Registry.size_joined]
  exact (bind_of_ok (onRegistry_of_ok hadd)).trans (onRegistry_of_ok hcall)

/-- On the deferred list it is registered only. -/
theorem exitAppend_deferred (command : Command) (h : t.registry = p.collected commands) :
    exitAppend ⟨p.deferred, command, none⟩ (.ok ()) t =
      .ok () (t.withRegistry (p.collected (t₀.registry.joined commands command))) := by
  have hadd : Registry.addCommand p.deferred command t.registry =
      .ok ⟨p.deferred, p.info'.epoch, commands.size⟩
        (p.collected (t₀.registry.joined commands command)) := by
    rw [h]
    refine (Registry.addCommand_put get?_collected command).trans ?_
    unfold collected
    rw [Registry.numbered_put, Registry.put_put, Registry.numbered_numbered,
      CommandList.append_filled, Registry.size_joined]
    rfl
  exact (bind_of_ok (onRegistry_of_ok hadd)).trans rfl

/-- The command goes to both lists, under one kernel id. -/
theorem exitAppend_lockstep (p : ListPair t₀) {command : Command}
    (htime : command.appendTime = t₀.now) (hcount : command.callCount = 0) :
    Lockstep False p.Together Eq (exitAppend ⟨p.direct, command, some p.anchor⟩ (.ok ()))
      (exitAppend ⟨p.deferred, command, none⟩ (.ok ())) := by
  rintro t _ ⟨commands, hdriver, hnow, henabled, hregistry, rfl, hfresh⟩
  have hcollected : (t.withRegistry (p.collected commands)).registry = p.collected commands := rfl
  rw [exitAppend_direct command hregistry, exitAppend_deferred command hcollected]
  refine ⟨rfl, t₀.registry.joined commands command, hdriver, hnow, henabled, rfl, rfl, ?_⟩
  intro c hc
  rcases Array.mem_push.mp hc with hold | rfl
  · exact hfresh c hold
  · exact ⟨htime, hcount⟩

theorem appendThrough_lockstep (p : ListPair t₀) (op : Operation) (signal : Option EventHandle) :
    Lockstep False p.Together Eq (appendThrough p.direct op signal)
      (appendThrough p.deferred op signal) := by
  unfold appendThrough
  refine lockstep_bind (p.enterAppend_lockstep op signal) fun answer answer' hanswer => ?_
  rcases hanswer with ⟨hnone, hnone'⟩ | ⟨command, htime, hcount, hsome, hsome'⟩
  · rw [hnone, hnone']
    exact lockstep_pure rfl
  · rw [hsome, hsome']
    exact p.exitAppend_lockstep htime hcount

theorem appendAll_together (p : ListPair t₀) (ops : List (Operation × Option EventHandle)) :
    p.Together (appendAll p.direct ops t₀) (appendAll p.deferred ops t₀) := by
  have hall : ∀ t t', p.Together t t' →
      p.Together (appendAll p.direct ops t) (appendAll p.deferred ops t') := by
    induction ops with
    | nil => exact fun t t' h => h
    | cons op ops ih => exact fun t t' h => ih _ _ ((p.appendThrough_lockstep op.1 op.2).final h)
  exact hall t₀ t₀ ⟨#[], p.beside_start⟩

/-! ## Executing -/

/-- The anchor of an execution is the one that the appends were submitted with. -/
theorem enterExecute_deferred (h : p.Beside commands t t') (queue : QueueHandle) :
    enterExecute queue [p.deferred] t' = .ok (some ⟨queue, [(p.deferred, p.anchor)]⟩) t' := by
  unfold enterExecute
  refine (bind_of_ok rfl).trans ?_
  rw [h.enabled', List.mapM_cons, List.mapM_nil, h.device']
  simp only [lift_ok_bind, h.anchorOn']
  rfl

/-- Executing the deferred list calls all of its commands. -/
theorem exitExecute_deferred (h : p.Beside commands t t') (queue : QueueHandle) :
    exitExecute ⟨queue, [(p.deferred, p.anchor)]⟩ (.ok ()) t' =
      .ok () (t.withRegistry (p.executed queue commands)) := by
  have hold : ∀ c ∈ commands, c.appendTime ≤ p.anchor.hostTime := by
    intro c hc
    rw [(h.fresh c hc).1]
    exact UInt64.le_refl _
  have hcalls : Registry.addCalls p.deferred queue p.anchor t'.registry =
      .ok commands.size (p.executed queue commands) := by
    rw [h.beside]
    refine (Registry.addCalls_put (r := p.collected commands) get?_collected p.immediate'
      hold).trans ?_
    exact congrArg (EStateM.Result.ok _) (Registry.put_calledTo _ _)
  have hsubmit : submitList queue p.deferred p.anchor t' =
      .ok () (t'.withRegistry (p.executed queue commands)) := by
    unfold submitList
    refine (bind_of_ok rfl).trans ?_
    rw [h.isImmediate', lift_ok_bind]
    exact map_of_ok (onRegistry_of_ok hcalls)
  refine (bind_of_ok hsubmit).trans ?_
  rw [h.beside]
  rfl

/-! ## Twins -/

theorem twins_old (wf : t₀.registry.WellFormed) (queue : QueueHandle) :
    List.Forall₂ (Call.Twins (p.submitted commands) (p.executed queue commands))
      t₀.registry.pending t₀.registry.pending := by
  refine List.forall₂_same.mpr fun call hcall => ?_
  obtain ⟨c, hc, -⟩ := wf.resolves call hcall
  obtain ⟨info, hinfo, -, hslot⟩ := Registry.command_eq_ok_iff.mp hc
  have hother : ∀ {list info'}, t₀.registry.lists.get? list = some info' → info'.commands = #[] →
      call.command.list ≠ list := by
    rintro list info' hinfo' hempty rfl
    rw [hinfo] at hinfo'
    cases hinfo'
    rw [hempty] at hslot
    cases hslot
  refine ⟨⟨c, ?_, ?_⟩, rfl, rfl⟩
  · exact (Registry.command_calledTo_ne (hother p.found p.empty)).trans hc
  · exact (Registry.command_calledTo_ne (hother p.found' p.empty')).trans hc

theorem twins_new (p : ListPair t₀) (commands : Array Command) (queue : QueueHandle) :
    List.Forall₂ (Call.Twins (p.submitted commands) (p.executed queue commands))
      (CommandList.firstCalls p.direct p.info.epoch p.direct.asQueue p.anchor commands.size)
      (CommandList.firstCalls p.deferred p.info'.epoch queue p.anchor commands.size) := by
  unfold CommandList.firstCalls
  rw [List.forall₂_map_left_iff, List.forall₂_map_right_iff]
  refine List.forall₂_same.mpr fun slot hslot => ?_
  have hlt : slot < commands.size := List.mem_range.mp hslot
  have hc : commands[slot]? = some commands[slot] := Array.getElem?_eq_getElem hlt
  refine ⟨⟨{ commands[slot] with callCount := commands[slot].callCount + 1 }, ?_, ?_⟩, rfl, rfl⟩
  · exact Registry.command_calledTo (r := t₀.registry.numbered _) p.found hc hlt
  · exact Registry.command_calledTo (r := t₀.registry.numbered _) p.found' hc hlt

/-- On the immediate list each command was called once. -/
theorem Beside.pending (h : p.Beside commands t t') :
    t.registry.pending = t₀.registry.pending ++
      CommandList.firstCalls p.direct p.info.epoch p.direct.asQueue p.anchor commands.size := by
  have hfirst := (p.info.filled commands).calls_first p.direct p.direct.asQueue p.anchor
    fun c hc => (h.fresh c hc).2
  rw [h.registry]
  exact congrArg (t₀.registry.pending ++ ·) hfirst

/-- So it was on the deferred list. -/
theorem Beside.pending' (h : p.Beside commands t t') (queue : QueueHandle) :
    (p.executed queue commands).pending = t₀.registry.pending ++
      CommandList.firstCalls p.deferred p.info'.epoch queue p.anchor commands.size := by
  have hfirst := (p.info'.filled commands).clear.calls_first p.deferred queue p.anchor
    fun c hc => (h.fresh c hc).2
  exact congrArg (t₀.registry.pending ++ ·) hfirst

/-- **Both paths make the same calls.** -/
theorem twins (wf : t₀.registry.WellFormed) (h : p.Beside commands t t') (queue : QueueHandle) :
    Twins (p.submitted commands) (p.executed queue commands) t
      (t.withRegistry (p.executed queue commands)) where
  driver := rfl
  now := rfl
  notifies := rfl
  profile := rfl
  lists := by rw [h.registry]
  lists' := rfl
  pending := by
    have hpending' : (t.withRegistry (p.executed queue commands)).registry.pending =
        (p.executed queue commands).pending := rfl
    rw [hpending', h.pending, h.pending' queue]
    exact List.rel_append (twins_old wf queue) (p.twins_new commands queue)
  warnings := rfl
  notices := List.forall₂_same.mpr fun n _ => .refl n

end ListPair

end Tracing

end GpuTrace
