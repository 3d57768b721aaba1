import GpuTrace.Proofs.Driver.Evolution
import GpuTrace.Proofs.Table

/-!
# Signals — what a driver knows of completed events

A new event is not ready and has no ticks; a signal makes an event ready with the ticks of its
kernel, and a reset takes both back. If no status is forced, every event is in one of these two
states (`Regular`), so one that is ready has ticks.

The calls that the tracer makes signal and reset nothing and move no timer: they leave a driver
`Undisturbed`, and `Tended` is this together with what they do to objects (`Evolves`). Those that
are about the tracer itself leave all objects `Untouched`.
-/

namespace GpuTrace.Driver

/-- Timers are as before, and so is every event that is not new. -/
structure Undisturbed (d d' : Driver) : Prop where
  devices : d'.devices = d.devices
  timestampMask : d'.timestampMask = d.timestampMask
  events_from : ∀ e st', d'.events.get? e = some st' →
    d.events.get? e = some st' ∨ ∃ pool, st' = newEvent pool

/-- Every event waits for its signal, or is ready and has the ticks of its kernel. -/
def Regular (d : Driver) : Prop :=
  ∀ e st, d.events.get? e = some st →
    st.status = .notReady ∨ st.status = .ready ∧ st.timestamp.isSome = true

variable {d d' : Driver} {event : EventHandle} {timestamp : KernelTimestamp}

instance : IsPreorder Driver Undisturbed where
  refl _ := ⟨rfl, rfl, fun _ _ h => .inl h⟩
  trans := by
    intro d₁ d₂ d₃ h h'
    refine ⟨h'.devices.trans h.devices, h'.timestampMask.trans h.timestampMask, ?_⟩
    intro e st he
    rcases h'.events_from e st he with hold | hnew
    · exact h.events_from e st hold
    · exact .inr hnew

/-! ## Ticks of an event -/

theorem kernelTimestamp_eq_ok_iff :
    d.kernelTimestamp event = .ok timestamp ↔
      ∃ st, d.events.get? event = some st ∧ st.timestamp = some timestamp := by
  unfold kernelTimestamp
  cases d.events.get? event with
  | none => simp
  | some st => cases h : st.timestamp <;> simp [h]

/-- A live event of a regular driver is not ready, or it is ready and has ticks. -/
theorem Regular.answers (h : d.Regular) (halive : d.isAlive event = true) :
    d.eventStatus event = .notReady ∨
      d.eventStatus event = .ready ∧ ∃ timestamp, d.kernelTimestamp event = .ok timestamp := by
  obtain ⟨st, hst⟩ := isAlive_iff.mp halive
  have hstatus : d.eventStatus event = st.status := by
    unfold eventStatus
    rw [hst]
  rw [hstatus]
  refine (h event st hst).imp_right fun ⟨hready, hsome⟩ => ⟨hready, ?_⟩
  obtain ⟨timestamp, htimestamp⟩ := Option.isSome_iff_exists.mp hsome
  exact ⟨timestamp, kernelTimestamp_eq_ok_iff.mpr ⟨st, hst, htimestamp⟩⟩

theorem Undisturbed.kernelTimestamp (h : Undisturbed d d')
    (ht : d'.kernelTimestamp event = .ok timestamp) : d.kernelTimestamp event = .ok timestamp := by
  obtain ⟨st, hst, hsome⟩ := kernelTimestamp_eq_ok_iff.mp ht
  rcases h.events_from event st hst with hold | ⟨pool, rfl⟩
  · exact kernelTimestamp_eq_ok_iff.mpr ⟨st, hold, hsome⟩
  · cases hsome

theorem Regular.undisturbed (h : d.Regular) (hd : Undisturbed d d') : d'.Regular := by
  intro e st' he
  rcases hd.events_from e st' he with hold | ⟨pool, rfl⟩
  · exact h e st' hold
  · exact .inl rfl

theorem Regular.modify (h : d.Regular) {f : EventState → EventState}
    (hevents : d'.events = d.events.modify event f)
    (hf : ∀ st, (f st).status = .notReady ∨
      (f st).status = .ready ∧ (f st).timestamp.isSome = true) : d'.Regular := by
  intro e st he
  rw [hevents, Table.get?_modify] at he
  split at he
  · obtain ⟨old, -, rfl⟩ := Option.map_eq_some_iff.mp he
    exact hf old
  · exact h e st he

theorem kernelTimestamp_of_modify {f : EventState → EventState}
    (hevents : d'.events = d.events.modify event f)
    (hf : ∀ st, (f st).timestamp = some timestamp → st.timestamp = some timestamp)
    {e : EventHandle} (h : d'.kernelTimestamp e = .ok timestamp) :
    d.kernelTimestamp e = .ok timestamp := by
  obtain ⟨st', hst', hsome⟩ := kernelTimestamp_eq_ok_iff.mp h
  rw [hevents, Table.get?_modify] at hst'
  split at hst'
  · obtain ⟨st, hst, rfl⟩ := Option.map_eq_some_iff.mp hst'
    exact kernelTimestamp_eq_ok_iff.mpr ⟨st, hst, hf st hsome⟩
  · exact kernelTimestamp_eq_ok_iff.mpr ⟨st', hst', hsome⟩

/-! ## Timers and signals -/

theorem setDeviceTime_ok {device : DeviceHandle} {ticks : UInt64}
    (h : d.setDeviceTime device ticks = .ok d') :
    ∃ state, d.devices.get? device = some state ∧
      d' = { d with devices := d.devices.modify device fun s => { s with time := ticks } } := by
  unfold setDeviceTime Driver.device at h
  cases hd : d.devices.get? device with
  | none =>
    rw [hd] at h
    cases h
  | some state =>
    rw [hd] at h
    cases h
    exact ⟨state, rfl, rfl⟩

theorem advanceDeviceTime_ok {device : DeviceHandle} {ticks : UInt64}
    (h : d.advanceDeviceTime device ticks = .ok d') :
    ∃ state time, d.devices.get? device = some state ∧ Checked.add state.time ticks = .ok time ∧
      d' = { d with devices := d.devices.modify device fun s => { s with time } } := by
  unfold advanceDeviceTime Driver.device at h
  cases hd : d.devices.get? device with
  | none =>
    rw [hd] at h
    cases h
  | some state =>
    rw [hd] at h
    cases ht : Checked.add state.time ticks with
    | error e =>
      simp only [ht, bind, Except.bind] at h
      cases h
    | ok time =>
      simp only [ht, bind, Except.bind] at h
      obtain ⟨-, -, rfl⟩ := setDeviceTime_ok h
      exact ⟨state, time, rfl, ht, rfl⟩

theorem signal_ok (h : d.signal event timestamp = .ok d') :
    d' = { d with
      events := d.events.modify event fun s =>
        { s with status := .ready, timestamp := some timestamp } } := by
  unfold signal at h
  split at h
  · cases h
    rfl
  · cases h

/-! ## Calls -/

theorem undisturbed_of_events (hdevices : d'.devices = d.devices)
    (hmask : d'.timestampMask = d.timestampMask) (hevents : d'.events = d.events) :
    Undisturbed d d' :=
  ⟨hdevices, hmask, fun _ _ h => .inl (hevents ▸ h)⟩

/-- Making an event disturbs no other one. -/
theorem undisturbed_of_insert {pool : EventPoolHandle} (hdevices : d'.devices = d.devices)
    (hmask : d'.timestampMask = d.timestampMask)
    (hevents : d'.events = d.events.insert event (newEvent pool)) : Undisturbed d d' := by
  refine ⟨hdevices, hmask, fun e st' he => ?_⟩
  rw [hevents, Table.get?_insert] at he
  split at he
  · cases he
    exact .inr ⟨pool, rfl⟩
  · exact .inl he

theorem createPool_undisturbed (context : ContextHandle) (desc : PoolDesc) :
    Undisturbed d (d.createPool context desc).2 := by
  unfold createPool
  split
  · exact undisturbed_of_events rfl rfl rfl
  · exact undisturbed_of_events rfl rfl rfl

theorem createEvent_undisturbed (pool : EventPoolHandle) :
    Undisturbed d (d.createEvent pool).2 := by
  unfold createEvent
  split
  · exact undisturbed_of_events rfl rfl rfl
  · split
    · exact undisturbed_of_insert rfl rfl rfl
    · exact refl_of Undisturbed d

theorem createUserEvent_undisturbed : Undisturbed d d.createUserEvent.2 :=
  undisturbed_of_insert rfl rfl rfl

theorem destroyEvent_undisturbed (event : EventHandle) :
    Undisturbed d (d.destroyEvent event).2 := by
  unfold destroyEvent
  split
  · exact ⟨rfl, rfl, fun e st' he => .inl (Table.get?_of_erase he)⟩
  · exact refl_of Undisturbed d

theorem destroyPool_undisturbed (pool : EventPoolHandle) :
    Undisturbed d (d.destroyPool pool).2 := by
  unfold destroyPool
  split
  · exact refl_of Undisturbed d
  · split
    · exact undisturbed_of_events rfl rfl rfl
    · exact refl_of Undisturbed d

/-- Devices, events and pools are as before; handles may have been given. -/
structure Untouched (d d' : Driver) : Prop where
  mono : d.lastHandle ≤ d'.lastHandle
  devices : d'.devices = d.devices
  timestampMask : d'.timestampMask = d.timestampMask
  events : d'.events = d.events
  pools : d'.pools = d.pools

instance : IsPreorder Driver Untouched where
  refl _ := ⟨Nat.le_refl _, rfl, rfl, rfl, rfl⟩
  trans _ _ _ h h' := ⟨Nat.le_trans h.mono h'.mono, h'.devices.trans h.devices,
    h'.timestampMask.trans h.timestampMask, h'.events.trans h.events, h'.pools.trans h.pools⟩

theorem Untouched.undisturbed (h : Untouched d d') : Undisturbed d d' :=
  undisturbed_of_events h.devices h.timestampMask h.events

theorem setEnabled_untouched (tracer : TracerHandle) (enabled : Bool) :
    Untouched d (d.setEnabled tracer enabled).2 := by
  unfold setEnabled
  split
  · exact ⟨Nat.le_refl _, rfl, rfl, rfl, rfl⟩
  · split
    · exact ⟨Nat.le_refl _, rfl, rfl, rfl, rfl⟩
    · exact refl_of Untouched d

theorem register_untouched : Untouched d d.register.2 := by
  unfold register
  split
  · exact ⟨Nat.le_refl _, rfl, rfl, rfl, rfl⟩
  · exact ⟨Nat.le_succ _, rfl, rfl, rfl, rfl⟩

theorem unregister_untouched (tracer : TracerHandle) : Untouched d (d.unregister tracer).2 := by
  unfold unregister
  split
  · exact ⟨Nat.le_refl _, rfl, rfl, rfl, rfl⟩
  · exact refl_of Untouched d

/-! ## Calls of the tracer -/

/-- Objects were made and destroyed, but no timer moved and no event was signalled or reset. -/
structure Tended (d d' : Driver) : Prop where
  evolves : d.Evolves .any d'
  undisturbed : d.Undisturbed d'

instance : IsPreorder Driver Tended where
  refl d := ⟨refl_of (Evolves _) d, refl_of Undisturbed d⟩
  trans _ _ _ h h' := ⟨trans_of (Evolves _) h.evolves h'.evolves,
    trans_of Undisturbed h.undisturbed h'.undisturbed⟩

end GpuTrace.Driver
