import GpuTrace.Proofs.Driver.Custody

/-!
# Reports — a driver that completes and resets events

A driver `Reports` if it makes, destroys and moves nothing and only what is known of its events
changes: a signal completes an event (`signal_completes`) and a reset takes that back. Whatever it
reports, the live events and pools are in the same hands (`Custody.reports`).

If nothing was asked to fail, a tracer gets the pool and the event that it asks for (`withEvent`).
-/

namespace GpuTrace.Driver

variable {d d' : Driver} {event other : EventHandle} {timestamp : KernelTimestamp}

/-- Only what is known of the events may differ. -/
structure Reports (d d' : Driver) : Prop where
  lastHandle : d'.lastHandle = d.lastHandle
  devices : d'.devices = d.devices
  timestampMask : d'.timestampMask = d.timestampMask
  failPool : d'.failPool = d.failPool
  failEvent : d'.failEvent = d.failEvent
  pools : d'.pools = d.pools
  keys : d'.events.keys = d.events.keys
  pool_of : ∀ e, (d'.events.get? e).map (·.pool) = (d.events.get? e).map (·.pool)

instance reports_preorder : IsPreorder Driver Reports where
  refl _ := ⟨rfl, rfl, rfl, rfl, rfl, rfl, rfl, fun _ => rfl⟩
  trans _ _ _ h h' := ⟨h'.lastHandle.trans h.lastHandle, h'.devices.trans h.devices,
    h'.timestampMask.trans h.timestampMask, h'.failPool.trans h.failPool,
    h'.failEvent.trans h.failEvent, h'.pools.trans h.pools, h'.keys.trans h.keys,
    fun e => (h'.pool_of e).trans (h.pool_of e)⟩

theorem Reports.alive (h : Reports d d') : d'.isAlive event = d.isAlive event := by
  have hpools := h.pool_of event
  unfold isAlive Table.contains
  cases hd' : d'.events.get? event <;> cases hd : d.events.get? event <;>
    simp_all

theorem reports_modify (event : EventHandle) (f : EventState → EventState)
    (hf : ∀ st, (f st).pool = st.pool) :
    Reports d { d with events := d.events.modify event f } where
  lastHandle := rfl
  devices := rfl
  timestampMask := rfl
  failPool := rfl
  failEvent := rfl
  pools := rfl
  keys := Table.keys_modifyIn _ _ _
  pool_of e := by
    show ((d.events.modify event f).get? e).map _ = _
    rw [Table.get?_modify]
    split
    · cases d.events.get? e <;> simp [hf]
    · rfl

theorem signal_reports (h : d.signal event timestamp = .ok d') : Reports d d' := by
  rw [signal_ok h]
  exact reports_modify event _ fun _ => rfl

theorem hostReset_reports (events : List EventHandle) :
    Reports d (events.foldl hostReset d) := by
  induction events generalizing d with
  | nil => exact refl_of Reports d
  | cons event events ih =>
    have hfirst : Reports d (d.hostReset event) := reports_modify event _ fun _ => rfl
    exact trans_of Reports hfirst ih

/-- Reports move nothing between the tracer and the application. -/
theorem Custody.reports {apart : Prop} {events : List EventHandle} {pools : List EventPoolHandle}
    {owned : List (EventPoolHandle × EventHandle)} (h : Custody apart d events pools owned)
    (hd : Reports d d') : Custody apart d' events pools owned where
  numbered := by
    have hevolves : Evolves .any d d' :=
      evolves_of_same (Nat.le_of_eq hd.lastHandle.symm) hd.pools hd.pool_of
    exact hevolves.numbered h.numbered
  events_perm := hd.keys.symm ▸ h.events_perm
  pools_perm ha := hd.pools.symm ▸ h.pools_perm ha
  lone ha o ho e st' he hpool := by
    have hsame := hd.pool_of e
    rw [he, Option.map_some, eq_comm, Option.map_eq_some_iff] at hsame
    obtain ⟨st, hst, heq⟩ := hsame
    exact h.lone ha o ho e st hst (heq.trans hpool)

/-! ## Signals -/

def Completed (d : Driver) (event : EventHandle) (timestamp : KernelTimestamp) : Prop :=
  d.eventStatus event = .ready ∧ d.kernelTimestamp event = .ok timestamp

theorem signal_eq_ok (halive : d.isAlive event = true) (timestamp : KernelTimestamp) :
    ∃ d', d.signal event timestamp = .ok d' :=
  ⟨_, if_pos halive⟩

theorem signal_completes (halive : d.isAlive event = true)
    (h : d.signal event timestamp = .ok d') : d'.Completed event timestamp := by
  obtain ⟨st, hst⟩ := isAlive_iff.mp halive
  have hget : d'.events.get? event =
      some { st with status := .ready, timestamp := some timestamp } := by
    rw [signal_ok h]
    show (d.events.modify event _).get? event = _
    rw [Table.get?_modify, if_pos rfl, hst]
    rfl
  refine ⟨?_, kernelTimestamp_eq_ok_iff.mpr ⟨_, hget, rfl⟩⟩
  unfold eventStatus
  rw [hget]

theorem signal_get? (h : d.signal event timestamp = .ok d') (hne : other ≠ event) :
    d'.events.get? other = d.events.get? other := by
  rw [signal_ok h]
  exact (Table.get?_modify _ _ _ _).trans (if_neg hne)

theorem Completed.of_get? (h : d.Completed event timestamp)
    (hget : d'.events.get? event = d.events.get? event) : d'.Completed event timestamp := by
  unfold Completed eventStatus kernelTimestamp at h ⊢
  rwa [hget]

/-! ## Timers -/

theorem setDeviceTime_eq_ok {device : DeviceHandle} {state : DeviceState}
    (h : d.devices.get? device = some state) (ticks : UInt64) :
    d.setDeviceTime device ticks =
      .ok { d with devices := d.devices.modify device fun s => { s with time := ticks } } := by
  unfold setDeviceTime Driver.device
  rw [h]
  rfl

/-! ## New events -/

def withEvent (d : Driver) : Driver :=
  { d with
    lastHandle := d.lastHandle + 1 + 1
    pools := d.pools.insert ⟨d.lastHandle + 1⟩ PoolDesc.profiling
    events := d.events.insert ⟨d.lastHandle + 1 + 1⟩ (newEvent ⟨d.lastHandle + 1⟩) }

/-- Nothing was asked to fail when an event is made. -/
structure MakesEvents (d : Driver) : Prop where
  pool : d.failPool = none
  event : d.failEvent = none

theorem MakesEvents.withEvent (h : d.MakesEvents) (context : ContextHandle) :
    ∃ d₁, d.createPool context PoolDesc.profiling = (.ok ⟨d.lastHandle + 1⟩, d₁) ∧
      d₁.createEvent ⟨d.lastHandle + 1⟩ = (.ok ⟨d.lastHandle + 1 + 1⟩, d.withEvent) := by
  obtain ⟨hpool, hevent⟩ := h
  refine ⟨{ d with
    lastHandle := d.lastHandle + 1
    pools := d.pools.insert ⟨d.lastHandle + 1⟩ PoolDesc.profiling }, ?_, ?_⟩
  · simp [createPool, fresh, hpool]
  · unfold createEvent
    rw [hevent]
    simp [fresh, Driver.withEvent, hevent]

theorem Custody.withEvent {apart : Prop} {events : List EventHandle} {pools : List EventPoolHandle}
    {owned : List (EventPoolHandle × EventHandle)} (h : Custody apart d events pools owned)
    (hmakes : d.MakesEvents) : Custody apart d.withEvent events pools
      ((⟨d.lastHandle + 1⟩, ⟨d.lastHandle + 1 + 1⟩) :: owned) := by
  -- The context makes no difference.
  obtain ⟨d₁, hpool, hevent⟩ := hmakes.withEvent ⟨0⟩
  exact h.make hpool hevent

end GpuTrace.Driver
