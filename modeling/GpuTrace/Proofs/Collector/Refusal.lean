import GpuTrace.Proofs.Collector.Custody
import GpuTrace.Proofs.Collector.History
import GpuTrace.Proofs.Driver.Reports

/-!
# Refusals — what is left of a call that the driver refused

An event for an append is made in two steps, a pool and then an event in it, and either can be
refused. A pool whose event was refused is empty, so it can be destroyed again
(`Numbered.unmake`); an event whose append was refused is the only one of its pool, so both can
(`Numbered.release`). Either way the driver has the objects that it had before (`Restored`).

The hook before an append therefore leaves no trace if it does not trace the append, and what it
made for one that it traces goes without a trace if the driver refuses the append
(`enterAppend_retracts`). The hooks behind refused calls do nothing else (`ExitHook.refused`).
-/

namespace GpuTrace

open Fallible

namespace Driver

variable {d d₁ d₂ : Driver} {pool : EventPoolHandle} {event : EventHandle}
  {context : ContextHandle} {desc : PoolDesc}

structure Restored (d d' : Driver) : Prop where
  devices : d'.devices = d.devices
  kernels : d'.kernels = d.kernels
  pools : d'.pools = d.pools
  events : d'.events = d.events
  tracers : d'.tracers = d.tracers
  timestampMask : d'.timestampMask = d.timestampMask

theorem Restored.refl (d : Driver) : Restored d d :=
  ⟨rfl, rfl, rfl, rfl, rfl, rfl⟩

/-- A driver that refuses an event stays as it is, but for what it was asked to fail. -/
theorem createEvent_refused {e : DriverError} (h : d.createEvent pool = (.error e, d₁)) :
    ∃ failEvent, d₁ = { d with failEvent } := by
  unfold createEvent at h
  cases hfail : d.failEvent with
  | some code =>
    rw [hfail] at h
    cases h
    exact ⟨none, rfl⟩
  | none =>
    rw [hfail] at h
    dsimp only at h
    split at h
    · cases h
    · cases h
      exact ⟨d.failEvent, rfl⟩

theorem Numbered.pool_ne (h : d.Numbered) {n : Nat} (hn : d.lastHandle < n) {e : EventHandle}
    {st : EventState} (he : d.events.get? e = some st) : st.pool ≠ ⟨n⟩ := by
  intro heq
  have hle := h.event_pool_le e st he
  rw [heq] at hle
  exact absurd hle (Nat.not_le_of_lt hn)

theorem Numbered.unmake (h : d.Numbered) {e : DriverError}
    (hpool : d.createPool context desc = (.ok pool, d₁))
    (hevent : d₁.createEvent pool = (.error e, d₂)) :
    ∃ d₃, d₂.destroyPool pool = (.ok (), d₃) ∧ d.Restored d₃ := by
  obtain ⟨rfl, rfl⟩ := createPool_ok hpool
  obtain ⟨failEvent, rfl⟩ := createEvent_refused hevent
  have habsent := h.pool_absent (Nat.lt_succ_self _)
  have hempty : ∀ e st, d.events.get? e = some st → st.pool ≠ ⟨d.lastHandle + 1⟩ :=
    fun _ _ => h.pool_ne (Nat.lt_succ_self _)
  refine ⟨_, destroyPool_of_empty (Table.contains_insert_self ..) hempty, ?_⟩
  exact ⟨rfl, rfl, Table.erase_insert_of_absent desc habsent, rfl, rfl, rfl⟩

/-- A new event and its pool are destroyed again. -/
theorem Numbered.release (h : d.Numbered) (hpool : d.createPool context desc = (.ok pool, d₁))
    (hevent : d₁.createEvent pool = (.ok event, d₂)) :
    ∃ d₃ d₄, d₂.destroyEvent event = (.ok (), d₃) ∧ d₃.destroyPool pool = (.ok (), d₄) ∧
      d.Restored d₄ := by
  obtain ⟨rfl, rfl⟩ := createPool_ok hpool
  obtain ⟨rfl, rfl⟩ := createEvent_ok hevent
  have hpools := h.pool_absent (Nat.lt_succ_self _)
  have hevents : d.events.get? ⟨d.lastHandle + 1 + 1⟩ = none :=
    h.event_absent (Nat.lt_succ_of_lt (Nat.lt_succ_self _))
  have herased : (d.events.insert ⟨d.lastHandle + 1 + 1⟩
      (newEvent ⟨d.lastHandle + 1⟩)).erase ⟨d.lastHandle + 1 + 1⟩ = d.events :=
    Table.erase_insert_of_absent _ hevents
  have hempty : ∀ e st, ((d.events.insert ⟨d.lastHandle + 1 + 1⟩
      (newEvent ⟨d.lastHandle + 1⟩)).erase ⟨d.lastHandle + 1 + 1⟩).get? e = some st →
      st.pool ≠ ⟨d.lastHandle + 1⟩ := by
    rw [herased]
    exact fun _ _ => h.pool_ne (Nat.lt_succ_self _)
  refine ⟨_, _, destroyEvent_of_alive (Table.contains_insert_self ..),
    destroyPool_of_empty (Table.contains_insert_self ..) hempty, ?_⟩
  exact ⟨rfl, rfl, Table.erase_insert_of_absent desc hpools, herased, rfl, rfl⟩

/-- A pool or an event is refused only on request. -/
theorem not_makesEvents_of_pool {e : DriverError}
    (hpool : d.createPool context PoolDesc.profiling = (.error e, d₁)) : ¬ d.MakesEvents := by
  intro hmakes
  obtain ⟨d, hmade, -⟩ := hmakes.withEvent context
  rw [hpool] at hmade
  cases hmade

theorem not_makesEvents_of_event {e : DriverError}
    (hpool : d.createPool context PoolDesc.profiling = (.ok pool, d₁))
    (hevent : d₁.createEvent pool = (.error e, d₂)) : ¬ d.MakesEvents := by
  intro hmakes
  obtain ⟨d, hmade, hmade'⟩ := hmakes.withEvent context
  rw [hpool] at hmade
  cases hmade
  rw [hevent] at hmade'
  cases hmade'

end Driver

namespace Tracing

variable {t t' : Tracing}

/-- Nothing is left to see of what was done but warnings: the collector, the notices and all objects
of the driver are as before. -/
structure Traceless (t t' : Tracing) : Prop where
  collector : t'.collector = t.collector
  notices : t'.journal.notices = t.journal.notices
  driver : t.driver.Restored t'.driver

theorem Traceless.refl (t : Tracing) : Traceless t t :=
  ⟨rfl, rfl, .refl _⟩

/-- From `t'` on, releasing a command with this event leaves no trace of what was done since `t`. -/
def Retracts (t : Tracing) (signal : SignalEvent) (t' : Tracing) : Prop :=
  ∀ command : Command, command.signal = signal →
    Ends (releaseCommand command) t' (fun _ t'' => Traceless t t'') (fun _ _ => False)

/-! ## Before an append -/

/-- An event that the application lent is none of the tracer's business. -/
theorem retracts_borrowed (t : Tracing) (event : EventHandle) :
    Retracts t (.borrowed event) t := by
  intro command hsignal
  unfold releaseCommand
  rw [hsignal]
  exact Traceless.refl t

/-- An event that was made goes with its pool. -/
theorem retracts_owned {pool : EventPoolHandle} {event : EventHandle} {d₁ d₂ : Driver}
    (hcollector : t'.collector = t.collector) (hnotices : t'.journal.notices = t.journal.notices)
    (hevent : t'.driver.destroyEvent event = (.ok (), d₁))
    (hpool : d₁.destroyPool pool = (.ok (), d₂)) (hrestored : t.driver.Restored d₂) :
    Retracts t (.owned pool event) t' := by
  intro command hsignal
  unfold releaseCommand
  rw [hsignal]
  dsimp only
  simp only [ends_bind, ends_onDriver]
  rw [hevent]
  simp only [ends_bind, ends_onDriver]
  rw [hpool]
  exact ⟨hcollector, hnotices, hrestored⟩

theorem createProfilingEvent_retracts (h : t.driver.Numbered) (context : ContextHandle) :
    Ends (createProfilingEvent context) t
      (fun made t' => (∀ e, made = .error e → Traceless t t' ∧ ¬ t.driver.MakesEvents) ∧
        ∀ signal, made = .ok signal → Retracts t signal t')
      (fun _ _ => False) := by
  unfold createProfilingEvent
  simp only [ends_bind, ends_onDriver]
  cases hp : t.driver.createPool context PoolDesc.profiling with
  | mk made d₁ =>
    cases made with
    | error e =>
      obtain rfl := Driver.createPool_error hp
      have hrestored : t.driver.Restored { t.driver with failPool := none } :=
        ⟨rfl, rfl, rfl, rfl, rfl, rfl⟩
      constructor
      · exact fun _ _ => ⟨⟨rfl, rfl, hrestored⟩, Driver.not_makesEvents_of_pool hp⟩
      · rintro _ ⟨⟩
    | ok pool =>
      dsimp only
      simp only [ends_bind, ends_onDriver]
      cases he : d₁.createEvent pool with
      | mk made d₂ =>
        cases made with
        | ok event =>
          obtain ⟨d₃, d₄, hevent, hpool, hrestored⟩ := h.release hp he
          constructor
          · rintro _ ⟨⟩
          · rintro _ ⟨⟩
            exact retracts_owned rfl rfl hevent hpool hrestored
        | error e =>
          obtain ⟨d₃, hpool, hrestored⟩ := h.unmake hp he
          dsimp only
          simp only [ends_bind, ends_onDriver]
          rw [hpool]
          constructor
          · exact fun _ _ => ⟨⟨rfl, rfl, hrestored⟩, Driver.not_makesEvents_of_event hp he⟩
          · rintro _ ⟨⟩

theorem signalFor_retracts (h : t.driver.Numbered) (context : ContextHandle) (name : String)
    (signal : Option EventHandle) :
    Ends (signalFor context name signal) t
      (fun made t' =>
        (made = none → signal = none ∧ ¬ t.driver.MakesEvents ∧ Traceless t t') ∧
        ∀ signalEvent, made = some signalEvent → Retracts t signalEvent t')
      (fun _ _ => False) := by
  unfold signalFor
  cases signal with
  | some event =>
    constructor
    · rintro ⟨⟩
    · rintro _ ⟨⟩
      exact retracts_borrowed t event
  | none =>
    dsimp only
    rw [ends_bind]
    refine (createProfilingEvent_retracts h context).imp_ok ?_
    rintro made t' ⟨herror, hok⟩
    cases made with
    | ok signalEvent =>
      constructor
      · rintro ⟨⟩
      · rintro _ ⟨⟩
        exact hok _ rfl
    | error e =>
      obtain ⟨htraceless, hfails⟩ := herror e rfl
      constructor
      · exact fun _ => ⟨rfl, hfails, htraceless.collector, htraceless.notices, htraceless.driver⟩
      · rintro _ ⟨⟩

/-- An append that is not traced leaves no trace, and one that is can be retracted. -/
theorem enterAppend_retracts (h : t.driver.Numbered) (list : CommandListHandle) (op : Operation)
    (signal : Option EventHandle) :
    Ends (enterAppend list op signal) t
      (fun answer t' =>
        (answer.inFlight = none → answer.signal = signal ∧ Traceless t t' ∧
          (t.collector.enabled = false ∨ signal = none ∧ ¬ t.driver.MakesEvents)) ∧
        ∀ append, answer.inFlight = some append → Retracts t append.command.signal t')
      (fun _ _ => True) := by
  unfold enterAppend
  rw [ends_bind, ends_get]
  split
  · rename_i hdisabled
    have hoff : t.collector.enabled = false := by simpa using hdisabled
    constructor
    · exact fun _ => ⟨rfl, .refl t, .inl hoff⟩
    · rintro _ ⟨⟩
  · -- the look-ups in front of the event change nothing
    refine ends_bind_lift (fun device _ => ?_) fun _ _ => trivial
    refine ends_bind_lift (fun props _ => ?_) fun _ _ => trivial
    refine ends_bind_lift (fun anchor _ => ?_) fun _ _ => trivial
    refine ends_bind_lift (fun context _ => ?_) fun _ _ => trivial
    rw [ends_bind]
    refine (signalFor_retracts h context props.name signal).imp ?_ fun _ _ _ => trivial
    rintro made t' ⟨hnone, hsome⟩
    cases made with
    | none =>
      obtain ⟨rfl, hfails, htraceless⟩ := hnone rfl
      constructor
      · exact fun _ => ⟨rfl, htraceless, .inr ⟨rfl, hfails⟩⟩
      · rintro _ ⟨⟩
    | some signalEvent =>
      dsimp only
      rw [ends_bind, ends_get]
      refine ends_bind_lift (fun frequency _ => ?_) fun _ _ => trivial
      refine ends_bind_lift (fun command hcommand => ?_) fun _ _ => trivial
      rw [Command.eq_of_ok hcommand]
      constructor
      · rintro ⟨⟩
      · rintro _ ⟨⟩
        exact hsome signalEvent rfl

/-! ## Behind a refused call -/

/-- The hooks behind driver calls, with what they get beside the driver's result. -/
inductive ExitHook
  | append (inFlight : InFlightAppend)
  | execute (token : SubmitToken)
  | listCreate (list : CommandListHandle) (context : ContextHandle) (device : DeviceHandle)
      (immediate : Bool)
  | listDestroy (list : CommandListHandle)
  | listReset (list : CommandListHandle)
  | queueSynchronize
  | queueDestroy (queue : QueueHandle)
  | eventHostSynchronize (event : EventHandle)
  | kernelSetGroupSize (kernel : KernelHandle) (size : Dims)
  | kernelDestroy (kernel : KernelHandle)
  | imageCreate (image : ImageHandle) (desc : ImageDesc)
  | imageDestroy (image : ImageHandle)

namespace ExitHook

def run : ExitHook → DriverResult → Fallible Tracing Unit
  | .append inFlight => exitAppend inFlight
  | .execute token => exitExecute token
  | .listCreate list context device immediate => exitListCreate list context device immediate
  | .listDestroy list => exitListDestroy list
  | .listReset list => exitListReset list
  | .queueSynchronize => exitQueueSynchronize
  | .queueDestroy queue => exitQueueDestroy queue
  | .eventHostSynchronize event => exitEventHostSynchronize event
  | .kernelSetGroupSize kernel size => exitKernelSetGroupSize kernel size
  | .kernelDestroy kernel => exitKernelDestroy kernel
  | .imageCreate image desc => exitImageCreate image desc
  | .imageDestroy image => exitImageDestroy image

/-- Behind a refused call the collector stays as it is and no notice is given. All hooks but that of
an append, which has an event to release, do nothing at all. -/
theorem refused (hook : ExitHook) (e : DriverError) (t : Tracing) :
    Ends (hook.run (.error e)) t
      (fun _ t' => t'.collector = t.collector ∧ t'.journal.notices = t.journal.notices ∧
        ((∀ inFlight, hook ≠ .append inFlight) → t' = t))
      (fun _ _ => False) := by
  cases hook with
  | append inFlight =>
    refine ((releaseCommand_within inFlight.command t).and
      (releaseCommand_throws inFlight.command t)).imp ?_ fun _ _ h => h.2
    rintro _ _ ⟨⟨driver, warnings, -, rfl⟩, -⟩
    exact ⟨rfl, rfl, fun hne => absurd rfl (hne inFlight)⟩
  | _ => exact ⟨rfl, rfl, fun _ => rfl⟩

end ExitHook

end Tracing

end GpuTrace
