import GpuTrace.Proofs.Collector.Request
import GpuTrace.Proofs.Session.Frame

/-!
# Requests of a session — what stops an action that completes no call

Actions outside the collector stop if the driver does not know an object, and making a collector
stops if the driver lists a device twice. With the hooks that complete no call, all of these are
faults of a request (`perform_requests`).
-/

namespace GpuTrace.Session

open Fallible Tracing

variable {α : Type} {F : Fault → Prop}

theorem throws_onDriver (call : Driver → α × Driver) : Throws F (onDriver call) :=
  fun _ => trivial

theorem throws_updateDriver {call : Driver → Except Fault Driver}
    (h : ∀ d : Driver, Raises F (call d)) : Throws F (updateDriver call) := fun s => by
  rw [ends_updateDriver]
  cases hcall : call s.driver with
  | ok d => trivial
  | error e => exact h s.driver e hcall

theorem throws_warn (w : Warning) : Throws F (warn w) := fun _ => trivial

theorem throws_trace {step : Fallible Tracing α} (h : Throws F step) :
    Throws F (trace step) := fun s => by
  rw [ends_trace]
  cases s.collector with
  | none => trivial
  | some c => exact h (s.tracing c)

theorem throws_hook {step : Fallible Tracing Unit} (h : Throws F step) :
    Throws F (Action.hook step) :=
  throws_bind (throws_trace h) fun _ => throws_pure _

theorem outside_requests {a : Action} (hout : a.isOutside = true) :
    Throws (·.OfRequest) a.perform := by
  cases a with
  | setDeviceTime device ticks =>
    exact throws_bind (throws_updateDriver fun d => d.setDeviceTime_raises device ticks)
      fun _ => throws_pure _
  | advanceDeviceTime device ticks =>
    exact throws_bind (throws_updateDriver fun d => d.advanceDeviceTime_raises device ticks)
      fun _ => throws_pure _
  | signal event timestamp =>
    exact throws_bind (throws_updateDriver fun d => d.signal_raises event timestamp)
      fun _ => throws_pure _
  | setClock | advanceClock | setTimestampMask | setEventStatus | hostReset | failPool | failEvent
  | failRegister | failToggle => exact throws_bind (throws_modify _) fun _ => throws_pure _
  | addDevice | addKernel | newObject | newEvent | createPool | createEvent | destroyEvent
  | destroyPool | register | setTracerEnabled | unregister =>
    exact throws_bind (throws_onDriver _) fun _ => throws_pure _
  | _ => cases hout

theorem dropCollector_throws : Throws F dropCollector := by
  unfold dropCollector
  refine throws_bind throws_get fun s => ?_
  split
  · exact throws_pure _
  · refine throws_bind (throws_modify _) fun _ =>
      throws_bind (throws_onDriver _) fun dropped => ?_
    split
    · exact throws_pure _
    · exact throws_warn _

theorem createCollector_throws (config : Config) (notifies : Bool) :
    Throws (·.OfRequest) (createCollector config notifies) := by
  have hnew : Throws (·.OfRequest) (newCollector config notifies) := by
    unfold newCollector
    refine throws_bind throws_get fun s => ?_
    dsimp only
    split
    · exact throws_pure _
    · refine throws_bind (throws_lift (DeviceMap.ofRoots_raises _)) fun devices =>
        throws_bind (throws_onDriver _) fun registered => ?_
      split
      · exact throws_pure _
      · exact throws_pure _
  unfold createCollector
  refine throws_bind hnew fun made => ?_
  split
  · exact throws_pure _
  · exact throws_bind dropCollector_throws fun _ => throws_bind (throws_modify _) fun _ =>
      throws_pure _

theorem lifecycle_requests {a : Action} (hlife : a.isLifecycle = true) :
    Throws (·.OfRequest) a.perform := by
  cases a with
  | create config notifies =>
    exact throws_bind (createCollector_throws config notifies) fun _ => throws_pure _
  | createOrWarn config notifies =>
    refine throws_bind (throws_bind (createCollector_throws config notifies) fun made => ?_)
      fun _ => throws_pure _
    split
    · exact throws_pure _
    · exact throws_bind (throws_warn _) fun _ => throws_pure _
  | drop => exact throws_bind dropCollector_throws fun _ => throws_pure _
  | _ => cases hlife

theorem enterAppend_requests (token : Nat) (list : CommandListHandle) (op : Operation)
    (signal : Option EventHandle) :
    Throws (·.OfRequest) (Session.enterAppend token list op signal) := by
  unfold Session.enterAppend
  refine throws_bind (throws_trace (enterAppend_throws list op signal)) fun answer => ?_
  split
  · exact throws_bind (throws_modify _) fun _ => throws_pure _
  · exact throws_bind (throws_pure _) fun _ => throws_pure _

theorem exitAppend_requests (token : Nat) (result : DriverResult) :
    Throws (·.OfRequest) (Session.exitAppend token result) := by
  unfold Session.exitAppend
  refine throws_bind throws_get fun s => ?_
  split
  · exact throws_pure _
  · exact throws_bind (throws_modify _) fun _ => throws_trace (exitAppend_throws _ result)

theorem enterExecute_requests (token : Nat) (queue : QueueHandle)
    (lists : List CommandListHandle) :
    Throws (·.OfRequest) (Session.enterExecute token queue lists) := by
  unfold Session.enterExecute
  refine throws_bind (throws_trace (enterExecute_throws queue lists)) fun answer => ?_
  split
  · exact throws_bind (throws_modify _) fun _ => throws_pure _
  · exact throws_pure _

theorem exitExecute_requests (token : Nat) (result : DriverResult) :
    Throws (·.OfRequest) (Session.exitExecute token result) := by
  unfold Session.exitExecute
  refine throws_bind throws_get fun s => ?_
  split
  · exact throws_pure _
  · exact throws_bind (throws_modify _) fun _ => throws_trace (exitExecute_throws _ result)

/-- **An action that completes no call** stops only if it asks for something that can not be
done. -/
theorem perform_requests {a : Action} (hcompletes : a.completes = false) :
    Throws (·.OfRequest) a.perform := by
  -- a hook behind a call that the driver refused does nothing
  have hrefused : Throws (·.OfRequest) (Action.hook (pure ())) := throws_hook (throws_pure _)
  cases hout : a.isOutside with
  | true => exact outside_requests hout
  | false =>
    cases a with
    | create config notifies => exact lifecycle_requests rfl
    | createOrWarn config notifies => exact lifecycle_requests rfl
    | drop => exact lifecycle_requests rfl
    | setEnabled enabled =>
      refine throws_bind (throws_trace (setEnabled_throws enabled)) fun answer => ?_
      cases answer <;> exact throws_pure _
    | enterAppend token list op signal =>
      refine throws_bind (enterAppend_requests token list op signal) fun answer => ?_
      cases answer <;> exact throws_pure _
    | exitAppend token result =>
      refine throws_bind throws_get fun s => ?_
      split
      · exact throws_pure _
      · exact throws_bind (exitAppend_requests token result) fun _ => throws_pure _
    | enterExecute token queue lists =>
      exact throws_bind (enterExecute_requests token queue lists) fun _ => throws_pure _
    | exitExecute token result =>
      refine throws_bind throws_get fun s => ?_
      split
      · exact throws_pure _
      · exact throws_bind (exitExecute_requests token result) fun _ => throws_pure _
    | exitListCreate list context device immediate result =>
      exact throws_hook (throws_accepted result
        (throws_onRegistry (Registry.createList_throws list context device immediate)))
    | exitKernelSetGroupSize kernel size result =>
      exact throws_hook (throws_accepted result (throws_onRegistry (throws_modify _)))
    | exitKernelDestroy kernel result =>
      exact throws_hook (throws_accepted result (throws_onRegistry (throws_modify _)))
    | exitImageCreate image desc result =>
      exact throws_hook (exitImageCreate_throws image desc result)
    | exitImageDestroy image result =>
      exact throws_hook (throws_accepted result
        (throws_onRegistry (Registry.removeImage_throws image)))
    | exitListDestroy _ result | exitListReset _ result | exitQueueSynchronize result
    | exitQueueDestroy _ result | exitEventHostSynchronize _ result =>
      cases result with
      | error e => exact hrefused
      | ok _ => cases hcompletes
    | enterEventDestroy | enterEventHostReset | processEvent | processCalls => cases hcompletes
    | _ => cases hout

end GpuTrace.Session
