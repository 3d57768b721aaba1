import GpuTrace.Session.Basic

/-!
# Actions — runs of a session

An action is one thing that the application, the driver or the clock does.
`step` performs an action and keeps the state that it reached, also if it stopped
with a fault; `run` performs a list of actions one after the other.
-/

namespace GpuTrace

inductive Action
  -- host clock
  | setClock (time : UInt64)
  | advanceClock (delta : UInt64)
  -- devices, kernels and other objects of the driver
  | addDevice (frequency : UInt64) (subDevices : Nat)
  | setTimestampMask (mask : UInt64)
  | setDeviceTime (device : DeviceHandle) (ticks : UInt64)
  | advanceDeviceTime (device : DeviceHandle) (ticks : UInt64)
  | addKernel (name : String) (simdWidth : UInt32)
  /-- A context, command list, queue or image; the driver keeps nothing of it. -/
  | newObject
  | newEvent
  | signal (event : EventHandle) (timestamp : KernelTimestamp)
  | setEventStatus (event : EventHandle) (status : EventStatus)
  | hostReset (event : EventHandle)
  | failPool (code : Int32)
  | failEvent (code : Int32)
  | failRegister (code : Int32)
  | failToggle (code : Int32)
  -- driver calls
  | createPool (context : ContextHandle) (desc : PoolDesc)
  | createEvent (pool : EventPoolHandle)
  | destroyEvent (event : EventHandle)
  | destroyPool (pool : EventPoolHandle)
  | register
  | setTracerEnabled (tracer : TracerHandle) (enabled : Bool)
  | unregister (tracer : TracerHandle)
  -- the collector as such
  | create (config : Config) (notifies : Bool)
  | createOrWarn (config : Config) (notifies : Bool)
  | drop
  | setEnabled (enabled : Bool)
  -- hooks
  | enterAppend (token : Nat) (list : CommandListHandle) (op : Operation)
      (signal : Option EventHandle)
  | exitAppend (token : Nat) (result : DriverResult)
  | enterExecute (token : Nat) (queue : QueueHandle) (lists : List CommandListHandle)
  | exitExecute (token : Nat) (result : DriverResult)
  | exitListCreate (list : CommandListHandle) (context : ContextHandle) (device : DeviceHandle)
      (immediate : Bool) (result : DriverResult)
  | exitListDestroy (list : CommandListHandle) (result : DriverResult)
  | exitListReset (list : CommandListHandle) (result : DriverResult)
  | exitQueueSynchronize (result : DriverResult)
  | exitQueueDestroy (queue : QueueHandle) (result : DriverResult)
  | enterEventDestroy (event : EventHandle)
  | enterEventHostReset (event : EventHandle)
  | exitEventHostSynchronize (event : EventHandle) (result : DriverResult)
  | exitKernelSetGroupSize (kernel : KernelHandle) (size : Dims) (result : DriverResult)
  | exitKernelDestroy (kernel : KernelHandle) (result : DriverResult)
  | exitImageCreate (image : ImageHandle) (desc : ImageDesc) (result : DriverResult)
  | exitImageDestroy (image : ImageHandle) (result : DriverResult)
  | processEvent (event : EventHandle)
  | processCalls

inductive Answer
  | done
  | handle (raw : Nat)
  | flag (b : Bool)
  | count (n : Nat)
  /-- Result of a driver call that answers a handle or nothing. -/
  | driverCall (result : Except DriverError (Option Nat))
  | setup (result : Except SetupError Unit)
  | append (answer : AppendAnswer)
  | submit (token : Option SubmitToken)
  /-- No append or execution has the number. -/
  | noToken
  | noCollector

namespace Answer

def ofHook : Option Unit → Answer
  | some () => .done
  | none => .noCollector

def ofHandleCall {kind : HandleKind} (result : Except DriverError (Handle kind)) : Answer :=
  .driverCall (result.map fun h => some h.raw)

def ofUnitCall (result : DriverResult) : Answer :=
  .driverCall (result.map fun _ => none)

end Answer

namespace Action

open Session

def hook (step : Fallible Tracing Unit) : Fallible Session Answer := do
  return .ofHook (← trace step)

def change (f : Driver → Driver) : Fallible Session Answer := do
  modify fun s => { s with driver := f s.driver }
  return .done

def make {kind : HandleKind} (f : Driver → Handle kind × Driver) : Fallible Session Answer := do
  return .handle (← onDriver f).raw

def perform : Action → Fallible Session Answer
  | .setClock time => do
    modify fun s => { s with now := time }
    return .done
  | .advanceClock delta => do
    modify fun s => { s with now := s.now + delta }
    return .done
  | .addDevice frequency subDevices => make (·.addDevice frequency subDevices)
  | .setTimestampMask mask => change (·.setTimestampMask mask)
  | .setDeviceTime device ticks => do
    updateDriver (·.setDeviceTime device ticks)
    return .done
  | .advanceDeviceTime device ticks => do
    updateDriver (·.advanceDeviceTime device ticks)
    return .done
  | .addKernel name simdWidth => make (·.addKernel name simdWidth)
  | .newObject => make fun d => (d.fresh : ContextHandle × Driver)
  | .newEvent => make Driver.createUserEvent
  | .signal event timestamp => do
    updateDriver (·.signal event timestamp)
    return .done
  | .setEventStatus event status => change (·.setEventStatus event status)
  | .hostReset event => change (·.hostReset event)
  | .failPool code => change ({ · with failPool := some code })
  | .failEvent code => change ({ · with failEvent := some code })
  | .failRegister code => change ({ · with failRegister := some code })
  | .failToggle code => change ({ · with failToggle := some code })
  | .createPool context desc => return .ofHandleCall (← onDriver (·.createPool context desc))
  | .createEvent pool => return .ofHandleCall (← onDriver (·.createEvent pool))
  | .destroyEvent event => return .ofUnitCall (← onDriver (·.destroyEvent event))
  | .destroyPool pool => return .ofUnitCall (← onDriver (·.destroyPool pool))
  | .register => return .ofHandleCall (← onDriver (·.register))
  | .setTracerEnabled tracer enabled =>
    return .ofUnitCall (← onDriver (·.setEnabled tracer enabled))
  | .unregister tracer => return .ofUnitCall (← onDriver (·.unregister tracer))
  | .create config notifies => return .setup (← createCollector config notifies)
  | .createOrWarn config notifies => return .flag (← Session.createOrWarn config notifies)
  | .drop => do
    dropCollector
    return .done
  | .setEnabled enabled => do
    match ← trace (Tracing.setEnabled enabled) with
    | some result => return .setup result
    | none => return .noCollector
  | .enterAppend token list op event => do
    match ← Session.enterAppend token list op event with
    | some answer => return .append answer
    | none => return .noCollector
  | .exitAppend token result => do
    if !(← get).appends.contains token then return .noToken
    return .ofHook (← Session.exitAppend token result)
  | .enterExecute token queue lists => return .submit (← Session.enterExecute token queue lists)
  | .exitExecute token result => do
    if !(← get).submits.contains token then return .noToken
    return .ofHook (← Session.exitExecute token result)
  | .exitListCreate list context device immediate result =>
    hook (Tracing.exitListCreate list context device immediate result)
  | .exitListDestroy list result => hook (Tracing.exitListDestroy list result)
  | .exitListReset list result => hook (Tracing.exitListReset list result)
  | .exitQueueSynchronize result => hook (Tracing.exitQueueSynchronize result)
  | .exitQueueDestroy queue result => hook (Tracing.exitQueueDestroy queue result)
  | .enterEventDestroy event => hook (Tracing.enterEventDestroy event)
  | .enterEventHostReset event => hook (Tracing.enterEventHostReset event)
  | .exitEventHostSynchronize event result => hook (Tracing.exitEventHostSynchronize event result)
  | .exitKernelSetGroupSize kernel size result =>
    hook (Tracing.exitKernelSetGroupSize kernel size result)
  | .exitKernelDestroy kernel result => hook (Tracing.exitKernelDestroy kernel result)
  | .exitImageCreate image desc result => hook (Tracing.exitImageCreate image desc result)
  | .exitImageDestroy image result => hook (Tracing.exitImageDestroy image result)
  | .processEvent event => do
    match ← trace (Tracing.processEvent event) with
    | some found => return .flag found
    | none => return .noCollector
  | .processCalls => do
    match ← trace Tracing.processCalls with
    | some n => return .count n
    | none => return .noCollector

end Action

namespace Session

/-- Performs an action; the state is the one reached, also after a fault. -/
def step (s : Session) (a : Action) : Except Fault Answer × Session :=
  match a.perform s with
  | .ok answer s' => (.ok answer, s')
  | .error e s' => (.error e, s')

/-- Performs actions one after the other; a fault does not end the run. -/
def run (s : Session) (actions : List Action) : Session :=
  actions.foldl (fun s a => (s.step a).2) s

@[simp] theorem run_nil (s : Session) : s.run [] = s := rfl

@[simp] theorem run_cons (s : Session) (a : Action) (actions : List Action) :
    s.run (a :: actions) = (s.step a).2.run actions := rfl

theorem run_append (s : Session) (before actions : List Action) :
    s.run (before ++ actions) = (s.run before).run actions :=
  List.foldl_append

end Session

end GpuTrace
