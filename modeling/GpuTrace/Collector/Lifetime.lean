import GpuTrace.Collector.Completion
import GpuTrace.Collector.Submission

/-!
# Lifetime — hooks around creating and destroying objects

Hooks behind a driver call do nothing if the driver refused it. Before a list is
destroyed or reset all calls that can be are completed; the list must have none
left that is pending. These hooks work whether or not tracing is enabled, so that
the tables stay right.
-/

namespace GpuTrace.Tracing

/-! ## Command lists -/

def exitListCreate (list : CommandListHandle) (context : ContextHandle) (device : DeviceHandle)
    (immediate : Bool) (result : DriverResult) : Fallible Tracing Unit := do
  match result with
  | .error _ => return ()
  | .ok () => onRegistry (Registry.createList list context device immediate)

/-- Completes what can be completed, frees commands by `take`, gives the notices,
and destroys the events made for the commands. -/
def drainAndFree (take : Fallible Registry (Array Command)) : Fallible Tracing Unit := do
  let finished ← sweep
  let commands ← onRegistry take
  notify finished
  releaseCommands commands.toList

def exitListDestroy (list : CommandListHandle) (result : DriverResult) : Fallible Tracing Unit := do
  match result with
  | .error _ => return ()
  | .ok () => drainAndFree (Registry.removeList list)

def exitListReset (list : CommandListHandle) (result : DriverResult) : Fallible Tracing Unit := do
  match result with
  | .error _ => return ()
  | .ok () => drainAndFree (Registry.resetList list)

/-! ## Queues and events -/

def exitQueueSynchronize (result : DriverResult) : Fallible Tracing Unit := do
  match result with
  | .error _ => return ()
  | .ok () => discard processCalls

def exitQueueDestroy (_queue : QueueHandle) (result : DriverResult) : Fallible Tracing Unit := do
  match result with
  | .error _ => return ()
  | .ok () => discard processCalls

def enterEventDestroy (event : EventHandle) : Fallible Tracing Unit :=
  discard (processEvent event)

def enterEventHostReset (event : EventHandle) : Fallible Tracing Unit :=
  discard (processEvent event)

def exitEventHostSynchronize (event : EventHandle) (result : DriverResult) :
    Fallible Tracing Unit := do
  match result with
  | .error _ => return ()
  | .ok () => discard (processEvent event)

/-- The description to create an application's pool with instead of its own. -/
def enterEventPoolCreate (t : Tracing) (desc : PoolDesc) : Option PoolDesc :=
  if t.collector.enabled then desc.traced? else none

/-! ## Kernels and images -/

def exitKernelSetGroupSize (kernel : KernelHandle) (size : Dims) (result : DriverResult) :
    Fallible Tracing Unit := do
  match result with
  | .error _ => return ()
  | .ok () => onRegistry (modify (·.setGroupSize kernel size))

def exitKernelDestroy (kernel : KernelHandle) (result : DriverResult) : Fallible Tracing Unit := do
  match result with
  | .error _ => return ()
  | .ok () => onRegistry (modify (·.removeGroupSize kernel))

def exitImageCreate (image : ImageHandle) (desc : ImageDesc) (result : DriverResult) :
    Fallible Tracing Unit := do
  match result with
  | .error _ => return ()
  | .ok () => onRegistry (Registry.addImage image (← desc.byteSize))

def exitImageDestroy (image : ImageHandle) (result : DriverResult) : Fallible Tracing Unit := do
  match result with
  | .error _ => return ()
  | .ok () => onRegistry (Registry.removeImage image)

/-! ## Switching tracing on and off -/

/-- Switches the tracer in the driver and then the collector; a tracer that can not
be switched leaves the collector as it was. -/
def setEnabled (enabled : Bool) : Fallible Tracing (Except SetupError Unit) := do
  let tracer := (← get).collector.tracer
  match ← onDriver (·.setEnabled tracer enabled) with
  | .error e => return .error (.tracerToggle e)
  | .ok () =>
    modify fun t => { t with collector := { t.collector with enabled } }
    return .ok ()

end GpuTrace.Tracing
