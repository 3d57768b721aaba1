import GpuTrace.Collector.Lifetime

/-!
# Workload — a small traced run

Kernel launches of two kernels in turn, a copy and a barrier are appended to a
deferred list, which is executed twice; then a fill runs on an immediate list.
The driver signals every event itself, one operation behind the other on the
device, and at the end all lists and the queue are destroyed.

A host clock reading of 10000 and a device timer of one tick per nanosecond are
what the run starts from.
-/

namespace GpuTrace.Workload

open Tracing

/-- One tick is one nanosecond. -/
def timerFrequency : UInt64 := 1000000000

def startTime : UInt64 := 10000

def advanceClock (delta : UInt64) : Fallible Tracing Unit :=
  modify fun t => { t with now := t.now + delta }

/-- Appends an operation with the hooks around the append, and answers the event to
signal, if the append is traced. -/
def append (list : CommandListHandle) (op : Operation) : Fallible Tracing (Option EventHandle) := do
  let answer ← enterAppend list op none
  match answer.inFlight with
  | none => return none
  | some inFlight =>
    exitAppend inFlight (.ok ())
    return answer.signal

def groupCount (launch : Nat) : Except Fault Dims :=
  if 2 + launch < UInt32.size then .ok ⟨UInt32.ofNat (2 + launch), 1, 1⟩ else .error .addOverflow

structure Kernels where
  even : KernelHandle
  odd : KernelHandle

/-- Appends one launch, ten nanoseconds after what was before it. -/
def appendLaunch (list : CommandListHandle) (kernels : Kernels) (launch : Nat) :
    Fallible Tracing (Option EventHandle) := do
  let kernel := if launch % 2 = 0 then kernels.even else kernels.odd
  let count ← groupCount launch
  advanceClock 10
  append list (.launchKernel kernel (some count))

/-- Appends the launches, a copy of one mebibyte and a barrier. Answers the events in
the order of the operations. -/
def appendAll (list : CommandListHandle) (kernels : Kernels) (launches : Nat) :
    Fallible Tracing (List EventHandle) := do
  let launched ← (List.range launches).mapM (appendLaunch list kernels)
  advanceClock 10
  let copied ← append list (.memoryCopy 1048576)
  let fenced ← append list .barrier
  return (launched ++ [copied, fenced]).filterMap id

/-- Ticks from the start to the end of an operation: later operations take longer,
and so does the second submission. -/
def operationTicks (place : Nat) (submission : UInt64) : Except Fault UInt64 := do
  Checked.add (← Checked.add 100 (← Checked.mul 37 (UInt64.ofNat place)))
    (← Checked.mul 11 submission)

/-- Completes the operations one behind the other, the first one at `place`, and
answers the tick at which the last one ended. -/
def signalAll (submission : UInt64) : Nat → List EventHandle → UInt64 → Fallible Tracing UInt64
  | _, [], ticks => return ticks
  | place, event :: events, ticks => do
    let start ← Checked.add ticks 20
    let stop ← Checked.add start (← operationTicks place submission)
    updateDriver (·.signal event ⟨start, stop⟩)
    signalAll submission (place + 1) events stop

def execute (queue : QueueHandle) (list : CommandListHandle) : Fallible Tracing Unit := do
  match ← enterExecute queue [list] with
  | some token => exitExecute token (.ok ())
  | none => return ()

/-- Executes the list, completes its operations and makes their events ready for
another submission. -/
def submit (device : DeviceHandle) (queue : QueueHandle) (list : CommandListHandle)
    (events : List EventHandle) (submission : UInt64) : Fallible Tracing Unit := do
  advanceClock 1000
  execute queue list
  let ticks ← (← get).driver.deviceTimestamp device
  let ticks ← signalAll submission 0 events ticks
  let ticks ← Checked.add ticks 500
  updateDriver (·.setDeviceTime device ticks)
  exitQueueSynchronize (.ok ())
  modify fun t => { t with driver := events.foldl Driver.hostReset t.driver }

def fill (device : DeviceHandle) (list : CommandListHandle) : Fallible Tracing Unit := do
  advanceClock 100
  match ← append list (.memoryFill 4096) with
  | none => return ()
  | some event =>
    let ticks ← (← get).driver.deviceTimestamp device
    let start ← Checked.add ticks 5
    let stop ← Checked.add ticks 45
    updateDriver (·.signal event ⟨start, stop⟩)
    exitEventHostSynchronize event (.ok ())

def run (device : DeviceHandle) (launches : Nat) : Fallible Tracing Unit := do
  let context : ContextHandle ← onDriver (·.fresh)
  let queue : QueueHandle ← onDriver (·.fresh)
  updateDriver (·.setDeviceTime device 1000)
  let gemm ← onDriver (·.addKernel "gemm" 32)
  let reduce ← onDriver (·.addKernel "reduce" 16)
  exitKernelSetGroupSize gemm ⟨64, 1, 1⟩ (.ok ())
  exitKernelSetGroupSize reduce ⟨256, 1, 1⟩ (.ok ())
  let deferred : CommandListHandle ← onDriver (·.fresh)
  exitListCreate deferred context device false (.ok ())
  let events ← appendAll deferred ⟨gemm, reduce⟩ launches
  submit device queue deferred events 0
  submit device queue deferred events 1
  let immediate : CommandListHandle ← onDriver (·.fresh)
  exitListCreate immediate context device true (.ok ())
  fill device immediate
  exitListDestroy immediate (.ok ())
  exitListDestroy deferred (.ok ())
  exitQueueDestroy queue (.ok ())

end GpuTrace.Workload
