import GpuTrace.Collector.Basic
import GpuTrace.Command.Operation

/-!
# Submission — hooks around appending and executing

The hook before a driver call answers a token, and the hook behind the call takes
it together with the driver's result. An append is registered only if the driver
accepted it; if not, an event made for it is destroyed again. An immediate list
submits with the append, a deferred list when it is executed.
-/

namespace GpuTrace

abbrev DriverResult := Except DriverError Unit

structure InFlightAppend where
  list : CommandListHandle
  command : Command
  /-- Anchor of the submission, on an immediate list. -/
  anchor : Option SubmitAnchor
  deriving DecidableEq

namespace InFlightAppend

def event (a : InFlightAppend) : EventHandle := a.command.event

def isImmediate (a : InFlightAppend) : Bool := a.anchor.isSome

end InFlightAppend

/-- Anchors taken before an execution. -/
structure SubmitToken where
  queue : QueueHandle
  anchors : List (CommandListHandle × SubmitAnchor)
  deriving DecidableEq

/-- Answer of the hook before an append: the command in flight, if the append is
traced, and the event that the driver call must use. -/
structure AppendAnswer where
  inFlight : Option InFlightAppend
  signal : Option EventHandle
  deriving DecidableEq

namespace Tracing

/-- Properties of an operation. Kernels are looked up in the driver, images and
group sizes in the registry. -/
def propsOf (t : Tracing) (op : Operation) : Except Fault Props :=
  match op.subject t.registry.imageSize with
  | .kernel kernel groupCount => do
    let k ← t.driver.kernel kernel
    return .kernel k.name k.simdWidth (t.registry.groupSize kernel) groupCount
  | .transfer label bytes => return .transfer label (← bytes)

def anchorOn (t : Tracing) (device : DeviceHandle) : Except Fault SubmitAnchor := do
  return ⟨t.now, ← t.driver.maskedTimestamp device⟩

/-- Makes an event with timestamps in a pool of its own. If the event can not be
made, the pool is destroyed again. -/
def createProfilingEvent (context : ContextHandle) :
    Fallible Tracing (Except SetupError SignalEvent) := do
  match ← onDriver (·.createPool context PoolDesc.profiling) with
  | .error e => return .error (.eventCreate e)
  | .ok pool =>
    match ← onDriver (·.createEvent pool) with
    | .ok event => return .ok (.owned pool event)
    | .error e =>
      match ← onDriver (·.destroyPool pool) with
      | .ok () => return .error (.eventCreate e)
      | .error kept =>
        warn (.poolKept pool kept)
        return .error (.eventCreate e)

def releaseCommand (command : Command) : Fallible Tracing Unit := do
  match command.signal with
  | .borrowed _ => return ()
  | .owned pool event =>
    match ← onDriver (·.destroyEvent event) with
    | .ok () => pure ()
    | .error e => warn (.eventKept event e)
    match ← onDriver (·.destroyPool pool) with
    | .ok () => pure ()
    | .error e => warn (.poolKept pool e)

def releaseCommands (commands : List Command) : Fallible Tracing Unit :=
  commands.forM releaseCommand

/-- The anchor that an append to `list` is submitted with: none on a deferred list,
which submits later. -/
def appendAnchor (t : Tracing) (list : CommandListHandle) (device : DeviceHandle) :
    Except Fault (Option SubmitAnchor) := do
  if ← t.registry.isImmediate list then return some (← t.anchorOn device) else return none

/-- The event that signals an append: the application's, or else one made for it.
An append without an event is not traced. -/
def signalFor (context : ContextHandle) (name : String) :
    Option EventHandle → Fallible Tracing (Option SignalEvent)
  | some event => return some (.borrowed event)
  | none => do
    match ← createProfilingEvent context with
    | .ok signal => return some signal
    | .error e =>
      warn (.untraced name e)
      return none

/-- Before an operation is appended to `list`, with the application's event. -/
def enterAppend (list : CommandListHandle) (op : Operation) (signal : Option EventHandle) :
    Fallible Tracing AppendAnswer := do
  let t ← get
  if !t.collector.enabled then return ⟨none, signal⟩
  let device ← t.registry.device list
  let props ← t.propsOf op
  let anchor ← t.appendAnchor list device
  let context ← t.registry.context list
  match ← signalFor context props.name signal with
  | none => return ⟨none, none⟩
  | some signalEvent =>
    let frequency ← (← get).driver.timerFrequency device
    let command ← Command.of props signalEvent device t.now frequency
    return ⟨some ⟨list, command, anchor⟩, some signalEvent.event⟩

def exitAppend (append : InFlightAppend) (result : DriverResult) : Fallible Tracing Unit := do
  match result with
  | .error _ => releaseCommand append.command
  | .ok () =>
    let ref ← onRegistry (Registry.addCommand append.list append.command)
    match append.anchor with
    | some anchor => onRegistry (Registry.addCall (Call.of ref append.list.asQueue anchor))
    | none => return ()

/-- Before lists are executed on a queue: an anchor for each list. -/
def enterExecute (queue : QueueHandle) (lists : List CommandListHandle) :
    Fallible Tracing (Option SubmitToken) := do
  let t ← get
  if !t.collector.enabled then return none
  let anchors ← lists.mapM fun list => do
    return (list, ← t.anchorOn (← t.registry.device list))
  return some ⟨queue, anchors⟩

/-- Queues the calls of one executed list. The calls of an immediate list were
queued with the appends. -/
def submitList (queue : QueueHandle) (list : CommandListHandle) (anchor : SubmitAnchor) :
    Fallible Tracing Unit := do
  if ← (← get).registry.isImmediate list then return ()
  discard <| onRegistry (Registry.addCalls list queue anchor)

def exitExecute (token : SubmitToken) (result : DriverResult) : Fallible Tracing Unit := do
  match result with
  | .error _ => return ()
  | .ok () => token.anchors.forM fun entry => submitList token.queue entry.1 entry.2

end Tracing

end GpuTrace
