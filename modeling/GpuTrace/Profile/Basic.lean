import GpuTrace.Clock.Domain
import GpuTrace.Command.Basic
import GpuTrace.Profile.DeviceMap
import GpuTrace.Profile.KernelInfo

/-!
# Profile — what is known of completed calls

A completed call is placed on the host clock, counted in the kernel table under
its display name and, if intervals are recorded, listed with the window that it
ran in. `finish` also makes the notice that the application gets.

A fault in the middle keeps what was done: the device of the command is looked
up, and the append time compared, only after the kernel table was updated.
-/

namespace GpuTrace

structure DeviceInterval where
  start : UInt64
  stop : UInt64
  subDevice : Nat
  deriving DecidableEq

/-- Windows in which one completed call ran. -/
structure KernelInterval where
  kernelName : String
  /-- Root device that the call is attributed to. -/
  device : DeviceHandle
  /-- Clock of every window. -/
  domain : ClockDomain
  windows : List DeviceInterval
  deriving DecidableEq

structure KernelFinish where
  queue : QueueHandle
  /-- Kernel id and call id with a point between them. -/
  id : String
  name : String
  appended : UInt64
  submitted : UInt64
  started : UInt64
  ended : UInt64
  deriving DecidableEq

/-- Kernel table and interval list, with the settings that shape them. -/
structure Profile where
  /-- Names carry launch dimensions and byte counts. -/
  verbose : Bool
  recordsIntervals : Bool
  domain : ClockDomain
  devices : DeviceMap
  kernels : Table String KernelInfo
  intervals : Array KernelInterval
  deriving DecidableEq

namespace Profile

def of (devices : DeviceMap) (verbose recordsIntervals : Bool) (domain : ClockDomain) : Profile :=
  { verbose, recordsIntervals, domain, devices, kernels := .empty, intervals := #[] }

def recordInfo (name : String) (duration : UInt64) : Fallible Profile Unit := fun p =>
  match p.kernels.get? name with
  | none => .ok () { p with kernels := p.kernels.insert name (KernelInfo.first duration) }
  | some info =>
    match KernelInfo.record duration info with
    | .ok _ info' => .ok () { p with kernels := p.kernels.insert name info' }
    | .error e info' => .error e { p with kernels := p.kernels.insert name info' }

/-- Lists a window once for every slice of its device. -/
def recordInterval (name : String) (device : DeviceHandle) (start stop : UInt64) :
    Fallible Profile Unit := fun p =>
  match p.devices.slices device with
  | .error e => .error e p
  | .ok (root, slices) =>
    .ok () { p with
      intervals := p.intervals.push
        { kernelName := name
          device := root
          domain := p.domain
          windows := slices.map fun subDevice => ⟨start, stop, subDevice⟩ } }

def windowIn (domain : ClockDomain) (window : HostWindow) (timestamp : KernelTimestamp)
    (frequency : UInt64) : Except Fault (UInt64 × UInt64) :=
  match domain with
  | .host => .ok (window.start, window.stop)
  | .device => timestamp.onDevice frequency

def finish (call : Call) (command : Command) (timestamp : KernelTimestamp) :
    Fallible Profile KernelFinish := do
  let p ← get
  let window ← timestamp.onHost command.frequency call.anchor
  let name ← command.props.displayName p.verbose
  recordInfo name (← window.duration)
  if p.recordsIntervals then
    let (start, stop) ← windowIn p.domain window timestamp command.frequency
    recordInterval name command.device start stop
  if call.anchor.hostTime < command.appendTime then
    throw (.callBeforeAppend command.kernelId)
  return {
    queue := call.queue
    id := s!"{command.kernelId}.{call.callId}"
    name := command.props.name
    appended := command.appendTime
    submitted := call.anchor.hostTime
    started := window.start
    ended := window.stop }

def sorted (p : Profile) : List KernelEntry :=
  sortedInfo p.kernels.entries

end Profile

end GpuTrace
