import GpuTrace.Clock.Ticks
import GpuTrace.Text.LowerCase

/-!
# Clock domains

A recorded window is expressed either on the host clock or in nanoseconds of the
device timer. A synchronization point fixes one moment on both clocks and moves
host times into the device domain, where counter reports are stamped.
-/

namespace GpuTrace

inductive ClockDomain
  | host
  | device
  deriving DecidableEq, Repr

namespace ClockDomain

def name : ClockDomain → String
  | .host => "host"
  | .device => "device"

def ofName? : String → Option ClockDomain
  | "host" => some .host
  | "device" => some .device
  | _ => none

/-- Domain by name in any case of letters. -/
def ofText? (s : String) : Option ClockDomain :=
  ofName? (Text.lowercase s)

def invalidText (s : String) : String :=
  s!"Invalid clock domain: {s}"

@[simp] theorem ofName?_name (d : ClockDomain) : ofName? d.name = some d := by
  cases d <;> rfl

end ClockDomain

/-- One moment on both clocks. -/
structure ClockSync where
  hostSync : UInt64
  /-- Device timer, in ticks. -/
  deviceSync : UInt64
  frequency : UInt64
  deriving DecidableEq

namespace ClockSync

/-- A synchronization point needs a running device timer. -/
def of (hostSync deviceSync frequency : UInt64) : Except Fault ClockSync :=
  if frequency = 0 then .error .zeroFrequency
  else .ok ⟨hostSync, deviceSync, frequency⟩

/-- A time of the given domain in device nanoseconds. Host times must come after
the synchronization point. -/
def toDeviceNs (sync : ClockSync) (timestamp : UInt64) : ClockDomain → Except Fault UInt64
  | .device => .ok timestamp
  | .host => do
    if timestamp ≤ sync.hostSync then
      throw (.beforeSync timestamp sync.hostSync)
    let base ← ticksToNs sync.deviceSync sync.frequency
    Checked.add base (timestamp - sync.hostSync)

end ClockSync

end GpuTrace
