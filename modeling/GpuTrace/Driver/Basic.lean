import GpuTrace.Checked
import GpuTrace.Clock.Anchor
import GpuTrace.Driver.EventPool
import GpuTrace.Driver.Version
import GpuTrace.Table

/-!
# Driver — devices, kernels, events and tracers in memory

Device timers move only when told to, and events complete only when signalled
with the ticks that they are to report. One counter numbers all objects, so a
handle is never given twice, not even after its object is gone. The next
creation of a pool, an event or a tracer, and the next switching of a tracer,
can be made to fail.
-/

namespace GpuTrace

inductive EventStatus
  | ready
  | notReady
  | failed (error : DriverError)
  deriving DecidableEq

structure DeviceState where
  /-- Ticks per second. -/
  frequency : UInt64
  /-- Ticks counted so far. -/
  time : UInt64
  subDevices : List DeviceHandle
  root : Bool
  deriving DecidableEq

structure EventState where
  pool : EventPoolHandle
  status : EventStatus
  /-- Ticks of the kernel, once signalled. -/
  timestamp : Option KernelTimestamp
  deriving DecidableEq

structure KernelState where
  name : String
  simdWidth : UInt32
  deriving DecidableEq

structure Driver where
  version : ApiVersion
  backend : Backend
  /-- The handle given last. -/
  lastHandle : Nat
  devices : Table DeviceHandle DeviceState
  kernels : Table KernelHandle KernelState
  pools : Table EventPoolHandle PoolDesc
  events : Table EventHandle EventState
  /-- Registered tracers, and whether each is switched on. -/
  tracers : Table TracerHandle Bool
  /-- Bits of a device timestamp that count. -/
  timestampMask : UInt64
  /-- Code that the next creation of a pool fails with. -/
  failPool : Option Int32
  failEvent : Option Int32
  failRegister : Option Int32
  failToggle : Option Int32
  deriving DecidableEq

namespace Driver

def invalidArgument : Int32 := 0x78000004

def uninitialized : Int32 := 0x78000001

def of (version : ApiVersion) (backend : Backend) : Driver where
  version := version
  backend := backend
  lastHandle := 0
  devices := .empty
  kernels := .empty
  pools := .empty
  events := .empty
  tracers := .empty
  timestampMask := 0xFFFFFFFFFFFFFFFF
  failPool := none
  failEvent := none
  failRegister := none
  failToggle := none

def standard : Driver := of ⟨1, 2⟩ .computeDriver

/-- The next handle, of whatever kind is needed. -/
def fresh {kind : HandleKind} (d : Driver) : Handle kind × Driver :=
  (⟨d.lastHandle + 1⟩, { d with lastHandle := d.lastHandle + 1 })

/-! ## Devices -/

/-- Adds a root device with sub-devices that share its frequency. The root takes
the first handle and is listed behind its sub-devices. -/
def addDevice (d : Driver) (frequency : UInt64) (subDevices : Nat) : DeviceHandle × Driver :=
  let root : DeviceHandle := ⟨d.lastHandle + 1⟩
  let subs : List DeviceHandle := (List.range subDevices).map fun i => ⟨d.lastHandle + 2 + i⟩
  let devices := subs.foldl (fun t sub => t.insert sub ⟨frequency, 0, [], false⟩) d.devices
  (root, { d with
    lastHandle := d.lastHandle + 1 + subDevices
    devices := devices.insert root ⟨frequency, 0, subs, true⟩ })

def device (d : Driver) (device : DeviceHandle) : Except Fault DeviceState :=
  match d.devices.get? device with
  | some state => .ok state
  | none => .error (.noSuchDevice device)

def setDeviceTime (d : Driver) (device : DeviceHandle) (ticks : UInt64) : Except Fault Driver := do
  let _ ← d.device device
  return { d with devices := d.devices.modify device fun s => { s with time := ticks } }

def advanceDeviceTime (d : Driver) (device : DeviceHandle) (ticks : UInt64) :
    Except Fault Driver := do
  let time ← Checked.add (← d.device device).time ticks
  d.setDeviceTime device time

def setTimestampMask (d : Driver) (mask : UInt64) : Driver :=
  { d with timestampMask := mask }

def roots (d : Driver) : List DeviceHandle :=
  (d.devices.entries.filter fun e => e.2.root).map (·.1)

def rootsWithSubDevices (d : Driver) : List (DeviceHandle × List DeviceHandle) :=
  (d.devices.entries.filter fun e => e.2.root).map fun e => (e.1, e.2.subDevices)

def subDevices (d : Driver) (device : DeviceHandle) : Except Fault (List DeviceHandle) :=
  (·.subDevices) <$> d.device device

def timerFrequency (d : Driver) (device : DeviceHandle) : Except Fault UInt64 :=
  (·.frequency) <$> d.device device

def deviceTimestamp (d : Driver) (device : DeviceHandle) : Except Fault UInt64 :=
  (·.time) <$> d.device device

def maskedTimestamp (d : Driver) (device : DeviceHandle) : Except Fault UInt64 :=
  (· &&& d.timestampMask) <$> d.deviceTimestamp device

/-! ## Kernels -/

def addKernel (d : Driver) (name : String) (simdWidth : UInt32) : KernelHandle × Driver :=
  let (kernel, d) := d.fresh
  (kernel, { d with kernels := d.kernels.insert kernel ⟨name, simdWidth⟩ })

def kernel (d : Driver) (kernel : KernelHandle) : Except Fault KernelState :=
  match d.kernels.get? kernel with
  | some state => .ok state
  | none => .error (.noSuchKernel kernel)

/-! ## Events -/

def newEvent (pool : EventPoolHandle) : EventState :=
  ⟨pool, .notReady, none⟩

/-- An event of the application, in a pool of its own. -/
def createUserEvent (d : Driver) : EventHandle × Driver :=
  let (pool, d) := d.fresh
  let (event, d) := d.fresh
  (event, { d with
    pools := d.pools.insert pool PoolDesc.profiling
    events := d.events.insert event (newEvent pool) })

def createPool (d : Driver) (_context : ContextHandle) (desc : PoolDesc) :
    Except DriverError EventPoolHandle × Driver :=
  match d.failPool with
  | some code => (.error ⟨"zeEventPoolCreate", code⟩, { d with failPool := none })
  | none =>
    let (pool, d) := d.fresh
    (.ok pool, { d with pools := d.pools.insert pool desc })

def createEvent (d : Driver) (pool : EventPoolHandle) : Except DriverError EventHandle × Driver :=
  match d.failEvent with
  | some code => (.error ⟨"zeEventCreate", code⟩, { d with failEvent := none })
  | none =>
    if d.pools.contains pool then
      let (event, d) := d.fresh
      (.ok event, { d with events := d.events.insert event (newEvent pool) })
    else (.error ⟨"zeEventCreate", invalidArgument⟩, d)

def destroyEvent (d : Driver) (event : EventHandle) : Except DriverError Unit × Driver :=
  if d.events.contains event then (.ok (), { d with events := d.events.erase event })
  else (.error ⟨"zeEventDestroy", invalidArgument⟩, d)

/-- A pool can be destroyed only when none of its events is left. -/
def destroyPool (d : Driver) (pool : EventPoolHandle) : Except DriverError Unit × Driver :=
  if d.events.entries.any (·.2.pool == pool) then
    (.error ⟨"zeEventPoolDestroy", invalidArgument⟩, d)
  else if d.pools.contains pool then (.ok (), { d with pools := d.pools.erase pool })
  else (.error ⟨"zeEventPoolDestroy", invalidArgument⟩, d)

def signal (d : Driver) (event : EventHandle) (timestamp : KernelTimestamp) : Except Fault Driver :=
  if d.events.contains event then
    .ok { d with
      events := d.events.modify event fun s =>
        { s with status := .ready, timestamp := some timestamp } }
  else .error (.noSuchEvent event)

/-- Forces the status of an event; nothing happens to one that is gone. -/
def setEventStatus (d : Driver) (event : EventHandle) (status : EventStatus) : Driver :=
  { d with events := d.events.modify event fun s => { s with status } }

/-- Makes an event ready for another use; nothing happens to one that is gone. -/
def hostReset (d : Driver) (event : EventHandle) : Driver :=
  { d with
    events := d.events.modify event fun s => { s with status := .notReady, timestamp := none } }

def isAlive (d : Driver) (event : EventHandle) : Bool :=
  d.events.contains event

def eventStatus (d : Driver) (event : EventHandle) : EventStatus :=
  match d.events.get? event with
  | some state => state.status
  | none => .failed ⟨"zeEventQueryStatus", invalidArgument⟩

def kernelTimestamp (d : Driver) (event : EventHandle) : Except DriverError KernelTimestamp :=
  match (d.events.get? event).bind (·.timestamp) with
  | some timestamp => .ok timestamp
  | none => .error ⟨"zeEventQueryKernelTimestamp", invalidArgument⟩

/-! ## Tracers -/

def register (d : Driver) : Except DriverError TracerHandle × Driver :=
  match d.failRegister with
  | some code => (.error ⟨"zelTracerCreate", code⟩, { d with failRegister := none })
  | none =>
    let (tracer, d) := d.fresh
    (.ok tracer, { d with tracers := d.tracers.insert tracer true })

def setEnabled (d : Driver) (tracer : TracerHandle) (enabled : Bool) :
    Except DriverError Unit × Driver :=
  match d.failToggle with
  | some code => (.error ⟨"zelTracerSetEnabled", code⟩, { d with failToggle := none })
  | none =>
    if d.tracers.contains tracer then
      (.ok (), { d with tracers := d.tracers.insert tracer enabled })
    else (.error ⟨"zelTracerSetEnabled", uninitialized⟩, d)

def unregister (d : Driver) (tracer : TracerHandle) : Except DriverError Unit × Driver :=
  if d.tracers.contains tracer then (.ok (), { d with tracers := d.tracers.erase tracer })
  else (.error ⟨"zelTracerDestroy", uninitialized⟩, d)

def tracerEnabled? (d : Driver) (tracer : TracerHandle) : Option Bool :=
  d.tracers.get? tracer

end Driver

end GpuTrace
