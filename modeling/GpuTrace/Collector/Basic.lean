import GpuTrace.Config
import GpuTrace.Driver.Basic
import GpuTrace.Profile.Basic
import GpuTrace.Registry.Basic

/-!
# Collector — tracing the commands of a driver

A collector keeps a registry of what was appended and submitted and a profile of
what completed. `Tracing` is a collector at work: the driver, the host clock, and
a journal with the notices that the application got and the warnings that were
given, in order.

A hook is a step on `Tracing`; `onRegistry`, `onProfile` and `onDriver` run a
step of one part.
-/

namespace GpuTrace

/-- Traces every operation appended to the driver's command lists. -/
structure Collector where
  tracer : TracerHandle
  config : Config
  /-- The application wants a notice of every completed call. -/
  notifies : Bool
  /-- New operations and submissions are traced. -/
  enabled : Bool
  registry : Registry
  profile : Profile
  deriving DecidableEq

/-- A notice to the application, with the calls that were pending then. -/
structure Notice where
  finish : KernelFinish
  pending : Nat
  deriving DecidableEq

inductive Warning
  | untraced (name : String) (error : SetupError)
  | eventKept (event : EventHandle) (error : DriverError)
  | poolKept (pool : EventPoolHandle) (error : DriverError)
  | tracerKept (tracer : TracerHandle) (error : DriverError)
  | notCreated (error : SetupError)
  deriving DecidableEq

namespace Warning

def message : Warning → String
  | .untraced name error => s!"{name} will not be traced: {error.message}"
  | .eventKept event error => s!"Unable to destroy profiling event {event.text}: {error.message}"
  | .poolKept pool error => s!"Unable to destroy profiling event pool {pool.text}: {error.message}"
  | .tracerKept tracer error => s!"Unable to unregister driver tracer {tracer.text}: {error.message}"
  | .notCreated error => s!"Unable to create kernel collector: {error.message}"

end Warning

structure Journal where
  notices : Array Notice
  warnings : Array Warning
  deriving DecidableEq

namespace Journal

def empty : Journal := ⟨#[], #[]⟩

def notice (j : Journal) (n : Notice) : Journal :=
  { j with notices := j.notices.push n }

def warn (j : Journal) (w : Warning) : Journal :=
  { j with warnings := j.warnings.push w }

end Journal

/-- A collector at work. -/
structure Tracing where
  driver : Driver
  /-- Host clock, in nanoseconds. -/
  now : UInt64
  collector : Collector
  journal : Journal
  deriving DecidableEq

namespace Collector

def listCount (c : Collector) : Nat := c.registry.lists.size

def pendingCount (c : Collector) : Nat := c.registry.pending.length

def sortedInfo (c : Collector) : List KernelEntry := c.profile.sorted

def boolText (b : Bool) : String := if b then "true" else "false"

def description (c : Collector) (backend : Backend) : String :=
  let domain := match c.config.intervalDomain with
    | .host => "Host"
    | .device => "Device"
  "KernelCollector \x7b backend: " ++ backend.label ++
    ", tracer: TracerHandle(" ++ toString c.tracer.raw ++
    "), enabled: " ++ boolText c.enabled ++
    ", config: TracerConfig \x7b verbose: " ++ boolText c.config.verbose ++
    ", kernel_intervals: " ++ boolText c.config.kernelIntervals ++
    ", interval_domain: " ++ domain ++
    ", time_column: " ++ Text.quoted c.config.timeColumn ++
    ", clocks_column: " ++ Text.quoted c.config.clocksColumn ++ " \x7d, .. \x7d"

end Collector

namespace Tracing

variable {α : Type}

def registry (t : Tracing) : Registry := t.collector.registry

def profile (t : Tracing) : Profile := t.collector.profile

def withRegistry (t : Tracing) (r : Registry) : Tracing :=
  { t with collector := { t.collector with registry := r } }

def withProfile (t : Tracing) (p : Profile) : Tracing :=
  { t with collector := { t.collector with profile := p } }

def onRegistry (step : Fallible Registry α) : Fallible Tracing α := fun t =>
  match step t.registry with
  | .ok a r => .ok a (t.withRegistry r)
  | .error e r => .error e (t.withRegistry r)

def onProfile (step : Fallible Profile α) : Fallible Tracing α := fun t =>
  match step t.profile with
  | .ok a p => .ok a (t.withProfile p)
  | .error e p => .error e (t.withProfile p)

def onDriver (call : Driver → α × Driver) : Fallible Tracing α := fun t =>
  let (a, driver) := call t.driver
  .ok a { t with driver }

/-- Runs a call of the driver that may stop before it changes anything. -/
def updateDriver (call : Driver → Except Fault Driver) : Fallible Tracing Unit := fun t =>
  match call t.driver with
  | .ok driver => .ok () { t with driver }
  | .error e => .error e t

def warn (w : Warning) : Fallible Tracing Unit :=
  modify fun t => { t with journal := t.journal.warn w }

end Tracing

end GpuTrace
