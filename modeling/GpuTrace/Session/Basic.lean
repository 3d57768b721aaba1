import GpuTrace.Collector.Lifetime

/-!
# Session — a driver, a host clock and at most one collector

A session holds the driver, the clock and the journal, the collector while there
is one, and the tokens of appends and executions under way, by the numbers that
the application gave them. Tokens outlive the collector that made them.

A new collector takes the place of the old one only after it was created; the
old one is then unregistered.
-/

namespace GpuTrace

structure Session where
  driver : Driver
  /-- Host clock, in nanoseconds. -/
  now : UInt64
  journal : Journal
  collector : Option Collector
  appends : Table Nat InFlightAppend
  submits : Table Nat SubmitToken
  deriving DecidableEq

namespace Session

variable {α : Type}

def of (driver : Driver) (now : UInt64) : Session where
  driver := driver
  now := now
  journal := .empty
  collector := none
  appends := .empty
  submits := .empty

def after (s : Session) (t : Tracing) : Session :=
  { s with
    driver := t.driver
    now := t.now
    journal := t.journal
    collector := some t.collector }

/-- Runs a step of the collector; without one nothing happens. -/
def trace (step : Fallible Tracing α) : Fallible Session (Option α) := fun s =>
  match s.collector with
  | none => .ok none s
  | some collector =>
    match step ⟨s.driver, s.now, collector, s.journal⟩ with
    | .ok a t => .ok (some a) (s.after t)
    | .error e t => .error e (s.after t)

def onDriver (call : Driver → α × Driver) : Fallible Session α := fun s =>
  let (a, driver) := call s.driver
  .ok a { s with driver }

def updateDriver (call : Driver → Except Fault Driver) : Fallible Session Unit := fun s =>
  match call s.driver with
  | .ok driver => .ok () { s with driver }
  | .error e => .error e s

def warn (w : Warning) : Fallible Session Unit :=
  modify fun s => { s with journal := s.journal.warn w }

/-! ## Collectors -/

def dropCollector : Fallible Session Unit := do
  match (← get).collector with
  | none => return ()
  | some collector =>
    modify fun s => { s with collector := none }
    match ← onDriver (·.unregister collector.tracer) with
    | .ok () => return ()
    | .error e => warn (.tracerKept collector.tracer e)

/-- A collector with nothing traced yet. The driver's devices are enumerated before
the tracer is registered. -/
def newCollector (config : Config) (notifies : Bool) :
    Fallible Session (Except SetupError Collector) := do
  let driver := (← get).driver
  if !driver.version.supportsTracing then
    return .error (.unsupportedApiVersion driver.version.major driver.version.minor)
  let devices ← DeviceMap.ofRoots driver.rootsWithSubDevices
  match ← onDriver (·.register) with
  | .error e => return .error (.tracerCreate e)
  | .ok tracer =>
    return .ok
      { tracer, config, notifies
        enabled := true
        registry := .empty
        profile := .of devices config.verbose config.kernelIntervals config.intervalDomain }

def createCollector (config : Config) (notifies : Bool) :
    Fallible Session (Except SetupError Unit) := do
  match ← newCollector config notifies with
  | .error e => return .error e
  | .ok collector =>
    dropCollector
    modify fun s => { s with collector := some collector }
    return .ok ()

/-- Puts a new collector in the place of the old one, or warns and keeps the old
one; answers whether there is a new one. -/
def createOrWarn (config : Config) (notifies : Bool) : Fallible Session Bool := do
  match ← createCollector config notifies with
  | .ok () => return true
  | .error e =>
    warn (.notCreated e)
    return false

/-! ## Tokens -/

def enterAppend (token : Nat) (list : CommandListHandle) (op : Operation)
    (signal : Option EventHandle) : Fallible Session (Option AppendAnswer) := do
  let answer ← trace (Tracing.enterAppend list op signal)
  match answer.bind (·.inFlight) with
  | some append => modify fun s => { s with appends := s.appends.insert token append }
  | none => pure ()
  return answer

/-- Hands an append in flight to the hook behind the driver call; answers nothing if
no append has the number. -/
def exitAppend (token : Nat) (result : DriverResult) : Fallible Session (Option Unit) := do
  match (← get).appends.get? token with
  | none => return none
  | some append =>
    modify fun s => { s with appends := s.appends.erase token }
    trace (Tracing.exitAppend append result)

def enterExecute (token : Nat) (queue : QueueHandle) (lists : List CommandListHandle) :
    Fallible Session (Option SubmitToken) := do
  match (← trace (Tracing.enterExecute queue lists)).join with
  | some submit =>
    modify fun s => { s with submits := s.submits.insert token submit }
    return some submit
  | none => return none

def exitExecute (token : Nat) (result : DriverResult) : Fallible Session (Option Unit) := do
  match (← get).submits.get? token with
  | none => return none
  | some submit =>
    modify fun s => { s with submits := s.submits.erase token }
    trace (Tracing.exitExecute submit result)

end Session

end GpuTrace
