import GpuTrace.Clock.Domain
import GpuTrace.Environment
import GpuTrace.Error
import GpuTrace.Text.Blank
import GpuTrace.Text.Quoted

/-!
# Configuration

Settings come from three layers: the defaults, a document in which every key is
optional, and environment variables. How a document is written is a matter of
its `Reader`; `ofText` reads it and then checks the two report columns.
`override` applies the variables in a fixed order and stops at the first one
that does not parse.
-/

namespace GpuTrace

/-- Settings of a collector and of the aggregation of its intervals. -/
structure Config where
  /-- Names carry launch dimensions and byte counts. -/
  verbose : Bool
  /-- An interval is recorded for every completed call. -/
  kernelIntervals : Bool
  /-- Clock that intervals are recorded on. -/
  intervalDomain : ClockDomain
  /-- Report column with the begin time. -/
  timeColumn : String
  /-- Report column with the elapsed core clocks. -/
  clocksColumn : String
  deriving DecidableEq

namespace Config

def default : Config where
  verbose := false
  kernelIntervals := true
  intervalDomain := .host
  timeColumn := "QueryBeginTime"
  clocksColumn := "GpuCoreClocks"

instance : Inhabited Config := ⟨default⟩

def verboseDefault : Config :=
  { default with verbose := true }

/-- The two report columns must have names, and different ones. -/
def validate (c : Config) : Except SetupError Unit :=
  if c.timeColumn.isEmpty then .error (.config "time_column must not be empty")
  else if c.clocksColumn.isEmpty then .error (.config "clocks_column must not be empty")
  else if c.timeColumn = c.clocksColumn then
    .error (.config s!"time_column and clocks_column both name {c.timeColumn}")
  else .ok ()

/-! ## Documents -/

/-- Takes the text of a document to its settings, or to a complaint about it. -/
abbrev Reader := String → Except String Config

/-- Settings of a document, checked. -/
def ofText (read : Reader) (text : String) : Except SetupError Config := do
  match read text with
  | .error reason => throw (.configParse reason)
  | .ok config =>
    config.validate
    return config

/-! ## Environment -/

/-- A truth value in any case of letters, with blanks around it. -/
def flag? (value : String) : Option Bool :=
  match Text.lowercase (Text.trim value) with
  | "1" | "true" | "yes" | "on" => some true
  | "0" | "false" | "no" | "off" => some false
  | _ => none

/-- Reads a truth value; the complaint shows the value as it was compared. -/
def parseFlag (name value : String) : Except SetupError Bool :=
  match flag? value with
  | some b => .ok b
  | none =>
    let shown := Text.quoted (Text.lowercase (Text.trim value))
    .error (.config s!"{name}: expected a boolean, got {shown}")

def parseDomain (name value : String) : Except SetupError ClockDomain :=
  match ClockDomain.ofText? value with
  | some d => .ok d
  | none => .error (.config s!"{name}: {ClockDomain.invalidText value}")

/-- A variable that is present replaces the setting. -/
def replaced {α : Type} (given : Option String) (setting : α)
    (read : String → Except SetupError α) : Except SetupError α :=
  match given with
  | some value => read value
  | none => .ok setting

def override (c : Config) (env : Environment) : Except SetupError Config := do
  let verbose ← replaced env.verbose c.verbose (parseFlag Environment.verboseName)
  let kernelIntervals ←
    replaced env.intervals c.kernelIntervals (parseFlag Environment.intervalsName)
  let intervalDomain ←
    replaced env.intervalDomain c.intervalDomain (parseDomain Environment.intervalDomainName)
  return { c with verbose, kernelIntervals, intervalDomain }

def ofEnvironment (env : Environment) : Except SetupError Config :=
  default.override env

end Config

end GpuTrace
