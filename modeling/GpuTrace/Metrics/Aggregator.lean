import GpuTrace.Config
import GpuTrace.Json
import GpuTrace.Metrics.Combine
import GpuTrace.Metrics.Source
import GpuTrace.Profile.Basic

/-!
# Aggregator — counter reports of kernel intervals

An aggregator knows the device that its source samples, a synchronization point
and, for each sub-device, the columns with begin time and clocks. It selects the
reports that begin inside each window of an interval, and either lists them or
folds them into one row per window. Intervals of other devices have no reports.
-/

namespace GpuTrace.Metrics

/-- Columns with a fixed meaning. -/
structure Layout where
  time : Nat
  clocks : Nat
  deriving DecidableEq

structure ReportRow where
  subDevice : Nat
  values : Report
  deriving DecidableEq

/-- Folded reports of one window; columns that are left out have no value. -/
structure AggregatedRow where
  kernelName : String
  subDevice : Nat
  reportCount : Nat
  values : List (Option Value)
  deriving DecidableEq

/-- Selects and folds the reports of one sampled device. -/
structure Aggregator where
  source : Source
  device : DeviceHandle
  sync : ClockSync
  layouts : List Layout
  deriving DecidableEq

namespace Aggregator

def layoutOf (source : Source) (timeColumn clocksColumn : String) (subDevice : Nat) :
    Except SetupError Layout :=
  match source.schema? subDevice with
  | none => .error (.invalidReportLayout subDevice "no metric schema")
  | some schema =>
    if schema.size = 0 then .error (.invalidReportLayout subDevice "empty metric schema")
    else
      match schema.position? timeColumn, schema.position? clocksColumn with
      | none, _ => .error (.missingMetric subDevice timeColumn)
      | _, none => .error (.missingMetric subDevice clocksColumn)
      | some time, some clocks => .ok ⟨time, clocks⟩

/-- An aggregator for the given columns; every sub-device must have both. -/
def withColumns (source : Source) (device : DeviceHandle) (sync : ClockSync)
    (timeColumn clocksColumn : String) : Except SetupError Aggregator := do
  let layouts ← (List.range source.count).mapM (layoutOf source timeColumn clocksColumn)
  return { source, device, sync, layouts }

def of (source : Source) (device : DeviceHandle) (sync : ClockSync) (config : Config) :
    Except SetupError Aggregator :=
  withColumns source device sync config.timeColumn config.clocksColumn

def schema (a : Aggregator) (subDevice : Nat) : Except Fault Schema :=
  match a.source.schema? subDevice with
  | some schema => .ok schema
  | none => .error (.schemaMissing subDevice)

def layout (a : Aggregator) (subDevice : Nat) : Except Fault Layout :=
  match a.layouts[subDevice]? with
  | some layout => .ok layout
  | none => .error (.notSampled subDevice)

def rawReports (a : Aggregator) (subDevice : Nat) : Except Fault (List ReportRow) := do
  let size := (← a.schema subDevice).size
  return ((a.source.chunks subDevice).flatMap (reportsOf size)).map (⟨subDevice, ·⟩)

/-- Reports that begin in one window of an interval. -/
def matching (a : Aggregator) (domain : ClockDomain) (window : DeviceInterval) :
    Except Fault (List Report) := do
  let layout ← a.layout window.subDevice
  let size := (← a.schema window.subDevice).size
  let start ← a.sync.toDeviceNs window.start domain
  let stop ← a.sync.toDeviceNs window.stop domain
  select (a.source.chunks window.subDevice) size layout.time start stop

/-- Windows of an interval of the sampled device; other intervals have none here. -/
def windowsOf (a : Aggregator) (interval : KernelInterval) : List DeviceInterval :=
  if interval.device = a.device then interval.windows else []

/-- Reports inside each window, one window after the other. -/
def kernelReports (a : Aggregator) (interval : KernelInterval) : Except Fault (List ReportRow) := do
  let parts ← (a.windowsOf interval).mapM fun window => do
    return (← a.matching interval.domain window).map fun report =>
      (⟨window.subDevice, report⟩ : ReportRow)
  return parts.flatten

def foldColumn (reports : List Report) (clocksColumn : Nat) (total : UInt64) (index : Nat)
    (column : Column) : Except Fault (Option Value) :=
  match Rule.ofColumn column with
  | .sum => some <$> sum reports index
  | .clockWeighted => some <$> clockWeighted reports index clocksColumn total
  | .first =>
    match reports with
    | [] => .error (.indexOutOfBounds 0 0)
    | first :: _ => some <$> valueAt first index
  | .omit => .ok none

def foldColumns (reports : List Report) (clocksColumn : Nat) (total : UInt64) :
    Nat → List Column → Except Fault (List (Option Value))
  | _, [] => .ok []
  | index, column :: columns => do
    let value ← foldColumn reports clocksColumn total index column
    return value :: (← foldColumns reports clocksColumn total (index + 1) columns)

def fold (a : Aggregator) (kernelName : String) (subDevice : Nat) (reports : List Report) :
    Except Fault AggregatedRow := do
  let schema ← a.schema subDevice
  let clocksColumn := (← a.layout subDevice).clocks
  let total ← totalClocks reports clocksColumn
  let values ← foldColumns reports clocksColumn total 0 schema.columns
  return { kernelName, subDevice, reportCount := reports.length, values }

def foldWindow (a : Aggregator) (interval : KernelInterval) (window : DeviceInterval) :
    Except Fault (List AggregatedRow) := do
  let reports ← a.matching interval.domain window
  if reports.isEmpty then return []
  return [← a.fold interval.kernelName window.subDevice reports]

/-- One row for each window of the interval that has reports. -/
def aggregate (a : Aggregator) (interval : KernelInterval) : Except Fault (List AggregatedRow) := do
  return (← (a.windowsOf interval).mapM (a.foldWindow interval)).flatten

def aggregateAll (a : Aggregator) (intervals : List KernelInterval) :
    Except Fault (List AggregatedRow) := do
  return (← intervals.mapM a.aggregate).flatten

end Aggregator

/-! ## JSON -/

/-- A value with the name of its type. Single precision is widened first. -/
def Value.json (v : Value) : Json :=
  let typed (type : String) (value : Json) : Json :=
    .object [("type", .string type), ("value", value)]
  match v with
  | .word32 n => typed "u32" (.natural n.toNat)
  | .word64 n => typed "u64" (.natural n.toNat)
  | .single bits => typed "f32" (.double (Float32.ofBits bits).toFloat.toBits)
  | .double bits => typed "f64" (.double bits)
  | .flag b => typed "bool8" (.bool b)

def AggregatedRow.json (row : AggregatedRow) : Json :=
  .object
    [("kernel_name", .string row.kernelName),
      ("report_count", .natural row.reportCount),
      ("sub_device_id", .natural row.subDevice),
      ("values", .array (row.values.map fun v => (v.map Value.json).getD .null))]

end GpuTrace.Metrics
