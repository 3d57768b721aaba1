import GpuTrace.Checked
import GpuTrace.Metrics.Schema
import GpuTrace.Metrics.Window

/-!
# Folding the reports of a window

The values of a column become one value by the rule of the column: the sum, the
mean weighted by elapsed clocks, the value of the first report, or nothing.
Three names have a rule of their own; for others the kind decides.

Integers are summed exactly, in 64 bits, and averaged over a sum of products in
128 bits. Floating point values are folded from the left as doubles, starting at
negative zero.
-/

namespace GpuTrace.Metrics

inductive Rule
  | sum
  | clockWeighted
  | first
  | omit
  deriving DecidableEq, Repr

namespace Rule

def ofKind : Kind → Rule
  | .duration | .ratio => .clockWeighted
  | .throughput | .event => .sum
  | .timestamp | .raw => .first
  | .eventWithRange | .flag => .omit

def ofColumn (column : Column) : Rule :=
  if column.name = "GpuTime" then .sum
  else if column.name = "AvgGpuCoreFrequencyMHz" then .clockWeighted
  else if column.name = "ReportReason" then .first
  else ofKind column.kind

end Rule

/-- Elapsed clocks of a report, which must be a 64-bit integer. -/
def clocksOf (column : Nat) (report : Report) : Except Fault UInt64 := do
  let value ← valueAt report column
  match value.word64? with
  | some clocks => return clocks
  | none => throw (.clocksNotWord64 value)

def foldReports {α : Type} (step : α → Report → Except Fault α) (a : α) (reports : List Report) :
    Except Fault α :=
  reports.foldlM step a

def totalClocks (reports : List Report) (column : Nat) : Except Fault UInt64 :=
  foldReports (fun sum report => do Checked.add sum (← clocksOf column report)) 0 reports

def integerAt (column : Nat) (report : Report) : Except Fault UInt64 := do
  let value ← valueAt report column
  match value.integer? with
  | some n => return n
  | none => throw (.mixedTypes column value)

def realAt (column : Nat) (report : Report) : Except Fault Float := do
  let value ← valueAt report column
  match value.real? with
  | some x => return x
  | none => throw (.mixedTypes column value)

/-- What the values of a column are, judged by the first report. -/
inductive Family
  | integers
  | reals
  | flags
  deriving DecidableEq

def Family.of : Value → Family
  | .word32 _ | .word64 _ => .integers
  | .single _ | .double _ => .reals
  | .flag _ => .flags

/-- Folding floating point values starts here, so that the sum of negative zeros
keeps its sign. -/
def negativeZero : Float := -0.0

def sum (reports : List Report) (column : Nat) : Except Fault Value :=
  match reports with
  | [] => .error .nothingToSum
  | first :: _ => do
    match Family.of (← valueAt first column) with
    | .integers =>
      let total ←
        foldReports (fun sum report => do Checked.add sum (← integerAt column report)) 0 reports
      return .word64 total
    | .reals =>
      let total ←
        foldReports (fun sum report => return sum + (← realAt column report)) negativeZero reports
      return .double total.toBits
    | .flags => throw (.flagSum column)

/-- Numbers below this one fit in 128 bits. -/
def wideLimit : Nat := 340282366920938463463374607431768211456

def addWide (a b : Nat) : Except Fault Nat :=
  if a + b < wideLimit then .ok (a + b) else .error .addOverflow

/-- Mean of a column, each value weighted by the clocks of its report. Integers
are divided rounding down, and only the low 64 bits are kept. -/
def clockWeighted (reports : List Report) (column clocksColumn : Nat) (total : UInt64) :
    Except Fault Value :=
  match reports with
  | [] => .error .nothingToAverage
  | first :: _ =>
    if total = 0 then .error .zeroClocks
    else do
      match Family.of (← valueAt first column) with
      | .integers =>
        let weighted ←
          foldReports (fun sum report => do
            let n ← integerAt column report
            let clocks ← clocksOf clocksColumn report
            addWide sum (n.toNat * clocks.toNat)) 0 reports
        return .word64 (UInt64.ofNat (weighted / total.toNat))
      | .reals =>
        let weighted ←
          foldReports (fun sum report => do
            let x ← realAt column report
            let clocks ← clocksOf clocksColumn report
            return sum + x * clocks.toFloat) negativeZero reports
        return .double (weighted / total.toFloat).toBits
      | .flags => throw (.flagAverage column)

end GpuTrace.Metrics
