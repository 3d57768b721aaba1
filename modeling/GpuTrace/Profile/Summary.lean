import GpuTrace.Decimal.Fixed
import GpuTrace.Json
import GpuTrace.Profile.KernelInfo

/-!
# Summary — the kernel table as a report

A summary has one row per kernel in the given order and the sum of all totals,
which must fit in 64 bits. It is written as a text table with right-aligned
numbers and two places of percentage, or as JSON.
-/

namespace GpuTrace

structure SummaryRow where
  name : String
  info : KernelInfo
  /-- Share of the sum of all totals, in percent. -/
  percent : Float

structure Summary where
  totalTime : UInt64
  rows : List SummaryRow

namespace Summary

/-- Percentage of `part` in `whole`, zero if there is nothing. -/
def percentOf (part whole : UInt64) : Float :=
  if whole = 0 then 0.0 else part.toFloat / whole.toFloat * 100.0

def of (entries : List KernelEntry) : Except Fault Summary := do
  let totalTime ← Checked.sum (entries.map fun e => e.2.totalTime)
  return {
    totalTime
    rows := entries.map fun e => ⟨e.1, e.2, percentOf e.2.totalTime totalTime⟩ }

def isEmpty (s : Summary) : Bool :=
  s.rows.isEmpty

/-! ## Text table -/

def padLeft (width : Nat) (s : String) : String :=
  String.ofList (List.replicate (width - s.length) ' ') ++ s

/-- Fields of the table, joined by blanks; the last one is not padded. -/
def tableLine (percent : String) (total avg min max calls name : String) : String :=
  String.intercalate " "
    [padLeft 6 percent, padLeft 14 total, padLeft 11 avg, padLeft 11 min, padLeft 11 max,
      padLeft 9 calls, name] ++ "\n"

def word (n : UInt64) : String :=
  toString n.toNat

def rowLine (row : SummaryRow) : String :=
  tableLine (Decimal.fixedText 2 (Decimal.decodeFloat row.percent)) (word row.info.totalTime)
    (word row.info.averageTime) (word row.info.minTime) (word row.info.maxTime)
    (word row.info.callCount) row.name

def headLine : String :=
  "% time     total (ns)    avg (ns)    min (ns)    max (ns)     calls kernel\n"

def ruleLine : String :=
  "------ -------------- ----------- ----------- ----------- --------- ----------------\n"

/-- The text table, with the number of all calls at its foot. -/
def text (s : Summary) : Except Fault String :=
  if s.isEmpty then .ok "No kernels traced.\n"
  else do
    let calls ← Checked.sum (s.rows.map fun row => row.info.callCount)
    return headLine ++ ruleLine ++ String.join (s.rows.map rowLine) ++ ruleLine ++
      tableLine "100.00" (word s.totalTime) "" "" "" (word calls) "total"

/-! ## JSON -/

def rowJson (row : SummaryRow) : Json :=
  .object
    [("name", .string row.name),
      ("calls", .natural row.info.callCount.toNat),
      ("total_ns", .natural row.info.totalTime.toNat),
      ("avg_ns", .natural row.info.averageTime.toNat),
      ("min_ns", .natural row.info.minTime.toNat),
      ("max_ns", .natural row.info.maxTime.toNat),
      ("time_percent", .double row.percent.toBits)]

def json (s : Summary) : Json :=
  .object
    [("total_time_ns", .natural s.totalTime.toNat),
      ("kernels", .array (s.rows.map rowJson))]

end Summary

end GpuTrace
