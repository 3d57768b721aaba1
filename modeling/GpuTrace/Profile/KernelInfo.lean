import GpuTrace.Checked

/-!
# Statistics of one kernel

Total, shortest and longest duration and the number of calls, in nanoseconds.
Recording a call that makes the total overflow changes nothing; a call count
that overflows is noticed last.

`reportOrder` puts the longest total first and, among equal totals, the most
calls. `sortedInfo` breaks the remaining ties by name.
-/

namespace GpuTrace

structure KernelInfo where
  totalTime : UInt64
  minTime : UInt64
  maxTime : UInt64
  callCount : UInt64
  deriving DecidableEq

namespace KernelInfo

def first (duration : UInt64) : KernelInfo :=
  ⟨duration, duration, duration, 1⟩

def record (duration : UInt64) : Fallible KernelInfo Unit := fun k =>
  match Checked.add k.totalTime duration with
  | .error e => .error e k
  | .ok totalTime =>
    let k' := { k with
      totalTime
      minTime := min k.minTime duration
      maxTime := max k.maxTime duration }
    match Checked.add k.callCount 1 with
    | .error e => .error e k'
    | .ok callCount => .ok () { k' with callCount }

/-- Mean duration, rounded down; zero without calls. -/
def averageTime (k : KernelInfo) : UInt64 :=
  if k.callCount = 0 then 0 else k.totalTime / k.callCount

/-- Longest total time first, then most calls. -/
def reportOrder (a b : KernelInfo) : Ordering :=
  (compare b.totalTime a.totalTime).then (compare b.callCount a.callCount)

end KernelInfo

abbrev KernelEntry := String × KernelInfo

/-- Report order of whole rows; equal statistics go by name. -/
def KernelEntry.order (a b : KernelEntry) : Ordering :=
  (KernelInfo.reportOrder a.2 b.2).then (compare a.1 b.1)

def sortedInfo (entries : List KernelEntry) : List KernelEntry :=
  entries.mergeSort fun a b => (KernelEntry.order a b).isLE

end GpuTrace
