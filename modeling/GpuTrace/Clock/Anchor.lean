import GpuTrace.Clock.Ticks

/-!
# Anchors — placing device ticks on the host clock

Host clock and device timer are read together when work is submitted. A kernel
that starts some ticks after the submission starts as many nanoseconds after the
host time of the submission:

`start = hostTime + ns (startTick - deviceTime)`.
-/

namespace GpuTrace

/-- Host clock and device timer, read together at submission. -/
structure SubmitAnchor where
  /-- Host clock, in nanoseconds. -/
  hostTime : UInt64
  /-- Device timer, in ticks. -/
  deviceTime : UInt64
  deriving DecidableEq

structure HostWindow where
  start : UInt64
  stop : UInt64
  deriving DecidableEq

structure KernelTimestamp where
  start : UInt64
  stop : UInt64
  deriving DecidableEq

def HostWindow.duration (w : HostWindow) : Except Fault UInt64 :=
  Checked.sub w.stop w.start

/-- Host window of a kernel; it must have started after it was submitted. -/
def KernelTimestamp.onHost (t : KernelTimestamp) (frequency : UInt64) (anchor : SubmitAnchor) :
    Except Fault HostWindow := do
  if t.start ≤ anchor.deviceTime then
    throw (.clockNotMonotonic t.start anchor.deviceTime)
  let duration ← kernelDuration t.start t.stop frequency
  let shift ← ticksToNs (t.start - anchor.deviceTime) frequency
  let start ← Checked.add anchor.hostTime shift
  let stop ← Checked.add start duration
  return ⟨start, stop⟩

/-- Start and end of a kernel in nanoseconds of the device timer. -/
def KernelTimestamp.onDevice (t : KernelTimestamp) (frequency : UInt64) :
    Except Fault (UInt64 × UInt64) := do
  let start ← ticksToNs t.start frequency
  let stop ← Checked.add start (← kernelDuration t.start t.stop frequency)
  return (start, stop)

end GpuTrace
