import GpuTrace.Checked

/-!
# Device ticks

A device timer counts ticks at its own frequency and starts again at zero after
`timerWrap` ticks. `ticksToNs` converts a tick count to nanoseconds, rounded
down; `kernelDuration` is the time between two ticks of which the second may lie
behind one wrap.
-/

namespace GpuTrace

def nsPerSecond : Nat := 1000000000

/-- Kernel timers wrap after this many ticks. -/
def timerWrap : UInt64 := 4294967296

/-- Nanoseconds of `ticks` at `frequency` ticks per second, rounded down. Only the
low 64 bits are kept. -/
def ticksToNs (ticks frequency : UInt64) : Except Fault UInt64 :=
  if frequency = 0 then .error .zeroFrequency
  else .ok (UInt64.ofNat (ticks.toNat * nsPerSecond / frequency.toNat))

/-- Ticks from `start` to `stop`; a smaller `stop` lies behind one wrap. -/
def elapsedTicks (start stop : UInt64) : Except Fault UInt64 :=
  if stop < start then
    if start - stop ≤ timerWrap then .ok (timerWrap - (start - stop))
    else .error (.manyWraps start stop)
  else .ok (stop - start)

def kernelDuration (start stop frequency : UInt64) : Except Fault UInt64 := do
  ticksToNs (← elapsedTicks start stop) frequency

theorem ticksToNs_eq_error_iff {ticks frequency : UInt64} {e : Fault} :
    ticksToNs ticks frequency = .error e ↔ frequency = 0 ∧ e = .zeroFrequency := by
  unfold ticksToNs
  split <;> simp_all [eq_comm]

end GpuTrace
