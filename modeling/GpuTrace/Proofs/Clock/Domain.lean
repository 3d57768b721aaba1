import GpuTrace.Clock.Domain
import GpuTrace.Proofs.Clock.Anchor

/-!
# Domains — a window by way of the host clock

A kernel can be recorded in device time at once, or on the host clock and moved to device time by a
synchronization point. The first way rounds the start of the kernel once. The second rounds three
times: at the synchronization point, at the submission, and from the submission to the start. So
the moved window is as long as the recorded one, and starts at most two nanoseconds before it
(`toDeviceNs_onHost`, attained in `toDeviceNs_onHost_wrapped`).
-/

namespace GpuTrace

/-! ## Rounding in parts -/

theorem nsOf_add_nsOf_le (a b : Nat) (frequency : UInt64) :
    nsOf a frequency + nsOf b frequency ≤ nsOf (a + b) frequency := by
  unfold nsOf
  rw [Nat.add_mul]
  exact Nat.div_add_div_le_add_div

/-- Two parts that are rounded apart lose at most one nanosecond more than their sum does. -/
theorem nsOf_add_le (a b : Nat) {frequency : UInt64} (runs : 0 < frequency.toNat) :
    nsOf (a + b) frequency ≤ nsOf a frequency + nsOf b frequency + 1 := by
  unfold nsOf
  rw [Nat.add_mul, Nat.add_div runs]
  split <;> omega

/-! ## Both ways to a window -/

theorem KernelTimestamp.onDevice_eq_ok {t : KernelTimestamp} {frequency first last ran : UInt64}
    (hfirst : ticksToNs t.start frequency = .ok first)
    (hran : kernelDuration t.start t.stop frequency = .ok ran)
    (hlast : first.toNat + ran.toNat = last.toNat) : t.onDevice frequency = .ok (first, last) := by
  unfold KernelTimestamp.onDevice
  rw [hfirst, hran]
  simp only [bind, Except.bind]
  rw [Checked.add_eq_ok_iff.mpr hlast]
  rfl

theorem ClockSync.toDeviceNs_host_eq_ok {sync : ClockSync} {timestamp base moved : UInt64}
    (late : sync.hostSync < timestamp)
    (hbase : ticksToNs sync.deviceSync sync.frequency = .ok base)
    (hmoved : base.toNat + (timestamp.toNat - sync.hostSync.toNat) = moved.toNat) :
    sync.toDeviceNs timestamp .host = .ok moved := by
  have hsub : (timestamp - sync.hostSync).toNat = timestamp.toNat - sync.hostSync.toNat :=
    UInt64.toNat_sub_of_le _ _ (UInt64.le_of_lt late)
  unfold ClockSync.toDeviceNs
  rw [if_neg (UInt64.not_le.mpr late), hbase]
  exact Checked.add_eq_ok_iff.mpr (hsub.symm ▸ hmoved)

/-- Later on the clocks of the synchronization point, both of them were read together. -/
structure ClockSync.Shows (sync : ClockSync) (anchor : SubmitAnchor) : Prop where
  device : sync.deviceSync ≤ anchor.deviceTime
  host : anchor.hostTime.toNat = sync.hostSync.toNat +
    nsOf (anchor.deviceTime.toNat - sync.deviceSync.toNat) sync.frequency

/-- The window that was `moved` is as long as the `recorded` one, and at most two nanoseconds
early. -/
structure Shadows (moved recorded : UInt64 × UInt64) : Prop where
  length : ∃ ran : Nat, moved.2.toNat = moved.1.toNat + ran ∧
    recorded.2.toNat = recorded.1.toNat + ran
  early : moved.1.toNat ≤ recorded.1.toNat
  close : recorded.1.toNat ≤ moved.1.toNat + 2

section RoundTrip

variable {sync : ClockSync} {anchor : SubmitAnchor} {t : KernelTimestamp} {ran : UInt64}

/-- The start of a kernel in device time, against the three parts that lead to it by way of the
host clock. -/
theorem ClockSync.Shows.parts (shows : sync.Shows anchor) (runs : 0 < sync.frequency.toNat)
    (late : anchor.deviceTime < t.start) :
    let parts := nsOf sync.deviceSync.toNat sync.frequency +
      (nsOf (anchor.deviceTime.toNat - sync.deviceSync.toNat) sync.frequency +
        nsOf (t.start.toNat - anchor.deviceTime.toNat) sync.frequency)
    parts ≤ nsOf t.start.toNat sync.frequency ∧
      nsOf t.start.toNat sync.frequency ≤ parts + 2 := by
  have hdevice := UInt64.le_iff_toNat_le.mp shows.device
  have hlate := UInt64.lt_iff_toNat_lt.mp late
  obtain ⟨wait, hwait⟩ := Nat.exists_eq_add_of_le hdevice
  obtain ⟨shift, hshift⟩ := Nat.exists_eq_add_of_le (Nat.le_of_lt hlate)
  have hrest : anchor.deviceTime.toNat - sync.deviceSync.toNat = wait := by omega
  have hshift' : t.start.toNat - anchor.deviceTime.toNat = shift := by omega
  have hstart : t.start.toNat = sync.deviceSync.toNat + (wait + shift) := by omega
  rw [hrest, hshift', hstart]
  have hlow := nsOf_add_nsOf_le wait shift sync.frequency
  have hlow' := nsOf_add_nsOf_le sync.deviceSync.toNat (wait + shift) sync.frequency
  have hhigh := nsOf_add_le wait shift runs
  have hhigh' := nsOf_add_le sync.deviceSync.toNat (wait + shift) runs
  constructor <;> omega

/-- **A kernel recorded on the host clock and moved to device time agrees with the kernel recorded
in device time.** Both ways succeed, the two windows are of one length, and the moved one starts at
most two nanoseconds early, whatever the frequency and also if the timer wraps while the kernel
runs. -/
theorem toDeviceNs_onHost (runs : 0 < sync.frequency) (shows : sync.Shows anchor)
    (late : anchor.deviceTime < t.start) (elapsed : elapsedTicks t.start t.stop = .ok ran)
    (fits : anchor.hostTime.toNat +
        nsOf (t.start.toNat - anchor.deviceTime.toNat) sync.frequency +
        nsOf ran.toNat sync.frequency < UInt64.size)
    (fitsDevice : nsOf t.start.toNat sync.frequency + nsOf ran.toNat sync.frequency <
      UInt64.size)
    (after : sync.hostSync.toNat < anchor.hostTime.toNat +
      nsOf (t.start.toNat - anchor.deviceTime.toNat) sync.frequency) :
    ∃ (window : HostWindow) (recorded moved : UInt64 × UInt64),
      t.onHost sync.frequency anchor = .ok window ∧
      t.onDevice sync.frequency = .ok recorded ∧
      sync.toDeviceNs window.start .host = .ok moved.1 ∧
      sync.toDeviceNs window.stop .host = .ok moved.2 ∧
      Shadows moved recorded := by
  have hruns : sync.frequency ≠ 0 := Ne.symm (UInt64.ne_of_lt runs)
  have hsub : (t.start - anchor.deviceTime).toNat = t.start.toNat - anchor.deviceTime.toNat :=
    UInt64.toNat_sub_of_le _ _ (UInt64.le_of_lt late)
  obtain ⟨hlow, hhigh⟩ := shows.parts (UInt64.lt_iff_toNat_lt.mp runs) late
  have hhost := shows.host
  -- Every time on both ways is a word, since the moved window lies before the recorded one.
  obtain ⟨duration, hduration⟩ := exists_word (n := nsOf ran.toNat sync.frequency) (by omega)
  obtain ⟨base, hbase⟩ := exists_word (n := nsOf sync.deviceSync.toNat sync.frequency) (by omega)
  obtain ⟨shift, hshift⟩ := exists_word
    (n := nsOf (t.start.toNat - anchor.deviceTime.toNat) sync.frequency) (by omega)
  obtain ⟨start, hstart⟩ := exists_word (n := anchor.hostTime.toNat + shift.toNat) (by omega)
  obtain ⟨stop, hstop⟩ := exists_word (n := start.toNat + duration.toNat) (by omega)
  obtain ⟨first, hfirst⟩ := exists_word (n := nsOf t.start.toNat sync.frequency) (by omega)
  obtain ⟨last, hlast⟩ := exists_word (n := first.toNat + duration.toNat) (by omega)
  obtain ⟨moved, hmoved⟩ := exists_word
    (n := base.toNat + (start.toNat - sync.hostSync.toNat)) (by omega)
  obtain ⟨moved', hmoved'⟩ := exists_word
    (n := base.toNat + (stop.toNat - sync.hostSync.toNat)) (by omega)
  have hran : kernelDuration t.start t.stop sync.frequency = .ok duration := by
    unfold kernelDuration
    rw [elapsed]
    exact ticksToNs_eq_ok hruns hduration
  have hafter : sync.hostSync < start := UInt64.lt_iff_toNat_lt.mpr (by omega)
  have hafter' : sync.hostSync < stop := UInt64.lt_iff_toNat_lt.mpr (by omega)
  refine ⟨⟨start, stop⟩, (first, last), (moved, moved'), ?_, ?_, ?_, ?_, ?_⟩
  · exact KernelTimestamp.onHost_eq_ok late hran (ticksToNs_eq_ok hruns (hsub.symm ▸ hshift))
      hstart.symm hstop.symm
  · exact KernelTimestamp.onDevice_eq_ok (ticksToNs_eq_ok hruns hfirst) hran hlast.symm
  · exact ClockSync.toDeviceNs_host_eq_ok hafter (ticksToNs_eq_ok hruns hbase) hmoved.symm
  · exact ClockSync.toDeviceNs_host_eq_ok hafter' (ticksToNs_eq_ok hruns hbase) hmoved'.symm
  · exact ⟨⟨duration.toNat, by dsimp only; omega, hlast⟩, by dsimp only; omega,
      by dsimp only; omega⟩

end RoundTrip

/-- At three ticks per nanosecond all three parts of the start are rounded, and the moved window is
two nanoseconds early. The kernel ends behind a wrap of the timer. -/
theorem toDeviceNs_onHost_wrapped :
    (∃ (window : HostWindow) (recorded moved : UInt64 × UInt64),
      (⟨12, 5⟩ : KernelTimestamp).onHost 3000000000 ⟨101, 7⟩ = .ok window ∧
      (⟨12, 5⟩ : KernelTimestamp).onDevice 3000000000 = .ok recorded ∧
      (⟨100, 2, 3000000000⟩ : ClockSync).toDeviceNs window.start .host = .ok moved.1 ∧
      (⟨100, 2, 3000000000⟩ : ClockSync).toDeviceNs window.stop .host = .ok moved.2 ∧
      Shadows moved recorded) ∧
    (⟨12, 5⟩ : KernelTimestamp).onHost 3000000000 ⟨101, 7⟩ = .ok ⟨102, 1431655865⟩ ∧
    (⟨12, 5⟩ : KernelTimestamp).onDevice 3000000000 = .ok (4, 1431655767) ∧
    (⟨100, 2, 3000000000⟩ : ClockSync).toDeviceNs 102 .host = .ok 2 := by
  refine ⟨?_, rfl, rfl, rfl⟩
  have hran : elapsedTicks 12 5 = .ok 4294967289 := rfl
  have hshows : (⟨100, 2, 3000000000⟩ : ClockSync).Shows ⟨101, 7⟩ := ⟨by decide, by decide⟩
  exact toDeviceNs_onHost (t := ⟨12, 5⟩) (by decide) hshows (by decide) hran (by decide)
    (by decide) (by decide)

end GpuTrace
