import GpuTrace.Program.Workload
import GpuTrace.Proofs.Clock.Domain
import GpuTrace.Proofs.Collector.Frame
import GpuTrace.Proofs.Driver.Reports

/-!
# Signals of the workload — one operation behind the other

The timer of the workload counts nanoseconds, so ticks are durations on both clocks
(`onHost_timer`, `onDevice_timer`). An operation takes longer the later its place is and with each
submission, but never as long as `longest`, and the signals of a submission complete every event
with just the ticks of its place (`signalAll_ends`).
-/

namespace GpuTrace

open Fallible Tracing

namespace Workload

/-! ## The timer -/

theorem nsOf_timer (ticks : Nat) : nsOf ticks timerFrequency = ticks :=
  Nat.mul_div_cancel ticks (by decide)

theorem ticksToNs_timer (ticks : UInt64) : ticksToNs ticks timerFrequency = .ok ticks :=
  ticksToNs_eq_ok (by decide) (nsOf_timer _).symm

theorem kernelDuration_timer {start stop : UInt64} (h : start ≤ stop) :
    kernelDuration start stop timerFrequency = .ok (stop - start) := by
  unfold kernelDuration elapsedTicks
  rw [if_neg (UInt64.not_lt.mpr h)]
  exact ticksToNs_timer _

section Windows

variable {timestamp : KernelTimestamp} {anchor : SubmitAnchor}

theorem onHost_timer (hlate : anchor.deviceTime < timestamp.start)
    (hle : timestamp.start ≤ timestamp.stop)
    (hfits : anchor.hostTime.toNat + timestamp.stop.toNat < UInt64.size) :
    ∃ window, timestamp.onHost timerFrequency anchor = .ok window := by
  have hshift := UInt64.toNat_sub_of_le _ _ (UInt64.le_of_lt hlate)
  have hran := UInt64.toNat_sub_of_le _ _ hle
  have hlate' := UInt64.lt_iff_toNat_lt.mp hlate
  have hle' := UInt64.le_iff_toNat_le.mp hle
  obtain ⟨start, -, hstart⟩ := Checked.add_of_fits (a := anchor.hostTime)
    (b := timestamp.start - anchor.deviceTime) (by omega)
  obtain ⟨stop, -, hstop⟩ := Checked.add_of_fits (a := start)
    (b := timestamp.stop - timestamp.start) (by omega)
  exact ⟨⟨start, stop⟩, KernelTimestamp.onHost_eq_ok hlate (kernelDuration_timer hle)
    (ticksToNs_timer _) hstart.symm hstop.symm⟩

theorem onDevice_timer (hle : timestamp.start ≤ timestamp.stop) :
    timestamp.onDevice timerFrequency = .ok (timestamp.start, timestamp.stop) := by
  have hran := UInt64.toNat_sub_of_le _ _ hle
  have hle' := UInt64.le_iff_toNat_le.mp hle
  exact KernelTimestamp.onDevice_eq_ok (ticksToNs_timer _) (kernelDuration_timer hle) (by omega)

end Windows

/-! ## Operations one behind the other -/

/-- No operation takes as many ticks, with the pause before it. -/
def longest : Nat := 4000000000

def ticksAt (submission place : Nat) : Nat :=
  100 + 37 * place + 11 * submission

theorem ticksAt_lt {submission place : Nat} (hplace : place < 100000002) (hsub : submission < 2) :
    20 + ticksAt submission place < longest := by
  unfold ticksAt longest
  omega

theorem operationTicks_of_fits {place : Nat} {submission : UInt64} (hplace : place < 100000002)
    (hsub : submission.toNat < 2) :
    ∃ ticks, operationTicks place submission = .ok ticks ∧
      ticks.toNat = ticksAt submission.toNat place := by
  have hword : (UInt64.ofNat place).toNat = place :=
    UInt64.toNat_ofNat_of_lt' (Nat.lt_trans hplace (by decide))
  have hsize : UInt64.size = 18446744073709551616 := rfl
  have h11 : (11 : UInt64).toNat = 11 := rfl
  have h37 : (37 : UInt64).toNat = 37 := rfl
  have h100 : (100 : UInt64).toNat = 100 := rfl
  obtain ⟨later, hmul, hlater⟩ :=
    Checked.mul_of_fits (a := 37) (b := .ofNat place) (by rw [hword, h37]; omega)
  rw [hword, h37] at hlater
  obtain ⟨base, hadd, hbase⟩ := Checked.add_of_fits (a := 100) (b := later) (by omega)
  obtain ⟨extra, hmul', hextra⟩ :=
    Checked.mul_of_fits (a := 11) (b := submission) (by rw [h11]; omega)
  rw [h11] at hextra
  obtain ⟨ticks, hadd', hticks⟩ := Checked.add_of_fits (a := base) (b := extra) (by omega)
  refine ⟨ticks, ?_, by unfold ticksAt; omega⟩
  unfold operationTicks
  simp only [hmul, hmul', hadd, hadd', bind, Except.bind]

/-- The operations from `place` on ran one behind the other between two ticks. -/
def Ran (submission place : Nat) (events : List EventHandle) (start stop : UInt64) (d : Driver) :
    Prop :=
  ∀ i event, events[i]? = some event → ∃ timestamp, d.Completed event timestamp ∧
    start < timestamp.start ∧
    timestamp.stop.toNat = timestamp.start.toNat + ticksAt submission (place + i) ∧
    timestamp.stop ≤ stop

/-- **The signals of a submission** complete its events with the ticks of their places, and no other
event. -/
theorem signalAll_ends {submission : UInt64} (hsub : submission.toNat < 2)
    (events : List EventHandle) (place : Nat) (ticks : UInt64) {t : Tracing}
    (hnodup : events.Nodup) (halive : ∀ event ∈ events, t.driver.isAlive event = true)
    (hplace : place + events.length ≤ 100000002)
    (hfits : ticks.toNat + longest * events.length < UInt64.size) :
    Ends (signalAll submission place events ticks) t
      (fun stop t' => ∃ d, t' = { t with driver := d } ∧ t.driver.Reports d ∧
        (∀ event ∉ events, d.events.get? event = t.driver.events.get? event) ∧
        ticks ≤ stop ∧ stop.toNat ≤ ticks.toNat + longest * events.length ∧
        Ran submission.toNat place events ticks stop d)
      (fun _ _ => False) := by
  induction events generalizing place ticks t with
  | nil =>
    exact ⟨t.driver, rfl, refl_of Driver.Reports _, fun _ _ => rfl, UInt64.le_refl _,
      Nat.le_refl _, nofun⟩
  | cons event events ih =>
    obtain ⟨hfresh, hnodup⟩ := List.nodup_cons.mp hnodup
    obtain ⟨hfirst, hrest⟩ := List.forall_mem_cons.mp halive
    rw [List.length_cons] at hplace hfits
    rw [Nat.mul_succ] at hfits
    have h20 : (20 : UInt64).toNat = 20 := rfl
    have hfirstPlace : place < 100000002 := by omega
    obtain ⟨ran, hran, hranNat⟩ := operationTicks_of_fits hfirstPlace hsub
    have hlt := ticksAt_lt hfirstPlace hsub
    obtain ⟨start, hadd, hstart⟩ := Checked.add_of_fits (a := ticks) (b := 20) (by omega)
    obtain ⟨stop, hadd', hstop⟩ := Checked.add_of_fits (a := start) (b := ran) (by omega)
    obtain ⟨d₁, hd₁⟩ := Driver.signal_eq_ok hfirst ⟨start, stop⟩
    have hreports := Driver.signal_reports hd₁
    unfold signalAll
    simp only [ends_bind, ends_lift, ends_updateDriver, hadd, hran, hadd', hd₁]
    refine (ih (place + 1) stop (t := { t with driver := d₁ }) hnodup ?_ (by omega)
      (by omega)).imp_ok ?_
    · exact fun other hother => (hreports.alive).trans (hrest other hother)
    · rintro last _ ⟨d₂, rfl, hreports₂, hother, hle, hlast, hran₂⟩
      have hle' := UInt64.le_iff_toNat_le.mp hle
      refine ⟨d₂, rfl, trans_of Driver.Reports hreports hreports₂, ?_, ?_, ?_, ?_⟩
      · intro other hnot
        rw [List.mem_cons, not_or] at hnot
        exact (hother other hnot.2).trans (Driver.signal_get? hd₁ hnot.1)
      · rw [UInt64.le_iff_toNat_le]
        omega
      · rw [List.length_cons, Nat.mul_succ]
        omega
      · intro i other hi
        cases i with
        | zero =>
          cases hi
          have hdone := (Driver.signal_completes hfirst hd₁).of_get? (hother _ hfresh)
          refine ⟨_, hdone, ?_, ?_, hle⟩
          · rw [UInt64.lt_iff_toNat_lt]
            show ticks.toNat < start.toNat
            omega
          · show stop.toNat = start.toNat + _
            rw [hstop, hranNat]
            rfl
        | succ i =>
          obtain ⟨timestamp, hdone, hlate, hticks, hbefore⟩ := hran₂ i other hi
          refine ⟨timestamp, hdone, ?_, ?_, hbefore⟩
          · rw [UInt64.lt_iff_toNat_lt] at hlate ⊢
            omega
          · rw [hticks, Nat.add_assoc, Nat.add_comm 1 i]

end Workload

end GpuTrace
