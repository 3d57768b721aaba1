import GpuTrace.Proofs.Clock.Narrowing
import GpuTrace.Proofs.Profile.History

/-!
# Punctual calls — the times in a notice are in order

A notice has four times: of the append, of the submission, and of the start and the end of the kernel
on the host clock. The last two come after the submission by construction, since no sum of times
wraps. The first comes before it if the call is in time, and then finishing it never stops at the
comparison of these two times (`finish_in_time`).
-/

namespace GpuTrace

open Fallible

namespace Finished

variable {f : Finished}

/-- The times in the notice of a call are in order. Start and end are as far from the submission as
the ticks of the device say; the wait until the start is exact if it is less than `2 ^ 64`
nanoseconds long. -/
structure InTime (f : Finished) : Prop where
  appended_le : f.notice.appended ≤ f.notice.submitted
  submitted_le : f.notice.submitted ≤ f.notice.started
  started_le : f.notice.started ≤ f.notice.ended
  late : f.call.anchor.deviceTime < f.timestamp.start
  waited : nsOf (f.timestamp.start.toNat - f.call.anchor.deviceTime.toNat) f.command.frequency <
      UInt64.size →
    (f.notice.started - f.notice.submitted).toNat =
      nsOf (f.timestamp.start.toNat - f.call.anchor.deviceTime.toNat) f.command.frequency
  ran : kernelDuration f.timestamp.start f.timestamp.stop f.command.frequency =
    .ok (f.notice.ended - f.notice.started)

/-- No sum of times wraps, so only the submission can come too early. -/
theorem inTime (f : Finished) (h : f.command.appendTime ≤ f.call.anchor.hostTime) : f.InTime := by
  obtain ⟨hlate, shift, ran, hshift, hran, hstart, hstop⟩ := KernelTimestamp.onHost_cases f.placed
  have hsubmitted : f.call.anchor.hostTime ≤ f.window.start := by
    rw [UInt64.le_iff_toNat_le]
    omega
  have hstarted : f.window.start ≤ f.window.stop := by
    rw [UInt64.le_iff_toNat_le]
    omega
  refine ⟨h, hsubmitted, hstarted, hlate, fun hfits => ?_, f.kernelDuration_eq⟩
  have hruns : f.command.frequency ≠ 0 := by
    intro hzero
    rw [hzero] at hshift
    cases hshift
  obtain ⟨ns, hns, hlow⟩ := toNat_ticksToNs hruns (f.timestamp.start - f.call.anchor.deviceTime)
  obtain rfl : shift = ns := Except.ok.inj (hshift.symm.trans hns)
  rw [UInt64.toNat_sub_of_le _ _ (UInt64.le_of_lt hlate), Nat.mod_eq_of_lt hfits] at hlow
  show (f.window.start - f.call.anchor.hostTime).toNat = _
  rw [UInt64.toNat_sub_of_le _ _ hsubmitted, ← hlow]
  omega

end Finished

/-- **A call that was submitted after its append** is never refused for the order of the two, and
the times in its notice are in order. -/
theorem Profile.finish_in_time {call : Call} {command : Command}
    (h : command.appendTime ≤ call.anchor.hostTime) (timestamp : KernelTimestamp) (p : Profile) :
    Ends (finish call command timestamp) p
      (fun finish _ => ∃ f, Finished.of? call command timestamp = some f ∧ finish = f.notice ∧
        f.InTime)
      (fun e _ => ¬ e.IsEarly) := by
  refine ((finish_ends call command timestamp).and
    (finish_throws_early call command timestamp p)).imp ?_ ?_
  · rintro finish p' ⟨⟨f, hf, hnotice, -⟩, -⟩
    obtain ⟨rfl, rfl, rfl⟩ := Finished.of?_cases hf
    exact ⟨f, hf, hnotice, f.inTime h⟩
  · rintro e p' ⟨-, hmeasure | ⟨hearly, -⟩⟩
    · exact hmeasure.not_early
    · exact absurd h (UInt64.not_le.mpr hearly)

end GpuTrace
