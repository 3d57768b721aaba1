import GpuTrace.Proofs.Collector.Completion
import GpuTrace.Proofs.Profile.Stop
import GpuTrace.Proofs.Session.Deed

/-!
# Stops — what is left of a completion that did not work out

A completion takes its call out of the pending ones first, and puts it back under no fault. So one
that stops always loses its call, and the profile knows as much of it as it was told before the
fault (`complete_stops_iff`). A call on a device that is not in the device map is counted, but has
no interval and no notice, and is not pending any more (`half_completed_unmapped`).
-/

namespace GpuTrace

open Fallible

namespace Tracing

/-- How the completion of a call stops: with which fault, and with which profile. -/
inductive Tears (t : Tracing) : Call → Fault → Profile → Prop
  | dangling {call e} (lost : t.registry.command call.command = .error e) :
      Tears t call e t.profile
  | timeless {call c e} (found : t.registry.command call.command = .ok c)
      (answer : t.driver.kernelTimestamp c.event = .error e) :
      Tears t call (.timestampUnavailable e) t.profile
  | unplaced {call c timestamp e} (found : t.registry.command call.command = .ok c)
      (answer : t.driver.kernelTimestamp c.event = .ok timestamp)
      (misplaced : timestamp.onHost c.frequency call.anchor = .error e) :
      Tears t call e t.profile
  | unfinished {e p} {f : Finished} (found : t.registry.command f.call.command = .ok f.command)
      (answer : t.driver.kernelTimestamp f.command.event = .ok f.timestamp)
      (stops : f.Stops t.profile e p) : Tears t f.call e p

variable {t t' : Tracing} {before after : List Call} {call : Call} {e : Fault}

/-- **A completion that stops has lost its call.** It is not pending any more, the other calls are,
and the profile is the one that the fault left behind; nothing else changed. -/
theorem complete_stops_iff (hp : t.registry.pending = before ++ call :: after) :
    complete before.length t = .error e t' ↔
      ∃ p, t.Tears call e p ∧ t' = t.settled (before ++ after) p := by
  rw [eq_error_iff_ends]
  constructor
  · intro h
    cases hc : t.registry.command call.command with
    | error lost =>
      obtain ⟨rfl, rfl⟩ := (ends_complete_of_lost hp hc).mp h
      exact ⟨t.profile, .dangling hc, rfl⟩
    | ok c =>
      rw [ends_complete hp hc] at h
      cases hticks : t.driver.kernelTimestamp c.event with
      | error refusal =>
        rw [hticks] at h
        obtain ⟨rfl, rfl⟩ := h
        exact ⟨t.profile, .timeless hc hticks, rfl⟩
      | ok timestamp =>
        rw [hticks] at h
        dsimp only at h
        cases hwindow : timestamp.onHost c.frequency call.anchor with
        | error misplaced =>
          obtain ⟨rfl, rfl⟩ := h.of_error (Profile.finish_of_unplaced hwindow)
          exact ⟨t.profile, .unplaced hc hticks hwindow, rfl⟩
        | ok window =>
          cases hfinish : Profile.finish call c timestamp t.profile with
          | ok _ p => exact (h.of_ok hfinish).elim
          | error e' p =>
            obtain ⟨rfl, rfl⟩ := h.of_error hfinish
            exact ⟨p, .unfinished (f := ⟨call, c, timestamp, window, hwindow⟩) hc hticks
              (Profile.finish_stops_iff.mp hfinish), rfl⟩
  · rintro ⟨p, htears, rfl⟩
    cases htears with
    | dangling lost => exact (ends_complete_of_lost hp lost).mpr ⟨rfl, rfl⟩
    | timeless found answer =>
      rw [ends_complete hp found, answer]
      exact ⟨rfl, rfl⟩
    | unplaced found answer misplaced =>
      rw [ends_complete hp found, answer]
      exact ends_of_error (Profile.finish_of_unplaced misplaced) ⟨rfl, rfl⟩
    | unfinished found answer stops =>
      rw [ends_complete hp found, answer]
      exact ends_of_error (Profile.finish_stops_iff.mpr stops) ⟨rfl, rfl⟩

end Tracing

namespace Session

/-- A device is added after the devices were mapped, and a barrier on it is executed and
signalled. -/
def unmapped : Session :=
  (of .standard 7).run
    [.addDevice 1000 0, .create .default true, .addDevice 1000 0,
      .exitListCreate ⟨50⟩ ⟨60⟩ ⟨3⟩ false (.ok ()), .enterAppend 0 ⟨50⟩ .barrier none,
      .exitAppend 0 (.ok ()), .enterExecute 0 ⟨70⟩ [⟨50⟩], .exitExecute 0 (.ok ()),
      .signal ⟨5⟩ ⟨10, 20⟩]

/-- The completion of the barrier stops behind the kernel table. -/
theorem complete_stops_iff_unmapped : ∃ (t : Tracing) (call : Call) (p : Profile),
    t.registry.pending = [] ++ call :: [] ∧ t.Tears call (.deviceNotMapped ⟨3⟩) p ∧
      t.profile.kernels.size = 0 ∧ p.kernels.size = 1 := by
  have hcollector : unmapped.collector.isSome = true := by decide +kernel
  have hone : ∀ c ∈ unmapped.collector, c.registry.pending.length = 1 := by decide +kernel
  have hnone : ∀ c ∈ unmapped.collector, c.profile.kernels.size = 0 := by decide +kernel
  have hstops : ∀ c ∈ unmapped.collector,
      (match Tracing.complete 0 (unmapped.tracing c) with
      | .ok .. => none
      | .error e t' => some (e, t'.profile.kernels.size)) = some (.deviceNotMapped ⟨3⟩, 1) := by
    decide +kernel
  obtain ⟨c, hc⟩ := Option.isSome_iff_exists.mp hcollector
  obtain ⟨call, hcall⟩ := List.length_eq_one_iff.mp (hone c hc)
  have hp : (unmapped.tracing c).registry.pending = [] ++ call :: [] := hcall
  have hfault := hstops c hc
  cases hcomplete : Tracing.complete 0 (unmapped.tracing c) with
  | ok finish t' =>
    rw [hcomplete] at hfault
    cases hfault
  | error e t' =>
    rw [hcomplete, Option.some.injEq, Prod.mk.injEq] at hfault
    obtain ⟨rfl, hsize⟩ := hfault
    obtain ⟨p, htears, rfl⟩ := (Tracing.complete_stops_iff hp).mp hcomplete
    exact ⟨unmapped.tracing c, call, p, hp, htears, hnone c hc, hsize⟩

/-- **Completing a call is not all or nothing.** The call is in the kernel table, but it has no
interval and no notice, and it is not pending any more, so no later sweep completes it. -/
theorem half_completed_unmapped :
    unmapped.collector.map (·.pendingCount) = some 1 ∧
      unmapped.collector.map (·.profile.kernels.size) = some 0 ∧
      (unmapped.step .processCalls).1 = .error (.deviceNotMapped ⟨3⟩) ∧
      (next unmapped .processCalls).collector.map (·.pendingCount) = some 0 ∧
      (next unmapped .processCalls).collector.map (·.profile.kernels.size) = some 1 ∧
      (next unmapped .processCalls).collector.map (·.profile.intervals.size) = some 0 ∧
      (next unmapped .processCalls).journal.notices.size = 0 := by
  refine ⟨?_, ?_, ?_, ?_, ?_, ?_, ?_⟩
  · decide +kernel
  · decide +kernel
  · decide +kernel
  · decide +kernel
  · decide +kernel
  · decide +kernel
  · decide +kernel

end Session

end GpuTrace
