import GpuTrace.Proofs.Collector.Sweep
import GpuTrace.Proofs.Session.Waiting

/-!
# Sweeps of a session — finishing all calls that can be

The action that completes all calls answers how many there were, tells of them in their order, and
leaves the others pending; of the session it changes nothing else (`step_processCalls`). Done
twice, the second time it does nothing (`sweep_partitions`).
-/

namespace GpuTrace

open Fallible

namespace Tracing

variable {t : Tracing} {p : Profile} {finishes : List KernelFinish}

theorem processCalls_finalizes (hwf : t.registry.WellFormed) (answered : t.Answered)
    (finalizes : t.Finalizes t.profile (t.ready t.registry.pending) finishes p) :
    Ends processCalls t
      (fun n t' => n = finishes.length ∧ ∃ notices,
        t' = { t.settled (t.waiting t.registry.pending) p with
          journal := { t.journal with notices } } ∧
        told t'.journal = told t.journal ++ if t.collector.notifies then finishes else [])
      (fun _ _ => False) := by
  unfold processCalls
  rw [ends_bind]
  refine ends_of_ok ((sweep_eq_ok_iff hwf).mpr ⟨answered, p, finalizes, rfl⟩) ?_
  rw [ends_bind]
  refine (notify_told finishes).imp_ok ?_
  rintro - _ ⟨notices, rfl, htold⟩
  rw [ends_pure]
  exact ⟨rfl, notices, rfl, htold⟩

theorem Unsignalled.congr {t' : Tracing} {ref : CommandRef} (h : t.Unsignalled ref)
    (found : t'.registry.command ref = t.registry.command ref)
    (same : ∀ event, t'.driver.eventStatus event = t.driver.eventStatus event) :
    t'.Unsignalled ref := by
  obtain ⟨c, hc, hstatus⟩ := unsignalled_iff.mp h
  exact unsignalled_iff.mpr ⟨c, found.trans hc, (same c.event).trans hstatus⟩

end Tracing

namespace Session

open Tracing

variable {s : Session} {c : Collector} {p : Profile} {finishes : List KernelFinish}

theorem step_processCalls (hc : s.collector = some c) (hwf : c.registry.WellFormed)
    (answered : (s.tracing c).Answered)
    (finalizes : (s.tracing c).Finalizes c.profile ((s.tracing c).ready c.registry.pending)
      finishes p) :
    ∃ notices, s.step .processCalls = (.ok (.count finishes.length),
        { s.after ((s.tracing c).settled ((s.tracing c).waiting c.registry.pending) p) with
          journal := { s.journal with notices } }) ∧
      told { s.journal with notices } =
        told s.journal ++ if c.notifies then finishes else [] := by
  obtain ⟨n, t', hcalls, rfl, notices, rfl, htold⟩ :=
    (processCalls_finalizes (t := s.tracing c) hwf answered finalizes).exists_ok
  refine ⟨notices, ?_, htold⟩
  refine step_eq_of_ends (ends_bind.mpr ?_)
  rw [ends_trace, hc]
  exact ends_of_ok hcalls ⟨rfl, rfl⟩

/-- **A sweep splits the pending calls.** Let each pending event be not ready, or ready with its
ticks, and let the ready calls finish one after the other. Then the sweep, and so the loop over
positions, ends with the notices of the ready calls, in order. It keeps the calls that wait, in
order, and changes nothing else of the collector and nothing of the driver. The action that
completes all calls answers how many there were and tells of them, if the application wants to
know. A second sweep finishes nothing as long as the driver says the same of the events. -/
theorem sweep_partitions (driver : Driver) (now : UInt64) (actions : List Action) (c : Collector)
    (hc : ((Session.of driver now).run actions).collector = some c)
    (answered : (((Session.of driver now).run actions).tracing c).Answered)
    (finishes : List KernelFinish) (p : Profile)
    (finalizes : (((Session.of driver now).run actions).tracing c).Finalizes c.profile
      ((((Session.of driver now).run actions).tracing c).ready c.registry.pending) finishes p) :
    let s := (Session.of driver now).run actions
    let t := s.tracing c
    let t' := t.settled (c.registry.pending.filter fun call => t.Unsignalled call.command) p
    let s' := next s .processCalls
    List.Forall₂ (Finishes t) (t.ready c.registry.pending) finishes ∧
    sweep t = .ok finishes t' ∧ sweepLoop 0 [] t = .ok finishes t' ∧
    (s.step .processCalls).1 = .ok (.count finishes.length) ∧
    (∃ notices, s' = { s.after t' with journal := { s.journal with notices } }) ∧
    (told s'.journal = told s.journal ++ if c.notifies then finishes else []) ∧
    s'.step .processCalls = (.ok (.count 0), s') ∧
    ∀ driver' now', (∀ event, driver'.eventStatus event = s.driver.eventStatus event) →
      sweep { t' with driver := driver', now := now' } =
        .ok [] { t' with driver := driver', now := now' } := by
  intro s t t' s'
  have hwf : t.registry.WellFormed := registryWellFormed_run driver now actions c hc
  have ht' : t.settled (t.waiting t.registry.pending) p = t' :=
    congrArg (t.settled · p) (answered.waiting_eq hwf)
  have hsweep : sweep t = .ok finishes t' := by
    rw [← ht']
    exact (sweep_eq_ok_iff hwf).mpr ⟨answered, p, finalizes, rfl⟩
  obtain ⟨notices, hstep, htold⟩ := step_processCalls hc hwf answered finalizes
  have hnext : s' = { s.after t' with journal := { s.journal with notices } } := by
    rw [← ht']
    exact congrArg Prod.snd hstep
  have hwaits : ∀ call ∈ t'.registry.pending, t.Unsignalled call.command := by
    intro call hcall
    exact of_decide_eq_true (List.mem_filter.mp hcall).2
  refine ⟨finalizes.notices, hsweep, (sweepLoop_zero t).trans hsweep,
    congrArg Prod.fst hstep, ⟨notices, hnext⟩, ?_, ?_, ?_⟩
  · rw [hnext]
    exact htold
  · -- what is pending now waits, as it did before the sweep
    have hc' : s'.collector = some t'.collector := by rw [hnext]; rfl
    have hwf' : t'.collector.registry.WellFormed :=
      (registryWellFormed_run driver now actions).next .processCalls _ hc'
    refine ((waits_iff hc' hwf').mpr fun call hcall => ?_).1
    rw [hnext]
    exact (hwaits call hcall).congr rfl fun _ => rfl
  · intro driver' now' same
    apply sweep_waiting
    intro call hcall
    exact (hwaits call hcall).congr rfl same

def oneOfThreeWaits : List Action :=
  [.addDevice 1000 0, .create .default true, .exitListCreate ⟨50⟩ ⟨60⟩ ⟨1⟩ false (.ok ()),
    .enterAppend 0 ⟨50⟩ .barrier none, .exitAppend 0 (.ok ()),
    .enterAppend 1 ⟨50⟩ .barrier none, .exitAppend 1 (.ok ()),
    .enterAppend 2 ⟨50⟩ .barrier none, .exitAppend 2 (.ok ()),
    .enterExecute 0 ⟨70⟩ [⟨50⟩, ⟨50⟩], .exitExecute 0 (.ok ()),
    .signal ⟨4⟩ ⟨10, 20⟩, .signal ⟨8⟩ ⟨30, 40⟩]

/-- The calls of the second barrier are kept, between those that finish. -/
theorem sweep_partitions_oneOfThreeWaits :
    let s := (Session.of .standard 7).run oneOfThreeWaits
    ∃ c finishes, s.collector = some c ∧
      finishes.map (·.id) = ["1.1", "3.1", "1.2", "3.2"] ∧
      (s.step .processCalls).1 = .ok (.count finishes.length) ∧
      told (next s .processCalls).journal = finishes ∧
      (next s .processCalls).step .processCalls = (.ok (.count 0), next s .processCalls) := by
  intro s
  have hsome : s.collector.isSome = true := by decide +kernel
  obtain ⟨c, hc⟩ := Option.isSome_iff_exists.mp hsome
  have hsweep : ∀ c ∈ s.collector, c.notifies = true ∧ told s.journal = [] ∧
      Ends sweep (s.tracing c)
        (fun finishes _ => finishes.map (·.id) = ["1.1", "3.1", "1.2", "3.2"])
        (fun _ _ => False) := by
    decide +kernel
  obtain ⟨hnotifies, htold, hends⟩ := hsweep c hc
  have hwf : (s.tracing c).registry.WellFormed :=
    registryWellFormed_run .standard 7 oneOfThreeWaits c hc
  obtain ⟨finishes, t', hresult, hids⟩ := hends.exists_ok
  obtain ⟨answered, p, finalizes, -⟩ := (sweep_eq_ok_iff hwf).mp hresult
  obtain ⟨-, -, -, hcount, -, hnotices, hagain, -⟩ :=
    sweep_partitions .standard 7 oneOfThreeWaits c hc answered finishes p finalizes
  refine ⟨c, finishes, hc, hids, hcount, ?_, hagain⟩
  rw [hnotices, if_pos hnotifies]
  show told s.journal ++ finishes = finishes
  rw [htold, List.nil_append]

end Session

end GpuTrace
