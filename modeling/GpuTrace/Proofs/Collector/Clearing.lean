import GpuTrace.Collector.Lifetime
import GpuTrace.Proofs.Collector.Order
import GpuTrace.Proofs.Driver.Reports
import GpuTrace.Proofs.Profile.Capacity

/-!
# Clearing — completions that leave no call behind

If every pending call can be finished and added to the profile, a sweep takes in all of them, in
order, and leaves none (`processCalls_adds`); a question for the event of a call that waits alone
does the same (`processEvent_adds`). With nothing pending a sweep does nothing (`sweep_idle`).

`Added` is what the profile and the application got in the end, as one history over any number of
steps.
-/

namespace GpuTrace.Tracing

open Fallible Profile

variable {t t₁ t₂ : Tracing} {fs gs : List Finished}

/-- A call whose event has completed finishes with the ticks of the event. -/
theorem finished?_of_completed {call : Call} {c : Command} {timestamp : KernelTimestamp}
    (hc : t.registry.command call.command = .ok c)
    (hdone : t.driver.Completed c.event timestamp) :
    t.finished? call = Finished.of? call c timestamp := by
  simp [finished?, hc, hdone.1, hdone.2, Except.toOption]

/-- The calls were added to the profile and told of, in order. -/
structure Added (t : Tracing) (fs : List Finished) (t' : Tracing) : Prop where
  adds : AddsAll t.profile fs t'.profile
  notifies : t'.collector.notifies = t.collector.notifies
  told : told t'.journal = Tracing.told t.journal ++
    if t.collector.notifies then fs.map (·.notice) else []

theorem Added.trans (h : Added t fs t₁) (h' : Added t₁ gs t₂) : Added t (fs ++ gs) t₂ where
  adds := h.adds.append h'.adds
  notifies := h'.notifies.trans h.notifies
  told := by
    rw [h'.told, h.told, h.notifies, List.append_assoc]
    cases t.collector.notifies <;> simp

theorem Added.of_eq (hprofile : t₁.profile = t.profile)
    (hnotifies : t₁.collector.notifies = t.collector.notifies)
    (hnotices : t₁.journal.notices = t.journal.notices) : Added t [] t₁ where
  adds := by
    rw [hprofile]
    exact .nil _
  notifies := hnotifies
  told := by simp [Tracing.told, hnotices]

structure CallsAdded (t : Tracing) (fs : List Finished) (t' : Tracing) : Prop where
  state : ∃ p notices, t' = { t.settled [] p with journal := { t.journal with notices } }
  added : Added t fs t'

theorem notify_adds {p : Profile} (hadds : AddsAll t.profile fs p) :
    Ends (notify (fs.map (·.notice))) (t.settled [] p) (fun _ t' => CallsAdded t fs t')
      (fun _ _ => False) := by
  refine (notify_told _).imp_ok ?_
  rintro - _ ⟨notices, rfl, htold⟩
  exact ⟨⟨p, notices, rfl⟩, hadds, rfl, htold⟩

/-- **A sweep over calls that all can be finished and added** takes in all of them. -/
theorem processCalls_adds (h : t.registry.WellFormed)
    (hready : ∀ call ∈ t.registry.pending, ∃ f, t.finished? call = some f) {p : Profile}
    (hadds : AddsAll t.profile t.signalled p) :
    Ends processCalls t (fun _ t' => CallsAdded t t.signalled t') (fun _ _ => False) := by
  have hclear : t.Clear t.registry.pending := fun call hcall => .inr (hready call hcall)
  have hwaiting : t.waiting t.registry.pending = [] := by
    refine List.filter_eq_nil_iff.mpr fun call hcall => ?_
    obtain ⟨f, hf⟩ := hready call hcall
    simp [isReady_of_finished? hf]
  unfold processCalls sweep
  simp only [ends_bind, ends_get]
  refine (sweepFrom_clears [] h rfl).imp ?_ fun _ _ hstops => hstops ⟨hclear, p, hadds⟩
  rintro _ _ ⟨-, p', hadds', rfl, rfl⟩
  simp only [ends_pure]
  rw [hwaiting]
  exact notify_adds hadds'

/-- A question for the event of the only pending call completes that call. -/
theorem processEvent_adds (h : t.registry.WellFormed) {call : Call} {event : EventHandle}
    {f : Finished} (hpending : t.registry.pending = [call])
    (hwaits : t.registry.waitsFor event call = true) (hf : t.finished? call = some f)
    {p : Profile} (hadds : Adds t.profile f p) :
    Ends (processEvent event) t (fun _ t' => CallsAdded t [f] t') (fun _ _ => False) := by
  have hready := isReady_of_finished? hf
  have hstatus : t.driver.eventStatus event = .ready := by
    rw [isReady_of_waitsFor hwaits] at hready
    exact of_decide_eq_true hready
  unfold processEvent
  rw [ends_bind]
  refine ends_completeEvent h (fun hnone => ?_) fun before call' after hsplit _ _ => ?_
  · rw [hnone call (hpending ▸ List.mem_singleton_self call)] at hwaits
    cases hwaits
  · -- The call that was found is the only one.
    obtain ⟨rfl, rfl, rfl⟩ : before = [] ∧ call = call' ∧ after = [] := by
      rw [hpending] at hsplit
      cases before with
      | nil =>
        obtain ⟨hcall, hafter⟩ := List.cons.inj hsplit
        exact ⟨rfl, hcall, hafter.symm⟩
      | cons first before =>
        have hlength := congrArg List.length hsplit
        simp at hlength
    rw [hstatus]
    refine (complete_clears h hsplit hready).imp ?_ fun _ _ hstops => hstops f hf p hadds
    rintro _ _ ⟨f', p', hf', rfl, hadds', rfl⟩
    obtain rfl := Option.some.inj (hf.symm.trans hf')
    simp only [ends_bind, ends_pure]
    exact notify_adds (.cons hadds' (.nil _))

/-! ## Nothing pending -/

theorem sweep_idle (h : t.registry.pending = []) : sweep t = .ok [] t := by
  unfold sweep
  refine (bind_of_ok rfl).trans ?_
  rw [h]
  rfl

theorem processCalls_idle (h : t.registry.pending = []) : processCalls t = .ok 0 t := by
  unfold processCalls
  exact (bind_of_ok (sweep_idle h)).trans ((bind_of_ok (notify_nil t)).trans rfl)

/-- The teardown of a list then only frees and destroys. -/
theorem ends_drainAndFree_idle (h : t.registry.pending = [])
    {take : Fallible Registry (Array Command)} {Q : Unit → Tracing → Prop}
    {E : Fault → Tracing → Prop} :
    Ends (drainAndFree take) t Q E ↔
      Ends take t.registry
        (fun commands r => Ends (releaseCommands commands.toList) (t.withRegistry r) Q E)
        (fun e r => E e (t.withRegistry r)) := by
  have hnotify : ∀ t' : Tracing, ∀ Q' : Unit → Tracing → Prop,
      Ends (notify []) t' Q' E ↔ Q' () t' := fun t' Q' => ends_iff_of_ok (notify_nil t')
  unfold drainAndFree
  rw [ends_bind, ends_iff_of_ok (sweep_idle h)]
  simp only [ends_bind, ends_onRegistry, hnotify]

end GpuTrace.Tracing
