import GpuTrace.Proofs.Collector.Refusal
import GpuTrace.Proofs.Session.Touch

/-!
# Refusals — driver failures in any state that can come up

All handles of a driver were given by it, whatever was done to it before, so what the tracer makes
is new and can be taken back. This is all that is asked of the state: the collector may be any, and
a failure leaves it and the driver's objects as they were (`refusals_leave_no_trace`).
-/

namespace GpuTrace.Session

open Fallible

theorem run_numbered (version : ApiVersion) (backend : Backend) (now : UInt64)
    (actions : List Action) :
    ((Session.of (.of version backend) now).run actions).driver.Numbered :=
  (run_evolves actions).numbered (Driver.numbered_of version backend)

/-- **Driver failures leave no trace.** A hook behind a refused call changes nothing of the
collector and gives no notice. An append that is not traced, since tracing is off or its event could
not be made, leaves the collector, the application's event and the driver's objects as they were,
and so does one that is traced once the driver has refused it. -/
theorem refusals_leave_no_trace (version : ApiVersion) (backend : Backend) (now : UInt64)
    (actions : List Action) (t : Tracing)
    (reached : t.driver = ((Session.of (.of version backend) now).run actions).driver) :
    (∀ (hook : Tracing.ExitHook) (e : DriverError), ∃ t', hook.run (.error e) t = .ok () t' ∧
      t'.collector = t.collector ∧ t'.journal.notices = t.journal.notices ∧
      ((∀ inFlight, hook ≠ .append inFlight) → t' = t)) ∧
    ∀ (list : CommandListHandle) (op : Operation) (signal : Option EventHandle)
      (answer : AppendAnswer) (t' : Tracing),
      Tracing.enterAppend list op signal t = .ok answer t' →
      (answer.inFlight = none → answer.signal = signal ∧ t.Traceless t' ∧
        (t.collector.enabled = false ∨ signal = none ∧ ¬ t.driver.MakesEvents)) ∧
      ∀ append e, answer.inFlight = some append →
        ∃ t'', Tracing.exitAppend append (.error e) t' = .ok () t'' ∧ t.Traceless t'' := by
  have hnumbered : t.driver.Numbered := reached ▸ run_numbered version backend now actions
  constructor
  · intro hook e
    obtain ⟨_, t', hrun, hsame⟩ := (hook.refused e t).exists_ok
    exact ⟨t', hrun, hsame⟩
  · intro list op signal answer t' henter
    obtain ⟨hnone, hsome⟩ :=
      (Tracing.enterAppend_retracts hnumbered list op signal).of_ok henter
    refine ⟨hnone, fun append e happend => ?_⟩
    obtain ⟨_, t'', hexit, htraceless⟩ := (hsome append happend append.command rfl).exists_ok
    exact ⟨t'', hexit, htraceless⟩

/-- Before an append to list 50, whose event is made unless `more` prevents it. -/
def beforeAppend (more : List Action) : Session :=
  (of (.of ⟨1, 2⟩ .computeDriver) 7).run ([.addDevice 1000 0, .create .default true,
    .exitListCreate ⟨50⟩ ⟨60⟩ ⟨1⟩ false (.ok ())] ++ more)

/-- Whether the append is traced, and how many events there are then; nothing if it stops. -/
def entered (s : Session) : Option (Bool × Nat) := do
  let c ← s.collector
  match Tracing.enterAppend ⟨50⟩ .barrier none (s.tracing c) with
  | .ok answer t => some (answer.inFlight.isSome, t.driver.events.size)
  | .error .. => none

theorem of_entered {s : Session} {traced : Bool} {events : Nat}
    (h : s.entered = some (traced, events)) :
    ∃ t answer t', t.driver = s.driver ∧
      Tracing.enterAppend ⟨50⟩ .barrier none t = .ok answer t' ∧
      answer.inFlight.isSome = traced ∧ t'.driver.events.size = events := by
  unfold entered at h
  cases hc : s.collector with
  | none =>
    rw [hc] at h
    cases h
  | some c =>
    rw [hc] at h
    cases henter : Tracing.enterAppend ⟨50⟩ .barrier none (s.tracing c) with
    | error e t' => simp [henter] at h
    | ok answer t' =>
      simp only [Option.bind_eq_bind, Option.bind_some, henter, Option.some.injEq,
        Prod.mk.injEq] at h
      exact ⟨s.tracing c, answer, t', rfl, henter, h⟩

/-- The driver refuses the event, after it made a pool for it; and it refuses an append, after the
event was made. -/
theorem refusals_leave_no_trace_eventAndAppend :
    (∃ t answer t', Tracing.enterAppend ⟨50⟩ .barrier none t = .ok answer t' ∧
      answer.inFlight = none ∧ answer.signal = none ∧ t.Traceless t') ∧
    ∃ t answer append t' t'', Tracing.enterAppend ⟨50⟩ .barrier none t = .ok answer t' ∧
      answer.inFlight = some append ∧ t'.driver.events.size = 1 ∧
      Tracing.exitAppend append (.error ⟨"zeCommandListAppendBarrier", 5⟩) t' = .ok () t'' ∧
      t.Traceless t'' := by
  have hrefused : (beforeAppend [.failEvent 5]).entered = some (false, 0) := by decide +kernel
  have htraced : (beforeAppend []).entered = some (true, 1) := by decide +kernel
  constructor
  · obtain ⟨t, answer, t', hdriver, henter, hnone, -⟩ := of_entered hrefused
    rw [Option.isSome_eq_false_iff, Option.isNone_iff_eq_none] at hnone
    obtain ⟨-, happend⟩ := refusals_leave_no_trace ⟨1, 2⟩ .computeDriver 7 _ t hdriver
    obtain ⟨hsignal, htraceless, -⟩ := (happend _ _ _ _ _ henter).1 hnone
    exact ⟨t, answer, t', henter, hnone, hsignal, htraceless⟩
  · obtain ⟨t, answer, t', hdriver, henter, hsome, hsize⟩ := of_entered htraced
    obtain ⟨append, hinFlight⟩ := Option.isSome_iff_exists.mp hsome
    obtain ⟨-, happend⟩ := refusals_leave_no_trace ⟨1, 2⟩ .computeDriver 7 _ t hdriver
    obtain ⟨t'', hexit, htraceless⟩ := (happend _ _ _ _ _ henter).2 append _ hinFlight
    exact ⟨t, answer, append, t', t'', henter, hinFlight, hsize, hexit, htraceless⟩

end GpuTrace.Session
