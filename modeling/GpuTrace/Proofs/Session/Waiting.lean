import GpuTrace.Proofs.Collector.Waiting
import GpuTrace.Proofs.Session.History

/-!
# Waiting for an event — one call at a time, and not for an old signal

The hooks around an event complete the first pending call that waits for it and leave the others
waiting (`event_releases_first`), so an event that two calls wait for can be gone with one of
them pending (`event_keeps_second_destroyed`).

A call waits for a signal, but does not tell a new signal from an old one. If the event of its
command is still ready from an earlier submission, the next sweep takes the call out and stops
(`submission_waits_iff_unsignalled`). The collector never resets the events that it made, so this
happens to each second submission of a list whose events no one else resets
(`resubmission_lost_unreset`).
-/

namespace GpuTrace.Session

open Fallible Tracing Registry

variable {s : Session} {c : Collector} {a : Action} {event : EventHandle}

/-! ## The first call that waits -/

theorem filter_eraseP {α : Type} (p : α → Bool) (l : List α) :
    (l.eraseP p).filter p = (l.filter p).tail := by
  induction l with
  | nil => rfl
  | cons x l ih =>
    cases hx : p x with
    | true => simp [List.eraseP_cons_of_pos hx, List.filter_cons_of_pos hx]
    | false =>
      rw [List.eraseP_cons_of_neg (by simp [hx]), List.filter_cons_of_neg (by simp [hx]),
        List.filter_cons_of_neg (by simp [hx]), ih]

theorem forall_mem_eraseP_iff {α : Type} (p : α → Bool) (l : List α) :
    (∀ x ∈ l.eraseP p, p x = false) ↔ (l.filter p).length ≤ 1 := by
  have hnone : (∀ x ∈ l.eraseP p, p x = false) ↔ (l.filter p).tail = [] := by
    rw [← filter_eraseP, List.filter_eq_nil_iff]
    simp only [Bool.not_eq_true]
  rw [hnone, ← List.length_eq_zero_iff, List.length_tail]
  omega

/-- **An event releases the first call that waits for it.** If an action that asks for an event
that is ready ends with an answer, then the first pending call that waits for the event, if there
is one, was finished, counted and told of. All other calls are pending as before, in order; so no
call waits for the event any more exactly if at most one did. -/
theorem event_releases_first (driver : Driver) (now : UInt64) (actions : List Action) (a : Action)
    (event : EventHandle) (c : Collector) (answer : Answer)
    (hc : ((Session.of driver now).run actions).collector = some c)
    (hask : a.asksFor? = some event)
    (hready : ((Session.of driver now).run actions).driver.eventStatus event = .ready)
    (hok : (((Session.of driver now).run actions).step a).1 = .ok answer) :
    let s := (Session.of driver now).run actions
    ∃ c' : Collector, ∃ finished : Option Finished, (next s a).collector = some c' ∧
      finished.map (·.call) = c.registry.pending.find? (c.registry.waitsFor event) ∧
      (s.tracing c).Took finished.toList ((next s a).tracing c') ∧
      c'.registry.pending = c.registry.pending.eraseP (c.registry.waitsFor event) ∧
      ((∀ call ∈ c'.registry.pending, c'.registry.waitsFor event call = false) ↔
        (c.registry.pending.filter (c.registry.waitsFor event)).length ≤ 1) := by
  intro s
  have hwf : (s.tracing c).registry.WellFormed := registryWellFormed_run driver now actions c hc
  have hasked : Ends a.perform s (fun _ s' => ∃ c', s'.collector = some c' ∧
      (s.tracing c).Releases event ((s.tracing c).signalledBy event) (s'.tracing c'))
      (fun _ _ => True) := by
    refine perform_asking hask hc ((processEvent_releases hwf hready).imp ?_ fun _ _ _ => trivial)
    exact fun _ t ht => ⟨t.collector, rfl, ht⟩
  obtain ⟨c', hc', hreleases⟩ := of_step hasked (Prod.ext hok rfl)
  have hregistry : c'.registry = { c.registry with
      pending := c.registry.pending.eraseP (c.registry.waitsFor event) } := hreleases.registry
  refine ⟨c', _, hc', hreleases.first, hreleases.took, by rw [hregistry], ?_⟩
  rw [hregistry]
  exact forall_mem_eraseP_iff (c.registry.waitsFor event) c.registry.pending

/-- A barrier with an event of the application is executed, and the event becomes ready. -/
def barrierOn (lists : List CommandListHandle) : List Action :=
  [.addDevice 1000 0, .newEvent, .create .default true,
    .exitListCreate ⟨50⟩ ⟨60⟩ ⟨1⟩ false (.ok ()), .enterAppend 0 ⟨50⟩ .barrier (some ⟨3⟩),
    .exitAppend 0 (.ok ()), .enterExecute 0 ⟨70⟩ lists, .exitExecute 0 (.ok ()),
    .signal ⟨3⟩ ⟨10, 20⟩]

/-- The only call that waits for the event is told of before the event is destroyed. -/
theorem event_releases_first_destroyed :
    ∃ c' : Collector, ∃ f : Finished,
      (next ((of .standard 7).run (barrierOn [⟨50⟩])) (.enterEventDestroy ⟨3⟩)).collector =
        some c' ∧
      told (next ((of .standard 7).run (barrierOn [⟨50⟩])) (.enterEventDestroy ⟨3⟩)).journal =
        [f.notice] ∧
      ∀ call ∈ c'.registry.pending, c'.registry.waitsFor ⟨3⟩ call = false := by
  have hcollector : ((of .standard 7).run (barrierOn [⟨50⟩])).collector.isSome = true := by
    decide +kernel
  have hready : ((of .standard 7).run (barrierOn [⟨50⟩])).driver.eventStatus ⟨3⟩ = .ready := by
    decide +kernel
  have hok : (((of .standard 7).run (barrierOn [⟨50⟩])).step (.enterEventDestroy ⟨3⟩)).1 =
      .ok .done := by decide +kernel
  have hcalls : ∀ c ∈ ((of .standard 7).run (barrierOn [⟨50⟩])).collector, c.notifies = true ∧
      (c.registry.pending.find? (c.registry.waitsFor ⟨3⟩)).isSome = true ∧
      (c.registry.pending.filter (c.registry.waitsFor ⟨3⟩)).length ≤ 1 := by decide +kernel
  have hnone : told ((of .standard 7).run (barrierOn [⟨50⟩])).journal = [] := by decide +kernel
  obtain ⟨c, hc⟩ := Option.isSome_iff_exists.mp hcollector
  obtain ⟨hnotifies, hfind, hone⟩ := hcalls c hc
  obtain ⟨c', finished, hc', hfirst, htook, -, hleft⟩ :=
    event_releases_first .standard 7 (barrierOn [⟨50⟩]) (.enterEventDestroy ⟨3⟩) ⟨3⟩ c .done hc rfl
      hready hok
  rw [← hfirst, Option.isSome_map] at hfind
  obtain ⟨f, rfl⟩ := Option.isSome_iff_exists.mp hfind
  have htold := told_of_took htook
  rw [hnone, if_pos hnotifies] at htold
  exact ⟨c', f, hc', htold, hleft.mpr hone⟩

/-- A list that stands twice in one batch has two calls that wait for the event. -/
def executedTwice : Session :=
  (of .standard 7).run (barrierOn [⟨50⟩, ⟨50⟩])

/-- The hook before the event is destroyed completes one of the two. The other one still waits
then, and the next sweep stops on an event that is gone. -/
theorem event_keeps_second_destroyed :
    executedTwice.driver.eventStatus ⟨3⟩ = .ready ∧
      (executedTwice.step (.enterEventDestroy ⟨3⟩)).1 = .ok .done ∧
      (∃ c ∈ (next executedTwice (.enterEventDestroy ⟨3⟩)).collector,
        ∃ call ∈ c.registry.pending, c.registry.waitsFor ⟨3⟩ call = true) ∧
      ((executedTwice.run [.enterEventDestroy ⟨3⟩, .destroyEvent ⟨3⟩]).step
        .processCalls).1.isOk = false := by
  refine ⟨?_, ?_, ?_, ?_⟩
  · decide +kernel
  · decide +kernel
  · decide +kernel
  · decide +kernel

/-! ## Calls on events that are ready already -/

/-- Neither a sweep nor a question for an event finds a call to complete, or changes anything. -/
def Waits (s : Session) : Prop :=
  s.step .processCalls = (.ok (.count 0), s) ∧
    ∀ event, s.step (.processEvent event) = (.ok (.flag false), s)

def withoutFirst (s : Session) (c : Collector) (p : Call → Bool) : Session :=
  { s with collector := some { c with
    registry := { c.registry with pending := c.registry.pending.eraseP p } } }

/-- If the first pending call that has the property is stale, the action takes it out, changes
nothing else and stops with the fault of a device clock that went back. -/
def LosesStale (s : Session) (c : Collector) (a : Action) (p : Call → Bool) : Prop :=
  ∀ call, c.registry.pending.find? p = some call →
    (s.tracing c).Stale call.command call.anchor →
    (∃ start, (s.step a).1 = .error (.clockNotMonotonic start call.anchor.deviceTime)) ∧
      next s a = s.withoutFirst c p

theorem step_eq_of_ends {answer : Answer} {s₁ : Session}
    (h : Ends a.perform s (fun x s' => x = answer ∧ s' = s₁) (fun _ _ => False)) :
    s.step a = (.ok answer, s₁) := by
  rcases step_of_ends h with ⟨x, hx, rfl, hs⟩ | ⟨_, _, hfalse⟩
  · exact Prod.ext hx hs
  · exact hfalse.elim

theorem waits_iff (hc : s.collector = some c) (hwf : c.registry.WellFormed) :
    Waits s ↔ ∀ call ∈ c.registry.pending, (s.tracing c).Unsignalled call.command := by
  constructor
  · rintro ⟨hcalls, -⟩
    have hfinds : Ends (Action.processCalls).perform s
        (fun answer _ => answer = .count 0 →
          ∀ call ∈ c.registry.pending, (s.tracing c).Unsignalled call.command)
        (fun _ _ => True) := by
      refine ends_bind.mpr ?_
      rw [ends_trace, hc]
      refine (processCalls_finds (t := s.tracing c) hwf).imp (fun n t hfinds => ?_)
        fun _ _ _ => trivial
      rintro ⟨⟩
      exact hfinds rfl
    exact of_step hfinds hcalls rfl
  · intro h
    constructor
    · refine step_eq_of_ends (ends_bind.mpr ?_)
      rw [ends_trace, hc]
      refine (processCalls_waiting (t := s.tracing c) h).imp_ok ?_
      rintro _ _ ⟨rfl, rfl⟩
      exact ⟨rfl, after_tracing hc⟩
    · intro event
      refine step_eq_of_ends (ends_bind.mpr ?_)
      rw [ends_trace, hc]
      have hevent : ∀ call ∈ c.registry.pending, c.registry.waitsFor event call = true →
          s.driver.eventStatus event = .notReady := by
        intro call hcall hwaits
        obtain ⟨command, hcommand, hstatus⟩ := unsignalled_iff.mp (h call hcall)
        have hlookup : c.registry.command call.command = .ok command := hcommand
        obtain rfl : command.event = event := by simpa [waitsFor, hlookup] using hwaits
        exact hstatus
      refine (processEvent_waiting (t := s.tracing c) hwf hevent).imp_ok ?_
      rintro _ _ ⟨rfl, rfl⟩
      exact ⟨rfl, after_tracing hc⟩

theorem step_of_lost {anchor : SubmitAnchor} {s₁ : Session}
    (h : Ends a.perform s (fun _ _ => False)
      (fun e s' => (∃ start, e = .clockNotMonotonic start anchor.deviceTime) ∧ s' = s₁)) :
    (∃ start, (s.step a).1 = .error (.clockNotMonotonic start anchor.deviceTime)) ∧
      next s a = s₁ := by
  rcases step_of_ends h with ⟨_, _, hfalse⟩ | ⟨_, herror, ⟨start, rfl⟩, hs⟩
  · exact hfalse.elim
  · exact ⟨⟨start, herror⟩, hs⟩

theorem losesStale_sweeping (hc : s.collector = some c) (ha : a.sweeps = true) :
    LosesStale s c a fun call => ¬ (s.tracing c).Unsignalled call.command := by
  intro call first hstale
  have hlost : ∀ {β : Type} (rest : List KernelFinish → Fallible Tracing β),
      Ends (sweep >>= rest) (s.tracing c) (fun _ _ => False)
        (fun e t => (∃ start, e = .clockNotMonotonic start call.anchor.deviceTime) ∧
          s.after t = s.withoutFirst c fun call => ¬ (s.tracing c).Unsignalled call.command) := by
    intro β rest
    refine ends_bind.mpr ((sweep_stale (t := s.tracing c) hstale first).imp
      (fun _ _ hfalse => hfalse.elim) ?_)
    rintro e _ ⟨he, rfl⟩
    exact ⟨he, rfl⟩
  exact step_of_lost (perform_sweeping ha hc (hlost _) fun _ => hlost _)

theorem losesStale_asking (hc : s.collector = some c) (hwf : c.registry.WellFormed)
    (ha : a.asksFor? = some event) : LosesStale s c a (c.registry.waitsFor event) := by
  intro call first hstale
  refine step_of_lost (perform_asking ha hc ?_)
  refine (processEvent_stale (t := s.tracing c) hstale hwf first).imp
    (fun _ _ hfalse => hfalse.elim) ?_
  rintro e _ ⟨he, rfl⟩
  exact ⟨he, rfl⟩

theorem exitExecute_ends (hc : s.collector = some c) {token : Nat} {submit : SubmitToken}
    (htoken : s.submits.get? token = some submit) :
    Ends (Action.exitExecute token (.ok ())).perform s
      (fun _ s' => ∃ r calls, s' = { s with
          collector := some { c with registry := r }, submits := s.submits.erase token } ∧
        SameOutline c.registry r ∧ r.pending = c.registry.pending ++ calls ∧
        calls.map Call.origin = origins c.registry submit)
      (fun _ _ => True) := by
  have hcontains : s.submits.contains token = true := by simp [Table.contains, htoken]
  have hc' : ({ s with submits := s.submits.erase token } : Session).collector = some c := hc
  refine ends_bind.mpr ?_
  simp only [ends_get, hcontains, Bool.not_true, Bool.false_eq_true, if_false]
  unfold Session.exitExecute
  simp only [ends_bind, ends_get, htoken, ends_modify]
  refine trace_deed hc' ((exitExecute_queues submit).imp ?_ fun _ _ _ => trivial)
  rintro _ _ ⟨r, calls, rfl, hsame, hpending, horigins⟩
  exact ⟨r, calls, rfl, hsame, hpending, horigins⟩

/-- **A submission waits exactly if its events are not signalled.** An execution that ends with an
answer queues the calls of its batch behind the pending ones. If no call was due before, none is
due now exactly if the event of each command in the batch is not signalled, so one that is ready
from an earlier submission must have been reset. A call whose event still has the ticks from
before the submission does not wait for new ones: the next action that sweeps or asks for its
event stops with a fault, and the call is pending no longer, although it was neither counted nor
told of. -/
theorem submission_waits_iff_unsignalled (driver : Driver) (now : UInt64) (actions : List Action)
    (token : Nat) (c : Collector) (submit : SubmitToken) (answer : Answer)
    (hc : ((Session.of driver now).run actions).collector = some c)
    (htoken : ((Session.of driver now).run actions).submits.get? token = some submit)
    (hok : (((Session.of driver now).run actions).step (.exitExecute token (.ok ()))).1 =
      .ok answer)
    (hearlier : ∀ call ∈ c.registry.pending,
      (((Session.of driver now).run actions).tracing c).Unsignalled call.command) :
    let s := (Session.of driver now).run actions
    let s' := next s (.exitExecute token (.ok ()))
    ∃ c' calls, s'.collector = some c' ∧ c'.registry.pending = c.registry.pending ++ calls ∧
      calls.map Call.origin = origins c.registry submit ∧
      (Waits s' ↔
        ∀ origin ∈ origins c.registry submit, (s.tracing c).Unsignalled origin.1) ∧
      (∀ a, a.sweeps = true →
        LosesStale s' c' a fun call => ¬ (s'.tracing c').Unsignalled call.command) ∧
      ∀ a event, a.asksFor? = some event → LosesStale s' c' a (c'.registry.waitsFor event) := by
  intro s s'
  have hwf' : s'.RegistryWellFormed := (registryWellFormed_run driver now actions).next _
  obtain ⟨r, calls, hs', hsame, hpending, horigins⟩ :=
    of_step (exitExecute_ends hc htoken) (Prod.ext hok rfl)
  have hc' : s'.collector = some { c with registry := r } := congrArg Session.collector hs'
  have htracing : s'.tracing { c with registry := r } = (s.tracing c).withRegistry r := by
    rw [show s' = _ from hs']
    rfl
  -- queueing signals no event, so the earlier calls wait as before, and the new ones as their
  -- commands did
  have hsignalled : ∀ ref, ((s.tracing c).withRegistry r).Unsignalled ref ↔
      (s.tracing c).Unsignalled ref := fun ref => unsignalled_withRegistry hsame
  have hbatch : (∀ call ∈ calls, (s.tracing c).Unsignalled call.command) ↔
      ∀ origin ∈ origins c.registry submit, (s.tracing c).Unsignalled origin.1 := by
    rw [← horigins, List.forall_mem_map]
    rfl
  refine ⟨{ c with registry := r }, calls, hc', hpending, horigins, ?_, ?_, ?_⟩
  · rw [waits_iff hc' (hwf' _ hc'), htracing, ← hbatch]
    simp only [hsignalled]
    rw [hpending, List.forall_mem_append]
    exact and_iff_right hearlier
  · exact fun a ha => losesStale_sweeping hc' ha
  · exact fun a event ha => losesStale_asking hc' (hwf' _ hc') ha

/-- A barrier whose event the collector made is executed, completed and told of. Later, when the
device clock has moved on and some things happened, it is about to be executed again. -/
def resubmitting (meanwhile : List Action) : List Action :=
  [.addDevice 1000 0, .create .default true, .exitListCreate ⟨50⟩ ⟨60⟩ ⟨1⟩ false (.ok ()),
    .enterAppend 0 ⟨50⟩ .barrier none, .exitAppend 0 (.ok ()), .enterExecute 0 ⟨70⟩ [⟨50⟩],
    .exitExecute 0 (.ok ()), .signal ⟨4⟩ ⟨10, 20⟩, .processCalls, .setDeviceTime ⟨1⟩ 30] ++
    meanwhile ++ [.enterExecute 1 ⟨70⟩ [⟨50⟩]]

/-- The second call waits if the event was reset. -/
theorem submission_waits_iff_unsignalled_reset :
    Waits (next ((of .standard 7).run (resubmitting [.hostReset ⟨4⟩]))
      (.exitExecute 1 (.ok ()))) := by
  have hcollector : ((of .standard 7).run
      (resubmitting [.hostReset ⟨4⟩])).collector.isSome = true := by decide +kernel
  have htoken : ((of .standard 7).run (resubmitting [.hostReset ⟨4⟩])).submits.get? 1 =
      some ⟨⟨70⟩, [(⟨50⟩, ⟨7, 30⟩)]⟩ := by decide +kernel
  have hok : (((of .standard 7).run (resubmitting [.hostReset ⟨4⟩])).step
      (.exitExecute 1 (.ok ()))).1 = .ok .done := by decide +kernel
  have hearlier : ∀ c ∈ ((of .standard 7).run (resubmitting [.hostReset ⟨4⟩])).collector,
      ∀ call ∈ c.registry.pending, (((of .standard 7).run
        (resubmitting [.hostReset ⟨4⟩])).tracing c).Unsignalled call.command := by decide +kernel
  have hreset : ∀ c ∈ ((of .standard 7).run (resubmitting [.hostReset ⟨4⟩])).collector,
      ∀ origin ∈ origins c.registry ⟨⟨70⟩, [(⟨50⟩, ⟨7, 30⟩)]⟩, (((of .standard 7).run
        (resubmitting [.hostReset ⟨4⟩])).tracing c).Unsignalled origin.1 := by decide +kernel
  obtain ⟨c, hc⟩ := Option.isSome_iff_exists.mp hcollector
  obtain ⟨-, -, -, -, -, hwaits, -⟩ :=
    submission_waits_iff_unsignalled .standard 7 (resubmitting [.hostReset ⟨4⟩]) 1 c
      ⟨⟨70⟩, [(⟨50⟩, ⟨7, 30⟩)]⟩ .done hc htoken hok (hearlier c hc)
  exact hwaits.mpr (hreset c hc)

/-- The barrier is executed again, and no one has reset its event: the application does not know
of it. -/
def resubmitted : Session :=
  (of .standard 7).run (resubmitting [] ++ [.exitExecute 1 (.ok ())])

/-- The second call is taken out with the ticks of the first one, before its own completion: a
sweep stops, and so does a question for the event, with the fault of a clock that went back, and
the call is gone. -/
theorem resubmission_lost_unreset :
    resubmitted.collector.map (·.pendingCount) = some 1 ∧
      resubmitted.driver.eventStatus ⟨4⟩ = .ready ∧
      (resubmitted.step .processCalls).1 = .error (.clockNotMonotonic 10 30) ∧
      (resubmitted.step (.processEvent ⟨4⟩)).1 = .error (.clockNotMonotonic 10 30) ∧
      (next resubmitted .processCalls).collector.map (·.pendingCount) = some 0 ∧
      (next resubmitted .processCalls).journal.notices.size = 1 := by
  refine ⟨?_, ?_, ?_, ?_, ?_, ?_⟩
  · decide +kernel
  · decide +kernel
  · decide +kernel
  · decide +kernel
  · decide +kernel
  · decide +kernel

end GpuTrace.Session
