import GpuTrace.Proofs.Clock.Anchor
import GpuTrace.Proofs.Collector.History
import GpuTrace.Proofs.Registry.Batch

/-!
# Waiting calls — what happens to a call before its event is signalled

`exitExecute_queues` says which calls an execution puts behind the pending ones.

A completion leaves a call alone as long as the event of its command is not signalled, and only
then (`processCalls_waiting`, `processEvent_waiting`, `processCalls_finds`). An event that was
signalled for an earlier submission is still ready, so a later call of the same command is
completed with the old ticks. If these are not after the submission, the call is `Stale`: it is
taken out, and then the completion stops (`sweep_stale`, `processEvent_stale`).

An event that is ready `Releases` one call, the first that waits for it (`processEvent_releases`).
-/

namespace GpuTrace

open Fallible

namespace Tracing

open Registry

variable {t : Tracing}

/-! ## Submission -/

def origins (r : Registry) (token : SubmitToken) :
    List (CommandRef × QueueHandle × SubmitAnchor) :=
  token.anchors.flatMap fun entry => (r.batch entry.1).map fun ref => (ref, token.queue, entry.2)

/-- Executing one list queues its batch; that of an immediate list is empty. -/
theorem submitList_queues (queue : QueueHandle) (list : CommandListHandle)
    (anchor : SubmitAnchor) :
    Ends (submitList queue list anchor) t
      (fun _ t' => ∃ r, t' = t.withRegistry r ∧
        Queues t.registry (t.registry.batch list) queue anchor r)
      (fun _ _ => True) := by
  unfold submitList isImmediate
  simp only [ends_bind, ends_get, ends_lift]
  cases hl : t.registry.list list with
  | error e => trivial
  | ok info =>
    cases himmediate : info.immediate with
    | true =>
      have hbatch : t.registry.batch list = [] := by
        simp [batch, list_eq_ok_iff.mp hl, himmediate]
      rw [hbatch]
      simp only [Functor.map, Except.map, himmediate, if_true]
      exact ⟨t.registry, rfl, refl_of SameOutline _, [], (List.append_nil _).symm, rfl⟩
    | false =>
      simp only [Functor.map, Except.map, himmediate, Bool.false_eq_true, if_false]
      refine ends_discard.mpr (ends_onRegistry.mpr ?_)
      exact (addCalls_queues queue anchor).imp (fun _ r h => ⟨r, rfl, h⟩) fun _ _ h => h

/-- An execution queues the batches of its deferred lists behind the pending calls, in order. -/
theorem exitExecute_queues (token : SubmitToken) :
    Ends (exitExecute token (.ok ())) t
      (fun _ t' => ∃ r calls, t' = t.withRegistry r ∧ SameOutline t.registry r ∧
        r.pending = t.registry.pending ++ calls ∧
        calls.map Call.origin = origins t.registry token)
      (fun _ _ => True) := by
  have hlists : ∀ (anchors : List (CommandListHandle × SubmitAnchor)) (t : Tracing),
      Ends (anchors.forM fun entry => submitList token.queue entry.1 entry.2) t
        (fun _ t' => ∃ r calls, t' = t.withRegistry r ∧ SameOutline t.registry r ∧
          r.pending = t.registry.pending ++ calls ∧
          calls.map Call.origin = origins t.registry ⟨token.queue, anchors⟩)
        (fun _ _ => True) := by
    intro anchors
    induction anchors with
    | nil =>
      exact fun t => ⟨t.registry, [], rfl, refl_of SameOutline _, (List.append_nil _).symm, rfl⟩
    | cons entry anchors ih =>
      intro t
      show Ends (submitList token.queue entry.1 entry.2 >>= fun _ =>
        anchors.forM fun entry => submitList token.queue entry.1 entry.2) t _ _
      rw [ends_bind]
      refine (submitList_queues token.queue entry.1 entry.2).imp ?_ fun _ _ h => h
      rintro - _ ⟨r₁, rfl, hsame, calls, hpending, horigins⟩
      refine (ih (t.withRegistry r₁)).imp ?_ fun _ _ h => h
      rintro - _ ⟨r₂, calls', rfl, hsame', hpending', horigins'⟩
      refine ⟨r₂, calls ++ calls', rfl, trans_of SameOutline hsame hsame', ?_, ?_⟩
      · have hmid : (t.withRegistry r₁).registry.pending = t.registry.pending ++ calls := hpending
        rw [hpending', hmid, List.append_assoc]
      · -- the batches of the later lists are what they were before the first one was queued
        have hbatches : (t.withRegistry r₁).registry.batch = t.registry.batch :=
          funext fun list => hsame.batch list
        rw [List.map_append, horigins, horigins']
        simp [origins, hbatches]
  exact hlists token.anchors t

/-! ## Calls that wait -/

def Unsignalled (t : Tracing) (ref : CommandRef) : Prop :=
  ∃ c ∈ (t.registry.command ref).toOption, t.driver.eventStatus c.event = .notReady

/-- The event of the command is ready, with ticks from before the anchor was taken. -/
def Stale (t : Tracing) (ref : CommandRef) (anchor : SubmitAnchor) : Prop :=
  ∃ c ∈ (t.registry.command ref).toOption, t.driver.eventStatus c.event = .ready ∧
    ∃ timestamp ∈ (t.driver.kernelTimestamp c.event).toOption, timestamp.start ≤ anchor.deviceTime

instance (t : Tracing) (ref : CommandRef) : Decidable (t.Unsignalled ref) :=
  inferInstanceAs (Decidable (∃ c ∈ (t.registry.command ref).toOption, _))

theorem unsignalled_iff {ref : CommandRef} : t.Unsignalled ref ↔
    ∃ c, t.registry.command ref = .ok c ∧ t.driver.eventStatus c.event = .notReady := by
  simp only [Unsignalled, mem_toOption]

theorem stale_iff {ref : CommandRef} {anchor : SubmitAnchor} : t.Stale ref anchor ↔
    ∃ c timestamp, t.registry.command ref = .ok c ∧ t.driver.eventStatus c.event = .ready ∧
      t.driver.kernelTimestamp c.event = .ok timestamp ∧ timestamp.start ≤ anchor.deviceTime := by
  simp only [Stale, mem_toOption, exists_and_left]

theorem unsignalled_withRegistry {r : Registry} {ref : CommandRef}
    (hsame : SameOutline t.registry r) :
    (t.withRegistry r).Unsignalled ref ↔ t.Unsignalled ref := by
  have hone : ∀ {t : Tracing} {r : Registry}, SameOutline t.registry r → t.Unsignalled ref →
      (t.withRegistry r).Unsignalled ref := by
    intro t r hsame h
    obtain ⟨c, hc, hstatus⟩ := unsignalled_iff.mp h
    obtain ⟨n, hc'⟩ := hsame.command hc
    exact unsignalled_iff.mpr ⟨_, hc', hstatus⟩
  exact ⟨hone (t := t.withRegistry r) hsame.symm, hone hsame⟩

theorem ends_sweepFrom_skip {Q : List KernelFinish → Tracing → Prop} {E : Fault → Tracing → Prop}
    {before rest : List Call} (h : ∀ call ∈ before, t.Unsignalled call.command) (index : Nat) :
    Ends (sweepFrom index (before ++ rest)) t Q E ↔
      Ends (sweepFrom (index + before.length) rest) t Q E := by
  induction before generalizing index with
  | nil => rfl
  | cons call before ih =>
    obtain ⟨hcall, hbefore⟩ := List.forall_mem_cons.mp h
    obtain ⟨c, hc, hstatus⟩ := unsignalled_iff.mp hcall
    rw [List.cons_append, ends_sweepFrom_cons hc, hstatus, List.length_cons,
      Nat.add_comm before.length, ← Nat.add_assoc]
    exact ih hbefore (index + 1)

/-- A sweep leaves everything as it is while no event is signalled. -/
theorem processCalls_waiting (h : ∀ call ∈ t.registry.pending, t.Unsignalled call.command) :
    Ends processCalls t (fun n t' => n = 0 ∧ t' = t) (fun _ _ => False) := by
  unfold processCalls sweep
  simp only [ends_bind, ends_get]
  rw [← List.append_nil t.registry.pending, ends_sweepFrom_skip h]
  unfold sweepFrom
  rw [ends_pure]
  exact ends_of_ok (notify_nil t) ⟨rfl, rfl⟩

theorem sweepFrom_finds (hwf : t.registry.WellFormed) (index : Nat) {rest : List Call}
    (hrest : ∀ call ∈ rest, call ∈ t.registry.pending) :
    Ends (sweepFrom index rest) t
      (fun finished _ => finished = [] → ∀ call ∈ rest, t.Unsignalled call.command)
      (fun _ _ => True) := by
  induction rest generalizing index with
  | nil => exact fun _ => List.forall_mem_nil _
  | cons call rest ih =>
    obtain ⟨c, hc, -⟩ := hwf.resolves call (hrest call List.mem_cons_self)
    rw [ends_sweepFrom_cons hc]
    cases hstatus : t.driver.eventStatus c.event with
    | failed e => trivial
    | notReady =>
      have hcall : t.Unsignalled call.command := unsignalled_iff.mpr ⟨c, hc, hstatus⟩
      refine (ih (index + 1) fun call' hcall' => hrest call' (List.mem_cons_of_mem _ hcall')).imp
        (fun _ _ hlater hnone => ?_) fun _ _ h => h
      exact List.forall_mem_cons.mpr ⟨hcall, hlater hnone⟩
    | ready =>
      refine ends_self.imp (fun _ _ _ => ?_) fun _ _ _ => trivial
      exact ends_self.imp (fun _ _ _ hnone => absurd hnone (List.cons_ne_nil _ _))
        fun _ _ _ => trivial

/-- If a sweep finishes nothing, then no event is signalled. -/
theorem processCalls_finds (hwf : t.registry.WellFormed) :
    Ends processCalls t
      (fun n _ => n = 0 → ∀ call ∈ t.registry.pending, t.Unsignalled call.command)
      (fun _ _ => True) := by
  unfold processCalls sweep
  simp only [ends_bind, ends_get]
  refine (sweepFrom_finds hwf 0 fun _ hcall => hcall).imp ?_ fun _ _ _ => trivial
  intro finished t₁ hfinds
  simp only [ends_pure]
  refine ends_self.imp (fun _ _ _ hzero => ?_) fun _ _ _ => trivial
  exact hfinds (List.length_eq_zero_iff.mp hzero)

/-- A question for one event leaves everything as it is while that event is not signalled. -/
theorem processEvent_waiting (hwf : t.registry.WellFormed) {event : EventHandle}
    (h : ∀ call ∈ t.registry.pending, t.registry.waitsFor event call = true →
      t.driver.eventStatus event = .notReady) :
    Ends (processEvent event) t (fun found t' => found = false ∧ t' = t) (fun _ _ => False) := by
  unfold processEvent
  rw [ends_bind]
  refine ends_completeEvent hwf (fun _ => ⟨rfl, rfl⟩) fun before call after hp hwaits _ => ?_
  rw [h call (by simp [hp]) hwaits]
  exact ⟨rfl, rfl⟩

/-! ## Calls that are stale -/

/-- The completion stops with the fault of a device clock that went back. The call is pending no
longer, but nothing else changed. -/
def Drops (t : Tracing) (call : Call) (pending : List Call) (e : Fault) (t' : Tracing) : Prop :=
  (∃ start, e = .clockNotMonotonic start call.anchor.deviceTime) ∧ t' = t.settled pending t.profile

/-- A call is taken out of the pending ones before its clock is checked. -/
theorem complete_stale {before after : List Call} {call : Call}
    (hp : t.registry.pending = before ++ call :: after) (h : t.Stale call.command call.anchor) :
    Ends (complete before.length) t (fun _ _ => False) (t.Drops call (before ++ after)) := by
  obtain ⟨c, timestamp, hc, -, htimestamp, hle⟩ := stale_iff.mp h
  rw [ends_complete hp hc, htimestamp]
  dsimp only
  unfold Profile.finish
  simp only [ends_bind, ends_get, ends_lift]
  rw [KernelTimestamp.onHost_of_le hle]
  exact ⟨⟨timestamp.start, rfl⟩, rfl⟩

section Stale

variable {call : Call} (h : t.Stale call.command call.anchor)

include h

/-- A sweep stops at the first call whose event is signalled, if that call is stale. -/
theorem sweep_stale
    (first : t.registry.pending.find? (fun call => ¬ t.Unsignalled call.command) = some call) :
    Ends sweep t (fun _ _ => False)
      (t.Drops call (t.registry.pending.eraseP fun call => ¬ t.Unsignalled call.command)) := by
  obtain ⟨hsignalled, before, after, hp, hbefore⟩ := List.find?_eq_some_iff_append.mp first
  have hskip : ∀ call' ∈ before, t.Unsignalled call'.command := by simpa using hbefore
  obtain ⟨c, timestamp, hc, hstatus, -⟩ := stale_iff.mp h
  rw [eraseP_of_first hp hsignalled (by simpa using hskip)]
  unfold sweep
  simp only [ends_bind, ends_get]
  rw [hp, ends_sweepFrom_skip hskip, Nat.zero_add, ends_sweepFrom_cons hc, hstatus]
  exact (complete_stale hp h).imp (fun _ _ hfalse => hfalse.elim) fun _ _ hdrops => hdrops

/-- The event of a call stops at it, if the call is the first one that waits for it and stale. -/
theorem processEvent_stale (hwf : t.registry.WellFormed) {event : EventHandle}
    (first : t.registry.pending.find? (t.registry.waitsFor event) = some call) :
    Ends (processEvent event) t (fun _ _ => False)
      (t.Drops call (t.registry.pending.eraseP (t.registry.waitsFor event))) := by
  have hwaits := List.find?_some first
  obtain ⟨c, timestamp, hc, hstatus, -⟩ := stale_iff.mp h
  obtain rfl : c.event = event := by simpa [waitsFor, hc] using hwaits
  unfold processEvent
  rw [ends_bind]
  refine ends_completeEvent hwf (fun hnone => ?_) fun before call' after hp hwaits' hbefore => ?_
  · -- no call waits for the event, but the stale one does
    rw [hnone call (List.mem_of_find?_eq_some first)] at hwaits
    cases hwaits
  · obtain rfl : call' = call :=
      Option.some.inj ((find?_of_first hp hwaits' hbefore).symm.trans first)
    rw [hstatus, eraseP_of_first hp hwaits' hbefore]
    exact (complete_stale hp h).imp (fun _ _ hfalse => hfalse.elim) fun _ _ hdrops => hdrops

end Stale

/-! ## Ready events -/

/-- The first call that waited for the event was finished, and all others wait as before. -/
structure Releases (t : Tracing) (event : EventHandle) (finished : Option Finished)
    (t' : Tracing) : Prop where
  first : finished.map (·.call) = t.registry.pending.find? (t.registry.waitsFor event)
  took : t.Took finished.toList t'
  registry : t'.registry = { t.registry with
    pending := t.registry.pending.eraseP (t.registry.waitsFor event) }

theorem processEvent_releases (hwf : t.registry.WellFormed) {event : EventHandle}
    (hready : t.driver.eventStatus event = .ready) :
    Ends (processEvent event) t (fun _ t' => Releases t event (t.signalledBy event) t')
      (fun _ _ => True) := by
  have hcalls : Ends (processEvent event) t
      (fun _ t' => (t.signalledBy event).map (·.call) =
          t.registry.pending.find? (t.registry.waitsFor event) ∧
        t'.registry = { t.registry with
          pending := t.registry.pending.eraseP (t.registry.waitsFor event) })
      (fun _ _ => True) := by
    unfold processEvent
    rw [ends_bind]
    refine (completeEvent_cases hwf event).imp ?_ fun _ _ _ => trivial
    rintro found t₁ (⟨rfl, ht, hnone⟩ | ⟨before, call, after, f, p, hp, hwaits, hbefore, hf, rfl, -,
      rfl⟩)
    · have hnot : ∀ call ∈ t.registry.pending, ¬ t.registry.waitsFor event call = true := by
        intro call hcall hwaits
        rw [hnone call hcall hwaits] at hready
        cases hready
      have hfind : t.registry.pending.find? (t.registry.waitsFor event) = none :=
        List.find?_eq_none.mpr hnot
      simp only [ends_pure]
      rw [signalledBy, hfind, List.eraseP_of_forall_not hnot, ht]
      exact ⟨rfl, rfl⟩
    · have hby : (t.signalledBy event).map (·.call) =
          t.registry.pending.find? (t.registry.waitsFor event) := by
        rw [signalledBy, find?_of_first hp hwaits hbefore, Option.bind_some, hf, Option.map_some,
          (finished?_cases hf).1]
      simp only [ends_bind, ends_pure]
      refine (notify_told [f.notice]).imp ?_ fun _ _ _ => trivial
      rintro - _ ⟨notices, rfl, -⟩
      rw [eraseP_of_first hp hwaits hbefore]
      exact ⟨hby, rfl⟩
  exact ((processEvent_took hwf event).and hcalls).imp (fun _ _ h => ⟨h.2.1, h.1, h.2.2⟩)
    fun _ _ _ => trivial

end Tracing

end GpuTrace
