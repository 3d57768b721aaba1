import GpuTrace.Proofs.Collector.Lockstep
import GpuTrace.Proofs.Collector.Mirror
import GpuTrace.Proofs.Session.Frame

/-!
# Lockstep — two sessions side by side

A relation of collectors at work `Lifts` to one of sessions: both have the same driver and clock,
and either both have a collector, and these are related, or neither has. Whatever goes in lockstep
on the collectors then does so on the sessions (`Lifts.trace`), and so do all actions of the
application, the driver and the clock (`Lifts.outside_lockstep`). If the collectors complete the
same calls, then waiting for them goes in lockstep too (`Lifts.awaiting_lockstep`).
-/

namespace GpuTrace

/-- Actions on the driver and the clock, and those that complete calls and do nothing else. -/
def Action.isAwaiting (a : Action) : Bool :=
  a.isOutside ||
    match a with
    | .processEvent _ | .processCalls | .enterEventDestroy _ | .enterEventHostReset _
    | .exitEventHostSynchronize .. | .exitQueueSynchronize _ | .exitQueueDestroy .. => true
    | _ => false

namespace Session

open Fallible

theorem step_final (s : Session) (a : Action) : (s.step a).2 = final a.perform s := by
  unfold step final
  cases a.perform s <;> rfl

theorem step_of_lockstep {S : Session → Session → Prop} {a : Action} {s s' : Session}
    (h : Lockstep False S Eq a.perform a.perform) (hs : S s s') :
    (s'.step a).1 = (s.step a).1 ∧ S (s.step a).2 (s'.step a).2 := by
  have hmeet := h s s' hs
  unfold step
  cases hx : a.perform s with
  | ok answer t =>
    rw [hx] at hmeet
    cases hy : a.perform s' with
    | ok answer' t' =>
      rw [hy] at hmeet
      exact ⟨congrArg Except.ok hmeet.1.symm, hmeet.2⟩
    | error e t' =>
      rw [hy] at hmeet
      exact hmeet.elim
  | error e t =>
    rw [hx] at hmeet
    cases hy : a.perform s' with
    | ok answer t' =>
      rw [hy] at hmeet
      exact hmeet.elim
    | error e' t' =>
      rw [hy] at hmeet
      obtain ⟨he, ht⟩ := hmeet.resolve_left id
      exact ⟨congrArg Except.error he.symm, ht⟩

/-- `S` relates sessions with the same driver and clock whose collectors at work `R` relates. -/
structure Lifts (R : Tracing → Tracing → Prop) (S : Session → Session → Prop) : Prop where
  driver : ∀ {s s'}, S s s' → s'.driver = s.driver
  now : ∀ {s s'}, S s s' → s'.now = s.now
  set_driver : ∀ {s s'}, S s s' → ∀ driver, S { s with driver } { s' with driver }
  set_now : ∀ {s s'}, S s s' → ∀ now, S { s with now } { s' with now }
  collector : ∀ {s s'}, S s s' → s.collector = none ∧ s'.collector = none ∨
    ∃ c c', s.collector = some c ∧ s'.collector = some c' ∧ R (s.tracing c) (s'.tracing c')
  after : ∀ {s s'}, S s s' → ∀ {t t'}, R t t' → S (s.after t) (s'.after t')

namespace Lifts

variable {F : Prop} {R : Tracing → Tracing → Prop} {S : Session → Session → Prop} {α : Type}
  (h : Lifts R S)

include h

/-! ## Parts of a session -/

theorem trace {x y : Fallible Tracing α} (hxy : Lockstep F R Eq x y) :
    Lockstep F S Eq (trace x) (trace y) := by
  intro s s' hs
  unfold Session.trace
  rcases h.collector hs with ⟨hnone, hnone'⟩ | ⟨c, c', hsome, hsome', hc⟩
  · rw [hnone, hnone']
    exact ⟨rfl, hs⟩
  · rw [hsome, hsome']
    have hmeet := hxy _ _ hc
    unfold tracing at hmeet
    dsimp only
    cases hx : x ⟨s.driver, s.now, c, s.journal⟩ with
    | ok a t =>
      rw [hx] at hmeet
      cases hy : y ⟨s'.driver, s'.now, c', s'.journal⟩ with
      | ok a' t' =>
        rw [hy] at hmeet
        exact ⟨congrArg some hmeet.1, h.after hs hmeet.2⟩
      | error e t' =>
        rw [hy] at hmeet
        exact meet_error_right hmeet _ e _
    | error e t =>
      rw [hx] at hmeet
      cases hy : y ⟨s'.driver, s'.now, c', s'.journal⟩ with
      | ok a' t' =>
        rw [hy] at hmeet
        exact meet_error_left hmeet e _ _
      | error e' t' =>
        rw [hy] at hmeet
        exact hmeet.imp_right fun ⟨he, ht⟩ => ⟨he, h.after hs ht⟩

theorem onDriver (call : Driver → α × Driver) :
    Lockstep F S Eq (onDriver call) (onDriver call) := by
  intro s s' hs
  unfold Session.onDriver
  rw [h.driver hs]
  exact ⟨rfl, h.set_driver hs _⟩

theorem updateDriver (call : Driver → Except Fault Driver) :
    Lockstep F S Eq (updateDriver call) (updateDriver call) := by
  intro s s' hs
  unfold Session.updateDriver
  rw [h.driver hs]
  cases call s.driver with
  | ok driver => exact ⟨rfl, h.set_driver hs driver⟩
  | error e => exact .inr ⟨rfl, hs⟩

/-! ## Actions -/

theorem change (f : Driver → Driver) : Lockstep F S Eq (Action.change f) (Action.change f) :=
  lockstep_bind_eq (h.onDriver fun d => ((), f d)) fun _ => lockstep_pure rfl

theorem make {kind : HandleKind} (f : Driver → Handle kind × Driver) :
    Lockstep F S Eq (Action.make f) (Action.make f) :=
  lockstep_bind_eq (h.onDriver f) fun _ => lockstep_pure rfl

theorem setClock (f : UInt64 → UInt64) :
    Lockstep F S Eq (modify fun s => { s with now := f s.now } : Fallible Session PUnit)
      (modify fun s => { s with now := f s.now }) := by
  refine lockstep_modify fun s s' hs => ?_
  rw [h.now hs]
  exact h.set_now hs _

theorem hook {x y : Fallible Tracing Unit} (hxy : Lockstep F R Eq x y) :
    Lockstep F S Eq (Action.hook x) (Action.hook y) :=
  lockstep_bind_eq (h.trace hxy) fun _ => lockstep_pure rfl

theorem behind {f : DriverResult → Fallible Tracing Unit} (hrefused : ∀ e, f (.error e) = pure ())
    (hf : Lockstep F R Eq (f (.ok ())) (f (.ok ()))) (result : DriverResult) :
    Lockstep F S Eq (Action.hook (f result)) (Action.hook (f result)) :=
  h.hook (Tracing.behind_lockstep hrefused hf result)

theorem outside_lockstep {a : Action} (ha : a.isOutside = true) :
    Lockstep F S Eq a.perform a.perform := by
  cases a with
  | setClock time => exact lockstep_bind_eq (h.setClock fun _ => time) fun _ => lockstep_pure rfl
  | advanceClock delta => exact lockstep_bind_eq (h.setClock (· + delta)) fun _ => lockstep_pure rfl
  | addDevice _ _ | addKernel _ _ | newObject | newEvent => exact h.make _
  | setTimestampMask _ | setEventStatus _ _ | hostReset _ | failPool _ | failEvent _
  | failRegister _ | failToggle _ =>
    unfold Action.perform
    exact h.change _
  | setDeviceTime _ _ | advanceDeviceTime _ _ | signal _ _ =>
    exact lockstep_bind_eq (h.updateDriver _) fun _ => lockstep_pure rfl
  | createPool _ _ | createEvent _ | destroyEvent _ | destroyPool _ | register
  | setTracerEnabled _ _ | unregister _ =>
    exact lockstep_bind_eq (h.onDriver _) fun _ => lockstep_pure rfl
  | create _ _ | createOrWarn _ _ | drop | setEnabled _ | enterAppend _ _ _ _ | exitAppend _ _
  | enterExecute _ _ _ | exitExecute _ _ | exitListCreate _ _ _ _ _ | exitListDestroy _ _
  | exitListReset _ _ | exitQueueSynchronize _ | exitQueueDestroy _ _ | enterEventDestroy _
  | enterEventHostReset _ | exitEventHostSynchronize _ _ | exitKernelSetGroupSize _ _ _
  | exitKernelDestroy _ _ | exitImageCreate _ _ _ | exitImageDestroy _ _ | processEvent _
  | processCalls => cases ha

theorem awaiting_lockstep {C : Call → Call → Prop} {N : KernelFinish → KernelFinish → Prop}
    (hm : Tracing.Mirrors F R C N) {a : Action} (ha : a.isAwaiting = true) :
    Lockstep F S Eq a.perform a.perform := by
  cases hout : a.isOutside with
  | true => exact h.outside_lockstep hout
  | false =>
    unfold Action.isAwaiting at ha
    rw [hout, Bool.false_or] at ha
    split at ha
    · refine lockstep_bind_eq (h.trace (hm.processEvent _)) fun found => ?_
      cases found <;> exact lockstep_pure rfl
    · refine lockstep_bind_eq (h.trace hm.processCalls) fun n => ?_
      cases n <;> exact lockstep_pure rfl
    · exact h.hook (lockstep_discard (hm.processEvent _))
    · exact h.hook (lockstep_discard (hm.processEvent _))
    · exact h.behind (fun _ => rfl) (lockstep_discard (hm.processEvent _)) _
    · exact h.behind (fun _ => rfl) (lockstep_discard hm.processCalls) _
    · exact h.behind (fun _ => rfl) (lockstep_discard hm.processCalls) _
    · cases ha

end Lifts

end Session

end GpuTrace
