import GpuTrace.Collector.Submission
import GpuTrace.Proofs.Driver.Signals
import GpuTrace.Proofs.Lockstep

/-!
# Lockstep — two collectors at work side by side

A step on one part of a collector goes in lockstep if the parts do. Related collectors that share
their driver go in lockstep through every call of it that disturbs no event (`SharesDriver`), so
they make the same events for their appends and destroy the same ones.
-/

namespace GpuTrace.Tracing

open Fallible

variable {F : Prop} {R : Tracing → Tracing → Prop} {α α' : Type} {A : α → α' → Prop}

/-! ## Parts -/

theorem onRegistry_lockstep {x : Fallible Registry α} {y : Fallible Registry α'}
    (h : ∀ t t', R t t' → Meet F (fun r r' => R (t.withRegistry r) (t'.withRegistry r')) A
      (x t.registry) (y t'.registry)) : Lockstep F R A (onRegistry x) (onRegistry y) := by
  intro t t' ht
  have hmeet := h t t' ht
  unfold onRegistry
  cases hx : x t.registry <;> cases hy : y t'.registry <;> rw [hx, hy] at hmeet <;> exact hmeet

theorem onProfile_lockstep {x : Fallible Profile α} {y : Fallible Profile α'}
    (h : ∀ t t', R t t' → Meet F (fun p p' => R (t.withProfile p) (t'.withProfile p')) A
      (x t.profile) (y t'.profile)) : Lockstep F R A (onProfile x) (onProfile y) := by
  intro t t' ht
  have hmeet := h t t' ht
  unfold onProfile
  cases hx : x t.profile <;> cases hy : y t'.profile <;> rw [hx, hy] at hmeet <;> exact hmeet

theorem behind_lockstep {f : DriverResult → Fallible Tracing Unit}
    (hrefused : ∀ e, f (.error e) = pure ()) (h : Lockstep F R Eq (f (.ok ())) (f (.ok ())))
    (result : DriverResult) : Lockstep F R Eq (f result) (f result) := by
  cases result with
  | error e =>
    rw [hrefused]
    exact lockstep_pure rfl
  | ok _ => exact h

/-! ## One driver -/

/-- Related collectors have the same driver, and calls of it that disturb no event keep them
related; so do warnings. -/
structure SharesDriver (F : Prop) (R : Tracing → Tracing → Prop) : Prop where
  onDriver : ∀ {α : Type} (call : Driver → α × Driver), (∀ d : Driver, d.Undisturbed (call d).2) →
    Lockstep F R Eq (onDriver call) (onDriver call)
  warn : ∀ w, Lockstep F R Eq (warn w) (warn w)

namespace SharesDriver

variable (h : SharesDriver F R)

include h

theorem createProfilingEvent (context : ContextHandle) :
    Lockstep F R Eq (createProfilingEvent context) (createProfilingEvent context) := by
  unfold Tracing.createProfilingEvent
  refine lockstep_bind_eq (h.onDriver _ fun d => d.createPool_undisturbed _ _) fun made => ?_
  cases made with
  | error e => exact lockstep_pure rfl
  | ok pool =>
    refine lockstep_bind_eq (h.onDriver _ fun d => d.createEvent_undisturbed _) fun made => ?_
    cases made with
    | ok event => exact lockstep_pure rfl
    | error e =>
      refine lockstep_bind_eq (h.onDriver _ fun d => d.destroyPool_undisturbed _) fun gone => ?_
      cases gone with
      | ok _ => exact lockstep_pure rfl
      | error kept => exact lockstep_bind_eq (h.warn _) fun _ => lockstep_pure rfl

theorem signalFor (context : ContextHandle) (name : String) (signal : Option EventHandle) :
    Lockstep F R Eq (signalFor context name signal) (signalFor context name signal) := by
  cases signal with
  | some event => exact lockstep_pure rfl
  | none =>
    refine lockstep_bind_eq (h.createProfilingEvent context) fun made => ?_
    cases made with
    | ok signal => exact lockstep_pure rfl
    | error e => exact lockstep_bind_eq (h.warn _) fun _ => lockstep_pure rfl

theorem releaseCommand (command : Command) :
    Lockstep F R Eq (releaseCommand command) (releaseCommand command) := by
  unfold Tracing.releaseCommand
  cases command.signal with
  | borrowed event => exact lockstep_pure rfl
  | owned pool event =>
    refine lockstep_bind_eq (h.onDriver _ fun d => d.destroyEvent_undisturbed _) fun gone => ?_
    cases gone
    case' error e => refine lockstep_bind_eq (h.warn _) fun _ => ?_
    all_goals
      refine lockstep_bind_eq (h.onDriver _ fun d => d.destroyPool_undisturbed _) fun gone => ?_
      cases gone with
      | ok _ => exact lockstep_pure rfl
      | error e => exact h.warn _

theorem releaseCommands (commands : List Command) :
    Lockstep F R Eq (releaseCommands commands) (releaseCommands commands) :=
  lockstep_forM h.releaseCommand

end SharesDriver

end GpuTrace.Tracing
