import GpuTrace.Collector.Completion
import GpuTrace.Proofs.Lockstep

/-!
# Mirrors — two collectors that complete the same calls

A relation `Mirrors` completions if the pending calls of related collectors correspond one to one,
in order, to calls of the same commands, and if taking a call out, finishing it and giving notices
lead to related collectors again. Then asking for an event and sweeping over all calls go in
lockstep: they find the same calls, answer the same, and stop at the same fault
(`Mirrors.processEvent`, `Mirrors.processCalls`).
-/

namespace GpuTrace.Tracing

open Fallible

def withoutCall (t : Tracing) (index : Nat) : Tracing :=
  t.withRegistry { t.registry with pending := t.registry.pending.eraseIdx index }

/-- Related collectors complete the same calls: `C` relates the calls, `N` their notices. -/
structure Mirrors (F : Prop) (R : Tracing → Tracing → Prop) (C : Call → Call → Prop)
    (N : KernelFinish → KernelFinish → Prop) : Prop where
  driver : ∀ {t t'}, R t t' → t'.driver = t.driver
  pending : ∀ {t t'}, R t t' → List.Forall₂ C t.registry.pending t'.registry.pending
  command : ∀ {t t'}, R t t' → ∀ {call call'}, C call call' →
    t'.registry.command call'.command = t.registry.command call.command
  remove : ∀ {t t'}, R t t' → ∀ index, R (t.withoutCall index) (t'.withoutCall index)
  finish : ∀ {call call'}, C call call' → ∀ command timestamp,
    Lockstep F R N (onProfile (Profile.finish call command timestamp))
      (onProfile (Profile.finish call' command timestamp))
  notify : ∀ {fs fs'}, List.Forall₂ N fs fs' → Lockstep F R Eq (notify fs) (notify fs')

variable {F : Prop} {R : Tracing → Tracing → Prop} {C : Call → Call → Prop}
  {N : KernelFinish → KernelFinish → Prop} {t t' : Tracing} {calls calls' : List Call}

theorem getElem?_of_forall₂ (h : List.Forall₂ C calls calls') (index : Nat) :
    Option.Rel C calls[index]? calls'[index]? := by
  induction h generalizing index with
  | nil => exact .none
  | cons hcall _ ih =>
    cases index with
    | zero => exact .some hcall
    | succ index => exact ih index

namespace Mirrors

variable (h : Mirrors F R C N)

include h

theorem removePending (index : Nat) :
    Lockstep F R C (onRegistry (Registry.removePending index))
      (onRegistry (Registry.removePending index)) := by
  intro t t' hR
  have hpending := h.pending hR
  have hat := getElem?_of_forall₂ hpending index
  have hlength := hpending.length_eq
  unfold onRegistry Registry.removePending
  cases hcall : t.registry.pending[index]? with
  | none =>
    rw [hcall] at hat
    cases hcall' : t'.registry.pending[index]? with
    | none => exact .inr ⟨by rw [hlength], hR⟩
    | some call' =>
      rw [hcall'] at hat
      cases hat
  | some call =>
    rw [hcall] at hat
    cases hcall' : t'.registry.pending[index]? with
    | none =>
      rw [hcall'] at hat
      cases hat
    | some call' =>
      rw [hcall'] at hat
      cases hat with
      | some hC => exact ⟨hC, h.remove hR index⟩

theorem complete (index : Nat) :
    Lockstep F R N (Tracing.complete index) (Tracing.complete index) := by
  unfold Tracing.complete
  refine lockstep_bind (h.removePending index) fun call call' hcall => ?_
  refine lockstep_bind lockstep_get fun t t' hR => ?_
  rw [h.command hR hcall, h.driver hR]
  refine lockstep_bind_eq (lockstep_lift _) fun command => ?_
  cases t.driver.kernelTimestamp command.event with
  | error e => exact lockstep_throw _
  | ok timestamp => exact h.finish hcall command timestamp

theorem findFrom (hR : R t t') (event : EventHandle) (hcalls : List.Forall₂ C calls calls')
    (position : Nat) :
    t'.registry.findFrom event calls' position = t.registry.findFrom event calls position := by
  induction hcalls generalizing position with
  | nil => rfl
  | cons hcall _ ih =>
    unfold Registry.findFrom
    rw [h.command hR hcall, ih]

theorem completeEvent (event : EventHandle) :
    Lockstep F R (Option.Rel N) (Tracing.completeEvent event) (Tracing.completeEvent event) := by
  unfold Tracing.completeEvent
  refine lockstep_bind lockstep_get fun t t' hR => ?_
  have hfind : t'.registry.findPending event = t.registry.findPending event :=
    h.findFrom hR event (h.pending hR) 0
  rw [hfind, h.driver hR]
  refine lockstep_bind_eq (lockstep_lift _) fun found => ?_
  cases found with
  | none => exact lockstep_pure .none
  | some index =>
    cases t.driver.eventStatus event with
    | ready =>
      refine lockstep_bind (h.complete index) fun finish finish' hfinish => ?_
      exact lockstep_pure (.some hfinish)
    | notReady => exact lockstep_pure .none
    | failed e => exact lockstep_throw _

theorem sweepFrom (hcalls : List.Forall₂ C calls calls') (index : Nat) :
    Lockstep F R (List.Forall₂ N) (Tracing.sweepFrom index calls)
      (Tracing.sweepFrom index calls') := by
  induction hcalls generalizing index with
  | nil => exact lockstep_pure .nil
  | cons hcall _ ih =>
    unfold Tracing.sweepFrom
    refine lockstep_bind lockstep_get fun t t' hR => ?_
    rw [h.command hR hcall, h.driver hR]
    refine lockstep_bind_eq (lockstep_lift _) fun command => ?_
    cases t.driver.eventStatus command.event with
    | ready =>
      refine lockstep_bind (h.complete index) fun finish finish' hfinish => ?_
      refine lockstep_bind (ih index) fun rest rest' hrest => ?_
      exact lockstep_pure (.cons hfinish hrest)
    | notReady => exact ih (index + 1)
    | failed e => exact lockstep_throw _

theorem sweep : Lockstep F R (List.Forall₂ N) Tracing.sweep Tracing.sweep := by
  unfold Tracing.sweep
  exact lockstep_bind lockstep_get fun t t' hR => h.sweepFrom (h.pending hR) 0

theorem processEvent (event : EventHandle) :
    Lockstep F R Eq (Tracing.processEvent event) (Tracing.processEvent event) := by
  unfold Tracing.processEvent
  refine lockstep_bind (h.completeEvent event) fun found found' hfound => ?_
  cases hfound with
  | none => exact lockstep_pure rfl
  | some hfinish =>
    refine lockstep_bind_eq (h.notify (.cons hfinish .nil)) fun _ => ?_
    exact lockstep_pure rfl

theorem processCalls : Lockstep F R Eq Tracing.processCalls Tracing.processCalls := by
  unfold Tracing.processCalls
  refine lockstep_bind h.sweep fun finished finished' hfinished => ?_
  refine lockstep_bind_eq (h.notify hfinished) fun _ => ?_
  exact lockstep_pure hfinished.length_eq

end Mirrors

end GpuTrace.Tracing
