import GpuTrace.Proofs.Collector.Lockstep
import GpuTrace.Proofs.Collector.Mirror
import GpuTrace.Proofs.Registry.Move

/-!
# Twins — the same calls under other lists and queues

Two calls are twins if they are calls of equal commands, with the same call id and the same anchor;
the list and the queue may be other ones. Twins complete with the same entries in the kernel table
and the same intervals, and with notices that agree in all but the queue
(`Profile.finish_requeued`). So collectors whose pending calls are twins complete in lockstep
(`Tracing.twins_mirrors`).
-/

namespace GpuTrace

open Fallible

/-- Calls of equal commands, each in its own registry. -/
structure Call.Twins (r r' : Registry) (call call' : Call) : Prop where
  command : ∃ c, r.command call.command = .ok c ∧ r'.command call'.command = .ok c
  anchor : call'.anchor = call.anchor
  callId : call'.callId = call.callId

def KernelFinish.Requeued (f f' : KernelFinish) : Prop :=
  f' = { f with queue := f'.queue }

structure Notice.Requeued (n n' : Notice) : Prop where
  finish : n.finish.Requeued n'.finish
  pending : n'.pending = n.pending

theorem Notice.Requeued.refl (n : Notice) : n.Requeued n :=
  ⟨rfl, rfl⟩

/-- Of a call the profile reads its id and its anchor, and passes its queue on to the notice. -/
theorem Profile.finish_requeued {call call' : Call} (hanchor : call'.anchor = call.anchor)
    (hid : call'.callId = call.callId) (command : Command) (timestamp : KernelTimestamp) :
    Lockstep False Eq KernelFinish.Requeued (finish call command timestamp)
      (finish call' command timestamp) := by
  have hsame : ∀ {α : Type} (x : Fallible Profile α), Lockstep False Eq Eq x x := by
    rintro α x p _ rfl
    cases x p with
    | ok a q => exact ⟨rfl, rfl⟩
    | error e q => exact .inr ⟨rfl, rfl⟩
  unfold finish
  rw [hanchor, hid]
  refine lockstep_bind_eq (hsame _) fun p => ?_
  refine lockstep_bind_eq (hsame _) fun window => ?_
  refine lockstep_bind_eq (hsame _) fun name => ?_
  refine lockstep_bind_eq (hsame _) fun duration => ?_
  refine lockstep_bind_eq (hsame _) fun _ => ?_
  dsimp only
  cases p.recordsIntervals
  case' true =>
    refine lockstep_bind_eq (hsame _) fun interval => ?_
    refine lockstep_bind_eq (hsame _) fun _ => ?_
  -- Only the notice at the end is made with the queue.
  all_goals
    by_cases hlate : call.anchor.hostTime < command.appendTime
    · rw [if_pos hlate, if_pos hlate]
      exact lockstep_bind_eq (lockstep_throw _) fun _ => lockstep_pure rfl
    · rw [if_neg hlate, if_neg hlate]
      exact lockstep_pure rfl

namespace Tracing

variable {r r' : Registry} {t t' : Tracing}

/-- Collectors whose pending calls are twins, with the lists of `r` and `r'`. What the application
sees of them is the same but for the queues in the notices. -/
structure Twins (r r' : Registry) (t t' : Tracing) : Prop where
  driver : t'.driver = t.driver
  now : t'.now = t.now
  notifies : t'.collector.notifies = t.collector.notifies
  profile : t'.profile = t.profile
  lists : t.registry.lists = r.lists
  lists' : t'.registry.lists = r'.lists
  pending : List.Forall₂ (Call.Twins r r') t.registry.pending t'.registry.pending
  warnings : t'.journal.warnings = t.journal.warnings
  notices : List.Forall₂ Notice.Requeued t.journal.notices.toList t'.journal.notices.toList

theorem Twins.pendingCount (h : Twins r r' t t') :
    t'.collector.pendingCount = t.collector.pendingCount :=
  h.pending.length_eq.symm

theorem Twins.notice {j j' : Journal} {fs fs' : List KernelFinish} (n : Nat)
    (hfs : List.Forall₂ KernelFinish.Requeued fs fs') (hwarnings : j'.warnings = j.warnings)
    (hnotices : List.Forall₂ Notice.Requeued j.notices.toList j'.notices.toList) :
    let k := fs.foldl (fun j f => j.notice ⟨f, n⟩) j
    let k' := fs'.foldl (fun j f => j.notice ⟨f, n⟩) j'
    k'.warnings = k.warnings ∧ List.Forall₂ Notice.Requeued k.notices.toList k'.notices.toList := by
  induction hfs generalizing j j' with
  | nil => exact ⟨hwarnings, hnotices⟩
  | cons hf _ ih =>
    refine ih hwarnings ?_
    unfold Journal.notice
    rw [Array.toList_push, Array.toList_push]
    exact List.rel_append hnotices (.cons ⟨hf, rfl⟩ .nil)

/-- Collectors whose pending calls are twins complete the same calls. -/
theorem twins_mirrors : Mirrors False (Twins r r') (Call.Twins r r') KernelFinish.Requeued where
  driver h := h.driver
  pending h := h.pending
  command {t t'} h {call call'} hcall := by
    obtain ⟨c, hc, hc'⟩ := hcall.command
    rw [Registry.command_of_lists h.lists, Registry.command_of_lists h.lists', hc, hc']
  remove {t t'} h index := by
    refine { h with pending := ?_ }
    show List.Forall₂ _ (t.registry.pending.eraseIdx index) (t'.registry.pending.eraseIdx index)
    rw [List.eraseIdx_eq_take_drop_succ, List.eraseIdx_eq_take_drop_succ]
    exact List.rel_append (List.forall₂_take _ h.pending) (List.forall₂_drop _ h.pending)
  finish {call call'} hcall command timestamp := by
    refine onProfile_lockstep fun t t' h => ?_
    rw [h.profile]
    refine (Profile.finish_requeued hcall.anchor hcall.callId command timestamp _ _ rfl).imp
      (fun _ _ hfinish => hfinish) fun p p' hp => ?_
    exact { h with profile := hp.symm }
  notify {fs fs'} hfs := by
    refine lockstep_modify fun t t' h => ?_
    obtain ⟨hwarnings, hnotices⟩ :=
      Twins.notice t.collector.pendingCount hfs h.warnings h.notices
    rw [h.notifies, h.pendingCount]
    cases t.collector.notifies with
    | false => exact h
    | true => exact { h with warnings := hwarnings, notices := hnotices }

end Tracing

end GpuTrace
