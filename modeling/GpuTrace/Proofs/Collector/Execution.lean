import GpuTrace.Proofs.Collector.Frame
import GpuTrace.Proofs.Registry.Execution

/-!
# Executions — what the hook behind an execution does

The hook goes through the entries of its token one after the other. An entry that the registry
accepts has the effect of a batch of one, an entry that it does not accept stops the hook
(`submitList_executed`). So the hook gets to the end exactly if all entries are accepted, and has
then the effect of the whole batch on the registry, and no other (`forM_submitList_executed`).
-/

namespace GpuTrace

open Fallible

namespace Tracing

open Registry

variable {t : Tracing} {queue : QueueHandle} {entry : CommandListHandle × SubmitAnchor}

/-- **One entry.** The hook goes on exactly if the registry accepts the entry. -/
theorem submitList_executed :
    Ends (submitList queue entry.1 entry.2) t
      (fun _ t' => t.registry.Accepts entry ∧
        ∃ r, t' = t.withRegistry r ∧ Executed queue [entry] t.registry r)
      (fun _ _ => ¬ t.registry.Accepts entry) := by
  unfold submitList isImmediate
  simp only [ends_bind, ends_get, ends_lift]
  cases hl : t.registry.list entry.1 with
  | error e =>
    rintro ⟨info, found, -⟩
    rw [list_eq_ok_iff.mpr found] at hl
    cases hl
  | ok info =>
    have found := list_eq_ok_iff.mp hl
    cases himmediate : info.immediate with
    | true =>
      simp only [Functor.map, Except.map, himmediate, if_true]
      refine ⟨⟨info, found, .inl himmediate⟩, t.registry, rfl, ?_⟩
      exact executed_immediate found himmediate
    | false =>
      simp only [Functor.map, Except.map, himmediate, Bool.false_eq_true, if_false]
      refine ends_discard.mpr (ends_onRegistry.mpr ?_)
      refine (addCalls_executed found himmediate).imp ?_ fun _ _ h => h
      rintro _ r ⟨haccepts, hexecuted⟩
      exact ⟨haccepts, r, rfl, hexecuted⟩

theorem forM_submitList_executed (entries : List (CommandListHandle × SubmitAnchor)) :
    Ends (entries.forM fun entry => submitList queue entry.1 entry.2) t
      (fun _ t' => (∀ entry ∈ entries, t.registry.Accepts entry) ∧
        ∃ r, t' = t.withRegistry r ∧ Executed queue entries t.registry r)
      (fun _ _ => ¬ ∀ entry ∈ entries, t.registry.Accepts entry) := by
  induction entries generalizing t with
  | nil => exact ⟨List.forall_mem_nil _, t.registry, rfl, executed_nil queue t.registry⟩
  | cons entry entries ih =>
    show Ends (submitList queue entry.1 entry.2 >>= fun _ =>
      entries.forM fun entry => submitList queue entry.1 entry.2) t _ _
    rw [ends_bind]
    refine submitList_executed.imp ?_ ?_
    · rintro - _ ⟨haccepts, r₁, rfl, hfirst⟩
      -- the first entry did not change which of the others are accepted
      have hsame : (∀ entry ∈ entries, (t.withRegistry r₁).registry.Accepts entry) ↔
          ∀ entry ∈ entries, t.registry.Accepts entry :=
        forall₂_congr fun entry _ => hfirst.accepts_iff
      refine ih.imp ?_ ?_
      · rintro - _ ⟨hrest, r₂, rfl, hlater⟩
        refine ⟨?_, r₂, rfl, hfirst.trans hlater⟩
        exact List.forall_mem_cons.mpr ⟨haccepts, hsame.mp hrest⟩
      · intro _ _ hnot hall
        exact hnot (hsame.mpr (List.forall_mem_cons.mp hall).2)
    · intro _ _ hnot hall
      exact hnot (List.forall_mem_cons.mp hall).1

end Tracing

end GpuTrace
