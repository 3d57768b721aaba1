import GpuTrace.Proofs.Collector.Submission
import GpuTrace.Proofs.Registry.Ids

/-!
# Ids of appends and executions

An append that begins has an anchor exactly if its list is immediate (`enterAppend_marks`). If the
list is still in that mode at the end of the append, the command gets the next kernel id, and on an
immediate list its first call id (`exitAppend_puts`).

An execution gives no kernel ids. Whatever its end, it leaves call ids that follow the commands, and
if it answers, each deferred list of it has a call id for each of its commands
(`exitExecute_executes`). `Issues` is what both have in common.
-/

namespace GpuTrace.Tracing

open Fallible Registry

variable {t : Tracing}

/-! ## Begin of an append -/

theorem appendAnchor_mode {list : CommandListHandle} {device : DeviceHandle}
    {anchor : Option SubmitAnchor} (h : t.appendAnchor list device = .ok anchor) :
    t.registry.mode list = some anchor.isSome := by
  rw [← isImmediate_eq_ok_iff]
  unfold appendAnchor at h
  cases himmediate : t.registry.isImmediate list with
  | error e =>
    rw [himmediate] at h
    cases h
  | ok immediate =>
    rw [himmediate] at h
    cases immediate with
    | false =>
      cases h
      rfl
    | true =>
      cases hanchor : t.anchorOn device with
      | error e =>
        simp only [hanchor, bind, Except.bind, if_true] at h
        cases h
      | ok read =>
        simp only [hanchor, bind, Except.bind, if_true] at h
        cases h
        rfl

/-- A command in flight was not called, and it has an anchor if its list is immediate. -/
structure Marked (r : Registry) (append : InFlightAppend) : Prop where
  mode : r.mode append.list = some append.anchor.isSome
  uncalled : append.command.callCount = 0

theorem enterAppend_marks (list : CommandListHandle) (op : Operation)
    (signal : Option EventHandle) :
    Ends (enterAppend list op signal) t
      (fun answer _ => ∀ append, answer.inFlight = some append → Marked t.registry append)
      (fun _ _ => True) := by
  unfold enterAppend
  rw [ends_bind, ends_get]
  split
  · exact nofun
  · refine (answers_bind fun device => answers_bind fun props =>
      answers_bind_lift fun anchor hanchor => answers_bind fun context =>
      answers_bind fun made => ?_) t
    split
    · exact answers_pure nofun
    · refine answers_bind fun _ => answers_bind fun frequency =>
        answers_bind_lift fun command hcommand => answers_pure ?_
      rintro _ ⟨⟩
      exact ⟨appendAnchor_mode hanchor, by rw [Command.eq_of_ok hcommand]⟩

/-! ## End of an append -/

def accepted (append : InFlightAppend) (kernelId : Nat) (info : CommandList) : CommandList :=
  match append.anchor with
  | none => info.append (append.command.numbered kernelId)
  | some _ => (info.append (append.command.numbered kernelId)).call info.commands.size 1

theorem bookkept_accepted {append : InFlightAppend} {info : CommandList} (h : info.Bookkept)
    (hmode : info.immediate = append.anchor.isSome) (kernelId : Nat) :
    (accepted append kernelId info).Bookkept := by
  unfold accepted
  cases hanchor : append.anchor with
  | none =>
    rw [hanchor] at hmode
    exact h.append hmode _
  | some anchor =>
    rw [hanchor] at hmode
    exact h.append_call hmode _

/-- The command is registered under the next kernel id; only its list must be there. -/
theorem exitAppend_puts {append : InFlightAppend} {info : CommandList}
    (found : t.registry.lists.get? append.list = some info)
    (uncalled : append.command.callCount = 0) :
    ∃ t', exitAppend append (.ok ()) t = .ok () t' ∧
      Puts append.list info (accepted append t.registry.nextKernelId info) 1
        t.registry t'.registry := by
  have hadd := onRegistry_of_ok (t := t) (addCommand_put found append.command)
  have hids : List.range' t.registry.nextKernelId 1 = [t.registry.nextKernelId] := rfl
  unfold exitAppend accepted
  cases hanchor : append.anchor with
  | none =>
    refine ⟨_, bind_of_ok hadd, found, rfl, ?_, rfl, rfl⟩
    rw [hids]
    rfl
  | some anchor =>
    have hput := get?_put (r := t.registry.numbered 1) found
      (info.append (append.command.numbered t.registry.nextKernelId))
    have hlast : (info.append (append.command.numbered t.registry.nextKernelId)).commands[
        info.commands.size]? = some (append.command.numbered t.registry.nextKernelId) := by
      simp [CommandList.append]
    have hcall := @addCall_put _ _ _ _ _ append.list.asQueue anchor hput hlast
    rw [show (append.command.numbered t.registry.nextKernelId).callCount + 1 = 1 by
      rw [Command.numbered, uncalled]] at hcall
    refine ⟨_, (bind_of_ok hadd).trans (onRegistry_of_ok hcall), found, ?_, ?_, rfl, rfl⟩
    · show ((t.registry.numbered 1).put _ _ |>.put _ _).lists = _
      rw [put_put]
      rfl
    · rw [hids]
      rfl

/-! ## Ids that are issued -/

/-- The ids follow the commands as before, and at most the next kernel id was given to one. -/
structure Issues (r r' : Registry) : Prop where
  bookkept : r.Bookkept → r'.Bookkept
  mode : ∀ list, r'.mode list = r.mode list
  ids : ∀ id ∈ r'.ids, id ∈ r.ids ∨ id = r.nextKernelId ∧ id < r'.nextKernelId
  next : r.nextKernelId ≤ r'.nextKernelId

theorem issues_of_eq {r r' : Registry} (h : r' = r) : Issues r r' := by
  subst h
  exact ⟨id, fun _ => rfl, fun _ hid => .inl hid, Nat.le_refl _⟩

theorem exitAppend_issues {append : InFlightAppend} (hmarked : Marked t.registry append)
    (result : DriverResult) :
    Issues t.registry (final (exitAppend append result) t).registry := by
  cases result with
  | error e =>
    obtain ⟨driver, warnings, -, hfinal⟩ := (releaseCommand_within append.command).final t
    rw [show final (exitAppend append (.error e)) t = _ from hfinal]
    exact issues_of_eq rfl
  | ok _ =>
    obtain ⟨info, found, hinfo⟩ := mode_eq_some_iff.mp hmarked.mode
    obtain ⟨t', hexit, hputs⟩ := exitAppend_puts found hmarked.uncalled
    rw [final_of_ok hexit]
    refine ⟨fun hr => ?_, hputs.mode, fun id hid => ?_, ?_⟩
    · exact hputs.bookkept hr (bookkept_accepted (hr.lists found) hinfo _)
    · have hnext := hputs.next
      rcases hputs.mem_ids hid with hold | hnew
      · exact .inl hold
      · rw [List.mem_range'_1] at hnew
        exact .inr (by omega)
    · rw [hputs.next]
      exact Nat.le_succ _

/-! ## Executions -/

structure Executes (r r' : Registry) : Prop where
  bookkept : r.Bookkept → r'.Bookkept
  mode : ∀ list, r'.mode list = r.mode list
  ids : r'.ids ⊆ r.ids
  next : r'.nextKernelId = r.nextKernelId

instance : IsPreorder Registry Executes where
  refl _ := ⟨id, fun _ => rfl, fun _ h => h, rfl⟩
  trans _ _ _ h h' := ⟨fun hr => h'.bookkept (h.bookkept hr),
    fun list => (h'.mode list).trans (h.mode list), fun _ hid => h.ids (h'.ids hid),
    h'.next.trans h.next⟩

theorem Executes.issues {r r' : Registry} (h : Executes r r') : Issues r r' :=
  ⟨h.bookkept, h.mode, fun _ hid => .inl (h.ids hid), Nat.le_of_eq h.next.symm⟩

theorem executes_calledTo {r : Registry} {list : CommandListHandle} {info : CommandList}
    {queue : QueueHandle} {anchor : SubmitAnchor} {k : Nat}
    (found : r.lists.get? list = some info) (deferred : info.immediate = false)
    (hk : k ≤ info.commands.size) :
    Executes r (r.calledTo list info.clear queue anchor k) := by
  have hputs : Puts list info (info.clear.called k) 0 r
      (r.calledTo list info.clear queue anchor k) := puts_calledTo found
  refine ⟨fun hr => hputs.bookkept hr ((hr.lists found).called deferred hk), hputs.mode, ?_, rfl⟩
  intro id hid
  rcases hputs.mem_ids hid with hold | hnew
  · exact hold
  · cases hnew

def Filled (r : Registry) (list : CommandListHandle) : Prop :=
  ∃ info, r.lists.get? list = some info ∧
    (info.immediate = false → info.callIds.length = info.commands.size)

theorem addCalls_executes (list : CommandListHandle) (queue : QueueHandle)
    (anchor : SubmitAnchor) {r : Registry} :
    Ends (addCalls list queue anchor) r
      (fun _ r' => Executes r r' ∧ Filled r' list ∧
        ∀ list', Filled r list' → Filled r' list')
      (fun _ r' => Executes r r') := by
  refine addCalls_ends.imp ?_ ?_
  · rintro _ _ ⟨info, found, deferred, rfl⟩
    have hself : Filled (r.calledTo list info.clear queue anchor info.commands.size) list := by
      refine ⟨_, get?_put found _, fun _ => ?_⟩
      rw [CommandList.length_callIds_called (Nat.le_refl _)]
      simp [CommandList.called, CommandList.clear]
    refine ⟨executes_calledTo found deferred (Nat.le_refl _), hself, ?_⟩
    rintro list' ⟨info', found', hfilled⟩
    by_cases heq : list' = list
    · rw [heq]
      exact hself
    · exact ⟨info', (get?_put_ne heq _).trans found', hfilled⟩
  · rintro _ _ (rfl | ⟨info, found, deferred, k, hk, rfl⟩)
    · exact refl_of Executes _
    · exact executes_calledTo found deferred (Nat.le_of_lt hk)

theorem submitList_executes (queue : QueueHandle) (list : CommandListHandle)
    (anchor : SubmitAnchor) :
    Ends (submitList queue list anchor) t
      (fun _ t' => Executes t.registry t'.registry ∧ Filled t'.registry list ∧
        ∀ list', Filled t.registry list' → Filled t'.registry list')
      (fun _ t' => Executes t.registry t'.registry) := by
  unfold submitList
  simp only [ends_bind, ends_get, ends_lift]
  cases himmediate : t.registry.isImmediate list with
  | error e => exact refl_of Executes _
  | ok immediate =>
    cases immediate with
    | true =>
      obtain ⟨info, found, hinfo⟩ := mode_eq_some_iff.mp (isImmediate_eq_ok_iff.mp himmediate)
      refine ⟨refl_of Executes _, ⟨info, found, fun hdeferred => ?_⟩, fun _ h => h⟩
      rw [hinfo] at hdeferred
      cases hdeferred
    | false =>
      dsimp only
      simp only [Bool.false_eq_true, if_false, ends_discard, ends_onRegistry]
      exact addCalls_executes list queue anchor

/-- **An execution, whatever its end**, leaves call ids that follow the commands; one that answers
has filled its deferred lists. -/
theorem exitExecute_executes (token : SubmitToken) (result : DriverResult) :
    Ends (exitExecute token result) t
      (fun _ t' => Executes t.registry t'.registry ∧
        (result = .ok () → ∀ entry ∈ token.anchors, Filled t'.registry entry.1))
      (fun _ t' => Executes t.registry t'.registry) := by
  have hlists : ∀ (entries : List (CommandListHandle × SubmitAnchor)) (t : Tracing),
      Ends (entries.forM fun entry => submitList token.queue entry.1 entry.2) t
        (fun _ t' => Executes t.registry t'.registry ∧
          (∀ entry ∈ entries, Filled t'.registry entry.1) ∧
          ∀ list, Filled t.registry list → Filled t'.registry list)
        (fun _ t' => Executes t.registry t'.registry) := by
    intro entries
    induction entries with
    | nil => exact fun t => ⟨refl_of Executes _, nofun, fun _ h => h⟩
    | cons entry entries ih =>
      intro t
      refine ends_bind.mpr ((submitList_executes token.queue entry.1 entry.2).imp ?_
        fun _ _ h => h)
      rintro _ t₁ ⟨h₁, hfilled, hkept⟩
      refine (ih t₁).imp ?_ fun _ _ h₂ => trans_of Executes h₁ h₂
      rintro _ t₂ ⟨h₂, hrest, hkept'⟩
      refine ⟨trans_of Executes h₁ h₂, ?_, fun list h => hkept' list (hkept list h)⟩
      exact List.forall_mem_cons.mpr ⟨hkept' _ hfilled, hrest⟩
  cases result with
  | error e => exact ⟨refl_of Executes _, nofun⟩
  | ok _ => exact (hlists token.anchors t).imp (fun _ _ h => ⟨h.1, fun _ => h.2.1⟩) fun _ _ h => h

theorem exitExecute_issues (token : SubmitToken) (result : DriverResult) :
    Issues t.registry (final (exitExecute token result) t).registry :=
  Ends.final ((exitExecute_executes token result).imp (fun _ _ h => h.1.issues)
    fun _ _ h => h.issues)

end GpuTrace.Tracing
