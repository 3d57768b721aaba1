import GpuTrace.Proofs.Registry.Ids
import GpuTrace.Proofs.Registry.Reference
import GpuTrace.Proofs.Registry.Stop

/-!
# Punctual registries — no pending call is older than its command

A call carries the anchor of its submission, and its command the time of its append. On an immediate
list both are read at once; a batch refuses commands that are newer than its anchor. So a pending
call was never submitted before its command was appended (`Punctual`).

A reference that has an answer before and after some changes answers the same command, apart from
its calls, on a list in the same mode (`Reaches.stays`). So a registry stays punctual as long as the
calls that come in are in time (`Punctual.reaches`). The calls of a batch are (`addCalls_calls`).
-/

namespace GpuTrace

open Fallible

/-- A call with the anchor was submitted after the append of the command or, on an immediate list,
at the same time. -/
structure Command.InTime (c : Command) (immediate : Bool) (anchor : SubmitAnchor) : Prop where
  appended_le : c.appendTime ≤ anchor.hostTime
  at_once : immediate = true → anchor.hostTime = c.appendTime

namespace Registry

variable {P : Change → Prop} {r r' : Registry} {change : Change} {list : CommandListHandle}
  {ref : CommandRef} {c c' : Command}

def Punctual (r : Registry) : Prop :=
  ∀ call ∈ r.pending, ∀ c immediate, r.command call.command = .ok c →
    r.mode call.command.list = some immediate → c.InTime immediate call.anchor

theorem punctual_empty : empty.Punctual := nofun

/-! ## References that stay -/

theorem mode_of_command (hc : r.command ref = .ok c) :
    ∃ immediate, r.mode ref.list = some immediate := by
  obtain ⟨info, found, -⟩ := command_eq_ok_iff.mp hc
  exact ⟨info.immediate, mode_eq_some_iff.mpr ⟨info, found, rfl⟩⟩

theorem mode_of_modify {list' : CommandListHandle} (f : CommandList → CommandList)
    (hf : ∀ info : CommandList, (f info).immediate = info.immediate)
    (h : r'.lists = r.lists.modify list' f) : r'.mode list = r.mode list := by
  unfold mode
  rw [h, Table.get?_modify]
  split
  · cases r.lists.get? list with
    | none => rfl
    | some info => exact congrArg some (hf info)
  · rfl

/-- A list that is not freed keeps its mode. -/
theorem Move.same_mode (hm : Move r change r') (hfree : change.frees? ≠ some list)
    {immediate : Bool} (hmode : r.mode list = some immediate) :
    r'.mode list = some immediate := by
  cases hm with
  | spendEpoch => exact hmode
  | spendKernelId => exact hmode
  | take => exact hmode
  | caches => exact hmode
  | create absent => exact (Move.create absent).mode_of_made ⟨_, _, _, _, rfl⟩ hmode
  | reset => exact (mode_of_modify (CommandList.emptied _) (fun _ => rfl) rfl).trans hmode
  | clear => exact (mode_of_modify CommandList.clear (fun _ => rfl) rfl).trans hmode
  | append => exact (mode_of_modify (CommandList.append _) (fun _ => rfl) rfl).trans hmode
  | call => exact (mode_of_modify (CommandList.call _ _) (fun _ => rfl) rfl).trans hmode
  | @remove list' =>
    have hne : list ≠ list' := by
      rintro rfl
      exact hfree rfl
    unfold mode
    rw [Table.get?_erase, if_neg hne]
    exact hmode

/-- A reference that has an answer in the end was live all the time: it answers the same command,
with other calls, on a list in the same mode. -/
theorem Reaches.stays (h : Reaches P r r') (hwf : r.WellFormed) (hc : r.command ref = .ok c)
    (hc' : r'.command ref = .ok c') :
    (∃ callCount, c' = { c with callCount }) ∧ r'.mode ref.list = r.mode ref.list := by
  obtain ⟨immediate, hmode⟩ := mode_of_command hc
  have hphase : Spent ref r' ∨ Live ref c r' ∧ r'.mode ref.list = some immediate := by
    refine h.induct (I := fun r' => Spent ref r' ∨ Live ref c r' ∧ r'.mode ref.list = some immediate)
      (.inr ⟨live_of_command hwf hc, hmode⟩) ?_
    rintro r₁ change r₂ - hm (hspent | ⟨hlive, hmode₁⟩)
    · exact .inl (hspent.move hm)
    · by_cases hfree : change.frees? = some ref.list
      · exact .inl (hlive.spent hm hfree)
      · exact .inr ⟨hlive.move hm hfree, hm.same_mode hfree hmode₁⟩
  rcases hphase with hspent | ⟨hlive, hmode'⟩
  · obtain ⟨e, he⟩ := hspent.command_error
    rw [he] at hc'
    cases hc'
  · obtain ⟨callCount, -, hanswers⟩ := hlive.answers
    rw [hanswers] at hc'
    exact ⟨⟨callCount, (Except.ok.inj hc').symm⟩, hmode'.trans hmode.symm⟩

theorem Punctual.reaches (hr : r.Punctual) (hwf : r.WellFormed) (h : Reaches P r r')
    (hnew : ∀ call ∈ r'.pending, call ∈ r.pending ∨ ∀ c immediate,
      r'.command call.command = .ok c → r'.mode call.command.list = some immediate →
      c.InTime immediate call.anchor) : r'.Punctual := by
  intro call hcall c' immediate hc' hmode
  rcases hnew call hcall with hold | hintime
  · obtain ⟨c, hc, -⟩ := hwf.resolves call hold
    obtain ⟨⟨callCount, rfl⟩, hsame⟩ := h.stays hwf hc hc'
    obtain ⟨happended, hatOnce⟩ := hr call hold c immediate hc (hsame.symm.trans hmode)
    exact ⟨happended, hatOnce⟩
  · exact hintime c' immediate hc' hmode

theorem Punctual.subsides (hr : r.Punctual) (hwf : r.WellFormed)
    (h : Reaches (·.grows = false) r r') : r'.Punctual :=
  hr.reaches hwf h fun _ hcall => .inl (h.pending_old hcall)

/-! ## Calls that come in -/

/-- A command that is appended and called at once is called as it was appended. -/
theorem addCall_of_append {command : Command} {queue : QueueHandle} {anchor : SubmitAnchor}
    {r₁ : Registry} (happend : addCommand list command r = .ok ref r₁) :
    Ends (addCall (Call.of ref queue anchor)) r₁
      (fun _ r' => ∀ call ∈ r'.pending, call ∈ r.pending ∨ call.anchor = anchor ∧
        ∃ kernelId callCount, r'.command call.command = .ok { command with kernelId, callCount })
      (fun _ r' => r'.pending = r.pending) := by
  obtain ⟨hm, info, found, rfl⟩ := (addCommand_ends command).of_ok happend
  have hpending : r₁.pending = r.pending := by
    cases hm
    rfl
  have hc : r₁.command ⟨list, info.epoch, info.commands.size⟩ =
      .ok { command with kernelId := r.nextKernelId } := by
    cases hm with
    | append found' =>
      rw [found] at found'
      cases found'
      exact (command_of_append found rfl).mpr (.inr ⟨rfl, rfl⟩)
  refine (addCall_ends _).imp ?_ ?_
  · intro _ r' hcall call hmem
    cases hcall with
    | call found' =>
      rcases List.mem_append.mp hmem with hold | hnew
      · exact .inl (hpending ▸ hold)
      · cases List.mem_singleton.mp hnew
        obtain rfl := Except.ok.inj (found'.symm.trans hc)
        exact .inr ⟨rfl, _, _, (command_of_call found' rfl).mpr (.inl ⟨rfl, rfl⟩)⟩
  · rintro _ _ rfl
    exact hpending

/-- A batch that goes wrong before its first call leaves the registry as it was; any other calls
commands of a deferred list, and none that is newer than the anchor. -/
theorem final_addCalls (list : CommandListHandle) (queue : QueueHandle) (anchor : SubmitAnchor) :
    final (addCalls list queue anchor) r = r ∨
      ∃ info, r.lists.get? list = some info ∧ info.immediate = false ∧
        ∃ k ≤ info.timely anchor,
          final (addCalls list queue anchor) r = r.calledTo list info.clear queue anchor k := by
  have hcases : final (addCalls list queue anchor) r = r ∨
      ∃ info, r.lists.get? list = some info ∧ info.immediate = false := by
    refine Ends.final (I := fun r' => r' = r ∨ ∃ info, r.lists.get? list = some info ∧
      info.immediate = false) (addCalls_ends.imp ?_ ?_)
    · rintro _ _ ⟨info, found, deferred, -⟩
      exact .inr ⟨info, found, deferred⟩
    · rintro _ _ (hsame | ⟨info, found, deferred, -⟩)
      · exact .inl hsame
      · exact .inr ⟨info, found, deferred⟩
  rcases hcases with hsame | ⟨info, found, deferred⟩
  · exact .inl hsame
  · refine .inr ⟨info, found, deferred, info.timely anchor, Nat.le_refl _, ?_⟩
    have heq : addCalls list queue anchor r = _ := addCalls_eq found deferred
    by_cases htimely : info.timely anchor = info.commands.size
    · rw [if_pos htimely] at heq
      rw [final_of_ok heq, htimely]
    · rw [if_neg htimely] at heq
      exact final_of_error heq

/-- The commands that a batch calls are on a deferred list, and none is newer than the anchor. -/
theorem addCalls_calls (list : CommandListHandle) (queue : QueueHandle) (anchor : SubmitAnchor) :
    ∀ call ∈ (final (addCalls list queue anchor) r).pending, call ∈ r.pending ∨
      call.anchor = anchor ∧
        (final (addCalls list queue anchor) r).mode call.command.list = some false ∧
        ∃ c, (final (addCalls list queue anchor) r).command call.command = .ok c ∧
          c.appendTime ≤ anchor.hostTime := by
  intro call hcall
  rcases final_addCalls (r := r) list queue anchor with hsame | ⟨info, found, deferred, k, hk, heq⟩
  · rw [hsame] at hcall
    exact .inl hcall
  · rw [heq] at hcall ⊢
    rcases List.mem_append.mp hcall with hold | hnew
    · exact .inl hold
    · obtain ⟨slot, hslot, rfl⟩ := List.mem_mapIdx.mp hnew
      have hslot' : slot < min k info.commands.size := by
        rwa [List.length_take, Array.length_toList] at hslot
      obtain ⟨hslotk, hlt⟩ := Nat.lt_min.mp hslot'
      have hc : info.commands[slot]? = some info.commands[slot] := Array.getElem?_eq_getElem hlt
      have htimely : info.commands[slot].appendTime ≤ anchor.hostTime :=
        CommandList.appendTime_le_of_timely (Nat.lt_of_lt_of_le hslotk hk) hc
      refine .inr ⟨rfl, ?_, _, command_calledTo found hc hslotk, htimely⟩
      exact mode_eq_some_iff.mpr ⟨_, get?_put found _, deferred⟩

end Registry

end GpuTrace
