import GpuTrace.Proofs.Collector.Request
import GpuTrace.Proofs.Collector.Submission
import GpuTrace.Proofs.Profile.Punctual
import GpuTrace.Proofs.Registry.Punctual

/-!
# Punctual collectors — appends, executions and completions in time

The begin of an append reads the clock once, for the time of the command and for the anchor of its
call on an immediate list (`enterAppend_prompt`). So the end of an append, and the end of any
execution, leave a punctual registry punctual, also if they stop (`exitAppend_punctual`,
`exitExecute_punctual`).

As long as the registry is punctual, no completion stops because a call was submitted before its
append (`sweepFrom_not_early`, `completeEvent_not_early`).
-/

namespace GpuTrace

open Fallible Registry

/-- An append with an anchor is submitted at the time of its command. -/
def InFlightAppend.Prompt (append : InFlightAppend) : Prop :=
  ∀ anchor, append.anchor = some anchor → anchor.hostTime = append.command.appendTime

namespace Tracing

variable {t : Tracing}

/-! ## Appends -/

theorem anchorOn_hostTime {device : DeviceHandle} {anchor : SubmitAnchor}
    (h : t.anchorOn device = .ok anchor) : anchor.hostTime = t.now := by
  unfold anchorOn at h
  cases hticks : t.driver.maskedTimestamp device with
  | error e =>
    rw [hticks] at h
    cases h
  | ok ticks =>
    rw [hticks] at h
    cases h
    rfl

theorem enterAppend_prompt (list : CommandListHandle) (op : Operation)
    (signal : Option EventHandle) :
    Answers (fun answer => ∀ append, answer.inFlight = some append → append.Prompt)
      (enterAppend list op signal) := by
  unfold enterAppend
  refine answers_bind fun t => ?_
  split
  · exact answers_pure nofun
  · refine answers_bind fun device => answers_bind fun props =>
      answers_bind_lift fun anchor hanchor => answers_bind fun context =>
      answers_bind fun made => ?_
    split
    · exact answers_pure nofun
    · refine answers_bind fun _ => answers_bind fun frequency =>
        answers_bind_lift fun command hcommand => answers_pure ?_
      rintro _ ⟨⟩ read rfl
      -- The anchor and the command have the time of one and the same state.
      rw [anchorOn_hostTime (appendAnchor_eq_some hanchor).2, Command.eq_of_ok hcommand]

/-- The call that comes with an append is a call of its command. -/
theorem exitAppend_pending_command (append : InFlightAppend) (result : DriverResult) :
    ∀ call ∈ (final (exitAppend append result) t).registry.pending,
      call ∈ t.registry.pending ∨ append.anchor = some call.anchor ∧
        ∃ kernelId callCount, (final (exitAppend append result) t).registry.command call.command =
          .ok { append.command with kernelId, callCount } := by
  refine Ends.final (I := fun t' : Tracing => ∀ call ∈ t'.registry.pending,
    call ∈ t.registry.pending ∨ append.anchor = some call.anchor ∧
      ∃ kernelId callCount, t'.registry.command call.command =
        .ok { append.command with kernelId, callCount }) ?_
  cases result with
  | error e =>
    have hsame := releaseCommand_within append.command t
    refine hsame.imp ?_ ?_
    · rintro _ _ ⟨driver, warnings, -, rfl⟩ call hcall
      exact .inl hcall
    · rintro _ _ ⟨driver, warnings, -, rfl⟩ call hcall
      exact .inl hcall
  | ok _ =>
    have hold : ∀ {r : Registry}, r.pending = t.registry.pending → ∀ call ∈ r.pending,
        call ∈ t.registry.pending := fun h call hcall => h ▸ hcall
    unfold exitAppend
    rw [ends_bind, ends_onRegistry]
    refine (ends_self.and (addCommand_ends append.command)).imp ?_ ?_
    · rintro ref r₁ ⟨happend, hm, -⟩
      have hpending : r₁.pending = t.registry.pending := by
        cases hm
        rfl
      split
      · rename_i anchor hanchor
        rw [ends_onRegistry]
        refine (addCall_of_append happend).imp ?_ ?_
        · intro _ r' hcalls call hcall
          rcases hcalls call hcall with hbefore | ⟨rfl, hcommand⟩
          · exact .inl hbefore
          · exact .inr ⟨hanchor, hcommand⟩
        · intro _ r' hsame call hcall
          exact .inl (hold hsame call hcall)
      · intro call hcall
        exact .inl (hold hpending call hcall)
    · rintro e r₁ ⟨-, hm⟩ call hcall
      cases hm
      exact .inl hcall

theorem exitAppend_punctual (hp : t.registry.Punctual) (hwf : t.registry.WellFormed)
    {append : InFlightAppend} (hprompt : append.Prompt) (result : DriverResult) :
    (final (exitAppend append result) t).registry.Punctual := by
  have hreaches := ((exitAppend_changes append result).final t).registry
  refine hp.reaches hwf hreaches fun call hcall => ?_
  rcases exitAppend_pending_command append result call hcall with
    hold | ⟨hanchor, kernelId, callCount, hcommand⟩
  · exact .inl hold
  · have hsame := hprompt call.anchor hanchor
    refine .inr fun c immediate hc _ => ?_
    obtain rfl := Except.ok.inj (hcommand.symm.trans hc)
    exact ⟨UInt64.le_of_eq hsame.symm, fun _ => hsame⟩

/-! ## Executions -/

/-- An execution calls the commands of deferred lists that are not newer than its anchors. -/
theorem submitList_punctual (queue : QueueHandle) (list : CommandListHandle)
    (anchor : SubmitAnchor) (hp : t.registry.Punctual) (hwf : t.registry.WellFormed) :
    Ends (submitList queue list anchor) t
      (fun _ t' => t'.registry.Punctual ∧ t'.registry.WellFormed)
      (fun _ t' => t'.registry.Punctual ∧ t'.registry.WellFormed) := by
  have hcalls : (final (addCalls list queue anchor) t.registry).Punctual ∧
      (final (addCalls list queue anchor) t.registry).WellFormed := by
    have hreaches := (within_addCalls (P := fun _ => True) list queue anchor trivial
      fun _ _ => trivial).final t.registry
    refine ⟨hp.reaches hwf hreaches fun call hcall => ?_, hwf.reaches hreaches⟩
    rcases addCalls_calls list queue anchor call hcall with
      hold | ⟨rfl, hmode, c, hcommand, happended⟩
    · exact .inl hold
    · refine .inr fun c' immediate hc hmode' => ?_
      obtain rfl := Except.ok.inj (hcommand.symm.trans hc)
      obtain rfl := Option.some.inj (hmode.symm.trans hmode')
      exact ⟨happended, nofun⟩
  unfold submitList
  simp only [ends_bind, ends_get, ends_lift]
  cases t.registry.isImmediate list with
  | error e => exact ⟨hp, hwf⟩
  | ok immediate =>
    cases immediate with
    | true => exact ⟨hp, hwf⟩
    | false =>
      simp only [Bool.false_eq_true, if_false, ends_discard, ends_onRegistry]
      refine ends_self.imp ?_ ?_
      · intro _ r hadd
        rw [final_of_ok hadd] at hcalls
        exact hcalls
      · intro _ r hadd
        rw [final_of_error hadd] at hcalls
        exact hcalls

theorem exitExecute_punctual (hp : t.registry.Punctual) (hwf : t.registry.WellFormed)
    (token : SubmitToken) (result : DriverResult) :
    (final (exitExecute token result) t).registry.Punctual := by
  have hlists : ∀ (entries : List (CommandListHandle × SubmitAnchor)) (t : Tracing),
      t.registry.Punctual → t.registry.WellFormed →
      Ends (entries.forM fun entry => submitList token.queue entry.1 entry.2) t
        (fun _ t' => t'.registry.Punctual) (fun _ t' => t'.registry.Punctual) := by
    intro entries
    induction entries with
    | nil => exact fun t hp _ => hp
    | cons entry entries ih =>
      intro t hp hwf
      refine ends_bind.mpr ((submitList_punctual token.queue entry.1 entry.2 hp hwf).imp ?_ ?_)
      · rintro _ t₁ ⟨hp₁, hwf₁⟩
        exact ih t₁ hp₁ hwf₁
      · rintro _ t₁ ⟨hp₁, -⟩
        exact hp₁
  refine Ends.final (I := fun t' : Tracing => t'.registry.Punctual) ?_
  cases result with
  | error e => exact hp
  | ok _ => exact hlists token.anchors t hp hwf

/-! ## Completions -/

theorem appended_le_of_pending (hp : t.registry.Punctual) {call : Call} {c : Command}
    (hcall : call ∈ t.registry.pending) (hc : t.registry.command call.command = .ok c) :
    c.appendTime ≤ call.anchor.hostTime := by
  obtain ⟨immediate, hmode⟩ := mode_of_command hc
  exact (hp call hcall c immediate hc hmode).appended_le

theorem punctual_settled (hp : t.registry.Punctual) {before after : List Call} {call : Call}
    (hpending : t.registry.pending = before ++ call :: after) (p : Profile) :
    (t.settled (before ++ after) p).registry.Punctual := by
  intro call' hcall'
  have hsub : (before ++ after).Sublist t.registry.pending := by
    rw [hpending]
    exact (List.sublist_cons_self _ _).append_left _
  exact hp call' (hsub.subset hcall')

theorem complete_not_early (hp : t.registry.Punctual) (hwf : t.registry.WellFormed)
    {before after : List Call} {call : Call}
    (hpending : t.registry.pending = before ++ call :: after) :
    Ends (complete before.length) t (fun _ t' => ∃ p, t' = t.settled (before ++ after) p)
      (fun e _ => ¬ e.IsEarly) := by
  have hcall : call ∈ t.registry.pending := by simp [hpending]
  obtain ⟨c, hc, -⟩ := hwf.resolves call hcall
  have happended := appended_le_of_pending hp hcall hc
  rw [ends_complete hpending hc]
  cases t.driver.kernelTimestamp c.event with
  | error e => exact id
  | ok timestamp =>
    refine (Profile.finish_in_time happended timestamp t.profile).imp ?_ fun _ _ h => h
    intro _ p _
    exact ⟨p, rfl⟩

theorem sweepFrom_not_early (kept : List Call) {rest : List Call} (hp : t.registry.Punctual)
    (hwf : t.registry.WellFormed) (hpending : t.registry.pending = kept ++ rest) :
    Ends (sweepFrom kept.length rest) t (fun _ _ => True) (fun e _ => ¬ e.IsEarly) := by
  induction rest generalizing kept t with
  | nil => trivial
  | cons call rest ih =>
    obtain ⟨c, hc, -⟩ := hwf.resolves call (by simp [hpending])
    rw [ends_sweepFrom_cons hc]
    cases t.driver.eventStatus c.event with
    | failed e => exact id
    | notReady =>
      have hrest := ih (kept ++ [call]) hp hwf (by simp [hpending])
      rwa [List.length_append, List.length_singleton] at hrest
    | ready =>
      refine (complete_not_early hp hwf hpending).imp ?_ fun _ _ h => h
      rintro _ _ ⟨p, rfl⟩
      exact ih kept (punctual_settled hp hpending p) (wellFormed_settled hpending hwf p) rfl

theorem sweep_not_early (hp : t.registry.Punctual) (hwf : t.registry.WellFormed) :
    Ends sweep t (fun _ _ => True) (fun e _ => ¬ e.IsEarly) := by
  unfold sweep
  rw [ends_bind, ends_get]
  exact sweepFrom_not_early [] hp hwf rfl

theorem notify_throws {F : Fault → Prop} (finished : List KernelFinish) :
    Throws F (notify finished) := throws_modify _

theorem processCalls_not_early (hp : t.registry.Punctual) (hwf : t.registry.WellFormed) :
    Ends processCalls t (fun _ _ => True) (fun e _ => ¬ e.IsEarly) := by
  unfold processCalls
  rw [ends_bind]
  refine (sweep_not_early hp hwf).imp ?_ fun _ _ h => h
  intro finished t' _
  exact throws_bind (notify_throws finished) (fun _ => throws_pure _) t'

theorem processEvent_not_early (hp : t.registry.Punctual) (hwf : t.registry.WellFormed)
    (event : EventHandle) :
    Ends (processEvent event) t (fun _ _ => True) (fun e _ => ¬ e.IsEarly) := by
  have hcomplete : Ends (completeEvent event) t (fun _ _ => True) (fun e _ => ¬ e.IsEarly) := by
    refine ends_completeEvent hwf (fun _ => trivial) fun before call after hpending _ _ => ?_
    cases t.driver.eventStatus event with
    | notReady => trivial
    | failed e => exact id
    | ready => exact (complete_not_early hp hwf hpending).imp (fun _ _ _ => trivial) fun _ _ h => h
  unfold processEvent
  rw [ends_bind]
  refine hcomplete.imp ?_ fun _ _ h => h
  intro found t' _
  cases found with
  | none => trivial
  | some finish => exact throws_bind (notify_throws _) (fun _ => throws_pure _) t'

theorem drainAndFree_not_early (hp : t.registry.Punctual) (hwf : t.registry.WellFormed)
    {take : Fallible Registry (Array Command)} (htake : Throws (·.OfRequest) take) :
    Ends (drainAndFree take) t (fun _ _ => True) (fun e _ => ¬ e.IsEarly) := by
  unfold drainAndFree
  rw [ends_bind]
  refine (sweep_not_early hp hwf).imp ?_ fun _ _ h => h
  intro finished t' _
  have hfreed : Throws (¬ Fault.IsEarly ·) (onRegistry take) :=
    (throws_onRegistry htake).imp fun _ h => h.not_early
  refine throws_bind hfreed (fun commands => throws_bind (notify_throws finished) fun _ => ?_) t'
  exact throws_forM fun command => (releaseCommand_throws command).imp fun _ => False.elim

end Tracing

end GpuTrace
