import GpuTrace.Proofs.Collector.Punctual
import GpuTrace.Proofs.Session.History
import GpuTrace.Proofs.Session.Request
import GpuTrace.Proofs.Session.Turn

/-!
# Punctual sessions — the times of every call are in order

At every point of every session, also after faults, no pending call was submitted before its command
was appended, and each append in flight has the time of its anchor (`Punctual.next`). So no step
stops because a completed call comes before its append, and in every notice the times of append,
submission, start and end are in order (`times_in_order`).

It is enough to know the tokens and the pending calls: a call comes in with a token, and its command
stays the same until the call is completed.
-/

namespace GpuTrace.Session

open Fallible Tracing

variable {s s' : Session} {a : Action}

/-- Pending calls are in time, and appends in flight have the time of their anchor. -/
structure Punctual (s : Session) : Prop where
  registry : ∀ c, s.collector = some c → c.registry.Punctual
  prompt : ∀ token append, s.appends.get? token = some append → append.Prompt

theorem punctual_of (driver : Driver) (now : UInt64) : (of driver now).Punctual where
  registry := by
    intro c hc
    cases hc
  prompt := by
    intro token append found
    cases found

/-! ## One action -/

namespace Punctual

variable (h : s.Punctual)

include h

theorem fewer (hregistry : ∀ c, s'.collector = some c → c.registry.Punctual)
    (happends : ∀ token append, s'.appends.get? token = some append →
      s.appends.get? token = some append) : s'.Punctual where
  registry := hregistry
  prompt token append found := h.prompt token append (happends token append found)

theorem turn {result : Except Fault Answer} (hwf : s.RegistryWellFormed)
    (hturn : Turn s a result s') : s'.Punctual := by
  cases hturn with
  | idle _ appends_from =>
    refine h.fewer h.registry fun token append found => ?_
    rcases appends_from with rfl | ⟨token', rfl⟩
    · exact found
    · exact Table.get?_of_erase found
  | hooked _ at_work subsides =>
    refine h.fewer ?_ fun _ _ found => found
    rintro _ ⟨⟩
    exact (h.registry _ at_work).subsides (hwf _ at_work) subsides.changes.registry
  | @begun token list op signal c append event t at_work enter =>
    have hprompt := (enterAppend_prompt list op signal _).of_ok enter append rfl
    obtain ⟨driver, warnings, -, rfl⟩ := (Tracing.enterAppend_within list op signal _).of_ok enter
    constructor
    · rintro _ ⟨⟩
      exact h.registry c at_work
    · intro token' append' found
      dsimp only at found
      rw [Table.get?_insert] at found
      split at found
      · cases found
        exact hprompt
      · exact h.prompt token' append' found
  | @unbegun token list op signal result c _ at_work =>
    obtain ⟨driver, warnings, -, hfinal⟩ :=
      (Tracing.enterAppend_within list op signal).final (s.tracing c)
    rw [hfinal]
    refine h.fewer ?_ fun _ _ found => found
    rintro _ ⟨⟩
    exact h.registry c at_work
  | @ended token r append result c _ at_work found =>
    refine h.fewer ?_ fun _ _ => Table.get?_of_erase
    rintro _ ⟨⟩
    exact exitAppend_punctual (t := s.tracing c) (h.registry c at_work) (hwf c at_work)
      (h.prompt token append found) r
  | planned at_work => exact h.fewer h.registry fun _ _ found => found
  | @executed token r submit result c _ at_work =>
    refine h.fewer ?_ fun _ _ found => found
    rintro _ ⟨⟩
    exact exitExecute_punctual (t := s.tracing c) (h.registry c at_work) (hwf c at_work) submit r

theorem next (hwf : s.RegistryWellFormed) (a : Action) : (next s a).Punctual := by
  cases hout : a.isOutside with
  | true =>
    obtain ⟨driver, now, -, hs⟩ := step_within (s := s) (outside_within a hout)
    rw [Session.next, hs]
    exact h.fewer h.registry fun _ _ found => found
  | false =>
    cases hlife : a.isLifecycle with
    | true =>
      have haside := step_within (s := s) (lifecycle_aside hlife)
      refine h.fewer (fun c hc => ?_) fun _ _ found => haside.appends ▸ found
      -- A collector that was not there before has nothing pending.
      rcases haside.collector c hc with hempty | hold
      · rw [hempty]
        exact Registry.punctual_empty
      · exact h.registry c hold
    | false => exact h.turn hwf (step_turn hout hlife)

theorem run (hwf : s.RegistryWellFormed) (actions : List Action) :
    (s.run actions).Punctual := by
  induction actions generalizing s with
  | nil => exact h
  | cons a actions ih => exact ih (h.next hwf a) (hwf.next a)

/-! ## Faults -/

theorem trace_not_early {α : Type} (hwf : s.RegistryWellFormed) {step : Fallible Tracing α}
    (hstep : ∀ t : Tracing, t.registry.Punctual → t.registry.WellFormed →
      Ends step t (fun _ _ => True) (fun e _ => ¬ e.IsEarly)) :
    Ends (trace step) s (fun _ _ => True) (fun e _ => ¬ e.IsEarly) := by
  rw [ends_trace]
  cases hc : s.collector with
  | none => trivial
  | some c => exact hstep (s.tracing c) (h.registry c hc) (hwf c hc)

theorem hook_not_early (hwf : s.RegistryWellFormed) {step : Fallible Tracing Unit}
    (hstep : ∀ t : Tracing, t.registry.Punctual → t.registry.WellFormed →
      Ends step t (fun _ _ => True) (fun e _ => ¬ e.IsEarly)) :
    Ends (Action.hook step) s (fun _ _ => True) (fun e _ => ¬ e.IsEarly) :=
  ends_bind.mpr ((h.trace_not_early hwf hstep).imp (fun _ _ _ => trivial) fun _ _ he => he)

theorem completing_not_early (hwf : s.RegistryWellFormed) (ha : a.completes = true) :
    Ends a.perform s (fun _ _ => True) (fun e _ => ¬ e.IsEarly) := by
  have hevent : ∀ event, Ends (Action.hook (discard (Tracing.processEvent event))) s
      (fun _ _ => True) (fun e _ => ¬ e.IsEarly) := fun event =>
    h.hook_not_early hwf fun _ hp hwf => ends_discard.mpr (processEvent_not_early hp hwf event)
  have hcalls : Ends (Action.hook (discard Tracing.processCalls)) s
      (fun _ _ => True) (fun e _ => ¬ e.IsEarly) :=
    h.hook_not_early hwf fun _ hp hwf => ends_discard.mpr (processCalls_not_early hp hwf)
  cases a with
  | exitListDestroy list result =>
    cases result with
    | error _ => cases ha
    | ok _ => exact h.hook_not_early hwf fun _ hp hwf =>
        drainAndFree_not_early hp hwf (Registry.removeList_throws list)
  | exitListReset list result =>
    cases result with
    | error _ => cases ha
    | ok _ => exact h.hook_not_early hwf fun _ hp hwf =>
        drainAndFree_not_early hp hwf (Registry.resetList_throws list)
  | exitQueueSynchronize result | exitQueueDestroy _ result =>
    cases result with
    | error _ => cases ha
    | ok _ => exact hcalls
  | exitEventHostSynchronize event result =>
    cases result with
    | error _ => cases ha
    | ok _ => exact hevent event
  | enterEventDestroy event | enterEventHostReset event => exact hevent event
  | processEvent event =>
    refine ends_bind.mpr ((h.trace_not_early hwf fun _ hp hwf =>
      processEvent_not_early hp hwf event).imp ?_ fun _ _ he => he)
    intro found _ _
    cases found <;> trivial
  | processCalls =>
    refine ends_bind.mpr ((h.trace_not_early hwf fun _ hp hwf =>
      processCalls_not_early hp hwf).imp ?_ fun _ _ he => he)
    intro count _ _
    cases count <;> trivial
  | _ => cases ha

/-- No step stops because a call was submitted before its command was appended. -/
theorem step_not_early (hwf : s.RegistryWellFormed) (a : Action) (kernelId : Nat) :
    (s.step a).1 ≠ .error (.callBeforeAppend kernelId) := by
  have hends : Ends a.perform s (fun _ _ => True) (fun e _ => ¬ e.IsEarly) := by
    cases hcompletes : a.completes with
    | true => exact h.completing_not_early hwf hcompletes
    | false => exact ((perform_requests hcompletes).imp fun _ he => he.not_early) s
  intro hearly
  rcases step_of_ends hends with ⟨answer, hok, -⟩ | ⟨e, he, hnot⟩
  · rw [hok] at hearly
    cases hearly
  · rw [he] at hearly
    cases hearly
    exact hnot trivial

/-! ## Notices -/

theorem finishes_inTime {f : Finished} (hf : f ∈ s.finishes a) : f.InTime := by
  obtain ⟨c, hc⟩ : ∃ c, s.collector = some c := by
    rcases Option.eq_none_or_eq_some s.collector with hnone | hsome
    · rw [finishes, hnone] at hf
      cases hf
    · exact hsome
  obtain ⟨call, hcall, hfinished⟩ := of_mem_finishes hc hf
  obtain ⟨rfl, hcommand, -⟩ := finished?_cases hfinished
  exact f.inTime (appended_le_of_pending (t := s.tracing c) (h.registry c hc) hcall hcommand)

theorem history_inTime (hwf : s.RegistryWellFormed) (actions : List Action) :
    ∀ f ∈ s.history actions, f.InTime := by
  induction actions generalizing s with
  | nil => exact nofun
  | cons a actions ih =>
    intro f hf
    rcases List.mem_append.mp hf with hnow | hlater
    · exact h.finishes_inTime hnow
    · exact ih (h.next hwf a) (hwf.next a) f hlater

end Punctual

theorem lifecycle_notices (ha : a.isLifecycle = true) :
    (next s a).journal.notices = s.journal.notices := by
  have hends : Ends a.perform s (fun _ s' => s'.journal.notices = s.journal.notices)
      (fun _ s' => s'.journal.notices = s.journal.notices) := by
    cases a with
    | create config notifies =>
      refine ends_bind.mpr ((createCollector_ends config notifies).imp ?_ ?_)
      · intro made s' hmade
        cases made with
        | error e =>
          obtain ⟨driver, -, rfl⟩ := hmade
          rfl
        | ok _ =>
          obtain ⟨c, driver, warnings, -, -, -, rfl⟩ := hmade
          rfl
      · rintro _ _ rfl
        rfl
    | createOrWarn config notifies =>
      refine ends_bind.mpr ((createOrWarn_ends config notifies).imp ?_ ?_)
      · intro made s' hmade
        cases made with
        | false =>
          obtain ⟨driver, warnings, -, rfl⟩ := hmade
          rfl
        | true =>
          obtain ⟨c, driver, warnings, -, -, -, rfl⟩ := hmade
          rfl
      · rintro _ _ rfl
        rfl
    | drop =>
      refine ends_bind.mpr (dropCollector_ends.imp_ok ?_)
      rintro _ _ ⟨driver, warnings, -, rfl⟩
      rfl
    | _ => cases ha
  rcases step_of_ends hends with ⟨-, -, h⟩ | ⟨-, -, h⟩
  · exact h
  · exact h

theorem Turn.journal_of_none {result : Except Fault Answer} (hturn : Turn s a result s')
    (hc : s.collector = none) : s'.journal = s.journal := by
  have habsent : ∀ {c}, s.collector ≠ some c := by
    rw [hc]
    exact nofun
  cases hturn with
  | idle | planned => rfl
  | begun at_work => exact absurd at_work habsent
  | hooked _ at_work | unbegun _ at_work | ended _ at_work | executed _ at_work =>
    exact absurd at_work habsent

theorem told_next (hwf : s.RegistryWellFormed) (a : Action) :
    ∀ finish ∈ told (next s a).journal,
      finish ∈ told s.journal ∨ ∃ f ∈ s.finishes a, f.notice = finish := by
  intro finish hfinish
  have hquiet : (next s a).journal.notices = s.journal.notices → finish ∈ told s.journal := by
    intro hsame
    rwa [told, hsame] at hfinish
  cases hlife : a.isLifecycle with
  | true => exact .inl (hquiet (lifecycle_notices hlife))
  | false =>
    cases hc : s.collector with
    | some c =>
      rcases step_of_ends (perform_took hc (hwf c hc) hlife) with
        ⟨-, -, c', hc', htook⟩ | ⟨-, -, c', hc', hbroke⟩
      · rw [next, told_of_took htook] at hfinish
        rcases List.mem_append.mp hfinish with hold | hnew
        · exact .inl hold
        · split at hnew
          · exact .inr (List.mem_map.mp hnew)
          · cases hnew
      · have hsame : told (next s a).journal = told s.journal := hbroke.told
        exact .inl (hsame ▸ hfinish)
    | none =>
      cases hout : a.isOutside with
      | true =>
        obtain ⟨driver, now, -, hs⟩ := step_within (s := s) (outside_within a hout)
        exact .inl (hquiet (by rw [next, hs]))
      | false =>
        have hsame : (next s a).journal = s.journal := (step_turn hout hlife).journal_of_none hc
        exact .inl (hquiet (congrArg _ hsame))

theorem told_run (hwf : s.RegistryWellFormed) (actions : List Action) :
    ∀ finish ∈ told (s.run actions).journal,
      finish ∈ told s.journal ∨ ∃ f ∈ s.history actions, f.notice = finish := by
  induction actions generalizing s with
  | nil => exact fun _ hfinish => .inl hfinish
  | cons a actions ih =>
    intro finish hfinish
    rcases ih (hwf.next a) finish hfinish with hearlier | ⟨f, hf, hnotice⟩
    · rcases told_next hwf a finish hearlier with hold | ⟨f, hf, hnotice⟩
      · exact .inl hold
      · exact .inr ⟨f, List.mem_append_left _ hf, hnotice⟩
    · exact .inr ⟨f, List.mem_append_right _ hf, hnotice⟩

/-! ## All runs -/

/-- **Every call is ordered in time.** After any actions and any faults:

* A pending call was submitted after its command was appended and, on an immediate list, at the same
  time. So finishing it, whatever its ticks and whatever the profile, does not stop because it comes
  before its append, and the times in its notice are in order.
* No step stops for that reason.
* The calls that the run finished are in time, and all notices that were given are of such calls. -/
theorem times_in_order (driver : Driver) (now : UInt64) (actions : List Action) :
    let s := (of driver now).run actions
    (∀ c, s.collector = some c → ∀ call ∈ c.registry.pending, ∃ command info,
      c.registry.command call.command = .ok command ∧
      c.registry.lists.get? call.command.list = some info ∧
      command.InTime info.immediate call.anchor ∧
      ∀ timestamp p, Ends (Profile.finish call command timestamp) p
        (fun finish _ => ∃ f, Finished.of? call command timestamp = some f ∧
          finish = f.notice ∧ f.InTime)
        (fun e _ => ¬ e.IsEarly)) ∧
    (∀ a kernelId, (s.step a).1 ≠ .error (.callBeforeAppend kernelId)) ∧
    (∀ f ∈ (of driver now).history actions, f.InTime) ∧
    ∀ finish ∈ told s.journal, ∃ f ∈ (of driver now).history actions, f.notice = finish := by
  intro s
  have hstart := punctual_of driver now
  have hwfStart := registryWellFormed_of driver now
  have h : s.Punctual := hstart.run hwfStart actions
  have hwf : s.RegistryWellFormed := hwfStart.run actions
  refine ⟨fun c hc call hcall => ?_, fun a kernelId => h.step_not_early hwf a kernelId,
    hstart.history_inTime hwfStart actions, fun finish hfinish => ?_⟩
  · obtain ⟨command, hcommand, -⟩ := (hwf c hc).resolves call hcall
    obtain ⟨info, found, -⟩ := Registry.command_eq_ok_iff.mp hcommand
    have hmode : c.registry.mode call.command.list = some info.immediate :=
      Registry.mode_eq_some_iff.mpr ⟨info, found, rfl⟩
    have hintime := h.registry c hc call hcall command info.immediate hcommand hmode
    exact ⟨command, info, hcommand, found, hintime,
      fun timestamp p => Profile.finish_in_time hintime.appended_le timestamp p⟩
  · rcases told_run hwfStart actions finish hfinish with hold | hnew
    · cases hold
    · exact hnew

/-- A barrier is appended at 7 and executed at 12; its ticks are a million nanoseconds long. -/
example :
    (told ((of .standard 7).run
      [.addDevice 1000 0, .create .default true, .exitListCreate ⟨5⟩ ⟨4⟩ ⟨1⟩ false (.ok ()),
        .enterAppend 0 ⟨5⟩ .barrier none, .exitAppend 0 (.ok ()), .advanceClock 5,
        .enterExecute 0 ⟨9⟩ [⟨5⟩], .exitExecute 0 (.ok ()), .signal ⟨4⟩ ⟨10, 20⟩,
        .processCalls]).journal).map (fun k => (k.appended, k.submitted, k.started, k.ended)) =
      [(7, 12, 10000012, 20000012)] := by
  decide +kernel

end GpuTrace.Session
