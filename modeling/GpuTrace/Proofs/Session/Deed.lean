import GpuTrace.Proofs.Collector.Completion
import GpuTrace.Proofs.Session.Frame

/-!
# Deeds — what an action that ended with an answer has done

While a collector is there and its registry is well formed, an action that ends with
an answer has done one of a few things (`step_deed`). An invariant of faultless runs is
one case for each of them, and no case opens a hook.
-/

namespace GpuTrace

/-- Actions on the collector, other than the beginning and the end of an append. -/
def Action.isHook : Action → Bool
  | .setEnabled _ | .enterExecute .. | .exitExecute .. | .exitListCreate .. | .exitListDestroy ..
  | .exitListReset .. | .exitQueueSynchronize _ | .exitQueueDestroy .. | .enterEventDestroy _
  | .enterEventHostReset _ | .exitEventHostSynchronize .. | .exitKernelSetGroupSize ..
  | .exitKernelDestroy .. | .exitImageCreate .. | .exitImageDestroy .. | .processEvent _
  | .processCalls => true
  | _ => false

def Action.teardown? : Action → Option CommandListHandle
  | .exitListDestroy list (.ok ()) | .exitListReset list (.ok ()) => some list
  | _ => none

theorem Action.isHook_of_teardown {a : Action} {list : CommandListHandle}
    (h : a.teardown? = some list) : a.isHook = true := by
  cases a <;> first | rfl | cases h

deriving instance DecidableEq for Answer

namespace Tracing

/-- The append was registered, and its call queued on an immediate list. -/
def Registers (append : InFlightAppend) (t t' : Tracing) : Prop :=
  ∃ r₁ r₂, Registry.Move t.registry (.append append.list append.command) r₁ ∧
    (r₂ = r₁ ∨ ∃ call, Registry.Move r₁ (.call call) r₂) ∧ t' = t.withRegistry r₂

end Tracing

namespace Session

open Fallible Tracing

/-- What an action did to a session with a collector at work. -/
inductive Deed (s : Session) (c : Collector) : Action → Answer → Session → Prop
  | outside {a answer driver now} (ha : a.isOutside = true)
      (evolves : s.driver.Evolves a.license driver) : Deed s c a answer { s with driver, now }
  /-- Nothing, or plain changes of the registry. -/
  | noted {a answer t} (ha : a.isHook = true) (submits : Table Nat SubmitToken)
      (changes : ViaRegistry (·.isPlain = true) (s.tracing c) t) :
      Deed s c a answer { s.after t with submits }
  | entered {list op signal answer t} (token : Nat)
      (enter : Tracing.enterAppend list op signal (s.tracing c) = .ok answer t) :
      Deed s c (.enterAppend token list op signal) (.append answer) { s.after t with
        appends := match answer.inFlight with
          | some append => s.appends.insert token append
          | none => s.appends }
  /-- No append has the token. -/
  | idle {token result answer} (absent : s.appends.get? token = none) :
      Deed s c (.exitAppend token result) answer s
  | registered {token append answer t} (found : s.appends.get? token = some append)
      (registers : Registers append (s.tracing c) t) :
      Deed s c (.exitAppend token (.ok ())) answer { s.after t with
        appends := s.appends.erase token }
  | refused {token append answer e t} (found : s.appends.get? token = some append)
      (released : releaseCommand append.command (s.tracing c) = .ok () t) :
      Deed s c (.exitAppend token (.error e)) answer { s.after t with
        appends := s.appends.erase token }
  | completed {a answer finished t₁ t₂} (ha : a.isHook = true)
      (settles : Settles (s.tracing c) finished t₁)
      (told : notify finished t₁ = .ok () t₂) : Deed s c a answer (s.after t₂)
  | freed {a answer list change info finished t₁ r t₂ t₃} (ha : a.teardown? = some list)
      (settles : Settles (s.tracing c) finished t₁)
      (found : t₁.registry.lists.get? list = some info)
      (hc : change.frees? = some list) (move : Registry.Move t₁.registry change r)
      (told : notify finished (t₁.withRegistry r) = .ok () t₂)
      (released : releaseCommands info.commands.toList t₂ = .ok () t₃) :
      Deed s c a answer (s.after t₃)
  | toggled {enabled answer} (on : Bool) : Deed s c (.setEnabled enabled) answer { s with
      driver := (s.driver.setEnabled c.tracer enabled).2
      collector := some { c with enabled := on } }

variable {α : Type} {s : Session} {c : Collector} {a : Action} {answer : Answer}

theorem Deed.nothing (hc : s.collector = some c) (ha : a.isHook = true) : Deed s c a answer s := by
  have h : Deed s c a answer { s.after (s.tracing c) with submits := s.submits } :=
    .noted ha s.submits (refl_of (ViaRegistry _) _)
  rwa [after_tracing hc] at h

/-! ## Hooks -/

theorem trace_deed (hc : s.collector = some c) {step : Fallible Tracing α}
    {Q : Option α → Session → Prop}
    (h : Ends step (s.tracing c) (fun x t => Q (some x) (s.after t)) (fun _ _ => True)) :
    Ends (trace step) s Q (fun _ _ => True) := by
  rw [ends_trace, hc]
  exact h

theorem hook_deed (hc : s.collector = some c) {step : Fallible Tracing Unit}
    (h : Ends step (s.tracing c) (fun _ t => ∀ answer, Deed s c a answer (s.after t))
      (fun _ _ => True)) :
    Ends (Action.hook step) s (fun answer s' => Deed s c a answer s') (fun _ _ => True) := by
  unfold Action.hook
  rw [ends_bind]
  exact trace_deed hc (h.imp (fun _ _ hdeed => hdeed _) (fun _ _ h => h))

theorem refused_deed (hc : s.collector = some c) (ha : a.isHook = true) :
    Ends (Action.hook (return ())) s (fun answer s' => Deed s c a answer s') (fun _ _ => True) := by
  refine hook_deed hc fun answer => ?_
  show Deed s c a answer (s.after (s.tracing c))
  rw [after_tracing hc]
  exact .nothing hc ha

theorem noted_deed {step : Fallible Tracing α} (ha : a.isHook = true)
    (h : Within (ViaRegistry (·.isPlain = true)) step) :
    Ends step (s.tracing c) (fun _ t => ∀ answer, Deed s c a answer (s.after t))
      (fun _ _ => True) :=
  (h _).imp (fun _ _ ht _ => .noted ha s.submits ht) (fun _ _ _ => trivial)

theorem processEvent_deed (hwf : c.registry.WellFormed) (ha : a.isHook = true)
    (event : EventHandle) :
    Ends (processEvent event) (s.tracing c) (fun _ t => ∀ answer, Deed s c a answer (s.after t))
      (fun _ _ => True) := by
  unfold processEvent
  rw [ends_bind]
  refine (completeEvent_ends (t := s.tracing c) hwf event).imp ?_ fun _ _ _ => trivial
  intro found t₁ settles
  cases found with
  | none => exact fun _ => .completed ha settles (notify_nil t₁)
  | some f =>
    simp only [ends_bind, ends_pure]
    exact ends_self.imp (fun _ t₂ told _ => .completed ha settles told) (fun _ _ _ => trivial)

theorem processCalls_deed (hwf : c.registry.WellFormed) (ha : a.isHook = true) :
    Ends processCalls (s.tracing c) (fun _ t => ∀ answer, Deed s c a answer (s.after t))
      (fun _ _ => True) := by
  unfold processCalls
  rw [ends_bind]
  refine (sweep_ends (t := s.tracing c) hwf).imp ?_ fun _ _ _ => trivial
  intro finished t₁ settles
  simp only [ends_bind, ends_pure]
  exact ends_self.imp (fun _ t₂ told _ => .completed ha settles told) (fun _ _ _ => trivial)

theorem drainAndFree_deed (hwf : c.registry.WellFormed) {list : CommandListHandle}
    (ha : a.teardown? = some list) {take : Fallible Registry (Array Command)}
    (htake : ∀ r, Ends take r
      (fun commands r' => ∃ change info, change.frees? = some list ∧ Registry.Move r change r' ∧
        r.lists.get? list = some info ∧ commands = info.commands) (fun _ _ => True)) :
    Ends (drainAndFree take) (s.tracing c) (fun _ t => ∀ answer, Deed s c a answer (s.after t))
      (fun _ _ => True) := by
  unfold drainAndFree
  rw [ends_bind]
  refine (sweep_ends (t := s.tracing c) hwf).imp ?_ fun _ _ _ => trivial
  intro finished t₁ settles
  simp only [ends_bind, ends_onRegistry]
  refine (htake _).imp ?_ fun _ _ _ => trivial
  rintro _ r ⟨change, info, hfrees, move, found, rfl⟩
  refine ends_self.imp ?_ fun _ _ _ => trivial
  intro _ t₂ told
  exact ends_self.imp (fun _ t₃ released _ => .freed ha settles found hfrees move told released)
    (fun _ _ _ => trivial)

theorem exitAppend_registers (append : InFlightAppend) (t : Tracing) :
    Ends (Tracing.exitAppend append (.ok ())) t (fun _ t' => Registers append t t')
      (fun _ _ => True) := by
  unfold Tracing.exitAppend
  simp only [ends_bind, ends_onRegistry]
  refine (Registry.addCommand_ends append.command).imp ?_ fun _ _ _ => trivial
  rintro ref r₁ ⟨move, -⟩
  split
  · rw [ends_onRegistry]
    exact (Registry.addCall_ends _).imp (fun _ r₂ call => ⟨r₁, r₂, move, .inr ⟨_, call⟩, rfl⟩)
      (fun _ _ _ => trivial)
  · exact ⟨r₁, r₁, move, .inl rfl, rfl⟩

/-! ## Actions -/

theorem setEnabled_deed (hc : s.collector = some c) (enabled : Bool) :
    Ends (Action.setEnabled enabled).perform s
      (fun answer s' => Deed s c (.setEnabled enabled) answer s') (fun _ _ => True) := by
  refine ends_bind.mpr (trace_deed hc ?_)
  unfold Tracing.setEnabled
  simp only [ends_bind, ends_get, Tracing.ends_onDriver]
  split
  · exact .toggled c.enabled
  · exact .toggled enabled

theorem enterAppend_deed (hc : s.collector = some c) (token : Nat) (list : CommandListHandle)
    (op : Operation) (signal : Option EventHandle) :
    Ends (Action.enterAppend token list op signal).perform s
      (fun answer s' => Deed s c (.enterAppend token list op signal) answer s')
      (fun _ _ => True) := by
  refine ends_bind.mpr ?_
  unfold Session.enterAppend
  refine ends_bind.mpr (trace_deed hc (ends_self.imp ?_ fun _ _ _ => trivial))
  intro answer t enter
  have hdeed := Deed.entered (s := s) token enter
  cases hf : answer.inFlight with
  | none =>
    rw [hf] at hdeed
    simp only [Option.bind_some, hf, ends_pure]
    exact hdeed
  | some append =>
    rw [hf] at hdeed
    simp only [Option.bind_some, hf, ends_bind, ends_modify, ends_pure]
    exact hdeed

theorem exitAppend_deed (hc : s.collector = some c) (token : Nat) (result : DriverResult) :
    Ends (Action.exitAppend token result).perform s
      (fun answer s' => Deed s c (.exitAppend token result) answer s') (fun _ _ => True) := by
  refine ends_bind.mpr ?_
  cases hf : s.appends.get? token with
  | none =>
    have hcontains : s.appends.contains token = false := by simp [Table.contains, hf]
    simpa [hcontains] using Deed.idle hf
  | some append =>
    have hcontains : s.appends.contains token = true := by simp [Table.contains, hf]
    have hc' : ({ s with appends := s.appends.erase token } : Session).collector = some c := hc
    simp only [ends_get, hcontains, Bool.not_true, Bool.false_eq_true, if_false]
    unfold Session.exitAppend
    simp only [ends_bind, ends_get, hf, ends_modify]
    cases result with
    | error e =>
      exact trace_deed hc' (ends_self.imp (fun _ t h => .refused hf h) (fun _ _ _ => trivial))
    | ok _ =>
      exact trace_deed hc' ((exitAppend_registers append _).imp (fun _ t h => .registered hf h)
        (fun _ _ _ => trivial))

theorem enterExecute_deed (hc : s.collector = some c) (token : Nat) (queue : QueueHandle)
    (lists : List CommandListHandle) :
    Ends (Action.enterExecute token queue lists).perform s
      (fun answer s' => Deed s c (.enterExecute token queue lists) answer s')
      (fun _ _ => True) := by
  have hquiet : ∀ {t : Tracing} {answer} (submits : Table Nat SubmitToken), s.tracing c = t →
      Deed s c (.enterExecute token queue lists) answer { s.after t with submits } := by
    rintro _ _ submits rfl
    exact .noted rfl submits (refl_of (ViaRegistry _) _)
  refine ends_bind.mpr ?_
  unfold Session.enterExecute
  refine ends_bind.mpr (trace_deed hc ((Tracing.enterExecute_within queue lists _).imp ?_
    fun _ _ _ => trivial))
  intro answer t ht
  cases answer with
  | none => exact hquiet s.submits ht
  | some submit => exact hquiet _ ht

theorem exitExecute_deed (hc : s.collector = some c) (token : Nat) (result : DriverResult) :
    Ends (Action.exitExecute token result).perform s
      (fun answer s' => Deed s c (.exitExecute token result) answer s') (fun _ _ => True) := by
  refine ends_bind.mpr ?_
  cases hf : s.submits.get? token with
  | none =>
    have hcontains : s.submits.contains token = false := by simp [Table.contains, hf]
    simpa [hcontains] using Deed.nothing hc rfl
  | some submit =>
    have hcontains : s.submits.contains token = true := by simp [Table.contains, hf]
    have hc' : ({ s with submits := s.submits.erase token } : Session).collector = some c := hc
    have hcalls := Tracing.exitExecute_within (P := (·.isPlain = true)) submit result
      (fun _ => rfl) (fun _ _ _ _ => rfl)
    simp only [ends_get, hcontains, Bool.not_true, Bool.false_eq_true, if_false]
    unfold Session.exitExecute
    simp only [ends_bind, ends_get, hf, ends_modify]
    exact trace_deed hc' ((hcalls _).imp (fun _ t h => .noted rfl _ h) (fun _ _ _ => trivial))

/-- An action that ends with an answer, and neither makes nor forgets a collector, has
done a deed. -/
theorem perform_deed (hc : s.collector = some c) (hwf : c.registry.WellFormed)
    (ha : a.isLifecycle = false) :
    Ends a.perform s (fun answer s' => Deed s c a answer s') (fun _ _ => True) := by
  cases hout : a.isOutside with
  | true =>
    have houtside : ∀ answer s', Outside a.license s s' → Deed s c a answer s' := by
      rintro answer _ ⟨driver, now, hd, rfl⟩
      exact .outside hout hd
    exact (outside_within a hout s).imp houtside (fun _ _ _ => trivial)
  | false =>
    cases a with
    | setEnabled enabled => exact setEnabled_deed hc enabled
    | enterAppend token list op signal => exact enterAppend_deed hc token list op signal
    | exitAppend token result => exact exitAppend_deed hc token result
    | enterExecute token queue lists => exact enterExecute_deed hc token queue lists
    | exitExecute token result => exact exitExecute_deed hc token result
    | exitListCreate list context device immediate result =>
      exact hook_deed hc (noted_deed rfl
        (exitListCreate_within list context device immediate result rfl))
    | exitListDestroy list result =>
      cases result with
      | error e => exact refused_deed hc rfl
      | ok _ =>
        refine hook_deed hc (drainAndFree_deed hwf rfl fun r =>
          Registry.removeList_ends.imp ?_ fun _ _ _ => trivial)
        rintro commands r' ⟨move, info, found, rfl⟩
        exact ⟨_, info, rfl, move, found, rfl⟩
    | exitListReset list result =>
      cases result with
      | error e => exact refused_deed hc rfl
      | ok _ =>
        refine hook_deed hc (drainAndFree_deed hwf rfl fun r =>
          Registry.resetList_ends.imp ?_ fun _ _ _ => trivial)
        rintro commands r' ⟨move, info, found, rfl⟩
        exact ⟨_, info, rfl, move, found, rfl⟩
    | exitQueueSynchronize result =>
      cases result with
      | error e => exact refused_deed hc rfl
      | ok _ => exact hook_deed hc (ends_discard.mpr (processCalls_deed hwf rfl))
    | exitQueueDestroy queue result =>
      cases result with
      | error e => exact refused_deed hc rfl
      | ok _ => exact hook_deed hc (ends_discard.mpr (processCalls_deed hwf rfl))
    | enterEventDestroy event =>
      exact hook_deed hc (ends_discard.mpr (processEvent_deed hwf rfl event))
    | enterEventHostReset event =>
      exact hook_deed hc (ends_discard.mpr (processEvent_deed hwf rfl event))
    | exitEventHostSynchronize event result =>
      cases result with
      | error e => exact refused_deed hc rfl
      | ok _ => exact hook_deed hc (ends_discard.mpr (processEvent_deed hwf rfl event))
    | exitKernelSetGroupSize kernel size result =>
      exact hook_deed hc (noted_deed rfl
        (exitKernelSetGroupSize_within kernel size result fun _ _ => rfl))
    | exitKernelDestroy kernel result =>
      exact hook_deed hc (noted_deed rfl (exitKernelDestroy_within kernel result fun _ _ => rfl))
    | exitImageCreate image desc result =>
      exact hook_deed hc (noted_deed rfl (exitImageCreate_within image desc result fun _ _ => rfl))
    | exitImageDestroy image result =>
      exact hook_deed hc (noted_deed rfl (exitImageDestroy_within image result fun _ _ => rfl))
    | processEvent event =>
      have hdeed := processEvent_deed (s := s) (a := .processEvent event) hwf rfl event
      exact ends_bind.mpr (trace_deed hc (hdeed.imp (fun _ _ h => h _) (fun _ _ h => h)))
    | processCalls =>
      have hdeed := processCalls_deed (s := s) (a := .processCalls) hwf rfl
      exact ends_bind.mpr (trace_deed hc (hdeed.imp (fun _ _ h => h _) (fun _ _ h => h)))
    | create config notifies => cases ha
    | createOrWarn config notifies => cases ha
    | drop => cases ha
    | _ => cases hout

theorem step_deed (hc : s.collector = some c) (hwf : c.registry.WellFormed)
    (ha : a.isLifecycle = false) (hok : (s.step a).1 = .ok answer) :
    Deed s c a answer (s.step a).2 := by
  exact of_step (perform_deed hc hwf ha) (Prod.ext hok rfl)

end Session

end GpuTrace
