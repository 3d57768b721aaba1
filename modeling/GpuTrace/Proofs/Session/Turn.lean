import GpuTrace.Proofs.Collector.Custody
import GpuTrace.Proofs.Collector.Submission
import GpuTrace.Proofs.Session.Frame

/-!
# Turns — what an action does to a session, whatever its end

`Touch` lists what can be done to a session and `Deed` what was done by an action that answered.
A `Turn` says both of one action: it holds for every end, and it names the tokens, events and
anchors that the action brought, so that an invariant of them survives faults.

Actions outside the collector have their license (`outside_within`). Making or forgetting a
collector leaves everything else `Aside`. All others run a hook, and `step_turn` says how the
session looks behind it. Only the actions that are about devices, signals and resets disturb what
the driver knows of these (`step_calm`).
-/

namespace GpuTrace

def Action.disturbs : Action → Bool
  | .addDevice .. | .setTimestampMask _ | .setDeviceTime .. | .advanceDeviceTime .. | .signal ..
  | .setEventStatus .. | .hostReset _ => true
  | _ => false

/-- The event that an action acts on, and what it makes of its state. -/
def Action.rewrites? : Action → Option (EventHandle × (EventState → EventState))
  | .signal event timestamp =>
    some (event, fun st => { st with status := .ready, timestamp := some timestamp })
  | .setEventStatus event status => some (event, fun st => { st with status })
  | .hostReset event => some (event, fun st => { st with status := .notReady, timestamp := none })
  | _ => none

/-- An append or an execution was begun: there is a token for it. -/
def Answer.begins : Except Fault Answer → Bool
  | .ok (.append answer) => answer.inFlight.isSome
  | .ok (.submit token) => token.isSome
  | _ => false

namespace Tracing

open Fallible

variable {t t' : Tracing} {α : Type}

/-- No command and no call came in, and what is in custody stays there. -/
structure Subsides (t t' : Tracing) : Prop where
  changes : ViaChanges (·.grows = false) t t'
  custody : KeepsCustody t t'

/-- Nor was a list made. -/
structure Tends (t t' : Tracing) : Prop where
  changes : ViaChanges (·.tends = true) t t'
  custody : KeepsCustody t t'

instance : IsPreorder Tracing Tends where
  refl t := ⟨refl_of (ViaChanges _) t, refl_of KeepsCustody t⟩
  trans _ _ _ h h' := ⟨trans_of (ViaChanges _) h.changes h'.changes,
    trans_of KeepsCustody h.custody h'.custody⟩

/-- What a hook does that no command and no call comes in by. -/
structure Upkeeps (t t' : Tracing) : Prop where
  subsides : Subsides t t'
  lists : Registry.Upkeep t.registry t'.registry

theorem Tends.upkeeps (h : Tends t t') : Upkeeps t t' :=
  ⟨⟨h.changes.imp fun _ htends => Registry.Change.grows_of_tends htends, h.custody⟩,
    .tended h.changes.registry⟩

theorem tends_of {step : Fallible Tracing α} (h : Within (ViaChanges (·.tends = true)) step)
    (h' : Within KeepsCustody step) : Within Tends step := fun t =>
  ((h t).and (h' t)).imp (fun _ _ h => ⟨h.1, h.2⟩) (fun _ _ h => ⟨h.1, h.2⟩)

theorem ViaRegistry.tends
    (h : ViaRegistry (fun change => change.isPlain = true ∧ change.tends = true) t t') :
    Tends t t' := by
  obtain ⟨r, hr, rfl⟩ := h
  refine ⟨ViaRegistry.changes ⟨r, hr.imp fun _ h => h.2, rfl⟩, ?_⟩
  exact ViaRegistry.keepsCustody ⟨r, hr.imp fun _ h => h.1, rfl⟩

theorem processEvent_tends (event : EventHandle) : Within Tends (processEvent event) :=
  tends_of (processEvent_within event) (processEvent_keepsCustody event)

theorem processCalls_tends : Within Tends processCalls :=
  tends_of processCalls_within processCalls_keepsCustody

theorem exitListDestroy_tends (list : CommandListHandle) (result : DriverResult) :
    Within Tends (exitListDestroy list result) := by
  refine tends_of (exitListDestroy_within list result) (within_accepted result
    (drainAndFree_keepsCustody fun r => Registry.removeList_ends.imp ?_ fun _ _ hm => hm))
  rintro commands r' ⟨move, info, found, rfl⟩
  exact ⟨_, list, info, rfl, move, found, rfl⟩

theorem exitListReset_tends (list : CommandListHandle) (result : DriverResult) :
    Within Tends (exitListReset list result) := by
  refine tends_of (exitListReset_within list result) (within_accepted result
    (drainAndFree_keepsCustody fun r => Registry.resetList_ends.imp ?_ fun _ _ hm => hm))
  rintro commands r' ⟨move, info, found, rfl⟩
  exact ⟨_, list, info, rfl, move, found, rfl⟩

theorem setEnabled_tends (enabled : Bool) : Within Tends (setEnabled enabled) := by
  refine tends_of ?_ (setEnabled_keepsCustody enabled)
  unfold setEnabled
  refine within_bind within_get fun t => within_bind
    ((within_onDriver (fun _ => Driver.setEnabled_evolves _ _)
      fun _ => (Driver.setEnabled_untouched _ _).undisturbed).imp fun _ _ h => h.changes)
    fun switched => ?_
  split
  · exact within_pure _
  · exact within_bind (fun t => .of_eq rfl rfl) fun _ => within_pure _

theorem exitListCreate_upkeeps (list : CommandListHandle) (context : ContextHandle)
    (device : DeviceHandle) (immediate : Bool) (result : DriverResult) :
    Within Upkeeps (exitListCreate list context device immediate result) := by
  refine (exitListCreate_within (P := (· = .create list context device immediate)) list context
    device immediate result rfl).imp ?_
  rintro t _ ⟨r, hr, rfl⟩
  have hplain : ViaRegistry (·.isPlain = true) t (t.withRegistry r) :=
    ⟨r, hr.imp (by rintro _ rfl; rfl), rfl⟩
  refine ⟨⟨?_, hplain.keepsCustody⟩, ?_⟩
  · exact ViaRegistry.changes ⟨r, hr.imp (by rintro _ rfl; rfl), rfl⟩
  · exact .made (hr.imp (by rintro _ rfl; exact ⟨list, context, device, immediate, rfl⟩))

end Tracing

namespace Session

open Fallible Tracing

variable {α : Type} {s s' : Session} {a : Action}

/-! ## Making and forgetting a collector -/

/-- The driver's objects and the tokens are as before, and a collector that was not there before
has an empty registry. -/
structure Aside (s s' : Session) : Prop where
  driver : s.driver.Untouched s'.driver
  appends : s'.appends = s.appends
  submits : s'.submits = s.submits
  warnings : ∀ event e, Warning.eventKept event e ∈ s'.journal.warnings →
    Warning.eventKept event e ∈ s.journal.warnings
  collector : ∀ c, s'.collector = some c → c.registry = .empty ∨ s.collector = some c

instance : IsPreorder Session Aside where
  refl s := ⟨refl_of Driver.Untouched s.driver, rfl, rfl, fun _ _ h => h, fun _ h => .inr h⟩
  trans := by
    intro s₁ s₂ s₃ h h'
    refine ⟨trans_of Driver.Untouched h.driver h'.driver, h'.appends.trans h.appends,
      h'.submits.trans h.submits, fun event e hw => h.warnings event e (h'.warnings event e hw),
      fun c hc => ?_⟩
    rcases h'.collector c hc with hnew | hold
    · exact .inl hnew
    · exact h.collector c hold

theorem onDriver_aside {call : Driver → α × Driver} (h : ∀ d : Driver, d.Untouched (call d).2) :
    Within Aside (onDriver call) :=
  fun s => ⟨h s.driver, rfl, rfl, fun _ _ hw => hw, fun _ hc => .inr hc⟩

theorem warn_aside (w : Warning) (hw : ∀ event e, Warning.eventKept event e ≠ w) :
    Within Aside (warn w) := fun s => by
  refine ⟨refl_of Driver.Untouched s.driver, rfl, rfl, fun event e hmem => ?_, fun _ hc => .inr hc⟩
  rcases Array.mem_push.mp hmem with hold | hnew
  · exact hold
  · exact absurd hnew (hw event e)

theorem made_aside {c : Collector} (h : c.registry = .empty) :
    Aside s { s with collector := some c } := by
  refine ⟨refl_of Driver.Untouched s.driver, rfl, rfl, fun _ _ hw => hw, ?_⟩
  rintro _ ⟨⟩
  exact .inl h

theorem dropCollector_aside : Within Aside dropCollector := by
  unfold dropCollector
  refine within_bind within_get fun s => ?_
  split
  · exact within_pure _
  · refine within_bind (fun s => ?_) fun _ => within_bind
      (onDriver_aside fun _ => Driver.unregister_untouched _) fun dropped => ?_
    · exact ⟨refl_of Driver.Untouched s.driver, rfl, rfl, fun _ _ hw => hw, nofun⟩
    · split
      · exact within_pure _
      · exact warn_aside _ nofun

theorem newCollector_aside (config : Config) (notifies : Bool) :
    Within Aside (newCollector config notifies) := by
  unfold newCollector
  refine within_bind within_get fun s => ?_
  dsimp only
  split
  · exact within_pure _
  · refine within_bind (within_lift _) fun devices => within_bind
      (onDriver_aside fun _ => Driver.register_untouched) fun registered => ?_
    split
    · exact within_pure _
    · exact within_pure _

theorem createCollector_aside (config : Config) (notifies : Bool) :
    Within Aside (createCollector config notifies) := fun s => by
  unfold createCollector
  rw [ends_bind]
  refine ((newCollector_ends config notifies).and (newCollector_aside config notifies s)).imp ?_
    fun _ _ h => h.2
  rintro made s₁ ⟨⟨-, hnew⟩, h₁⟩
  cases made with
  | error e => exact h₁
  | ok c =>
    simp only [ends_bind, ends_modify, ends_pure]
    refine (dropCollector_aside s₁).imp (fun _ s₂ h₂ => ?_) fun _ _ h₂ => trans_of Aside h₁ h₂
    exact trans_of Aside h₁ (trans_of Aside h₂ (made_aside (hnew c rfl).registry_eq))

theorem lifecycle_aside (ha : a.isLifecycle = true) : Within Aside a.perform := by
  cases a with
  | create config notifies =>
    exact within_bind (createCollector_aside config notifies) fun _ => within_pure _
  | createOrWarn config notifies =>
    refine within_bind (within_bind (createCollector_aside config notifies) fun made => ?_)
      fun _ => within_pure _
    split
    · exact within_pure _
    · exact within_bind (warn_aside _ nofun) fun _ => within_pure _
  | drop => exact within_bind dropCollector_aside fun _ => within_pure _
  | _ => cases ha

/-! ## Hooks -/

/-- What an action on the collector does, with what it ends. -/
inductive Turn (s : Session) : Action → Except Fault Answer → Session → Prop
  /-- There is no token, or no collector to run the hook. -/
  | idle {a result appends submits} (quiet : Answer.begins result = false)
      (appends_from : appends = s.appends ∨ ∃ token, appends = s.appends.erase token)
      (submits_from : submits = s.submits ∨ ∃ token, submits = s.submits.erase token) :
      Turn s a result { s with appends, submits }
  | hooked {a result c t} (quiet : Answer.begins result = false) (at_work : s.collector = some c)
      (subsides : Subsides (s.tracing c) t)
      (lists : Registry.Upkeep c.registry t.registry) : Turn s a result (s.after t)
  /-- An append is in flight. -/
  | begun {token list op signal c append event t} (at_work : s.collector = some c)
      (enter : Tracing.enterAppend list op signal (s.tracing c) = .ok ⟨some append, event⟩ t) :
      Turn s (.enterAppend token list op signal) (.ok (.append ⟨some append, event⟩))
        { s.after t with appends := s.appends.insert token append }
  /-- No append is in flight: it is not traced, or it stopped. -/
  | unbegun {token list op signal result c} (quiet : Answer.begins result = false)
      (at_work : s.collector = some c) :
      Turn s (.enterAppend token list op signal) result
        (s.after (final (Tracing.enterAppend list op signal) (s.tracing c)))
  | ended {token r append result c} (quiet : Answer.begins result = false)
      (at_work : s.collector = some c) (found : s.appends.get? token = some append) :
      Turn s (.exitAppend token r) result
        { s.after (final (Tracing.exitAppend append r) (s.tracing c)) with
          appends := s.appends.erase token }
  | planned {token queue lists c submit} (at_work : s.collector = some c)
      (enter : Tracing.enterExecute queue lists (s.tracing c) =
        .ok (some submit) (s.tracing c)) :
      Turn s (.enterExecute token queue lists) (.ok (.submit (some submit)))
        { s with submits := s.submits.insert token submit }
  | executed {token r submit result c} (quiet : Answer.begins result = false)
      (at_work : s.collector = some c) (found : s.submits.get? token = some submit) :
      Turn s (.exitExecute token r) result
        { s.after (final (Tracing.exitExecute submit r) (s.tracing c)) with
          submits := s.submits.erase token }

theorem Turn.nothing {result : Except Fault Answer} (quiet : Answer.begins result = false) :
    Turn s a result s :=
  @Turn.idle s a result s.appends s.submits quiet (.inl rfl) (.inl rfl)

def Turns (a : Action) (s : Session) : Prop :=
  Ends a.perform s (fun answer s' => Turn s a (.ok answer) s') (fun e s' => Turn s a (.error e) s')

theorem trace_turns {step : Fallible Tracing α} {f : Option α → Fallible Session Answer}
    (answer : Option α → Answer) (h : Within Upkeeps step) (hf : ∀ x, f x = pure (answer x))
    (hquiet : ∀ x, Answer.begins (.ok (answer x)) = false) :
    Ends (trace step >>= f) s (fun answer s' => Turn s a (.ok answer) s')
      (fun e s' => Turn s a (.error e) s') := by
  rw [ends_bind, ends_trace]
  cases hc : s.collector with
  | none =>
    dsimp only
    rw [hf none]
    exact .nothing (hquiet none)
  | some c =>
    refine (h (s.tracing c)).imp (fun x _ ht => ?_) fun _ _ ht =>
      .hooked rfl hc ht.subsides ht.lists
    rw [hf (some x)]
    exact .hooked (hquiet (some x)) hc ht.subsides ht.lists

theorem hook_turns {step : Fallible Tracing Unit} (h : Within Upkeeps step) :
    Ends (Action.hook step) s (fun answer s' => Turn s a (.ok answer) s')
      (fun e s' => Turn s a (.error e) s') :=
  trace_turns .ofHook h (fun _ => rfl) fun x => by cases x <;> rfl

theorem enterAppend_turns (token : Nat) (list : CommandListHandle) (op : Operation)
    (signal : Option EventHandle) : Turns (.enterAppend token list op signal) s := by
  refine ends_bind.mpr ?_
  unfold Session.enterAppend
  rw [ends_bind, ends_trace]
  cases hc : s.collector with
  | none => exact .nothing rfl
  | some c =>
    refine ends_self.imp ?_ ?_
    · rintro ⟨inFlight, event⟩ t enter
      cases inFlight with
      | none =>
        rw [← final_of_ok enter]
        exact .unbegun rfl hc
      | some append =>
        simp only [Option.bind_some, ends_bind, ends_modify, ends_pure]
        exact .begun hc enter
    · intro e t enter
      rw [← final_of_error enter]
      exact .unbegun rfl hc

theorem exitAppend_turns (token : Nat) (result : DriverResult) :
    Turns (.exitAppend token result) s := by
  refine ends_bind.mpr ?_
  cases hf : s.appends.get? token with
  | none =>
    have hcontains : s.appends.contains token = false := by simp [Table.contains, hf]
    simpa [hcontains] using Turn.nothing rfl
  | some append =>
    have hcontains : s.appends.contains token = true := by simp [Table.contains, hf]
    simp only [ends_get, hcontains, Bool.not_true, Bool.false_eq_true, if_false]
    -- The token is used up before the hook runs, also if the hook stops.
    unfold Session.exitAppend
    simp only [ends_bind, ends_get, hf, ends_modify]
    rcases Option.eq_none_or_eq_some s.collector with hc | ⟨c, hc⟩
    · have hc' : ({ s with appends := s.appends.erase token } : Session).collector = none := hc
      exact (ends_trace_none hc').mpr
        (@Turn.idle s _ _ _ s.submits rfl (.inr ⟨token, rfl⟩) (.inl rfl))
    · have hc' : ({ s with appends := s.appends.erase token } : Session).collector = some c := hc
      refine (ends_trace_some hc').mpr (ends_self.imp ?_ ?_)
      · intro _ t hexit
        have hturn : Turn s (.exitAppend token result) (.ok .done) _ := .ended rfl hc hf
        rw [final_of_ok (s := s.tracing c) hexit] at hturn
        exact hturn
      · intro e t hexit
        have hturn : Turn s (.exitAppend token result) (.error e) _ := .ended rfl hc hf
        rw [final_of_error (s := s.tracing c) hexit] at hturn
        exact hturn

theorem enterExecute_turns (token : Nat) (queue : QueueHandle) (lists : List CommandListHandle) :
    Turns (.enterExecute token queue lists) s := by
  refine ends_bind.mpr ?_
  unfold Session.enterExecute
  rw [ends_bind, ends_trace]
  cases hc : s.collector with
  | none => exact .nothing rfl
  | some c =>
    refine (ends_self.and (Tracing.enterExecute_within queue lists (s.tracing c))).imp ?_ ?_
    · rintro answer _ ⟨enter, rfl⟩
      cases answer with
      | none =>
        rw [after_tracing hc]
        exact .nothing rfl
      | some submit =>
        rw [after_tracing hc]
        exact .planned hc enter
    · rintro e _ ⟨-, rfl⟩
      rw [after_tracing hc]
      exact .nothing rfl

theorem exitExecute_turns (token : Nat) (result : DriverResult) :
    Turns (.exitExecute token result) s := by
  refine ends_bind.mpr ?_
  cases hf : s.submits.get? token with
  | none =>
    have hcontains : s.submits.contains token = false := by simp [Table.contains, hf]
    simpa [hcontains] using Turn.nothing rfl
  | some submit =>
    have hcontains : s.submits.contains token = true := by simp [Table.contains, hf]
    simp only [ends_get, hcontains, Bool.not_true, Bool.false_eq_true, if_false]
    unfold Session.exitExecute
    simp only [ends_bind, ends_get, hf, ends_modify]
    rcases Option.eq_none_or_eq_some s.collector with hc | ⟨c, hc⟩
    · have hc' : ({ s with submits := s.submits.erase token } : Session).collector = none := hc
      exact (ends_trace_none hc').mpr
        (@Turn.idle s _ _ s.appends _ rfl (.inl rfl) (.inr ⟨token, rfl⟩))
    · have hc' : ({ s with submits := s.submits.erase token } : Session).collector = some c := hc
      refine (ends_trace_some hc').mpr (ends_self.imp ?_ ?_)
      · intro _ t hexit
        have hturn : Turn s (.exitExecute token result) (.ok .done) _ := .executed rfl hc hf
        rw [final_of_ok (s := s.tracing c) hexit] at hturn
        exact hturn
      · intro e t hexit
        have hturn : Turn s (.exitExecute token result) (.error e) _ := .executed rfl hc hf
        rw [final_of_error (s := s.tracing c) hexit] at hturn
        exact hturn

theorem perform_turns (hout : a.isOutside = false) (ha : a.isLifecycle = false) : Turns a s := by
  have htends : ∀ {step : Fallible Tracing Unit}, Within Tends step → Within Upkeeps step :=
    fun h => h.imp fun _ _ h => h.upkeeps
  have hplain : ∀ {step : Fallible Tracing Unit}, Within
      (ViaRegistry fun change => change.isPlain = true ∧ change.tends = true) step →
      Within Upkeeps step := fun h => h.imp fun _ _ h => h.tends.upkeeps
  cases a with
  | setEnabled enabled =>
    exact trace_turns (·.elim .noCollector .setup) ((setEnabled_tends enabled).imp fun _ _ h => h.upkeeps)
      (fun x => by cases x <;> rfl) fun x => by cases x <;> rfl
  | enterAppend token list op signal => exact enterAppend_turns token list op signal
  | exitAppend token result => exact exitAppend_turns token result
  | enterExecute token queue lists => exact enterExecute_turns token queue lists
  | exitExecute token result => exact exitExecute_turns token result
  | exitListCreate list context device immediate result =>
    exact hook_turns (exitListCreate_upkeeps list context device immediate result)
  | exitListDestroy list result => exact hook_turns (htends (exitListDestroy_tends list result))
  | exitListReset list result => exact hook_turns (htends (exitListReset_tends list result))
  | exitQueueSynchronize result =>
    exact hook_turns (htends (within_accepted result (within_discard processCalls_tends)))
  | exitQueueDestroy queue result =>
    exact hook_turns (htends (within_accepted result (within_discard processCalls_tends)))
  | enterEventDestroy event => exact hook_turns (htends (within_discard (processEvent_tends event)))
  | enterEventHostReset event => exact hook_turns (htends (within_discard (processEvent_tends event)))
  | exitEventHostSynchronize event result =>
    exact hook_turns (htends (within_accepted result (within_discard (processEvent_tends event))))
  | exitKernelSetGroupSize kernel size result =>
    exact hook_turns (hplain (exitKernelSetGroupSize_within kernel size result
      fun _ _ => ⟨rfl, rfl⟩))
  | exitKernelDestroy kernel result =>
    exact hook_turns (hplain (exitKernelDestroy_within kernel result fun _ _ => ⟨rfl, rfl⟩))
  | exitImageCreate image desc result =>
    exact hook_turns (hplain (exitImageCreate_within image desc result fun _ _ => ⟨rfl, rfl⟩))
  | exitImageDestroy image result =>
    exact hook_turns (hplain (exitImageDestroy_within image result fun _ _ => ⟨rfl, rfl⟩))
  | processEvent event =>
    exact trace_turns (·.elim .noCollector .flag) ((processEvent_tends event).imp fun _ _ h => h.upkeeps)
      (fun x => by cases x <;> rfl) fun x => by cases x <;> rfl
  | processCalls =>
    exact trace_turns (·.elim .noCollector .count) (processCalls_tends.imp fun _ _ h => h.upkeeps)
      (fun x => by cases x <;> rfl) fun x => by cases x <;> rfl
  | create config notifies => cases ha
  | createOrWarn config notifies => cases ha
  | drop => cases ha
  | _ => cases hout

theorem step_turn (hout : a.isOutside = false) (ha : a.isLifecycle = false) :
    Turn s a (s.step a).1 (s.step a).2 := by
  rcases step_of_ends (perform_turns (s := s) hout ha) with ⟨answer, hanswer, h⟩ | ⟨e, he, h⟩
  · rwa [hanswer]
  · rwa [he]

/-! ## What stays undisturbed -/

def Calm (s s' : Session) : Prop :=
  s.driver.Undisturbed s'.driver

instance : IsPreorder Session Calm where
  refl s := refl_of Driver.Undisturbed s.driver
  trans _ _ _ h h' := trans_of Driver.Undisturbed h h'

theorem onDriver_calm {call : Driver → α × Driver} (h : ∀ d : Driver, d.Undisturbed (call d).2) :
    Within Calm (onDriver call) := fun s => h s.driver

theorem change_calm (f : Driver → Driver) (h : ∀ d : Driver, d.Undisturbed (f d)) :
    Within Calm (Action.change f) :=
  within_bind (fun s => h s.driver) fun _ => within_pure _

theorem outside_calm (hout : a.isOutside = true) (hd : a.disturbs = false) :
    Within Calm a.perform := by
  have hsame : ∀ s, Calm s s := fun s => refl_of Calm s
  have hkept : ∀ {d d' : Driver}, d'.devices = d.devices → d'.timestampMask = d.timestampMask →
      d'.events = d.events → d.Undisturbed d' := Driver.undisturbed_of_events
  cases a with
  | setClock time => exact within_bind (fun s => hsame s) fun _ => within_pure _
  | advanceClock delta => exact within_bind (fun s => hsame s) fun _ => within_pure _
  | addKernel name simdWidth =>
    exact within_bind (onDriver_calm fun _ => hkept rfl rfl rfl) fun _ => within_pure _
  | newObject => exact within_bind (onDriver_calm fun _ => hkept rfl rfl rfl) fun _ => within_pure _
  | newEvent =>
    exact within_bind (onDriver_calm fun _ => Driver.createUserEvent_undisturbed)
      fun _ => within_pure _
  | failPool code =>
    exact change_calm ({ · with failPool := some code }) fun _ => hkept rfl rfl rfl
  | failEvent code =>
    exact change_calm ({ · with failEvent := some code }) fun _ => hkept rfl rfl rfl
  | failRegister code =>
    exact change_calm ({ · with failRegister := some code }) fun _ => hkept rfl rfl rfl
  | failToggle code =>
    exact change_calm ({ · with failToggle := some code }) fun _ => hkept rfl rfl rfl
  | createPool context desc =>
    exact within_bind (onDriver_calm fun _ => Driver.createPool_undisturbed context desc)
      fun _ => within_pure _
  | createEvent pool =>
    exact within_bind (onDriver_calm fun _ => Driver.createEvent_undisturbed pool)
      fun _ => within_pure _
  | destroyEvent event =>
    exact within_bind (onDriver_calm fun _ => Driver.destroyEvent_undisturbed event)
      fun _ => within_pure _
  | destroyPool pool =>
    exact within_bind (onDriver_calm fun _ => Driver.destroyPool_undisturbed pool)
      fun _ => within_pure _
  | register =>
    exact within_bind (onDriver_calm fun _ => Driver.register_untouched.undisturbed)
      fun _ => within_pure _
  | setTracerEnabled tracer enabled =>
    exact within_bind
      (onDriver_calm fun _ => (Driver.setEnabled_untouched tracer enabled).undisturbed)
      fun _ => within_pure _
  | unregister tracer =>
    exact within_bind (onDriver_calm fun _ => (Driver.unregister_untouched tracer).undisturbed)
      fun _ => within_pure _
  | addDevice frequency subDevices => cases hd
  | setTimestampMask mask => cases hd
  | setDeviceTime device ticks => cases hd
  | advanceDeviceTime device ticks => cases hd
  | signal event timestamp => cases hd
  | setEventStatus event status => cases hd
  | hostReset event => cases hd
  | _ => cases hout

theorem Turn.calm {result : Except Fault Answer} (h : Turn s a result s') : Calm s s' := by
  cases h with
  | idle => exact refl_of Driver.Undisturbed s.driver
  | hooked _ at_work subsides => exact subsides.changes.driver.undisturbed
  | begun at_work enter =>
    obtain ⟨driver, warnings, hd, rfl⟩ := (Tracing.enterAppend_within _ _ _ _).of_ok enter
    exact hd.undisturbed
  | @unbegun token list op signal result c =>
    have hchanges : ViaChanges (fun _ => True) _ _ :=
      ((Tracing.enterAppend_within list op signal).final (s.tracing c)).changes
    exact hchanges.driver.undisturbed
  | @ended token r append result c =>
    have hchanges := (exitAppend_changes append r).final (s.tracing c)
    exact hchanges.driver.undisturbed
  | planned => exact refl_of Driver.Undisturbed s.driver
  | @executed token r submit result c =>
    obtain ⟨registry, -, hexit⟩ := (exitExecute_changes submit r).final (s.tracing c)
    rw [hexit]
    exact refl_of Driver.Undisturbed s.driver

theorem step_calm (hd : a.disturbs = false) : Calm s (s.step a).2 := by
  cases hout : a.isOutside with
  | true => exact step_within (outside_calm hout hd)
  | false =>
    cases ha : a.isLifecycle with
    | true =>
      have haside := step_within (s := s) (lifecycle_aside ha)
      exact haside.driver.undisturbed
    | false => exact (step_turn hout ha).calm

theorem step_disturbing (hd : a.disturbs = true) :
    (s.step a).2.driver.events = s.driver.events ∨
      ∃ event f, a.rewrites? = some (event, f) ∧
        (s.step a).2.driver.events = s.driver.events.modify event f := by
  have hends : Ends a.perform s
      (fun _ s' => s'.driver.events = s.driver.events ∨ ∃ event f, a.rewrites? = some (event, f) ∧
        s'.driver.events = s.driver.events.modify event f)
      (fun _ s' => s'.driver.events = s.driver.events) := by
    cases a with
    | addDevice frequency subDevices => exact ends_bind.mpr (.inl rfl)
    | setTimestampMask mask => exact ends_bind.mpr (.inl rfl)
    | setEventStatus event status => exact ends_bind.mpr (.inr ⟨event, _, rfl, rfl⟩)
    | hostReset event => exact ends_bind.mpr (.inr ⟨event, _, rfl, rfl⟩)
    | setDeviceTime device ticks =>
      refine ends_bind.mpr (ends_updateDriver.mpr ?_)
      cases hset : s.driver.setDeviceTime device ticks with
      | error e => rfl
      | ok d =>
        obtain ⟨-, -, rfl⟩ := Driver.setDeviceTime_ok hset
        exact .inl rfl
    | advanceDeviceTime device ticks =>
      refine ends_bind.mpr (ends_updateDriver.mpr ?_)
      cases hset : s.driver.advanceDeviceTime device ticks with
      | error e => rfl
      | ok d =>
        obtain ⟨-, -, -, -, rfl⟩ := Driver.advanceDeviceTime_ok hset
        exact .inl rfl
    | signal event timestamp =>
      refine ends_bind.mpr (ends_updateDriver.mpr ?_)
      cases hsignal : s.driver.signal event timestamp with
      | error e => rfl
      | ok d =>
        obtain rfl := Driver.signal_ok hsignal
        exact .inr ⟨event, _, rfl, rfl⟩
    | _ => cases hd
  rcases step_of_ends hends with ⟨-, -, h⟩ | ⟨-, -, h⟩
  · exact h
  · exact .inl h

end Session

end GpuTrace
