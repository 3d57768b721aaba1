import GpuTrace.Proofs.Session.Frame

/-!
# Touches — what an action can do to a session

An action, whatever its end, changes the driver and the clock, warns, makes or
forgets a collector, takes the registry of the collector through changes, or keeps or
takes tokens. `Touch` lists these and `perform_touches` says that there is nothing else,
so an invariant that no touch breaks holds at every point of every run (`run_keeps`).

Only making or forgetting a collector, and actions that complete calls, change the profile or
give notices (`perform_quiet`).
-/

namespace GpuTrace.Session

open Fallible Tracing

/-- One thing that an action can do to a session. -/
inductive Touch : Session → Session → Prop
  | outside {s driver} (now : UInt64) (evolves : s.driver.Evolves .any driver) :
      Touch s { s with driver, now }
  | warned {s warnings} : Touch s { s with journal := { s.journal with warnings } }
  | made {s c config notifies} (new : IsNew config notifies c) :
      Touch s { s with collector := some c }
  | forgotten {s} : Touch s { s with collector := none }
  | traced {s c t} (at_work : s.collector = some c)
      (changes : ViaChanges (fun _ => True) (s.tracing c) t) : Touch s (s.after t)
  | kept {s append} (token : Nat) (unregistered : append.command.callCount = 0) :
      Touch s { s with appends := s.appends.insert token append }
  | taken {s} (token : Nat) : Touch s { s with appends := s.appends.erase token }
  | submits {s submits} : Touch s { s with submits }

variable {α : Type} {s s' : Session}

def Touches : Session → Session → Prop :=
  Relation.ReflTransGen Touch

instance : IsPreorder Session Touches :=
  inferInstanceAs (IsPreorder Session (Relation.ReflTransGen _))

theorem Touch.touches (h : Touch s s') : Touches s s' := .single h

theorem trace_touches {P : Registry.Change → Prop} {step : Fallible Tracing α}
    (h : Within (ViaChanges P) step) : Within Touches (trace step) := fun s => by
  rw [ends_trace]
  cases hc : s.collector with
  | none => exact refl_of Touches s
  | some c =>
    exact (h _).imp (fun _ _ ht => (Touch.traced hc ht.any).touches)
      (fun _ _ ht => (Touch.traced hc ht.any).touches)

theorem hook_touches {P : Registry.Change → Prop} {step : Fallible Tracing Unit}
    (h : Within (ViaChanges P) step) :
    Within Touches (Action.hook step) :=
  within_bind (trace_touches h) fun _ => within_pure _

/-! ## Quiet actions -/

def record (s : Session) : Option (Profile × Bool) :=
  s.collector.map fun c => (c.profile, c.notifies)

/-- The session was touched, but nothing was completed and no notice given. -/
structure Quiet (s s' : Session) : Prop where
  touches : Touches s s'
  record : s'.record = s.record
  notices : s'.journal.notices = s.journal.notices

instance : IsPreorder Session Quiet where
  refl s := ⟨refl_of Touches s, rfl, rfl⟩
  trans _ _ _ h h' := ⟨trans_of Touches h.touches h'.touches, h'.record.trans h.record,
    h'.notices.trans h.notices⟩

theorem Outside.quiet {L : Driver.License} (h : Outside L s s') : Quiet s s' := by
  obtain ⟨driver, now, hd, rfl⟩ := h
  exact ⟨(Touch.outside now hd.any).touches, rfl, rfl⟩

theorem quiet_traced {c : Collector} {t : Tracing} (hc : s.collector = some c)
    (h : Hushed (s.tracing c) t) : Quiet s (s.after t) := by
  refine ⟨(Touch.traced hc h.changes).touches, ?_, h.notices⟩
  show some (t.profile, t.collector.notifies) = s.collector.map fun c => (c.profile, c.notifies)
  rw [hc, h.profile, h.notifies]
  rfl

theorem trace_quiet {step : Fallible Tracing α} (h : Within Hushed step) :
    Within Quiet (trace step) := fun s => by
  rw [ends_trace]
  cases hc : s.collector with
  | none => exact refl_of Quiet s
  | some c => exact (h _).imp (fun _ _ ht => quiet_traced hc ht) (fun _ _ ht => quiet_traced hc ht)

theorem hook_quiet {step : Fallible Tracing Unit} (h : Within Hushed step) :
    Within Quiet (Action.hook step) :=
  within_bind (trace_quiet h) fun _ => within_pure _

theorem taken_quiet (token : Nat) : Quiet s { s with appends := s.appends.erase token } :=
  ⟨(Touch.taken token).touches, rfl, rfl⟩

theorem submits_quiet (submits : Table Nat SubmitToken) : Quiet s { s with submits } :=
  ⟨Touch.submits.touches, rfl, rfl⟩

theorem enterAppend_quiet (token : Nat) (list : CommandListHandle) (op : Operation)
    (signal : Option EventHandle) :
    Within Quiet (Session.enterAppend token list op signal) := fun s => by
  unfold Session.enterAppend
  rw [ends_bind, ends_trace]
  cases hc : s.collector with
  | none => exact refl_of Quiet s
  | some c =>
    refine ((Tracing.enterAppend_within list op signal _).and
      (enterAppend_answers list op signal _)).imp
      ?_ fun _ _ h => quiet_traced hc h.1.hushed
    rintro answer t ⟨ht, hfresh⟩
    have htraced : Quiet s (s.after t) := quiet_traced hc ht.hushed
    cases hf : answer.inFlight with
    | none => simpa [hf] using htraced
    | some append =>
      have hkept : Quiet (s.after t)
          { s.after t with appends := (s.after t).appends.insert token append } :=
        ⟨(Touch.kept token (hfresh append hf).2).touches, rfl, rfl⟩
      simpa [hf] using trans_of Quiet htraced hkept

theorem exitAppend_quiet (token : Nat) (result : DriverResult) :
    Within Quiet (Session.exitAppend token result) := by
  unfold Session.exitAppend
  refine within_bind within_get fun s => ?_
  split
  · exact within_pure _
  · exact within_bind (fun s => taken_quiet token) fun _ =>
      trace_quiet (Tracing.exitAppend_within _ result)

theorem enterExecute_quiet (token : Nat) (queue : QueueHandle)
    (lists : List CommandListHandle) :
    Within Quiet (Session.enterExecute token queue lists) := by
  have hhushed : Within Hushed (Tracing.enterExecute queue lists) :=
    (Tracing.enterExecute_within queue lists).imp fun t _ h => h ▸ refl_of Hushed t
  unfold Session.enterExecute
  refine within_bind (trace_quiet hhushed) fun answer => ?_
  split
  · exact within_bind (fun s => submits_quiet _) fun _ => within_pure _
  · exact within_pure _

theorem exitExecute_quiet (token : Nat) (result : DriverResult) :
    Within Quiet (Session.exitExecute token result) := by
  have hcalls : ∀ submit, Within Hushed (Tracing.exitExecute submit result) := fun submit =>
    (exitExecute_within (P := fun _ => True) submit result (fun _ => trivial)
      fun _ _ _ _ => trivial).imp fun _ _ h => h.hushed
  unfold Session.exitExecute
  refine within_bind within_get fun s => ?_
  split
  · exact within_pure _
  · exact within_bind (fun s => submits_quiet _) fun _ => trace_quiet (hcalls _)

/-- An action that neither makes or forgets a collector nor completes calls is quiet, whatever
its end. -/
theorem perform_quiet (a : Action) (ha : a.isLifecycle = false) (hcompletes : a.completes = false) :
    Within Quiet a.perform := by
  -- a hook behind a call that the driver refused does nothing
  have hrefused : Within Quiet (Action.hook (pure ())) := hook_quiet (within_pure _)
  cases hout : a.isOutside with
  | true => exact (outside_within a hout).imp fun _ _ h => h.quiet
  | false =>
    cases a with
    | setEnabled enabled =>
      refine within_bind (trace_quiet (setEnabled_within enabled)) fun answer => ?_
      cases answer <;> exact within_pure _
    | enterAppend token list op signal =>
      refine within_bind (enterAppend_quiet token list op signal) fun answer => ?_
      cases answer <;> exact within_pure _
    | exitAppend token result =>
      refine within_bind within_get fun s => ?_
      split
      · exact within_pure _
      · exact within_bind (exitAppend_quiet token result) fun _ => within_pure _
    | enterExecute token queue lists =>
      exact within_bind (enterExecute_quiet token queue lists) fun _ => within_pure _
    | exitExecute token result =>
      refine within_bind within_get fun s => ?_
      split
      · exact within_pure _
      · exact within_bind (exitExecute_quiet token result) fun _ => within_pure _
    | exitListCreate list context device immediate result =>
      exact hook_quiet ((exitListCreate_within (P := fun _ => True) list context device
        immediate result trivial).imp fun _ _ h => h.hushed)
    | exitKernelSetGroupSize kernel size result =>
      exact hook_quiet ((exitKernelSetGroupSize_within (P := fun _ => True) kernel size result
        fun _ _ => trivial).imp fun _ _ h => h.hushed)
    | exitKernelDestroy kernel result =>
      exact hook_quiet ((exitKernelDestroy_within (P := fun _ => True) kernel result
        fun _ _ => trivial).imp fun _ _ h => h.hushed)
    | exitImageCreate image desc result =>
      exact hook_quiet ((exitImageCreate_within (P := fun _ => True) image desc result
        fun _ _ => trivial).imp fun _ _ h => h.hushed)
    | exitImageDestroy image result =>
      exact hook_quiet ((exitImageDestroy_within (P := fun _ => True) image result
        fun _ _ => trivial).imp fun _ _ h => h.hushed)
    | exitListDestroy list result =>
      cases result with
      | error e => exact hrefused
      | ok _ => cases hcompletes
    | exitListReset list result =>
      cases result with
      | error e => exact hrefused
      | ok _ => cases hcompletes
    | exitQueueSynchronize result =>
      cases result with
      | error e => exact hrefused
      | ok _ => cases hcompletes
    | exitQueueDestroy queue result =>
      cases result with
      | error e => exact hrefused
      | ok _ => cases hcompletes
    | exitEventHostSynchronize event result =>
      cases result with
      | error e => exact hrefused
      | ok _ => cases hcompletes
    | enterEventDestroy event => cases hcompletes
    | enterEventHostReset event => cases hcompletes
    | processEvent event => cases hcompletes
    | processCalls => cases hcompletes
    | create config notifies => cases ha
    | createOrWarn config notifies => cases ha
    | drop => cases ha
    | _ => cases hout

/-! ## All actions -/

theorem dropCollector_touches : Within Touches dropCollector := fun s => by
  refine dropCollector_ends.imp_ok ?_
  rintro - _ ⟨driver, warnings, hd, rfl⟩
  exact trans_of Touches (Touch.outside s.now hd.any).touches
    (trans_of Touches Touch.warned.touches Touch.forgotten.touches)

theorem createCollector_touches (config : Config) (notifies : Bool) :
    Within Touches (createCollector config notifies) := fun s => by
  refine (createCollector_ends config notifies).imp ?_ ?_
  · rintro made s' h
    cases made with
    | error e =>
      obtain ⟨driver, hd, rfl⟩ := h
      exact (Touch.outside s.now hd.any).touches
    | ok _ =>
      obtain ⟨c, driver, warnings, hnew, hd, -, rfl⟩ := h
      exact trans_of Touches (Touch.outside s.now hd.any).touches
        (trans_of Touches Touch.warned.touches (Touch.made hnew).touches)
  · rintro _ _ rfl
    exact refl_of Touches _

theorem lifecycle_touches (a : Action) (ha : a.isLifecycle = true) : Within Touches a.perform := by
  cases a with
  | create config notifies =>
    exact within_bind (createCollector_touches config notifies) fun _ => within_pure _
  | createOrWarn config notifies =>
    refine within_bind (within_bind (createCollector_touches config notifies)
      fun made => ?_) fun _ => within_pure _
    cases made with
    | ok _ => exact within_pure _
    | error e => exact within_bind (fun s => Touch.warned.touches) fun _ => within_pure _
  | drop => exact within_bind dropCollector_touches fun _ => within_pure _
  | _ => cases ha

theorem completing_touches (a : Action) (ha : a.completes = true) : Within Touches a.perform := by
  cases a with
  | exitListDestroy list result => exact hook_touches (exitListDestroy_within list result)
  | exitListReset list result => exact hook_touches (exitListReset_within list result)
  | exitQueueSynchronize result =>
    exact hook_touches (within_accepted result (within_discard processCalls_within))
  | exitQueueDestroy queue result =>
    exact hook_touches (within_accepted result (within_discard processCalls_within))
  | enterEventDestroy event => exact hook_touches (within_discard (processEvent_within event))
  | enterEventHostReset event => exact hook_touches (within_discard (processEvent_within event))
  | exitEventHostSynchronize event result =>
    exact hook_touches (within_accepted result (within_discard (processEvent_within event)))
  | processEvent event =>
    refine within_bind (trace_touches (processEvent_within event)) fun answer => ?_
    cases answer <;> exact within_pure _
  | processCalls =>
    refine within_bind (trace_touches processCalls_within) fun answer => ?_
    cases answer <;> exact within_pure _
  | _ => cases ha

theorem perform_touches (a : Action) : Within Touches a.perform := by
  cases ha : a.isLifecycle with
  | true => exact lifecycle_touches a ha
  | false =>
    cases hcompletes : a.completes with
    | true => exact completing_touches a hcompletes
    | false => exact (perform_quiet a ha hcompletes).imp fun _ _ h => h.touches

/-- What no touch breaks holds after any run, with faults or without. -/
theorem run_keeps {I : Session → Prop} (htouch : ∀ s s', Touch s s' → I s → I s') (hs : I s)
    (actions : List Action) : I (s.run actions) := by
  have htouches : ∀ {s s'}, Touches s s' → I s → I s' := by
    intro s s' h hs
    induction h with
    | refl => exact hs
    | tail _ ht ih => exact htouch _ _ ht ih
  induction actions generalizing s with
  | nil => exact hs
  | cons a actions ih => exact ih (htouches (step_within (perform_touches a)) hs)

theorem run_evolves (actions : List Action) : s.driver.Evolves .any (s.run actions).driver := by
  refine run_keeps (I := fun s' => s.driver.Evolves .any s'.driver) ?_ (refl_of _ _) actions
  intro s₁ s₂ ht hs
  refine trans_of (Driver.Evolves _) hs ?_
  cases ht with
  | outside now evolves => exact evolves
  | traced at_work changes => exact changes.driver.evolves
  | _ => exact refl_of (Driver.Evolves _) _

end GpuTrace.Session
