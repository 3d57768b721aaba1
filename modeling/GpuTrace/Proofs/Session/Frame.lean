import GpuTrace.Proofs.Collector.Frame
import GpuTrace.Session.Action

/-!
# Session frames — who touches which part of a session

The application, the clock and the driver act outside the collector
(`outside_within`): they change the driver and the clock only. Making a collector and
forgetting one leave the tokens and the notices alone (`createCollector_ends`,
`dropCollector_ends`).

`Along` follows a run step by step; `Along.run` turns what each step keeps into what
the run keeps.
-/

namespace GpuTrace

/-- Actions on the driver and the clock, in which the collector has no part. -/
def Action.isOutside : Action → Bool
  | .setClock _ | .advanceClock _ | .addDevice .. | .setTimestampMask _ | .setDeviceTime ..
  | .advanceDeviceTime .. | .addKernel .. | .newObject | .newEvent | .signal .. | .setEventStatus ..
  | .hostReset _ | .failPool _ | .failEvent _ | .failRegister _ | .failToggle _ | .createPool ..
  | .createEvent _ | .destroyEvent _ | .destroyPool _ | .register | .setTracerEnabled ..
  | .unregister _ => true
  | _ => false

/-- The objects from before that an action outside the collector may touch. -/
def Action.license : Action → Driver.License
  | .destroyEvent event => { Driver.License.none with destroys := (· = event) }
  | .destroyPool pool => { Driver.License.none with drops := (· = pool) }
  | .createEvent pool => { Driver.License.none with fills := (· = pool) }
  | _ => .none

def Action.isLifecycle : Action → Bool
  | .create .. | .createOrWarn .. | .drop => true
  | _ => false

def Action.sweeps : Action → Bool
  | .processCalls | .exitQueueSynchronize (.ok ()) | .exitQueueDestroy _ (.ok ())
  | .exitListDestroy _ (.ok ()) | .exitListReset _ (.ok ()) => true
  | _ => false

def Action.asksFor? : Action → Option EventHandle
  | .processEvent event | .enterEventDestroy event | .enterEventHostReset event
  | .exitEventHostSynchronize event (.ok ()) => some event
  | _ => none

def Action.completes (a : Action) : Bool :=
  a.sweeps || a.asksFor?.isSome

namespace Session

open Fallible

variable {α : Type} {s s' : Session}

def tracing (s : Session) (c : Collector) : Tracing :=
  ⟨s.driver, s.now, c, s.journal⟩

theorem after_tracing {c : Collector} (hc : s.collector = some c) :
    s.after (s.tracing c) = s := by
  cases s
  cases hc
  rfl

/-- Only the driver and the clock changed; old objects were touched only as `L` allows. -/
def Outside (L : Driver.License) (s s' : Session) : Prop :=
  ∃ driver now, s.driver.Evolves L driver ∧ s' = { s with driver, now }

instance {L : Driver.License} : IsPreorder Session (Outside L) where
  refl s := ⟨s.driver, s.now, refl_of (Driver.Evolves L) _, rfl⟩
  trans := by
    rintro s _ _ ⟨d, n, hd, rfl⟩ ⟨d', n', hd', rfl⟩
    exact ⟨d', n', trans_of (Driver.Evolves L) hd hd', rfl⟩

/-! ## Steps of a session -/

@[simp] theorem ends_trace {step : Fallible Tracing α} {Q : Option α → Session → Prop}
    {E : Fault → Session → Prop} :
    Ends (trace step) s Q E ↔
      match s.collector with
      | none => Q none s
      | some c => Ends step (s.tracing c) (fun a t => Q (some a) (s.after t))
          (fun e t => E e (s.after t)) := by
  unfold Ends trace tracing
  cases s.collector with
  | none => rfl
  | some c => dsimp only; cases step _ <;> rfl

theorem ends_trace_none {step : Fallible Tracing α} {Q : Option α → Session → Prop}
    {E : Fault → Session → Prop} (hc : s.collector = none) :
    Ends (trace step) s Q E ↔ Q none s := by
  rw [ends_trace, hc]

theorem ends_trace_some {step : Fallible Tracing α} {Q : Option α → Session → Prop}
    {E : Fault → Session → Prop} {c : Collector} (hc : s.collector = some c) :
    Ends (trace step) s Q E ↔
      Ends step (s.tracing c) (fun a t => Q (some a) (s.after t)) (fun e t => E e (s.after t)) := by
  rw [ends_trace, hc]

@[simp] theorem ends_onDriver {call : Driver → α × Driver} {Q : α → Session → Prop}
    {E : Fault → Session → Prop} :
    Ends (onDriver call) s Q E ↔ Q (call s.driver).1 { s with driver := (call s.driver).2 } :=
  Iff.rfl

@[simp] theorem ends_updateDriver {call : Driver → Except Fault Driver} {Q : Unit → Session → Prop}
    {E : Fault → Session → Prop} :
    Ends (updateDriver call) s Q E ↔
      match call s.driver with
      | .ok driver => Q () { s with driver }
      | .error e => E e s := by
  unfold Ends updateDriver
  cases call s.driver <;> rfl

theorem perform_asking {a : Action} {event : EventHandle} {c : Collector}
    (hask : a.asksFor? = some event) (hc : s.collector = some c) {Q : Session → Prop}
    {E : Fault → Session → Prop}
    (h : Ends (Tracing.processEvent event) (s.tracing c) (fun _ t => Q (s.after t))
      (fun e t => E e (s.after t))) :
    Ends a.perform s (fun _ s' => Q s') E := by
  have htrace : Ends (trace (Tracing.processEvent event)) s (fun _ s' => Q s') E := by
    rw [ends_trace, hc]
    exact h
  have hhook : Ends (Action.hook (discard (Tracing.processEvent event))) s
      (fun _ s' => Q s') E := by
    refine ends_bind.mpr ?_
    rw [ends_trace, hc]
    exact ends_discard.mpr h
  cases a with
  | processEvent e =>
    cases hask
    refine ends_bind.mpr (htrace.imp ?_ fun _ _ he => he)
    intro answer s' hs'
    cases answer <;> exact hs'
  | enterEventDestroy e =>
    cases hask
    exact hhook
  | enterEventHostReset e =>
    cases hask
    exact hhook
  | exitEventHostSynchronize e result =>
    cases result with
    | error _ => cases hask
    | ok _ =>
      cases hask
      exact hhook
  | _ => cases hask

theorem perform_processCalls {c : Collector} (hc : s.collector = some c) {Q : Session → Prop}
    {E : Fault → Session → Prop}
    (h : Ends Tracing.processCalls (s.tracing c) (fun _ t => Q (s.after t))
      (fun e t => E e (s.after t))) :
    Ends Action.processCalls.perform s (fun _ s' => Q s') E := by
  have htrace : Ends (trace Tracing.processCalls) s (fun _ s' => Q s') E := by
    rw [ends_trace, hc]
    exact h
  refine ends_bind.mpr (htrace.imp ?_ fun _ _ he => he)
  intro answer s' hs'
  cases answer <;> exact hs'

/-- An action that sweeps runs a sweep of its own, or the one of a teardown. -/
theorem perform_sweeping {a : Action} {c : Collector} (hsweeps : a.sweeps = true)
    (hc : s.collector = some c) {Q : Session → Prop} {E : Fault → Session → Prop}
    (hcalls : Ends Tracing.processCalls (s.tracing c) (fun _ t => Q (s.after t))
      (fun e t => E e (s.after t)))
    (hdrain : ∀ take, Ends (Tracing.drainAndFree take) (s.tracing c) (fun _ t => Q (s.after t))
      (fun e t => E e (s.after t))) :
    Ends a.perform s (fun _ s' => Q s') E := by
  have hhook : ∀ {step : Fallible Tracing Unit},
      Ends step (s.tracing c) (fun _ t => Q (s.after t)) (fun e t => E e (s.after t)) →
      Ends (Action.hook step) s (fun _ s' => Q s') E := by
    intro step hstep
    refine ends_bind.mpr ?_
    rw [ends_trace, hc]
    exact hstep
  cases a with
  | processCalls => exact perform_processCalls hc hcalls
  | exitListDestroy list result =>
    cases result with
    | error _ => cases hsweeps
    | ok _ => exact hhook (hdrain _)
  | exitListReset list result =>
    cases result with
    | error _ => cases hsweeps
    | ok _ => exact hhook (hdrain _)
  | exitQueueSynchronize result =>
    cases result with
    | error _ => cases hsweeps
    | ok _ => exact hhook (ends_discard.mpr hcalls)
  | exitQueueDestroy queue result =>
    cases result with
    | error _ => cases hsweeps
    | ok _ => exact hhook (ends_discard.mpr hcalls)
  | _ => cases hsweeps

/-! ## Outside the collector -/

section Outside

variable {L : Driver.License}

theorem within_onDriver {call : Driver → α × Driver} (h : ∀ d : Driver, d.Evolves L (call d).2) :
    Within (Outside L) (onDriver call) :=
  fun s => ⟨_, s.now, h s.driver, rfl⟩

theorem within_updateDriver {call : Driver → Except Fault Driver}
    (h : ∀ d d', call d = .ok d' → d.Evolves L d') :
    Within (Outside L) (updateDriver call) := fun s => by
  rw [ends_updateDriver]
  cases hc : call s.driver with
  | ok d => exact ⟨d, s.now, h s.driver d hc, rfl⟩
  | error e => exact refl_of (Outside L) s

theorem within_setClock (f : Session → UInt64) :
    Within (Outside L) (modify fun s => { s with now := f s }) :=
  fun s => ⟨s.driver, f s, refl_of (Driver.Evolves L) _, rfl⟩

theorem within_change (f : Driver → Driver) (h : ∀ d : Driver, d.Evolves L (f d)) :
    Within (Outside L) (Action.change f) :=
  within_bind (fun s => ⟨f s.driver, s.now, h s.driver, rfl⟩) fun _ => within_pure _

theorem within_make {kind : HandleKind} {f : Driver → Handle kind × Driver}
    (h : ∀ d : Driver, d.Evolves L (f d).2) : Within (Outside L) (Action.make f) :=
  within_bind (within_onDriver h) fun _ => within_pure _

theorem within_answered {x : Fallible Session α} (f : α → Answer) (hx : Within (Outside L) x) :
    Within (Outside L) (do return f (← x)) :=
  within_bind hx fun _ => within_pure _

end Outside

theorem setDeviceTime_evolves {L : Driver.License} {device : DeviceHandle} {ticks : UInt64}
    {d d' : Driver} (h : d.setDeviceTime device ticks = .ok d') : d.Evolves L d' := by
  obtain ⟨-, -, rfl⟩ := Driver.setDeviceTime_ok h
  exact Driver.evolves_of_same (Nat.le_refl _) rfl fun _ => rfl

theorem advanceDeviceTime_evolves {L : Driver.License} {device : DeviceHandle} {ticks : UInt64}
    {d d' : Driver} (h : d.advanceDeviceTime device ticks = .ok d') : d.Evolves L d' := by
  obtain ⟨-, -, -, -, rfl⟩ := Driver.advanceDeviceTime_ok h
  exact Driver.evolves_of_same (Nat.le_refl _) rfl fun _ => rfl

theorem signal_evolves {L : Driver.License} {event : EventHandle} {timestamp : KernelTimestamp}
    {d d' : Driver} (h : d.signal event timestamp = .ok d') : d.Evolves L d' := by
  obtain rfl := Driver.signal_ok h
  exact Driver.evolves_of_modify event _ fun _ => rfl

/-- Whatever its end, an action outside the collector changes the driver and the
clock only, and touches the old objects that its license names. -/
theorem outside_within (a : Action) (ha : a.isOutside = true) :
    Within (Outside a.license) a.perform := by
  have hsame : ∀ {L : Driver.License} {d d' : Driver}, d.lastHandle ≤ d'.lastHandle →
      d'.pools = d.pools → d'.events = d.events → d.Evolves L d' := by
    intro L d d' hmono hpools hevents
    exact Driver.evolves_of_same hmono hpools fun e => by rw [hevents]
  cases a with
  | setClock time => exact within_bind (within_setClock _) fun _ => within_pure _
  | advanceClock delta => exact within_bind (within_setClock _) fun _ => within_pure _
  | addDevice frequency subDevices =>
    refine within_make fun d => hsame ?_ rfl rfl
    show d.lastHandle ≤ d.lastHandle + 1 + subDevices
    omega
  | setTimestampMask mask =>
    exact within_change (·.setTimestampMask mask) fun d => hsame (Nat.le_refl _) rfl rfl
  | setDeviceTime device ticks =>
    exact within_bind (within_updateDriver fun _ _ h => setDeviceTime_evolves h)
      fun _ => within_pure _
  | advanceDeviceTime device ticks =>
    exact within_bind (within_updateDriver fun _ _ h => advanceDeviceTime_evolves h)
      fun _ => within_pure _
  | addKernel name simdWidth => exact within_make fun d => hsame (Nat.le_succ _) rfl rfl
  | newObject => exact within_make fun d => hsame (Nat.le_succ _) rfl rfl
  | newEvent => exact within_make fun d => Driver.createUserEvent_evolves
  | signal event timestamp =>
    exact within_bind (within_updateDriver fun _ _ h => signal_evolves h) fun _ => within_pure _
  | setEventStatus event status =>
    exact within_change (·.setEventStatus event status)
      fun d => Driver.evolves_of_modify event _ fun _ => rfl
  | hostReset event =>
    exact within_change (·.hostReset event) fun d => Driver.evolves_of_modify event _ fun _ => rfl
  | failPool code =>
    exact within_change ({ · with failPool := some code }) fun d => hsame (Nat.le_refl _) rfl rfl
  | failEvent code =>
    exact within_change ({ · with failEvent := some code }) fun d => hsame (Nat.le_refl _) rfl rfl
  | failRegister code =>
    exact within_change ({ · with failRegister := some code })
      fun d => hsame (Nat.le_refl _) rfl rfl
  | failToggle code =>
    exact within_change ({ · with failToggle := some code }) fun d => hsame (Nat.le_refl _) rfl rfl
  | createPool context desc =>
    exact within_answered _ (within_onDriver fun d => Driver.createPool_evolves context desc)
  | createEvent pool =>
    exact within_answered _ (within_onDriver fun d => Driver.createEvent_evolves pool rfl)
  | destroyEvent event =>
    exact within_answered _ (within_onDriver fun d => Driver.destroyEvent_evolves event rfl)
  | destroyPool pool =>
    exact within_answered _ (within_onDriver fun d => Driver.destroyPool_evolves pool rfl)
  | register => exact within_answered _ (within_onDriver fun d => Driver.register_evolves)
  | setTracerEnabled tracer enabled =>
    exact within_answered _ (within_onDriver fun d => Driver.setEnabled_evolves tracer enabled)
  | unregister tracer =>
    exact within_answered _ (within_onDriver fun d => Driver.unregister_evolves tracer)
  | _ => cases ha

/-! ## Making and forgetting a collector -/

structure IsNew (config : Config) (notifies : Bool) (c : Collector) : Prop where
  config_eq : c.config = config
  notifies_eq : c.notifies = notifies
  registry_eq : c.registry = .empty

theorem newCollector_ends (config : Config) (notifies : Bool) :
    Ends (newCollector config notifies) s
      (fun made s' => (∃ driver, s.driver.Evolves .none driver ∧ s' = { s with driver }) ∧
        ∀ c, made = .ok c → IsNew config notifies c)
      (fun _ s' => s' = s) := by
  have hquiet : ∃ driver, s.driver.Evolves .none driver ∧ s = { s with driver } :=
    ⟨s.driver, refl_of (Driver.Evolves _) _, rfl⟩
  unfold newCollector
  simp only [ends_bind, ends_get]
  cases s.driver.version.supportsTracing with
  | false =>
    refine ⟨hquiet, ?_⟩
    rintro _ ⟨⟩
  | true =>
    simp only [ends_bind, ends_lift, ends_onDriver, Bool.not_true, Bool.false_eq_true, if_false]
    cases DeviceMap.ofRoots s.driver.rootsWithSubDevices with
    | error e => trivial
    | ok devices =>
      dsimp only
      cases s.driver.register.1 with
      | error e =>
        refine ⟨⟨_, Driver.register_evolves, rfl⟩, ?_⟩
        rintro _ ⟨⟩
      | ok tracer =>
        refine ⟨⟨_, Driver.register_evolves, rfl⟩, ?_⟩
        rintro _ ⟨⟩
        exact ⟨rfl, rfl, rfl⟩

theorem dropCollector_ends :
    Ends dropCollector s
      (fun _ s' => ∃ driver warnings, s.driver.Evolves .none driver ∧ s' = { s with
        driver, journal := { s.journal with warnings }, collector := none })
      (fun _ _ => False) := by
  unfold dropCollector
  simp only [ends_bind, ends_get]
  cases hc : s.collector with
  | none => exact ⟨s.driver, s.journal.warnings, refl_of (Driver.Evolves _) _, by rw [← hc]⟩
  | some c =>
    dsimp only
    simp only [ends_bind, ends_modify, ends_onDriver]
    split
    · exact ⟨_, s.journal.warnings, Driver.unregister_evolves _, rfl⟩
    · exact ⟨_, _, Driver.unregister_evolves _, rfl⟩

def Replaced (config : Config) (notifies : Bool) (s s' : Session) : Prop :=
  ∃ c driver warnings, IsNew config notifies c ∧ s.driver.Evolves .none driver ∧
    (s.collector = none → warnings = s.journal.warnings) ∧ s' = { s with
      driver, journal := { s.journal with warnings }, collector := some c }

theorem createCollector_ends (config : Config) (notifies : Bool) :
    Ends (createCollector config notifies) s
      (fun made s' => match made with
        | .ok () => Replaced config notifies s s'
        | .error _ => ∃ driver, s.driver.Evolves .none driver ∧ s' = { s with driver })
      (fun _ s' => s' = s) := by
  unfold createCollector
  simp only [ends_bind]
  refine (newCollector_ends config notifies).imp ?_ fun _ _ h => h
  rintro made _ ⟨⟨driver, hd, rfl⟩, hnew⟩
  cases made with
  | error e => exact ⟨driver, hd, rfl⟩
  | ok c =>
    dsimp only
    simp only [ends_bind, ends_modify, ends_pure]
    cases hc : s.collector with
    | none =>
      unfold dropCollector
      simp only [ends_bind, ends_get]
      exact ⟨c, driver, s.journal.warnings, hnew c rfl, hd, fun _ => rfl, rfl⟩
    | some old =>
      refine dropCollector_ends.imp_ok ?_
      rintro - _ ⟨driver', warnings, hd', rfl⟩
      exact ⟨c, driver', warnings, hnew c rfl, trans_of (Driver.Evolves _) hd hd',
        (fun hnone => by rw [hc] at hnone; cases hnone), rfl⟩

theorem createOrWarn_ends (config : Config) (notifies : Bool) :
    Ends (createOrWarn config notifies) s
      (fun made s' => match made with
        | true => Replaced config notifies s s'
        | false => ∃ driver warnings, s.driver.Evolves .none driver ∧ s' = { s with
            driver, journal := { s.journal with warnings } })
      (fun _ s' => s' = s) := by
  unfold createOrWarn
  simp only [ends_bind]
  refine (createCollector_ends config notifies).imp ?_ fun _ _ h => h
  rintro made s' h
  cases made with
  | ok _ => exact h
  | error e =>
    obtain ⟨driver, hd, rfl⟩ := h
    exact ⟨driver, _, hd, rfl⟩

/-- `s'` is `s` with a new collector in the place of the old one. -/
inductive Creates (config : Config) (notifies : Bool) (s : Session) : Session → Prop
  | create {created : Session}
      (h : s.step (.create config notifies) = (.ok (.setup (.ok ())), created)) :
      Creates config notifies s created
  | createOrWarn {created : Session}
      (h : s.step (.createOrWarn config notifies) = (.ok (.flag true), created)) :
      Creates config notifies s created

/-! ## Runs -/

theorem step_of_ends {a : Action} {Q : Answer → Session → Prop} {E : Fault → Session → Prop}
    (h : Ends a.perform s Q E) :
    (∃ answer, (s.step a).1 = .ok answer ∧ Q answer (s.step a).2) ∨
      ∃ e, (s.step a).1 = .error e ∧ E e (s.step a).2 := by
  unfold step
  cases hp : a.perform s with
  | ok answer s' => exact .inl ⟨answer, rfl, h.of_ok hp⟩
  | error e s' => exact .inr ⟨e, rfl, h.of_error hp⟩

theorem of_step {a : Action} {Q : Answer → Session → Prop} {E : Fault → Session → Prop}
    {answer : Answer} (h : Ends a.perform s Q E) (hs : s.step a = (.ok answer, s')) :
    Q answer s' := by
  rcases step_of_ends h with ⟨answer', hanswer, hQ⟩ | ⟨e, he, -⟩
  · rw [hs] at hanswer hQ
    cases hanswer
    exact hQ
  · rw [hs] at he
    cases he

theorem step_within {R : Session → Session → Prop} {a : Action} (h : Within R a.perform) :
    R s (s.step a).2 := by
  rcases step_of_ends (h s) with ⟨-, -, h⟩ | ⟨-, -, h⟩
  · exact h
  · exact h

theorem run_outside {actions : List Action} (h : ∀ a ∈ actions, a.isOutside = true) :
    Outside .any s (s.run actions) := by
  induction actions generalizing s with
  | nil => exact refl_of (Outside _) s
  | cons a actions ih =>
    have hrest := ih (s := (s.step a).2) fun b hb => h b (List.mem_cons_of_mem _ hb)
    obtain ⟨driver, now, hd, hs⟩ := step_within (s := s) (outside_within a (h a List.mem_cons_self))
    exact trans_of (Outside _) ⟨driver, now, hd.any, hs⟩ hrest

theorem Creates.replaced {config : Config} {notifies : Bool} (h : Creates config notifies s s') :
    Replaced config notifies s s' := by
  cases h with
  | create h =>
    have hends : Ends (Action.create config notifies).perform s
        (fun answer s' => answer = .setup (.ok ()) → Replaced config notifies s s')
        (fun _ _ => True) := by
      refine ends_bind.mpr ((createCollector_ends config notifies).imp ?_ fun _ _ _ => trivial)
      rintro made s' hmade ⟨⟩
      exact hmade
    exact of_step hends h rfl
  | createOrWarn h =>
    have hends : Ends (Action.createOrWarn config notifies).perform s
        (fun answer s' => answer = .flag true → Replaced config notifies s s')
        (fun _ _ => True) := by
      refine ends_bind.mpr ((createOrWarn_ends config notifies).imp ?_ fun _ _ _ => trivial)
      rintro made s' hmade ⟨⟩
      exact hmade
    exact of_step hends h rfl

def next (s : Session) (a : Action) : Session :=
  (s.step a).2

/-- The action ends with an answer and leaves the collector in its place. -/
def Serves (s : Session) (a : Action) : Prop :=
  a.isLifecycle = false ∧ ∃ answer, (s.step a).1 = .ok answer

instance (s : Session) (a : Action) : Decidable (Serves s a) :=
  decidable_of_iff (a.isLifecycle = false ∧ (s.step a).1.isOk = true) <| by
    unfold Serves Except.isOk Except.toBool
    cases (s.step a).1 <;> simp

/-! ### Step by step -/

section Along

variable {σ : Type} {next : σ → Action → σ} {P : σ → Action → Prop} {x : σ}

def Along (next : σ → Action → σ) (P : σ → Action → Prop) : σ → List Action → Prop
  | _, [] => True
  | x, a :: actions => P x a ∧ Along next P (next x a) actions

def decideAlong (next : σ → Action → σ) (P : σ → Action → Prop) [∀ x a, Decidable (P x a)] :
    ∀ (x : σ) (actions : List Action), Decidable (Along next P x actions)
  | _, [] => .isTrue trivial
  | x, a :: actions =>
    have : Decidable (Along next P (next x a) actions) := decideAlong next P _ actions
    inferInstanceAs (Decidable (P x a ∧ Along next P (next x a) actions))

instance [∀ x a, Decidable (P x a)] (actions : List Action) :
    Decidable (Along next P x actions) := decideAlong next P x actions

theorem along_append (before later : List Action) :
    Along next P x (before ++ later) ↔
      Along next P x before ∧ Along next P (before.foldl next x) later := by
  induction before generalizing x with
  | nil => simp [Along]
  | cons a before ih => simp [Along, ih, and_assoc]

theorem Along.run {I : σ → Prop} {actions : List Action} (h : Along next P x actions) (hx : I x)
    (hstep : ∀ x a, P x a → I x → I (next x a)) : I (actions.foldl next x) := by
  induction actions generalizing x with
  | nil => exact hx
  | cons a actions ih => exact ih h.2 (hstep x a h.1 hx)

end Along

end Session

end GpuTrace
