import GpuTrace.Proofs.Collector.Settings
import GpuTrace.Proofs.Session.Lockstep

/-!
# Settings — one session under two settings

Verbose names, recorded intervals and their clock are for the reader of the profile; they do not
influence what is traced. Two runs that differ only in these settings of a collector stay `Restyled`
as long as neither has a fault: the same driver, clock and journal, the same tokens, and collectors
that differ in nothing but configuration and profile (`settings_irrelevant`).
-/

namespace GpuTrace.Session

open Fallible

variable {named : Prop} {s s' : Session} {α : Type}

def Answers (s : Session) (a : Action) : Prop :=
  (s.step a).1.isOk = true

instance decidableAnswers (s : Session) (a : Action) : Decidable (Answers s a) :=
  inferInstanceAs (Decidable ((s.step a).1.isOk = true))

structure Restyled (named : Prop) (s s' : Session) : Prop where
  driver : s'.driver = s.driver
  now : s'.now = s.now
  journal : s'.journal = s.journal
  appends : s'.appends = s.appends
  submits : s'.submits = s.submits
  collector : Option.Rel (Collector.Restyled named) s.collector s'.collector

theorem Restyled.refl (named : Prop) (s : Session) : Restyled named s s := by
  refine ⟨rfl, rfl, rfl, rfl, rfl, ?_⟩
  cases s.collector with
  | none => exact .none
  | some c => exact .some ⟨rfl, rfl, rfl, rfl, fun _ => rfl, fun _ => rfl, rfl, rfl⟩

theorem Restyled.collector_cases (h : Restyled named s s') :
    s.collector = none ∧ s'.collector = none ∨
      ∃ c c', s.collector = some c ∧ s'.collector = some c' ∧ c.Restyled named c' := by
  have hcollector := h.collector
  generalize s.collector = c, s'.collector = c' at hcollector ⊢
  cases hcollector with
  | none => exact .inl ⟨rfl, rfl⟩
  | some hstyled => exact .inr ⟨_, _, rfl, rfl, hstyled⟩

abbrev Indifferent (named : Prop) (x y : Fallible Session α) : Prop :=
  Lockstep True (Restyled named) Eq x y

/-! ## Parts of a session -/

theorem restyled_lifts : Lifts (Tracing.Restyled named) (Restyled named) where
  driver hs := hs.driver
  now hs := hs.now
  set_driver hs _ := { hs with driver := rfl }
  set_now hs _ := { hs with now := rfl }
  collector hs := hs.collector_cases.imp_right fun ⟨c, c', hc, hc', hstyled⟩ =>
    ⟨c, c', hc, hc', hs.driver, hs.now, hs.journal, hstyled⟩
  after hs _ _ ht :=
    ⟨ht.driver, ht.now, ht.journal, hs.appends, hs.submits, .some ht.collector⟩

theorem warn_indifferent (w : Warning) : Indifferent named (warn w) (warn w) :=
  lockstep_modify fun _ _ hs => { hs with journal := congrArg (Journal.warn · w) hs.journal }

/-! ## Collectors -/

theorem dropCollector_indifferent : Indifferent named dropCollector dropCollector := by
  unfold dropCollector
  refine lockstep_bind lockstep_get fun s s' hs => ?_
  rcases hs.collector_cases with ⟨hnone, hnone'⟩ | ⟨c, c', hsome, hsome', hc⟩
  · rw [hnone, hnone']
    exact lockstep_pure rfl
  · rw [hsome, hsome']
    dsimp only
    rw [hc.tracer]
    refine lockstep_bind_eq (lockstep_modify fun s s' hs => { hs with collector := .none })
      fun _ => ?_
    refine lockstep_bind_eq (restyled_lifts.onDriver _) fun gone => ?_
    cases gone with
    | ok _ => exact lockstep_pure rfl
    | error e => exact warn_indifferent _

/-- A new collector under either settings, or none under both. -/
def Made (named : Prop) (made made' : Except SetupError Collector) : Prop :=
  (∃ e, made = .error e ∧ made' = .error e) ∨
    ∃ c c', made = .ok c ∧ made' = .ok c' ∧ c.Restyled named c'

theorem newCollector_lockstep {config config' : Config}
    (hnamed : named → config'.verbose = config.verbose) (notifies : Bool) :
    Lockstep True (Restyled named) (Made named) (newCollector config notifies)
      (newCollector config' notifies) := by
  unfold newCollector
  refine lockstep_bind lockstep_get fun s s' hs => ?_
  rw [hs.driver]
  dsimp only
  cases s.driver.version.supportsTracing with
  | false => exact lockstep_pure (.inl ⟨_, rfl, rfl⟩)
  | true =>
    refine lockstep_bind_eq (lockstep_lift _) fun devices => ?_
    refine lockstep_bind_eq (restyled_lifts.onDriver _) fun registered => ?_
    cases registered with
    | error e => exact lockstep_pure (.inl ⟨_, rfl, rfl⟩)
    | ok tracer =>
      refine lockstep_pure (.inr ⟨_, _, rfl, rfl, rfl, rfl, rfl, rfl, ?_⟩)
      exact Profile.Restyled.of_empty _ _ hnamed _ _ _ _

theorem createCollector_lockstep {config config' : Config}
    (hnamed : named → config'.verbose = config.verbose) (notifies : Bool) :
    Indifferent named (createCollector config notifies) (createCollector config' notifies) := by
  unfold createCollector
  refine lockstep_bind (newCollector_lockstep hnamed notifies) fun made made' hmade => ?_
  rcases hmade with ⟨e, rfl, rfl⟩ | ⟨c, c', rfl, rfl, hc⟩
  · exact lockstep_pure rfl
  · refine lockstep_bind_eq dropCollector_indifferent fun _ => ?_
    refine lockstep_bind_eq (lockstep_modify fun s s' hs => ?_) fun _ => lockstep_pure rfl
    exact { hs with collector := .some hc }

theorem createOrWarn_indifferent (config : Config) (notifies : Bool) :
    Indifferent named (Session.createOrWarn config notifies)
      (Session.createOrWarn config notifies) := by
  unfold Session.createOrWarn
  refine lockstep_bind_eq (createCollector_lockstep (fun _ => rfl) notifies) fun made => ?_
  cases made with
  | ok _ => exact lockstep_pure rfl
  | error e => exact lockstep_bind_eq (warn_indifferent _) fun _ => lockstep_pure rfl

/-! ## Tokens -/

theorem enterAppend_indifferent (token : Nat) (list : CommandListHandle) (op : Operation)
    (signal : Option EventHandle) :
    Indifferent named (Session.enterAppend token list op signal)
      (Session.enterAppend token list op signal) := by
  unfold Session.enterAppend
  refine lockstep_bind_eq (restyled_lifts.trace (Tracing.enterAppend_indifferent _ _ _))
    fun answer => ?_
  cases answer.bind (·.inFlight) with
  | none => exact lockstep_bind_eq (lockstep_pure rfl) fun _ => lockstep_pure rfl
  | some append =>
    refine lockstep_bind_eq (lockstep_modify fun s s' hs => ?_) fun _ => lockstep_pure rfl
    exact { hs with appends := congrArg (Table.insert · token append) hs.appends }

theorem exitAppend_indifferent (token : Nat) (result : DriverResult) :
    Indifferent named (Session.exitAppend token result) (Session.exitAppend token result) := by
  unfold Session.exitAppend
  refine lockstep_bind lockstep_get fun s s' hs => ?_
  rw [hs.appends]
  cases s.appends.get? token with
  | none => exact lockstep_pure rfl
  | some append =>
    refine lockstep_bind_eq (lockstep_modify fun s s' hs => ?_) fun _ =>
      restyled_lifts.trace (Tracing.exitAppend_indifferent _ _)
    exact { hs with appends := congrArg (Table.erase · token) hs.appends }

theorem enterExecute_indifferent (token : Nat) (queue : QueueHandle)
    (lists : List CommandListHandle) :
    Indifferent named (Session.enterExecute token queue lists)
      (Session.enterExecute token queue lists) := by
  unfold Session.enterExecute
  refine lockstep_bind_eq (restyled_lifts.trace (Tracing.enterExecute_indifferent _ _))
    fun answer => ?_
  cases answer.join with
  | none => exact lockstep_pure rfl
  | some submit =>
    refine lockstep_bind_eq (lockstep_modify fun s s' hs => ?_) fun _ => lockstep_pure rfl
    exact { hs with submits := congrArg (Table.insert · token submit) hs.submits }

theorem exitExecute_indifferent (token : Nat) (result : DriverResult) :
    Indifferent named (Session.exitExecute token result) (Session.exitExecute token result) := by
  unfold Session.exitExecute
  refine lockstep_bind lockstep_get fun s s' hs => ?_
  rw [hs.submits]
  cases s.submits.get? token with
  | none => exact lockstep_pure rfl
  | some submit =>
    refine lockstep_bind_eq (lockstep_modify fun s s' hs => ?_) fun _ =>
      restyled_lifts.trace (Tracing.exitExecute_indifferent _ _)
    exact { hs with submits := congrArg (Table.erase · token) hs.submits }

/-! ## Actions -/

theorem perform_indifferent (a : Action) : Indifferent named a.perform a.perform := by
  cases a with
  | setClock _ | advanceClock _ | addDevice _ _ | setTimestampMask _ | setDeviceTime _ _
  | advanceDeviceTime _ _ | addKernel _ _ | newObject | newEvent | signal _ _ | setEventStatus _ _
  | hostReset _ | failPool _ | failEvent _ | failRegister _ | failToggle _ | createPool _ _
  | createEvent _ | destroyEvent _ | destroyPool _ | register | setTracerEnabled _ _
  | unregister _ | processEvent _ | processCalls | enterEventDestroy _ | enterEventHostReset _
  | exitEventHostSynchronize _ _ | exitQueueSynchronize _ | exitQueueDestroy _ _ =>
    exact restyled_lifts.awaiting_lockstep Tracing.restyled_mirrors rfl
  | create config notifies =>
    exact lockstep_bind_eq (createCollector_lockstep (fun _ => rfl) notifies) fun _ =>
      lockstep_pure rfl
  | createOrWarn config notifies =>
    exact lockstep_bind_eq (createOrWarn_indifferent config notifies) fun _ => lockstep_pure rfl
  | drop => exact lockstep_bind_eq dropCollector_indifferent fun _ => lockstep_pure rfl
  | setEnabled enabled =>
    refine lockstep_bind_eq (restyled_lifts.trace (Tracing.setEnabled_indifferent enabled))
      fun result => ?_
    cases result <;> exact lockstep_pure rfl
  | enterAppend token list op signal =>
    refine lockstep_bind_eq (enterAppend_indifferent token list op signal) fun answer => ?_
    cases answer <;> exact lockstep_pure rfl
  | exitAppend token result =>
    refine lockstep_bind lockstep_get fun s s' hs => ?_
    rw [hs.appends]
    cases s.appends.contains token with
    | false => exact lockstep_pure rfl
    | true =>
      exact lockstep_bind_eq (exitAppend_indifferent token result) fun _ => lockstep_pure rfl
  | enterExecute token queue lists =>
    exact lockstep_bind_eq (enterExecute_indifferent token queue lists) fun _ => lockstep_pure rfl
  | exitExecute token result =>
    refine lockstep_bind lockstep_get fun s s' hs => ?_
    rw [hs.submits]
    cases s.submits.contains token with
    | false => exact lockstep_pure rfl
    | true =>
      exact lockstep_bind_eq (exitExecute_indifferent token result) fun _ => lockstep_pure rfl
  | exitListCreate list context device immediate result =>
    exact restyled_lifts.behind (fun _ => rfl) (Tracing.onRegistry_indifferent _) result
  | exitListDestroy list result | exitListReset list result =>
    exact restyled_lifts.behind (fun _ => rfl) (Tracing.drainAndFree_indifferent _) result
  | exitKernelSetGroupSize kernel size result =>
    exact restyled_lifts.behind (fun _ => rfl)
      (Tracing.modifyRegistry_indifferent (·.setGroupSize kernel size)) result
  | exitKernelDestroy kernel result =>
    exact restyled_lifts.behind (fun _ => rfl)
      (Tracing.modifyRegistry_indifferent (·.removeGroupSize kernel)) result
  | exitImageCreate image desc result =>
    exact restyled_lifts.behind (fun _ => rfl)
      (lockstep_bind_eq (lockstep_lift _) fun _ => Tracing.onRegistry_indifferent _) result
  | exitImageDestroy image result =>
    exact restyled_lifts.behind (fun _ => rfl) (Tracing.onRegistry_indifferent _) result

/-! ## Runs -/

theorem next_restyled {a a' : Action} (h : Indifferent named a.perform a'.perform)
    (hs : Restyled named s s') (ha : Answers s a) (ha' : Answers s' a') :
    Restyled named (s.next a) (s'.next a') := by
  unfold Answers step at ha ha'
  unfold next step
  cases hx : a.perform s with
  | error e t =>
    rw [hx] at ha
    cases ha
  | ok answer t =>
    cases hy : a'.perform s' with
    | error e t' =>
      rw [hy] at ha'
      cases ha'
    | ok answer' t' => exact (h.of_ok hs hx hy).2

theorem run_restyled {actions : List Action} (hs : Restyled named s s')
    (h : Along next Answers s actions) (h' : Along next Answers s' actions) :
    Restyled named (s.run actions) (s'.run actions) := by
  induction actions generalizing s s' with
  | nil => exact hs
  | cons a actions ih => exact ih (next_restyled (perform_indifferent a) hs h.1 h'.1) h.2 h'.2

/-- **Settings do not influence what is traced.** Two collectors that are created under
configurations that differ in verbose names, recorded intervals and their clock, and then see the
same actions without a fault, leave the same driver, the same journal of notices and warnings and
the same registry. Their kernel tables count as many calls and as much time, and they are the same
if both use verbose names or neither does. -/
theorem settings_irrelevant (s : Session) (config : Config) (verbose kernelIntervals : Bool)
    (intervalDomain : ClockDomain) (notifies : Bool) (actions : List Action)
    (h : Along next Answers s (.create config notifies :: actions))
    (h' : Along next Answers s
      (.create { config with verbose, kernelIntervals, intervalDomain } notifies :: actions)) :
    let t := s.run (.create config notifies :: actions)
    let t' := s.run
      (.create { config with verbose, kernelIntervals, intervalDomain } notifies :: actions)
    t'.driver = t.driver ∧ t'.now = t.now ∧ t'.journal = t.journal ∧ t'.appends = t.appends ∧
      t'.submits = t.submits ∧
      (t.collector = none ∧ t'.collector = none ∨
        ∃ c c', t.collector = some c ∧ t'.collector = some c' ∧ c'.registry = c.registry ∧
          (verbose = config.verbose → c'.profile.kernels = c.profile.kernels) ∧
          c'.profile.counted = c.profile.counted ∧ c'.profile.timed = c.profile.timed) := by
  intro t t'
  have hnamed : verbose = config.verbose →
      ({ config with verbose, kernelIntervals, intervalDomain } : Config).verbose =
        config.verbose := fun heq => heq
  have hcreate : Indifferent (verbose = config.verbose) (Action.create config notifies).perform
      (Action.create { config with verbose, kernelIntervals, intervalDomain } notifies).perform :=
    lockstep_bind_eq (createCollector_lockstep hnamed notifies) fun _ => lockstep_pure rfl
  have hcreated := next_restyled hcreate (Restyled.refl _ s) h.1 h'.1
  have hstyled : Restyled (verbose = config.verbose) t t' := run_restyled hcreated h.2 h'.2
  refine ⟨hstyled.driver, hstyled.now, hstyled.journal, hstyled.appends, hstyled.submits, ?_⟩
  rcases hstyled.collector_cases with hnone | ⟨c, c', hc, hc', hcc'⟩
  · exact .inl hnone
  · exact .inr ⟨c, c', hc, hc', hcc'.registry, hcc'.profile.kernels, hcc'.profile.counted,
      hcc'.profile.timed⟩

def twoCopies : List Action :=
  [.exitListCreate ⟨50⟩ ⟨60⟩ ⟨1⟩ false (.ok ()), .enterAppend 0 ⟨50⟩ (.memoryCopy 4096) none,
    .exitAppend 0 (.ok ()), .enterAppend 1 ⟨50⟩ (.memoryCopy 512) none, .exitAppend 1 (.ok ()),
    .enterExecute 0 ⟨70⟩ [⟨50⟩], .exitExecute 0 (.ok ()), .signal ⟨4⟩ ⟨10, 20⟩,
    .signal ⟨6⟩ ⟨30, 70⟩, .processCalls]

/-- With verbose names the copies have an entry each, without they share one; the notices are the
same. -/
theorem settings_irrelevant_twoCopies :
    let s := (Session.of .standard 7).run [.addDevice 1000 0]
    let t := s.run (.create .default true :: twoCopies)
    let t' := s.run (.create { Config.default with
      verbose := true, kernelIntervals := false, intervalDomain := .device } true :: twoCopies)
    t.journal.notices.size = 2 ∧ t'.journal = t.journal ∧ t'.driver = t.driver ∧
      t.collector.map (·.profile.kernels.size) = some 1 ∧
      t'.collector.map (·.profile.kernels.size) = some 2 ∧
      t'.collector.map (·.profile.timed) = t.collector.map (·.profile.timed) := by
  intro s t t'
  have hall := settings_irrelevant s .default true false .device true twoCopies (by decide +kernel)
    (by decide +kernel)
  obtain ⟨hdriver, -, hjournal, -, -, hcollectors⟩ := hall
  refine ⟨by decide +kernel, hjournal, hdriver, by decide +kernel, by decide +kernel, ?_⟩
  rcases hcollectors with ⟨hnone, hnone'⟩ | ⟨c, c', hc, hc', -, -, -, htimed⟩
  · exact congrArg (Option.map _) (hnone'.trans hnone.symm)
  · have hmade : t.collector = some c := hc
    have hmade' : t'.collector = some c' := hc'
    rw [hmade, hmade']
    exact congrArg some htimed

end GpuTrace.Session
