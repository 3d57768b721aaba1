import GpuTrace.Proofs.Collector.History
import GpuTrace.Proofs.Session.Deed
import GpuTrace.Proofs.Session.WellFormed

/-!
# The profile of a run is the history of its finished calls

`history` lists the calls that the actions of a run finish, in order: a sweep finishes every
pending call whose event is ready, and a question for one event finishes the first call that
waits for it. It reads the state before each action and nothing of the profile.

An action that ends with an answer takes in and tells of exactly the calls that it finishes
(`perform_took`). So after a faultless run of a collector the kernel table has the statistics
of this history and the interval list has one entry for each call of it
(`profile_reflects_history`).
-/

namespace GpuTrace.Session

open Fallible Tracing

/-! ## What an action finishes -/

def finishedBy (a : Action) (t : Tracing) : List Finished :=
  if a.sweeps then t.signalled else (a.asksFor?.bind t.signalledBy).toList

def finishes (s : Session) (a : Action) : List Finished :=
  match s.collector with
  | some c => finishedBy a (s.tracing c)
  | none => []

def history : Session → List Action → List Finished
  | _, [] => []
  | s, a :: actions => s.finishes a ++ history (next s a) actions

variable {α : Type} {s s' : Session} {c : Collector} {a : Action}

theorem of_mem_finishes (hc : s.collector = some c) {f : Finished}
    (hf : f ∈ s.finishes a) :
    ∃ call ∈ c.registry.pending, (s.tracing c).finished? call = some f := by
  unfold finishes at hf
  rw [hc] at hf
  dsimp only at hf
  unfold finishedBy at hf
  split at hf
  · exact List.mem_filterMap.mp hf
  · obtain ⟨event, -, hby⟩ := Option.bind_eq_some_iff.mp (Option.mem_toList.mp hf)
    obtain ⟨call, hfind, hfinished⟩ := Option.bind_eq_some_iff.mp hby
    exact ⟨call, List.mem_of_find?_eq_some hfind, hfinished⟩

def Took (s : Session) (c : Collector) (calls : List Finished) (s' : Session) : Prop :=
  ∃ c', s'.collector = some c' ∧ (s.tracing c).Took calls (s'.tracing c')

/-- The collector is still there and told nothing, but may have counted calls. -/
def Broke (s : Session) (c : Collector) (s' : Session) : Prop :=
  ∃ c', s'.collector = some c' ∧ (s.tracing c).Broke (s'.tracing c')

theorem told_of_took {c' : Collector} {calls : List Finished}
    (h : (s.tracing c).Took calls (s'.tracing c')) :
    told s'.journal = told s.journal ++ if c.notifies then calls.map (·.notice) else [] :=
  h.told

theorem Quiet.took (h : Quiet s s') (hc : s.collector = some c) :
    Took s c [] s' ∧ Broke s c s' := by
  have hrecord : s'.collector.map (fun c => (c.profile, c.notifies)) =
      some (c.profile, c.notifies) := by
    have hsame : s'.collector.map _ = s.collector.map _ := h.record
    rw [hsame, hc]
    rfl
  obtain ⟨c', hc', hpair⟩ := Option.map_eq_some_iff.mp hrecord
  obtain ⟨hprofile, hnotifies⟩ := Prod.mk.inj hpair
  have htold : told (s'.tracing c').journal = told (s.tracing c).journal := by
    show s'.journal.notices.toList.map _ = s.journal.notices.toList.map _
    rw [h.notices]
  constructor
  · refine ⟨c', hc', ?_, hnotifies, by simp [htold]⟩
    show Profile.TakesAll c.profile [] c'.profile
    rw [hprofile]
    exact .nil _
  · refine ⟨c', hc', ?_, hnotifies, htold⟩
    show c.profile.counted ≤ c'.profile.counted
    rw [hprofile]

/-- An action that ends with an answer takes in and tells of the calls that it finishes; one
that stops with a fault tells nothing. -/
theorem perform_took (hc : s.collector = some c) (hwf : c.registry.WellFormed)
    (ha : a.isLifecycle = false) :
    Ends a.perform s (fun _ s' => Took s c (s.finishes a) s') (fun _ s' => Broke s c s') := by
  have hfinishes : s.finishes a = finishedBy a (s.tracing c) := by
    unfold finishes
    rw [hc]
  rw [hfinishes]
  cases hcompletes : a.completes with
  | false =>
    obtain ⟨hsweeps, hasks⟩ := Bool.or_eq_false_iff.mp hcompletes
    have hnone : finishedBy a (s.tracing c) = [] := by
      rw [finishedBy, hsweeps, Option.isNone_iff_eq_none.mp (Option.isSome_eq_false_iff.mp hasks)]
      rfl
    rw [hnone]
    exact (perform_quiet a ha hcompletes s).imp (fun _ _ h => (h.took hc).1)
      (fun _ _ h => (h.took hc).2)
  | true =>
    cases hsweeps : a.sweeps with
    | true =>
      have hby : finishedBy a (s.tracing c) = (s.tracing c).signalled := by
        rw [finishedBy, if_pos hsweeps]
      rw [hby]
      refine perform_sweeping hsweeps hc ?_ fun take => ?_
      · exact (processCalls_took (t := s.tracing c) hwf).imp
          (fun _ t ht => ⟨t.collector, rfl, ht.2⟩) (fun _ t ht => ⟨t.collector, rfl, ht⟩)
      · exact (drainAndFree_took (t := s.tracing c) hwf take).imp
          (fun _ t ht => ⟨t.collector, rfl, ht⟩) (fun _ t ht => ⟨t.collector, rfl, ht⟩)
    | false =>
      rw [Action.completes, hsweeps, Bool.false_or] at hcompletes
      obtain ⟨event, hask⟩ := Option.isSome_iff_exists.mp hcompletes
      have hby : finishedBy a (s.tracing c) = ((s.tracing c).signalledBy event).toList := by
        rw [finishedBy, hsweeps, hask]
        rfl
      rw [hby]
      exact perform_asking hask hc ((processEvent_took (t := s.tracing c) hwf event).imp
        (fun _ t ht => ⟨t.collector, rfl, ht⟩) (fun _ t ht => ⟨t.collector, rfl, ht⟩))

/-! ## Runs -/

/-- The profile of the collector is the record of this history, and the application was told
of it. -/
structure Remembers (earlier : List KernelFinish)
    (roots : List (DeviceHandle × List DeviceHandle)) (config : Config) (notifies : Bool)
    (calls : List Finished) (c : Collector) (s : Session) : Prop where
  at_work : s.collector = some c
  wellFormed : s.RegistryWellFormed
  verbose : c.profile.verbose = config.verbose
  records : c.profile.recordsIntervals = config.kernelIntervals
  domain : c.profile.domain = config.intervalDomain
  notifies_eq : c.notifies = notifies
  reflects : c.profile.Reflects roots calls
  told : told s.journal = earlier ++ if notifies then calls.map (·.notice) else []

variable {earlier : List KernelFinish} {roots : List (DeviceHandle × List DeviceHandle)}
  {config : Config} {notifies : Bool} {calls : List Finished}

theorem Remembers.step (h : Remembers earlier roots config notifies calls c s)
    (hs : Serves s a) :
    ∃ c', Remembers earlier roots config notifies (calls ++ s.finishes a) c' (next s a) := by
  obtain ⟨ha, answer, hok⟩ := hs
  have hwf : c.registry.WellFormed := h.wellFormed c h.at_work
  obtain ⟨c', hc', htook⟩ := of_step (perform_took h.at_work hwf ha) (Prod.ext hok rfl)
  have htakes : c.profile.TakesAll (s.finishes a) c'.profile := htook.profile
  have hnotifies : c'.notifies = c.notifies := htook.notifies
  obtain ⟨hverbose, hrecords, hdomain⟩ := htakes.settings
  refine ⟨c', hc', h.wellFormed.next a, hverbose.trans h.verbose, hrecords.trans h.records,
    hdomain.trans h.domain, hnotifies.trans h.notifies_eq, h.reflects.takesAll htakes, ?_⟩
  refine (told_of_took htook).trans ?_
  rw [h.told, h.notifies_eq, List.append_assoc]
  cases notifies with
  | false => rfl
  | true => simp

theorem Remembers.run {actions : List Action}
    (h : Remembers earlier roots config notifies calls c s) (hrun : Along next Serves s actions) :
    ∃ c', Remembers earlier roots config notifies (calls ++ s.history actions) c'
      (s.run actions) := by
  induction actions generalizing s c calls with
  | nil =>
    rw [history, List.append_nil]
    exact ⟨c, h⟩
  | cons a actions ih =>
    obtain ⟨c', h'⟩ := h.step hrun.1
    rw [history, ← List.append_assoc]
    exact ih h' hrun.2

/-! ## A new collector -/

def Fresh (config : Config) (driver : Driver) (c : Collector) : Prop :=
  ∃ devices, DeviceMap.ofRoots driver.rootsWithSubDevices = .ok devices ∧
    c.profile = .of devices config.verbose config.kernelIntervals config.intervalDomain

theorem newCollector_fresh (config : Config) (notifies : Bool) :
    Ends (newCollector config notifies) s
      (fun made _ => ∀ c, made = .ok c → Fresh config s.driver c) (fun _ _ => True) := by
  unfold newCollector
  simp only [ends_bind, ends_get]
  split
  · rintro c ⟨⟩
  · simp only [ends_bind, ends_lift]
    cases hdevices : DeviceMap.ofRoots s.driver.rootsWithSubDevices with
    | error e => trivial
    | ok devices =>
      simp only [ends_onDriver]
      split
      · rintro c ⟨⟩
      · rintro c ⟨⟩
        exact ⟨devices, hdevices, rfl⟩

theorem createCollector_fresh (config : Config) (notifies : Bool) :
    Ends (createCollector config notifies) s
      (fun made s' => made = .ok () → ∃ c, s'.collector = some c ∧ Fresh config s.driver c)
      (fun _ _ => True) := by
  unfold createCollector
  rw [ends_bind]
  refine (newCollector_fresh config notifies).imp ?_ fun _ _ _ => trivial
  intro made s₁ hfresh
  cases made with
  | error e => rintro ⟨⟩
  | ok c =>
    simp only [ends_bind, ends_modify, ends_pure]
    exact dropCollector_ends.imp (fun _ _ _ _ => ⟨c, rfl, hfresh c rfl⟩) fun _ _ h => h.elim

theorem Creates.fresh (h : Creates config notifies s s') :
    ∃ c, s'.collector = some c ∧ Fresh config s.driver c := by
  have hcreate := createCollector_fresh (s := s) config notifies
  cases h with
  | create h =>
    have hends : Ends (Action.create config notifies).perform s
        (fun answer s' => answer = .setup (.ok ()) →
          ∃ c, s'.collector = some c ∧ Fresh config s.driver c) (fun _ _ => True) := by
      refine ends_bind.mpr (hcreate.imp ?_ fun _ _ _ => trivial)
      rintro made s' hmade ⟨⟩
      exact hmade rfl
    exact of_step hends h rfl
  | createOrWarn h =>
    have hends : Ends (Action.createOrWarn config notifies).perform s
        (fun answer s' => answer = .flag true →
          ∃ c, s'.collector = some c ∧ Fresh config s.driver c) (fun _ _ => True) := by
      refine ends_bind.mpr (ends_bind.mpr (hcreate.imp ?_ fun _ _ _ => trivial))
      rintro made s' hmade
      cases made with
      | error e => rintro ⟨⟩
      | ok _ => exact fun _ => hmade rfl
    exact of_step hends h rfl

theorem Creates.remembers {driver : Driver} {now : UInt64} {before : List Action}
    {created : Session}
    (hborn : Creates config notifies ((Session.of driver now).run before) created) :
    ∃ c, Remembers (Tracing.told created.journal)
      ((Session.of driver now).run before).driver.rootsWithSubDevices config notifies [] c
      created := by
  obtain ⟨c, hc, devices, hdevices, hprofile⟩ := hborn.fresh
  obtain ⟨c', driver', warnings, hnew, -, -, rfl⟩ := hborn.replaced
  obtain rfl : c' = c := Option.some.inj hc
  refine ⟨c', rfl, ?_, ?_, ?_, ?_, hnew.notifies_eq, ?_, ?_⟩
  · rintro _ ⟨⟩
    rw [hnew.registry_eq]
    exact Registry.wellFormed_empty
  · rw [hprofile]
    rfl
  · rw [hprofile]
    rfl
  · rw [hprofile]
    rfl
  · rw [hprofile]
    exact Profile.reflects_of hdevices _ _ _
  · cases notifies <;> exact (List.append_nil _).symm

/-- **The profile is the history.** In a faultless run of a new collector, the kernel table has
an entry under exactly the display names of finished calls, with the number of these calls and
the sum, the shortest and the longest of their durations; the mean lies between the two. If
intervals are recorded, the interval list has one entry for each finished call, in order. The
application is told of the same history, if it wants to be. -/
theorem profile_reflects_history (driver : Driver) (now : UInt64) (before actions : List Action)
    (config : Config) (notifies : Bool) (created : Session)
    (hborn : Creates config notifies ((Session.of driver now).run before) created)
    (hrun : Along next Serves created actions) :
    let roots := ((Session.of driver now).run before).driver.rootsWithSubDevices
    let finished := created.history actions
    ∃ c, (created.run actions).collector = some c ∧
      told (created.run actions).journal =
        told created.journal ++ (if notifies then finished.map (·.notice) else []) ∧
      (∀ name, c.profile.kernels.contains name = true ↔
        ∃ f ∈ finished, f.command.props.displayName config.verbose = .ok name) ∧
      (∀ name info, c.profile.kernels.get? name = some info →
        info.Sums (Finished.durationsUnder config.verbose name finished) ∧
          info.minTime ≤ info.averageTime ∧ info.averageTime ≤ info.maxTime) ∧
      if config.kernelIntervals then
        List.Forall₂ (Finished.Recorded config.verbose config.intervalDomain roots) finished
          c.profile.intervals.toList
      else c.profile.intervals = #[] := by
  intro roots finished
  obtain ⟨c₀, h₀⟩ := hborn.remembers
  obtain ⟨c, h⟩ := h₀.run hrun
  rw [List.nil_append] at h
  have htable := h.reflects.table
  have hintervals := h.reflects.intervals
  rw [h.verbose] at htable
  rw [h.verbose, h.records, h.domain] at hintervals
  refine ⟨c, h.at_work, h.told, fun name => ?_, fun name info hinfo => ?_, hintervals⟩
  · rw [← Finished.durationsUnder_ne_nil_iff]
    exact (htable name).isSome_iff
  · have hsums : info.Sums (Finished.durationsUnder config.verbose name finished) := by
      have htallies := htable name
      rwa [hinfo] at htallies
    exact ⟨hsums, hsums.minTime_le_averageTime, hsums.averageTime_le_maxTime⟩

def partitioned : Session :=
  (((Session.of .standard 7).run [.addDevice 1000 2]).step (.create .verboseDefault true)).2

/-- A copy is submitted twice in one batch. One call is completed by its event, the other one by
a sweep after the event was signalled with other ticks. -/
def copiedTwice : List Action :=
  [.exitListCreate ⟨50⟩ ⟨60⟩ ⟨1⟩ false (.ok ()), .enterAppend 0 ⟨50⟩ (.memoryCopy 4096) none,
    .exitAppend 0 (.ok ()), .enterExecute 0 ⟨70⟩ [⟨50⟩, ⟨50⟩], .exitExecute 0 (.ok ()),
    .signal ⟨6⟩ ⟨10, 20⟩, .processEvent ⟨6⟩, .signal ⟨6⟩ ⟨30, 70⟩, .processCalls]

/-- Ten and forty milliseconds under one name, and two intervals with a slice for each of the two
sub-devices. -/
theorem profile_reflects_history_copiedTwice :
    ∃ c info, (partitioned.run copiedTwice).collector = some c ∧
      c.profile.kernels.get? "zeCommandListAppendMemoryCopy[4096 bytes]" = some info ∧
      info.callCount.toNat = 2 ∧ info.totalTime.toNat = 50000000 ∧
      info.minTime = 10000000 ∧ info.maxTime = 40000000 ∧
      info.minTime ≤ info.averageTime ∧ info.averageTime ≤ info.maxTime ∧
      c.profile.intervals.size = 2 ∧
      ∀ i ∈ c.profile.intervals.toList, i.device = ⟨1⟩ ∧ i.windows.map (·.subDevice) = [0, 1] := by
  have hborn : Creates .verboseDefault true ((Session.of .standard 7).run [.addDevice 1000 2])
      partitioned := .create (Prod.ext (by decide +kernel) rfl)
  have hrun : Along next Serves partitioned copiedTwice := by decide +kernel
  have hdurations : Finished.durationsUnder true "zeCommandListAppendMemoryCopy[4096 bytes]"
      (partitioned.history copiedTwice) = [10000000, 40000000] := by decide +kernel
  have hlength : (partitioned.history copiedTwice).length = 2 := by decide +kernel
  have hroots : ((Session.of .standard 7).run [.addDevice 1000 2]).driver.rootsWithSubDevices =
      [(⟨1⟩, [⟨2⟩, ⟨3⟩])] := by decide +kernel
  have hdevices : ∀ f ∈ partitioned.history copiedTwice, f.command.device = ⟨1⟩ := by
    decide +kernel
  obtain ⟨c, hc, -, hcontains, htable, hintervals⟩ :=
    profile_reflects_history .standard 7 [.addDevice 1000 2] copiedTwice .verboseDefault true
      partitioned hborn hrun
  have hshown := (hcontains "zeCommandListAppendMemoryCopy[4096 bytes]").mpr <| by
    rw [← Finished.durationsUnder_ne_nil_iff]
    show Finished.durationsUnder true _ (partitioned.history copiedTwice) ≠ []
    rw [hdurations]
    exact List.cons_ne_nil _ _
  obtain ⟨info, hinfo⟩ := Option.isSome_iff_exists.mp hshown
  obtain ⟨hsums, hlow, hhigh⟩ := htable _ info hinfo
  have hsums' : info.Sums [10000000, 40000000] := hdurations ▸ hsums
  refine ⟨c, info, hc, hinfo, hsums'.calls, hsums'.total, ?_, ?_, hlow, hhigh, ?_, ?_⟩
  · exact (Option.some.inj hsums'.shortest).symm
  · exact (Option.some.inj hsums'.longest).symm
  · have hsame := List.Forall₂.length_eq hintervals
    rw [hlength, Array.length_toList] at hsame
    exact hsame.symm
  · have hrecorded : List.Forall₂ (Finished.Recorded true .host [(⟨1⟩, [⟨2⟩, ⟨3⟩])])
        (partitioned.history copiedTwice) c.profile.intervals.toList := by
      rw [← hroots]
      exact hintervals
    exact Finished.recorded_of_root hrecorded hdevices (by decide) List.mem_cons_self (by decide)
      (by decide)

end GpuTrace.Session
