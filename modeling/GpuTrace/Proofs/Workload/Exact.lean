import GpuTrace.Program.Run
import GpuTrace.Proofs.Session.Paths
import GpuTrace.Proofs.Workload.Rows

/-!
# Exactness — the program from its start to the kernel table

The program creates a collector on a driver with one device (`createCollector_start`), from where
the workload runs as `Workload.run_ends` says. What it leaves, what the application was told and what
the table shows are then known for every number of launches (`traceWorkload_exact`).
-/

namespace GpuTrace.Program

open Fallible Tracing Workload

variable {config : Config} {notifies : Bool}

/-! ## The start -/

def startDevice : DeviceHandle := ⟨1⟩

def startDriver : Driver :=
  (Driver.standard.addDevice timerFrequency 0).2.register.2

def startCollector (config : Config) (notifies : Bool) : Collector where
  tracer := ⟨2⟩
  config := config
  notifies := notifies
  enabled := true
  registry := .empty
  profile := .of ⟨Table.empty.insert startDevice []⟩ config.verbose config.kernelIntervals
    config.intervalDomain

def startSession (config : Config) (notifies : Bool) : Session :=
  { initialSession with
    driver := startDriver
    collector := some (startCollector config notifies) }

def startTracing (config : Config) (notifies : Bool) : Tracing :=
  (startSession config notifies).tracing (startCollector config notifies)

theorem createCollector_start (config : Config) (notifies : Bool) :
    Session.createCollector config notifies { initialSession with
        driver := (Driver.standard.addDevice timerFrequency 0).2 } =
      .ok (.ok ()) (startSession config notifies) := rfl

theorem serves_start : Serves startDevice 10000 (startTracing config notifies) where
  timer := ⟨0, rfl, Nat.zero_le _⟩
  unmasked := rfl
  makes := ⟨rfl, rfl⟩
  enabled := rfl
  mapped := ⟨_, rfl⟩
  clock := Nat.le_refl 10000
  timed := Nat.zero_le _
  counted := Nat.zero_le _

theorem holds_start : (startTracing config notifies).Holds [] := by
  have hnumbered : startDriver.Numbered := ⟨nofun, nofun, nofun⟩
  exact ⟨rfl, Registry.wellFormed_empty, .refl _, hnumbered.custody, nofun, fun _ => nofun⟩

/-! ## The end -/

/-- What a run of the workload with `n` launches leaves, tells and shows. -/
structure Exact (verbose told : Bool) (n : Nat) (s : Session) : Prop where
  /-- No call is pending and no list registered. -/
  settled : ∃ c, s.collector = some c ∧ c.pendingCount = 0 ∧ c.listCount = 0
  events : s.driver.events.keys = []
  pools : s.driver.pools.keys = []
  calls : noticeIds s.journal = if told then callOrder n else []
  callCount : told = true → (noticeIds s.journal).length = 2 * n + 5
  table : ((kernelTable s).map KernelEntry.row).Perm (rows verbose n)
  total : ∃ summary, Summary.of (kernelTable s) = .ok summary ∧
    summary.totalTime.toNat = 211 * (n + 2) + 37 * ((n + 1) * (n + 2)) + 40

section Added

variable {t : Tracing} {fs : List Finished} {n : Nat} (hglimpses : fs.map Finished.glimpse = glimpses n)

include hglimpses

theorem ids_of_added (h : Added (startTracing config notifies) fs t) :
    noticeIds t.journal = if notifies then callOrder n else [] := by
  have hids : (fs.map (·.notice)).map (·.id) = callOrder n := by
    rw [← ids_glimpses, ← hglimpses, List.map_map, List.map_map]
    rfl
  have htold : told t.journal = if notifies then fs.map (·.notice) else [] := h.told
  rw [noticeIds_eq, htold, ← hids]
  cases notifies <;> rfl

theorem table_of_added (h : (startTracing config notifies).profile.AddsAll fs t.profile)
    (hmax : n ≤ 100000000) :
    (t.profile.sorted.map KernelEntry.row).Perm (rows config.verbose n) := by
  have hfits : 2 + n ≤ UInt32.size := Nat.le_trans (Nat.add_le_add_left hmax 2) (by decide)
  have hverbose : t.profile.verbose = config.verbose := h.settings.2
  have hreflects : t.profile.Reflects [(startDevice, [])] fs :=
    (Profile.reflects_of rfl _ _ _).takesAll h.takesAll
  refine hreflects.rows_perm (nodup_rows _ n) (fun f hf => ?_) fun row hrow => ?_
  · have hseen : f.glimpse ∈ glimpses n := hglimpses ▸ List.mem_map_of_mem hf
    rw [hverbose]
    exact named_rows hfits _ hseen
  · obtain ⟨hpos, hcalls, htime⟩ := summed_rows hfits row hrow
    rw [hverbose, hglimpses]
    exact ⟨hpos, hcalls, htime⟩

theorem total_of_added (h : (startTracing config notifies).profile.AddsAll fs t.profile)
    (hmax : n ≤ 100000000) : ∃ summary, Summary.of t.profile.sorted = .ok summary ∧
      summary.totalTime.toNat = 211 * (n + 2) + 37 * ((n + 1) * (n + 2)) + 40 := by
  have hdurations : (fs.map (·.duration.toNat)).sum =
      211 * (n + 2) + 37 * ((n + 1) * (n + 2)) + 40 := by
    rw [← sum_durations, ← hglimpses, List.map_map]
    rfl
  have htimed : t.profile.timed = 211 * (n + 2) + 37 * ((n + 1) * (n + 2)) + 40 :=
    h.timed.trans ((Nat.zero_add _).trans hdurations)
  have hsquare : (n + 1) * (n + 2) ≤ 100000001 * 100000002 :=
    Nat.mul_le_mul (Nat.add_le_add_right hmax 1) (Nat.add_le_add_right hmax 2)
  have hfits : t.profile.timed < UInt64.size := by
    rw [htimed, show UInt64.size = 18446744073709551616 from rfl]
    omega
  obtain ⟨summary, hsummary, htotal⟩ := Profile.summary_of_fits hfits
  exact ⟨summary, hsummary, htotal.trans htimed⟩

end Added

/-- **The program is exact**: with any settings and any number of launches up to a hundred million
it comes to its end, and everything that it leaves, tells and shows is known. -/
theorem traceWorkload_exact (config : Config) (options : Options)
    (hmax : options.kernels.toNat ≤ 100000000) :
    ∃ s, (traceWorkload config options).run initialSession = .ok (.ok ()) s ∧
      Exact config.verbose options.printCalls options.kernels.toNat s := by
  obtain ⟨_, t, hrun, fs, hholds, hadded, hglimpses⟩ :=
    (run_ends (t := startTracing config options.printCalls) serves_start holds_start rfl (by decide)
      (by decide) hmax).exists_ok
  have htrace : Session.trace (Workload.run startDevice options.kernels.toNat)
      (startSession config options.printCalls) =
      .ok (some ()) ((startSession config options.printCalls).after t) :=
    Session.trace_of_ok rfl hrun
  have hprogram : traceWorkload config options initialSession =
      .ok (.ok ()) ((startSession config options.printCalls).after t) :=
    (bind_of_ok rfl).trans ((bind_of_ok (createCollector_start config options.printCalls)).trans
      ((bind_of_ok htrace).trans rfl))
  obtain ⟨hpending, hlists, hevents, hpools⟩ := hholds.nothing_left
  obtain ⟨summary, hsummary, htotal⟩ := total_of_added hglimpses hadded.adds hmax
  have hids := ids_of_added hglimpses hadded
  refine ⟨_, hprogram, ⟨_, rfl, hpending, hlists⟩, hevents, hpools, hids, fun htold => ?_,
    table_of_added hglimpses hadded.adds hmax, summary, hsummary, htotal⟩
  have hall : noticeIds t.journal = callOrder options.kernels.toNat := by rw [hids, if_pos htold]
  exact (congrArg List.length hall).trans (length_callOrder _)

def printing : Options :=
  { Options.default with kernels := 3, printCalls := true }

/-- With full names, each of the three launches has a row, and eleven calls are told. -/
theorem traceWorkload_exact_verbose : printing.kernels.toNat ≤ 100000000 ∧
    ∃ s, (traceWorkload .verboseDefault printing).run initialSession = .ok (.ok ()) s ∧
      Exact true true 3 s ∧
      noticeIds s.journal = ["1.1", "2.1", "3.1", "4.1", "5.1", "1.2", "2.2", "3.2", "4.2", "5.2",
        "6.1"] ∧
      ((kernelTable s).map KernelEntry.row).length = 6 := by
  have hmax : printing.kernels.toNat ≤ 100000000 := by decide
  obtain ⟨s, hrun, hexact⟩ := traceWorkload_exact .verboseDefault printing hmax
  refine ⟨hmax, s, hrun, hexact, ?_, ?_⟩
  · exact hexact.calls.trans (by decide +kernel)
  · exact hexact.table.length_eq.trans (by decide +kernel)

end GpuTrace.Program
