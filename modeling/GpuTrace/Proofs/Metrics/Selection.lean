import GpuTrace.Proofs.Metrics.Sampling

/-!
# Selection — skipping chunks against a plain scan

`select` looks at the first and the last report of a chunk and may skip the chunk. The plain scan
looks at every report: `scan` filters the raw listing of each window by begin time.

A selection never invents or reorders reports: it is a sublist of the scan. If begin times do not go
back inside a chunk, nothing that the scan finds is skipped (`selectChunk_run`,
`kernelReports_scan`). Then it does not matter how the streams are cut into chunks, neither for the
listing nor for the folded rows.
-/

namespace GpuTrace.Metrics

open Calculation

variable {size column : Nat} {start stop : UInt64}

/-! ## Reports by begin time -/

def beginsIn (column : Nat) (start stop : UInt64) (report : Report) : Bool :=
  match timeOf column report with
  | .ok time => start ≤ time ∧ time ≤ stop
  | .error _ => false

def IsTimed (column : Nat) (report : Report) : Prop :=
  ∃ time, timeOf column report = .ok time

def InOrder (column : Nat) (reports : List Report) : Prop :=
  reports.Pairwise fun earlier later => ∀ s t, timeOf column earlier = .ok s →
    timeOf column later = .ok t → s ≤ t

theorem timeOf_eq_ok_iff {report : Report} {time : UInt64} :
    timeOf column report = .ok time ↔ report[column]? = some (.word64 time) := by
  unfold timeOf valueAt
  cases report[column]? with
  | none => simp [bind_eq_ok_iff]
  | some value => cases value <;> simp [bind_eq_ok_iff, Value.word64?]

theorem beginsIn_eq {report : Report} {time : UInt64} (h : timeOf column report = .ok time) :
    beginsIn column start stop report = inWindow start stop time := by
  unfold beginsIn inWindow
  rw [h]
  exact Bool.decide_and _ _

theorem filterByTime_eq {reports : List Report}
    (htimed : ∀ report ∈ reports, IsTimed column report) :
    filterByTime column start stop reports =
      .ok (reports.filter (beginsIn column start stop)) := by
  induction reports with
  | nil => rfl
  | cons report reports ih =>
    obtain ⟨⟨time, htime⟩, hrest⟩ := List.forall_mem_cons.mp htimed
    simp only [filterByTime, bind_eq_ok_iff, pure_eq_ok_iff]
    refine ⟨time, htime, _, ih hrest, ?_⟩
    rw [List.filter_cons, beginsIn_eq htime]

/-- A chunk whose first report begins behind the window has no report in it. -/
theorem filter_eq_nil_of_late {first : Report} {rest : List Report} {time : UInt64}
    (horder : InOrder column (first :: rest))
    (htimed : ∀ report ∈ first :: rest, IsTimed column report)
    (hfirst : timeOf column first = .ok time) (hlate : stop < time) :
    (first :: rest).filter (beginsIn column start stop) = [] := by
  rw [List.filter_eq_nil_iff]
  intro report hreport
  obtain ⟨t, ht⟩ := htimed report hreport
  have hle : time ≤ t := by
    rcases List.mem_cons.mp hreport with rfl | hlater
    · obtain rfl := Except.ok.inj (hfirst.symm.trans ht)
      exact UInt64.le_refl _
    · exact (List.pairwise_cons.mp horder).1 report hlater time t hfirst ht
  have hnot : ¬ t ≤ stop := UInt64.not_le.mpr (UInt64.lt_of_lt_of_le hlate hle)
  rw [beginsIn_eq ht]
  simp [inWindow, hnot]

/-- A chunk whose last report begins before the window has no report in it. -/
theorem filter_eq_nil_of_early {before : List Report} {last : Report} {time : UInt64}
    (horder : InOrder column (before ++ [last]))
    (htimed : ∀ report ∈ before ++ [last], IsTimed column report)
    (hlast : timeOf column last = .ok time) (hearly : time < start) :
    (before ++ [last]).filter (beginsIn column start stop) = [] := by
  rw [List.filter_eq_nil_iff]
  intro report hreport
  obtain ⟨t, ht⟩ := htimed report hreport
  have hle : t ≤ time := by
    rcases List.mem_append.mp hreport with hearlier | hhere
    · exact (List.pairwise_append.mp horder).2.2 report hearlier last List.mem_cons_self t time ht
        hlast
    · obtain rfl := List.mem_singleton.mp hhere
      obtain rfl := Except.ok.inj (ht.symm.trans hlast)
      exact UInt64.le_refl _
  have hnot : ¬ start ≤ t := UInt64.not_le.mpr (UInt64.lt_of_le_of_lt hle hearly)
  rw [beginsIn_eq ht]
  simp [inWindow, hnot]

/-! ## Chunks -/

/-- What is kept of what a scan finds: some of it, in order, and all of it if `whole`. -/
def Keeps {α : Type} (whole : Prop) (found kept : List α) : Prop :=
  kept.Sublist found ∧ (whole → kept = found)

theorem Run.ends {reports : List Report} {chunk : List Value} (h : Run size reports chunk) :
    (∃ first rest, reports = first :: rest ∧ chunk.take size = first) ∧
      ∃ before last, reports = before ++ [last] ∧ chunk.drop (chunk.length - size) = last := by
  constructor
  · obtain ⟨first, rest, rfl⟩ := List.exists_cons_of_ne_nil h.some
    refine ⟨first, rest, rfl, ?_⟩
    rw [h.joined, List.flatten_cons, List.take_left' (h.width first List.mem_cons_self)]
  · rcases List.eq_nil_or_concat reports with hnil | ⟨before, last, rfl⟩
    · exact absurd hnil h.some
    · have hwidth : last.length = size := h.width last (by simp)
      refine ⟨before, last, List.concat_eq_append, ?_⟩
      have hchunk : chunk = before.flatten ++ last := by
        rw [h.joined]
        simp
      have hskip : chunk.length - size = before.flatten.length := by
        rw [hchunk, List.length_append, hwidth, Nat.add_sub_cancel]
      rw [hskip, hchunk, List.drop_left]

variable (start stop) in
/-- Skipping a run drops nothing of it if begin times do not go back there. -/
theorem selectChunk_run {reports : List Report} {chunk : List Value}
    (hrun : Run size reports chunk) (hpos : 0 < size)
    (htimed : ∀ report ∈ reports, IsTimed column report) :
    ∃ kept, selectChunk size column start stop chunk = .ok kept ∧
      Keeps (InOrder column reports) (reports.filter (beginsIn column start stop)) kept := by
  have hlength : chunk.length = reports.length * size := by
    rw [hrun.joined, length_flatten_run hrun.width]
  have hwhole : chunk.length % size = 0 := by
    rw [hlength, Nat.mul_mod_left]
  have hsome : chunk.isEmpty = false := by
    have hreports : 0 < reports.length := List.length_pos_of_ne_nil hrun.some
    have hvalues : 0 < chunk.length := by
      rw [hlength]
      exact Nat.mul_pos hreports hpos
    exact List.isEmpty_eq_false_iff.mpr (List.ne_nil_of_length_pos hvalues)
  obtain ⟨⟨first, rest, hfirst, htake⟩, before, last, hlast, hdrop⟩ := hrun.ends
  obtain ⟨t, ht⟩ := htimed first (by simp [hfirst])
  obtain ⟨u, hu⟩ := htimed last (by simp [hlast])
  unfold selectChunk
  rw [hwhole, hsome, htake, hdrop, ht, hu, hrun.reportsOf hpos, filterByTime_eq htimed]
  simp only [ne_eq, not_true, if_false, Bool.false_eq_true]
  -- Skipped for its first time, or else for its last one, or filtered.
  by_cases hlate : stop < t
  · refine ⟨[], if_pos hlate, List.nil_sublist _, fun horder => ?_⟩
    subst hfirst
    exact (filter_eq_nil_of_late horder htimed ht hlate).symm
  · by_cases hearly : u < start
    · refine ⟨[], (if_neg hlate).trans (if_pos hearly), List.nil_sublist _, fun horder => ?_⟩
      subst hlast
      exact (filter_eq_nil_of_early horder htimed hu hearly).symm
    · exact ⟨_, (if_neg hlate).trans (if_neg hearly), List.Sublist.refl _, fun _ => rfl⟩

variable (start stop) in
/-- A stream of runs is selected run by run. -/
theorem selectChunks_runs {chunks : List (List Value)} (hpos : 0 < size)
    (hruns : ∀ chunk ∈ chunks, ∃ reports, Run size reports chunk)
    (htimed : ∀ report ∈ chunks.flatMap (reportsOf size), IsTimed column report) :
    ∃ kept, selectChunks size column start stop chunks = .ok kept ∧
      Keeps (∀ chunk ∈ chunks, InOrder column (reportsOf size chunk))
        ((chunks.flatMap (reportsOf size)).filter (beginsIn column start stop)) kept := by
  induction chunks with
  | nil => exact ⟨[], rfl, List.Sublist.refl _, fun _ => rfl⟩
  | cons chunk chunks ih =>
    obtain ⟨⟨reports, hrun⟩, hrest⟩ := List.forall_mem_cons.mp hruns
    rw [List.flatMap_cons, hrun.reportsOf hpos] at htimed
    obtain ⟨hhere, hlater⟩ := List.forall_mem_append.mp htimed
    obtain ⟨kept, hkept, hsub, hall⟩ := selectChunk_run start stop hrun hpos hhere
    obtain ⟨kept', hkept', hsub', hall'⟩ := ih hrest hlater
    refine ⟨kept ++ kept', ?_, ?_, fun horder => ?_⟩
    · simp only [selectChunks, bind_eq_ok_iff, pure_eq_ok_iff]
      exact ⟨kept, hkept, kept', hkept', rfl⟩
    · rw [List.flatMap_cons, hrun.reportsOf hpos, List.filter_append]
      exact hsub.append hsub'
    · obtain ⟨hfirst, hothers⟩ := List.forall_mem_cons.mp horder
      rw [hrun.reportsOf hpos] at hfirst
      rw [List.flatMap_cons, hrun.reportsOf hpos, List.filter_append, hall hfirst, hall' hothers]

/-! ## Windows -/

namespace Aggregator

variable {a : Aggregator} {subDevice : Nat} {schema : Schema} {layout : Layout}
  {domain : ClockDomain} {window : DeviceInterval} {interval : KernelInterval}

/-- Plain scan of one window: the rows of the raw listing that begin in it. -/
def scanWindow (a : Aggregator) (domain : ClockDomain) (window : DeviceInterval) :
    Except Fault (List ReportRow) := do
  let layout ← a.layout window.subDevice
  let rows ← a.rawReports window.subDevice
  let start ← a.sync.toDeviceNs window.start domain
  let stop ← a.sync.toDeviceNs window.stop domain
  return rows.filter fun row => beginsIn layout.time start stop row.values

def scan (a : Aggregator) (interval : KernelInterval) : Except Fault (List ReportRow) := do
  return (← interval.windows.mapM (a.scanWindow interval.domain)).flatten

def HasTimes (a : Aggregator) : Prop :=
  ∀ subDevice layout rows, a.layout subDevice = .ok layout → a.rawReports subDevice = .ok rows →
    ∀ row ∈ rows, IsTimed layout.time row.values

def ChunksInOrder (a : Aggregator) (subDevice : Nat) : Prop :=
  ∀ schema layout, a.schema subDevice = .ok schema → a.layout subDevice = .ok layout →
    ∀ chunk ∈ a.source.chunks subDevice, InOrder layout.time (reportsOf schema.size chunk)

def StreamInOrder (a : Aggregator) (subDevice : Nat) : Prop :=
  ∀ layout rows, a.layout subDevice = .ok layout → a.rawReports subDevice = .ok rows →
    InOrder layout.time (rows.map (·.values))

/-- The window is on a sampled sub-device, and device time does not go back in it. -/
structure Resolves (a : Aggregator) (domain : ClockDomain) (window : DeviceInterval) : Prop where
  sampled : window.subDevice < a.source.count
  converts : ∃ start stop, a.sync.toDeviceNs window.start domain = .ok start ∧
    a.sync.toDeviceNs window.stop domain = .ok stop ∧ start ≤ stop

theorem StreamInOrder.chunks (h : a.StreamInOrder subDevice)
    (hsamples : a.Samples subDevice schema layout) : a.ChunksInOrder subDevice := by
  intro schema' layout' hschema hlayout chunk hchunk
  obtain rfl := Except.ok.inj (hsamples.schema_eq.symm.trans hschema)
  obtain rfl := Except.ok.inj (hsamples.layout_eq.symm.trans hlayout)
  have horder := h layout _ hsamples.layout_eq hsamples.rawReports
  simp only [List.map_map, Function.comp_def, List.map_id'] at horder
  exact (List.pairwise_flatMap.mp horder).1 chunk hchunk

theorem HasTimes.reports (h : a.HasTimes) (hsamples : a.Samples subDevice schema layout) :
    ∀ report ∈ (a.source.chunks subDevice).flatMap (reportsOf schema.size),
      IsTimed layout.time report := by
  intro report hreport
  exact h subDevice layout _ hsamples.layout_eq hsamples.rawReports ⟨subDevice, report⟩
    (List.mem_map_of_mem hreport)

def selectWindow (a : Aggregator) (domain : ClockDomain) (window : DeviceInterval) :
    Except Fault (List ReportRow) := do
  return (← a.matching domain window).map (⟨window.subDevice, ·⟩)

theorem kernelReports_eq (h : interval.device = a.device) :
    a.kernelReports interval =
      List.flatten <$> interval.windows.mapM (a.selectWindow interval.domain) := by
  unfold kernelReports windowsOf
  rw [if_pos h]
  rfl

theorem Samples.matching (hsamples : a.Samples window.subDevice schema layout) :
    a.matching domain window =
      (do
        let start ← a.sync.toDeviceNs window.start domain
        let stop ← a.sync.toDeviceNs window.stop domain
        select (a.source.chunks window.subDevice) schema.size layout.time start stop) := by
  unfold Aggregator.matching
  rw [hsamples.layout_eq, hsamples.schema_eq]
  rfl

section Sampled

variable {start stop : UInt64} (hsamples : a.Samples window.subDevice schema layout)
  (hstart : a.sync.toDeviceNs window.start domain = .ok start)
  (hstop : a.sync.toDeviceNs window.stop domain = .ok stop)

include hsamples hstart hstop

theorem scanWindow_eq : a.scanWindow domain window =
    .ok ((((a.source.chunks window.subDevice).flatMap (reportsOf schema.size)).filter
      (beginsIn layout.time start stop)).map (⟨window.subDevice, ·⟩)) := by
  unfold scanWindow
  rw [hsamples.layout_eq, hsamples.rawReports, hstart, hstop]
  exact congrArg Except.ok List.filter_map

theorem matching_eq : a.matching domain window =
    select (a.source.chunks window.subDevice) schema.size layout.time start stop := by
  rw [hsamples.matching, hstart, hstop]
  rfl

end Sampled

/-- In a window of a sampled sub-device a selection keeps of the scan what it does not skip. -/
theorem select_keeps (hbuilt : a.source.Built) (htimes : a.HasTimes)
    (hsamples : a.Samples subDevice schema layout) {start stop : UInt64} (hle : start ≤ stop) :
    ∃ kept, select (a.source.chunks subDevice) schema.size layout.time start stop = .ok kept ∧
      Keeps (a.ChunksInOrder subDevice)
        (((a.source.chunks subDevice).flatMap (reportsOf schema.size)).filter
          (beginsIn layout.time start stop)) kept := by
  obtain ⟨kept, hkept, hsub, hall⟩ := selectChunks_runs start stop
    hsamples.size_pos (hbuilt.run hsamples.schema?) (htimes.reports hsamples)
  refine ⟨kept, ?_, hsub, fun horder => hall ?_⟩
  · have hpos : schema.size ≠ 0 := Nat.ne_of_gt hsamples.size_pos
    have htime : ¬ schema.size ≤ layout.time := Nat.not_le.mpr hsamples.time_lt
    have hrange : ¬ stop < start := UInt64.not_lt.mpr hle
    unfold select
    simp only [hpos, htime, hrange, if_false]
    exact hkept
  · exact horder schema layout hsamples.schema_eq hsamples.layout_eq

section Built

variable {timeColumn clocksColumn : String} (hbuilt : a.source.Built)
  (ha : withColumns a.source a.device a.sync timeColumn clocksColumn = .ok a) (htimes : a.HasTimes)

include hbuilt ha htimes

theorem selectWindow_keeps (hwindow : a.Resolves domain window) :
    ∃ found kept, a.scanWindow domain window = .ok found ∧
      a.selectWindow domain window = .ok kept ∧
      Keeps (a.ChunksInOrder window.subDevice) found kept := by
  obtain ⟨start, stop, hstart, hstop, hle⟩ := hwindow.converts
  obtain ⟨schema, layout, hsamples⟩ := samples_of_lt ha hwindow.sampled
  obtain ⟨kept, hkept, hsub, hall⟩ := select_keeps hbuilt htimes hsamples hle
  refine ⟨_, kept.map (⟨window.subDevice, ·⟩), scanWindow_eq hsamples hstart hstop, ?_, ?_,
    fun horder => ?_⟩
  · unfold selectWindow
    rw [matching_eq hsamples hstart hstop, hkept]
    rfl
  · exact hsub.map _
  · rw [hall horder]

theorem kernelReports_keeps (hdevice : interval.device = a.device)
    (hwindows : ∀ window ∈ interval.windows, a.Resolves interval.domain window) :
    ∃ found kept, a.scan interval = .ok found ∧ a.kernelReports interval = .ok kept ∧
      Keeps (∀ window ∈ interval.windows, a.ChunksInOrder window.subDevice) found kept := by
  have hall : ∀ windows : List DeviceInterval,
      (∀ window ∈ windows, a.Resolves interval.domain window) →
      ∃ founds kepts, windows.mapM (a.scanWindow interval.domain) = .ok founds ∧
        windows.mapM (a.selectWindow interval.domain) = .ok kepts ∧
        Keeps (∀ window ∈ windows, a.ChunksInOrder window.subDevice) founds.flatten
          kepts.flatten := by
    intro windows hwindows
    induction windows with
    | nil => exact ⟨[], [], rfl, rfl, List.Sublist.refl _, fun _ => rfl⟩
    | cons window windows ih =>
      obtain ⟨hfirst, hothers⟩ := List.forall_mem_cons.mp hwindows
      obtain ⟨found, kept, hfound, hkept, hsub, hwhole⟩ :=
        selectWindow_keeps hbuilt ha htimes hfirst
      obtain ⟨founds, kepts, hfounds, hkepts, hsubs, hwholes⟩ := ih hothers
      rw [mapM_eq_ok_iff] at hfounds hkepts
      refine ⟨found :: founds, kept :: kepts, mapM_eq_ok_iff.mpr (.cons hfound hfounds),
        mapM_eq_ok_iff.mpr (.cons hkept hkepts), hsub.append hsubs, fun horder => ?_⟩
      obtain ⟨hhere, hlater⟩ := List.forall_mem_cons.mp horder
      rw [List.flatten_cons, List.flatten_cons, hwhole hhere, hwholes hlater]
  obtain ⟨founds, kepts, hfounds, hkepts, hkeeps⟩ := hall interval.windows hwindows
  refine ⟨founds.flatten, kepts.flatten, ?_, ?_, hkeeps⟩
  · unfold scan
    rw [hfounds]
    rfl
  · rw [kernelReports_eq hdevice, hkepts]
    rfl

end Built

/-! ## Cutting streams differently -/

section Recut

variable {source' : Source}

theorem Samples.recut (hsamples : a.Samples subDevice schema layout)
    (hsame : a.source.SameStreams source') :
    ({ a with source := source' } : Aggregator).Samples subDevice schema layout := by
  refine ⟨?_, hsamples.layout_eq, hsamples.size_pos, hsamples.time_lt, hsamples.clocks_lt⟩
  have hschema := hsamples.schema_eq
  unfold Aggregator.schema at hschema ⊢
  rwa [hsame.schema?]

/-- The reports of a stream are the same, however it is cut into runs. -/
theorem Samples.reports_recut (hsamples : a.Samples subDevice schema layout)
    (hsame : a.source.SameStreams source') (hbuilt : a.source.Built) (hbuilt' : source'.Built) :
    (source'.chunks subDevice).flatMap (reportsOf schema.size) =
      (a.source.chunks subDevice).flatMap (reportsOf schema.size) := by
  have hschema' : source'.schema? subDevice = some schema :=
    (hsame.schema? subDevice).trans hsamples.schema?
  rw [reportsOf_chunks hsamples.size_pos (hbuilt'.run hschema'), hsame.values,
    reportsOf_chunks hsamples.size_pos (hbuilt.run hsamples.schema?)]

variable (hbuilt : a.source.Built) (hbuilt' : source'.Built)
  (hsame : a.source.SameStreams source')

include hbuilt hbuilt' hsame

theorem Samples.rawReports_recut (hsamples : a.Samples subDevice schema layout) :
    ({ a with source := source' } : Aggregator).rawReports subDevice = a.rawReports subDevice := by
  rw [(hsamples.recut hsame).rawReports, hsamples.rawReports]
  exact congrArg (fun reports => Except.ok (reports.map (ReportRow.mk subDevice)))
    (hsamples.reports_recut hsame hbuilt hbuilt')

theorem StreamInOrder.chunks_recut (horder : a.StreamInOrder subDevice)
    (hsamples : a.Samples subDevice schema layout) :
    ({ a with source := source' } : Aggregator).ChunksInOrder subDevice := by
  refine StreamInOrder.chunks ?_ (hsamples.recut hsame)
  intro layout' rows hlayout hrows
  rw [hsamples.rawReports_recut hbuilt hbuilt' hsame] at hrows
  exact horder layout' rows hlayout hrows

variable {device : DeviceHandle} {sync : ClockSync} {timeColumn clocksColumn : String}
  (ha : withColumns a.source device sync timeColumn clocksColumn = .ok a) (htimes : a.HasTimes)
  (horder : ∀ subDevice, a.StreamInOrder subDevice)

include ha htimes

theorem HasTimes.recut : ({ a with source := source' } : Aggregator).HasTimes := by
  intro subDevice layout rows hlayout hrows
  obtain ⟨schema, hsamples⟩ := samples_of_layout ha hlayout
  rw [hsamples.rawReports_recut hbuilt hbuilt' hsame] at hrows
  exact htimes subDevice layout rows hlayout hrows

include horder

/-- A selection from a stream in order does not depend on the chunks. -/
theorem select_recut (hsamples : a.Samples subDevice schema layout) (start stop : UInt64) :
    select (source'.chunks subDevice) schema.size layout.time start stop =
      select (a.source.chunks subDevice) schema.size layout.time start stop := by
  by_cases hle : start ≤ stop
  · obtain ⟨kept, hkept, -, hall⟩ := select_keeps hbuilt htimes hsamples hle
    obtain ⟨kept', hkept', -, hall'⟩ := select_keeps hbuilt'
      (HasTimes.recut hbuilt hbuilt' hsame ha htimes) (hsamples.recut hsame) hle
    have hfound := hall ((horder subDevice).chunks hsamples)
    have hfound' := hall' ((horder subDevice).chunks_recut hbuilt hbuilt' hsame hsamples)
    rw [hsamples.reports_recut hsame hbuilt hbuilt', ← hfound] at hfound'
    rw [hkept, hkept', hfound']
  · -- A reversed window stops either selection before it reads a chunk.
    have hreversed : stop < start := UInt64.not_le.mp hle
    have hpos : schema.size ≠ 0 := Nat.ne_of_gt hsamples.size_pos
    have htime : ¬ schema.size ≤ layout.time := Nat.not_le.mpr hsamples.time_lt
    unfold select
    simp only [hpos, htime, hreversed, if_false, if_true]
    rfl

/-- Nor does what is selected in a window, whether or not the window resolves. -/
theorem matching_recut :
    ({ a with source := source' } : Aggregator).matching = a.matching := by
  funext domain window
  cases hlayout : a.layout window.subDevice with
  | error fault =>
    have hlayout' : ({ a with source := source' } : Aggregator).layout window.subDevice =
        .error fault := hlayout
    unfold matching
    rw [hlayout, hlayout']
    rfl
  | ok layout =>
    obtain ⟨schema, hsamples⟩ := samples_of_layout ha hlayout
    have hselect := select_recut hbuilt hbuilt' hsame ha htimes horder hsamples
    rw [hsamples.matching, (hsamples.recut hsame).matching]
    simp only [hselect]

theorem aggregate_recut :
    ({ a with source := source' } : Aggregator).aggregate = a.aggregate := by
  have hschema : ({ a with source := source' } : Aggregator).schema = a.schema := by
    funext subDevice
    unfold Aggregator.schema
    rw [hsame.schema?]
  have hfold : ({ a with source := source' } : Aggregator).fold = a.fold := by
    unfold fold
    rw [hschema]
    rfl
  have hwindow : ({ a with source := source' } : Aggregator).foldWindow = a.foldWindow := by
    unfold foldWindow
    rw [matching_recut hbuilt hbuilt' hsame ha htimes horder, hfold]
  unfold aggregate
  rw [hwindow]
  rfl

end Recut

/-- A selection is a sublist of the plain scan, and all of it if begin times do not go back inside a
chunk. If they do not go back in a whole stream, then no listing and no row depends on how the
streams are cut into chunks. -/
theorem kernelReports_scan {source : Source} {device : DeviceHandle} {sync : ClockSync}
    {timeColumn clocksColumn : String} (hbuilt : source.Built)
    (ha : withColumns source device sync timeColumn clocksColumn = .ok a) (htimes : a.HasTimes) :
    (∀ interval : KernelInterval, interval.device = device →
      (∀ window ∈ interval.windows, a.Resolves interval.domain window) →
      ∃ found kept, a.scan interval = .ok found ∧ a.kernelReports interval = .ok kept ∧
        kept.Sublist found ∧
        ((∀ window ∈ interval.windows, a.ChunksInOrder window.subDevice) → kept = found)) ∧
    ((∀ subDevice, a.StreamInOrder subDevice) →
      ∀ source' : Source, source'.Built → source.SameStreams source' →
      ∃ a', withColumns source' device sync timeColumn clocksColumn = .ok a' ∧
        a'.kernelReports = a.kernelReports ∧ a'.aggregate = a.aggregate ∧
        a'.aggregateAll = a.aggregateAll) := by
  have ha' := ha
  obtain ⟨layouts, -, rfl⟩ := withColumns_eq_ok_iff.mp ha
  constructor
  · intro interval hdevice hwindows
    exact kernelReports_keeps hbuilt ha' htimes hdevice hwindows
  · intro horder source' hbuilt' hsame
    refine ⟨_, withColumns_of_same hsame ha', ?_, ?_, ?_⟩
    · have hmatching := matching_recut hbuilt hbuilt' hsame ha' htimes horder
      funext interval
      unfold kernelReports
      rw [hmatching]
      rfl
    · exact aggregate_recut hbuilt hbuilt' hsame ha' htimes horder
    · have haggregate := aggregate_recut hbuilt hbuilt' hsame ha' htimes horder
      funext intervals
      unfold aggregateAll
      rw [haggregate]

def clockSchema : Schema := ⟨[⟨"begin", .timestamp⟩, ⟨"clocks", .event⟩]⟩

/-- Four reports, two of which begin at the same time. -/
def fourReports : List Report :=
  [[.word64 10, .word64 1], [.word64 20, .word64 2], [.word64 20, .word64 3],
    [.word64 30, .word64 4]]

/-- The four reports, cut between the two that begin at the same time. -/
def cutAtEqualTimes : Source :=
  ⟨[⟨some clockSchema, [(fourReports.take 2).flatten, (fourReports.drop 2).flatten]⟩]⟩

def uncut : Source := ⟨[⟨some clockSchema, [fourReports.flatten]⟩]⟩

def equalTimes : Aggregator := ⟨cutAtEqualTimes, ⟨1⟩, ⟨0, 0, 1000⟩, [⟨0, 1⟩]⟩

theorem built_cutAtEqualTimes : cutAtEqualTimes.Built := by
  have hadded : (Source.empty.addSubDevice clockSchema).2.Built := .addSubDevice .empty clockSchema
  have hfirst : Source.Built ⟨[⟨some clockSchema, [(fourReports.take 2).flatten]⟩]⟩ :=
    .push hadded (by decide +kernel :
      (Source.empty.addSubDevice clockSchema).2.push 0 (fourReports.take 2) = .ok _)
  exact .push hfirst (by decide +kernel :
    (⟨[⟨some clockSchema, [(fourReports.take 2).flatten]⟩]⟩ : Source).push 0 (fourReports.drop 2) =
      .ok cutAtEqualTimes)

theorem built_uncut : uncut.Built := by
  have hadded : (Source.empty.addSubDevice clockSchema).2.Built := .addSubDevice .empty clockSchema
  exact .push hadded (by decide +kernel :
    (Source.empty.addSubDevice clockSchema).2.push 0 fourReports = .ok uncut)

/-- Both windows begin and end on the time of a report, and share the two at which the chunks
meet. -/
theorem kernelReports_scan_equalTimes :
    let interval : KernelInterval := ⟨"kernel", ⟨1⟩, .device, [⟨20, 30, 0⟩, ⟨10, 20, 0⟩]⟩
    equalTimes.kernelReports interval =
        .ok [⟨0, [.word64 20, .word64 2]⟩, ⟨0, [.word64 20, .word64 3]⟩,
          ⟨0, [.word64 30, .word64 4]⟩, ⟨0, [.word64 10, .word64 1]⟩,
          ⟨0, [.word64 20, .word64 2]⟩, ⟨0, [.word64 20, .word64 3]⟩] ∧
      equalTimes.kernelReports interval = equalTimes.scan interval ∧
      ∃ a', withColumns uncut ⟨1⟩ ⟨0, 0, 1000⟩ "begin" "clocks" = .ok a' ∧
        a'.aggregate interval = equalTimes.aggregate interval := by
  intro interval
  have hraw : equalTimes.rawReports 0 = .ok (fourReports.map (⟨0, ·⟩)) := by decide +kernel
  have hlayout : ∀ {subDevice layout}, equalTimes.layout subDevice = .ok layout →
      subDevice = 0 ∧ layout = ⟨0, 1⟩ := by
    intro subDevice layout h
    cases subDevice with
    | zero => exact ⟨rfl, (Except.ok.inj h).symm⟩
    | succ n => cases h
  have htimes : equalTimes.HasTimes := by
    intro subDevice layout rows hl hrows
    obtain ⟨rfl, rfl⟩ := hlayout hl
    obtain rfl := Except.ok.inj (hraw.symm.trans hrows)
    simp [fourReports, IsTimed, timeOf_eq_ok_iff]
  have horder : ∀ subDevice, equalTimes.StreamInOrder subDevice := by
    intro subDevice layout rows hl hrows
    obtain ⟨rfl, rfl⟩ := hlayout hl
    obtain rfl := Except.ok.inj (hraw.symm.trans hrows)
    simp [fourReports, InOrder, timeOf_eq_ok_iff]
  have hwindows : ∀ window ∈ interval.windows, equalTimes.Resolves interval.domain window := by
    intro window hwindow
    rcases List.mem_pair.mp hwindow with rfl | rfl
    · exact ⟨by decide, 20, 30, rfl, rfl, by decide⟩
    · exact ⟨by decide, 10, 20, rfl, rfl, by decide⟩
  have hmade : withColumns cutAtEqualTimes ⟨1⟩ ⟨0, 0, 1000⟩ "begin" "clocks" = .ok equalTimes := by
    decide +kernel
  obtain ⟨hscan, hrecut⟩ := kernelReports_scan built_cutAtEqualTimes hmade htimes
  obtain ⟨found, kept, hfound, hkept, -, hall⟩ := hscan interval rfl hwindows
  obtain ⟨a', ha', -, haggregate, -⟩ := hrecut horder uncut built_uncut
    ⟨rfl, fun subDevice => by cases subDevice <;> rfl, fun subDevice => by cases subDevice <;> rfl⟩
  refine ⟨by decide +kernel, ?_, a', ha', congrFun haggregate interval⟩
  rw [hkept, hfound, hall]
  intro window hwindow
  obtain ⟨schema, layout, hsamples⟩ := samples_of_lt hmade (hwindows window hwindow).sampled
  exact (horder window.subDevice).chunks hsamples

end Aggregator

end GpuTrace.Metrics
