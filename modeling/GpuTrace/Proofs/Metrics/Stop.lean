import GpuTrace.Proofs.Metrics.Averaging

/-!
# Stop — when reports cannot be folded

A column of reports that are of one family is folded unless there is a reason not to
(`foldColumn_answers_iff`): an integer sum that is too large, a mean without clocks, or a flag where
there is something to compute. Together with a total of the clocks that is too large these are the
only reasons for a window (`fold_answers_iff`).

Everything else that could stop an aggregator is settled before: the layouts when it is made
(`withColumns_answers_iff`), the widths of the reports when they are pushed (`Source.Built.run`), and
the types of the columns by `WellTyped`. So on well-typed reports listing does not stop, and folding
stops exactly at a window that is `Unfoldable` (`aggregate_stops_iff`).
-/

namespace GpuTrace.Metrics

open Calculation

variable {index clocksColumn : Nat} {reports : List Report} {total : UInt64} {family : Family}
  {column : Column}

/-! ## Columns of one family -/

def Uniform (family : Family) (index : Nat) (reports : List Report) : Prop :=
  ∀ report ∈ reports, ∃ value, report[index]? = some value ∧ Family.of value = family

theorem Uniform.hasInteger (h : Uniform .integers index reports) :
    ∀ report ∈ reports, HasInteger index report := by
  intro report hreport
  obtain ⟨value, hvalue, hfamily⟩ := h report hreport
  cases value with
  | word32 n => exact ⟨_, integerAt_eq_ok_iff.mpr ⟨_, hvalue, rfl⟩⟩
  | word64 n => exact ⟨_, integerAt_eq_ok_iff.mpr ⟨_, hvalue, rfl⟩⟩
  | single bits => cases hfamily
  | double bits => cases hfamily
  | flag b => cases hfamily

theorem realAt_eq_ok_iff {report : Report} {x : Float} :
    realAt index report = .ok x ↔ ∃ value, report[index]? = some value ∧ value.real? = some x := by
  unfold realAt
  rw [bind_eq_ok_iff]
  refine exists_congr fun value => and_congr valueAt_eq_ok_iff ?_
  cases value.real? <;> simp

theorem Uniform.hasReal (h : Uniform .reals index reports) :
    ∀ report ∈ reports, ∃ x, realAt index report = .ok x := by
  intro report hreport
  obtain ⟨value, hvalue, hfamily⟩ := h report hreport
  cases value with
  | word32 n => cases hfamily
  | word64 n => cases hfamily
  | single bits => exact ⟨_, realAt_eq_ok_iff.mpr ⟨_, hvalue, rfl⟩⟩
  | double bits => exact ⟨_, realAt_eq_ok_iff.mpr ⟨_, hvalue, rfl⟩⟩
  | flag b => cases hfamily

theorem Uniform.head {first : Report} {rest : List Report}
    (h : Uniform family index (first :: rest)) :
    ∃ entry, valueAt first index = .ok entry ∧ Family.of entry = family := by
  obtain ⟨entry, hentry, hfamily⟩ := h first List.mem_cons_self
  exact ⟨entry, valueAt_eq_ok_iff.mpr hentry, hfamily⟩

/-- A column that is of two families has no reports. -/
theorem Uniform.unique {family' : Family} (h : Uniform family index reports)
    (h' : Uniform family' index reports) (hsome : reports ≠ []) : family = family' := by
  obtain ⟨report, hreport⟩ := List.exists_mem_of_ne_nil _ hsome
  obtain ⟨value, hvalue, rfl⟩ := h report hreport
  obtain ⟨value', hvalue', rfl⟩ := h' report hreport
  rw [hvalue] at hvalue'
  cases hvalue'
  rfl

theorem foldReports_of_answers {α : Type} {step : α → Report → Except Fault α}
    (hstep : ∀ a, ∀ report ∈ reports, ∃ a', step a report = .ok a') (a : α) :
    ∃ b, foldReports step a reports = .ok b := by
  have hfits : ∀ a, ∀ report ∈ reports, 0 + 0 < 1 → ∃ a', step a report = .ok a' ∧ 0 = 0 + 0 := by
    intro a report hreport _
    obtain ⟨a', ha'⟩ := hstep a report hreport
    exact ⟨a', ha', rfl⟩
  obtain ⟨b, hb, -⟩ := foldReports_of_fits (fun _ => 0) (fun _ => 0) hfits (a := a) (by simp)
  exact ⟨b, hb⟩

/-- There is a sum of real numbers in any case, of integers if it fits, and of flags never. -/
theorem sum_answers_iff (hsome : reports ≠ []) (huniform : Uniform family index reports) :
    (∃ value, sum reports index = .ok value) ↔
      family ≠ .flags ∧
        (family = .integers → (reports.map (integer index)).sum < UInt64.size) := by
  cases family with
  | integers =>
    have hvalues := huniform.hasInteger
    constructor
    · rintro ⟨value, hvalue⟩
      obtain ⟨-, total, -, htotal⟩ := sum_exact hvalue fun report hreport =>
        hvalues report (List.mem_of_mem_head? hreport)
      refine ⟨by decide, ?_⟩
      intro _
      rw [← htotal]
      exact total.toNat_lt_size
    · rintro ⟨-, hfits⟩
      obtain ⟨total, htotal⟩ := sum_of_fits hsome hvalues (hfits rfl)
      exact ⟨_, htotal⟩
  | reals =>
    refine iff_of_true ?_ ⟨by decide, by rintro ⟨⟩⟩
    have hstep : ∀ sum, ∀ report ∈ reports,
        ∃ sum', (do return sum + (← realAt index report)) = Except.ok sum' := by
      intro sum report hreport
      obtain ⟨x, hx⟩ := huniform.hasReal report hreport
      refine ⟨sum + x, ?_⟩
      rw [hx]
      rfl
    obtain ⟨total, htotal⟩ := foldReports_of_answers hstep negativeZero
    obtain ⟨first, rest, rfl⟩ := List.exists_cons_of_ne_nil hsome
    obtain ⟨entry, hentry, hfamily⟩ := huniform.head
    refine ⟨.double total.toBits, ?_⟩
    unfold sum
    simp only [hentry, bind_eq_ok_iff, Except.ok.injEq, exists_eq_left', hfamily, pure_eq_ok_iff]
    exact ⟨total, htotal, rfl⟩
  | flags =>
    refine iff_of_false ?_ (fun h => h.1 rfl)
    rintro ⟨value, hvalue⟩
    obtain ⟨first, rest, rfl⟩ := List.exists_cons_of_ne_nil hsome
    obtain ⟨entry, hentry, hfamily⟩ := huniform.head
    simp only [sum, hentry, bind_eq_ok_iff, Except.ok.injEq, exists_eq_left', hfamily] at hvalue
    cases hvalue

/-- There is a mean of all numbers if any clocks elapsed, and of flags never. -/
theorem clockWeighted_answers_iff (hsome : reports ≠ [])
    (huniform : Uniform family index reports)
    (hclocks : ∀ report ∈ reports, HasClocks clocksColumn report)
    (htotal : totalClocks reports clocksColumn = .ok total) :
    (∃ value, clockWeighted reports index clocksColumn total = .ok value) ↔
      family ≠ .flags ∧ total ≠ 0 := by
  by_cases hzero : total = 0
  · refine iff_of_false ?_ (fun h => h.2 hzero)
    rintro ⟨value, hvalue⟩
    obtain ⟨first, rest, rfl⟩ := List.exists_cons_of_ne_nil hsome
    simp only [clockWeighted, hzero, if_true] at hvalue
    cases hvalue
  · cases family with
    | integers =>
      refine iff_of_true ?_ ⟨by decide, hzero⟩
      have hpos : 0 < total := UInt64.pos_iff_ne_zero.mpr hzero
      exact ⟨_, clockWeighted_eq_ok hsome hclocks huniform.hasInteger htotal hpos⟩
    | reals =>
      refine iff_of_true ?_ ⟨by decide, hzero⟩
      have hstep : ∀ sum, ∀ report ∈ reports, ∃ sum', (do
          let x ← realAt index report
          let clocks ← clocksOf clocksColumn report
          return sum + x * clocks.toFloat) = Except.ok sum' := by
        intro sum report hreport
        obtain ⟨x, hx⟩ := huniform.hasReal report hreport
        obtain ⟨clocks, hc⟩ := hclocks report hreport
        refine ⟨sum + x * clocks.toFloat, ?_⟩
        rw [hx, hc]
        rfl
      obtain ⟨weighted, hweighted⟩ := foldReports_of_answers hstep negativeZero
      obtain ⟨first, rest, rfl⟩ := List.exists_cons_of_ne_nil hsome
      obtain ⟨entry, hentry, hfamily⟩ := huniform.head
      refine ⟨.double (weighted / total.toFloat).toBits, ?_⟩
      unfold clockWeighted
      simp only [hzero, if_false, hentry, bind_eq_ok_iff, Except.ok.injEq, exists_eq_left', hfamily,
        pure_eq_ok_iff]
      exact ⟨weighted, hweighted, rfl⟩
    | flags =>
      refine iff_of_false ?_ (fun h => h.1 rfl)
      rintro ⟨value, hvalue⟩
      obtain ⟨first, rest, rfl⟩ := List.exists_cons_of_ne_nil hsome
      obtain ⟨entry, hentry, hfamily⟩ := huniform.head
      simp only [clockWeighted, hzero, if_false, hentry, bind_eq_ok_iff, Except.ok.injEq,
        exists_eq_left', hfamily] at hvalue
      cases hvalue

/-! ## Columns that stop -/

inductive ColumnStops (reports : List Report) (clocksColumn index : Nat) (column : Column) : Prop
  | sumTooLarge (rule : Rule.ofColumn column = .sum) (integers : Uniform .integers index reports)
      (large : UInt64.size ≤ (reports.map (integer index)).sum)
  | noClocks (rule : Rule.ofColumn column = .clockWeighted)
      (zero : (reports.map (clockCount clocksColumn)).sum = 0)
  | flags (rule : Rule.ofColumn column = .sum ∨ Rule.ofColumn column = .clockWeighted)
      (flags : Uniform .flags index reports)

theorem not_columnStops {rule : Rule} (hrule : Rule.ofColumn column = rule) (hsum : rule ≠ .sum)
    (haverage : rule ≠ .clockWeighted) : ¬ ColumnStops reports clocksColumn index column := by
  subst hrule
  intro hstops
  cases hstops with
  | sumTooLarge rule _ _ => exact hsum rule
  | noClocks rule _ => exact haverage rule
  | flags rule _ =>
    rcases rule with rule | rule
    · exact hsum rule
    · exact haverage rule

inductive Unfoldable (reports : List Report) (clocksColumn : Nat) (columns : List Column) : Prop
  | clocksTooLarge (large : UInt64.size ≤ (reports.map (clockCount clocksColumn)).sum)
  | column (index : Nat) (column : Column) (place : columns[index]? = some column)
      (stops : ColumnStops reports clocksColumn index column)

namespace Aggregator

theorem foldColumns_answers_iff {start : Nat} {columns : List Column} :
    (∃ entries, foldColumns reports clocksColumn total start columns = .ok entries) ↔
      ∀ index column, columns[index]? = some column →
        ∃ entry, foldColumn reports clocksColumn total (start + index) column = .ok entry := by
  induction columns generalizing start with
  | nil =>
    refine iff_of_true ⟨[], rfl⟩ ?_
    rintro index column ⟨⟩
  | cons first rest ih =>
    simp only [foldColumns, bind_eq_ok_iff, pure_eq_ok_iff]
    constructor
    · rintro ⟨_, entry, hentry, entries, hentries, -⟩ index column hcolumn
      cases index with
      | zero =>
        cases hcolumn
        exact ⟨entry, hentry⟩
      | succ index =>
        rw [Nat.add_comm index, ← Nat.add_assoc]
        exact ih.mp ⟨entries, hentries⟩ index column hcolumn
    · intro hall
      obtain ⟨entry, hentry⟩ := hall 0 first rfl
      have hrest : ∀ index column, rest[index]? = some column →
          ∃ entry, foldColumn reports clocksColumn total (start + 1 + index) column = .ok entry := by
        intro index column hcolumn
        rw [Nat.add_assoc, Nat.add_comm 1]
        exact hall (index + 1) column hcolumn
      obtain ⟨entries, hentries⟩ := ih.mpr hrest
      exact ⟨_, entry, hentry, entries, hentries, rfl⟩

section Uniform

variable (hsome : reports ≠ []) (hclocks : ∀ report ∈ reports, HasClocks clocksColumn report)

include hsome hclocks

/-- A column of one family is folded unless there is a reason not to. -/
theorem foldColumn_answers_iff (htotal : totalClocks reports clocksColumn = .ok total)
    (huniform : Uniform family index reports) :
    (∃ entry, foldColumn reports clocksColumn total index column = .ok entry) ↔
      ¬ ColumnStops reports clocksColumn index column := by
  obtain ⟨-, hexact⟩ := totalClocks_exact htotal
  have hzero : total ≠ 0 ↔ (reports.map (clockCount clocksColumn)).sum ≠ 0 := by
    rw [← hexact]
    exact not_congr UInt64.toNat_inj.symm
  unfold foldColumn
  cases hrule : Rule.ofColumn column with
  | sum =>
    show (∃ entry, some <$> sum reports index = .ok entry) ↔ _
    rw [exists_map_eq_ok_iff, sum_answers_iff hsome huniform]
    constructor
    · rintro ⟨hflags, hfits⟩ hstops
      cases hstops with
      | sumTooLarge _ integers large =>
        exact Nat.not_le.mpr (hfits (huniform.unique integers hsome)) large
      | noClocks rule _ =>
        rw [hrule] at rule
        cases rule
      | flags _ flags => exact hflags (huniform.unique flags hsome)
    · intro hgoes
      constructor
      · rintro rfl
        exact hgoes (.flags (.inl hrule) huniform)
      · rintro rfl
        apply Nat.lt_of_not_le
        intro large
        exact hgoes (.sumTooLarge hrule huniform large)
  | clockWeighted =>
    show (∃ entry, some <$> clockWeighted reports index clocksColumn total = .ok entry) ↔ _
    rw [exists_map_eq_ok_iff, clockWeighted_answers_iff hsome huniform hclocks htotal, hzero]
    constructor
    · rintro ⟨hflags, hpos⟩ hstops
      cases hstops with
      | sumTooLarge rule _ _ =>
        rw [hrule] at rule
        cases rule
      | noClocks _ zero => exact hpos zero
      | flags _ flags => exact hflags (huniform.unique flags hsome)
    · intro hgoes
      constructor
      · rintro rfl
        exact hgoes (.flags (.inr hrule) huniform)
      · intro zero
        exact hgoes (.noClocks hrule zero)
  | first =>
    obtain ⟨first, rest, rfl⟩ := List.exists_cons_of_ne_nil hsome
    obtain ⟨entry, hentry, -⟩ := huniform.head
    refine iff_of_true ?_ ?_
    · show ∃ value, some <$> valueAt first index = .ok value
      exact exists_map_eq_ok_iff.mpr ⟨entry, hentry⟩
    · apply not_columnStops hrule <;> decide
  | «omit» =>
    refine iff_of_true ⟨none, rfl⟩ ?_
    apply not_columnStops hrule <;> decide

variable {a : Aggregator} {subDevice : Nat} {schema : Schema} {layout : Layout}
  {kernelName : String}

/-- Reports with columns of one family are folded unless there is a reason not to. -/
theorem fold_answers_iff (hschema : a.schema subDevice = .ok schema)
    (hlayout : a.layout subDevice = .ok layout) (hplace : layout.clocks = clocksColumn)
    (huniform : ∀ index < schema.size, ∃ family, Uniform family index reports) :
    (∃ row, a.fold kernelName subDevice reports = .ok row) ↔
      ¬ Unfoldable reports clocksColumn schema.columns := by
  subst hplace
  by_cases hfits : (reports.map (clockCount layout.clocks)).sum < UInt64.size
  · obtain ⟨total, htotal, -⟩ := totalClocks_of_fits hclocks hfits
    have hcolumns : (∃ row, a.fold kernelName subDevice reports = .ok row) ↔
        ∃ entries, foldColumns reports layout.clocks total 0 schema.columns = .ok entries := by
      unfold fold
      simp only [hschema, hlayout, htotal, bind_eq_ok_iff, Except.ok.injEq, exists_eq_left',
        pure_eq_ok_iff]
      constructor
      · rintro ⟨row, entries, hentries, -⟩
        exact ⟨entries, hentries⟩
      · rintro ⟨entries, hentries⟩
        exact ⟨_, entries, hentries, rfl⟩
    have hcolumn : ∀ index column, schema.columns[index]? = some column →
        ((∃ entry, foldColumn reports layout.clocks total (0 + index) column = .ok entry) ↔
          ¬ ColumnStops reports layout.clocks index column) := by
      intro index column hplace
      obtain ⟨hlt, -⟩ := List.getElem?_eq_some_iff.mp hplace
      obtain ⟨family, hfamily⟩ := huniform index hlt
      rw [Nat.zero_add]
      exact foldColumn_answers_iff hsome hclocks htotal hfamily
    rw [hcolumns, foldColumns_answers_iff]
    constructor
    · intro hall hunfoldable
      cases hunfoldable with
      | clocksTooLarge large => exact Nat.not_le.mpr hfits large
      | column index column place stops =>
        exact (hcolumn index column place).mp (hall index column place) stops
    · intro hfoldable index column place
      apply (hcolumn index column place).mpr
      intro stops
      exact hfoldable (.column index column place stops)
  · refine iff_of_false ?_ ?_
    · rintro ⟨row, hrow⟩
      simp only [fold, hschema, hlayout, bind_eq_ok_iff, Except.ok.injEq, exists_eq_left'] at hrow
      obtain ⟨total, htotal, -⟩ := hrow
      obtain ⟨-, hexact⟩ := totalClocks_exact htotal
      rw [← hexact] at hfits
      exact hfits total.toNat_lt_size
    · intro hfoldable
      exact hfoldable (.clocksTooLarge (Nat.not_lt.mp hfits))

end Uniform

/-! ## Making an aggregator -/

section Made

variable {source : Source} {device : DeviceHandle} {sync : ClockSync}
  {timeColumn clocksColumn : String} {subDevice : Nat}

theorem position?_answers_iff {schema : Schema} {name : String} :
    (∃ place, schema.position? name = some place) ↔ name ∈ schema.names := by
  unfold Schema.position?
  rw [← Option.isSome_iff_exists, List.isSome_idxOf?]

theorem layoutOf_answers_iff :
    (∃ layout, layoutOf source timeColumn clocksColumn subDevice = .ok layout) ↔
      ∃ schema, source.schema? subDevice = some schema ∧ schema.columns ≠ [] ∧
        timeColumn ∈ schema.names ∧ clocksColumn ∈ schema.names := by
  constructor
  · rintro ⟨layout, hlayout⟩
    obtain ⟨schema, hschema, hpos, htime, hclocks⟩ := layoutOf_eq_ok hlayout
    refine ⟨schema, hschema, List.ne_nil_of_length_pos hpos, ?_, ?_⟩
    · exact position?_answers_iff.mp ⟨_, htime⟩
    · exact position?_answers_iff.mp ⟨_, hclocks⟩
  · rintro ⟨schema, hschema, hsome, htime, hclocks⟩
    obtain ⟨time, htime⟩ := position?_answers_iff.mpr htime
    obtain ⟨clocks, hclocks⟩ := position?_answers_iff.mpr hclocks
    have hsize : schema.size ≠ 0 := by
      intro hzero
      exact hsome (List.eq_nil_of_length_eq_zero hzero)
    refine ⟨⟨time, clocks⟩, ?_⟩
    unfold layoutOf
    simp only [hschema, hsize, if_false, htime, hclocks]

/-- An aggregator can be made exactly if every sub-device has both columns. -/
theorem withColumns_answers_iff :
    (∃ a, withColumns source device sync timeColumn clocksColumn = .ok a) ↔
      ∀ subDevice < source.count, ∃ schema, source.schema? subDevice = some schema ∧
        schema.columns ≠ [] ∧ timeColumn ∈ schema.names ∧ clocksColumn ∈ schema.names := by
  have hlayouts : (∃ a, withColumns source device sync timeColumn clocksColumn = .ok a) ↔
      ∃ layouts, (List.range source.count).mapM (layoutOf source timeColumn clocksColumn) =
        .ok layouts := by
    simp only [withColumns_eq_ok_iff]
    constructor
    · rintro ⟨_, layouts, hlayouts, -⟩
      exact ⟨layouts, hlayouts⟩
    · rintro ⟨layouts, hlayouts⟩
      exact ⟨_, layouts, hlayouts, rfl⟩
  rw [hlayouts, exists_mapM_eq_ok_iff]
  simp only [List.mem_range, layoutOf_answers_iff]

end Made

/-! ## Windows that stop -/

variable {a : Aggregator} {window : DeviceInterval} {interval : KernelInterval} {schema : Schema}
  {layout : Layout}

/-- Every report has a begin time and a clock count, and the values of a column are of one family,
as values of one type are. -/
structure WellTyped (a : Aggregator) : Prop where
  times : a.HasTimes
  clocks : ∀ subDevice layout rows, a.layout subDevice = .ok layout →
    a.rawReports subDevice = .ok rows → ∀ row ∈ rows, HasClocks layout.clocks row.values
  uniform : ∀ subDevice rows, a.rawReports subDevice = .ok rows → ∀ index : Nat, ∃ family,
    ∀ row ∈ rows, ∀ value, row.values[index]? = some value → Family.of value = family

/-- An interval in device time. Its windows are on sub-devices of the source and not reversed. -/
structure InDeviceTime (source : Source) (interval : KernelInterval) : Prop where
  domain : interval.domain = .device
  sampled : ∀ window ∈ interval.windows, window.subDevice < source.count
  forward : ∀ window ∈ interval.windows, window.start ≤ window.stop

def StopsAt (a : Aggregator) (domain : ClockDomain) (window : DeviceInterval) : Prop :=
  ∃ schema layout reports, a.schema window.subDevice = .ok schema ∧
    a.layout window.subDevice = .ok layout ∧ a.matching domain window = .ok reports ∧
    reports ≠ [] ∧ Unfoldable reports layout.clocks schema.columns

section WellTyped

variable (hbuilt : a.source.Built) (htyped : a.WellTyped)
  (hsamples : a.Samples window.subDevice schema layout)

include hbuilt htyped hsamples

/-- Reports of a stream with well-typed columns can be folded as far as their types go. -/
theorem WellTyped.columns
    (hreports : ∀ report ∈ reports,
      report ∈ (a.source.chunks window.subDevice).flatMap (reportsOf schema.size)) :
    (∀ report ∈ reports, HasClocks layout.clocks report) ∧
      ∀ index < schema.size, ∃ family, Uniform family index reports := by
  have hrow : ∀ report ∈ reports, (⟨window.subDevice, report⟩ : ReportRow) ∈
      ((a.source.chunks window.subDevice).flatMap (reportsOf schema.size)).map
        (⟨window.subDevice, ·⟩) := by
    intro report hreport
    exact List.mem_map_of_mem (hreports report hreport)
  constructor
  · intro report hreport
    exact htyped.clocks _ layout _ hsamples.layout_eq hsamples.rawReports _ (hrow report hreport)
  · intro index hlt
    obtain ⟨family, hfamily⟩ := htyped.uniform _ _ hsamples.rawReports index
    refine ⟨family, ?_⟩
    intro report hreport
    have hwidth := hbuilt.width hsamples.schema? hsamples.size_pos report (hreports report hreport)
    have hvalue := List.getElem?_eq_getElem (hwidth.symm ▸ hlt : index < report.length)
    exact ⟨_, hvalue, hfamily _ (hrow report hreport) _ hvalue⟩

/-- A window of a sampled sub-device that is not reversed has matching reports, all of the stream. -/
theorem matching_answers (hforward : window.start ≤ window.stop) :
    ∃ reports, a.matching .device window = .ok reports ∧ ∀ report ∈ reports,
      report ∈ (a.source.chunks window.subDevice).flatMap (reportsOf schema.size) := by
  obtain ⟨reports, hselect, hsub, -⟩ := select_keeps hbuilt htyped.times hsamples hforward
  refine ⟨reports, ?_, ?_⟩
  · rw [matching_eq hsamples rfl rfl]
    exact hselect
  · intro report hreport
    exact List.mem_of_mem_filter (hsub.subset hreport)

theorem foldWindow_answers_iff (hdomain : interval.domain = .device)
    (hforward : window.start ≤ window.stop) :
    (∃ rows, a.foldWindow interval window = .ok rows) ↔ ¬ a.StopsAt .device window := by
  obtain ⟨reports, hreports, hstream⟩ := matching_answers hbuilt htyped hsamples hforward
  obtain ⟨hclocks, huniform⟩ := htyped.columns hbuilt hsamples hstream
  have hstops : a.StopsAt .device window ↔
      reports ≠ [] ∧ Unfoldable reports layout.clocks schema.columns := by
    unfold StopsAt
    simp only [hsamples.schema_eq, hsamples.layout_eq, hreports, Except.ok.injEq]
    constructor
    · rintro ⟨_, _, _, rfl, rfl, rfl, hsome, hunfoldable⟩
      exact ⟨hsome, hunfoldable⟩
    · rintro ⟨hsome, hunfoldable⟩
      exact ⟨schema, layout, reports, rfl, rfl, rfl, hsome, hunfoldable⟩
  have hfold : (∃ rows, a.foldWindow interval window = .ok rows) ↔
      (reports ≠ [] →
        ∃ row, a.fold interval.kernelName window.subDevice reports = .ok row) := by
    unfold foldWindow
    simp only [hdomain, hreports, bind_eq_ok_iff, Except.ok.injEq, exists_eq_left']
    cases reports with
    | nil => exact iff_of_true ⟨[], rfl⟩ (absurd rfl)
    | cons first rest =>
      simp only [List.isEmpty_cons, Bool.false_eq_true, if_false, bind_eq_ok_iff, pure_eq_ok_iff]
      constructor
      · rintro ⟨_, row, hrow, -⟩ _
        exact ⟨row, hrow⟩
      · intro hrow
        obtain ⟨row, hrow⟩ := hrow (List.cons_ne_nil _ _)
        exact ⟨[row], row, hrow, rfl⟩
  rw [hfold, hstops, not_and]
  refine forall_congr' fun hsome => ?_
  exact fold_answers_iff hsome hclocks hsamples.schema_eq hsamples.layout_eq rfl huniform

end WellTyped

theorem mem_windows_of_mem_windowsOf (h : window ∈ a.windowsOf interval) :
    window ∈ interval.windows := by
  unfold windowsOf at h
  split at h
  · exact h
  · cases h

section Intervals

variable {timeColumn clocksColumn : String} (hbuilt : a.source.Built)
  (ha : withColumns a.source a.device a.sync timeColumn clocksColumn = .ok a)
  (htyped : a.WellTyped) (hinterval : InDeviceTime a.source interval)

include hbuilt ha htyped hinterval

theorem kernelReports_answers : ∃ rows, a.kernelReports interval = .ok rows := by
  have hparts : ∃ parts,
      (a.windowsOf interval).mapM (a.selectWindow interval.domain) = .ok parts := by
    apply exists_mapM_eq_ok_iff.mpr
    intro window hwindow
    have hmem := mem_windows_of_mem_windowsOf hwindow
    obtain ⟨schema, layout, hsamples⟩ := samples_of_lt ha (hinterval.sampled window hmem)
    obtain ⟨reports, hreports, -⟩ :=
      matching_answers hbuilt htyped hsamples (hinterval.forward window hmem)
    rw [hinterval.domain]
    exact exists_map_eq_ok_iff.mpr ⟨reports, hreports⟩
  exact exists_map_eq_ok_iff.mpr hparts

theorem aggregate_answers_iff :
    (∃ rows, a.aggregate interval = .ok rows) ↔
      (interval.device = a.device → ∀ window ∈ interval.windows, ¬ a.StopsAt .device window) := by
  have hwindows : ∀ window ∈ interval.windows,
      (∃ rows, a.foldWindow interval window = .ok rows) ↔ ¬ a.StopsAt .device window := by
    intro window hwindow
    obtain ⟨schema, layout, hsamples⟩ := samples_of_lt ha (hinterval.sampled window hwindow)
    exact foldWindow_answers_iff hbuilt htyped hsamples hinterval.domain
      (hinterval.forward window hwindow)
  have hall : (∃ rows, a.aggregate interval = .ok rows) ↔
      ∀ window ∈ a.windowsOf interval, ∃ rows, a.foldWindow interval window = .ok rows :=
    exists_map_eq_ok_iff.trans exists_mapM_eq_ok_iff
  rw [hall]
  unfold windowsOf
  by_cases hdevice : interval.device = a.device
  · simp only [hdevice, if_true, forall_const]
    exact forall₂_congr hwindows
  · simp [hdevice]

end Intervals

/-- **On well-typed reports an aggregator stops only where it has to.** It can be made exactly if
every sub-device has a schema with both columns. Then listing does not stop, and folding an interval
of the sampled device stops exactly if there is a window whose matching reports are `Unfoldable`. -/
theorem aggregate_stops_iff {source : Source} (hbuilt : source.Built) (device : DeviceHandle)
    (sync : ClockSync) (timeColumn clocksColumn : String) :
    ((∃ a, withColumns source device sync timeColumn clocksColumn = .ok a) ↔
      ∀ subDevice < source.count, ∃ schema, source.schema? subDevice = some schema ∧
        schema.columns ≠ [] ∧ timeColumn ∈ schema.names ∧ clocksColumn ∈ schema.names) ∧
    ∀ a, withColumns source device sync timeColumn clocksColumn = .ok a → a.WellTyped →
      (∀ subDevice < source.count, ∃ rows, a.rawReports subDevice = .ok rows) ∧
      ∀ interval, InDeviceTime source interval →
        (∃ rows, a.kernelReports interval = .ok rows) ∧
        ((∃ fault, a.aggregate interval = .error fault) ↔
          interval.device = device ∧
            ∃ window ∈ interval.windows, a.StopsAt .device window) := by
  refine ⟨withColumns_answers_iff, ?_⟩
  intro a ha htyped
  have ha' := ha
  obtain ⟨layouts, -, rfl⟩ := withColumns_eq_ok_iff.mp ha'
  constructor
  · intro subDevice hlt
    obtain ⟨schema, layout, hsamples⟩ := samples_of_lt ha hlt
    exact ⟨_, hsamples.rawReports⟩
  · intro interval hinterval
    constructor
    · exact kernelReports_answers hbuilt ha htyped hinterval
    · rw [exists_error_iff, aggregate_answers_iff hbuilt ha htyped hinterval]
      simp only [Classical.not_imp, not_forall, not_not]

def halves : List Report :=
  [[.word64 10, .word64 9223372036854775808], [.word64 20, .word64 9223372036854775808]]

def brimming : Aggregator :=
  ⟨⟨[⟨some clockSchema, [halves.flatten]⟩]⟩, ⟨1⟩, ⟨0, 0, 1000⟩, [⟨0, 1⟩]⟩

theorem built_brimming : brimming.source.Built := by
  have hadded : (Source.empty.addSubDevice clockSchema).2.Built := .addSubDevice .empty clockSchema
  exact .push hadded (by decide +kernel :
    (Source.empty.addSubDevice clockSchema).2.push 0 halves = .ok brimming.source)

theorem wellTyped_brimming : brimming.WellTyped := by
  have hraw : brimming.rawReports 0 = .ok (halves.map (⟨0, ·⟩)) := by decide +kernel
  have hrows : ∀ {subDevice rows}, brimming.rawReports subDevice = .ok rows →
      rows = halves.map (⟨0, ·⟩) := by
    intro subDevice rows h
    cases subDevice with
    | zero => exact Except.ok.inj (h.symm.trans hraw)
    | succ n => cases h
  have hlayout : ∀ {subDevice layout}, brimming.layout subDevice = .ok layout →
      layout = ⟨0, 1⟩ := by
    intro subDevice layout h
    cases subDevice with
    | zero => exact (Except.ok.inj h).symm
    | succ n => cases h
  constructor
  · intro subDevice layout rows hl h
    obtain rfl := hrows h
    obtain rfl := hlayout hl
    simp [halves, IsTimed, timeOf_eq_ok_iff]
  · intro subDevice layout rows hl h
    obtain rfl := hrows h
    obtain rfl := hlayout hl
    simp only [halves, List.map_cons, List.map_nil, List.forall_mem_cons]
    exact ⟨⟨_, rfl⟩, ⟨_, rfl⟩, List.forall_mem_nil _⟩
  · intro subDevice rows h index
    obtain rfl := hrows h
    refine ⟨.integers, ?_⟩
    have hall : ∀ row ∈ halves.map (ReportRow.mk 0), ∀ value ∈ row.values,
        Family.of value = .integers := by decide
    intro row hrow value hvalue
    exact hall row hrow value (List.mem_of_getElem? hvalue)

/-- Each report can be folded on its own, but not both together. -/
theorem aggregate_stops_iff_brimming :
    (∃ fault, brimming.aggregate ⟨"kernel", ⟨1⟩, .device, [⟨10, 15, 0⟩, ⟨10, 20, 0⟩]⟩ =
      .error fault) ∧
    ¬ brimming.StopsAt .device ⟨10, 15, 0⟩ ∧ ¬ brimming.StopsAt .device ⟨15, 20, 0⟩ := by
  have hmade : withColumns brimming.source ⟨1⟩ ⟨0, 0, 1000⟩ "begin" "clocks" = .ok brimming := by
    decide +kernel
  obtain ⟨-, hall⟩ := aggregate_stops_iff built_brimming ⟨1⟩ ⟨0, 0, 1000⟩ "begin" "clocks"
  obtain ⟨-, hstops⟩ := hall _ hmade wellTyped_brimming
  constructor
  · have both : brimming.StopsAt .device ⟨10, 20, 0⟩ :=
      ⟨clockSchema, ⟨0, 1⟩, halves, rfl, rfl, by decide +kernel, by decide,
        .clocksTooLarge (by decide)⟩
    have hinterval : InDeviceTime brimming.source
        ⟨"kernel", ⟨1⟩, .device, [⟨10, 15, 0⟩, ⟨10, 20, 0⟩]⟩ := ⟨rfl, by decide, by decide⟩
    exact (hstops _ hinterval).2.mpr ⟨rfl, _, by decide, both⟩
  · have hinterval : InDeviceTime brimming.source
        ⟨"kernel", ⟨1⟩, .device, [⟨10, 15, 0⟩, ⟨15, 20, 0⟩]⟩ := ⟨rfl, by decide, by decide⟩
    have hrows : ∃ rows, brimming.aggregate
        ⟨"kernel", ⟨1⟩, .device, [⟨10, 15, 0⟩, ⟨15, 20, 0⟩]⟩ = .ok rows :=
      ⟨[⟨"kernel", 0, 1, [some (.word64 10), some (.word64 9223372036854775808)]⟩,
        ⟨"kernel", 0, 1, [some (.word64 20), some (.word64 9223372036854775808)]⟩],
        by decide +kernel⟩
    have hnone : ¬ ∃ window ∈ _, brimming.StopsAt .device window := fun h =>
      exists_error_iff.mp ((hstops _ hinterval).2.mpr ⟨rfl, h⟩) hrows
    constructor
    · intro hfirst
      exact hnone ⟨_, by decide, hfirst⟩
    · intro hlast
      exact hnone ⟨_, by decide, hlast⟩

end Aggregator

end GpuTrace.Metrics
