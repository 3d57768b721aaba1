import GpuTrace.Proofs.Metrics.Selection
import Mathlib.Algebra.BigOperators.Ring.List
import Mathlib.Algebra.GroupWithZero.Nat
import Mathlib.Algebra.Order.BigOperators.Group.List
import Mathlib.Algebra.Order.Group.Nat
import Mathlib.Algebra.Ring.Nat

/-!
# Folding — the rows are those of the listed reports

Listing and folding select reports on their own. They agree: the rows of an interval are one
`Folded` row for each window in which reports are listed, in the order of the windows
(`aggregate_rows`), and the rows of several intervals follow each other (`aggregateAll_rows`).

An integer column of a row is exact. A sum is the sum of natural numbers (`sum_exact`), and a mean
is the quotient of two such sums rounded down: it is not above the largest value, so that keeping
its low 64 bits loses nothing (`clockWeighted_exact`).
-/

namespace GpuTrace.Metrics

open Calculation

variable {column clocksColumn : Nat} {reports : List Report} {total : UInt64}

/-! ## Reading a column -/

def HasInteger (column : Nat) (report : Report) : Prop :=
  ∃ n, integerAt column report = .ok n

def HasClocks (column : Nat) (report : Report) : Prop :=
  ∃ clocks, clocksOf column report = .ok clocks

/-- The integer in a column; without one, nothing. -/
def integer (column : Nat) (report : Report) : Nat :=
  match integerAt column report with
  | .ok n => n.toNat
  | .error _ => 0

def clockCount (column : Nat) (report : Report) : Nat :=
  match clocksOf column report with
  | .ok clocks => clocks.toNat
  | .error _ => 0

theorem valueAt_eq_ok_iff {report : Report} {value : Value} :
    valueAt report column = .ok value ↔ report[column]? = some value := by
  unfold valueAt
  cases report[column]? <;> simp

theorem integerAt_eq_ok_iff {report : Report} {n : UInt64} :
    integerAt column report = .ok n ↔
      ∃ value, report[column]? = some value ∧ value.integer? = some n := by
  unfold integerAt
  rw [bind_eq_ok_iff]
  refine exists_congr fun value => and_congr valueAt_eq_ok_iff ?_
  cases value.integer? <;> simp

theorem integer_eq {report : Report} {n : UInt64} (h : integerAt column report = .ok n) :
    integer column report = n.toNat := by
  unfold integer
  rw [h]

theorem clockCount_eq {report : Report} {clocks : UInt64}
    (h : clocksOf column report = .ok clocks) : clockCount column report = clocks.toNat := by
  unfold clockCount
  rw [h]

theorem integer_lt (column : Nat) (report : Report) : integer column report < UInt64.size := by
  unfold integer
  split
  · exact UInt64.toNat_lt_size _
  · decide

theorem family_of_integer {value : Value} {n : UInt64} (h : value.integer? = some n) :
    Family.of value = .integers := by
  cases value with
  | word32 n => rfl
  | word64 n => rfl
  | single bits => cases h
  | double bits => cases h
  | flag b => cases h

/-! ## Sums -/

/-- If each step adds what it reads of a report, then a fold adds all of it up. -/
theorem foldReports_adds {α : Type} {step : α → Report → Except Fault α} (measure : α → Nat)
    (Reads : Report → Prop) (part : Report → Nat)
    (hstep : ∀ a report a', step a report = .ok a' →
      Reads report ∧ measure a' = measure a + part report)
    {a b : α} (h : foldReports step a reports = .ok b) :
    (∀ report ∈ reports, Reads report) ∧ measure b = measure a + (reports.map part).sum := by
  unfold foldReports at h
  induction reports generalizing a with
  | nil =>
    rw [List.foldlM_nil, pure_eq_ok_iff] at h
    subst h
    exact ⟨List.forall_mem_nil _, rfl⟩
  | cons report reports ih =>
    rw [List.foldlM_cons, bind_eq_ok_iff] at h
    obtain ⟨a', ha', hrest⟩ := h
    obtain ⟨hreads, hmeasure⟩ := hstep a report a' ha'
    obtain ⟨hall, hsum⟩ := ih hrest
    refine ⟨List.forall_mem_cons.mpr ⟨hreads, hall⟩, ?_⟩
    rw [hsum, hmeasure, List.map_cons, List.sum_cons, Nat.add_assoc]

theorem totalClocks_exact (h : totalClocks reports clocksColumn = .ok total) :
    (∀ report ∈ reports, HasClocks clocksColumn report) ∧
      total.toNat = (reports.map (clockCount clocksColumn)).sum := by
  have hsum := foldReports_adds UInt64.toNat (HasClocks clocksColumn)
    (clockCount clocksColumn) (fun a report a' ha' => ?_) h
  · simpa using hsum
  · obtain ⟨clocks, hclocks, hadd⟩ := bind_eq_ok_iff.mp ha'
    rw [clockCount_eq hclocks]
    exact ⟨⟨clocks, hclocks⟩, (Checked.add_eq_ok_iff.mp hadd).symm⟩

/-- The sum of an integer column is the sum of natural numbers. -/
theorem sum_exact {value : Value} (h : sum reports column = .ok value)
    (hinteger : ∀ report ∈ reports.head?, HasInteger column report) :
    (∀ report ∈ reports, HasInteger column report) ∧
      ∃ total : UInt64, value = .word64 total ∧
        total.toNat = (reports.map (integer column)).sum := by
  cases reports with
  | nil => cases h
  | cons first rest =>
    obtain ⟨n, hn⟩ := hinteger first rfl
    obtain ⟨entry, hentry, hfirst⟩ := integerAt_eq_ok_iff.mp hn
    -- The first report alone decides that the whole column is added as integers.
    simp only [sum, valueAt_eq_ok_iff.mpr hentry, bind_eq_ok_iff, Except.ok.injEq,
      exists_eq_left', family_of_integer hfirst, pure_eq_ok_iff] at h
    obtain ⟨total, htotal, rfl⟩ := h
    have hsum := foldReports_adds UInt64.toNat (HasInteger column)
      (integer column) (fun a report a' ha' => ?_) htotal
    · obtain ⟨hall, hexact⟩ := hsum
      exact ⟨hall, total, rfl, by simpa using hexact⟩
    · obtain ⟨m, hm, hadd⟩ := bind_eq_ok_iff.mp ha'
      rw [integer_eq hm]
      exact ⟨⟨m, hm⟩, (Checked.add_eq_ok_iff.mp hadd).symm⟩

/-- A weighted mean is not above the largest value. -/
theorem weighted_le (reports : List Report) (value weight : Report → Nat) {largest : Nat}
    (hvalue : ∀ report, value report ≤ largest) :
    (reports.map fun report => value report * weight report).sum / (reports.map weight).sum ≤
      largest := by
  have hle : (reports.map fun report => value report * weight report).sum ≤
      (reports.map fun report => largest * weight report).sum :=
    List.sum_le_sum fun report _ => Nat.mul_le_mul_right _ (hvalue report)
  rw [List.sum_map_mul_left, Nat.mul_comm] at hle
  exact Nat.div_le_of_le_mul hle

/-- The mean of an integer column is the quotient of natural numbers, rounded down. -/
theorem clockWeighted_exact {value : Value} (htotal : totalClocks reports clocksColumn = .ok total)
    (h : clockWeighted reports column clocksColumn total = .ok value)
    (hinteger : ∀ report ∈ reports.head?, HasInteger column report) :
    (∀ report ∈ reports, HasInteger column report) ∧
      0 < (reports.map (clockCount clocksColumn)).sum ∧
      ∃ mean : UInt64, value = .word64 mean ∧
        mean.toNat =
          (reports.map fun report => integer column report * clockCount clocksColumn report).sum /
            (reports.map (clockCount clocksColumn)).sum := by
  obtain ⟨-, hexact⟩ := totalClocks_exact htotal
  cases reports with
  | nil => cases h
  | cons first rest =>
    obtain ⟨n, hn⟩ := hinteger first rfl
    obtain ⟨entry, hentry, hfirst⟩ := integerAt_eq_ok_iff.mp hn
    unfold clockWeighted at h
    by_cases hzero : total = 0
    · simp [hzero] at h
    · have hpos : 0 < total.toNat := by
        refine Nat.pos_of_ne_zero fun hnat => hzero (UInt64.toNat.inj hnat)
      simp only [hzero, if_false, valueAt_eq_ok_iff.mpr hentry, bind_eq_ok_iff, Except.ok.injEq,
        exists_eq_left', family_of_integer hfirst, pure_eq_ok_iff] at h
      obtain ⟨weighted, hweighted, rfl⟩ := h
      have hsum := foldReports_adds id
        (fun report => HasInteger column report ∧ HasClocks clocksColumn report)
        (fun report => integer column report * clockCount clocksColumn report)
        (fun a report a' ha' => ?_) hweighted
      · obtain ⟨hall, hadded⟩ := hsum
        rw [hexact] at hpos ⊢
        refine ⟨fun report hreport => (hall report hreport).1, hpos, _, rfl, ?_⟩
        have hle := weighted_le (first :: rest) (integer column) (clockCount clocksColumn)
          fun report => Nat.le_sub_one_of_lt (integer_lt column report)
        simp only [id, Nat.zero_add] at hadded
        rw [hadded]
        -- The mean is an integer of 64 bits because each value is.
        exact UInt64.toNat_ofNat_of_lt' (Nat.lt_of_le_of_lt hle (by decide))
      · obtain ⟨m, hm, hrest⟩ := bind_eq_ok_iff.mp ha'
        obtain ⟨clocks, hclocks, hadd⟩ := bind_eq_ok_iff.mp hrest
        unfold addWide at hadd
        split at hadd
        · cases hadd
          rw [integer_eq hm, clockCount_eq hclocks]
          exact ⟨⟨⟨m, hm⟩, clocks, hclocks⟩, rfl⟩
        · cases hadd

/-! ## Columns -/

namespace Aggregator

/-- The entry is what the rule of the column makes of the reports. -/
structure FoldedColumn (reports : List Report) (clocksColumn index : Nat) (column : Column)
    (entry : Option Value) : Prop where
  omitted : entry = none ↔ Rule.ofColumn column = .omit
  first : Rule.ofColumn column = .first → entry = reports.head?.bind (·[index]?)
  summed : Rule.ofColumn column = .sum →
    (∀ report ∈ reports.head?, HasInteger index report) →
    (∀ report ∈ reports, HasInteger index report) ∧
      ∃ total : UInt64, entry = some (.word64 total) ∧
        total.toNat = (reports.map (integer index)).sum
  averaged : Rule.ofColumn column = .clockWeighted →
    (∀ report ∈ reports.head?, HasInteger index report) →
    (∀ report ∈ reports, HasInteger index report) ∧
      0 < (reports.map (clockCount clocksColumn)).sum ∧
      ∃ mean : UInt64, entry = some (.word64 mean) ∧
        mean.toNat =
          (reports.map fun report => integer index report * clockCount clocksColumn report).sum /
            (reports.map (clockCount clocksColumn)).sum

theorem foldColumn_eq_ok {index : Nat} {column : Column} {entry : Option Value}
    (htotal : totalClocks reports clocksColumn = .ok total)
    (h : foldColumn reports clocksColumn total index column = .ok entry) :
    FoldedColumn reports clocksColumn index column entry := by
  unfold foldColumn at h
  cases hrule : Rule.ofColumn column with
  | sum =>
    rw [hrule] at h
    obtain ⟨value, hvalue, rfl⟩ := map_eq_ok_iff.mp h
    refine ⟨by simp [hrule], by simp [hrule], fun _ hinteger => ?_, by simp [hrule]⟩
    obtain ⟨hall, sum, rfl, hsum⟩ := sum_exact hvalue hinteger
    exact ⟨hall, sum, rfl, hsum⟩
  | clockWeighted =>
    rw [hrule] at h
    obtain ⟨value, hvalue, rfl⟩ := map_eq_ok_iff.mp h
    refine ⟨by simp [hrule], by simp [hrule], by simp [hrule], fun _ hinteger => ?_⟩
    obtain ⟨hall, hpos, mean, rfl, hmean⟩ := clockWeighted_exact htotal hvalue hinteger
    exact ⟨hall, hpos, mean, rfl, hmean⟩
  | first =>
    rw [hrule] at h
    cases reports with
    | nil => cases h
    | cons first rest =>
      obtain ⟨value, hvalue, rfl⟩ := map_eq_ok_iff.mp h
      exact ⟨by simp [hrule], fun _ => (valueAt_eq_ok_iff.mp hvalue).symm, by simp [hrule],
        by simp [hrule]⟩
  | «omit» =>
    rw [hrule] at h
    cases h
    exact ⟨by simp [hrule], by simp [hrule], by simp [hrule], by simp [hrule]⟩

theorem foldColumns_eq_ok {start : Nat} {columns : List Column} {entries : List (Option Value)}
    (h : foldColumns reports clocksColumn total start columns = .ok entries) :
    entries.length = columns.length ∧
      ∀ index column entry, columns[index]? = some column → entries[index]? = some entry →
        foldColumn reports clocksColumn total (start + index) column = .ok entry := by
  induction columns generalizing start entries with
  | nil =>
    cases h
    exact ⟨rfl, by simp⟩
  | cons column columns ih =>
    simp only [foldColumns, bind_eq_ok_iff, pure_eq_ok_iff] at h
    obtain ⟨entry, hentry, rest, hrest, rfl⟩ := h
    obtain ⟨hlength, hat⟩ := ih hrest
    refine ⟨congrArg (· + 1) hlength, fun index column' entry' hcolumn hentry' => ?_⟩
    cases index with
    | zero =>
      cases hcolumn
      cases hentry'
      exact hentry
    | succ index =>
      have hplace : start + (index + 1) = start + 1 + index := by omega
      rw [hplace]
      exact hat index column' entry' hcolumn hentry'

/-! ## Rows -/

variable {a : Aggregator} {interval : KernelInterval} {window : DeviceInterval}

/-- The row folds the reports that are listed for a window. -/
structure Folded (a : Aggregator) (kernelName : String) (window : DeviceInterval)
    (part : List ReportRow) (row : AggregatedRow) : Prop where
  kernelName : row.kernelName = kernelName
  subDevice : row.subDevice = window.subDevice
  reportCount : row.reportCount = part.length
  columns : ∃ schema layout, a.schema window.subDevice = .ok schema ∧
    a.layout window.subDevice = .ok layout ∧ row.values.length = schema.size ∧
    ∀ index column entry, schema.columns[index]? = some column →
      row.values[index]? = some entry →
      FoldedColumn (part.map (·.values)) layout.clocks index column entry

theorem fold_eq_ok {kernelName : String} {row : AggregatedRow}
    (h : a.fold kernelName window.subDevice reports = .ok row) :
    a.Folded kernelName window (reports.map (⟨window.subDevice, ·⟩)) row := by
  simp only [fold, bind_eq_ok_iff, pure_eq_ok_iff] at h
  obtain ⟨schema, hschema, layout, hlayout, total, htotal, values, hvalues, rfl⟩ := h
  obtain ⟨hlength, hat⟩ := foldColumns_eq_ok hvalues
  refine ⟨rfl, rfl, (List.length_map _).symm, schema, layout, hschema, hlayout, hlength,
    fun index column entry hcolumn hentry => ?_⟩
  have hfold := hat index column entry hcolumn hentry
  rw [Nat.zero_add] at hfold
  simp only [List.map_map, Function.comp_def, List.map_id']
  exact foldColumn_eq_ok htotal hfold

/-- A window has a row exactly if reports are listed for it. -/
theorem foldWindow_eq_ok {rows : List AggregatedRow}
    (h : a.foldWindow interval window = .ok rows) :
    ∃ part, a.selectWindow interval.domain window = .ok part ∧
      (part = [] ∧ rows = [] ∨
        part ≠ [] ∧ ∃ row, rows = [row] ∧ a.Folded interval.kernelName window part row) := by
  obtain ⟨reports, hreports, hrows⟩ := bind_eq_ok_iff.mp h
  refine ⟨reports.map (⟨window.subDevice, ·⟩), ?_, ?_⟩
  · unfold selectWindow
    rw [hreports]
    rfl
  · cases reports with
    | nil => exact .inl ⟨rfl, (pure_eq_ok_iff.mp hrows).symm⟩
    | cons first rest =>
      obtain ⟨row, hrow, hone⟩ := bind_eq_ok_iff.mp hrows
      exact .inr ⟨by simp, row, (pure_eq_ok_iff.mp hone).symm, fold_eq_ok hrow⟩

/-- The rows of an interval. On the sampled device the listing goes window by window, and each
window with reports has one row; an interval of another device has neither reports nor rows. -/
structure Rows (a : Aggregator) (interval : KernelInterval) (rows : List AggregatedRow) :
    Prop where
  sampled : interval.device = a.device → ∃ parts, a.kernelReports interval = .ok parts.flatten ∧
    List.Forall₂
      (fun window part => a.kernelReports { interval with windows := [window] } = .ok part)
      interval.windows parts ∧
    List.Forall₂ (fun (listed : DeviceInterval × List ReportRow) row =>
        a.Folded interval.kernelName listed.1 listed.2 row)
      ((interval.windows.zip parts).filter fun listed => !listed.2.isEmpty) rows
  unsampled : interval.device ≠ a.device → a.kernelReports interval = .ok [] ∧ rows = []

theorem rows_of_windows {windows : List DeviceInterval} {rowss : List (List AggregatedRow)}
    (h : List.Forall₂ (fun window rows => a.foldWindow interval window = .ok rows) windows rowss) :
    ∃ parts,
      List.Forall₂ (fun window part => a.selectWindow interval.domain window = .ok part) windows
        parts ∧
      List.Forall₂ (fun (listed : DeviceInterval × List ReportRow) row =>
          a.Folded interval.kernelName listed.1 listed.2 row)
        ((windows.zip parts).filter fun listed => !listed.2.isEmpty) rowss.flatten := by
  induction h with
  | nil => exact ⟨[], .nil, .nil⟩
  | cons hwindow _ ih =>
    obtain ⟨parts, hparts, hfolded⟩ := ih
    obtain ⟨part, hpart, ⟨rfl, rfl⟩ | ⟨hsome, row, rfl, hrow⟩⟩ := foldWindow_eq_ok hwindow
    · exact ⟨[] :: parts, .cons hpart hparts, hfolded⟩
    · refine ⟨part :: parts, .cons hpart hparts, ?_⟩
      have hkept : (!part.isEmpty) = true := by simpa using hsome
      simp only [List.zip_cons_cons, List.filter_cons, hkept, if_true]
      exact .cons hrow hfolded

theorem kernelReports_window (h : interval.device = a.device) :
    a.kernelReports { interval with windows := [window] } =
      a.selectWindow interval.domain window := by
  have hdevice : ({ interval with windows := [window] } : KernelInterval).device = a.device := h
  rw [kernelReports_eq hdevice]
  simp only [List.mapM_cons, List.mapM_nil]
  cases a.selectWindow interval.domain window with
  | error fault => rfl
  | ok part => exact congrArg Except.ok (List.append_nil part)

/-- Folding agrees with listing. -/
theorem aggregate_rows {rows : List AggregatedRow} (h : a.aggregate interval = .ok rows) :
    a.Rows interval rows := by
  obtain ⟨rowss, hrowss, hjoined⟩ := bind_eq_ok_iff.mp h
  rw [pure_eq_ok_iff] at hjoined
  subst hjoined
  constructor
  · intro hdevice
    have hwindows : a.windowsOf interval = interval.windows := if_pos hdevice
    rw [hwindows, mapM_eq_ok_iff] at hrowss
    obtain ⟨parts, hparts, hfolded⟩ := rows_of_windows hrowss
    refine ⟨parts, ?_, ?_, hfolded⟩
    · rw [kernelReports_eq hdevice, mapM_eq_ok_iff.mpr hparts]
      rfl
    · exact hparts.imp fun window part hpart => (kernelReports_window hdevice).trans hpart
  · intro hdevice
    have hwindows : a.windowsOf interval = [] := if_neg hdevice
    rw [hwindows, mapM_eq_ok_iff, List.forall₂_nil_left_iff] at hrowss
    subst hrowss
    refine ⟨?_, rfl⟩
    unfold kernelReports
    rw [hwindows]
    rfl

/-- Folded rows agree with the listed reports: interval by interval and window by window, one row
for each window of the sampled device that has reports. -/
theorem aggregateAll_rows {intervals : List KernelInterval} {rows : List AggregatedRow}
    (h : a.aggregateAll intervals = .ok rows) :
    ∃ rowss : List (List AggregatedRow), rows = rowss.flatten ∧
      List.Forall₂ a.Rows intervals rowss := by
  obtain ⟨rowss, hrowss, hjoined⟩ := bind_eq_ok_iff.mp h
  rw [mapM_eq_ok_iff] at hrowss
  rw [pure_eq_ok_iff] at hjoined
  exact ⟨rowss, hjoined.symm, hrowss.imp fun interval rows => aggregate_rows⟩

/-- Two reports with a begin time, clocks, a ratio of either width and a flag. -/
def mixedWidths : Aggregator where
  source := ⟨[⟨some ⟨[⟨"begin", .timestamp⟩, ⟨"clocks", .event⟩, ⟨"busy", .ratio⟩, ⟨"full", .flag⟩]⟩,
    [[.word64 10, .word64 1, .word32 10, .flag true,
      .word64 20, .word64 3, .word64 20, .flag false]]⟩]⟩
  device := ⟨1⟩
  sync := ⟨0, 0, 1000⟩
  layouts := [⟨0, 1⟩]

/-- The later report is in the first window and both are in the last one; the window between them
has none, and the last interval is on another device. -/
theorem aggregateAll_rows_mixedWidths :
    let kernel : KernelInterval :=
      ⟨"kernel", ⟨1⟩, .device, [⟨20, 30, 0⟩, ⟨30, 40, 0⟩, ⟨10, 20, 0⟩]⟩
    let other : KernelInterval := ⟨"kernel", ⟨2⟩, .device, [⟨10, 20, 0⟩]⟩
    let rows : List AggregatedRow :=
      [⟨"kernel", 0, 1, [some (.word64 20), some (.word64 3), some (.word64 20), none]⟩,
        ⟨"kernel", 0, 2, [some (.word64 10), some (.word64 4), some (.word64 17), none]⟩]
    mixedWidths.aggregateAll [kernel, other] = .ok rows ∧
      ∃ rowss, rows = rowss.flatten ∧ List.Forall₂ mixedWidths.Rows [kernel, other] rowss := by
  intro kernel other rows
  have hrows : mixedWidths.aggregateAll [kernel, other] = .ok rows := by decide +kernel
  exact ⟨hrows, aggregateAll_rows hrows⟩

end Aggregator

end GpuTrace.Metrics
