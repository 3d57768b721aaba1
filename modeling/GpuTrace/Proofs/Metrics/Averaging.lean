import GpuTrace.Proofs.Clock.Anchor
import GpuTrace.Proofs.Metrics.Folding

/-!
# Averaging — integer folds that fit

A fold over integers stops exactly where its sum leaves the word that holds it, so it answers if the
sum of natural numbers fits (`foldReports_of_fits`). Sums of clocks and of an integer column have to
fit in 64 bits (`totalClocks_of_fits`, `sum_of_fits`).

The mean by clocks needs no such condition. No single product is bounded well enough for a sum of
unboundedly many of them, but the whole sum is at most the largest value times the total of the
clocks (`weighted_lt_wideLimit`). So a window whose clocks have a total has a mean
(`clockWeighted_eq_ok`), and the mean is between the values that have clocks
(`clockWeighted_between`).
-/

namespace GpuTrace.Metrics

open Calculation

variable {column clocksColumn : Nat} {reports : List Report} {total : UInt64}

/-! ## Folds that fit -/

/-- A fold answers if each step does as long as its part still fits, and all parts fit together. -/
theorem foldReports_of_fits {α : Type} {step : α → Report → Except Fault α} (measure : α → Nat)
    (part : Report → Nat) {limit : Nat}
    (hstep : ∀ a, ∀ report ∈ reports, measure a + part report < limit →
      ∃ a', step a report = .ok a' ∧ measure a' = measure a + part report)
    {a : α} (fits : measure a + (reports.map part).sum < limit) :
    ∃ b, foldReports step a reports = .ok b ∧ measure b = measure a + (reports.map part).sum := by
  induction reports generalizing a with
  | nil => exact ⟨a, rfl, rfl⟩
  | cons report reports ih =>
    rw [List.map_cons, List.sum_cons] at fits ⊢
    obtain ⟨a', ha', hmeasure⟩ := hstep a report List.mem_cons_self (by omega)
    have hlater : ∀ a, ∀ report ∈ reports, measure a + part report < limit →
        ∃ a', step a report = .ok a' ∧ measure a' = measure a + part report := by
      intro a report hreport
      exact hstep a report (List.mem_cons_of_mem _ hreport)
    obtain ⟨b, hb, hsum⟩ := ih hlater (a := a') (by omega)
    refine ⟨b, ?_, by omega⟩
    unfold foldReports at hb ⊢
    rw [List.foldlM_cons, bind_eq_ok_iff]
    exact ⟨a', ha', hb⟩

/-- Words that are read of the reports and added up fit if their sum does. -/
theorem foldReports_add_of_fits {read : Report → Except Fault UInt64} {part : Report → Nat}
    (hread : ∀ report ∈ reports, ∃ n, read report = .ok n ∧ n.toNat = part report)
    (fits : (reports.map part).sum < UInt64.size) :
    ∃ total, foldReports (fun sum report => do Checked.add sum (← read report)) 0 reports =
      .ok total ∧ total.toNat = (reports.map part).sum := by
  have hstep : ∀ sum, ∀ report ∈ reports, sum.toNat + part report < UInt64.size →
      ∃ sum', (do Checked.add sum (← read report)) = Except.ok sum' ∧
        sum'.toNat = sum.toNat + part report := by
    intro sum report hreport hfits
    obtain ⟨n, hn, hpart⟩ := hread report hreport
    rw [← hpart] at hfits ⊢
    obtain ⟨sum', hadd, hsum⟩ := Checked.add_of_fits hfits
    refine ⟨sum', ?_, hsum⟩
    rw [bind_eq_ok_iff]
    exact ⟨n, hn, hadd⟩
  obtain ⟨total, htotal, hsum⟩ :=
    foldReports_of_fits UInt64.toNat part hstep (a := 0) (by simpa using fits)
  refine ⟨total, htotal, ?_⟩
  simpa using hsum

theorem HasInteger.read {report : Report} (h : HasInteger column report) :
    ∃ n, integerAt column report = .ok n ∧ n.toNat = integer column report := by
  obtain ⟨n, hn⟩ := h
  exact ⟨n, hn, (integer_eq hn).symm⟩

theorem HasClocks.read {report : Report} (h : HasClocks column report) :
    ∃ clocks, clocksOf column report = .ok clocks ∧ clocks.toNat = clockCount column report := by
  obtain ⟨clocks, hclocks⟩ := h
  exact ⟨clocks, hclocks, (clockCount_eq hclocks).symm⟩

theorem totalClocks_of_fits (hclocks : ∀ report ∈ reports, HasClocks clocksColumn report)
    (fits : (reports.map (clockCount clocksColumn)).sum < UInt64.size) :
    ∃ total, totalClocks reports clocksColumn = .ok total ∧
      total.toNat = (reports.map (clockCount clocksColumn)).sum := by
  apply foldReports_add_of_fits
  · intro report hreport
    exact (hclocks report hreport).read
  · exact fits

/-- A column of a window with an integer in its first report is folded as integers. -/
theorem family_of_head {first : Report} {rest : List Report}
    (hvalues : ∀ report ∈ first :: rest, HasInteger column report) :
    ∃ entry, valueAt first column = .ok entry ∧ Family.of entry = .integers := by
  obtain ⟨n, hn⟩ := hvalues first List.mem_cons_self
  obtain ⟨entry, hentry, hfirst⟩ := integerAt_eq_ok_iff.mp hn
  exact ⟨entry, valueAt_eq_ok_iff.mpr hentry, family_of_integer hfirst⟩

theorem sum_of_fits (hsome : reports ≠ []) (hvalues : ∀ report ∈ reports, HasInteger column report)
    (fits : (reports.map (integer column)).sum < UInt64.size) :
    ∃ total : UInt64, sum reports column = .ok (.word64 total) := by
  obtain ⟨first, rest, rfl⟩ := List.exists_cons_of_ne_nil hsome
  obtain ⟨entry, hentry, hfamily⟩ := family_of_head hvalues
  obtain ⟨total, htotal, -⟩ := foldReports_add_of_fits
    (fun report hreport => (hvalues report hreport).read) fits
  refine ⟨total, ?_⟩
  unfold sum
  simp only [hentry, bind_eq_ok_iff, Except.ok.injEq, exists_eq_left', hfamily, pure_eq_ok_iff]
  exact ⟨total, htotal, rfl⟩

/-! ## Means -/

/-- A mean of natural numbers, rounded down, is between the values that have a weight. -/
theorem weighted_between (value weight : Report → Nat) {low high : Nat}
    (hvalue : ∀ report ∈ reports, 0 < weight report → low ≤ value report ∧ value report ≤ high)
    (hpos : 0 < (reports.map weight).sum) :
    let mean := (reports.map fun report => value report * weight report).sum /
      (reports.map weight).sum
    low ≤ mean ∧ mean ≤ high := by
  have hterm : ∀ report ∈ reports, low * weight report ≤ value report * weight report ∧
      value report * weight report ≤ high * weight report := by
    intro report hreport
    rcases Nat.eq_zero_or_pos (weight report) with hzero | hweight
    · simp [hzero]
    · obtain ⟨hlow, hhigh⟩ := hvalue report hreport hweight
      exact ⟨Nat.mul_le_mul_right _ hlow, Nat.mul_le_mul_right _ hhigh⟩
  intro mean
  constructor
  · apply (Nat.le_div_iff_mul_le hpos).mpr
    rw [← List.sum_map_mul_left]
    apply List.sum_le_sum
    intro report hreport
    exact (hterm report hreport).1
  · apply Nat.div_le_of_le_mul
    rw [Nat.mul_comm, ← List.sum_map_mul_left]
    apply List.sum_le_sum
    intro report hreport
    exact (hterm report hreport).2

/-- The sum of the products fits in 128 bits if the clocks have a total. -/
theorem weighted_lt_wideLimit (column : Nat)
    (fits : (reports.map (clockCount clocksColumn)).sum < UInt64.size) :
    (reports.map fun report => integer column report * clockCount clocksColumn report).sum <
      wideLimit := by
  have hle : (reports.map fun report => integer column report * clockCount clocksColumn report).sum ≤
      (reports.map fun report => 18446744073709551615 * clockCount clocksColumn report).sum := by
    apply List.sum_le_sum
    intro report _
    apply Nat.mul_le_mul_right
    exact Nat.le_sub_one_of_lt (integer_lt column report)
  rw [List.sum_map_mul_left] at hle
  have hfits : (reports.map (clockCount clocksColumn)).sum < 18446744073709551616 := fits
  show _ < 340282366920938463463374607431768211456
  omega

/-- A window whose clocks have a total that is not zero has a mean of each integer column: the
quotient of natural numbers, of which the narrowing drops nothing. -/
theorem clockWeighted_eq_ok (hsome : reports ≠ [])
    (hclocks : ∀ report ∈ reports, HasClocks clocksColumn report)
    (hvalues : ∀ report ∈ reports, HasInteger column report)
    (htotal : totalClocks reports clocksColumn = .ok total) (hpos : 0 < total) :
    clockWeighted reports column clocksColumn total =
      .ok (.word64 (.ofNat
        ((reports.map fun report => integer column report * clockCount clocksColumn report).sum /
          (reports.map (clockCount clocksColumn)).sum))) := by
  obtain ⟨-, hexact⟩ := totalClocks_exact htotal
  have hfits : (reports.map (clockCount clocksColumn)).sum < UInt64.size :=
    hexact ▸ total.toNat_lt_size
  have hzero : total ≠ 0 := Ne.symm (UInt64.ne_of_lt hpos)
  have hstep : ∀ sum, ∀ report ∈ reports,
      sum + integer column report * clockCount clocksColumn report < wideLimit →
      ∃ sum', (do
          let n ← integerAt column report
          let clocks ← clocksOf clocksColumn report
          addWide sum (n.toNat * clocks.toNat)) = Except.ok sum' ∧
        sum' = sum + integer column report * clockCount clocksColumn report := by
    intro sum report hreport hadd
    obtain ⟨n, hn, hinteger⟩ := (hvalues report hreport).read
    obtain ⟨clocks, hc, hcount⟩ := (hclocks report hreport).read
    refine ⟨sum + integer column report * clockCount clocksColumn report, ?_, rfl⟩
    simp only [hn, hc, bind_eq_ok_iff, Except.ok.injEq, exists_eq_left']
    unfold addWide
    rw [hinteger, hcount]
    exact if_pos hadd
  obtain ⟨weighted, hweighted, hsum⟩ := foldReports_of_fits id
    (fun report => integer column report * clockCount clocksColumn report) hstep (a := 0)
    (by simpa using weighted_lt_wideLimit column hfits)
  obtain ⟨first, rest, rfl⟩ := List.exists_cons_of_ne_nil hsome
  obtain ⟨entry, hentry, hfamily⟩ := family_of_head hvalues
  simp only [id, Nat.zero_add] at hsum
  subst hsum
  unfold clockWeighted
  simp only [hzero, if_false, hentry, bind_eq_ok_iff, Except.ok.injEq, exists_eq_left', hfamily,
    pure_eq_ok_iff]
  refine ⟨_, hweighted, ?_⟩
  rw [hexact]

def clockedIntegers (column clocksColumn : Nat) (reports : List Report) : List Nat :=
  (reports.filter fun report => 0 < clockCount clocksColumn report).map (integer column)

theorem clockedIntegers_bounds (column : Nat)
    (hpos : 0 < (reports.map (clockCount clocksColumn)).sum) :
    ∃ low high, (clockedIntegers column clocksColumn reports).min? = some low ∧
      (clockedIntegers column clocksColumn reports).max? = some high ∧
      ∀ report ∈ reports, 0 < clockCount clocksColumn report →
        low ≤ integer column report ∧ integer column report ≤ high := by
  have hsome : clockedIntegers column clocksColumn reports ≠ [] := by
    intro hnone
    have hzero : ∀ clocks ∈ reports.map (clockCount clocksColumn), clocks = 0 := by
      simpa [clockedIntegers, List.filter_eq_nil_iff] using hnone
    have hsum : (reports.map (clockCount clocksColumn)).sum = 0 := List.sum_eq_zero hzero
    omega
  obtain ⟨low, hlow⟩ := Option.isSome_iff_exists.mp (List.isSome_min?_of_ne_nil hsome)
  obtain ⟨high, hhigh⟩ := Option.isSome_iff_exists.mp (List.isSome_max?_of_ne_nil hsome)
  refine ⟨low, high, hlow, hhigh, ?_⟩
  intro report hreport hclocks
  have hmem : integer column report ∈ clockedIntegers column clocksColumn reports := by
    apply List.mem_map_of_mem
    apply List.mem_filter.mpr
    exact ⟨hreport, decide_eq_true hclocks⟩
  exact ⟨(List.min?_eq_some_iff.mp hlow).2 _ hmem, (List.max?_eq_some_iff.mp hhigh).2 _ hmem⟩

/-- **The mean by clocks of an integer column is exact.** If the clocks of a window have a total, and
it is not zero, then the sum of the products fits in 128 bits and there is a mean: the quotient of
natural numbers, rounded down. It is between the smallest and the largest value with clocks, and it
does not depend on the order of the reports. -/
theorem clockWeighted_between (hsome : reports ≠ [])
    (hclocks : ∀ report ∈ reports, HasClocks clocksColumn report)
    (hvalues : ∀ report ∈ reports, HasInteger column report)
    (htotal : totalClocks reports clocksColumn = .ok total) (hpos : 0 < total) :
    (reports.map fun report => integer column report * clockCount clocksColumn report).sum <
      wideLimit ∧
    ∃ (mean : UInt64) (low high : Nat),
      (∀ reports', reports.Perm reports' → totalClocks reports' clocksColumn = .ok total ∧
        clockWeighted reports' column clocksColumn total = .ok (.word64 mean)) ∧
      mean.toNat =
        (reports.map fun report => integer column report * clockCount clocksColumn report).sum /
          (reports.map (clockCount clocksColumn)).sum ∧
      (clockedIntegers column clocksColumn reports).min? = some low ∧
      (clockedIntegers column clocksColumn reports).max? = some high ∧
      low ≤ mean.toNat ∧ mean.toNat ≤ high := by
  obtain ⟨-, hexact⟩ := totalClocks_exact htotal
  have hfits : (reports.map (clockCount clocksColumn)).sum < UInt64.size :=
    hexact ▸ total.toNat_lt_size
  have helapsed : 0 < (reports.map (clockCount clocksColumn)).sum :=
    hexact ▸ UInt64.lt_iff_toNat_lt.mp hpos
  obtain ⟨low, high, hlow, hhigh, hbounds⟩ :=
    clockedIntegers_bounds column helapsed
  obtain ⟨hle, hge⟩ := weighted_between (integer column) (clockCount clocksColumn) hbounds helapsed
  have hword : (reports.map fun report =>
      integer column report * clockCount clocksColumn report).sum /
        (reports.map (clockCount clocksColumn)).sum < UInt64.size := by
    obtain ⟨hmem, -⟩ := List.max?_eq_some_iff.mp hhigh
    obtain ⟨report, -, rfl⟩ := List.mem_map.mp hmem
    exact Nat.lt_of_le_of_lt hge (integer_lt column report)
  obtain ⟨mean, hmean⟩ := exists_word hword
  refine ⟨weighted_lt_wideLimit column hfits, mean, low, high, ?_, hmean, hlow, hhigh, ?_, ?_⟩
  · intro reports' hperm
    have hclocks' : ∀ report ∈ reports', HasClocks clocksColumn report := by
      intro report hreport
      exact hclocks report (hperm.mem_iff.mpr hreport)
    have hvalues' : ∀ report ∈ reports', HasInteger column report := by
      intro report hreport
      exact hvalues report (hperm.mem_iff.mpr hreport)
    have hsome' : reports' ≠ [] := by
      rintro rfl
      exact hsome hperm.eq_nil
    have hsum := (hperm.map (clockCount clocksColumn)).sum_eq
    have hproducts := (hperm.map fun report =>
      integer column report * clockCount clocksColumn report).sum_eq
    obtain ⟨total', htotal', hexact'⟩ := totalClocks_of_fits hclocks' (hsum ▸ hfits)
    obtain rfl : total' = total := UInt64.toNat.inj (by rw [hexact', hexact, hsum])
    refine ⟨htotal', ?_⟩
    rw [clockWeighted_eq_ok hsome' hclocks' hvalues' htotal' hpos, ← hsum, ← hproducts, ← hmean,
      UInt64.ofNat_toNat]
  · rw [hmean]
    exact hle
  · rw [hmean]
    exact hge

/-- Three reports of mixed widths with the largest products that there are, and one without clocks. -/
def largeProducts : List Report :=
  [[.word64 18446744073709551615, .word64 18446744073709551613], [.word32 7, .word64 1],
    [.word64 18446744073709551615, .word64 1], [.word32 0, .word64 0]]

/-- The mean is one less than the largest value; the value without clocks does not count. -/
theorem clockWeighted_between_largeProducts :
    clockWeighted largeProducts 0 1 18446744073709551615 = .ok (.word64 18446744073709551614) ∧
      clockWeighted largeProducts.reverse 0 1 18446744073709551615 =
        .ok (.word64 18446744073709551614) ∧
      (clockedIntegers 0 1 largeProducts).min? = some 7 ∧
      (clockedIntegers 0 1 largeProducts).max? = some 18446744073709551615 := by
  have htotal : totalClocks largeProducts 1 = .ok 18446744073709551615 := rfl
  have hclocks : ∀ report ∈ largeProducts, HasClocks 1 report := by
    simp only [largeProducts, List.forall_mem_cons]
    exact ⟨⟨_, rfl⟩, ⟨_, rfl⟩, ⟨_, rfl⟩, ⟨_, rfl⟩, List.forall_mem_nil _⟩
  have hvalues : ∀ report ∈ largeProducts, HasInteger 0 report := by
    simp only [largeProducts, List.forall_mem_cons]
    exact ⟨⟨_, rfl⟩, ⟨_, rfl⟩, ⟨_, rfl⟩, ⟨_, rfl⟩, List.forall_mem_nil _⟩
  obtain ⟨-, mean, low, high, hmean, hexact, hlow, hhigh, -⟩ :=
    clockWeighted_between (by decide) hclocks hvalues htotal (by decide)
  obtain rfl : mean = 18446744073709551614 := UInt64.toNat.inj (hexact.trans (by decide))
  refine ⟨(hmean _ (.refl _)).2, (hmean _ (List.reverse_perm _).symm).2, ?_, ?_⟩
  · decide
  · decide

end GpuTrace.Metrics
