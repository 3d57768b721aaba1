import GpuTrace.Proofs.Profile.Capacity
import GpuTrace.Proofs.Profile.Order
import Mathlib.Data.String.Basic

/-!
# Report — the one order of the kernel table

A row stands before another one if it has more time, or as much time and more calls, or as much of
both and the smaller name (`KernelEntry.Precedes`). The names of a table differ, so this is a strict
total order on its rows, and they can be listed in it in one way only (`IsReport.unique`). What is
listed depends on the statistics under each name and not on how they came about (`sortedInfo_congr`,
`Profile.Alike.sorted`).

A summary keeps the rows and their order. There is one exactly if the sum of all totals fits in a
word (`Summary.of_fits`, `Summary.of_overflow`).
-/

namespace GpuTrace

/-! ## The order of two rows -/

namespace KernelEntry

/-- The row stands before the other one: it has more time, or as much time and more calls, or as
much of both and the smaller name. -/
def Precedes (a b : KernelEntry) : Prop :=
  b.2.totalTime < a.2.totalTime ∨
    a.2.totalTime = b.2.totalTime ∧
      (b.2.callCount < a.2.callCount ∨ a.2.callCount = b.2.callCount ∧ a.1 < b.1)

instance decidablePrecedes (a b : KernelEntry) : Decidable (a.Precedes b) :=
  inferInstanceAs (Decidable (_ ∨ _))

/-- The order of rows compares by three keys, the first two of them the other way round. -/
instance transCmp_order : Std.TransCmp order :=
  inferInstanceAs (Std.TransCmp (compareLex
    (compareLex (fun a b => compareOn (fun e : KernelEntry => e.2.totalTime) b a)
      fun a b => compareOn (fun e : KernelEntry => e.2.callCount) b a)
    (compareOn fun e : KernelEntry => e.1)))

variable {a b c : KernelEntry}

theorem order_eq_lt_iff : order a b = .lt ↔ a.Precedes b := by
  unfold order KernelInfo.reportOrder Precedes
  rw [Ordering.then_eq_lt, Ordering.then_eq_lt, Ordering.then_eq_eq, Std.compare_eq_lt,
    Std.compare_eq_lt, compare_lt_iff_lt, Std.compare_eq_iff_eq, Std.compare_eq_iff_eq,
    @eq_comm _ b.2.totalTime, @eq_comm _ b.2.callCount, or_assoc, and_assoc, and_or_left]

theorem name_eq_of_order (h : order a b = .eq) : a.1 = b.1 :=
  Std.compare_eq_iff_eq.mp (Ordering.then_eq_eq.mp h).2

theorem not_precedes_self (a : KernelEntry) : ¬ a.Precedes a := by
  have hself : order a a = .eq := Std.ReflCmp.compare_self
  rw [← order_eq_lt_iff, hself]
  rintro ⟨⟩

theorem Precedes.trans (h : a.Precedes b) (h' : b.Precedes c) : a.Precedes c :=
  order_eq_lt_iff.mp (Std.TransCmp.lt_trans (order_eq_lt_iff.mpr h) (order_eq_lt_iff.mpr h'))

theorem precedes_or_precedes (h : a.1 ≠ b.1) : a.Precedes b ∨ b.Precedes a := by
  rw [← order_eq_lt_iff, ← order_eq_lt_iff, ← Std.OrientedCmp.gt_iff_lt (a := a)]
  cases horder : order a b with
  | lt => exact .inl rfl
  | eq => exact absurd (name_eq_of_order horder) h
  | gt => exact .inr rfl

end KernelEntry

/-! ## The rows of a table -/

/-- All rows of the table, each before those that it precedes. -/
structure IsReport (t : Table String KernelInfo) (rows : List KernelEntry) : Prop where
  perm : rows.Perm t.entries
  ordered : rows.Pairwise KernelEntry.Precedes

variable {t u : Table String KernelInfo} {rows rows' : List KernelEntry}

theorem eq_of_name_eq {a b : KernelEntry} (ha : a ∈ t.entries) (hb : b ∈ t.entries)
    (h : a.1 = b.1) : a = b := by
  have hboth := (Table.mem_entries_iff.mp ha).symm.trans (h ▸ Table.mem_entries_iff.mp hb)
  exact Prod.ext h (Option.some.inj hboth)

theorem isStrictTotalOrder_precedes (t : Table String KernelInfo) :
    IsStrictTotalOrder {e // e ∈ t.entries} fun a b => KernelEntry.Precedes a b where
  irrefl a := KernelEntry.not_precedes_self a.1
  trans _ _ _ h h' := h.trans h'
  trichotomous a b hab hba := by
    refine Subtype.ext (eq_of_name_eq a.2 b.2 (not_not.mp fun hne => ?_))
    exact (KernelEntry.precedes_or_precedes hne).elim hab hba

/-- Sorting gives a report: no two rows are on a level, as their names differ. -/
theorem isReport_sortedInfo (t : Table String KernelInfo) : IsReport t (sortedInfo t.entries) := by
  have hperm : (sortedInfo t.entries).Perm t.entries := List.mergeSort_perm _ _
  refine ⟨hperm, ?_⟩
  have hsorted : (sortedInfo t.entries).Pairwise fun a b =>
      (KernelEntry.order a b).isLE = true := by
    refine List.pairwise_mergeSort (fun a b c => Std.TransCmp.isLE_trans) (fun a b => ?_) _
    have hswap : KernelEntry.order b a = (KernelEntry.order a b).swap := Std.OrientedCmp.eq_swap
    rw [hswap]
    cases KernelEntry.order a b <;> rfl
  have hnames : (sortedInfo t.entries).Pairwise fun a b => a.1 ≠ b.1 :=
    List.pairwise_map.mp ((hperm.map Prod.fst).nodup_iff.mpr t.nodup)
  refine (hsorted.and hnames).imp ?_
  rintro a b ⟨hle, hne⟩
  rcases Ordering.isLE_iff_eq_lt_or_eq_eq.mp hle with hlt | heq
  · exact KernelEntry.order_eq_lt_iff.mp hlt
  · exact absurd (KernelEntry.name_eq_of_order heq) hne

/-- A table has one report. -/
theorem IsReport.unique (h : IsReport t rows) (h' : IsReport t rows') : rows = rows' := by
  refine List.Perm.eq_of_pairwise (fun a b _ _ hab hba => ?_) h.ordered h'.ordered
    (h.perm.trans h'.perm.symm)
  exact absurd (hab.trans hba) (KernelEntry.not_precedes_self a)

/-- The report is read off the statistics under each name, in whatever order they were written. -/
theorem sortedInfo_congr (h : ∀ name, u.get? name = t.get? name) :
    sortedInfo u.entries = sortedInfo t.entries := by
  have hperm : u.entries.Perm t.entries := by
    have hnodup : ∀ t : Table String KernelInfo, t.entries.Nodup := fun t =>
      List.Nodup.of_map Prod.fst t.nodup
    refine (List.perm_ext_iff_of_nodup (hnodup u) (hnodup t)).mpr fun e => ?_
    rw [Table.mem_entries_iff, Table.mem_entries_iff, h]
  have hu := isReport_sortedInfo u
  exact IsReport.unique ⟨hu.perm.trans hperm, hu.ordered⟩ (isReport_sortedInfo t)

/-- Profiles that are alike have the same report. -/
theorem Profile.Alike.sorted {p q : Profile} (h : Alike p q) : q.sorted = p.sorted :=
  sortedInfo_congr h.table

/-! ## Summaries -/

/-- A sum of words answers if it fits, and is an overflow if not. -/
theorem Checked.sum_overflow {xs : List UInt64}
    (h : UInt64.size ≤ (xs.map UInt64.toNat).sum) : Checked.sum xs = .error .addOverflow := by
  have hfold : ∀ (xs : List UInt64) (start : UInt64),
      UInt64.size ≤ start.toNat + (xs.map UInt64.toNat).sum →
      xs.foldlM add start = .error .addOverflow := by
    intro xs
    induction xs with
    | nil =>
      intro start hlarge
      have hlt := start.toNat_lt_size
      rw [List.map_nil, List.sum_nil] at hlarge
      omega
    | cons x xs ih =>
      intro start hlarge
      rw [List.map_cons, List.sum_cons] at hlarge
      rw [List.foldlM_cons]
      cases hadd : add start x with
      | error e =>
        unfold add at hadd
        split at hadd
        · cases hadd
        · exact hadd.symm
      | ok next =>
        have hnext := add_eq_ok_iff.mp hadd
        exact ih next (by omega)
  exact hfold xs 0 (h.trans_eq (Nat.zero_add _).symm)

namespace Summary

/-- The summary has a row for each entry, in their order, and the sum of their totals. -/
structure Shows (s : Summary) (entries : List KernelEntry) : Prop where
  rows : s.rows.map (fun row => (row.name, row.info)) = entries
  total : s.totalTime.toNat = (entries.map fun e => e.2.totalTime.toNat).sum

variable {entries : List KernelEntry}

theorem toNat_totals (entries : List KernelEntry) :
    (entries.map fun e => e.2.totalTime).map UInt64.toNat =
      entries.map fun e => e.2.totalTime.toNat :=
  List.map_map

theorem of_fits (h : (entries.map fun e => e.2.totalTime.toNat).sum < UInt64.size) :
    ∃ s, Summary.of entries = .ok s ∧ s.Shows entries := by
  obtain ⟨total, hsum, htotal⟩ := Checked.sum_of_fits (toNat_totals entries ▸ h)
  refine ⟨⟨total, entries.map fun e => ⟨e.1, e.2, percentOf e.2.totalTime total⟩⟩, ?_, ?_, ?_⟩
  · unfold Summary.of
    rw [hsum]
    rfl
  · rw [List.map_map]
    exact List.map_id entries
  · rw [htotal, toNat_totals]

theorem of_overflow (h : UInt64.size ≤ (entries.map fun e => e.2.totalTime.toNat).sum) :
    Summary.of entries = .error .addOverflow := by
  unfold Summary.of
  rw [Checked.sum_overflow (toNat_totals entries ▸ h)]
  rfl

end Summary

/-- **The report is the one order of the kernel table.** Sorting a table gives the only list of its
rows in which each precedes all behind it, and on the rows of a table this order is strict and
total. The report depends on what the table says under each name alone, and calls that are taken in
in another order make the same one. A summary shows the report as it is, unless the sum of all
totals overflows. -/
theorem report_unique (t : Table String KernelInfo) :
    (∀ rows, IsReport t rows ↔ rows = sortedInfo t.entries) ∧
    (IsStrictTotalOrder {e // e ∈ t.entries} fun a b => KernelEntry.Precedes a b) ∧
    (∀ u : Table String KernelInfo, (∀ name, u.get? name = t.get? name) →
      sortedInfo u.entries = sortedInfo t.entries) ∧
    (∀ (p p' : Profile) (fs gs : List Finished), p.AddsAll fs p' → fs.Perm gs →
      ∃ q, p.AddsAll gs q ∧ q.sorted = p'.sorted) ∧
    if ((sortedInfo t.entries).map fun e => e.2.totalTime.toNat).sum < UInt64.size then
      ∃ s, Summary.of (sortedInfo t.entries) = .ok s ∧ s.Shows (sortedInfo t.entries)
    else Summary.of (sortedInfo t.entries) = .error .addOverflow := by
  refine ⟨fun rows => ⟨fun h => h.unique (isReport_sortedInfo t), ?_⟩,
    isStrictTotalOrder_precedes t, fun u h => sortedInfo_congr h, ?_, ?_⟩
  · rintro rfl
    exact isReport_sortedInfo t
  · intro p p' fs gs hadds hperm
    obtain ⟨q, hq, halike⟩ := hadds.perm hperm
    exact ⟨q, hq, halike.sorted⟩
  · split
    · exact Summary.of_fits ‹_›
    · exact Summary.of_overflow (Nat.not_lt.mp ‹_›)

/-- Three rows tie with the time, and two of them with the calls as well. -/
def tied : Table String KernelInfo :=
  (((Table.empty.insert "fill" ⟨100, 40, 60, 2⟩).insert "axpy" ⟨200, 200, 200, 1⟩).insert
    "copy" ⟨100, 10, 90, 2⟩).insert "gemm" ⟨100, 30, 40, 3⟩

def tiedOtherwise : Table String KernelInfo :=
  (((Table.empty.insert "copy" ⟨100, 10, 90, 2⟩).insert "gemm" ⟨100, 30, 40, 3⟩).insert
    "axpy" ⟨200, 200, 200, 1⟩).insert "fill" ⟨100, 40, 60, 2⟩

def halfWord : KernelInfo := ⟨0x8000000000000000, 0x8000000000000000, 0x8000000000000000, 1⟩

def halfFull : Table String KernelInfo :=
  (Table.empty.insert "fill" halfWord).insert "copy" halfWord

def transferRun (name : String) : Finished where
  call := ⟨⟨⟨4⟩, 0, 0⟩, ⟨7⟩, ⟨7, 0⟩, 1⟩
  command := ⟨.transfer name 8, .borrowed ⟨9⟩, ⟨1⟩, 1, 5, 1000000000, 1⟩
  timestamp := ⟨10, 60⟩
  window := ⟨17, 67⟩
  placed := by
    show (KernelTimestamp.mk 10 60).onHost 1000000000 ⟨7, 0⟩ = .ok ⟨17, 67⟩
    rfl

def unrecorded : Profile :=
  .of .empty false false .host

/-- The rows of `tied` in their one order, the same for the other order of first sight; two calls
taken in both ways; a sum of totals that fits and one that does not. -/
theorem report_unique_tied :
    sortedInfo tied.entries = [("axpy", ⟨200, 200, 200, 1⟩), ("gemm", ⟨100, 30, 40, 3⟩),
      ("copy", ⟨100, 10, 90, 2⟩), ("fill", ⟨100, 40, 60, 2⟩)] ∧
    sortedInfo tiedOtherwise.entries = sortedInfo tied.entries ∧
    (∃ p q, unrecorded.AddsAll [transferRun "fill", transferRun "copy"] p ∧
      unrecorded.AddsAll [transferRun "copy", transferRun "fill"] q ∧ q.sorted = p.sorted) ∧
    (∃ s, Summary.of (sortedInfo tied.entries) = .ok s ∧ s.totalTime.toNat = 500) ∧
    Summary.of (sortedInfo halfFull.entries) = .error .addOverflow := by
  obtain ⟨hunique, -, hseen, hadded, hsummary⟩ := report_unique tied
  obtain ⟨hunique', -, -, -, hoverflow⟩ := report_unique halfFull
  have hreport := (hunique [("axpy", ⟨200, 200, 200, 1⟩), ("gemm", ⟨100, 30, 40, 3⟩),
    ("copy", ⟨100, 10, 90, 2⟩), ("fill", ⟨100, 40, 60, 2⟩)]).mp
      ⟨by decide +kernel, by decide +kernel⟩
  have hreport' := (hunique' [("copy", halfWord), ("fill", halfWord)]).mp
    ⟨by decide +kernel, by decide +kernel⟩
  refine ⟨hreport.symm, hseen tiedOtherwise ?_, ?_, ?_, ?_⟩
  · intro name
    simp only [tied, tiedOtherwise, Table.get?_insert, Table.get?_empty]
    repeat' split
    all_goals simp_all
  · obtain ⟨p, hp⟩ : ∃ p, unrecorded.AddsAll [transferRun "fill", transferRun "copy"] p :=
      ⟨_, .cons rfl (.cons rfl (.nil _))⟩
    obtain ⟨q, hq, hsame⟩ := hadded _ p _ _ hp (.swap _ _ [])
    exact ⟨p, q, hp, hq, hsame⟩
  · rw [← hreport, if_pos (by decide +kernel)] at hsummary
    obtain ⟨s, hs, hshows⟩ := hsummary
    exact ⟨s, hreport ▸ hs, hshows.total⟩
  · rwa [← hreport', if_neg (by decide +kernel), hreport'] at hoverflow

end GpuTrace
