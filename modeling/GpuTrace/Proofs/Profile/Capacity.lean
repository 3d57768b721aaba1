import GpuTrace.Profile.Summary
import GpuTrace.Proofs.Clock.Anchor
import GpuTrace.Proofs.Profile.Settings
import Mathlib.Data.List.Nodup

/-!
# Capacity — calls that fit into a profile

A profile `Admits` a call if nothing but its statistics can keep the call out: it has a name, its
interval can be listed, and it was submitted after its append. As long as the time and the number of
all calls fit in a word, calls that are admitted can be added one after the other
(`AddsAll.of_fits`), and the sum of all totals fits as well (`Summary.of_fits`).

A `Glimpse` is what a notice and the kernel table show of a call. The rows of the table are read off
the glimpses of its history (`Reflects.rows_perm`).
-/

namespace GpuTrace

open Fallible

theorem Checked.sum_of_fits {xs : List UInt64} (h : (xs.map UInt64.toNat).sum < UInt64.size) :
    ∃ total, Checked.sum xs = .ok total ∧ total.toNat = (xs.map UInt64.toNat).sum := by
  have hfold : ∀ (xs : List UInt64) (start : UInt64),
      start.toNat + (xs.map UInt64.toNat).sum < UInt64.size →
      ∃ total, xs.foldlM add start = .ok total ∧
        total.toNat = start.toNat + (xs.map UInt64.toNat).sum := by
    intro xs
    induction xs with
    | nil => exact fun start _ => ⟨start, rfl, rfl⟩
    | cons x xs ih =>
      intro start hfits
      rw [List.map_cons, List.sum_cons] at hfits ⊢
      obtain ⟨next, hadd, hnext⟩ := add_of_fits (a := start) (b := x) (by omega)
      obtain ⟨total, htotal, hsum⟩ := ih next (by omega)
      refine ⟨total, ?_, by omega⟩
      rw [List.foldlM_cons, hadd]
      exact htotal
  obtain ⟨total, htotal, hsum⟩ := hfold xs 0 ((Nat.zero_add _).symm ▸ h)
  exact ⟨total, htotal, hsum.trans (Nat.zero_add _)⟩

/-! ## Adding calls -/

namespace Profile

variable {p p' p₁ p₂ : Profile} {f g : Finished} {fs gs : List Finished}

/-- Only the statistics can keep the call out. -/
structure Admits (p : Profile) (f : Finished) : Prop where
  named : ∃ name, f.command.props.displayName p.verbose = .ok name
  listed : ∀ name, ∃ intervals, p.listed f name = .ok intervals
  in_order : f.command.appendTime ≤ f.call.anchor.hostTime

theorem admits_of (hname : f.command.props.name.isEmpty = false)
    (hmapped : ∃ owner, p.devices.slices f.command.device = .ok owner)
    (hdevice : ∃ window, f.timestamp.onDevice f.command.frequency = .ok window)
    (horder : f.command.appendTime ≤ f.call.anchor.hostTime) : p.Admits f where
  named := by
    unfold Props.displayName
    rw [hname]
    exact ⟨_, rfl⟩
  listed name := by
    obtain ⟨owner, howner⟩ := hmapped
    have hwindow : ∃ window,
        windowIn p.domain f.window f.timestamp f.command.frequency = .ok window := by
      cases p.domain with
      | host => exact ⟨_, rfl⟩
      | device => exact hdevice
    obtain ⟨window, hwindow⟩ := hwindow
    unfold listed
    rw [howner, hwindow]
    cases p.recordsIntervals <;> exact ⟨_, rfl⟩
  in_order := horder

theorem Admits.adds (h : p.Admits g) (hadds : Adds p f p') : p'.Admits g := by
  obtain ⟨_, _, _, -, -, -, -, rfl⟩ := adds_iff.mp hadds
  exact ⟨h.named, h.listed, h.in_order⟩

/-- No entry of the table is above all of them together. -/
theorem le_timed_counted {name : String} {info : KernelInfo}
    (h : p.kernels.get? name = some info) :
    info.totalTime.toNat ≤ p.timed ∧ info.callCount.toNat ≤ p.counted := by
  have hle : ∀ measure : KernelInfo → Nat,
      measure info ≤ (p.kernels.values.map measure).sum := by
    intro measure
    rw [((Table.values_perm h).map measure).sum_eq, List.map_cons, List.sum_cons]
    exact Nat.le_add_right _ _
  exact ⟨hle fun k => k.totalTime.toNat, hle fun k => k.callCount.toNat⟩

theorem Adds.of_fits (h : p.Admits f) (htimed : p.timed + f.duration.toNat < UInt64.size)
    (hcounted : p.counted + 1 < UInt64.size) : ∃ p', Adds p f p' := by
  obtain ⟨name, hname⟩ := h.named
  obtain ⟨intervals, hlisted⟩ := h.listed name
  have hinfo : ∃ info, KernelInfo.Counts (p.kernels.get? name) f.duration info := by
    cases hold : p.kernels.get? name with
    | none => exact ⟨_, rfl⟩
    | some old =>
      obtain ⟨htime, hcalls⟩ := le_timed_counted hold
      obtain ⟨total, htotal⟩ :=
        exists_word (n := old.totalTime.toNat + f.duration.toNat) (by omega)
      obtain ⟨calls, hcount⟩ := exists_word (n := old.callCount.toNat + 1) (by omega)
      refine ⟨⟨total, min old.minTime f.duration, max old.maxTime f.duration, calls⟩, ?_⟩
      exact KernelInfo.record_eq_ok_iff.mpr ⟨htotal.symm, rfl, rfl, hcount.symm⟩
  obtain ⟨info, hinfo⟩ := hinfo
  exact ⟨_, adds_iff.mpr ⟨name, info, intervals, hname, hinfo, hlisted, h.in_order, rfl⟩⟩

/-- **Calls that are admitted can be added** as long as their time and their number fit. -/
theorem AddsAll.of_fits (h : ∀ f ∈ fs, p.Admits f)
    (htimed : p.timed + (fs.map (·.duration.toNat)).sum < UInt64.size)
    (hcounted : p.counted + fs.length < UInt64.size) : ∃ p', AddsAll p fs p' := by
  induction fs generalizing p with
  | nil => exact ⟨p, .nil p⟩
  | cons f fs ih =>
    rw [List.map_cons, List.sum_cons] at htimed
    rw [List.length_cons] at hcounted
    obtain ⟨hf, hfs⟩ := List.forall_mem_cons.mp h
    obtain ⟨p₁, hadds⟩ := Adds.of_fits hf (by omega) (by omega)
    have htimed₁ := hadds.timed
    have hcounted₁ := hadds.counted
    obtain ⟨p', hrest⟩ := ih (fun g hg => (hfs g hg).adds hadds) (by omega) (by omega)
    exact ⟨p', .cons hadds hrest⟩

theorem AddsAll.append (h : AddsAll p fs p₁) (h' : AddsAll p₁ gs p₂) :
    AddsAll p (fs ++ gs) p₂ := by
  induction h with
  | nil p => exact h'
  | cons head tail ih => exact .cons head (ih h')

theorem AddsAll.timed (h : AddsAll p fs p') :
    p'.timed = p.timed + (fs.map (·.duration.toNat)).sum := by
  induction h with
  | nil p => rfl
  | cons head tail ih =>
    rw [ih, head.timed, List.map_cons, List.sum_cons, Nat.add_assoc]

theorem AddsAll.counted (h : AddsAll p fs p') : p'.counted = p.counted + fs.length := by
  induction h with
  | nil p => rfl
  | cons head tail ih =>
    rw [ih, head.counted, List.length_cons]
    omega

theorem AddsAll.settings (h : AddsAll p fs p') :
    p'.devices = p.devices ∧ p'.verbose = p.verbose := by
  induction h with
  | nil p => exact ⟨rfl, rfl⟩
  | cons head tail ih =>
    obtain ⟨_, _, _, -, -, -, -, rfl⟩ := adds_iff.mp head
    exact ih

theorem Adds.takes (h : Adds p f p') : Takes p f p' := by
  obtain ⟨f', hf', -, htakes⟩ := (finish_ends f.call f.command f.timestamp).of_ok h
  rw [Finished.of?_eq_some f.placed] at hf'
  cases hf'
  exact htakes

theorem AddsAll.takesAll (h : AddsAll p fs p') : TakesAll p fs p' := by
  induction h with
  | nil p => exact .nil p
  | cons head tail ih => exact .cons head.takes ih

end Profile

/-! ## Reading the table -/

/-- What a notice and the kernel table show of a finished call. -/
structure Glimpse where
  id : String
  props : Props
  /-- Nanoseconds from the start to the end. -/
  duration : Nat

def Finished.glimpse (f : Finished) : Glimpse :=
  ⟨f.notice.id, f.command.props, f.duration.toNat⟩

def Glimpse.under (verbose : Bool) (name : String) (measure : Nat → Nat)
    (glimpses : List Glimpse) : Nat :=
  (glimpses.map fun g =>
    if g.props.displayName verbose = .ok name then measure g.duration else 0).sum

def KernelEntry.row (e : KernelEntry) : String × Nat × Nat :=
  (e.1, e.2.callCount.toNat, e.2.totalTime.toNat)

theorem Glimpse.under_append (verbose : Bool) (name : String) (measure : Nat → Nat)
    (glimpses glimpses' : List Glimpse) :
    under verbose name measure (glimpses ++ glimpses') =
      under verbose name measure glimpses + under verbose name measure glimpses' := by
  unfold under
  rw [List.map_append, List.sum_append]

theorem Finished.sum_durationsUnder (verbose : Bool) (name : String) (measure : Nat → Nat)
    (history : List Finished) :
    ((durationsUnder verbose name history).map fun d => measure d.toNat).sum =
      Glimpse.under verbose name measure (history.map glimpse) := by
  unfold durationsUnder Glimpse.under
  induction history with
  | nil => rfl
  | cons f history ih =>
    rw [List.map_cons, List.map_cons, List.sum_cons, ← ih]
    by_cases hf : f.command.props.displayName verbose = .ok name
    · have hshown : f.isShownAs verbose name = true := decide_eq_true hf
      rw [List.filter_cons_of_pos hshown, List.map_cons, List.map_cons, List.sum_cons]
      exact congrArg (· + _) (if_pos hf).symm
    · have hshown : ¬ f.isShownAs verbose name = true := fun h => hf (of_decide_eq_true h)
      rw [List.filter_cons_of_neg hshown]
      exact ((congrArg (· + _) (if_neg hf)).trans (Nat.zero_add _)).symm

theorem Finished.length_durationsUnder (verbose : Bool) (name : String)
    (history : List Finished) : (durationsUnder verbose name history).length =
      Glimpse.under verbose name (fun _ => 1) (history.map glimpse) := by
  rw [← sum_durationsUnder]
  simp

namespace Profile

variable {p : Profile} {roots : List (DeviceHandle × List DeviceHandle)}
  {history : List Finished} {rows : List (String × Nat × Nat)}

theorem sorted_perm (p : Profile) : p.sorted.Perm p.kernels.entries :=
  List.mergeSort_perm _ _

/-- **The rows of the table** are those of the names in the history, each with the number and the
time of its calls. -/
theorem Reflects.rows_perm (h : p.Reflects roots history) (hnodup : (rows.map Prod.fst).Nodup)
    (hnames : ∀ f ∈ history, ∃ name ∈ rows.map Prod.fst,
      f.command.props.displayName p.verbose = .ok name)
    (hrows : ∀ row ∈ rows, 0 < row.2.1 ∧
      row.2.1 = Glimpse.under p.verbose row.1 (fun _ => 1) (history.map Finished.glimpse) ∧
      row.2.2 = Glimpse.under p.verbose row.1 id (history.map Finished.glimpse)) :
    (p.sorted.map KernelEntry.row).Perm rows := by
  have hkeys : (p.kernels.entries.map KernelEntry.row).map Prod.fst = p.kernels.keys := by
    rw [List.map_map]
    rfl
  -- The entry under the name of a row has the numbers of the row.
  have hentry : ∀ row ∈ rows, ∀ info, p.kernels.get? row.1 = some info →
      KernelEntry.row (row.1, info) = row := by
    intro row hrow info hinfo
    have hsums := h.table row.1
    rw [hinfo] at hsums
    obtain ⟨-, hcalls, htotal⟩ := hrows row hrow
    have hlength := hsums.calls.trans (Finished.length_durationsUnder _ _ _)
    have hsum := hsums.total.trans (Finished.sum_durationsUnder p.verbose row.1 id history)
    exact Prod.ext rfl (Prod.ext (hlength.trans hcalls.symm) (hsum.trans htotal.symm))
  refine ((sorted_perm p).map _).trans ?_
  have hnodup' : (p.kernels.entries.map KernelEntry.row).Nodup :=
    List.Nodup.of_map Prod.fst (hkeys ▸ p.kernels.nodup_keys)
  refine (List.perm_ext_iff_of_nodup hnodup' (List.Nodup.of_map Prod.fst hnodup)).mpr fun row => ?_
  rw [List.mem_map]
  constructor
  · rintro ⟨⟨name, info⟩, hmem, rfl⟩
    have hinfo := Table.mem_entries_iff.mp hmem
    have htallies := h.table name
    rw [hinfo] at htallies
    obtain ⟨f, hf, hname⟩ := Finished.durationsUnder_ne_nil_iff.mp htallies.ne_nil
    obtain ⟨name', hname', hshown⟩ := hnames f hf
    obtain rfl : name' = name := Except.ok.inj (hshown.symm.trans hname)
    obtain ⟨row, hrow, rfl⟩ := List.mem_map.mp hname'
    rwa [hentry row hrow info hinfo]
  · intro hrow
    obtain ⟨hpos, hcalls, -⟩ := hrows row hrow
    have htallies := h.table row.1
    cases hinfo : p.kernels.get? row.1 with
    | none =>
      rw [hinfo] at htallies
      have hnil : Finished.durationsUnder p.verbose row.1 history = [] := htallies
      rw [hcalls, ← Finished.length_durationsUnder, hnil] at hpos
      cases hpos
    | some info =>
      exact ⟨(row.1, info), Table.mem_entries_iff.mpr hinfo, hentry row hrow info hinfo⟩

/-- The sum of all totals is the time that was counted. -/
theorem summary_of_fits (h : p.timed < UInt64.size) :
    ∃ summary, Summary.of p.sorted = .ok summary ∧ summary.totalTime.toNat = p.timed := by
  have htotals : ((p.sorted.map fun e => e.2.totalTime).map UInt64.toNat).sum = p.timed := by
    rw [List.map_map, ((sorted_perm p).map _).sum_eq]
    unfold timed Table.values
    rw [List.map_map]
    rfl
  obtain ⟨total, hsum, htotal⟩ := Checked.sum_of_fits (htotals.symm ▸ h)
  have hof : Summary.of p.sorted = .ok ⟨total,
      p.sorted.map fun e => ⟨e.1, e.2, Summary.percentOf e.2.totalTime total⟩⟩ := by
    unfold Summary.of
    rw [hsum]
    rfl
  exact ⟨_, hof, htotal.trans htotals⟩

end Profile

end GpuTrace
