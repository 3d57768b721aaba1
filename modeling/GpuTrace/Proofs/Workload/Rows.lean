import GpuTrace.Proofs.Workload.Run
import Mathlib.Algebra.BigOperators.Ring.Finset
import Mathlib.Algebra.BigOperators.Intervals
import Mathlib.Tactic.Ring

/-!
# Rows — the kernel table of the workload in closed form

The `rows` of the table say how often each name was called and for how long. They are the sums over
what is seen of a run, taken name by name (`under_glimpses`): without launch dimensions all launches
of a kernel share a row, and their times add up along two arithmetic progressions
(`sum_even_places`, `sum_odd_places`); with them every launch has a row of its own
(`launchName_injective`).
-/

namespace GpuTrace.Workload

open Finset (sum_range_succ)

/-! ## Names -/

def launchName : Bool → Nat → String
  | false, launch => if launch % 2 = 0 then "gemm" else "reduce"
  | true, launch =>
    if launch % 2 = 0 then s!"gemm[SIMD32 \x7b{2 + launch}; 1; 1\x7d \x7b64; 1; 1\x7d]"
    else s!"reduce[SIMD16 \x7b{2 + launch}; 1; 1\x7d \x7b256; 1; 1\x7d]"

def copyName : Bool → String
  | false => "zeCommandListAppendMemoryCopy"
  | true => "zeCommandListAppendMemoryCopy[1048576 bytes]"

def barrierName : String := "zeCommandListAppendBarrier"

def fillName : Bool → String
  | false => "zeCommandListAppendMemoryFill"
  | true => "zeCommandListAppendMemoryFill[4096 bytes]"

theorem displayName_verbose {p : Props} (hname : p.name.isEmpty = false) {text : String}
    (h : p.name.toList ++ p.suffix.toList = text.toList) : p.displayName true = .ok text := by
  unfold Props.displayName
  rw [hname]
  refine congrArg Except.ok (String.toList_injective ?_)
  rw [if_pos rfl, String.toList_append, h]

theorem displayName_launch (verbose : Bool) {launch : Nat} (h : 2 + launch < UInt32.size) :
    (launchProps launch).displayName verbose = .ok (launchName verbose launch) := by
  have hcount : (2 + launch) % 4294967296 = 2 + launch := Nat.mod_eq_of_lt h
  have hstring (s : String) : toString s = s := rfl
  have hdigits : Nat.toDigits 10 1 = ['1'] ∧ Nat.toDigits 10 16 = ['1', '6'] ∧
      Nat.toDigits 10 32 = ['3', '2'] ∧ Nat.toDigits 10 64 = ['6', '4'] ∧
      Nat.toDigits 10 256 = ['2', '5', '6'] := ⟨rfl, rfl, rfl, rfl, rfl⟩
  cases verbose with
  | false =>
    unfold launchProps launchName
    by_cases heven : launch % 2 = 0
    · simp only [heven, if_true]
      rfl
    · simp only [heven, if_false]
      rfl
  | true =>
    refine displayName_verbose (name_launchProps launch) ?_
    unfold launchProps launchName
    by_cases heven : launch % 2 = 0 <;>
      simp [heven, Props.kernel, Props.suffix, Dims.text, hcount, hstring, hdigits]

theorem displayName_copy (verbose : Bool) :
    copyProps.displayName verbose = .ok (copyName verbose) := by
  cases verbose <;> decide +kernel

theorem displayName_barrier (verbose : Bool) :
    barrierProps.displayName verbose = .ok barrierName := by
  cases verbose <;> decide +kernel

theorem displayName_fill (verbose : Bool) :
    fillProps.displayName verbose = .ok (fillName verbose) := by
  cases verbose <;> decide +kernel

/-- Every launch has a name of its own if launch dimensions are shown. -/
theorem launchName_injective : Function.Injective (launchName true) := by
  intro launch launch' h
  have hlists := congrArg String.toList h
  have hstring (s : String) : toString s = s := rfl
  unfold launchName at hlists
  by_cases heven : launch % 2 = 0 <;> by_cases heven' : launch' % 2 = 0 <;>
    simp [heven, heven', hstring] at hlists
  all_goals
    have heq : 2 + launch = 2 + launch' :=
      toString_injective (by rw [toList_toString, toList_toString, hlists])
    exact Nat.add_left_cancel heq

/-- The first letter tells the other operations from the launches. -/
def IsOther (name : String) : Prop :=
  name.toList.head? = some 'z'

theorem isOther (verbose : Bool) :
    IsOther (copyName verbose) ∧ IsOther barrierName ∧ IsOther (fillName verbose) := by
  cases verbose <;> exact ⟨rfl, rfl, rfl⟩

theorem others_differ (verbose : Bool) : copyName verbose ≠ barrierName ∧
    copyName verbose ≠ fillName verbose ∧ barrierName ≠ fillName verbose := by
  cases verbose <;> decide +kernel

theorem launchName_ne (verbose : Bool) (launch : Nat) {name : String} (h : IsOther name) :
    launchName verbose launch ≠ name := by
  rintro rfl
  revert h
  unfold IsOther launchName
  have hstring (s : String) : toString s = s := rfl
  cases verbose <;> by_cases heven : launch % 2 = 0 <;> simp [heven, hstring]

/-! ## Progressions -/

theorem sum_even_places (f : Nat → Nat) (n : Nat) :
    (∑ i ∈ Finset.range n, if i % 2 = 0 then f i else 0) =
      ∑ j ∈ Finset.range ((n + 1) / 2), f (2 * j) := by
  induction n with
  | zero => rfl
  | succ n ih =>
    rw [sum_range_succ, ih]
    by_cases heven : n % 2 = 0
    · have hhalf : (n + 1 + 1) / 2 = (n + 1) / 2 + 1 := by omega
      have hplace : n = 2 * ((n + 1) / 2) := by omega
      rw [if_pos heven, hhalf, sum_range_succ, ← hplace]
    · have hhalf : (n + 1 + 1) / 2 = (n + 1) / 2 := by omega
      rw [if_neg heven, hhalf, Nat.add_zero]

theorem sum_odd_places (f : Nat → Nat) (n : Nat) :
    (∑ i ∈ Finset.range n, if i % 2 = 0 then 0 else f i) =
      ∑ j ∈ Finset.range (n / 2), f (2 * j + 1) := by
  induction n with
  | zero => rfl
  | succ n ih =>
    rw [sum_range_succ, ih]
    by_cases heven : n % 2 = 0
    · have hhalf : (n + 1) / 2 = n / 2 := by omega
      rw [if_pos heven, hhalf, Nat.add_zero]
    · have hhalf : (n + 1) / 2 = n / 2 + 1 := by omega
      have hplace : n = 2 * (n / 2) + 1 := by omega
      rw [if_neg heven, hhalf, sum_range_succ, ← hplace]

theorem sum_progression (first step count : Nat) :
    (∑ j ∈ Finset.range count, (first + 2 * step * j)) =
      first * count + step * (count * (count - 1)) := by
  rw [Finset.sum_add_distrib, ← Finset.mul_sum, Finset.sum_const, Finset.card_range, Nat.nsmul_eq_mul,
    ← Finset.sum_range_id_mul_two]
  ring

/-! ## Sums over what is seen -/

theorem mapIdx_operations {α : Type} (f : Nat → Props → α) (launches : Nat) :
    (operations launches).mapIdx f = (List.range launches).map (fun i => f i (launchProps i)) ++
      [f launches copyProps, f (launches + 1) barrierProps] := by
  unfold operations
  rw [List.mapIdx_append]
  have hlaunches : ((List.range launches).map launchProps).mapIdx f =
      (List.range launches).map fun i => f i (launchProps i) := by
    apply List.ext_getElem <;> simp
  rw [hlaunches]
  simp [List.mapIdx_cons, Nat.add_comm]

/-- What both calls of the operation at a place give. -/
def twice (measure : Nat → Nat) (place : Nat) : Nat :=
  measure (ticksAt 0 place) + measure (ticksAt 1 place)

theorem twice_one (place : Nat) : twice (fun _ => 1) place = 2 := rfl

theorem twice_id (place : Nat) : twice id place = 211 + 74 * place := by
  unfold twice ticksAt id
  omega

theorem sum_evens (count : Nat) :
    (∑ j ∈ Finset.range count, twice id (2 * j)) = 211 * count + 74 * (count * (count - 1)) := by
  rw [← sum_progression]
  refine Finset.sum_congr rfl fun j _ => ?_
  rw [twice_id]
  ring

theorem sum_odds (count : Nat) :
    (∑ j ∈ Finset.range count, twice id (2 * j + 1)) = 211 * count + 74 * count ^ 2 := by
  have hterm : ∀ j ∈ Finset.range count, twice id (2 * j + 1) = 285 + 2 * 74 * j := by
    intro j _
    rw [twice_id]
    ring
  rw [Finset.sum_congr rfl hterm, sum_progression]
  cases count with
  | zero => rfl
  | succ count =>
    rw [Nat.add_sub_cancel]
    ring

section Sums

variable {verbose : Bool} {name : String} {measure : Nat → Nat} {launches : Nat}

theorem under_submission (hmax : 2 + launches ≤ UInt32.size) (submission : Nat) :
    Glimpse.under verbose name measure ((operations launches).mapIdx (glimpseAt submission)) =
      (∑ launch ∈ Finset.range launches,
        if launchName verbose launch = name then measure (ticksAt submission launch) else 0) +
      (if copyName verbose = name then measure (ticksAt submission launches) else 0) +
      (if barrierName = name then measure (ticksAt submission (launches + 1)) else 0) := by
  have hlaunches : ∀ launch ∈ List.range launches,
      (if (launchProps launch).displayName verbose = .ok name then
        measure (ticksAt submission launch) else 0) =
      if launchName verbose launch = name then measure (ticksAt submission launch) else 0 := by
    intro launch hlaunch
    rw [List.mem_range] at hlaunch
    simp only [displayName_launch verbose (by omega : 2 + launch < UInt32.size), Except.ok.injEq]
  rw [mapIdx_operations, Glimpse.under_append]
  unfold Glimpse.under glimpseAt
  simp only [List.map_map, List.map_cons, List.map_nil, List.sum_cons, List.sum_nil,
    displayName_copy, displayName_barrier, Except.ok.injEq, Function.comp_def]
  rw [List.map_congr_left hlaunches]
  exact (Nat.add_assoc _ _ _).symm

theorem under_glimpses (hmax : 2 + launches ≤ UInt32.size) :
    Glimpse.under verbose name measure (glimpses launches) =
      (∑ launch ∈ Finset.range launches,
        if launchName verbose launch = name then twice measure launch else 0) +
      (if copyName verbose = name then twice measure launches else 0) +
      (if barrierName = name then twice measure (launches + 1) else 0) +
      (if fillName verbose = name then measure 40 else 0) := by
  have hfill : Glimpse.under verbose name measure [fillGlimpse (launches + 3)] =
      if fillName verbose = name then measure 40 else 0 := by
    unfold Glimpse.under fillGlimpse
    simp only [List.map_cons, List.map_nil, List.sum_cons, List.sum_nil, displayName_fill,
      Except.ok.injEq, Nat.add_zero]
  have htwice : ∀ (p : Prop) [Decidable p] place,
      (if p then twice measure place else 0) =
        (if p then measure (ticksAt 0 place) else 0) +
          (if p then measure (ticksAt 1 place) else 0) := by
    intro p _ place
    by_cases hp : p <;> simp [hp, twice]
  unfold glimpses
  rw [Glimpse.under_append, Glimpse.under_append, under_submission hmax, under_submission hmax,
    hfill]
  simp only [htwice, Finset.sum_add_distrib]
  omega

variable (hmax : 2 + launches ≤ UInt32.size)

include hmax

theorem under_copy :
    Glimpse.under verbose (copyName verbose) measure (glimpses launches) =
      twice measure launches := by
  obtain ⟨hbarrier, hfill, -⟩ := others_differ verbose
  have hlaunch := fun launch => launchName_ne verbose launch (isOther verbose).1
  simp [under_glimpses hmax, hlaunch, hbarrier.symm, hfill.symm]

theorem under_barrier :
    Glimpse.under verbose barrierName measure (glimpses launches) =
      twice measure (launches + 1) := by
  obtain ⟨hcopy, -, hfill⟩ := others_differ verbose
  have hlaunch := fun launch => launchName_ne verbose launch (isOther verbose).2.1
  simp [under_glimpses hmax, hlaunch, hcopy, hfill.symm]

theorem under_fill :
    Glimpse.under verbose (fillName verbose) measure (glimpses launches) = measure 40 := by
  obtain ⟨-, hcopy, hbarrier⟩ := others_differ verbose
  have hlaunch := fun launch => launchName_ne verbose launch (isOther verbose).2.2
  simp [under_glimpses hmax, hlaunch, hcopy, hbarrier]

theorem under_launchName (launch : Nat) :
    Glimpse.under verbose (launchName verbose launch) measure (glimpses launches) =
      ∑ launch' ∈ Finset.range launches,
        if launchName verbose launch' = launchName verbose launch then twice measure launch'
        else 0 := by
  obtain ⟨hcopy, hbarrier, hfill⟩ := isOther verbose
  rw [under_glimpses hmax, if_neg (launchName_ne verbose launch hcopy).symm,
    if_neg (launchName_ne verbose launch hbarrier).symm,
    if_neg (launchName_ne verbose launch hfill).symm]
  rfl

/-- Without launch dimensions, all launches with an even number are one kernel. -/
theorem under_gemm :
    Glimpse.under false "gemm" measure (glimpses launches) =
      ∑ j ∈ Finset.range ((launches + 1) / 2), twice measure (2 * j) := by
  have hsum : Glimpse.under false (launchName false 0) measure (glimpses launches) = _ :=
    under_launchName hmax 0
  rw [← sum_even_places (twice measure)]
  refine hsum.trans (Finset.sum_congr rfl fun launch _ => ?_)
  by_cases heven : launch % 2 = 0 <;> simp [launchName, heven]

theorem under_reduce :
    Glimpse.under false "reduce" measure (glimpses launches) =
      ∑ j ∈ Finset.range (launches / 2), twice measure (2 * j + 1) := by
  have hsum : Glimpse.under false (launchName false 1) measure (glimpses launches) = _ :=
    under_launchName hmax 1
  rw [← sum_odd_places (twice measure)]
  refine hsum.trans (Finset.sum_congr rfl fun launch _ => ?_)
  by_cases heven : launch % 2 = 0 <;> simp [launchName, heven]

theorem under_launch {launch : Nat} (h : launch < launches) :
    Glimpse.under true (launchName true launch) measure (glimpses launches) =
      twice measure launch := by
  rw [under_launchName hmax]
  simp [launchName_injective.eq_iff, h]

end Sums

/-! ## Rows -/

def launchRows : Bool → Nat → List (String × Nat × Nat)
  | false, n =>
    let evens := (n + 1) / 2
    let odds := n / 2
    (if 0 < n then [("gemm", 2 * evens, 211 * evens + 74 * (evens * (evens - 1)))] else []) ++
      if 1 < n then [("reduce", 2 * odds, 211 * odds + 74 * odds ^ 2)] else []
  | true, n => (List.range n).map fun launch => (launchName true launch, 2, 211 + 74 * launch)

def rows (verbose : Bool) (n : Nat) : List (String × Nat × Nat) :=
  launchRows verbose n ++ [(copyName verbose, 2, 211 + 74 * n),
    (barrierName, 2, 211 + 74 * (n + 1)), (fillName verbose, 1, 40)]

structure Summed (verbose : Bool) (n : Nat) (row : String × Nat × Nat) : Prop where
  pos : 0 < row.2.1
  calls : row.2.1 = Glimpse.under verbose row.1 (fun _ => 1) (glimpses n)
  time : row.2.2 = Glimpse.under verbose row.1 id (glimpses n)

theorem summed_launchRows {verbose : Bool} {n : Nat} (hmax : 2 + n ≤ UInt32.size) :
    ∀ row ∈ launchRows verbose n, Summed verbose n row := by
  intro row hrow
  cases verbose with
  | false =>
    rcases List.mem_append.mp hrow with hgemm | hreduce
    · by_cases hn : 0 < n
      · rw [if_pos hn, List.mem_singleton] at hgemm
        subst hgemm
        refine ⟨by dsimp only; omega, ?_, ?_⟩
        · rw [under_gemm hmax]
          simp [twice_one, Nat.mul_comm]
        · rw [under_gemm hmax, sum_evens]
      · rw [if_neg hn] at hgemm
        cases hgemm
    · by_cases hn : 1 < n
      · rw [if_pos hn, List.mem_singleton] at hreduce
        subst hreduce
        refine ⟨by dsimp only; omega, ?_, ?_⟩
        · rw [under_reduce hmax]
          simp [twice_one, Nat.mul_comm]
        · rw [under_reduce hmax, sum_odds]
      · rw [if_neg hn] at hreduce
        cases hreduce
  | true =>
    obtain ⟨launch, hlaunch, rfl⟩ := List.mem_map.mp hrow
    rw [List.mem_range] at hlaunch
    refine ⟨Nat.zero_lt_two, ?_, ?_⟩
    · rw [under_launch hmax hlaunch, twice_one]
    · rw [under_launch hmax hlaunch, twice_id]

/-- **Every row** is the sum over what is seen under its name. -/
theorem summed_rows {verbose : Bool} {n : Nat} (hmax : 2 + n ≤ UInt32.size) :
    ∀ row ∈ rows verbose n, Summed verbose n row := by
  intro row hrow
  rcases List.mem_append.mp hrow with hlaunch | hother
  · exact summed_launchRows hmax row hlaunch
  · simp only [List.mem_cons, List.not_mem_nil, or_false] at hother
    rcases hother with rfl | rfl | rfl
    · exact ⟨Nat.zero_lt_two, by rw [under_copy hmax, twice_one], by rw [under_copy hmax, twice_id]⟩
    · refine ⟨Nat.zero_lt_two, ?_, ?_⟩
      · rw [under_barrier hmax, twice_one]
      · rw [under_barrier hmax, twice_id]
    · exact ⟨Nat.zero_lt_one, by rw [under_fill hmax], by rw [under_fill hmax]; rfl⟩

theorem nodup_rows (verbose : Bool) (n : Nat) : ((rows verbose n).map Prod.fst).Nodup := by
  have hothers : ∀ name ∈ [copyName verbose, barrierName, fillName verbose], IsOther name := by
    obtain ⟨hcopy, hbarrier, hfill⟩ := isOther verbose
    simp [hcopy, hbarrier, hfill]
  have hdiffer : [copyName verbose, barrierName, fillName verbose].Nodup := by
    obtain ⟨hcopy, hcopy', hbarrier⟩ := others_differ verbose
    simp [hcopy, hcopy', hbarrier]
  have hlaunches : ((launchRows verbose n).map Prod.fst).Nodup ∧
      ∀ name ∈ (launchRows verbose n).map Prod.fst, ∃ launch, name = launchName verbose launch := by
    cases verbose with
    | false =>
      refine ⟨?_, fun name hname => ?_⟩
      · by_cases hn : 0 < n <;> by_cases hn' : 1 < n <;> simp [launchRows, hn, hn']
      · have hname' : name = "gemm" ∨ name = "reduce" := by
          by_cases hn : 0 < n <;> by_cases hn' : 1 < n <;> simp_all [launchRows]
        exact hname'.elim (fun h => ⟨0, h⟩) fun h => ⟨1, h⟩
    | true =>
      have hnames : (launchRows true n).map Prod.fst = (List.range n).map (launchName true) := by
        simp [launchRows]
      rw [hnames]
      refine ⟨List.nodup_range.map launchName_injective, fun name hname => ?_⟩
      obtain ⟨launch, -, rfl⟩ := List.mem_map.mp hname
      exact ⟨launch, rfl⟩
  unfold rows
  rw [List.map_append, List.nodup_append]
  refine ⟨hlaunches.1, hdiffer, fun name hname other hother => ?_⟩
  obtain ⟨launch, rfl⟩ := hlaunches.2 name hname
  exact launchName_ne verbose launch (hothers other hother)

theorem launchName_mem_rows (verbose : Bool) {launch n : Nat} (h : launch < n) :
    launchName verbose launch ∈ (rows verbose n).map Prod.fst := by
  unfold rows
  rw [List.map_append]
  refine List.mem_append_left _ ?_
  cases verbose with
  | false =>
    have hn : 0 < n := by omega
    by_cases heven : launch % 2 = 0
    · simp [launchName, launchRows, heven, hn]
    · have hn' : 1 < n := by omega
      simp [launchName, launchRows, heven, hn']
  | true => exact List.mem_map.mpr ⟨_, List.mem_map.mpr ⟨launch, List.mem_range.mpr h, rfl⟩, rfl⟩

theorem props_of_mem_glimpses {n : Nat} {g : Glimpse} (hg : g ∈ glimpses n) :
    g.props ∈ operations n ∨ g.props = fillProps := by
  unfold glimpses at hg
  rw [List.mem_append, List.mem_append, List.mem_mapIdx, List.mem_mapIdx, List.mem_singleton] at hg
  rcases hg with (⟨slot, hslot, rfl⟩ | ⟨slot, hslot, rfl⟩) | rfl
  · exact .inl (List.getElem_mem hslot)
  · exact .inl (List.getElem_mem hslot)
  · exact .inr rfl

theorem named_rows {verbose : Bool} {n : Nat} (hmax : 2 + n ≤ UInt32.size) :
    ∀ g ∈ glimpses n, ∃ name ∈ (rows verbose n).map Prod.fst,
      g.props.displayName verbose = .ok name := by
  intro g hg
  rcases props_of_mem_glimpses hg with hlisted | hfill
  · rcases List.mem_append.mp hlisted with hlaunch | hother
    · obtain ⟨launch, hlaunch, hprops⟩ := List.mem_map.mp hlaunch
      rw [List.mem_range] at hlaunch
      have hname := displayName_launch verbose (by omega : 2 + launch < UInt32.size)
      rw [hprops] at hname
      exact ⟨_, launchName_mem_rows verbose hlaunch, hname⟩
    · rw [List.mem_pair] at hother
      rcases hother with hcopy | hbarrier
      · exact ⟨copyName verbose, by simp [rows], hcopy ▸ displayName_copy verbose⟩
      · exact ⟨barrierName, by simp [rows], hbarrier ▸ displayName_barrier verbose⟩
  · exact ⟨fillName verbose, by simp [rows], hfill ▸ displayName_fill verbose⟩

/-! ## All calls -/

def callOrder (n : Nat) : List String :=
  (List.range (n + 2)).map (fun place => callText (place + 1) 1) ++
    (List.range (n + 2)).map (fun place => callText (place + 1) 2) ++ [callText (n + 3) 1]

theorem length_callOrder (n : Nat) : (callOrder n).length = 2 * n + 5 := by
  simp [callOrder]
  omega

theorem map_submission {α : Type} {f : Glimpse → α} {g : Nat → α} {submission : Nat}
    (h : ∀ place props, f (glimpseAt submission place props) = g place) (n : Nat) :
    ((operations n).mapIdx (glimpseAt submission)).map f = (List.range (n + 2)).map g := by
  apply List.ext_getElem
  · simp [length_operations]
  · intro place hplace hplace'
    simp [h]

theorem ids_glimpses (n : Nat) : (glimpses n).map (·.id) = callOrder n := by
  unfold glimpses callOrder
  rw [List.map_append, List.map_append, map_submission (fun _ _ => rfl), map_submission fun _ _ => rfl]
  rfl

theorem sum_durations (n : Nat) : ((glimpses n).map (·.duration)).sum =
    211 * (n + 2) + 37 * ((n + 1) * (n + 2)) + 40 := by
  have hplaces : (∑ place ∈ Finset.range (n + 2), twice id place) =
      211 * (n + 2) + 37 * ((n + 2) * (n + 1)) := by
    refine Eq.trans (Finset.sum_congr rfl fun place _ => twice_id place) ?_
    exact sum_progression 211 37 (n + 2)
  have htwice : (∑ place ∈ Finset.range (n + 2), twice id place) =
      ((List.range (n + 2)).map (ticksAt 0)).sum + ((List.range (n + 2)).map (ticksAt 1)).sum :=
    Finset.sum_add_distrib
  unfold glimpses
  rw [List.map_append, List.map_append, List.sum_append, List.sum_append,
    map_submission (fun _ _ => rfl), map_submission fun _ _ => rfl, Nat.mul_comm (n + 1)]
  rw [← hplaces, htwice]
  rfl

end GpuTrace.Workload
