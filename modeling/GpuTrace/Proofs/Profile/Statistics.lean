import GpuTrace.Profile.KernelInfo
import GpuTrace.Proofs.Outcome
import Mathlib.Algebra.GroupWithZero.Nat
import Mathlib.Algebra.Order.BigOperators.Group.List
import Mathlib.Algebra.Order.Group.Nat

/-!
# Statistics of a list of durations

`Sums` says that the statistics kept under a name are those of a list of durations: their
number, their sum, the shortest and the longest of them. The first call makes statistics of
one duration (`first_follows`) and each further call adds one at the end (`record_ends`), so
statistics that are folded call by call are the statistics of all calls. Their mean lies
between the shortest and the longest duration (`Sums.minTime_le_averageTime`,
`Sums.averageTime_le_maxTime`).
-/

namespace GpuTrace

/-- The larger of two words is the one that the order of words puts last. -/
instance lawfulOrderLeftLeaningMax_uInt64 : Std.LawfulOrderLeftLeaningMax UInt64 where
  max_eq_left a b h := by
    show (if a ≤ b then b else a) = a
    split
    · exact UInt64.le_antisymm h ‹_›
    · rfl
  max_eq_right a b h := if_pos (UInt64.le_of_lt (UInt64.not_le.mp h))

namespace KernelInfo

open Fallible

structure Sums (k : KernelInfo) (durations : List UInt64) : Prop where
  calls : k.callCount.toNat = durations.length
  total : k.totalTime.toNat = (durations.map UInt64.toNat).sum
  shortest : durations.min? = some k.minTime
  longest : durations.max? = some k.maxTime

/-- The statistics under a name are those of the durations; without any, there is none. -/
def Tallies : Option KernelInfo → List UInt64 → Prop
  | none, durations => durations = []
  | some k, durations => k.Sums durations

def calls : Option KernelInfo → Nat
  | none => 0
  | some k => k.callCount.toNat

/-- `k` is what was there under a name, with one more call counted. -/
structure Follows (old : Option KernelInfo) (duration : UInt64) (k : KernelInfo) : Prop where
  calls : k.callCount.toNat = calls old + 1
  tallies : ∀ durations, Tallies old durations → k.Sums (durations ++ [duration])

variable {k : KernelInfo} {durations : List UInt64}

theorem first_follows (duration : UInt64) : Follows none duration (first duration) where
  calls := rfl
  tallies := by
    rintro _ rfl
    exact ⟨rfl, (List.sum_singleton).symm, rfl, rfl⟩

theorem min?_concat {m : UInt64} (h : durations.min? = some m) (d : UInt64) :
    (durations ++ [d]).min? = some (min m d) := by
  cases durations with
  | nil => cases h
  | cons x xs =>
    rw [List.min?_cons', Option.some.injEq] at h
    rw [List.cons_append, List.min?_cons', List.foldl_append, h]
    rfl

theorem max?_concat {m : UInt64} (h : durations.max? = some m) (d : UInt64) :
    (durations ++ [d]).max? = some (max m d) := by
  cases durations with
  | nil => cases h
  | cons x xs =>
    rw [List.max?_cons', Option.some.injEq] at h
    rw [List.cons_append, List.max?_cons', List.foldl_append, h]
    rfl

/-- One more call; a call that is refused is not counted. -/
theorem record_ends (duration : UInt64) :
    Ends (record duration) k (fun _ k' => Follows (some k) duration k')
      (fun _ k' => k'.callCount = k.callCount) := by
  unfold Ends record
  cases ht : Checked.add k.totalTime duration with
  | error e => rfl
  | ok total =>
    cases hc : Checked.add k.callCount 1 with
    | error e => rfl
    | ok count =>
      have htotal := Checked.add_eq_ok_iff.mp ht
      have hcount := Checked.add_eq_ok_iff.mp hc
      refine ⟨hcount.symm, fun durations h => ⟨?_, ?_, ?_, ?_⟩⟩
      · rw [List.length_append, ← h.calls]
        exact hcount.symm
      · rw [List.map_append, List.sum_append, ← h.total]
        simpa using htotal.symm
      · exact min?_concat h.shortest duration
      · exact max?_concat h.longest duration

namespace Sums

theorem ne_nil (h : k.Sums durations) : durations ≠ [] := by
  rintro rfl
  cases h.shortest

/-! ## The mean -/

theorem minTime_le (h : k.Sums durations) : ∀ d ∈ durations, k.minTime ≤ d :=
  (List.min?_eq_some_iff.mp h.shortest).2

theorem le_maxTime (h : k.Sums durations) : ∀ d ∈ durations, d ≤ k.maxTime :=
  (List.max?_eq_some_iff.mp h.longest).2

theorem toNat_averageTime (h : k.Sums durations) :
    k.averageTime.toNat = k.totalTime.toNat / k.callCount.toNat := by
  have hpos : k.callCount ≠ 0 := by
    intro hzero
    have hcalls := h.calls
    rw [hzero] at hcalls
    exact h.ne_nil (List.length_eq_zero_iff.mp hcalls.symm)
  unfold averageTime
  rw [if_neg hpos, UInt64.toNat_div]

theorem minTime_le_averageTime (h : k.Sums durations) : k.minTime ≤ k.averageTime := by
  have hsum : durations.length * k.minTime.toNat ≤ k.totalTime.toNat := by
    rw [h.total, ← List.length_map (f := UInt64.toNat), ← Nat.nsmul_eq_mul]
    refine List.card_nsmul_le_sum _ _ fun n hn => ?_
    obtain ⟨d, hd, rfl⟩ := List.mem_map.mp hn
    exact UInt64.le_iff_toNat_le.mp (h.minTime_le d hd)
  rw [UInt64.le_iff_toNat_le, h.toNat_averageTime, h.calls,
    Nat.le_div_iff_mul_le (List.length_pos_of_ne_nil h.ne_nil), Nat.mul_comm]
  exact hsum

theorem averageTime_le_maxTime (h : k.Sums durations) : k.averageTime ≤ k.maxTime := by
  have hsum : k.totalTime.toNat ≤ durations.length * k.maxTime.toNat := by
    rw [h.total, ← List.length_map (f := UInt64.toNat), ← Nat.nsmul_eq_mul]
    refine List.sum_le_card_nsmul _ _ fun n hn => ?_
    obtain ⟨d, hd, rfl⟩ := List.mem_map.mp hn
    exact UInt64.le_iff_toNat_le.mp (h.le_maxTime d hd)
  rw [UInt64.le_iff_toNat_le, h.toNat_averageTime, h.calls]
  exact Nat.div_le_of_le_mul hsum

end Sums

/-- There is an entry as soon as there is a duration. -/
theorem Tallies.isSome_iff {old : Option KernelInfo} (h : Tallies old durations) :
    old.isSome = true ↔ durations ≠ [] := by
  cases old with
  | none =>
    have hnil : durations = [] := h
    simp [hnil]
  | some k => simp [Sums.ne_nil h]

end KernelInfo

end GpuTrace
