import GpuTrace.Proofs.Clock.Anchor

/-!
# Durations — two ticks with at most one wrap between them

A kernel that runs for less than a turn of its timer has the same duration wherever in the turn it
starts: its last tick is shown modulo a turn, and the wrap in front of it is undone
(`elapsedTicks_wrapped`). Of two ticks in the wrong order only those more than a turn apart have no
duration (`elapsedTicks_eq_error_iff`). Less than a turn of ticks converts to nanoseconds that fit
in a word at every frequency (`nsOf_lt_size`), so nothing is lost on either way
(`kernelDuration_wraps_once`).
-/

namespace GpuTrace

variable {start stop length frequency : UInt64}

theorem reading_of_lt (h : start < timerWrap) : reading start.toNat = start := by
  have hlt : start.toNat < 4294967296 := UInt64.lt_iff_toNat_lt.mp h
  apply UInt64.toNat.inj
  rw [toNat_reading, Nat.mod_eq_of_lt hlt]

theorem reading_add (hstart : start < timerWrap) (hlength : length < timerWrap) :
    reading (start.toNat + length.toNat) = (start + length) % timerWrap := by
  have hstart' : start.toNat < 4294967296 := UInt64.lt_iff_toNat_lt.mp hstart
  have hlength' : length.toNat < 4294967296 := UInt64.lt_iff_toNat_lt.mp hlength
  have hsum : start.toNat + length.toNat < 2 ^ 64 := by omega
  apply UInt64.toNat.inj
  rw [toNat_reading, UInt64.toNat_mod, UInt64.toNat_add, Nat.mod_eq_of_lt hsum]
  rfl

/-- The ticks of a kernel do not depend on where its timer wraps. -/
theorem elapsedTicks_wrapped (hstart : start < timerWrap) (hlength : length < timerWrap) :
    elapsedTicks start ((start + length) % timerWrap) = .ok length := by
  have hran : start.toNat + length.toNat - start.toNat = length.toNat := Nat.add_sub_cancel_left ..
  have hturn : start.toNat + length.toNat - start.toNat < timerWrap.toNat := by
    rw [hran]
    exact UInt64.lt_iff_toNat_lt.mp hlength
  have h := elapsedTicks_reading (Nat.le_add_right _ _) hturn
  rwa [reading_of_lt hstart, reading_add hstart hlength, hran, UInt64.ofNat_toNat] at h

/-- One wrap explains every pair of ticks in the wrong order that is no more than a turn apart. -/
theorem elapsedTicks_eq_error_iff {e : Fault} :
    elapsedTicks start stop = .error e ↔
      stop < start ∧ timerWrap < start - stop ∧ e = .manyWraps start stop := by
  unfold elapsedTicks
  by_cases horder : stop < start
  · by_cases hclose : start - stop ≤ timerWrap
    · simp [horder, hclose, UInt64.not_lt.mpr hclose]
    · simp [horder, hclose, UInt64.not_le.mp hclose, eq_comm]
  · simp [horder]

/-- A running timer has no other fault than one of its ticks. -/
theorem kernelDuration_eq_error_iff (runs : frequency ≠ 0) {e : Fault} :
    kernelDuration start stop frequency = .error e ↔ elapsedTicks start stop = .error e := by
  have hconverts : ∀ ticks, ticksToNs ticks frequency ≠ .error e := by
    intro ticks h
    exact runs (ticksToNs_eq_error_iff.mp h).1
  unfold kernelDuration
  cases elapsedTicks start stop with
  | error e' => rfl
  | ok ticks =>
    constructor
    · intro h
      exact absurd h (hconverts ticks)
    · rintro ⟨⟩

/-- Less than a turn takes less than `2 ^ 64` nanoseconds, also at one tick per second. -/
theorem nsOf_lt_size {ticks : Nat} (h : ticks < timerWrap.toNat) (frequency : UInt64) :
    nsOf ticks frequency < UInt64.size := by
  have hticks : ticks < 4294967296 := h
  have hproduct : ticks * 1000000000 < 18446744073709551616 := by omega
  exact Nat.lt_of_le_of_lt (Nat.div_le_self _ _) hproduct

/-- **A wrapped duration is the unwrapped one.** Wherever in a turn of its timer a kernel starts, if
it runs for less than a turn its two ticks give the nanoseconds of that many ticks. Ticks in the
wrong order have no duration exactly if they are more than a turn apart. -/
theorem kernelDuration_wraps_once (runs : 0 < frequency) :
    (∀ start length : UInt64, start < timerWrap → length < timerWrap →
      ∃ ns, kernelDuration start ((start + length) % timerWrap) frequency = .ok ns ∧
        ticksToNs length frequency = .ok ns ∧ ns.toNat = nsOf length.toNat frequency) ∧
    ∀ (start stop : UInt64) (e : Fault), stop < start →
      (kernelDuration start stop frequency = .error e ↔
        timerWrap.toNat < start.toNat - stop.toNat ∧ e = .manyWraps start stop) := by
  have hruns : frequency ≠ 0 := Ne.symm (UInt64.ne_of_lt runs)
  constructor
  · intro start length hstart hlength
    obtain ⟨ns, hns⟩ := exists_word (nsOf_lt_size (UInt64.lt_iff_toNat_lt.mp hlength) frequency)
    have hconverts := ticksToNs_eq_ok hruns hns
    refine ⟨ns, ?_, hconverts, hns⟩
    unfold kernelDuration
    rw [elapsedTicks_wrapped hstart hlength]
    exact hconverts
  · intro start stop e horder
    have happart : timerWrap < start - stop ↔ timerWrap.toNat < start.toNat - stop.toNat := by
      rw [UInt64.lt_iff_toNat_lt, UInt64.toNat_sub_of_le _ _ (UInt64.le_of_lt horder)]
    rw [kernelDuration_eq_error_iff hruns, elapsedTicks_eq_error_iff, happart]
    simp only [horder, true_and]

/-- The boundaries: a kernel that ends on tick zero, one that runs for a whole turn but one tick,
and ticks that are a turn, or a tick more, in the wrong order. -/
theorem kernelDuration_wraps_once_boundaries :
    kernelDuration 4294967295 0 1000000000 = .ok 1 ∧
      kernelDuration 5 4 1000000000 = .ok 4294967295 ∧
      (∀ e, kernelDuration 4294967296 0 1000000000 ≠ .error e) ∧
      kernelDuration 4294967297 0 1000000000 = .error (.manyWraps 4294967297 0) := by
  obtain ⟨hsame, hpanics⟩ := kernelDuration_wraps_once (show (0 : UInt64) < 1000000000 by decide)
  obtain ⟨ns, hns, -, hvalue⟩ := hsame 4294967295 1 (by decide) (by decide)
  obtain ⟨ns', hns', -, hvalue'⟩ := hsame 5 4294967295 (by decide) (by decide)
  obtain rfl : ns = 1 := UInt64.toNat.inj (hvalue.trans rfl)
  obtain rfl : ns' = 4294967295 := UInt64.toNat.inj (hvalue'.trans rfl)
  refine ⟨hns, hns', fun e h => ?_, ?_⟩
  · exact absurd ((hpanics _ _ e (by decide)).mp h).1 (by decide)
  · exact (hpanics _ _ _ (by decide)).mpr ⟨by decide, rfl⟩

end GpuTrace
