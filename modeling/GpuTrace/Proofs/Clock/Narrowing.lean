import GpuTrace.Proofs.Clock.Anchor

/-!
# Narrowing — where a conversion of ticks keeps their order

Nanoseconds are taken over natural numbers, where more ticks are never fewer nanoseconds
(`nsOf_mono`), and only the low 64 bits of the result are kept (`toNat_ticksToNs`). So the order of
two tick counts is kept if no multiple of `2 ^ 64` nanoseconds lies between them. A timer that ticks
at least once per nanosecond reaches no such multiple. Every slower one does, and the first tick
behind it converts to less than the tick before (`overtaken`). Hence the order of all ticks is kept
exactly at frequencies of a tick per nanosecond or more (`ticksToNs_keeps_order`).
-/

namespace GpuTrace

variable {frequency : UInt64}

/-- The first tick count converts to no more nanoseconds than the second one. -/
def KeepsOrder (frequency first last : UInt64) : Prop :=
  ∃ ns ns', ticksToNs first frequency = .ok ns ∧ ticksToNs last frequency = .ok ns' ∧ ns ≤ ns'

theorem nsOf_mono {a b : Nat} (h : a ≤ b) (frequency : UInt64) :
    nsOf a frequency ≤ nsOf b frequency := by
  unfold nsOf
  apply Nat.div_le_div_right
  exact Nat.mul_le_mul_right nsPerSecond h

/-- A running timer has an answer for every tick count: the low 64 bits of the nanoseconds. -/
theorem toNat_ticksToNs (runs : frequency ≠ 0) (ticks : UInt64) :
    ∃ ns, ticksToNs ticks frequency = .ok ns ∧
      ns.toNat = nsOf ticks.toNat frequency % UInt64.size := by
  refine ⟨.ofNat (nsOf ticks.toNat frequency), ?_, UInt64.toNat_ofNat'⟩
  unfold ticksToNs nsOf
  rw [if_neg runs]

/-- The order that a conversion keeps is the order of what the narrowing leaves. -/
theorem keepsOrder_iff (runs : frequency ≠ 0) {first last : UInt64} :
    KeepsOrder frequency first last ↔
      nsOf first.toNat frequency % UInt64.size ≤ nsOf last.toNat frequency % UInt64.size := by
  obtain ⟨ns, hns, hlow⟩ := toNat_ticksToNs runs first
  obtain ⟨ns', hns', hlow'⟩ := toNat_ticksToNs runs last
  rw [← hlow, ← hlow', ← UInt64.le_iff_toNat_le]
  constructor
  · rintro ⟨m, m', hm, hm', hle⟩
    obtain rfl := Except.ok.inj (hns.symm.trans hm)
    obtain rfl := Except.ok.inj (hns'.symm.trans hm')
    exact hle
  · intro hle
    exact ⟨ns, ns', hns, hns', hle⟩

/-- Ticks whose nanoseconds agree in the high bits keep their order. -/
theorem keepsOrder_of_same_high (runs : frequency ≠ 0) {first last : UInt64} (h : first ≤ last)
    (high : nsOf first.toNat frequency / UInt64.size = nsOf last.toNat frequency / UInt64.size) :
    KeepsOrder frequency first last := by
  rw [keepsOrder_iff runs]
  have hmono := nsOf_mono (UInt64.le_iff_toNat_le.mp h) frequency
  have hfirst := Nat.div_add_mod (nsOf first.toNat frequency) UInt64.size
  have hlast := Nat.div_add_mod (nsOf last.toNat frequency) UInt64.size
  rw [high] at hfirst
  omega

/-- A timer that ticks at least once per nanosecond has no more nanoseconds than ticks. -/
theorem nsOf_le_of_fast (fast : nsPerSecond ≤ frequency.toNat) (ticks : Nat) :
    nsOf ticks frequency ≤ ticks := by
  unfold nsOf
  apply Nat.div_le_of_le_mul
  rw [Nat.mul_comm frequency.toNat]
  exact Nat.mul_le_mul_left ticks fast

/-- The nanoseconds of a slower timer run past 64 bits, and the first tick behind converts to less
than the tick before it. -/
theorem overtaken (runs : frequency ≠ 0) (slow : frequency.toNat < nsPerSecond) :
    ∃ first last : UInt64, first ≤ last ∧ ¬ KeepsOrder frequency first last := by
  have hpos : 0 < frequency.toNat := by
    apply Nat.pos_of_ne_zero
    intro hzero
    exact runs (UInt64.toNat.inj hzero)
  have hslow : frequency.toNat < 1000000000 := slow
  -- The first tick whose nanoseconds need a 65th bit.
  obtain ⟨tick, hreached, hbefore⟩ : ∃ tick, 18446744073709551616 * frequency.toNat ≤
      (tick + 1) * 1000000000 ∧ tick * 1000000000 < 18446744073709551616 * frequency.toNat := by
    refine ⟨(18446744073709551616 * frequency.toNat - 1) / 1000000000, ?_, ?_⟩ <;> omega
  obtain ⟨first, hfirst⟩ := exists_word (n := tick) (show tick < 18446744073709551616 by omega)
  obtain ⟨last, hlast⟩ := exists_word (n := tick + 1) (show tick + 1 < 18446744073709551616 by omega)
  refine ⟨first, last, ?_, ?_⟩
  · rw [UInt64.le_iff_toNat_le, hfirst, hlast]
    exact Nat.le_succ tick
  · rw [keepsOrder_iff runs, hfirst, hlast]
    have hfits : nsOf tick frequency < 18446744073709551616 :=
      (Nat.div_lt_iff_lt_mul hpos).mpr hbefore
    have hpast : 18446744073709551616 ≤ nsOf (tick + 1) frequency :=
      (Nat.le_div_iff_mul_le hpos).mpr hreached
    obtain ⟨past, hpast⟩ := Nat.exists_eq_add_of_le hpast
    -- Both are within a tick of the limit, on its two sides.
    have hnear : tick * 1000000000 < frequency.toNat * (nsOf tick frequency + 1) :=
      Nat.lt_mul_div_succ _ hpos
    have hnear' : nsOf (tick + 1) frequency * frequency.toNat ≤ (tick + 1) * 1000000000 :=
      Nat.div_mul_le_self _ _
    rw [hpast]
    show ¬ _ % 18446744073709551616 ≤ _ % 18446744073709551616
    rw [Nat.mod_eq_of_lt hfits, Nat.add_mod_left]
    intro hle
    have hkept : nsOf tick frequency ≤ past := Nat.le_trans hle (Nat.mod_le _ _)
    have hscaled : frequency.toNat * (nsOf tick frequency + 1) ≤
        frequency.toNat * past + frequency.toNat :=
      Nat.mul_le_mul_left frequency.toNat (Nat.succ_le_succ hkept)
    rw [hpast, Nat.add_mul, Nat.mul_comm past] at hnear'
    omega

/-- **The order of ticks is kept within the same high bits, and everywhere exactly if a tick takes no
more than a nanosecond.** -/
theorem ticksToNs_keeps_order (runs : 0 < frequency) :
    (∀ first last : UInt64, first ≤ last →
      nsOf first.toNat frequency / UInt64.size = nsOf last.toNat frequency / UInt64.size →
      KeepsOrder frequency first last) ∧
    ((∀ first last : UInt64, first ≤ last → KeepsOrder frequency first last) ↔
      nsPerSecond ≤ frequency.toNat) := by
  have hruns : frequency ≠ 0 := Ne.symm (UInt64.ne_of_lt runs)
  constructor
  · intro first last h high
    exact keepsOrder_of_same_high hruns h high
  · constructor
    · intro hall
      apply Nat.le_of_not_lt
      intro slow
      obtain ⟨first, last, hle, hnot⟩ := overtaken hruns slow
      exact hnot (hall first last hle)
    · intro fast first last h
      have hlow : ∀ ticks : UInt64, nsOf ticks.toNat frequency / UInt64.size = 0 := by
        intro ticks
        apply Nat.div_eq_of_lt
        exact Nat.lt_of_le_of_lt (nsOf_le_of_fast fast ticks.toNat) ticks.toNat_lt_size
      apply keepsOrder_of_same_high hruns h
      rw [hlow, hlow]

/-- A timer of 38.4 MHz keeps the order of short times, but not of all. -/
theorem ticksToNs_keeps_order_slow :
    KeepsOrder 38400000 192 384 ∧
      ¬ ∀ first last : UInt64, first ≤ last → KeepsOrder 38400000 first last := by
  obtain ⟨hhigh, hall⟩ := ticksToNs_keeps_order (show (0 : UInt64) < 38400000 by decide)
  constructor
  · exact hhigh 192 384 (by decide) (by decide)
  · intro horder
    exact absurd (hall.mp horder) (by decide)

/-- **More ticks can convert to fewer nanoseconds.** Of two consecutive ticks at 38.4 MHz the first
has the largest number of nanoseconds that there is, and the second one 25. -/
theorem not_keepsOrder_overtaken :
    ¬ ∀ (frequency first last : UInt64), 0 < frequency → first ≤ last →
      KeepsOrder frequency first last := by
  intro h
  obtain ⟨ns, ns', hns, hns', hle⟩ :=
    h 38400000 13458744476178488859 13458744476178488860 (by decide) (by decide)
  have hlargest : ticksToNs 13458744476178488859 38400000 = .ok 18446744073709551615 := rfl
  have hsmall : ticksToNs 13458744476178488860 38400000 = .ok 25 := rfl
  obtain rfl := Except.ok.inj (hlargest.symm.trans hns)
  obtain rfl := Except.ok.inj (hsmall.symm.trans hns')
  exact absurd hle (by decide)

end GpuTrace
