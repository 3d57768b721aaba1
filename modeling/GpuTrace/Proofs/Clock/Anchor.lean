import GpuTrace.Clock.Anchor

/-!
# Anchoring — ticks of a timer that starts again at zero

A device counts its ticks without bound, but its timer shows only the `reading` in the current
turn of `timerWrap` ticks. The time between two readings less than a turn apart is right wherever
the wrap falls (`elapsedTicks_reading`, `kernelDuration_reading`). The time from the submission to
the start is taken as a plain difference of two readings, so it is right as long as both are of the
same turn. A kernel that starts in the turn after its submission shows a start that is not after it,
and is refused (`onHost_reading`, `not_keepsTime_wrapped_start`).
-/

namespace GpuTrace

/-- What a timer shows after so many ticks. -/
def reading (ticks : Nat) : UInt64 :=
  .ofNat (ticks % timerWrap.toNat)

/-- Turns that a timer completed in so many ticks. -/
def turns (ticks : Nat) : Nat :=
  ticks / timerWrap.toNat

/-- Nanoseconds that so many ticks take, rounded down. -/
def nsOf (ticks : Nat) (frequency : UInt64) : Nat :=
  ticks * nsPerSecond / frequency.toNat

theorem toNat_reading (ticks : Nat) : (reading ticks).toNat = ticks % 4294967296 := by
  have hlt : ticks % 4294967296 < 2 ^ 64 := by omega
  exact UInt64.toNat_ofNat_of_lt' hlt

theorem exists_word {n : Nat} (h : n < UInt64.size) : ∃ word : UInt64, word.toNat = n :=
  ⟨.ofNat n, UInt64.toNat_ofNat_of_lt' h⟩

theorem Checked.add_of_fits {a b : UInt64} (h : a.toNat + b.toNat < UInt64.size) :
    ∃ c, Checked.add a b = .ok c ∧ c.toNat = a.toNat + b.toNat := by
  obtain ⟨c, hc⟩ := exists_word h
  exact ⟨c, add_eq_ok_iff.mpr hc.symm, hc⟩

theorem Checked.mul_of_fits {a b : UInt64} (h : a.toNat * b.toNat < UInt64.size) :
    ∃ c, Checked.mul a b = .ok c ∧ c.toNat = a.toNat * b.toNat := by
  obtain ⟨c, hc⟩ := exists_word h
  exact ⟨c, mul_eq_ok_iff.mpr hc.symm, hc⟩

theorem ticksToNs_eq_ok {ticks frequency ns : UInt64} (hf : frequency ≠ 0)
    (h : ns.toNat = nsOf ticks.toNat frequency) : ticksToNs ticks frequency = .ok ns := by
  unfold nsOf at h
  rw [ticksToNs, if_neg hf, ← h, UInt64.ofNat_toNat]

theorem KernelTimestamp.onHost_of_le {timestamp : KernelTimestamp} {frequency : UInt64}
    {anchor : SubmitAnchor} (h : timestamp.start ≤ anchor.deviceTime) :
    timestamp.onHost frequency anchor =
      .error (.clockNotMonotonic timestamp.start anchor.deviceTime) := by
  unfold KernelTimestamp.onHost
  simp only [h, if_true]
  rfl

theorem KernelTimestamp.onHost_eq_ok {t : KernelTimestamp} {frequency shift ran : UInt64}
    {anchor : SubmitAnchor} {window : HostWindow} (late : anchor.deviceTime < t.start)
    (hran : kernelDuration t.start t.stop frequency = .ok ran)
    (hshift : ticksToNs (t.start - anchor.deviceTime) frequency = .ok shift)
    (hstart : anchor.hostTime.toNat + shift.toNat = window.start.toNat)
    (hstop : window.start.toNat + ran.toNat = window.stop.toNat) :
    t.onHost frequency anchor = .ok window := by
  unfold KernelTimestamp.onHost
  rw [if_neg (UInt64.not_le.mpr late), hran, hshift]
  simp only [bind, Except.bind]
  rw [Checked.add_eq_ok_iff.mpr hstart]
  dsimp only
  rw [Checked.add_eq_ok_iff.mpr hstop]
  rfl

/-- A kernel that is placed on the host clock is there from as long after the submission as it
started, for as long as it ran. -/
theorem KernelTimestamp.onHost_cases {t : KernelTimestamp} {frequency : UInt64}
    {anchor : SubmitAnchor} {window : HostWindow} (h : t.onHost frequency anchor = .ok window) :
    anchor.deviceTime < t.start ∧
      ∃ shift ran, ticksToNs (t.start - anchor.deviceTime) frequency = .ok shift ∧
        kernelDuration t.start t.stop frequency = .ok ran ∧
        anchor.hostTime.toNat + shift.toNat = window.start.toNat ∧
        window.start.toNat + ran.toNat = window.stop.toNat := by
  unfold KernelTimestamp.onHost at h
  by_cases hlate : t.start ≤ anchor.deviceTime
  · simp only [hlate, if_true] at h
    cases h
  · refine ⟨UInt64.not_le.mp hlate, ?_⟩
    simp only [hlate, if_false, pure, Except.pure, bind, Except.bind] at h
    cases hran : kernelDuration t.start t.stop frequency with
    | error e =>
      simp only [hran] at h
      cases h
    | ok ran =>
      simp only [hran] at h
      cases hshift : ticksToNs (t.start - anchor.deviceTime) frequency with
      | error e =>
        simp only [hshift] at h
        cases h
      | ok shift =>
        simp only [hshift] at h
        split at h
        · cases h
        · rename_i start hstart
          split at h
          · cases h
          · rename_i stop hstop
            cases h
            exact ⟨shift, ran, rfl, rfl, Checked.add_eq_ok_iff.mp hstart,
              Checked.add_eq_ok_iff.mp hstop⟩

/-! ## Times between readings -/

section Readings

variable {first last : Nat} (hle : first ≤ last) (hturn : last - first < timerWrap.toNat)

include hle hturn

/-- Two readings of which the second is smaller stand on both sides of a wrap. -/
theorem elapsedTicks_reading :
    elapsedTicks (reading first) (reading last) = .ok (.ofNat (last - first)) := by
  have hturn' : last - first < 4294967296 := hturn
  have hfirst := toNat_reading first
  have hlast := toNat_reading last
  have helapsed : (UInt64.ofNat (last - first)).toNat = last - first :=
    UInt64.toNat_ofNat_of_lt' (Nat.lt_trans hturn (by decide))
  unfold elapsedTicks
  split
  case isTrue hwrapped =>
    -- Less than a turn apart, so just one turn was completed between the readings.
    have hback : (reading first - reading last).toNat =
        (reading first).toNat - (reading last).toNat :=
      UInt64.toNat_sub_of_le _ _ (UInt64.le_of_lt hwrapped)
    have hwrapped' := UInt64.lt_iff_toNat_lt.mp hwrapped
    have hle : reading first - reading last ≤ timerWrap := by
      rw [UInt64.le_iff_toNat_le, hback]
      show _ ≤ 4294967296
      omega
    rw [if_pos hle]
    refine congrArg Except.ok (UInt64.toNat.inj ?_)
    rw [UInt64.toNat_sub_of_le _ _ hle, hback, helapsed]
    show 4294967296 - _ = _
    omega
  case isFalse hsame =>
    have hsame' := UInt64.not_lt.mp hsame
    have hsame'' := UInt64.le_iff_toNat_le.mp hsame'
    refine congrArg Except.ok (UInt64.toNat.inj ?_)
    rw [UInt64.toNat_sub_of_le _ _ hsame', helapsed]
    omega

theorem kernelDuration_reading {frequency ran : UInt64} (hf : frequency ≠ 0)
    (hran : ran.toNat = nsOf (last - first) frequency) :
    kernelDuration (reading first) (reading last) frequency = .ok ran := by
  have helapsed : (UInt64.ofNat (last - first)).toNat = last - first :=
    UInt64.toNat_ofNat_of_lt' (Nat.lt_trans hturn (by decide))
  unfold kernelDuration
  rw [elapsedTicks_reading hle hturn]
  exact ticksToNs_eq_ok hf (helapsed.symm ▸ hran)

/-- The later reading is the greater one unless a turn was completed between them. -/
theorem reading_le_iff (hne : first ≠ last) :
    reading last ≤ reading first ↔ turns first ≠ turns last := by
  have hturn' : last - first < 4294967296 := hturn
  rw [UInt64.le_iff_toNat_le, toNat_reading, toNat_reading]
  unfold turns
  show _ ↔ first / 4294967296 ≠ last / 4294967296
  omega

omit hturn in
/-- Within a turn the time between two readings is their difference. -/
theorem toNat_sub_reading (hsame : turns first = turns last) :
    (reading last - reading first).toNat = last - first := by
  have hsame' : first / 4294967296 = last / 4294967296 := hsame
  have hfirst := toNat_reading first
  have hlast := toNat_reading last
  rw [UInt64.toNat_sub_of_le _ _ (UInt64.le_iff_toNat_le.mpr (by omega))]
  omega

end Readings

/-! ## Placing a kernel on the host clock -/

/-- With true tick counts of submission, start and stop, the readings of the timer put the kernel
on the host clock as long after the submission as it started, and for as long as it ran. -/
def KeepsTime (submit start stop : Nat) (frequency host : UInt64) : Prop :=
  ∃ window, (⟨reading start, reading stop⟩ : KernelTimestamp).onHost frequency
      ⟨host, reading submit⟩ = .ok window ∧
    window.start.toNat = host.toNat + nsOf (start - submit) frequency ∧
    window.stop.toNat = window.start.toNat + nsOf (stop - start) frequency

/-- **A kernel that starts in the turn of its submission is placed on the host clock, also if the
timer wraps while it runs; one that starts in a later turn is refused.** Submission, start and stop
are within less than one turn. -/
theorem onHost_reading {submit start stop : Nat} {frequency host : UInt64}
    (late : submit < start) (ran : start ≤ stop) (close : stop - submit < timerWrap.toNat)
    (runs : 0 < frequency)
    (fits : host.toNat + nsOf (start - submit) frequency + nsOf (stop - start) frequency <
      UInt64.size) :
    (turns submit = turns start → KeepsTime submit start stop frequency host) ∧
    (turns submit ≠ turns start →
      (⟨reading start, reading stop⟩ : KernelTimestamp).onHost frequency ⟨host, reading submit⟩ =
        .error (.clockNotMonotonic (reading start) (reading submit))) := by
  have hruns : frequency ≠ 0 := Ne.symm (UInt64.ne_of_lt runs)
  have hstart : start - submit < timerWrap.toNat := by omega
  have hstop : stop - start < timerWrap.toNat := by omega
  have hrefused := reading_le_iff (Nat.le_of_lt late) hstart (Nat.ne_of_lt late)
  refine ⟨fun hsame => ?_, fun hwrapped => KernelTimestamp.onHost_of_le (hrefused.mpr hwrapped)⟩
  have hlate : reading submit < reading start :=
    UInt64.not_le.mp fun hle => hrefused.mp hle hsame
  have hsub := toNat_sub_reading (Nat.le_of_lt late) hsame
  obtain ⟨shift, hshift⟩ := exists_word (n := nsOf (start - submit) frequency) (by omega)
  obtain ⟨duration, hduration⟩ := exists_word (n := nsOf (stop - start) frequency) (by omega)
  obtain ⟨first, hfirst⟩ :=
    exists_word (n := host.toNat + nsOf (start - submit) frequency) (by omega)
  obtain ⟨last, hlast⟩ := exists_word fits
  refine ⟨⟨first, last⟩, ?_, hfirst, by rw [hlast, hfirst]⟩
  exact KernelTimestamp.onHost_eq_ok hlate (kernelDuration_reading ran hstop hruns hduration)
    (ticksToNs_eq_ok hruns (hsub.symm ▸ hshift)) (by rw [hshift, hfirst])
    (by rw [hduration, hlast, hfirst])

/-- A timer that wraps while the kernel runs. -/
theorem keepsTime_wrapped_stop : KeepsTime 4294967200 4294967290 4294967306 1000000000 7 :=
  (onHost_reading (by decide) (by decide) (by decide) (by decide) (by decide)).1 (by decide)

/-- **A timer that wraps between the submission and the start does not keep time.** Twenty ticks at
one per nanosecond would put the start at 27 here, but the start is refused. -/
theorem not_keepsTime_wrapped_start :
    ¬ ∀ (submit start stop : Nat) (frequency host : UInt64), submit < start → start ≤ stop →
      stop - submit < timerWrap.toNat → 0 < frequency →
      host.toNat + nsOf (start - submit) frequency + nsOf (stop - start) frequency < UInt64.size →
      KeepsTime submit start stop frequency host := by
  intro h
  obtain ⟨window, hwindow, -⟩ := h 4294967286 4294967306 4294967316 1000000000 7 (by decide)
    (by decide) (by decide) (by decide) (by decide)
  rw [KernelTimestamp.onHost_of_le (by decide)] at hwindow
  cases hwindow

end GpuTrace
