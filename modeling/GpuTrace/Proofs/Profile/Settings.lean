import GpuTrace.Proofs.Lockstep
import GpuTrace.Proofs.Profile.Order

/-!
# Settings — one profile under two settings

The settings of a profile say under which names calls are counted and whether and on which clock
intervals are listed. A profile is `Restyled` if it took in the same calls under other settings: as
many calls and as much time are counted in it, and if both use the same names, the same kernel
table. Finishing one call in both keeps it so (`finish_lockstep`), and the notices are the same.
-/

namespace GpuTrace

open Fallible

theorem KernelInfo.Counts.adds {old : Option KernelInfo} {duration : UInt64} {k : KernelInfo}
    (h : Counts old duration k) :
    k.callCount.toNat = (old.elim 0 fun k => k.callCount.toNat) + 1 ∧
      k.totalTime.toNat = (old.elim 0 fun k => k.totalTime.toNat) + duration.toNat := by
  cases old with
  | none =>
    obtain rfl : k = first duration := h
    exact ⟨rfl, (Nat.zero_add _).symm⟩
  | some info =>
    obtain ⟨htotal, -, -, hcount⟩ := record_eq_ok_iff.mp h
    exact ⟨hcount.symm, htotal.symm⟩

namespace Profile

variable {named : Prop} {p p' q q' : Profile} {f : Finished}

def timed (p : Profile) : Nat :=
  (p.kernels.values.map fun k => k.totalTime.toNat).sum

theorem Adds.counted (h : Adds p f p') : p'.counted = p.counted + 1 := by
  obtain ⟨name, info, intervals, -, hinfo, -, -, rfl⟩ := adds_iff.mp h
  have hsum := sum_insert (fun k => k.callCount.toNat) p.kernels name info
  rw [hinfo.adds.1] at hsum
  unfold Profile.counted
  dsimp only
  omega

theorem Adds.timed (h : Adds p f p') : p'.timed = p.timed + f.duration.toNat := by
  obtain ⟨name, info, intervals, -, hinfo, -, -, rfl⟩ := adds_iff.mp h
  have hsum := sum_insert (fun k => k.totalTime.toNat) p.kernels name info
  rw [hinfo.adds.2] at hsum
  unfold Profile.timed
  dsimp only
  omega

/-- `q` took in the same calls as `p`, and under the same names if `named`. -/
structure Restyled (named : Prop) (p q : Profile) : Prop where
  verbose : named → q.verbose = p.verbose
  kernels : named → q.kernels = p.kernels
  counted : q.counted = p.counted
  timed : q.timed = p.timed

theorem Restyled.of_empty (devices devices' : DeviceMap) {verbose verbose' : Bool}
    (h : named → verbose' = verbose) (records records' : Bool) (domain domain' : ClockDomain) :
    Restyled named (.of devices verbose records domain) (.of devices' verbose' records' domain') :=
  ⟨h, fun _ => rfl, rfl, rfl⟩

theorem Restyled.adds (h : Restyled named p q) (hp : Adds p f p') (hq : Adds q f q') :
    Restyled named p' q' := by
  have hcounted : q'.counted = p'.counted := by
    rw [hp.counted, hq.counted, h.counted]
  have htimed : q'.timed = p'.timed := by
    rw [hp.timed, hq.timed, h.timed]
  obtain ⟨name, info, intervals, hname, hinfo, -, -, rfl⟩ := adds_iff.mp hp
  obtain ⟨name', info', intervals', hname', hinfo', -, -, rfl⟩ := adds_iff.mp hq
  refine ⟨h.verbose, fun hnamed => ?_, hcounted, htimed⟩
  rw [h.verbose hnamed, hname] at hname'
  obtain rfl := Except.ok.inj hname'
  rw [h.kernels hnamed] at hinfo'
  obtain rfl := hinfo.unique hinfo'
  show q.kernels.insert name info = p.kernels.insert name info
  rw [h.kernels hnamed]

variable (named) in
theorem finish_lockstep (call : Call) (command : Command) (timestamp : KernelTimestamp) :
    Lockstep True (Restyled named) Eq (finish call command timestamp)
      (finish call command timestamp) := by
  intro p q h
  cases hp : finish call command timestamp p with
  | error e p' => exact meet_error_left trivial e p' _
  | ok finish₁ p' =>
    cases hq : finish call command timestamp q with
    | error e q' => exact meet_error_right trivial _ e q'
    | ok finish₂ q' =>
      obtain ⟨f, hf, rfl, hadds⟩ := (finish_adds call command timestamp).of_ok hp
      obtain ⟨f', hf', rfl, hadds'⟩ := (finish_adds call command timestamp).of_ok hq
      obtain rfl := Option.some.inj (hf.symm.trans hf')
      exact ⟨rfl, h.adds hadds hadds'⟩

end Profile

end GpuTrace
