import GpuTrace.Proofs.Profile.Order

/-!
# Stops — what is left of a call that could not be taken in

Finishing a call does not undo what it did before it stopped. It counts the call in the kernel
table, then lists its interval, and compares the times of append and submission last.
`Finished.Stops` lists the ways to stop, each with its fault and with what it made of the profile:
nothing, a sum without its count, a row without its interval, or a row and an interval without a
notice. There is no other way (`finish_stops_iff`).
-/

namespace GpuTrace

open Fallible

/-- With the duration of one more call, which is not counted yet. -/
def KernelInfo.uncounted (info : KernelInfo) (duration total : UInt64) : KernelInfo :=
  ⟨total, min info.minTime duration, max info.maxTime duration, info.callCount⟩

/-- How taking a finished call into a profile stops: with which fault, and what it made of the
profile. -/
inductive Finished.Stops (f : Finished) (p : Profile) : Fault → Profile → Prop
  | unnamed {e} (nameless : f.command.props.displayName p.verbose = .error e) : f.Stops p e p
  | total {name info e} (named : f.command.props.displayName p.verbose = .ok name)
      (found : p.kernels.get? name = some info)
      (overflow : Checked.add info.totalTime f.duration = .error e) : f.Stops p e p
  | count {name info total e} (named : f.command.props.displayName p.verbose = .ok name)
      (found : p.kernels.get? name = some info)
      (sum : Checked.add info.totalTime f.duration = .ok total)
      (overflow : Checked.add info.callCount 1 = .error e) :
      f.Stops p e
        { p with kernels := p.kernels.insert name (info.uncounted f.duration total) }
  /-- Counted, but not listed. -/
  | unlisted {name info e} (named : f.command.props.displayName p.verbose = .ok name)
      (counted : KernelInfo.Counts (p.kernels.get? name) f.duration info)
      (unplaced : p.listed f name = .error e) :
      f.Stops p e { p with kernels := p.kernels.insert name info }
  /-- Counted and listed. -/
  | early {name info intervals} (named : f.command.props.displayName p.verbose = .ok name)
      (counted : KernelInfo.Counts (p.kernels.get? name) f.duration info)
      (listing : p.listed f name = .ok intervals)
      (early : f.call.anchor.hostTime < f.command.appendTime) :
      f.Stops p (.callBeforeAppend f.command.kernelId)
        { p with
          kernels := p.kernels.insert name info, intervals := p.intervals ++ intervals.toArray }

namespace Profile

variable {p p' : Profile} {f : Finished} {e : Fault}

/-- Counting a call stops at a sum that does not fit, and keeps the sums before it. -/
theorem recordInfo_eq_error_iff {name : String} {duration : UInt64} :
    recordInfo name duration p = .error e p' ↔
      ∃ info, p.kernels.get? name = some info ∧
        (Checked.add info.totalTime duration = .error e ∧ p' = p ∨
          ∃ total, Checked.add info.totalTime duration = .ok total ∧
            Checked.add info.callCount 1 = .error e ∧
            p' = { p with kernels := p.kernels.insert name (info.uncounted duration total) }) := by
  unfold recordInfo
  cases hfound : p.kernels.get? name with
  | none => simp
  | some info =>
    have hsame : p.kernels.insert name info = p.kernels := by
      unfold Table.insert
      rw [dif_pos (by simp [Table.contains, hfound])]
      exact Table.modify_self hfound
    dsimp only
    unfold KernelInfo.record
    cases htotal : Checked.add info.totalTime duration with
    | error e' => simp [htotal, hsame, eq_comm (a := p')]
    | ok total =>
      cases hcount : Checked.add info.callCount 1 with
      | error e' => simp [htotal, hcount, KernelInfo.uncounted, eq_comm (a := p')]
      | ok count => simp [htotal, hcount]

theorem finish_of_unplaced {call : Call} {command : Command} {timestamp : KernelTimestamp}
    (h : timestamp.onHost command.frequency call.anchor = .error e) :
    finish call command timestamp p = .error e p := by
  rw [eq_error_iff_ends]
  unfold finish
  rw [ends_bind, ends_get, ends_bind, ends_lift, h]
  exact ⟨rfl, rfl⟩

/-- **A call that was placed on the host clock stops in one of these ways, and in no other.** -/
theorem finish_stops_iff :
    finish f.call f.command f.timestamp p = .error e p' ↔ f.Stops p e p' := by
  rw [eq_error_iff_ends, ends_finish]
  constructor
  · intro h
    cases hname : f.command.props.displayName p.verbose with
    | error e' =>
      rw [hname] at h
      obtain ⟨rfl, rfl⟩ := h
      exact .unnamed hname
    | ok name =>
      rw [hname] at h
      dsimp only at h
      cases hrecord : recordInfo name f.duration p with
      | error e' p₁ =>
        obtain ⟨rfl, rfl⟩ := h.of_error hrecord
        obtain ⟨info, hfound, ⟨htotal, rfl⟩ | ⟨total, hsum, hcount, rfl⟩⟩ :=
          recordInfo_eq_error_iff.mp hrecord
        · exact .total hname hfound htotal
        · exact .count hname hfound hsum hcount
      | ok _ p₁ =>
        have h' := h.of_ok hrecord
        obtain ⟨info, hcounted, rfl⟩ := recordInfo_eq_ok_iff.mp hrecord
        cases hlisted : p.listed f name with
        | error e' =>
          rw [hlisted] at h'
          obtain ⟨rfl, rfl⟩ := h'
          exact .unlisted hname hcounted hlisted
        | ok intervals =>
          rw [hlisted] at h'
          dsimp only at h'
          split at h'
          · rename_i hearly
            obtain ⟨rfl, rfl⟩ := h'
            exact .early hname hcounted hlisted hearly
          · exact h'.elim
  · intro h
    cases h with
    | unnamed hname =>
      rw [hname]
      exact ⟨rfl, rfl⟩
    | total hname hfound htotal =>
      rw [hname]
      exact ends_of_error (recordInfo_eq_error_iff.mpr ⟨_, hfound, .inl ⟨htotal, rfl⟩⟩)
        ⟨rfl, rfl⟩
    | count hname hfound hsum hcount =>
      rw [hname]
      exact ends_of_error (recordInfo_eq_error_iff.mpr
        ⟨_, hfound, .inr ⟨_, hsum, hcount, rfl⟩⟩) ⟨rfl, rfl⟩
    | unlisted hname hcounted hlisted =>
      rw [hname]
      refine ends_of_ok (recordInfo_eq_ok_iff.mpr ⟨_, hcounted, rfl⟩) ?_
      rw [hlisted]
      exact ⟨rfl, rfl⟩
    | early hname hcounted hlisted hearly =>
      rw [hname]
      refine ends_of_ok (recordInfo_eq_ok_iff.mpr ⟨_, hcounted, rfl⟩) ?_
      rw [hlisted]
      dsimp only
      rw [if_pos hearly]
      exact ⟨rfl, rfl⟩

end Profile

end GpuTrace
