import GpuTrace.Profile.Basic
import GpuTrace.Proofs.Outcome

/-!
# Finishing a call — the id of its notice and the faults on the way

A notice carries the kernel id of its command and the number of its call, and both can
be read back from its id (`carries_callText`, `callText_injective`). Finishing works on the
command and the ticks that it is given: it looks up no reference and asks for no event, so its
faults are about times, names and devices (`finish_throws`). The last of them, a call that was
submitted before its command was appended, comes up for no other call (`finish_throws_early`).
-/

namespace GpuTrace

/-- Faults of a reference, or of a position among the pending calls, that leads
nowhere. -/
def Fault.IsDangling : Fault → Prop
  | .listNotRegistered _ | .freedCommand .. | .indexOutOfBounds .. | .removalOutOfBounds .. => True
  | _ => False

/-- Faults of times, names and devices, the ones that finishing a call can stop with. -/
def Fault.OfFinish : Fault → Prop
  | .addOverflow | .subOverflow | .mulOverflow | .zeroFrequency | .manyWraps .. | .emptyName
  | .clockNotMonotonic .. | .callBeforeAppend _ | .deviceNotMapped _ => True
  | _ => False

/-- The fault of a call that was submitted before its command was appended. -/
def Fault.IsEarly : Fault → Prop
  | .callBeforeAppend _ => True
  | _ => False

/-- Faults of finishing a call before the times of append and submission are compared. -/
structure Fault.OfMeasure (e : Fault) : Prop where
  finish : e.OfFinish
  not_early : ¬ e.IsEarly

theorem Fault.OfFinish.not_dangling {e : Fault} (h : e.OfFinish) : ¬ e.IsDangling := by
  cases e <;> first | exact id | cases h

def callText (kernelId callId : Nat) : String :=
  s!"{kernelId}.{callId}"

/-! ## Ids of notices -/

def carries (kernelId : Nat) (id : String) : Bool :=
  id.toList.takeWhile (· ≠ '.') = (toString kernelId).toList

theorem toList_callText (kernelId callId : Nat) :
    (callText kernelId callId).toList =
      (toString kernelId).toList ++ '.' :: (toString callId).toList := by
  simp [callText, show (toString ".").toList = ['.'] from rfl]

theorem toList_toString (n : Nat) : (toString n).toList = Nat.toDigits 10 n :=
  Nat.toList_repr

theorem toString_injective {m n : Nat} (h : (toString m).toList = (toString n).toList) :
    m = n := by
  rw [toList_toString, toList_toString] at h
  rw [← Nat.ofDigitChars_toDigits (b := 10) (n := m) (by decide) (by decide), h,
    Nat.ofDigitChars_toDigits (by decide) (by decide)]

theorem not_mem_digits {c : Char} (hc : c.isDigit = false) (n : Nat) : c ∉ Nat.toDigits 10 n := by
  intro h
  have hdigit := Nat.isDigit_of_mem_toDigits (by decide) (by decide) h
  rw [hc] at hdigit
  cases hdigit

theorem toString_ne_point (n : Nat) : ∀ c ∈ (toString n).toList, c ≠ '.' := by
  rintro c hc rfl
  rw [toList_toString] at hc
  exact not_mem_digits (by decide) n hc

/-- An id carries the kernel id that it was made with, and no other. -/
@[simp] theorem carries_callText (kernelId kernelId' callId : Nat) :
    carries kernelId (callText kernelId' callId) = decide (kernelId = kernelId') := by
  have htake : (callText kernelId' callId).toList.takeWhile (· ≠ '.') =
      (toString kernelId').toList := by
    rw [toList_callText, List.takeWhile_append_of_pos (by simpa using toString_ne_point kernelId')]
    simp
  unfold carries
  rw [htake]
  by_cases h : kernelId = kernelId'
  · simp [h]
  · have hne : (toString kernelId').toList ≠ (toString kernelId).toList := fun heq =>
      h (toString_injective heq).symm
    rw [decide_eq_false hne, decide_eq_false h]

theorem callText_injective (kernelId : Nat) : Function.Injective (callText kernelId) := by
  intro n n' h
  have hlist := congrArg String.toList h
  rw [toList_callText, toList_callText, List.append_cancel_left_eq, List.cons.injEq] at hlist
  exact toString_injective hlist.2

namespace Profile

open Fallible

/-! ## Faults -/

theorem add_raises (a b : UInt64) : Raises (·.OfMeasure) (Checked.add a b) := by
  unfold Checked.add
  split
  · exact raises_ok _
  · exact raises_error ⟨trivial, id⟩

theorem sub_raises (a b : UInt64) : Raises (·.OfMeasure) (Checked.sub a b) := by
  unfold Checked.sub
  split
  · exact raises_ok _
  · exact raises_error ⟨trivial, id⟩

theorem ticksToNs_raises (ticks frequency : UInt64) :
    Raises (·.OfMeasure) (ticksToNs ticks frequency) := by
  unfold ticksToNs
  split
  · exact raises_error ⟨trivial, id⟩
  · exact raises_ok _

theorem kernelDuration_raises (start stop frequency : UInt64) :
    Raises (·.OfMeasure) (kernelDuration start stop frequency) := by
  have helapsed : Raises (·.OfMeasure) (elapsedTicks start stop) := by
    unfold elapsedTicks
    split
    · split
      · exact raises_ok _
      · exact raises_error ⟨trivial, id⟩
    · exact raises_ok _
  exact raises_bind helapsed fun _ => ticksToNs_raises _ _

theorem onHost_raises (timestamp : KernelTimestamp) (frequency : UInt64) (anchor : SubmitAnchor) :
    Raises (·.OfMeasure) (timestamp.onHost frequency anchor) := by
  unfold KernelTimestamp.onHost
  dsimp only
  split
  · exact raises_error ⟨trivial, id⟩
  · exact raises_bind (kernelDuration_raises _ _ _) fun _ =>
      raises_bind (ticksToNs_raises _ _) fun _ => raises_bind (add_raises _ _) fun _ =>
      raises_bind (add_raises _ _) fun _ => raises_ok _

theorem windowIn_raises (domain : ClockDomain) (window : HostWindow)
    (timestamp : KernelTimestamp) (frequency : UInt64) :
    Raises (·.OfMeasure) (windowIn domain window timestamp frequency) := by
  cases domain with
  | host => exact raises_ok _
  | device =>
    exact raises_bind (ticksToNs_raises _ _) fun _ =>
      raises_bind (kernelDuration_raises _ _ _) fun _ =>
      raises_bind (add_raises _ _) fun _ => raises_ok _

theorem displayName_raises (props : Props) (verbose : Bool) :
    Raises (·.OfMeasure) (props.displayName verbose) := by
  unfold Props.displayName
  split
  · exact raises_error ⟨trivial, id⟩
  · exact raises_ok _

theorem recordInfo_throws (name : String) (duration : UInt64) :
    Throws (·.OfMeasure) (recordInfo name duration) := fun p => by
  unfold Ends recordInfo
  cases p.kernels.get? name with
  | none => trivial
  | some info =>
    dsimp only
    unfold KernelInfo.record
    cases ht : Checked.add info.totalTime duration with
    | error e => exact add_raises _ _ e ht
    | ok total =>
      dsimp only
      cases hc : Checked.add info.callCount 1 with
      | error e => exact add_raises _ _ e hc
      | ok count => trivial

theorem recordInterval_throws (name : String) (device : DeviceHandle) (start stop : UInt64) :
    Throws (·.OfMeasure) (recordInterval name device start stop) := fun p => by
  unfold Ends recordInterval DeviceMap.slices
  cases p.devices.roots.get? device with
  | some subDevices => cases subDevices <;> trivial
  | none =>
    dsimp only
    cases DeviceMap.ownerOf device p.devices.roots.entries with
    | none => exact ⟨trivial, id⟩
    | some owner => trivial

/-- Finishing a call stops at the comparison of its times, or at a measure before it. -/
theorem finish_throws_early (call : Call) (command : Command) (timestamp : KernelTimestamp) :
    Throws (fun e => e.OfMeasure ∨
      call.anchor.hostTime < command.appendTime ∧ e = .callBeforeAppend command.kernelId)
      (finish call command timestamp) := by
  have hwindow : ∀ (domain : ClockDomain) (window : HostWindow), Throws (fun e => e.OfMeasure ∨
      call.anchor.hostTime < command.appendTime ∧ e = .callBeforeAppend command.kernelId)
      (liftM (windowIn domain window timestamp command.frequency) : Fallible Profile _) :=
    fun _ _ => (throws_lift (windowIn_raises _ _ _ _)).imp fun _ => .inl
  have hinterval : ∀ name start stop, Throws (fun e => e.OfMeasure ∨
      call.anchor.hostTime < command.appendTime ∧ e = .callBeforeAppend command.kernelId)
      (recordInterval name command.device start stop) :=
    fun _ _ _ => (recordInterval_throws _ _ _ _).imp fun _ => .inl
  unfold finish
  refine throws_bind throws_get fun p =>
    throws_bind ((throws_lift (onHost_raises _ _ _)).imp fun _ => .inl) fun window =>
    throws_bind ((throws_lift (displayName_raises _ _)).imp fun _ => .inl) fun name =>
    throws_bind ((throws_lift (sub_raises _ _)).imp fun _ => .inl) fun duration =>
    throws_bind ((recordInfo_throws _ _).imp fun _ => .inl) fun _ => ?_
  dsimp only
  split <;> split
  · exact throws_bind (hwindow _ _) fun _ => throws_bind (hinterval _ _ _) fun _ =>
      throws_bind (throws_throw (.inr ⟨‹_›, rfl⟩)) fun _ => throws_pure _
  · exact throws_bind (hwindow _ _) fun _ => throws_bind (hinterval _ _ _) fun _ =>
      throws_pure _
  · exact throws_bind (throws_throw (.inr ⟨‹_›, rfl⟩)) fun _ => throws_pure _
  · exact throws_pure _

theorem finish_throws (call : Call) (command : Command) (timestamp : KernelTimestamp) :
    Throws (·.OfFinish) (finish call command timestamp) := by
  refine (finish_throws_early call command timestamp).imp ?_
  rintro e (hmeasure | ⟨-, rfl⟩)
  · exact hmeasure.finish
  · trivial

end Profile

end GpuTrace
