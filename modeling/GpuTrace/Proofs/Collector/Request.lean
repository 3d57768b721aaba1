import GpuTrace.Proofs.Collector.History

/-!
# Requests — what stops a hook that completes no call

A hook that registers, appends or submits stops because something that it was asked for is not
there, or is there already, or is not in the right state, or because a size in it does not fit
(`Fault.OfRequest`). The faults that a completion stops with are about a call that ran, and no such
hook stops with one of these.
-/

namespace GpuTrace

open Fallible

/-- Faults of a request that can not be met: an object is unknown, or known already, or not in the
state for it, or a size does not fit. -/
def Fault.OfRequest : Fault → Prop
  | .addOverflow | .mulOverflow | .zeroFrequency | .listNotRegistered _ | .listRegisteredTwice _
  | .listInUse _ | .immediateBatch _ | .batchBeforeAppend | .freedCommand .. | .indexOutOfBounds ..
  | .imageRegisteredTwice _ | .imageNotRegistered _ | .deviceMappedTwice _ | .noSuchDevice _
  | .noSuchEvent _ | .noSuchKernel _ => True
  | _ => False

theorem Fault.OfRequest.not_early {e : Fault} (h : e.OfRequest) : ¬ e.IsEarly := by
  cases e <;> first | exact id | cases h

/-! ## Sizes -/

theorem Checked.add_raises (a b : UInt64) : Raises (·.OfRequest) (Checked.add a b) := by
  unfold Checked.add
  split
  · exact raises_ok _
  · exact raises_error trivial

theorem Checked.mul_raises (a b : UInt64) : Raises (·.OfRequest) (Checked.mul a b) := by
  unfold Checked.mul
  split
  · exact raises_ok _
  · exact raises_error trivial

theorem Region.timesDepth_raises (region : Region) (bytes : UInt64) :
    Raises (·.OfRequest) (region.timesDepth bytes) := by
  unfold Region.timesDepth
  split
  · exact raises_ok _
  · exact Checked.mul_raises _ _

theorem Region.bufferBytes_raises (region : Region) (pitch : UInt64) :
    Raises (·.OfRequest) (region.bufferBytes pitch) :=
  raises_bind (Checked.mul_raises _ _) fun _ => raises_bind (Checked.mul_raises _ _) fun _ =>
    region.timesDepth_raises _

theorem Region.imageBytes_raises (region : Region) :
    Raises (·.OfRequest) region.imageBytes :=
  raises_bind (Checked.mul_raises _ _) fun _ => region.timesDepth_raises _

theorem ImageDesc.byteSize_raises (desc : ImageDesc) : Raises (·.OfRequest) desc.byteSize := by
  refine raises_bind ?_ fun _ => Checked.mul_raises _ _
  unfold ImageDesc.elements
  split
  · exact Checked.mul_raises _ _
  · exact Checked.mul_raises _ _
  · exact raises_bind (Checked.mul_raises _ _) fun _ => Checked.mul_raises _ _
  · exact raises_ok _
  · exact raises_ok _
  · exact raises_ok _

theorem Operation.subject_raises (op : Operation) (imageSize : ImageHandle → UInt64)
    {label : String} {bytes : Except Fault UInt64}
    (h : op.subject imageSize = .transfer label bytes) : Raises (·.OfRequest) bytes := by
  cases op with
  | launchKernel | launchCooperativeKernel | launchKernelIndirect => cases h
  | memoryCopyRegion region pitch =>
    cases h
    cases region with
    | none => exact raises_ok _
    | some region => exact region.bufferBytes_raises pitch
  | imageCopyFromMemory region =>
    cases h
    cases region with
    | none => exact raises_ok _
    | some region => exact region.imageBytes_raises
  | memoryCopy | memoryFill | memoryCopyFromContext | barrier | memoryRangesBarrier | imageCopy
  | imageCopyRegion | imageCopyToMemory =>
    cases h
    exact raises_ok _

/-! ## Objects of the driver -/

namespace Driver

theorem device_raises (d : Driver) (device : DeviceHandle) :
    Raises (·.OfRequest) (d.device device) := by
  unfold Driver.device
  split
  · exact raises_ok _
  · exact raises_error trivial

theorem kernel_raises (d : Driver) (kernel : KernelHandle) :
    Raises (·.OfRequest) (d.kernel kernel) := by
  unfold Driver.kernel
  split
  · exact raises_ok _
  · exact raises_error trivial

theorem timerFrequency_raises (d : Driver) (device : DeviceHandle) :
    Raises (·.OfRequest) (d.timerFrequency device) :=
  raises_map _ (d.device_raises device)

theorem maskedTimestamp_raises (d : Driver) (device : DeviceHandle) :
    Raises (·.OfRequest) (d.maskedTimestamp device) :=
  raises_map _ (raises_map _ (d.device_raises device))

theorem setDeviceTime_raises (d : Driver) (device : DeviceHandle) (ticks : UInt64) :
    Raises (·.OfRequest) (d.setDeviceTime device ticks) :=
  raises_bind (d.device_raises device) fun _ => raises_ok _

theorem advanceDeviceTime_raises (d : Driver) (device : DeviceHandle) (ticks : UInt64) :
    Raises (·.OfRequest) (d.advanceDeviceTime device ticks) :=
  raises_bind (d.device_raises device) fun _ => raises_bind (Checked.add_raises _ _) fun _ =>
    d.setDeviceTime_raises device _

theorem signal_raises (d : Driver) (event : EventHandle) (timestamp : KernelTimestamp) :
    Raises (·.OfRequest) (d.signal event timestamp) := by
  unfold Driver.signal
  split
  · exact raises_ok _
  · exact raises_error trivial

end Driver

theorem DeviceMap.ofRoots_raises (roots : List (DeviceHandle × List DeviceHandle)) :
    Raises (·.OfRequest) (DeviceMap.ofRoots roots) := by
  have hroots : Throws (·.OfRequest)
      (roots.forM fun root => DeviceMap.insert root.1 root.2) := by
    refine throws_forM fun root m => ?_
    unfold Ends DeviceMap.insert
    cases m.roots.contains root.1 <;> trivial
  intro e he
  unfold DeviceMap.ofRoots EStateM.run at he
  split at he
  · cases he
  · rename_i e' m hinsert
    cases he
    exact (hroots _).of_error hinsert

/-! ## Registered lists -/

namespace Registry

theorem list_raises (r : Registry) (list : CommandListHandle) :
    Raises (·.OfRequest) (r.list list) := by
  unfold Registry.list
  split
  · exact raises_ok _
  · exact raises_error trivial

theorem command_raises (r : Registry) (ref : CommandRef) :
    Raises (·.OfRequest) (r.command ref) := by
  unfold command
  have hlist := r.list_raises ref.list
  cases hl : r.list ref.list with
  | error e => exact raises_error (hlist e hl)
  | ok info =>
    dsimp only
    split
    · exact raises_error trivial
    · split
      · exact raises_ok _
      · exact raises_error trivial

theorem createList_throws (list : CommandListHandle) (context : ContextHandle)
    (device : DeviceHandle) (immediate : Bool) :
    Throws (·.OfRequest) (createList list context device immediate) := fun r => by
  unfold Ends createList
  cases r.lists.contains list <;> trivial

theorem takeCommands_throws (list : CommandListHandle) :
    Throws (·.OfRequest) (takeCommands list) := fun r => by
  have hlist := r.list_raises list
  unfold Ends takeCommands
  cases hl : r.list list with
  | error e => exact hlist e hl
  | ok info =>
    dsimp only
    cases r.inUse list info.epoch <;> trivial

theorem removeList_throws (list : CommandListHandle) :
    Throws (·.OfRequest) (removeList list) :=
  throws_bind (takeCommands_throws list) fun _ => throws_bind (throws_modify _) fun _ =>
    throws_pure _

theorem resetList_throws (list : CommandListHandle) :
    Throws (·.OfRequest) (resetList list) :=
  throws_bind (takeCommands_throws list) fun _ => throws_bind (throws_modify _) fun _ =>
    throws_pure _

theorem addCommand_throws (list : CommandListHandle) (command : Command) :
    Throws (·.OfRequest) (addCommand list command) := fun r => by
  have hlist := r.list_raises list
  unfold Ends addCommand
  cases hl : r.list list with
  | error e => exact hlist e hl
  | ok info => trivial

theorem addCall_throws (call : Call) : Throws (·.OfRequest) (addCall call) := fun r => by
  have hcommand := r.command_raises call.command
  unfold Ends addCall
  cases hc : r.command call.command with
  | error e => exact hcommand e hc
  | ok command => trivial

theorem addBatchCall_throws (ref : CommandRef) (queue : QueueHandle) (anchor : SubmitAnchor) :
    Throws (·.OfRequest) (addBatchCall ref queue anchor) := by
  unfold addBatchCall
  refine throws_bind throws_get fun r =>
    throws_bind (throws_lift (r.command_raises ref)) fun command => ?_
  dsimp only
  split
  · exact throws_bind (throws_throw trivial) fun _ => addCall_throws _
  · exact addCall_throws _

theorem addCalls_throws (list : CommandListHandle) (queue : QueueHandle)
    (anchor : SubmitAnchor) : Throws (·.OfRequest) (addCalls list queue anchor) := by
  have hcalls : ∀ info : CommandList, Throws (·.OfRequest)
      ((List.range info.commands.size).forM fun slot =>
        addBatchCall ⟨list, info.epoch, slot⟩ queue anchor) :=
    fun _ => throws_forM fun _ => addBatchCall_throws _ _ _
  unfold addCalls
  refine throws_bind throws_get fun r =>
    throws_bind (throws_lift (r.list_raises list)) fun info => ?_
  dsimp only
  split
  · exact throws_bind (throws_throw trivial) fun _ => throws_bind (throws_modify _) fun _ =>
      throws_bind (hcalls info) fun _ => throws_pure _
  · exact throws_bind (throws_modify _) fun _ => throws_bind (hcalls info) fun _ => throws_pure _

theorem addImage_throws (image : ImageHandle) (size : UInt64) :
    Throws (·.OfRequest) (addImage image size) := fun r => by
  unfold Ends addImage
  dsimp only
  cases r.imageSizes.contains image <;> trivial

theorem removeImage_throws (image : ImageHandle) :
    Throws (·.OfRequest) (removeImage image) := fun r => by
  unfold Ends removeImage
  cases r.imageSizes.contains image <;> trivial

end Registry

/-! ## Hooks -/

namespace Tracing

variable {α : Type} {F : Fault → Prop}

theorem throws_onRegistry {step : Fallible Registry α} (h : Throws F step) :
    Throws F (onRegistry step) := fun t => ends_onRegistry.mpr (h t.registry)

theorem throws_onDriver (call : Driver → α × Driver) : Throws F (onDriver call) :=
  fun _ => trivial

theorem throws_warn (w : Warning) : Throws F (warn w) := fun _ => trivial

theorem throws_accepted {step : Fallible Tracing Unit} (result : DriverResult)
    (h : Throws F step) :
    Throws F (match result with
      | .error _ => return ()
      | .ok () => step) := by
  cases result with
  | error _ => exact throws_pure _
  | ok _ => exact h

theorem propsOf_raises (t : Tracing) (op : Operation) :
    Raises (·.OfRequest) (t.propsOf op) := by
  unfold propsOf
  split
  · exact raises_bind (t.driver.kernel_raises _) fun _ => raises_ok _
  · rename_i h
    exact raises_bind (op.subject_raises _ h) fun _ => raises_ok _

theorem anchorOn_raises (t : Tracing) (device : DeviceHandle) :
    Raises (·.OfRequest) (t.anchorOn device) :=
  raises_bind (t.driver.maskedTimestamp_raises device) fun _ => raises_ok _

theorem appendAnchor_raises (t : Tracing) (list : CommandListHandle) (device : DeviceHandle) :
    Raises (·.OfRequest) (t.appendAnchor list device) := by
  refine raises_bind (raises_map _ (t.registry.list_raises list)) fun immediate => ?_
  split
  · exact raises_bind (t.anchorOn_raises device) fun _ => raises_ok _
  · exact raises_ok _

theorem commandOf_raises (props : Props) (signal : SignalEvent) (device : DeviceHandle)
    (appendTime frequency : UInt64) :
    Raises (·.OfRequest) (Command.of props signal device appendTime frequency) := by
  unfold Command.of
  split
  · exact raises_error trivial
  · exact raises_ok _

/-- Whether an event can be made for an append or not, nothing stops. -/
theorem signalFor_throws (context : ContextHandle) (name : String) (signal : Option EventHandle) :
    Throws F (signalFor context name signal) := by
  have hmade : Throws F (createProfilingEvent context) := by
    unfold createProfilingEvent
    refine throws_bind (throws_onDriver _) fun pool => ?_
    split
    · exact throws_pure _
    · refine throws_bind (throws_onDriver _) fun event => ?_
      split
      · exact throws_pure _
      · refine throws_bind (throws_onDriver _) fun destroyed => ?_
        split
        · exact throws_pure _
        · exact throws_bind (throws_warn _) fun _ => throws_pure _
  unfold signalFor
  split
  · exact throws_pure _
  · refine throws_bind hmade fun made => ?_
    split
    · exact throws_pure _
    · exact throws_bind (throws_warn _) fun _ => throws_pure _

theorem enterAppend_throws (list : CommandListHandle) (op : Operation)
    (signal : Option EventHandle) : Throws (·.OfRequest) (enterAppend list op signal) := by
  unfold enterAppend
  refine throws_bind throws_get fun t => ?_
  split
  · exact throws_pure _
  · refine throws_bind (throws_lift (raises_map _ (t.registry.list_raises list))) fun device =>
      throws_bind (throws_lift (t.propsOf_raises op)) fun props =>
      throws_bind (throws_lift (t.appendAnchor_raises list device)) fun anchor =>
      throws_bind (throws_lift (raises_map _ (t.registry.list_raises list))) fun context =>
      throws_bind (signalFor_throws context props.name signal) fun made => ?_
    split
    · exact throws_pure _
    · exact throws_bind throws_get fun t' =>
        throws_bind (throws_lift (t'.driver.timerFrequency_raises device)) fun _ =>
        throws_bind (throws_lift (commandOf_raises _ _ _ _ _)) fun _ => throws_pure _

theorem exitAppend_throws (append : InFlightAppend) (result : DriverResult) :
    Throws (·.OfRequest) (exitAppend append result) := by
  cases result with
  | error e => exact (releaseCommand_throws append.command).imp fun _ => False.elim
  | ok _ =>
    unfold exitAppend
    refine throws_bind (throws_onRegistry (Registry.addCommand_throws _ _)) fun ref => ?_
    split
    · exact throws_onRegistry (Registry.addCall_throws _)
    · exact throws_pure _

theorem enterExecute_throws (queue : QueueHandle) (lists : List CommandListHandle) :
    Throws (·.OfRequest) (enterExecute queue lists) := by
  unfold enterExecute
  refine throws_bind throws_get fun t => ?_
  split
  · exact throws_pure _
  · refine throws_bind (throws_mapM fun list => ?_) fun _ => throws_pure _
    exact throws_bind (throws_lift (raises_map _ (t.registry.list_raises list))) fun device =>
      throws_bind (throws_lift (t.anchorOn_raises device)) fun _ => throws_pure _

theorem exitExecute_throws (token : SubmitToken) (result : DriverResult) :
    Throws (·.OfRequest) (exitExecute token result) := by
  refine throws_accepted result (throws_forM fun entry => ?_)
  unfold submitList
  refine throws_bind throws_get fun t =>
    throws_bind (throws_lift (raises_map _ (t.registry.list_raises _))) fun immediate => ?_
  cases immediate with
  | true => exact throws_pure _
  | false => exact throws_map _ (throws_onRegistry (Registry.addCalls_throws _ _ _))

theorem exitImageCreate_throws (image : ImageHandle) (desc : ImageDesc) (result : DriverResult) :
    Throws (·.OfRequest) (exitImageCreate image desc result) := by
  exact throws_accepted result (throws_bind (throws_lift desc.byteSize_raises) fun size =>
    throws_onRegistry (Registry.addImage_throws image size))

theorem setEnabled_throws (enabled : Bool) : Throws F (setEnabled enabled) := by
  unfold setEnabled
  refine throws_bind throws_get fun t => throws_bind (throws_onDriver _) fun switched => ?_
  split
  · exact throws_pure _
  · exact throws_bind (throws_modify _) fun _ => throws_pure _

end Tracing

end GpuTrace
