import GpuTrace.Command.Basic
import GpuTrace.Table

/-!
# Registry — command lists, their commands, and calls that wait for completion

Every command list has an epoch drawn from one counter over all lists. Freeing
the commands of a list gives it a new epoch, so `command` answers a reference
only as long as the command it was made for is there. Kernel ids come from one
counter too and are never given twice.

Operations that stop with a fault keep what they changed before: freeing spends
an epoch and appending spends a kernel id even if the list is unknown, and a
batch keeps the calls in front of the command that it stopped at.
-/

namespace GpuTrace

structure CommandList where
  commands : Array Command
  context : ContextHandle
  device : DeviceHandle
  /-- Operations run as they are appended. -/
  immediate : Bool
  epoch : Nat
  /-- Kernel ids appended since creation or the last reset. -/
  kernelIds : List Nat
  /-- Call ids of the latest submission. -/
  callIds : List Nat
  deriving DecidableEq

/-- Command lists, calls awaiting completion, and what was learned of kernels and
images. -/
structure Registry where
  lists : Table CommandListHandle CommandList
  pending : List Call
  groupSizes : Table KernelHandle Dims
  imageSizes : Table ImageHandle UInt64
  nextKernelId : Nat
  nextEpoch : Nat
  deriving DecidableEq

namespace Registry

def empty : Registry where
  lists := .empty
  pending := []
  groupSizes := .empty
  imageSizes := .empty
  nextKernelId := 1
  nextEpoch := 0

/-! ## Looking up -/

def list (r : Registry) (list : CommandListHandle) : Except Fault CommandList :=
  match r.lists.get? list with
  | some info => .ok info
  | none => .error (.listNotRegistered list)

def context (r : Registry) (list : CommandListHandle) : Except Fault ContextHandle :=
  (·.context) <$> r.list list

def device (r : Registry) (list : CommandListHandle) : Except Fault DeviceHandle :=
  (·.device) <$> r.list list

def isImmediate (r : Registry) (list : CommandListHandle) : Except Fault Bool :=
  (·.immediate) <$> r.list list

def kernelIds (r : Registry) (list : CommandListHandle) : Except Fault (List Nat) :=
  (·.kernelIds) <$> r.list list

def callIds (r : Registry) (list : CommandListHandle) : Except Fault (List Nat) :=
  (·.callIds) <$> r.list list

def command (r : Registry) (ref : CommandRef) : Except Fault Command :=
  match r.list ref.list with
  | .error e => .error e
  | .ok info =>
    if info.epoch ≠ ref.epoch then .error (.freedCommand ref.list info.epoch ref.epoch)
    else
      match info.commands[ref.slot]? with
      | some c => .ok c
      | none => .error (.indexOutOfBounds info.commands.size ref.slot)

/-- Position of the first call that waits for `event`, counted from `position`. -/
def findFrom (r : Registry) (event : EventHandle) : List Call → Nat → Except Fault (Option Nat)
  | [], _ => .ok none
  | call :: rest, position =>
    match r.command call.command with
    | .error e => .error e
    | .ok c => if c.event = event then .ok (some position) else r.findFrom event rest (position + 1)

def findPending (r : Registry) (event : EventHandle) : Except Fault (Option Nat) :=
  r.findFrom event r.pending 0

/-- Group size last set on a kernel, zero in each direction before. -/
def groupSize (r : Registry) (kernel : KernelHandle) : Dims :=
  (r.groupSizes.get? kernel).getD Dims.zero

/-- Bytes of an image, zero if it is unknown. -/
def imageSize (r : Registry) (image : ImageHandle) : UInt64 :=
  (r.imageSizes.get? image).getD 0

/-! ## Command lists -/

def createList (list : CommandListHandle) (context : ContextHandle) (device : DeviceHandle)
    (immediate : Bool) : Fallible Registry Unit := fun r =>
  if r.lists.contains list then .error (.listRegisteredTwice list) r
  else
    .ok () { r with
      lists := r.lists.insert list
        { commands := #[], context, device, immediate, epoch := r.nextEpoch
          kernelIds := [], callIds := [] }
      nextEpoch := r.nextEpoch + 1 }

/-- Whether a pending call refers to the commands that `list` holds in `epoch`. -/
def inUse (r : Registry) (list : CommandListHandle) (epoch : Nat) : Bool :=
  r.pending.any fun call => call.command.list == list && call.command.epoch == epoch

/-- Takes the commands out of a list that no pending call refers to. -/
def takeCommands (list : CommandListHandle) : Fallible Registry (Array Command) := fun r =>
  let r' := { r with nextEpoch := r.nextEpoch + 1 }
  match r.list list with
  | .error e => .error e r'
  | .ok info =>
    if r.inUse list info.epoch then .error (.listInUse list) r'
    else
      .ok info.commands { r' with
        lists := r.lists.modify list fun i => { i with epoch := r.nextEpoch, commands := #[] } }

def removeList (list : CommandListHandle) : Fallible Registry (Array Command) := do
  let commands ← takeCommands list
  modify fun r => { r with lists := r.lists.erase list }
  return commands

def resetList (list : CommandListHandle) : Fallible Registry (Array Command) := do
  let commands ← takeCommands list
  modify fun r =>
    { r with lists := r.lists.modify list fun i => { i with kernelIds := [], callIds := [] } }
  return commands

/-! ## Commands and calls -/

def addCommand (list : CommandListHandle) (command : Command) : Fallible Registry CommandRef :=
  fun r =>
    let r' := { r with nextKernelId := r.nextKernelId + 1 }
    match r.list list with
    | .error e => .error e r'
    | .ok info =>
      .ok ⟨list, info.epoch, info.commands.size⟩ { r' with
        lists := r.lists.modify list fun i =>
          { i with
            kernelIds := i.kernelIds ++ [r.nextKernelId]
            commands := i.commands.push { command with kernelId := r.nextKernelId } } }

def addCall (call : Call) : Fallible Registry Unit := fun r =>
  match r.command call.command with
  | .error e => .error e r
  | .ok command =>
    let callId := command.callCount + 1
    .ok () { r with
      lists := r.lists.modify call.command.list fun i =>
        { i with
          commands := i.commands.modify call.command.slot fun c => { c with callCount := callId }
          callIds := i.callIds ++ [callId] }
      pending := r.pending ++ [{ call with callId }] }

/-- Queues a call of one command in a batch; the command must not be newer than
the anchor of the batch. -/
def addBatchCall (ref : CommandRef) (queue : QueueHandle) (anchor : SubmitAnchor) :
    Fallible Registry Unit := do
  let command ← (← get).command ref
  if anchor.hostTime < command.appendTime then
    throw .batchBeforeAppend
  addCall (Call.of ref queue anchor)

/-- Queues a call of every command of a deferred list, in order, and answers how
many there are. The call ids of the previous submission are forgotten first. -/
def addCalls (list : CommandListHandle) (queue : QueueHandle) (anchor : SubmitAnchor) :
    Fallible Registry Nat := do
  let info ← (← get).list list
  if info.immediate then
    throw (.immediateBatch list)
  modify fun r => { r with lists := r.lists.modify list fun i => { i with callIds := [] } }
  (List.range info.commands.size).forM fun slot =>
    addBatchCall ⟨list, info.epoch, slot⟩ queue anchor
  return info.commands.size

def removePending (index : Nat) : Fallible Registry Call := fun r =>
  match r.pending[index]? with
  | some call => .ok call { r with pending := r.pending.eraseIdx index }
  | none => .error (.removalOutOfBounds index r.pending.length) r

/-! ## Kernels and images -/

def setGroupSize (r : Registry) (kernel : KernelHandle) (size : Dims) : Registry :=
  { r with groupSizes := r.groupSizes.insert kernel size }

def removeGroupSize (r : Registry) (kernel : KernelHandle) : Registry :=
  { r with groupSizes := r.groupSizes.erase kernel }

/-- Notes the size of a new image. A second size under one handle replaces the
first one before it is refused. -/
def addImage (image : ImageHandle) (size : UInt64) : Fallible Registry Unit := fun r =>
  let r' := { r with imageSizes := r.imageSizes.insert image size }
  if r.imageSizes.contains image then .error (.imageRegisteredTwice image) r' else .ok () r'

def removeImage (image : ImageHandle) : Fallible Registry Unit := fun r =>
  if r.imageSizes.contains image then
    .ok () { r with imageSizes := r.imageSizes.erase image }
  else .error (.imageNotRegistered image) r

end Registry

end GpuTrace
