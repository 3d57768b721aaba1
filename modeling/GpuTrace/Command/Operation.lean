import GpuTrace.Command.Props
import GpuTrace.Driver.Memory

/-!
# Operations that can be appended to a command list

Kernel launches take their name from the driver; every other operation has a
fixed label.
-/

namespace GpuTrace

inductive Operation
  | launchKernel (kernel : KernelHandle) (groupCount : Option Dims)
  | launchCooperativeKernel (kernel : KernelHandle) (groupCount : Option Dims)
  /-- The launch arguments live in device memory. -/
  | launchKernelIndirect (kernel : KernelHandle)
  | memoryCopy (size : UInt64)
  | memoryFill (size : UInt64)
  | memoryCopyRegion (region : Option Region) (pitch : UInt64)
  | memoryCopyFromContext (size : UInt64)
  | barrier
  | memoryRangesBarrier
  | imageCopy (source : ImageHandle)
  | imageCopyRegion (source : ImageHandle)
  | imageCopyToMemory (source : ImageHandle)
  | imageCopyFromMemory (region : Option Region)
  deriving DecidableEq

namespace Operation

/-- Fixed label of an operation that launches no kernel. -/
def label? : Operation → Option String
  | .launchKernel .. | .launchCooperativeKernel .. | .launchKernelIndirect .. => none
  | .memoryCopy _ => some "zeCommandListAppendMemoryCopy"
  | .memoryFill _ => some "zeCommandListAppendMemoryFill"
  | .memoryCopyRegion .. => some "zeCommandListAppendMemoryCopyRegion"
  | .memoryCopyFromContext _ => some "zeCommandListAppendMemoryCopyFromContext"
  | .barrier => some "zeCommandListAppendBarrier"
  | .memoryRangesBarrier => some "zeCommandListAppendMemoryRangesBarrier"
  | .imageCopy _ => some "zeCommandListAppendImageCopy"
  | .imageCopyRegion _ => some "zeCommandListAppendImageCopyRegion"
  | .imageCopyToMemory _ => some "zeCommandListAppendImageCopyToMemory"
  | .imageCopyFromMemory _ => some "zeCommandListAppendImageCopyFromMemory"

/-- What an operation works on: a kernel that it launches, or a transfer. -/
inductive Subject
  | kernel (kernel : KernelHandle) (groupCount : Option Dims)
  | transfer (label : String) (bytes : Except Fault UInt64)

/-- Splits launches from transfers; `imageSize` answers for images. -/
def subject (op : Operation) (imageSize : ImageHandle → UInt64) : Subject :=
  let moving (bytes : Except Fault UInt64) : Subject :=
    .transfer (op.label?.getD "unknown") bytes
  match op with
  | .launchKernel kernel count | .launchCooperativeKernel kernel count => .kernel kernel count
  | .launchKernelIndirect kernel => .kernel kernel none
  | .memoryCopy size | .memoryFill size | .memoryCopyFromContext size => moving (.ok size)
  | .memoryCopyRegion region pitch =>
    moving (match region with
      | some r => r.bufferBytes pitch
      | none => .ok 0)
  | .barrier | .memoryRangesBarrier => moving (.ok 0)
  | .imageCopy source | .imageCopyRegion source | .imageCopyToMemory source =>
    moving (.ok (imageSize source))
  | .imageCopyFromMemory region =>
    moving (match region with
      | some r => r.imageBytes
      | none => .ok 0)

end Operation

end GpuTrace
