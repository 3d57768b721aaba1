/-!
# Handles — opaque numbers for a driver's objects

A driver names its contexts, devices, command lists, queues, events, pools,
kernels, images and tracers by numbers. The kind of object is part of the type,
so a number of one kind never stands for an object of another.

`hexText` is the written form: `0x` and lower-case digits without padding.
-/

namespace GpuTrace

inductive HandleKind
  | context
  | device
  | commandList
  | queue
  | event
  | eventPool
  | kernel
  | image
  | tracer
  deriving DecidableEq, Repr

/-- An opaque object of the driver. -/
structure Handle (kind : HandleKind) where
  raw : Nat
  deriving DecidableEq, Repr

abbrev ContextHandle := Handle .context

abbrev DeviceHandle := Handle .device

abbrev CommandListHandle := Handle .commandList

abbrev QueueHandle := Handle .queue

abbrev EventHandle := Handle .event

abbrev EventPoolHandle := Handle .eventPool

abbrev KernelHandle := Handle .kernel

abbrev ImageHandle := Handle .image

abbrev TracerHandle := Handle .tracer

/-- Hexadecimal with `0x` in front, lower case, no padding. -/
def hexText (n : Nat) : String :=
  "0x" ++ String.ofList (Nat.toDigits 16 n)

namespace Handle

variable {kind : HandleKind}

def text (h : Handle kind) : String :=
  hexText h.raw

/-- An immediate list runs its operations as they are appended, so the list
itself stands for the queue of its calls. -/
def asQueue (list : CommandListHandle) : QueueHandle :=
  ⟨list.raw⟩

@[simp] theorem raw_asQueue (list : CommandListHandle) : list.asQueue.raw = list.raw := rfl

end Handle

end GpuTrace
