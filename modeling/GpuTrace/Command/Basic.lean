import GpuTrace.Clock.Anchor
import GpuTrace.Command.Props

/-!
# Commands and calls

A command is one operation appended to a command list. Every submission of the
list to a queue makes one call of each of its commands; an immediate list makes
exactly one call as the operation is appended.

A command is referred to by its list, an epoch and a slot. The epoch of a list
changes whenever its commands are freed, so a reference that outlived them is
noticed and never taken for a newer command.
-/

namespace GpuTrace

/-- The event that signals a command, and who has to destroy it. -/
inductive SignalEvent
  /-- Made by the tracer, in a pool of its own, and destroyed with the command. -/
  | owned (pool : EventPoolHandle) (event : EventHandle)
  /-- Supplied by the application, and never destroyed here. -/
  | borrowed (event : EventHandle)
  deriving DecidableEq

namespace SignalEvent

def event : SignalEvent → EventHandle
  | .owned _ event | .borrowed event => event

def isOwned : SignalEvent → Bool
  | .owned .. => true
  | .borrowed _ => false

end SignalEvent

structure Command where
  props : Props
  signal : SignalEvent
  device : DeviceHandle
  /-- Number over all lists, given on registration; zero before. -/
  kernelId : Nat
  /-- Host time of the append. -/
  appendTime : UInt64
  /-- Frequency of the device timer at the append. -/
  frequency : UInt64
  /-- Calls made so far. -/
  callCount : Nat
  deriving DecidableEq

namespace Command

def of (props : Props) (signal : SignalEvent) (device : DeviceHandle)
    (appendTime frequency : UInt64) : Except Fault Command :=
  if frequency = 0 then .error .zeroFrequency
  else .ok ⟨props, signal, device, 0, appendTime, frequency, 0⟩

def event (c : Command) : EventHandle :=
  c.signal.event

end Command

structure CommandRef where
  list : CommandListHandle
  epoch : Nat
  slot : Nat
  deriving DecidableEq

/-- One submission of a command. -/
structure Call where
  command : CommandRef
  queue : QueueHandle
  anchor : SubmitAnchor
  /-- Number among the calls of the command, from one on; zero before it is queued. -/
  callId : Nat
  deriving DecidableEq

namespace Call

def of (command : CommandRef) (queue : QueueHandle) (anchor : SubmitAnchor) : Call :=
  ⟨command, queue, anchor, 0⟩

end Call

end GpuTrace
