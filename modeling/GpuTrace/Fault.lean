import GpuTrace.Driver.Error
import GpuTrace.Metrics.Value

/-!
# Faults — violated contracts that stop an operation

Going on after one of these would corrupt timing data, so the operation ends
where it stands and the state keeps what was done up to that point. `Fallible`
is a step on a state with exactly this reading: a fault carries the state too.
-/

namespace GpuTrace

open Metrics (Value)

/-- Why an operation had to stop. -/
inductive Fault
  | addOverflow
  | subOverflow
  | mulOverflow
  /-- A device timer runs at no ticks per second. -/
  | zeroFrequency
  /-- Kernel ticks that no single timer wrap explains. -/
  | manyWraps (start stop : UInt64)
  /-- A kernel that started no later than it was submitted. -/
  | clockNotMonotonic (start submit : UInt64)
  /-- A host time that is not after the synchronization point. -/
  | beforeSync (timestamp hostSync : UInt64)
  | emptyName
  | listNotRegistered (list : CommandListHandle)
  | listRegisteredTwice (list : CommandListHandle)
  /-- Teardown of a list with calls that have not completed. -/
  | listInUse (list : CommandListHandle)
  /-- Batch submission of a list whose operations already ran. -/
  | immediateBatch (list : CommandListHandle)
  /-- A batch whose anchor is older than one of its commands. -/
  | batchBeforeAppend
  /-- A completed call that was submitted before its command was appended. -/
  | callBeforeAppend (kernelId : Nat)
  /-- A reference into a list that was reset or destroyed since. -/
  | freedCommand (list : CommandListHandle) (current referred : Nat)
  | indexOutOfBounds (size index : Nat)
  | removalOutOfBounds (index size : Nat)
  | imageRegisteredTwice (image : ImageHandle)
  | imageNotRegistered (image : ImageHandle)
  | deviceMappedTwice (device : DeviceHandle)
  | deviceNotMapped (device : DeviceHandle)
  | unexpectedStatus (event : EventHandle) (error : DriverError)
  | timestampUnavailable (error : DriverError)
  | noSuchDevice (device : DeviceHandle)
  | noSuchEvent (event : EventHandle)
  | noSuchKernel (kernel : KernelHandle)
  /-- A schema whose lists of names and kinds differ in length. -/
  | schemaMismatch (names kinds : Nat)
  /-- Reports for a sub-device that the source does not know. -/
  | unknownSubDevice (id : Nat)
  | reportWidth (actual expected : Nat)
  | emptyReport
  | timeColumnOutside
  | reversedWindow (start stop : UInt64)
  /-- A chunk that ends with part of a report. -/
  | partialReport (rest : Nat)
  | timeNotWord64 (value : Value)
  | clocksNotWord64 (value : Value)
  | nothingToSum
  | nothingToAverage
  | zeroClocks
  | mixedTypes (column : Nat) (value : Value)
  | flagSum (column : Nat)
  | flagAverage (column : Nat)
  | schemaMissing (subDevice : Nat)
  | notSampled (subDevice : Nat)
  /-- An environment variable with a NUL character. -/
  | variableWithNul (name : String) (value : List UInt8)
  /-- An environment variable whose name is empty or holds an equals sign. -/
  | variableName (name : String) (value : List UInt8)
  deriving DecidableEq

/-- A step on a state that may stop with a fault and keeps the state it reached. -/
abbrev Fallible (σ : Type) := EStateM Fault σ

/-- A calculation without state, run inside a step. -/
instance {σ : Type} : MonadLift (Except Fault) (Fallible σ) where
  monadLift
    | .ok a => fun s => .ok a s
    | .error e => fun s => .error e s

end GpuTrace
