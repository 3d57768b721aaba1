import GpuTrace.Handle

/-!
# Driver errors

A driver call that fails answers with its own name and a signed status code.
-/

namespace GpuTrace

structure DriverError where
  /-- Name of the failing call. -/
  call : String
  /-- Raw status code. -/
  code : Int32
  deriving DecidableEq

namespace DriverError

/-- The code is shown as the unsigned number with the same 32 bits. -/
def message (e : DriverError) : String :=
  s!"{e.call} failed with status {hexText e.code.toUInt32.toNat}"

end DriverError

end GpuTrace
