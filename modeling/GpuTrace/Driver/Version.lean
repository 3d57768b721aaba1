/-!
# Driver versions and back ends

The tracing layer exists on every driver but version 1.0. Versions are ordered
by major, then minor number.
-/

namespace GpuTrace

structure ApiVersion where
  major : UInt32
  minor : UInt32
  deriving DecidableEq

namespace ApiVersion

/-- The tracing layer is missing from version 1.0 only. -/
def supportsTracing (v : ApiVersion) : Bool :=
  v != ⟨1, 0⟩

instance : Ord ApiVersion where
  compare a b := (compare a.major b.major).then (compare a.minor b.minor)

end ApiVersion

inductive Backend
  /-- Asynchronous command lists and queues. -/
  | computeDriver
  /-- An older runtime with the same submission model. -/
  | legacyRuntime
  deriving DecidableEq, Repr

namespace Backend

def name : Backend → String
  | .computeDriver => "compute-driver"
  | .legacyRuntime => "legacy-runtime"

def ofName? : String → Option Backend
  | "compute-driver" => some .computeDriver
  | "legacy-runtime" => some .legacyRuntime
  | _ => none

def label : Backend → String
  | .computeDriver => "ComputeDriver"
  | .legacyRuntime => "LegacyRuntime"

@[simp] theorem ofName?_name (b : Backend) : ofName? b.name = some b := by
  cases b <;> rfl

end Backend

end GpuTrace
