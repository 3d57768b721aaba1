import GpuTrace.Fault

/-!
# Properties of an operation

What is known of an operation when it is appended: its name, and either its SIMD
width, group count and group size, or the bytes that it moves. `displayName` is
the name that its statistics are kept under.
-/

namespace GpuTrace

structure Dims where
  x : UInt32
  y : UInt32
  z : UInt32
  deriving DecidableEq

namespace Dims

def zero : Dims := ⟨0, 0, 0⟩

instance : Inhabited Dims := ⟨zero⟩

def text (d : Dims) : String :=
  s!"\x7b{d.x.toNat}; {d.y.toNat}; {d.z.toNat}\x7d"

end Dims

structure Props where
  /-- Kernel name or fixed label of the operation. -/
  name : String
  /-- Widest sub-group of a kernel; zero for transfers and barriers. -/
  simdWidth : UInt32
  /-- Bytes moved; zero for kernels and barriers. -/
  bytes : UInt64
  groupCount : Dims
  groupSize : Dims
  deriving DecidableEq

namespace Props

/-- A kernel launch; the group count may live in device memory and be unknown. -/
def kernel (name : String) (simdWidth : UInt32) (groupSize : Dims) (groupCount : Option Dims) :
    Props :=
  ⟨name, simdWidth, 0, groupCount.getD Dims.zero, groupSize⟩

/-- A transfer, or a barrier, which moves nothing. -/
def transfer (label : String) (bytes : UInt64) : Props :=
  ⟨label, 0, bytes, Dims.zero, Dims.zero⟩

def suffix (p : Props) : String :=
  if 0 < p.simdWidth then
    s!"[SIMD{p.simdWidth.toNat} {p.groupCount.text} {p.groupSize.text}]"
  else if 0 < p.bytes then s!"[{p.bytes.toNat} bytes]"
  else ""

def displayName (p : Props) (verbose : Bool) : Except Fault String :=
  if p.name.isEmpty then .error .emptyName
  else .ok (if verbose then p.name ++ p.suffix else p.name)

end Props

end GpuTrace
