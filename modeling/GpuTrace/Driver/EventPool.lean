/-!
# Event pools

Events come from pools, and the flags of a pool decide what its events can do.
Tracing needs events that the host can see and that carry kernel timestamps;
pools shared between processes can not have timestamps and are left alone.
-/

namespace GpuTrace

/-- Properties of the events of a pool, one bit each. -/
structure PoolFlags where
  bits : UInt32
  deriving DecidableEq

namespace PoolFlags

def hostVisible : UInt32 := 1

def interProcess : UInt32 := 2

def kernelTimestamp : UInt32 := 4

def contains (flags : PoolFlags) (flag : UInt32) : Bool :=
  flags.bits &&& flag == flag

def adding (flags : PoolFlags) (flag : UInt32) : PoolFlags :=
  ⟨flags.bits ||| flag⟩

end PoolFlags

structure PoolDesc where
  flags : PoolFlags
  /-- Number of events. -/
  count : UInt32
  deriving DecidableEq

namespace PoolDesc

/-- The least that records kernel timestamps: one event that the host can see. -/
def profiling : PoolDesc :=
  ⟨⟨PoolFlags.kernelTimestamp ||| PoolFlags.hostVisible⟩, 1⟩

/-- An application's pool with timestamps added, unless it is shared. -/
def traced? (desc : PoolDesc) : Option PoolDesc :=
  if desc.flags.contains PoolFlags.interProcess then none
  else
    some { desc with
      flags := (desc.flags.adding PoolFlags.kernelTimestamp).adding PoolFlags.hostVisible }

end PoolDesc

end GpuTrace
