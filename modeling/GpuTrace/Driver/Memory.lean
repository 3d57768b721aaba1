import GpuTrace.Checked

/-!
# Images and regions

Byte sizes of images and of the regions that copies move. Every product is
checked from left to right.
-/

namespace GpuTrace

inductive ImageShape
  | line
  | lineArray
  | plane
  | planeArray
  | volume
  | buffer
  deriving DecidableEq, Repr

inductive ImageFormat
  | uint
  | sint
  | unorm
  | snorm
  | float
  deriving DecidableEq, Repr

namespace ImageFormat

/-- Bytes per element; every format here takes one 32-bit word. -/
def elementSize : ImageFormat → UInt64
  | .uint | .unorm => 4
  | .sint | .snorm => 4
  | .float => 4

end ImageFormat

structure ImageDesc where
  shape : ImageShape
  format : ImageFormat
  width : UInt64
  height : UInt32
  depth : UInt32
  deriving DecidableEq

namespace ImageDesc

/-- Number of elements; dimensions that the shape does not have are ignored. -/
def elements (d : ImageDesc) : Except Fault UInt64 :=
  match d.shape with
  | .plane | .planeArray => Checked.mul d.width d.height.toUInt64
  | .volume => do
    Checked.mul (← Checked.mul d.width d.height.toUInt64) d.depth.toUInt64
  | .line | .lineArray | .buffer => .ok d.width

def byteSize (d : ImageDesc) : Except Fault UInt64 := do
  Checked.mul (← d.elements) d.format.elementSize

end ImageDesc

/-- A box to copy; depth zero means that it has two dimensions. -/
structure Region where
  width : UInt64
  height : UInt64
  depth : UInt64
  deriving DecidableEq

namespace Region

def timesDepth (r : Region) (bytes : UInt64) : Except Fault UInt64 :=
  if r.depth = 0 then .ok bytes else Checked.mul bytes r.depth

/-- Bytes moved by a buffer copy whose rows are `pitch` bytes apart. -/
def bufferBytes (r : Region) (pitch : UInt64) : Except Fault UInt64 := do
  r.timesDepth (← Checked.mul (← Checked.mul r.width r.height) pitch)

def imageBytes (r : Region) : Except Fault UInt64 := do
  r.timesDepth (← Checked.mul r.width r.height)

end Region

end GpuTrace
