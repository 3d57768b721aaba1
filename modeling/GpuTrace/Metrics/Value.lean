/-!
# Counter values

A sampling engine writes each counter as a value of one of five types. Floating
point values are kept as their bits, so that two values are equal exactly when
the engine wrote the same thing.
-/

namespace GpuTrace.Metrics

inductive Value
  | word32 (n : UInt32)
  | word64 (n : UInt64)
  /-- Single precision, by its bits. -/
  | single (bits : UInt32)
  /-- Double precision, by its bits. -/
  | double (bits : UInt64)
  | flag (b : Bool)
  deriving DecidableEq

/-- The values of all columns of one sample, in the order of its schema. -/
abbrev Report := List Value

namespace Value

/-- Times and clock counts must be 64-bit integers. -/
def word64? : Value → Option UInt64
  | .word64 n => some n
  | _ => none

/-- An integer of either width. -/
def integer? : Value → Option UInt64
  | .word32 n => some n.toUInt64
  | .word64 n => some n
  | _ => none

/-- A floating point value of either precision, as a double. -/
def real? : Value → Option Float
  | .single bits => some (Float32.ofBits bits).toFloat
  | .double bits => some (Float.ofBits bits)
  | _ => none

end Value

end GpuTrace.Metrics
