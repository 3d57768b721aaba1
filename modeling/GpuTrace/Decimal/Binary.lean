/-!
# Binary fractions — what the bits of a floating point number stand for

A format has a number of significand bits and of exponent bits. `decode` reads
the bits of a number as a sign and `mantissa · 2 ^ exponent`, or as infinity, or
as no number at all.
-/

namespace GpuTrace.Decimal

structure BinaryFormat where
  significandBits : Nat
  exponentBits : Nat

def single : BinaryFormat := ⟨23, 8⟩

def double : BinaryFormat := ⟨52, 11⟩

/-- A positive or zero number `mantissa · 2 ^ exponent`. -/
structure BinaryFraction where
  mantissa : Nat
  exponent : Int
  /-- The next smaller number is only half as far away as the next larger one. -/
  narrowBelow : Bool
  deriving DecidableEq

inductive Decoded
  | nan
  | infinite (negative : Bool)
  | finite (negative : Bool) (magnitude : BinaryFraction)
  deriving DecidableEq

namespace BinaryFormat

/-- Exponent of the last place of the smallest numbers. -/
def leastExponent (f : BinaryFormat) : Int :=
  2 - (Nat.pow 2 (f.exponentBits - 1) : Int) - f.significandBits

/-- Reads sign, exponent and significand fields. Exponent zero has no hidden bit
and shares its scale with exponent one. -/
def decode (f : BinaryFormat) (bits : Nat) : Decoded :=
  let significand := bits % Nat.pow 2 f.significandBits
  let exponent := bits / Nat.pow 2 f.significandBits % Nat.pow 2 f.exponentBits
  let negative := bits / Nat.pow 2 (f.significandBits + f.exponentBits) % 2 == 1
  if exponent = Nat.pow 2 f.exponentBits - 1 then
    if significand = 0 then .infinite negative else .nan
  else if exponent = 0 then
    .finite negative ⟨significand, f.leastExponent, false⟩
  else
    .finite negative
      ⟨Nat.pow 2 f.significandBits + significand, f.leastExponent + (exponent - 1 : Nat),
        significand == 0 && exponent != 1⟩

end BinaryFormat

def decodeFloat (x : Float) : Decoded :=
  double.decode x.toBits.toNat

def decodeFloat32 (x : Float32) : Decoded :=
  single.decode x.toBits.toNat

end GpuTrace.Decimal
