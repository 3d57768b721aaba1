import GpuTrace.Decimal.Binary

/-!
# Shortest decimals that read back

Among the decimals that round to a given binary fraction, `shortest` picks one
with the fewest digits, and of those the one nearest to the fraction.

The reals that round to `m · 2 ^ q` reach half way to its neighbours, ends
included exactly if `m` is even. On the grid of decimals with `n` digits only
the two points next to the fraction need a test: if any point of the grid lies
in the interval, one of these does. The grids are tried from coarse to fine, in
exact arithmetic on natural numbers.
-/

namespace GpuTrace.Decimal

/-- Which of two equally near decimals is taken. -/
inductive Tie
  | toEven
  | away
  deriving DecidableEq, Repr

/-- `digits` with a point after the first one, times `10 ^ exponent`. -/
structure Scientific where
  digits : List Char
  exponent : Int
  deriving DecidableEq

def digitCount (n : Nat) : Nat :=
  (Nat.toDigits 10 n).length

/-- The `e` with `10 ^ e ≤ num / den < 10 ^ (e + 1)`, for positive arguments. -/
def decimalExponent (num den : Nat) : Int :=
  let k : Int := (digitCount num : Int) - digitCount den
  if den * Nat.pow 10 k.toNat ≤ num * Nat.pow 10 (-k).toNat then k else k - 1

/-- A quotient and the distances to the two ends of the interval around it, over
a common denominator. -/
structure Interval where
  center : Nat
  below : Nat
  above : Nat
  unit : Nat
  closed : Bool

namespace Interval

def holds (i : Interval) (d : Nat) : Bool :=
  if i.closed then
    i.center ≤ d * i.unit + i.below && d * i.unit ≤ i.center + i.above
  else
    i.center < d * i.unit + i.below && d * i.unit < i.center + i.above

/-- The natural number next to the center that lies in the interval: the nearer
one if both do. -/
def pick? (tie : Tie) (i : Interval) : Option Nat :=
  let low := i.center / i.unit
  let rest := i.center % i.unit
  if rest = 0 then some low
  else
    match i.holds low, i.holds (low + 1) with
    | true, true =>
      if 2 * rest < i.unit then some low
      else if i.unit < 2 * rest then some (low + 1)
      else
        match tie with
        | .toEven => some (if low % 2 = 0 then low else low + 1)
        | .away => some (low + 1)
    | true, false => some low
    | false, true => some (low + 1)
    | false, false => none

end Interval

namespace BinaryFraction

/-- Numerator and denominator of `4 · mantissa · 2 ^ (exponent - 2)`. -/
def quotient (x : BinaryFraction) : Nat × Nat :=
  (4 * x.mantissa * Nat.pow 2 (x.exponent - 2).toNat, Nat.pow 2 (2 - x.exponent).toNat)

/-- The reals that round to `x`, in units of `10 ^ e`. -/
def interval (x : BinaryFraction) (e : Int) : Interval :=
  let quarter := Nat.pow 2 (x.exponent - 2).toNat * Nat.pow 10 (-e).toNat
  { center := 4 * x.mantissa * quarter
    below := (if x.narrowBelow then 1 else 2) * quarter
    above := 2 * quarter
    unit := Nat.pow 2 (2 - x.exponent).toNat * Nat.pow 10 e.toNat
    closed := x.mantissa % 2 == 0 }

def dropZeros (digits : List Char) : List Char :=
  (digits.reverse.dropWhile (· == '0')).reverse

def scientific (d : Nat) (e : Int) : Scientific :=
  let digits := Nat.toDigits 10 d
  ⟨dropZeros digits, e + (digits.length - 1 : Nat)⟩

/-- Tries `n`, `n + 1`, … digits, `fuel` grids at most; `top` is the exponent of
the first digit. -/
def shortestFrom (tie : Tie) (x : BinaryFraction) (top : Int) : Nat → Nat → Option Scientific
  | 0, _ => none
  | fuel + 1, n =>
    let e := top + 1 - (n : Int)
    match (x.interval e).pick? tie with
    | some d => some (scientific d e)
    | none => shortestFrom tie x top fuel (n + 1)

/-- No format here needs more digits than this. -/
def mostDigits : Nat := 17

/-- The shortest decimal that reads back as `x`, nearest to `x` among those. -/
def shortest (tie : Tie) (x : BinaryFraction) : Scientific :=
  if x.mantissa = 0 then ⟨['0'], 0⟩
  else
    let (num, den) := x.quotient
    (shortestFrom tie x (decimalExponent num den) mostDigits 1).getD ⟨['0'], 0⟩

end BinaryFraction

end GpuTrace.Decimal
