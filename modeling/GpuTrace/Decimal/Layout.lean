import GpuTrace.Decimal.Shortest

/-!
# Layout — how the digits of a decimal are set

A `Layout` states a format's decisions: which exponents are written in
positional notation, whether a whole number keeps a fraction, whether a positive
exponent carries a sign, and which of two equally near decimals is taken.
-/

namespace GpuTrace.Decimal

structure Layout where
  tie : Tie
  /-- Exponents of the first digit that are written positionally. -/
  positional : Int → Bool
  /-- Whole numbers in positional notation end in `.0`. -/
  keepsFraction : Bool
  /-- Positive exponents carry a plus sign. -/
  signsExponent : Bool

namespace Layout

/-- Digits `ds` read as `0.ds · 10 ^ point`, without an exponent. -/
def setPositional (l : Layout) (ds : List Char) (point : Int) : List Char :=
  if point ≤ 0 then
    '0' :: '.' :: List.replicate (-point).toNat '0' ++ ds
  else if ds.length ≤ point.toNat then
    ds ++ List.replicate (point.toNat - ds.length) '0' ++
      (if l.keepsFraction then ['.', '0'] else [])
  else
    ds.take point.toNat ++ '.' :: ds.drop point.toNat

def setExponent (l : Layout) (e : Int) : List Char :=
  let sign := if e < 0 then ['-'] else if l.signsExponent then ['+'] else []
  'e' :: sign ++ Nat.toDigits 10 e.natAbs

def setScientific (l : Layout) (s : Scientific) : List Char :=
  match s.digits with
  | [] => []
  | [d] => d :: setExponent l s.exponent
  | d :: ds => d :: '.' :: ds ++ setExponent l s.exponent

def set (l : Layout) (s : Scientific) : List Char :=
  if s.digits = ['0'] then l.setPositional s.digits 1
  else if l.positional s.exponent then l.setPositional s.digits (s.exponent + 1)
  else l.setScientific s

/-- Text of a decoded number; zero keeps its sign. -/
def text (l : Layout) : Decoded → String
  | .nan => "NaN"
  | .infinite negative => if negative then "-inf" else "inf"
  | .finite negative x =>
    String.ofList ((if negative then ['-'] else []) ++ l.set (x.shortest l.tie))

end Layout

end GpuTrace.Decimal
