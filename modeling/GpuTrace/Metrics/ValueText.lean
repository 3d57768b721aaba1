import GpuTrace.Decimal.Layout
import GpuTrace.Metrics.Value

/-!
# Written forms of counter values

`text` is the bare number for listings; `tagged` names the type too, for
messages about values of the wrong type. Both use the shortest digits that read
back in the value's own width, and take the larger of two equally near decimals.
-/

namespace GpuTrace.Metrics

open Decimal (Layout)

/-- Listings never use an exponent and keep whole numbers whole. -/
def listingLayout : Layout where
  tie := .away
  positional := fun _ => true
  keepsFraction := false
  signsExponent := false

/-- Messages use an exponent from `10 ^ 16` upwards and below `10 ^ -4`, and keep
a fraction otherwise. -/
def messageLayout : Layout where
  tie := .away
  positional := fun e => -4 ≤ e && e < 16
  keepsFraction := true
  signsExponent := false

namespace Value

def realText (layout : Layout) : Value → Option String
  | .single bits => some (layout.text (Decimal.single.decode bits.toNat))
  | .double bits => some (layout.text (Decimal.double.decode bits.toNat))
  | _ => none

/-- The bare value; a flag is written as a number. -/
def text (v : Value) : String :=
  match v with
  | .word32 n => toString n.toNat
  | .word64 n => toString n.toNat
  | .flag b => if b then "1" else "0"
  | .single _ | .double _ => (v.realText listingLayout).getD ""

def tagged (v : Value) : String :=
  match v with
  | .word32 n => s!"U32({n.toNat})"
  | .word64 n => s!"U64({n.toNat})"
  | .flag b => s!"Bool8({b})"
  | .single _ => "F32(" ++ (v.realText messageLayout).getD "" ++ ")"
  | .double _ => "F64(" ++ (v.realText messageLayout).getD "" ++ ")"

end Value

end GpuTrace.Metrics
