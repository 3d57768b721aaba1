import GpuTrace.Decimal.Binary

/-!
# Fixed places

A binary fraction is written with a given number of decimal places by rounding
its exact value; a value half way between two goes to the even one. `roundDiv`
is within half a unit of the quotient (`two_mul_roundDiv_le`,
`le_two_mul_roundDiv`).
-/

namespace GpuTrace.Decimal

/-- The natural number nearest to `num / den`, the even one of two. -/
def roundDiv (num den : Nat) : Nat :=
  let low := num / den
  let rest := num % den
  if 2 * rest < den then low
  else if den < 2 * rest then low + 1
  else if low % 2 = 0 then low else low + 1

theorem two_mul_roundDiv_le {num den : Nat} :
    2 * (den * roundDiv num den) ≤ 2 * num + den := by
  have h := Nat.div_add_mod num den
  unfold roundDiv
  simp only
  split
  · omega
  · split
    · rw [Nat.mul_add]
      omega
    · split
      · omega
      · rw [Nat.mul_add]
        omega

theorem le_two_mul_roundDiv {num den : Nat} (hden : 0 < den) :
    2 * num ≤ 2 * (den * roundDiv num den) + den := by
  have h := Nat.div_add_mod num den
  have hlt := Nat.mod_lt num hden
  unfold roundDiv
  simp only
  split
  · omega
  · split
    · rw [Nat.mul_add]
      omega
    · split
      · omega
      · rw [Nat.mul_add]
        omega

/-- `n` units of `10 ^ -places` in positional notation. -/
def setPlaces (places n : Nat) : List Char :=
  let digits := Nat.toDigits 10 n
  let padded := List.replicate (places + 1 - digits.length) '0' ++ digits
  padded.take (padded.length - places) ++
    (if places = 0 then [] else '.' :: padded.drop (padded.length - places))

def fixedText (places : Nat) : Decoded → String
  | .nan => "NaN"
  | .infinite negative => if negative then "-inf" else "inf"
  | .finite negative x =>
    let num := x.mantissa * Nat.pow 2 x.exponent.toNat * Nat.pow 10 places
    let den := Nat.pow 2 (-x.exponent).toNat
    String.ofList
      ((if negative then ['-'] else []) ++ setPlaces places (roundDiv num den))

end GpuTrace.Decimal
