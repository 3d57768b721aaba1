import GpuTrace.Fault

/-!
# Checked arithmetic on 64-bit quantities

Times, tick counts, byte counts and call counts are 64-bit words. A result that
does not fit is a fault. Each operation succeeds exactly when the result of the
same operation on natural numbers fits: `add_eq_ok_iff`, `sub_eq_ok_iff`,
`mul_eq_ok_iff`.
-/

namespace GpuTrace.Checked

def add (a b : UInt64) : Except Fault UInt64 :=
  if a.toNat + b.toNat < UInt64.size then .ok (a + b) else .error .addOverflow

def sub (a b : UInt64) : Except Fault UInt64 :=
  if b ≤ a then .ok (a - b) else .error .subOverflow

def mul (a b : UInt64) : Except Fault UInt64 :=
  if a.toNat * b.toNat < UInt64.size then .ok (a * b) else .error .mulOverflow

/-- Adds from the left and stops at the first sum that does not fit. -/
def sum (xs : List UInt64) : Except Fault UInt64 :=
  xs.foldlM add 0

theorem add_eq_ok_iff {a b c : UInt64} :
    add a b = .ok c ↔ a.toNat + b.toNat = c.toNat := by
  unfold add
  split
  case isTrue h =>
    rw [Except.ok.injEq]
    constructor
    · rintro rfl
      simp [UInt64.toNat_add, Nat.mod_eq_of_lt h]
    · intro hc
      apply UInt64.toNat.inj
      rw [UInt64.toNat_add, Nat.mod_eq_of_lt h, hc]
  case isFalse h =>
    have hlt := c.toNat_lt_size
    constructor
    · intro hc
      cases hc
    · intro hc
      omega

theorem sub_eq_ok_iff {a b c : UInt64} :
    sub a b = .ok c ↔ a.toNat = b.toNat + c.toNat := by
  unfold sub
  split
  case isTrue h =>
    have h' : b.toNat ≤ a.toNat := UInt64.le_iff_toNat_le.mp h
    rw [Except.ok.injEq]
    constructor
    · rintro rfl
      rw [UInt64.toNat_sub_of_le _ _ h]
      omega
    · intro hc
      apply UInt64.toNat.inj
      rw [UInt64.toNat_sub_of_le _ _ h]
      omega
  case isFalse h =>
    have h' : ¬ b.toNat ≤ a.toNat := fun hle => h (UInt64.le_iff_toNat_le.mpr hle)
    constructor
    · intro hc
      cases hc
    · intro hc
      omega

theorem mul_eq_ok_iff {a b c : UInt64} :
    mul a b = .ok c ↔ a.toNat * b.toNat = c.toNat := by
  unfold mul
  split
  case isTrue h =>
    rw [Except.ok.injEq]
    constructor
    · rintro rfl
      simp [UInt64.toNat_mul, Nat.mod_eq_of_lt h]
    · intro hc
      apply UInt64.toNat.inj
      rw [UInt64.toNat_mul, Nat.mod_eq_of_lt h, hc]
  case isFalse h =>
    have hlt := c.toNat_lt_size
    constructor
    · intro hc
      cases hc
    · intro hc
      omega

end GpuTrace.Checked
