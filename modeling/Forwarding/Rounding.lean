/-! Rounding, with powers that are those of the core library, whatever else is imported. -/

set_option autoImplicit false

namespace Forwarding

variable {α : Type}

@[default_instance 20000]
instance (priority := 20000) corePower [NatPow α] : Pow α Nat := instPowNat

end Forwarding

/-! Rounding to the nearest number, and to the numbers that have 53 significant bits.

Of two numbers that are equally near the even one is taken. Numbers of 53 bits are those of ordinary
floating-point arithmetic, as long as they are not too large for it.
-/

namespace Forwarding.Rounding

/-- The nearest natural number to a quotient, the even one of two. -/
def nearest (numerator denominator : Nat) : Nat :=
  let quotient := numerator / denominator
  let twice := 2 * (numerator % denominator)
  if twice < denominator then quotient
  else if denominator < twice then quotient + 1
  else quotient + quotient % 2

/-- The number of 53 significant bits that is nearest to a number. -/
def toBits (n : Nat) : Nat :=
  let scale := 2 ^ (Nat.log2 n - 52)
  nearest n scale * scale

/-- The number as ordinary floating-point arithmetic has it, unless it is too large. -/
def toFloating? (n : Nat) : Option Nat :=
  if toBits n < 2 ^ 1024 then some (toBits n) else none

theorem nearest_one (n : Nat) : nearest n 1 = n := by
  simp [nearest, Nat.mod_one]

/-- Numbers below 2 ^ 53 have 53 bits already. -/
theorem toBits_eq_self {n : Nat} (h : Nat.log2 n ≤ 52) : toBits n = n := by
  simp [toBits, Nat.sub_eq_zero_of_le h, nearest_one]

end Forwarding.Rounding
