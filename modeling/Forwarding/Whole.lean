import Forwarding.Rounding

/-! Whole numbers as rows of bits without an end to the left, and powers of them modulo a number.

A negative number is the complement of the number that is one less than its size, so that all bits far to
the left are set.
-/

set_option autoImplicit false

namespace Forwarding.Whole

/-- The number with all bits changed. -/
def complement (n : Int) : Int := -n - 1

/-- The bits that both numbers have. -/
def conjunction (a b : Int) : Int :=
  match a, b with
  | .ofNat m, .ofNat n => (m &&& n : Nat)
  | .ofNat m, .negSucc n => (m - (m &&& n) : Nat)
  | .negSucc m, .ofNat n => (n - (n &&& m) : Nat)
  | .negSucc m, .negSucc n => .negSucc (m ||| n)

/-- The bits that one of two numbers has, or both. -/
def disjunction (a b : Int) : Int := complement (conjunction (complement a) (complement b))

/-- The bits that exactly one of two numbers has. -/
def exclusion (a b : Int) : Int :=
  match a, b with
  | .ofNat m, .ofNat n => (m ^^^ n : Nat)
  | .ofNat m, .negSucc n => .negSucc (m ^^^ n)
  | .negSucc m, .ofNat n => .negSucc (m ^^^ n)
  | .negSucc m, .negSucc n => (m ^^^ n : Nat)

/-- How many bits a number has, its sign left out. -/
def bitLength (n : Nat) : Nat := if n == 0 then 0 else Nat.log2 n + 1

/-- How many bits of a number are set. -/
def bitCount (n : Nat) : Nat := (Nat.toDigits 2 n).countP (· == '1')

def powerModulo (modulus : Nat) (base exponent : Nat) : Nat :=
  go (bitLength exponent) (base % modulus) exponent
where
  go : Nat → Nat → Nat → Nat
    | 0, _, _ => 1 % modulus
    | count + 1, base, exponent =>
      let half := go count (base * base % modulus) (exponent / 2)
      if exponent % 2 == 1 then base * half % modulus else half

/-- The largest common divisor with the numbers that the two have to be multiplied by to give it. -/
def bezout : Nat → Int → Int → Int × Int × Int
  | 0, a, _ => (a, 1, 0)
  | fuel + 1, a, b =>
    if b == 0 then (a, 1, 0)
    else
      let (g, x, y) := bezout fuel b (Int.emod a b)
      (g, y, x - a / b * y)

def inverse? (a : Int) (modulus : Nat) : Option Nat :=
  let (g, x, _) := bezout (2 * bitLength modulus + 2) (Int.emod a modulus) modulus
  if g == 1 then some (Int.emod x modulus).toNat else none

/-- The largest natural number whose square is not above a number. -/
def squareRoot (n : Nat) : Nat :=
  if n < 2 then n else go (bitLength n) (2 ^ (bitLength n / 2 + 1))
where
  go : Nat → Nat → Nat
    | 0, x => x
    | count + 1, x =>
      let next := (x + n / x) / 2
      if next < x then go count next else x

@[simp] theorem complement_complement (n : Int) : complement (complement n) = n := by
  unfold complement
  omega

theorem conjunction_comm (a b : Int) : conjunction a b = conjunction b a := by
  cases a <;> cases b <;> simp [conjunction, Nat.and_comm, Nat.or_comm]

theorem exclusion_self (n : Int) : exclusion n n = 0 := by
  cases n <;> simp [exclusion]

end Forwarding.Whole
