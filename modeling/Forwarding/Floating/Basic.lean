import Forwarding.Rounding

/-! Floating-point numbers as exact binary fractions.

A finite number is its sign, a whole number and a power of two. A quotient of whole numbers is rounded to
the nearest number, the even one of two, so that reading decimals, dividing whole numbers and converting
them are all the same function.
-/

set_option autoImplicit false

namespace Forwarding.Floating

/-- A finite number: `mantissa * 2 ^ exponent`, with its sign. -/
structure Parts where
  isNegative : Bool
  mantissa : Nat
  exponent : Int
  deriving Repr, DecidableEq

def isNegative (x : Float) : Bool := x.toBits >>> 63 == 1

def infinity : Float := Float.ofBits 0x7FF0000000000000

def negativeInfinity : Float := Float.ofBits 0xFFF0000000000000

def undefined : Float := Float.ofBits 0x7FF8000000000000

def parts? (x : Float) : Option Parts :=
  let bits := x.toBits.toNat
  let exponent : Nat := bits / 2 ^ 52 % 2 ^ 11
  let fraction : Nat := bits % 2 ^ 52
  let negative := isNegative x
  if exponent == 2047 then none
  else if exponent == 0 then some ⟨negative, fraction, -1074⟩
  else some ⟨negative, fraction + 2 ^ 52, (exponent : Int) - 1075⟩

/-- A finite number as a quotient of natural numbers, without the sign. -/
def Parts.ratio (p : Parts) : Nat × Nat :=
  if p.exponent < 0 then (p.mantissa, 2 ^ p.exponent.natAbs)
  else (p.mantissa * 2 ^ p.exponent.toNat, 1)

def ofMagnitude (negative : Bool) (bits : Nat) : Float :=
  Float.ofBits (UInt64.ofNat (bits + if negative then 2 ^ 63 else 0))

/-- How far a quotient has to be shifted so that it has 53 bits before the point, but no further than
the smallest numbers are. -/
def shift (numerator denominator : Nat) : Int :=
  let rough : Int := (Nat.log2 numerator : Int) - (Nat.log2 denominator : Int) - 52
  let fits := fun (e : Int) =>
    if e < 0 then numerator * 2 ^ e.natAbs < denominator * 2 ^ 53
    else numerator < denominator * 2 ^ (53 + e.toNat)
  let exact := if fits (rough - 1) then rough - 1 else if fits rough then rough else rough + 1
  max exact (-1074)

def ofRatio (negative : Bool) (numerator denominator : Nat) : Float :=
  if numerator == 0 then ofMagnitude negative 0
  else
    let e := shift numerator denominator
    let mantissa :=
      if e < 0 then Rounding.nearest (numerator * 2 ^ e.natAbs) denominator
      else Rounding.nearest numerator (denominator * 2 ^ e.toNat)
    let (mantissa, e) := if mantissa == 2 ^ 53 then (2 ^ 52, e + 1) else (mantissa, e)
    if 971 < e then ofMagnitude negative (2047 * 2 ^ 52)
    else if mantissa < 2 ^ 52 then ofMagnitude negative mantissa
    else ofMagnitude negative ((e + 1075).toNat * 2 ^ 52 + (mantissa - 2 ^ 52))

/-- The number nearest to a whole number; infinity if it is too large. -/
def ofInteger (n : Int) : Float := ofRatio (n < 0) n.natAbs 1

def isInfinite (x : Float) : Bool := x == infinity || x == negativeInfinity

def isFinite (x : Float) : Bool := (parts? x).isSome

def ratio? (x : Float) : Option (Int × Nat) :=
  (parts? x).map fun p =>
    let (numerator, denominator) := p.ratio
    (if p.isNegative then -(numerator : Int) else numerator, denominator)

/-- The whole number that is left when the fraction is cut off. -/
def truncated? (x : Float) : Option Int := (ratio? x).map fun (n, d) => n.tdiv d

def floor? (x : Float) : Option Int := (ratio? x).map fun (n, d) => n.fdiv d

def ceiling? (x : Float) : Option Int := (ratio? x).map fun (n, d) => -((-n).fdiv d)

def nearest? (x : Float) : Option Int :=
  (ratio? x).map fun (n, d) =>
    let size := (Rounding.nearest n.natAbs d : Int)
    if n < 0 then -size else size

def isWhole (x : Float) : Bool := ((ratio? x).map fun (n, d) => n % (d : Int) == 0).getD false

def whole? (x : Float) : Option Int := if isWhole x then truncated? x else none

/-- How a number compares with a whole number; none for what is no number. -/
def compareInteger (x : Float) (n : Int) : Option Ordering :=
  match ratio? x with
  | some (numerator, denominator) => some (compare numerator (n * denominator))
  | none =>
    if x == infinity then some .gt else if x == negativeInfinity then some .lt else none

/-- Changes the sign of a number, zero and infinity included. -/
def negate (x : Float) : Float := Float.ofBits (x.toBits ^^^ 0x8000000000000000)

def absolute (x : Float) : Float := if isNegative x then negate x else x

def withSign (x sign : Float) : Float :=
  if isNegative x == isNegative sign then x else negate x

/-- The remainder of a division with a quotient cut off to a whole number; it has the sign of the first
number. None if there is no such remainder. -/
def remainder? (x y : Float) : Option Float :=
  match ratio? x, ratio? y with
  | some (a, b), some (c, d) =>
    if c == 0 then none
    else
      let rest := (a * d).tmod (c * b)
      some (ofRatio (isNegative x) rest.natAbs (b * d))
  | some _, none => if isInfinite y then some x else none
  | _, _ => none

/-- The quotient of two numbers as a whole number below it, and what is left, which has the sign of the
divisor. The divisor is not zero. -/
def quotientAndRest (x y : Float) : Float × Float :=
  match remainder? x y with
  | none => (undefined, undefined)
  | some rest =>
    let quotient := (x - rest) / y
    let (quotient, rest) :=
      if rest == 0.0 then (quotient, withSign 0.0 y)
      else if (y < 0.0) != (rest < 0.0) then (quotient - 1.0, rest + y) else (quotient, rest)
    if quotient == 0.0 then (withSign 0.0 (x / y), rest)
    else
      let below := quotient.floor
      (if quotient - below > 0.5 then below + 1.0 else below, rest)

end Forwarding.Floating
