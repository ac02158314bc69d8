import Forwarding.Floating.Basic

/-! Complex numbers: products, quotients and powers. A quotient is taken by the larger part of the
divisor; a power with a small whole exponent is a product.
-/

set_option autoImplicit false

namespace Forwarding.Floating.Complex

abbrev Pair := Float × Float

def times (a b : Pair) : Pair := (a.1 * b.1 - a.2 * b.2, a.1 * b.2 + a.2 * b.1)

/-- The quotient; none if the divisor is zero. -/
def over? (a b : Pair) : Option Pair :=
  if absolute b.2 ≤ absolute b.1 then
    if b.1 == 0.0 then none
    else
      let ratio := b.2 / b.1
      let divisor := b.1 + b.2 * ratio
      some ((a.1 + a.2 * ratio) / divisor, (a.2 - a.1 * ratio) / divisor)
  else if absolute b.1 ≤ absolute b.2 then
    let ratio := b.1 / b.2
    let divisor := b.1 * ratio + b.2
    some ((a.1 * ratio + a.2) / divisor, (a.2 * ratio - a.1) / divisor)
  else some (undefined, undefined)

def size (a : Pair) : Float :=
  if isInfinite a.1 || isInfinite a.2 then infinity
  else
    let x := absolute a.1
    let y := absolute a.2
    let (big, small) := if x < y then (y, x) else (x, y)
    if big == 0.0 then big
    else if small == 0.0 then big
    else
      let direct := (x * x + y * y).sqrt
      if isFinite direct && direct > 1e-150 && direct < 1e150 then direct
      else
        let ratio := small / big
        big * (1.0 + ratio * ratio).sqrt

/-- A power with a natural exponent, times what has been found, as a product of repeated squares. -/
def naturalPower : Nat → Pair → Pair → Nat → Pair
  | 0, found, _, _ => found
  | fuel + 1, found, square, exponent =>
    if exponent == 0 then found
    else
      naturalPower fuel (if exponent % 2 == 1 then times found square else found)
        (times square square) (exponent / 2)

/-- A power; none for zero with an exponent that is negative or not real. -/
def power? (a b : Pair) : Option Pair :=
  if b.1 == 0.0 && b.2 == 0.0 then some (1.0, 0.0)
  else if a.1 == 0.0 && a.2 == 0.0 then
    if b.2 != 0.0 || b.1 < 0.0 then none else some (0.0, 0.0)
  else
    match whole? b.1 with
    | some n =>
      if b.2 == 0.0 && n.natAbs ≤ 100 then
        let found := naturalPower 8 (1.0, 0.0) a n.natAbs
        if n < 0 then over? (1.0, 0.0) found else some found
      else general a b
    | none => general a b
where
  /-- The power by length and angle; none if the angle is infinite. -/
  general (a b : Pair) : Option Pair :=
    let length := size a
    let angle := Float.atan2 a.2 a.1
    let scale := Float.pow length b.1
    let turn := angle * b.1
    let (scale, turn) :=
      if b.2 == 0.0 then (scale, turn)
      else (scale / Float.exp (angle * b.2), turn + b.2 * Float.log length)
    if isInfinite turn then none else some (scale * Float.cos turn, scale * Float.sin turn)

end Forwarding.Floating.Complex
