import Forwarding.Floating.Basic
import Forwarding.Whole

/-! Functions of analysis, computed with whole numbers and rounded once.

A real number is kept as a whole number of units, of which `unit` make one. Every series is summed until
its terms are below a unit.
-/

set_option autoImplicit false

namespace Forwarding.Floating.Series

def places : Nat := 2400

def unit : Int := 2 ^ places

def rounded (x : Int) : Float := ofRatio (x < 0) x.natAbs (2 ^ places)

/-- The units of a floating-point number; nothing for what is no number. -/
def ofFloat? (x : Float) : Option Int := (ratio? x).map fun (n, d) => n * unit / d

def times (x y : Int) : Int := x * y / unit

def divided (x y : Int) : Int := x * unit / y

/-- The sum of a term and those that follow it, each made from the one before and its place. -/
def sum (next : Int → Int → Int) : Nat → Int → Int → Int → Int
  | 0, _, _, total => total
  | count + 1, place, term, total =>
    if term == 0 then total
    else sum next count (place + 1) (next place term) (total + term)

def terms : Nat := 8000

def growth (x : Int) : Int := sum (fun place term => times term x / (place + 1)) terms 0 unit 0

def exponential (x : Int) : Int := if x < 0 then divided unit (growth (-x)) else growth x

def exponentialLessOne (x : Float) : Float :=
  match ofFloat? x with
  | none => if x == negativeInfinity then -1.0 else x
  | some units =>
    if x == 0.0 then x
    else if x > 800.0 then infinity
    else if absolute x < 1e-17 then x
    else rounded (exponential units - unit)

/-- The logarithm of a number and one. A close value is corrected once. -/
def logarithmOfOneMore (x : Float) : Float :=
  match ofFloat? x with
  | none => if x == infinity then x else undefined
  | some units =>
    if x == 0.0 || absolute x < 1e-17 then x
    else if x == -1.0 then negativeInfinity
    else if x < -1.0 then undefined
    else
      let close := if absolute x < 0.01 then x else Float.log (1.0 + x)
      match ofFloat? close with
      | none => undefined
      | some y =>
        let e := exponential y
        rounded (y + 2 * divided (unit + units - e) (unit + units + e))

def arcOfInverse (n : Int) : Int :=
  let step := fun (power : Int) => -power / (n * n)
  go step terms 1 (unit / n) 0
where
  go (step : Int → Int) : Nat → Int → Int → Int → Int
    | 0, _, _, total => total
    | count + 1, odd, power, total =>
      if power == 0 || power == -1 then total
      else go step count (odd + 2) (step power) (total + power / odd)

def pi : Int := 4 * (4 * arcOfInverse 5 - arcOfInverse 239)

def rootOfPi : Int := Whole.squareRoot (pi * unit).toNat

/-- The integral of the bell curve from zero to a number that is not negative. -/
def bell (x : Int) : Int :=
  let square := times x x
  let total := sum (fun place term => 2 * times term square / (2 * place + 3)) terms 0 x 0
  divided (2 * divided total (growth square)) rootOfPi

def errorFunction (x : Float) : Float :=
  match ofFloat? (absolute x) with
  | none => if isInfinite x then withSign 1.0 x else x
  | some units =>
    if x == 0.0 then x
    else if absolute x > 7.0 then withSign 1.0 x
    else withSign (rounded (bell units)) x

def errorComplement (x : Float) : Float :=
  match ofFloat? (absolute x) with
  | none => if x == infinity then 0.0 else if x == negativeInfinity then 2.0 else x
  | some units =>
    if x > 28.0 then 0.0
    else if x < -7.0 then 2.0
    else if isNegative x then rounded (unit + bell units)
    else rounded (unit - bell units)

end Forwarding.Floating.Series

/-! The gamma function, after the approximation by a quotient of two polynomials. -/

namespace Forwarding.Floating.Gamma

def coefficients : List (Float × Float) := [
  (23531376880.410759688572007674451636754734846804940, 0.0),
  (42919803642.649098768957899047001988850926355848959, 39916800.0),
  (35711959237.355668049440185451547166705960488635843, 120543840.0),
  (17921034426.037209699919755754458931112671403265390, 150917976.0),
  (6039542586.3520280050642916443072979210699388420708, 105258076.0),
  (1439720407.3117216736632230727949123939715485786372, 45995730.0),
  (248874557.86205415651146038641322942321632125127801, 13339535.0),
  (31426415.585400194380614231628318205362874684987640, 2637558.0),
  (2876370.6289353724412254090516208496135991145378768, 357423.0),
  (186056.26539522349504029498971604569928220784236328, 32670.0),
  (8071.6720023658162106380029022722506138218516325024, 1925.0),
  (210.82427775157934587250973392071336271166969580291, 66.0),
  (2.5066282746310002701649081771338373386264310793408, 1.0)]

def shift : Float := 6.024680040776729583740234375

def quotient (x : Float) : Float :=
  let (a, b) :=
    if x < 5.0 then
      coefficients.foldr (fun (p, q) (a, b) => (a * x + p, b * x + q)) (0.0, 0.0)
    else coefficients.foldl (fun (a, b) (p, q) => (a / x + p, b / x + q)) (0.0, 0.0)
  a / b

def pi : Float := 3.141592653589793

def sineOfPi (x : Float) : Float :=
  let y := (remainder? (absolute x) 2.0).getD 0.0
  let found := match nearest? (2.0 * y) with
    | some 0 => Float.sin (pi * y)
    | some 1 => Float.cos (pi * (y - 0.5))
    | some 2 => Float.sin (pi * (1.0 - y))
    | some 3 => negate (Float.cos (pi * (y - 1.5)))
    | _ => Float.sin (pi * (y - 2.0))
  if isNegative x then negate found else found

/-- Multiplies or divides by a power, in two steps if it is large. -/
def byPower (operation : Float → Float → Float) (r size y : Float) : Float :=
  if size < 140.0 then operation r (Float.pow y (size - 0.5))
  else
    let root := Float.pow y (size / 2.0 - 0.25)
    operation (operation r root) root

/-- The gamma function; nothing where it has no value. -/
def gamma? (x : Float) : Option Float :=
  if !isFinite x then (if x == negativeInfinity then none else some x)
  else if x == 0.0 then none
  else if isWhole x && x < 0.0 then none
  else if isWhole x && x ≤ 23.0 then
    let n := ((whole? x).getD 1).toNat
    some (ofInteger ((List.range n).foldl (fun total k => total * (max k 1 : Nat)) 1))
  else
    let size := absolute x
    if size < 1e-20 then some (1.0 / x)
    else if size > 200.0 then some (if x < 0.0 then 0.0 / sineOfPi x else infinity)
    else
      let half := shift - 0.5
      let y := size + half
      let z := if size > half then y - size - half else y - half - size
      let z := z * shift / y
      if x < 0.0 then
        let r := negate pi / sineOfPi size / size * Float.exp y / quotient size
        some (byPower (· / ·) (r - z * r) size y)
      else
        let r := quotient size / Float.exp y
        some (byPower (· * ·) (r + z * r) size y)

/-- The logarithm of the size of the gamma function; nothing where it has no value. -/
def logarithm? (x : Float) : Option Float :=
  if !isFinite x then some (if isInfinite x then infinity else x)
  else if isWhole x && x ≤ 2.0 then (if x ≤ 0.0 then none else some 0.0)
  else
    let size := absolute x
    if size < 1e-20 then some (negate (Float.log size))
    else
      let r := Float.log (quotient size) - shift
      let r := r + (size - 0.5) * (Float.log (size + shift - 0.5) - 1.0)
      if x < 0.0 then
        some (1.144729885849400174143427351353058711647 - Float.log (absolute (sineOfPi size)) -
          Float.log size - r)
      else some r

end Forwarding.Floating.Gamma
