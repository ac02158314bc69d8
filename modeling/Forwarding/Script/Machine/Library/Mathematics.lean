import Forwarding.Floating.Series
import Forwarding.Script.Machine.Builtin

/-! The library of mathematics. -/

set_option autoImplicit false

namespace Forwarding.Script.Act

open Text

/-- The functions of one number, and whether a value that is too large for a number is reported as
such. -/
def realFunctions : List (String × (Float → Float) × Bool) := [
  ("acos", Float.acos, false), ("acosh", Float.acosh, false), ("asin", Float.asin, false),
  ("asinh", Float.asinh, false), ("atan", Float.atan, false), ("atanh", Float.atanh, false),
  ("cbrt", Float.cbrt, false), ("cos", Float.cos, false), ("cosh", Float.cosh, true),
  ("erf", Floating.Series.errorFunction, false), ("erfc", Floating.Series.errorComplement, false),
  ("exp", Float.exp, true), ("exp2", Float.exp2, true),
  ("expm1", Floating.Series.exponentialLessOne, true), ("fabs", Floating.absolute, false),
  ("log1p", Floating.Series.logarithmOfOneMore, false),
  ("sin", Float.sin, false),
  ("sinh", Float.sinh, true), ("sqrt", Float.sqrt, false), ("tan", Float.tan, false),
  ("tanh", Float.tanh, false)]

def logarithms : List (String × (Float → Float)) :=
  [("log", Float.log), ("log2", Float.log2), ("log10", Float.log10)]

def mathTakings : List (Taking × List Text) := [
  (.single, (realFunctions.map fun row => row.1.toList) ++ words
    ("ceil degrees factorial floor frexp fsum gamma isfinite isinf isnan isqrt lgamma log10 log2 modf radians " ++
      "trunc ulp")),
  (.between 2 2, words "atan2 comb copysign dist fmod ldexp nextafter pow remainder"),
  (.between 1 2, words "perm"), (.free, words "log")]

def mathFunctions : List Text := (mathTakings.flatMap (·.2)) ++ words "gcd lcm hypot isclose prod"

def outsideDomain {α : Type} : Act α := valueError "math domain error"

def outsideRange {α : Type} : Act α := overflow "math range error"

def realNumber (v : Value) : Act Float := do
  match ← plain v with
  | .real x => return x
  | .integer n => toFloating n
  | .truth b => return if b then 1.0 else 0.0
  | _ =>
    match ← special? v "__float__" with
    | some f => do
      match ← plain (← call f []) with
      | .real x => return x
      | other => typeError ((← kindName v) ++ ".__float__ returned non-float (type " ++
          (← kindName other) ++ ")")
    | none =>
      match ← index? v with
      | some n => toFloating n
      | none => typeError ("must be real number, not " ++ (← kindName v))

/-- The value of a function; a value that is no number for one that is lies outside the domain. -/
def checkedReal (found : Float) (arguments : List Float) (reportsSize : Bool) : Act Value := do
  if found.isNaN && arguments.all fun x => !x.isNaN then outsideDomain
  else if Floating.isInfinite found && arguments.all Floating.isFinite then
    if reportsSize then outsideRange else outsideDomain
  else return .real found

def wholeBy (name : Text) (way : Float → Option Int) (v : Value) : Act Value := do
  match ← special? v ("__" ++ name ++ "__") with
  | some f => call f []
  | none => do
    match ← plain v with
    | .integer n => return .integer n
    | .truth b => return .integer (if b then 1 else 0)
    | other => do
      if name == "trunc" && !(other matches .real _) then
        typeError ("type " ++ (← kindName v) ++ " doesn't define __trunc__ method")
      let x ← realNumber v
      match way x with
      | some n => return .integer n
      | none => return .integer (← truncated x)

/-- A logarithm, also of a whole number that is too large for a floating-point number. -/
def logarithm (f : Float → Float) (v : Value) : Act Float := do
  match ← plain v with
  | .integer n =>
    if n ≤ 0 then outsideDomain
    else
      let x := Floating.ofInteger n
      if Floating.isFinite x then return f x
      else
        let size := Whole.bitLength n.toNat
        return f (Floating.ofRatio false n.toNat (2 ^ size)) + f 2.0 * Floating.ofInteger size
  | _ => do
    let x ← realNumber v
    if x.isNaN then return x
    else if x ≤ 0.0 then outsideDomain
    else return f x

def rootOfRatio (numerator denominator : Nat) : Float :=
  let size := Whole.bitLength numerator + Whole.bitLength denominator + 140
  let scale := 2 * size
  let scaled := numerator * 2 ^ scale / denominator
  let root := Whole.squareRoot scaled
  let sticky := if root * root == scaled && numerator * 2 ^ scale % denominator == 0 then 0 else 1
  Floating.ofRatio false (2 * root + sticky) (2 ^ (size + 1))

def lengthOf (xs : List Float) : Float :=
  if xs.any Floating.isInfinite then Floating.infinity
  else if xs.any Float.isNaN then Floating.undefined
  else
    let unit : Nat := 2 ^ 1074
    let sizes := xs.filterMap fun x => (Floating.ratio? x).map fun (n, d) => n.natAbs * (unit / d)
    let total := sizes.foldl (fun total n => total + n * n) 0
    if total == 0 then 0.0 else rootOfRatio total (unit * unit)

def exactSum (xs : List Float) : Act Value := do
  let special := xs.filter fun x => !Floating.isFinite x
  if !special.isEmpty then
    if special.any Float.isNaN then return .real Floating.undefined
    else if special.any (· != special.headD 0.0) then valueError "-inf + inf in fsum"
    else return .real (special.headD 0.0)
  else
    let unit : Int := 2 ^ 1074
    let total := xs.foldl (fun total x =>
      match Floating.ratio? x with
      | some (n, d) => total + n * (unit / d)
      | none => total) (0 : Int)
    let found := Floating.ofRatio (total < 0) total.natAbs (2 ^ 1074)
    if Floating.isFinite found then return .real found else overflow "intermediate overflow in fsum"

/-- The remainder of a division with a quotient rounded to the nearest whole number. -/
def nearestRemainder? (x y : Float) : Option Float :=
  match Floating.ratio? x, Floating.ratio? y with
  | some (a, b), some (c, d) =>
    if c == 0 then none
    else
      let numerator := a * d
      let denominator := (c * b).natAbs
      let low := numerator.fdiv denominator
      let rest := numerator - low * denominator
      let up := (denominator : Int) < 2 * rest || (2 * rest == denominator && low % 2 == 1)
      let rest := if up then rest - denominator else rest
      if rest == 0 then some (Floating.withSign 0.0 x)
      else some (Floating.ofRatio (rest < 0) rest.natAbs (b * d))
  | some _, none => if Floating.isInfinite y then some x else none
  | _, _ => none

def neighbour (x y : Float) : Float :=
  if x.isNaN || y.isNaN then Floating.undefined
  else if x == y then y
  else if x == 0.0 then Floating.withSign (Float.ofBits 1) y
  else if (x < y) == (x > 0.0) then Float.ofBits (x.toBits + 1)
  else Float.ofBits (x.toBits - 1)

/-- A number as a fraction from a half to one, and the power of two that it is multiplied by. -/
def fractionAndPower (x : Float) : Float × Int :=
  match Floating.ratio? x with
  | some (n, d) =>
    if n == 0 then (x, 0)
    else
      let size : Int := Whole.bitLength n.natAbs - (Whole.bitLength d : Int) + 1
      let scaled (n d : Nat) (size : Int) : Float :=
        if 0 ≤ size then Floating.ofRatio (x < 0.0) n (d * 2 ^ size.toNat)
        else Floating.ofRatio (x < 0.0) (n * 2 ^ size.natAbs) d
      let found := scaled n.natAbs d size
      if Floating.absolute found < 0.5 then (scaled n.natAbs d (size - 1), size - 1)
      else if Floating.absolute found ≥ 1.0 then (scaled n.natAbs d (size + 1), size + 1)
      else (found, size)
  | none => (x, 0)

def timesPower (x : Float) (power : Int) : Float :=
  match Floating.ratio? x with
  | some (n, d) =>
    if n == 0 || power < -3000 then Floating.withSign 0.0 x
    else if power > 3000 then Floating.withSign Floating.infinity x
    else if 0 ≤ power then Floating.ofRatio (x < 0.0) (n.natAbs * 2 ^ power.toNat) d
    else Floating.ofRatio (x < 0.0) n.natAbs (d * 2 ^ power.natAbs)
  | none => x

def productBetween (first last : Nat) : Nat :=
  (List.range (last + 1 - first)).foldl (fun total k => total * (first + k)) 1

def factorialLimit : Int := 20000

def wholeArgument (v : Value) : Act Int := index v

def factorial (n : Int) : Act Value := do
  if n < 0 then valueError "factorial() not defined for negative values"
  else if n ≥ 2 ^ 63 then overflow "factorial() argument should not exceed 9223372036854775807"
  else if n > factorialLimit then fail "MemoryError" []
  else return .integer (productBetween 1 n.toNat)

def choices (name : Text) (n k : Int) : Act Value := do
  if n < 0 then valueError "n must be a non-negative integer"
  else if k < 0 then valueError "k must be a non-negative integer"
  else if n < k then return .integer 0
  else
    let n := n.toNat
    let k := if name == "comb" then min k.toNat (n - k.toNat) else k.toNat
    if k ≥ 2 ^ 63 then
      overflow ((if name == "comb" then "min(n - k, k)".toList else "k") ++
        " must not exceed 9223372036854775807")
    if k > factorialLimit.toNat then fail "MemoryError" []
    let arranged := productBetween (n - k + 1) n
    return .integer (if name == "comb" then arranged / productBetween 1 k else arranged)

def areClose (x y relative most : Float) : Act Value := do
  if relative < 0.0 || most < 0.0 then valueError "tolerances must be non-negative"
  else if x == y then return .truth true
  else if Floating.isInfinite x || Floating.isInfinite y then return .truth false
  else
    let difference := Floating.absolute (x - y)
    return .truth (difference ≤ Floating.absolute (relative * y) ||
      difference ≤ Floating.absolute (relative * x) || difference ≤ most)

def binaryMath (name : Text) (a b : Value) : Act Value := do
  match String.ofList name with
  | "comb" => do choices name (← wholeArgument a) (← wholeArgument b)
  | "dist" => do
    let p ← (← itemsOf a).mapM realNumber
    let q ← (← itemsOf b).mapM realNumber
    if p.length != q.length then
      valueError "both points must have the same number of dimensions"
    else return .real (lengthOf ((p.zip q).map fun (x, y) => x - y))
  | "ldexp" => do
    let x ← realNumber a
    match ← index? b with
    | none => typeError "Expected an int as second argument to ldexp."
    | some power => do
      let found := timesPower x power
      if Floating.isInfinite found && Floating.isFinite x then outsideRange else return .real found
  | _ => do
    let x ← realNumber a
    let y ← realNumber b
    match String.ofList name with
    | "atan2" => return .real (Float.atan2 x y)
    | "copysign" => return .real (Floating.withSign x y)
    | "nextafter" => return .real (neighbour x y)
    | "fmod" =>
      match Floating.remainder? x y with
      | some rest => return .real rest
      | none => if x.isNaN || y.isNaN then return .real Floating.undefined else outsideDomain
    | "remainder" =>
      match nearestRemainder? x y with
      | some rest => return .real rest
      | none => if x.isNaN || y.isNaN then return .real Floating.undefined else outsideDomain
    | _ => do
      let found := if y == 0.0 || x == 1.0 then 1.0 else Float.pow x y
      if Floating.isFinite x && Floating.isFinite y then
        if found.isNaN then outsideDomain
        else if Floating.isInfinite found then
          if x == 0.0 then outsideDomain else outsideRange
        else return .real found
      else return .real found

def unaryMath (name : Text) (v : Value) : Act Value := do
  match realFunctions.lookup (String.ofList name), logarithms.lookup (String.ofList name) with
  | some (f, reportsSize), _ => do
    let x ← realNumber v
    checkedReal (f x) [x] reportsSize
  | _, some f => return .real (← logarithm f v)
  | none, none =>
    match String.ofList name with
    | "ceil" => wholeBy name Floating.ceiling? v
    | "floor" => wholeBy name Floating.floor? v
    | "trunc" => wholeBy name Floating.truncated? v
    | "factorial" => do factorial (← wholeArgument v)
    | "isqrt" => do
      let n ← wholeArgument v
      if n < 0 then valueError "isqrt() argument must be nonnegative"
      else return .integer (Whole.squareRoot n.toNat)
    | "fsum" => do exactSum (← (← itemsOf v).mapM realNumber)
    | _ => do
      let x ← realNumber v
      match String.ofList name with
      | "degrees" => return .real (x * (180.0 / Floating.Gamma.pi))
      | "radians" => return .real (x * (Floating.Gamma.pi / 180.0))
      | "isnan" => return .truth x.isNaN
      | "isinf" => return .truth (Floating.isInfinite x)
      | "isfinite" => return .truth (Floating.isFinite x)
      | "frexp" => do
        let (fraction, power) := fractionAndPower x
        return .tuple [.real fraction, .integer power]
      | "modf" =>
        match Floating.truncated? x with
        | some n =>
          let whole := Floating.withSign (Floating.ofInteger n) x
          return .tuple [.real (Floating.withSign (x - whole) x), .real whole]
        | none =>
          return .tuple [.real (if x.isNaN then x else Floating.withSign 0.0 x), .real x]
      | "ulp" =>
        let size := Floating.absolute x
        if Floating.isFinite x then
          let next := Float.ofBits (size.toBits + 1)
          return .real (if Floating.isFinite next then next - size
            else size - Float.ofBits (size.toBits - 1))
        else return .real size
      | "gamma" =>
        match Floating.Gamma.gamma? x with
        | some found =>
          if Floating.isInfinite found && Floating.isFinite x then outsideRange else return .real found
        | none => outsideDomain
      | _ =>
        match Floating.Gamma.logarithm? x with
        | some found =>
          if Floating.isInfinite found && Floating.isFinite x then outsideRange else return .real found
        | none => outsideDomain

def common (combine : Nat → Nat → Nat) (start : Nat) (arguments : List Value) : Act Value := do
  let numbers ← arguments.mapM wholeArgument
  let found : Nat := numbers.foldl (fun total n => combine total n.natAbs) start
  return .integer found

def mathFunction (name : Text) (arguments : List Value) (named : Named) : Act Value := do
  let full : Text := "math." ++ name
  match String.ofList name with
  | "isclose" => do
    let slots ← parametersOf "isclose" (parametric 2 "a b * rel_tol abs_tol") arguments named
    let x ← realNumber (slotOr slots 0 .nothing)
    let y ← realNumber (slotOr slots 1 .nothing)
    let relative ← realNumber (slotOr slots 2 (.real 1e-9))
    let most ← realNumber (slotOr slots 3 (.real 0.0))
    areClose x y relative most
  | "prod" => do
    let slots ← parametersOf "prod" (parametric 1 "iterable / * start") arguments named
    (← itemsOf (slotOr slots 0 .nothing)).foldlM (operate .multiply) (slotOr slots 1 (.integer 1))
  | _ => do
    refuseNames full named
    checkCount (takingIn mathTakings name) full name arguments.length
    match String.ofList name, arguments with
    | "gcd", _ => common Nat.gcd 0 arguments
    | "lcm", _ => common Nat.lcm 1 arguments
    | "hypot", _ => return .real (lengthOf (← arguments.mapM realNumber))
    | "perm", [n] | "perm", [n, .nothing] => do factorial (← wholeArgument n)
    | "perm", [n, k] => do choices name (← wholeArgument n) (← wholeArgument k)
    | "log", [] | "log", _ :: _ :: _ :: _ => typeError "math.log requires 1 to 2 arguments"
    | "log", [v, base] => do
      let above ← logarithm Float.log v
      let below ← logarithm Float.log base
      if below == 0.0 then noDivision "float division by zero" else return .real (above / below)
    | _, [a, b] => binaryMath name a b
    | _, _ => unaryMath name (argument arguments 0)

def mathValues : List (Text × Value) := [
  ("pi", .real Floating.Gamma.pi), ("e", .real 2.718281828459045),
  ("tau", .real 6.283185307179586), ("inf", .real Floating.infinity),
  ("nan", .real Floating.undefined)]

end Forwarding.Script.Act
