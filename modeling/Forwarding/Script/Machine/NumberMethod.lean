import Forwarding.Script.Machine.TextMethod

/-! The methods of numbers. -/

set_option autoImplicit false

namespace Forwarding.Script.Act

open Text

def ratioOf (x : Float) : Act Value := do
  match Floating.ratio? x with
  | some (n, d) =>
    let g := Int.gcd n d
    return .tuple [.integer (n / g), .integer ((d : Int) / g)]
  | none =>
    if Floating.isInfinite x then overflow "cannot convert Infinity to integer ratio"
    else valueError "cannot convert NaN to integer ratio"

def hexadecimalText (x : Float) : Text :=
  match Floating.parts? x with
  | none => Floating.shown x
  | some _ =>
    let bits := x.toBits.toNat
    let fraction := bits % 2 ^ 52
    let power : Nat := bits / 2 ^ 52 % 2048
    let sign : Text := if Floating.isNegative x then ['-'] else []
    let isSmall := power == 0
    if isSmall && fraction == 0 then sign ++ "0x0.0p+0"
    else
      let exponent : Int := if isSmall then -1022 else (power : Int) - 1023
      sign ++ "0x" ++ (if isSmall then ['0'] else ['1']) ++ ['.'] ++ hexadecimal 13 fraction ++ ['p'] ++
        (if exponent < 0 then ['-'] else ['+']) ++ decimal exponent.natAbs

def ofHexadecimalText? (t : Text) : Option Float := do
  let t := lowerCase (strip t)
  let (isNegative, t) := match t with
    | '-' :: t => (true, t)
    | '+' :: t => (false, t)
    | t => (false, t)
  let signed (x : Float) : Float := if isNegative then Floating.negate x else x
  if t == "inf" || t == "infinity" then return signed Floating.infinity
  else if t == "nan" then return Floating.undefined
  else
    let t := if "0x".toList.isPrefixOf t then t.drop 2 else t
    let whole := t.takeWhile fun c => (digitOf? c).isSome
    let rest := t.drop whole.length
    let (fraction, rest) := match rest with
      | '.' :: rest =>
        let digits := rest.takeWhile fun c => (digitOf? c).isSome
        (digits, rest.drop digits.length)
      | rest => ([], rest)
    if whole.isEmpty && fraction.isEmpty then none
    else
      let exponent ← match rest with
        | [] => some (0 : Int)
        | 'p' :: '-' :: digits => exponentOf? digits |>.map fun n => -(n : Int)
        | 'p' :: '+' :: digits => exponentOf? digits |>.map fun n => (n : Int)
        | 'p' :: digits => exponentOf? digits |>.map fun n => (n : Int)
        | _ => none
      let digits := (whole ++ fraction).foldl (fun n c => n * 16 + (digitOf? c).getD 0) 0
      let power : Int := exponent - 4 * fraction.length
      let x := if 0 ≤ power then Floating.ofRatio isNegative (digits * 2 ^ (min power 3000).toNat) 1
        else Floating.ofRatio isNegative digits (2 ^ (min (-power) 6000).toNat)
      return x
where
  exponentOf? (digits : Text) : Option Nat :=
    if digits.isEmpty || !digits.all Char.isDigit then none
    else some (digits.foldl (fun n c => n * 10 + (c.toNat - '0'.toNat)) 0)

/-- The order of bytes that a value names: whether the last comes first. -/
def isLittle (v : Value) : Act Bool := do
  match ← plain v with
  | .text t =>
    if t == "little" then return true
    else if t == "big" then return false
    else valueError "byteorder must be either 'little' or 'big'"
  | _ => typeError ("to_bytes() argument 'byteorder' must be str, not " ++ (← kindName v))

def integerMethod (n : Int) (kind name : Text) (arguments : List Value) (named : Named) : Act Value := do
  let full : Text := kind ++ '.' :: name
  match String.ofList name with
  | "to_bytes" => do
    let slots ← parametersOf "to_bytes" (parametric 0 "length byteorder * signed") arguments named
    let length ← index (slotOr slots 0 (.integer 1))
    let isLittle ← isLittle (slotOr slots 1 (.text "big"))
    let isSigned ← truth (slotOr slots 2 (.truth false))
    if length < 0 then valueError "length argument must be non-negative"
    else if n < 0 && !isSigned then overflow "can't convert negative int to unsigned"
    else
      let size := length.toNat
      let limit : Int := 2 ^ (8 * size)
      let fits := if isSigned then -limit ≤ 2 * n && 2 * n < limit else n < limit
      if !(fits || (size == 0 && n == 0)) then overflow "int too big to convert"
      else return .bytes (Encoding.bytesOf size isLittle ((n % limit).toNat))
  | _ => do
    checkCall .nothing false full name arguments named
    match String.ofList name with
    | "bit_length" => return .integer (Whole.bitLength n.natAbs)
    | "bit_count" => return .integer (Whole.bitCount n.natAbs)
    | "conjugate" | "__int__" | "__trunc__" | "__floor__" | "__ceil__" | "__index__" | "__pos__" =>
      return .integer n
    | "as_integer_ratio" => return .tuple [.integer n, .integer 1]
    | "__getnewargs__" => return .tuple [.integer n]
    | _ => noAttribute (.integer n) name

def integerFromBytes (arguments : List Value) (named : Named) : Act Value := do
  let slots ← parametersOf "from_bytes" (parametric 1 "bytes byteorder * signed") arguments named
  let v := slotOr slots 0 .nothing
  let t ← match ← bytes? v with
    | some t => pure t
    | none => do
      match ← plain v with
      | .text _ | .integer _ | .truth _ | .real _ | .nothing =>
        typeError ("cannot convert '" ++ (← kindName v) ++ "' object to bytes")
      | _ => (← itemsOf v).mapM byteOf
  let isLittle ← isLittle (slotOr slots 1 (.text "big"))
  let isSigned ← truth (slotOr slots 2 (.truth false))
  let n : Nat := (if isLittle then t.reverse else t).foldl (fun n c => n * 256 + c.toNat) 0
  let limit : Nat := 2 ^ (8 * t.length)
  return .integer (if isSigned && limit ≤ 2 * n then (n : Int) - limit else n)

def floatingMethod (x : Float) (name : Text) (arguments : List Value) (named : Named) : Act Value := do
  let full : Text := "float." ++ name
  checkCall .nothing false full name arguments named
  match String.ofList name with
  | "is_integer" => return .truth (Floating.isFinite x && Floating.isWhole x)
  | "as_integer_ratio" => ratioOf x
  | "hex" => return .text (hexadecimalText x)
  | "conjugate" | "__float__" | "__pos__" => return .real x
  | "__getnewargs__" => return .tuple [.real x]
  | _ => noAttribute (.real x) name

def complexMethod (x y : Float) (name : Text) (arguments : List Value) (named : Named) : Act Value := do
  let full : Text := "complex." ++ name
  checkCall .nothing false full name arguments named
  match String.ofList name with
  | "conjugate" => return .complex x (Floating.negate y)
  | "__complex__" => return .complex x y
  | _ => noAttribute (.complex x y) name

def truncated (x : Float) : Act Int := do
  match Floating.truncated? x with
  | some n => return n
  | none =>
    if Floating.isInfinite x then overflow "cannot convert float infinity to integer"
    else valueError "cannot convert float NaN to integer"

/-- A whole number rounded to a multiple of a power of ten, a half to the even neighbour. -/
def roundedWhole (n : Int) (places : Int) : Int :=
  if 0 ≤ places then n
  else if (decimal n.natAbs).length < places.natAbs then 0
  else
    let unit : Int := 10 ^ places.natAbs
    let low := n.fdiv unit
    let rest := n - low * unit
    let up := unit < 2 * rest || (2 * rest == unit && low % 2 == 1)
    (if up then low + 1 else low) * unit

def rounded (v : Value) (places : Value) : Act Value := do
  match ← plain v with
  | .integer n => whole n
  | .truth b => whole (if b then 1 else 0)
  | .real x =>
    if places.isNothing then
      match Floating.nearest? x with
      | some n => return .integer n
      | none =>
        if Floating.isInfinite x then overflow "cannot convert float infinity to integer"
        else valueError "cannot convert float NaN to integer"
    else
      let found := Floating.roundedTo x (← index places)
      if Floating.isFinite x && !Floating.isFinite found then
        overflow "rounded value too large to represent"
      else return .real found
  | _ => typeError ("type " ++ (← kindName v) ++ " doesn't define __round__ method")
where
  whole (n : Int) : Act Value := do
    if places.isNothing then return .integer n else return .integer (roundedWhole n (← index places))

end Forwarding.Script.Act
