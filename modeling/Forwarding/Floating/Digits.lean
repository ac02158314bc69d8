import Forwarding.Floating.Basic
import Forwarding.Text.Basic

/-! Decimal digits of floating-point numbers, written and read.

The digits of a number are those of a whole number times a power of ten. A number of digits is either
given, then the nearest such decimal is taken, or it is the smallest for which some decimal is read back
as the number itself.

What is read has a sign, digits with a point among them or without one, and a power of ten; digits may have
single underscores between them. The words for infinity and for what is no number are known in any case.
The number nearest to the decimal is taken.
-/

set_option autoImplicit false

namespace Forwarding.Floating

open Text

/-- A decimal: its digits as a whole number, and the power of ten that they are multiplied by. -/
structure Decimal where
  digits : Nat
  exponent : Int
  deriving Repr, DecidableEq

def Decimal.ratio (d : Decimal) : Nat × Nat :=
  if d.exponent < 0 then (d.digits, 10 ^ d.exponent.natAbs)
  else (d.digits * 10 ^ d.exponent.toNat, 1)

def scaled (ratio : Nat × Nat) (exponent : Int) : Nat × Nat :=
  if exponent < 0 then (ratio.1 * 10 ^ exponent.natAbs, ratio.2)
  else (ratio.1, ratio.2 * 10 ^ exponent.toNat)

/-- The power of ten of the first digit of a quotient that is not zero: the quotient is at least that
power and less than ten times it. -/
def magnitude (ratio : Nat × Nat) : Int :=
  let rough : Int :=
    ((Nat.log2 ratio.1 : Int) - (Nat.log2 ratio.2 : Int)) * 30103 / 100000
  let isBelow := fun (e : Int) =>
    let (n, d) := scaled ratio e
    n < d
  let down := if isBelow rough then rough - 1 else rough
  let down := if isBelow down then down - 1 else down
  if isBelow (down + 1) then down else if isBelow (down + 2) then down + 1 else down + 2

/-- The decimal nearest to a quotient among those with a last digit at a power of ten. -/
def roundedAt (ratio : Nat × Nat) (exponent : Int) : Decimal :=
  let (n, d) := scaled ratio exponent
  ⟨Rounding.nearest n d, exponent⟩

def significant (count : Nat) (ratio : Nat × Nat) : Decimal :=
  if ratio.1 == 0 then ⟨0, 1 - count⟩
  else
    let found := roundedAt ratio (magnitude ratio + 1 - count)
    if found.digits == 10 ^ count then ⟨10 ^ (count - 1), found.exponent + 1⟩ else found

def readsBack (x : Float) (d : Decimal) : Bool :=
  let (n, m) := d.ratio
  ofRatio false n m == x

/-- The decimal with a number of digits that is read back, the nearer one of two. -/
def readable? (x : Float) (ratio : Nat × Nat) (count : Nat) : Option Decimal :=
  let exponent := magnitude ratio + 1 - count
  let (n, d) := scaled ratio exponent
  let below : Decimal := ⟨n / d, exponent⟩
  let above : Decimal := ⟨n / d + 1, exponent⟩
  match readsBack x below, readsBack x above with
  | true, true => some (roundedAt ratio exponent)
  | true, false => some below
  | false, true => some above
  | false, false => none

/-- The shortest decimal that is read back as a number without a sign, with `count` digits or more. -/
def shortestFrom (x : Float) (ratio : Nat × Nat) : Nat → Nat → Decimal
  | 0, count => significant count ratio
  | fuel + 1, count =>
    match readable? x ratio count with
    | some d => d
    | none => shortestFrom x ratio fuel (count + 1)

/-- The shortest decimal that is read back as a finite number without a sign. -/
def shortest (x : Float) (ratio : Nat × Nat) : Decimal :=
  if ratio.1 == 0 then ⟨0, 0⟩ else shortestFrom x ratio 16 1

/-- The digits of a number as text, without the zeros at the end, and how many of them stand before the
point. -/
def Decimal.text (d : Decimal) : Text × Int :=
  let digits := decimal d.digits
  let kept := dropEnd (· == '0') digits
  if kept.isEmpty then (['0'], 1) else (kept, (digits.length : Int) + d.exponent)

def positional (digits : Text) (point : Int) : Text × Text :=
  if point ≤ 0 then (['0'], List.replicate point.natAbs '0' ++ digits)
  else
    let count := point.toNat
    if digits.length ≤ count then (digits ++ List.replicate (count - digits.length) '0', [])
    else (digits.take count, digits.drop count)

/-- A power of ten, with its sign and at least two digits. -/
def exponentText (mark : Char) (e : Int) : Text :=
  let digits := decimal e.natAbs
  [mark, if e < 0 then '-' else '+'] ++ (if digits.length < 2 then '0' :: digits else digits)

/-- A number as text, in the fewest digits that are read back. Numbers from a ten-thousandth up to ten
to the sixteenth are written without a power of ten. -/
def shown (x : Float) : Text :=
  match parts? x with
  | none => if x == infinity then "inf" else if x == negativeInfinity then "-inf" else "nan"
  | some p =>
    let sign : Text := if p.isNegative then ['-'] else []
    let (digits, point) := (shortest (absolute x) p.ratio).text
    if -4 < point && point ≤ 16 then
      let (whole, fraction) := positional digits point
      sign ++ whole ++ ['.'] ++ if fraction.isEmpty then ['0'] else fraction
    else
      sign ++ digits.take 1 ++ (if digits.length == 1 then [] else '.' :: digits.drop 1) ++
        exponentText 'e' (point - 1)

/-! Floating-point numbers with a given number of digits: so many places behind the point, so many digits
with a power of ten, or whichever of the two is shorter. The nearest decimal is taken, exactly.
-/

/-- How a number is laid out. -/
inductive Layout where
  /-- So many places behind the point. -/
  | fixed
  /-- One digit before the point, and a power of ten. -/
  | scientific
  /-- So many digits in all, without a power of ten where there is room for it. -/
  | general
  /-- The same, and never without a point. -/
  | pointed
  deriving Repr, DecidableEq

def pointAnd (digits : Text) (keepsPoint : Bool) : Text :=
  if digits.isEmpty && !keepsPoint then [] else '.' :: digits

def zeroPadded (width : Nat) (t : Text) : Text := List.replicate (width - t.length) '0' ++ t

def fixedText (ratio : Nat × Nat) (places : Nat) (keepsPoint : Bool) : Text :=
  let digits := zeroPadded (places + 1) (decimal (roundedAt ratio (-(places : Int))).digits)
  let count := digits.length - places
  digits.take count ++ pointAnd (digits.drop count) keepsPoint

def scientificText (ratio : Nat × Nat) (places : Nat) (keepsPoint : Bool) (mark : Char) : Text :=
  let d := significant (places + 1) ratio
  let digits := zeroPadded (places + 1) (decimal d.digits)
  let e := if ratio.1 == 0 then 0 else d.exponent + places
  digits.take 1 ++ pointAnd (digits.drop 1) keepsPoint ++ exponentText mark e

def generalText (ratio : Nat × Nat) (count : Nat) (keepsPoint isPointed : Bool) (mark : Char) :
    Text :=
  let count := max count 1
  let d := significant count ratio
  let digits := zeroPadded count (decimal d.digits)
  let point := if ratio.1 == 0 then 1 else d.exponent + count
  let trimmed := fun (t : Text) => if keepsPoint then t else dropEnd (· == '0') t
  let room : Int := if isPointed then (count : Int) - 1 else count
  if -4 < point && point ≤ room then
    if point ≤ 0 then
      ['0'] ++ pointAnd (trimmed (List.replicate point.natAbs '0' ++ digits)) keepsPoint
    else
      let fraction := trimmed (digits.drop point.toNat)
      digits.take point.toNat ++
        if fraction.isEmpty && isPointed then ['.', '0'] else pointAnd fraction keepsPoint
  else digits.take 1 ++ pointAnd (trimmed (digits.drop 1)) keepsPoint ++ exponentText mark (point - 1)

def written (layout : Layout) (precision : Nat) (keepsPoint : Bool) (mark : Char) (x : Float) :
    Text :=
  match parts? x with
  | none => if isInfinite x then "inf" else "nan"
  | some p =>
    match layout with
    | .fixed => fixedText p.ratio precision keepsPoint
    | .scientific => scientificText p.ratio precision keepsPoint mark
    | .general => generalText p.ratio precision keepsPoint false mark
    | .pointed => generalText p.ratio precision keepsPoint true mark

/-- The number nearest to a number among the decimals with some places behind the point, or, if there
are fewer than none, with zeros before it. -/
def roundedTo (x : Float) (places : Int) : Float :=
  match parts? x with
  | none => x
  | some p =>
    if 400 < places then x
    else if places < -400 then ofRatio p.isNegative 0 1
    else
      let (n, d) := (roundedAt p.ratio (-places)).ratio
      ofRatio p.isNegative n d

/-! ### Reading -/

def ofDecimal (negative : Bool) (digits : Nat) (exponent : Int) : Float :=
  if digits == 0 then ofRatio negative 0 1
  else
    let size : Int := (Nat.log2 digits : Int) * 3 / 10 + exponent
    if 400 < size then ofMagnitude negative (2047 * 2 ^ 52)
    else if size < -400 then ofRatio negative 0 1
    else if exponent < 0 then ofRatio negative digits (10 ^ exponent.natAbs)
    else ofRatio negative (digits * 10 ^ exponent.toNat) 1

def number (digits : Text) : Nat := digits.foldl (fun n c => n * 10 + (c.toNat - '0'.toNat)) 0

def unsigned (t : Text) : Bool × Text :=
  match t with
  | '-' :: rest => (true, rest)
  | '+' :: rest => (false, rest)
  | _ => (false, t)

def underscoresFit : Char → Text → Bool
  | previous, [] => previous != '_'
  | previous, c :: rest =>
    (if c == '_' then previous.isDigit else previous != '_' || c.isDigit) && underscoresFit c rest

/-- The number that a text without blanks around it stands for, in ASCII digits. -/
def ofText? (t : Text) : Option Float :=
  let (negative, body) := unsigned t
  let lower := body.map Char.toLower
  if ["inf", "infinity"].any fun word => lower == String.toList word then
    some (if negative then negativeInfinity else infinity)
  else if lower == "nan".toList then some undefined
  else if !underscoresFit 'x' body then none
  else
    let body := body.filter (· != '_')
    let whole := body.takeWhile Char.isDigit
    let rest := body.drop whole.length
    let (fraction, rest) := match rest with
      | '.' :: rest =>
        let fraction := rest.takeWhile Char.isDigit
        (fraction, rest.drop fraction.length)
      | _ => ([], rest)
    if whole.isEmpty && fraction.isEmpty then none
    else
      let power? : Option Int := match rest with
        | [] => some 0
        | e :: rest =>
          let (isSmall, digits) := unsigned rest
          if (e == 'e' || e == 'E') && !digits.isEmpty && digits.all Char.isDigit then
            let power : Int := number digits
            some (if isSmall then -power else power)
          else none
      power?.map fun power =>
        ofDecimal negative (number (whole ++ fraction)) (power - fraction.length)

end Forwarding.Floating
