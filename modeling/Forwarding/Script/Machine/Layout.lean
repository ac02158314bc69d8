import Forwarding.Floating.Digits
import Forwarding.Script.Fault

/-! How values are laid out as text: filled up to a width, with or without a sign, in some base, with marks
between groups of digits, with so many digits.

A layout is written as a fill and where it goes, a sign, `z`, `#`, `0`, a width, a mark between groups, a
precision, and a letter, each of which may be missing.
-/

set_option autoImplicit false

namespace Forwarding.Script

open Text

structure Layout where
  fill : Char := ' '
  /-- Where the value stands: `<`, `>`, `^`, or `=` for a fill behind the sign. -/
  align : Char := '>'
  sign : Option Char := none
  /-- Takes the sign of a zero away. -/
  sparesZero : Bool := false
  isAlternate : Bool := false
  width : Nat := 0
  grouping : Option Char := none
  precision : Option Nat := none
  letter : Option Char := none
  deriving Repr, DecidableEq

namespace Layout

abbrev Outcome (α : Type) := Except Raised α

def fail {α : Type} (kind : String) (words : Text) : Outcome α := .error (.of kind words)

def valueFault {α : Type} (words : Text) : Outcome α := fail "ValueError" words

def isAlign (c : Char) : Bool := c == '<' || c == '>' || c == '=' || c == '^'

def numberAt (t : Text) : Outcome (Option Nat × Text) :=
  let digits := t.takeWhile Char.isDigit
  if digits.isEmpty then .ok (none, t)
  else
    let n := digits.foldl (fun n c => n * 10 + (c.toNat - '0'.toNat)) 0
    if 2 ^ 63 ≤ n then valueFault "Too many decimal digits in format string"
    else .ok (some n, t.drop digits.length)

def taking (p : Char → Bool) (t : Text) : Option Char × Text :=
  match t with
  | c :: rest => if p c then (some c, rest) else (none, t)
  | [] => (none, [])

def groupingAt (t : Text) : Outcome (Option Char × Text) :=
  match t with
  | ',' :: '_' :: _ | '_' :: ',' :: _ => valueFault "Cannot specify both ',' and '_'."
  | ',' :: rest => .ok (some ',', rest)
  | '_' :: rest => .ok (some '_', rest)
  | _ => .ok (none, t)

def allowsGroups (mark : Char) (letter : Option Char) : Bool :=
  match letter with
  | none => true
  | some c => "deEfFgG%".toList.contains c || (mark == '_' && "boxX".toList.contains c)

/-- Reads a layout for values of a class, which stand at a side unless the layout says otherwise. -/
def read (t kind : Text) (side : Char) (letter : Option Char) : Outcome Layout := do
  let (fill, align, rest) := match t with
    | c :: a :: rest =>
      if isAlign a then (some c, some a, rest)
      else if isAlign c then (none, some c, a :: rest) else (none, none, t)
    | [c] => if isAlign c then (none, some c, []) else (none, none, t)
    | [] => (none, none, [])
  let (sign, rest) := taking (fun c => c == '+' || c == '-' || c == ' ') rest
  let (spares, rest) := taking (· == 'z') rest
  let (alternate, rest) := taking (· == '#') rest
  let (zero, rest) := if fill.isNone then taking (· == '0') rest else (none, rest)
  let (width, rest) ← numberAt rest
  let (grouping, rest) ← groupingAt rest
  let (precision, rest) ← match rest with
    | '.' :: rest => do
      let (n, rest) ← numberAt rest
      if n.isNone then valueFault "Format specifier missing precision" else pure (n, rest)
    | _ => pure (none, rest)
  let found ← match rest with
    | [] => pure letter
    | [c] => pure (some c)
    | _ => valueFault ("Invalid format specifier '" ++ t ++ "' for object of type '" ++ kind ++ ['\x27'])
  match grouping with
  | some mark =>
    if !allowsGroups mark found then
      valueFault ("Cannot specify '" ++ [mark] ++ "' with '" ++ found.toList ++ "'.")
  | none => pure ()
  return {
    fill := (fill.or (zero.map fun _ => '0')).getD ' '
    align := align.getD (if zero.isSome && side == '>' then '=' else side)
    sign
    sparesZero := spares.isSome
    isAlternate := alternate.isSome
    width := width.getD 0
    grouping
    precision
    letter := found }

def unknownCode {α : Type} (letter : Option Char) (kind : Text) : Outcome α :=
  valueFault ("Unknown format code '" ++ letter.toList ++ "' for object of type '" ++ kind ++ ['\x27'])

/-- A text filled up to the width, its first characters kept before a fill in the middle. -/
def filled (l : Layout) (before t : Text) : Text :=
  let count := l.width - before.length - t.length
  let fill (n : Nat) : Text := List.replicate n l.fill
  match l.align with
  | '<' => before ++ t ++ fill count
  | '^' => fill (count / 2) ++ before ++ t ++ fill (count - count / 2)
  | '=' => before ++ fill count ++ t
  | _ => fill count ++ before ++ t

def grouped (mark : Char) (size : Nat) (digits : Text) : Text :=
  let rec go : Text → Nat → Text → Text
    | [], _, found => found
    | c :: rest, count, found =>
      if count == size then go rest 1 (c :: mark :: found) else go rest (count + 1) (c :: found)
  go digits.reverse 0 []

/-- Zeros in front of digits, until they have some length with their marks. -/
def groupedUpTo (mark : Char) (size width : Nat) : Nat → Text → Text
  | 0, digits => grouped mark size digits
  | count + 1, digits =>
    let found := grouped mark size digits
    if found.length < width then groupedUpTo mark size width count ('0' :: digits) else found

def signText (l : Layout) (isNegative : Bool) : Text :=
  if isNegative then ['-']
  else
    match l.sign with
    | some '+' => ['+']
    | some ' ' => [' ']
    | _ => []

/-- A number from its sign, what stands before its digits, these, and what stands behind them. -/
def number (l : Layout) (isNegative : Bool) (before digits behind : Text) (size : Nat) : Text :=
  let front := l.signText isNegative ++ before
  match l.grouping with
  | none => l.filled front (digits ++ behind)
  | some mark =>
    let room := if l.fill == '0' && l.align == '=' then l.width - front.length - behind.length else 0
    l.filled front (groupedUpTo mark size room l.width digits ++ behind)

def digitsIn (base : Nat) (isUpper : Bool) (n : Nat) : Text :=
  let digits := Nat.toDigits base n
  if isUpper then digits.map Char.toUpper else digits

def floating (l : Layout) (kind : Text) (x : Float) : Outcome Text := do
  if 2 ^ 31 - 1 < l.precision.getD 0 then valueFault "precision too big"
  let precision := l.precision.getD 6
  let size := Floating.absolute x
  let body (layout : Floating.Layout) (mark : Char) (x : Float) : Text :=
    Floating.written layout precision l.isAlternate mark x
  let t : Text ← match l.letter with
    | none =>
      pure <| match l.precision with
        | none => Floating.shown size
        | some p => Floating.written .pointed p l.isAlternate 'e' size
    | some c =>
      match c with
      | 'f' | 'F' => pure (body .fixed 'e' size)
      | 'e' => pure (body .scientific 'e' size)
      | 'E' => pure ((body .scientific 'E' size).map Char.toUpper)
      | 'g' | 'n' => pure (body .general 'e' size)
      | 'G' => pure ((body .general 'E' size).map Char.toUpper)
      | '%' => pure (body .fixed 'e' (size * 100.0) ++ ['%'])
      | _ => unknownCode l.letter kind
  let t := if l.letter == some 'F' then t.map Char.toUpper else t
  let isZero := t.all fun c => !c.isDigit || c == '0'
  let isNegative := Floating.isNegative x && !(l.sparesZero && isZero) && x == x
  let digits := t.takeWhile Char.isDigit
  return l.number isNegative [] digits (t.drop digits.length) 3

def integer (l : Layout) (kind : Text) (n : Int) : Outcome Text := do
  let whole (base : Nat) (before : Text) (size : Nat) : Outcome Text :=
    if l.precision.isSome then valueFault "Precision not allowed in integer format specifier"
    else if l.sparesZero then
      valueFault "Negative zero coercion (z) not allowed in integer format specifier"
    else
      .ok (l.number (n < 0) (if l.isAlternate then before else [])
        (digitsIn base (l.letter == some 'X') n.natAbs) [] size)
  match l.letter with
  | none | some 'd' | some 'n' => whole 10 [] 3
  | some 'b' => whole 2 "0b" 4
  | some 'o' => whole 8 "0o" 4
  | some 'x' => whole 16 "0x" 4
  | some 'X' => whole 16 "0X" 4
  | some 'c' =>
    if l.precision.isSome then valueFault "Precision not allowed in integer format specifier"
    else if l.sign.isSome then valueFault "Sign not allowed with integer format specifier 'c'"
    else if l.isAlternate then
      valueFault "Alternate form (#) not allowed with integer format specifier 'c'"
    else if n < 0 || 0x10FFFF < n then fail "OverflowError" "%c arg not in range(0x110000)"
    else .ok (l.filled [] [Char.ofNat n.toNat])
  | some c =>
    if "eEfFgG%".toList.contains c then
      let x := Floating.ofInteger n
      if Floating.isFinite x then l.floating kind x
      else fail "OverflowError" "int too large to convert to float"
    else unknownCode l.letter kind

def textual (l : Layout) (kind t : Text) : Outcome Text :=
  let refuse (what : String) : Outcome Text :=
    valueFault (what.toList ++ " not allowed in string format specifier")
  if l.letter != some 's' then unknownCode l.letter kind
  else if l.sign == some ' ' then refuse "Space"
  else if l.sign.isSome then refuse "Sign"
  else if l.sparesZero then refuse "Negative zero coercion (z)"
  else if l.isAlternate then refuse "Alternate form (#)"
  else if l.align == '=' then valueFault "'=' alignment not allowed in string format specifier"
  else .ok (l.filled [] (t.take (l.precision.getD t.length)))

end Layout

end Forwarding.Script
