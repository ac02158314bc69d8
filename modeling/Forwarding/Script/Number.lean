import Forwarding.Script.Fault

/-! Numbers of a script.

A number is a run of decimal digits with a fraction and an exponent, or digits of another base behind a
zero and a letter. Single underscores may stand between digits, and an imaginary number ends in a
letter. No ASCII letter or underscore may follow, except in a few words that go on with an expression.
Each function here takes what may be left of a number and gives the text behind it.
-/

set_option autoImplicit false

namespace Forwarding.Script.Number

open Text

def isJoining (c : Char) : Bool := c.isAlphanum || c == '_' || 128 ≤ c.toNat

def isFollowed (t : Text) : Bool :=
  (["and", "else", "for", "or", "not"].any fun word =>
      match after? word t with
      | some rest => !rest.head?.any isJoining
      | none => false) ||
    ["if", "in", "is"].any fun word => (String.toList word).isPrefixOf t

def ending (form : NumberForm) (t : Text) : Except Fault.Reason Text :=
  if !isFollowed t && t.head?.any (fun c => isJoining c && c.toNat < 128) then
    .error (.malformedNumber form)
  else .ok t

def digits : Text → Except Fault.Reason Text
  | [] => .ok []
  | ['_'] => .error (.malformedNumber .decimal)
  | '_' :: c :: t => if c.isDigit then digits t else .error (.malformedNumber .decimal)
  | c :: t => if c.isDigit then digits t else .ok (c :: t)

def suffix (t : Text) : Except Fault.Reason Text :=
  match t with
  | 'j' :: t | 'J' :: t => ending .imaginary t
  | _ => ending .decimal t

def isSign (c : Char) : Bool := c == '+' || c == '-'

/-- An exponent, if there is one, and the end. A letter that no digit follows is not an exponent. -/
def exponent (t : Text) : Except Fault.Reason Text :=
  match t with
  | e :: s :: rest =>
    if e != 'e' && e != 'E' then suffix t
    else if s.isDigit then digits rest >>= suffix
    else if !isSign s then ending .decimal t
    else
      match rest with
      | d :: rest => if d.isDigit then digits rest >>= suffix else .error (.malformedNumber .decimal)
      | [] => .error (.malformedNumber .decimal)
  | _ => suffix t

def fraction (t : Text) : Except Fault.Reason Text :=
  match t with
  | c :: rest => if c.isDigit then digits rest >>= exponent else exponent t
  | [] => .ok []

def zeros : Text → Except Fault.Reason Text
  | '0' :: t => zeros t
  | ['_'] => .error (.malformedNumber .decimal)
  | '_' :: c :: t =>
    if c == '0' then zeros t
    else if c.isDigit then .ok (c :: t) else .error (.malformedNumber .decimal)
  | t => .ok t

/-- What follows a zero. Only a number that turns out to have a fraction may begin with one. -/
def afterZero (t : Text) : Except Fault.Reason Text := do
  let t ← zeros t
  let isLong := t.head?.any Char.isDigit
  let t ← if isLong then digits t else pure t
  match t with
  | '.' :: rest => fraction rest
  | c :: _ =>
    if "eEjJ".toList.contains c then exponent t
    else if isLong then .error (.mistake .leadingZeros) else ending .decimal t
  | [] => .ok []

def wrongDigit (form : NumberForm) (c : Char) : Fault.Reason :=
  if form != .hexadecimal && c.isDigit then .malformedDigit c form else .malformedNumber form

/-- Digits of a base; `needed` says that one has to come next. -/
def radix (form : NumberForm) (isDigit : Char → Bool) (needed : Bool) :
    Text → Except Fault.Reason Text
  | [] => if needed then .error (.malformedNumber form) else .ok []
  | c :: t =>
    if isDigit c then radix form isDigit false t
    else if needed then .error (wrongDigit form c)
    else if c == '_' then radix form isDigit true t
    else if form != .hexadecimal && c.isDigit then .error (.malformedDigit c form)
    else ending form (c :: t)

def afterRadix (form : NumberForm) (isDigit : Char → Bool) (t : Text) :
    Except Fault.Reason Text :=
  radix form isDigit true (if t.head? == some '_' then t.drop 1 else t)

def isOctal (c : Char) : Bool := '0' ≤ c && c ≤ '7'

def isHexadecimal (c : Char) : Bool :=
  c.isDigit || ('a' ≤ c && c ≤ 'f') || ('A' ≤ c && c ≤ 'F')

def isBinary (c : Char) : Bool := c == '0' || c == '1'

def rest (t : Text) : Except Fault.Reason Text :=
  match t with
  | '.' :: t => fraction t
  | '0' :: 'x' :: t | '0' :: 'X' :: t => afterRadix .hexadecimal isHexadecimal t
  | '0' :: 'o' :: t | '0' :: 'O' :: t => afterRadix .octal isOctal t
  | '0' :: 'b' :: t | '0' :: 'B' :: t => afterRadix .binary isBinary t
  | '0' :: t => afterZero t
  | _ :: t => do
    match ← digits t with
    | '.' :: t => fraction t
    | t => exponent t
  | [] => .ok []

def digitValue (c : Char) : Nat :=
  if c.isDigit then c.toNat - '0'.toNat else c.toLower.toNat - 'a'.toNat + 10

def numeral (base : Nat) (digits : Text) : Nat :=
  digits.foldl (fun value c => value * base + digitValue c) 0

/-- The value of a whole number, none for one with a fraction, an exponent or an imaginary part. -/
def value? (t : Text) : Option Nat :=
  let t := t.filter (· != '_')
  match t with
  | '0' :: 'x' :: t | '0' :: 'X' :: t => some (numeral 16 t)
  | '0' :: 'o' :: t | '0' :: 'O' :: t => some (numeral 8 t)
  | '0' :: 'b' :: t | '0' :: 'B' :: t => some (numeral 2 t)
  | t => if t.all Char.isDigit then some (numeral 10 t) else none

end Forwarding.Script.Number
