import Forwarding.Floating.Digits
import Forwarding.Script.Machine.Dictionary
import Forwarding.Text.Quoted

/-! Constants: the values that can stand in a script, as text and as keys. -/

set_option autoImplicit false

namespace Forwarding.Script

open Text

def integerText (n : Int) : Text := if n < 0 then '-' :: decimal n.natAbs else decimal n.natAbs

def quotedBytes (t : Text) : Text :=
  let mark := quoteMark t
  let shown (c : Char) : Text :=
    if c == mark || c == '\\' then ['\\', c]
    else if c == '\n' then "\\n"
    else if c == '\r' then "\\r"
    else if c == '\t' then "\\t"
    else if 32 ≤ c.toNat && c.toNat < 127 then [c]
    else "\\x" ++ hexadecimal 2 c.toNat
  'b' :: mark :: t.flatMap shown ++ [mark]

def partText (x : Float) : Text :=
  let t := Floating.shown x
  if ['.', '0'].isSuffixOf t then t.take (t.length - 2) else t

def complexText (x y : Float) : Text :=
  if x == 0.0 && !Floating.isNegative x then partText y ++ ['j']
  else
    let imaginary := partText y
    ['('] ++ partText x ++ (if imaginary.head? == some '-' then [] else ['+']) ++ imaginary ++ ['j', ')']

/-- The code of a number; whole numbers have one, however they are written. -/
def numberCode (x : Float) : String :=
  match Floating.whole? x with
  | some n => "i" ++ toString n
  | none => "r" ++ toString x.toBits

namespace Value

def constantText : Value → Text
  | .ellipsis => "Ellipsis"
  | .truth b => if b then "True".toList else "False".toList
  | .integer n => integerText n
  | .real x => Floating.shown x
  | .complex x y => complexText x y
  | .text t => quoted t
  | .bytes t => quotedBytes t
  | _ => "None"

def constantCode? : Value → Option String
  | .nothing => some "n"
  | .ellipsis => some "e"
  | .truth b => some (if b then "i1" else "i0")
  | .integer n => some ("i" ++ toString n)
  | .real x => some (numberCode x)
  | .complex x y =>
    some (if y == 0.0 then numberCode x else "c" ++ numberCode x ++ "," ++ numberCode y)
  | .text t => some (Dictionary.textCode t)
  | .bytes t => some ("b" ++ String.ofList t)
  | _ => none

end Value

end Forwarding.Script
