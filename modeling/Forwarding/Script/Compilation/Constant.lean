import Forwarding.Floating.Digits
import Forwarding.Script.Machine.Value
import Forwarding.Script.Number
import Forwarding.Script.Tree

/-! The values of words, numbers and literals of a script. -/

set_option autoImplicit false

namespace Forwarding.Script.Compilation

open Text

def numberValue (t : Text) : Value :=
  match Number.value? t with
  | some n => .integer n
  | none =>
    let t := t.filter (· != '_')
    let isImaginary := match t.getLast? with
      | some c => c == 'j' || c == 'J'
      | none => false
    let x := ((Floating.ofText? (if isImaginary then t.dropLast else t))).getD 0.0
    if isImaginary then .complex 0.0 x else .real x

def wordValue? (word : Text) : Option Value :=
  match String.ofList word with
  | "None" => some .nothing
  | "True" => some (.truth true)
  | "False" => some (.truth false)
  | "..." => some .ellipsis
  | _ => none

def literalValue (tree : Tree) : Value :=
  match tree with
  | .constant _ (.text t) => .text t
  | .constant _ (.bytes t) => .bytes t
  | .leaf token => plain token
  | .node .unary _ [_, .leaf token] => negative (plain token)
  | .node .binary _ [.leaf first, mark, .leaf second] => sum (plain first) mark.text (plain second)
  | .node .binary _ [.node .unary _ [_, .leaf first], mark, .leaf second] =>
    sum (negative (plain first)) mark.text (plain second)
  | _ => .nothing
where
  plain (token : Token) : Value :=
    if token.kind == .number then numberValue token.text else (wordValue? token.text).getD .nothing
  negative : Value → Value
    | .integer n => .integer (-n)
    | .real x => .real (-x)
    | .complex x y => .complex (-x) (-y)
    | other => other
  sum (first : Value) (mark : Text) (second : Value) : Value :=
    let x := match first with
      | .integer n => Floating.ofInteger n
      | .real x => x
      | _ => 0.0
    match second with
    | .complex _ y => .complex x (if mark == ['-'] then -y else y)
    | _ => first

end Forwarding.Script.Compilation
