import Forwarding.Script.Check
import Forwarding.Script.Compilation.Statement
import Forwarding.Script.Interpolation
import Forwarding.Script.Machine.Act
import Forwarding.Script.Reading
import Forwarding.Text.Lines

/-! The tree of a whole script, and code from it. -/

set_option autoImplicit false

namespace Forwarding.Script

open Text

/-- How often a string can stand inside an expression of a string. The marks around strings run out
before that. -/
def interpolationLimit : Nat := 8

/-- The words of a text, whose lines are counted from `line`. Strings are read up to a depth, and the
reasons of faults are told by `telling`. -/
def Source.ofText (telling : Fault.Reason → Fault.Reason) (depth : Nat) (t : Text) (line : Nat) :
    Source :=
  { tokens := .ofText t line
    telling
    strings := joinStrings (inside depth) telling }
where
  inside : Nat → Text → Nat → Except Fault Tree
    | 0, _, line => .error ⟨.interpolated (.mistake .nestedInside), line⟩
    | depth + 1, t, line =>
      Source.tree {
        tokens := .ofText t line
        telling := .interpolated
        strings := joinStrings (inside depth) .interpolated } .starExpressions

def parse (t : Text) : Except Fault Tree := (Source.ofText id interpolationLimit t 1).tree .script

/-! ### Code -/

def checkedTree (t : Text) : Except Fault Tree :=
  if t.contains '\x00' then .error ⟨.nullCharacter, 0⟩
  else do
    let tree ← parse t
    match Check.fault? t.length tree with
    | some fault => .error fault
    | none => return tree

def Fault.Kind.errorName : Fault.Kind → String
  | .words => "SyntaxError"
  | .indentation => "IndentationError"
  | .tabs => "TabError"
  | .value => "ValueError"

namespace Act

/-- The tree of a text that a script runs, whose last line need not be ended. -/
def treeOf (t : Text) : Act Tree := do
  let t := unixNewlines t
  match checkedTree (if t.getLast? == some '\n' then t else t ++ ['\n']) with
  | .ok tree => return tree
  | .error fault => fail fault.reason.kind.errorName (fault.messageIn "<string>")

def codeOf (t : Text) (isExpression : Bool) : Act Template := do
  if isExpression then
    let tree ← treeOf (t.dropWhile fun c => c == ' ' || c == '\t')
    match Template.ofExpression? tree with
    | some code => return code
    | none => fail "SyntaxError" "invalid syntax (<string>, line 1)"
  else return Template.ofScript true (← treeOf t)

end Act

end Forwarding.Script
