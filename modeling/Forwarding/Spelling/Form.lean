import Forwarding.Text.Basic
import Forwarding.Text.Identifier

/-! The form of a type spelling, and the normal form in which spellings are compared.

The form is what the outermost declarator and the qualifiers of a spelling say. A spelling is never changed where it
is emitted; here it is only looked at, with every stretch of blanks made a single space.

Spellings that differ only in white space around punctuation, or in how much white space there is, have one normal
form: single spaces, and none next to a punctuation mark.
-/

set_option autoImplicit false

namespace Forwarding

open Text

/-- How a value of a type is passed, by the last character of its spelling. -/
inductive Category where
  | value
  | reference
  | pointer
  deriving Repr, DecidableEq

def Category.word : Category → Text
  | .value => "value"
  | .reference => "reference"
  | .pointer => "pointer"

/-- A type spelling, classified. -/
structure TypeForm where
  spelling : Text
  category : Category
  isConst : Bool
  deriving Repr, DecidableEq

/-- A mark behind a type that says how its values are passed. -/
def Spelling.isDeclarator (c : Char) : Bool := c == '&' || c == '*'

namespace TypeForm

def categoryOf (spelling : Text) : Category :=
  match spelling.getLast? with
  | some '&' => .reference
  | some '*' => .pointer
  | _ => .value

def ofSpelling (spelling : Text) : TypeForm :=
  let squeezed := squeeze spelling
  ⟨squeezed, categoryOf squeezed, hasWord "const" squeezed⟩

def isVoid (form : TypeForm) : Bool := form.spelling == "void".toList

/-- The spelling without its outer declarators and without a leading or trailing `const`. -/
def base (form : TypeForm) : Text :=
  let core := strip (dropEnd Spelling.isDeclarator form.spelling)
  let core := if "const ".toList.isPrefixOf core then strip (core.drop 6) else core
  if " const".toList.isSuffixOf core then strip (core.take (core.length - 6)) else core

/-- The names that a spelling mentions. -/
def identifiers (form : TypeForm) : List Text := Text.identifiers form.spelling

end TypeForm

/-! ### The normal form -/

namespace Spelling

def isPunctuation (c : Char) : Bool := "&*<>,()".toList.contains c

/-- Drops the spaces next to punctuation; the flag says whether a mark has just been read. -/
def tighten (afterMark : Bool) : Text → Text
  | [] => []
  | c :: t =>
    if c == ' ' && (afterMark || t.head?.any isPunctuation) then tighten false t
    else c :: tighten (isPunctuation c) t

def normal (spelling : Text) : Text := tighten false (squeeze spelling)

end Spelling

end Forwarding
