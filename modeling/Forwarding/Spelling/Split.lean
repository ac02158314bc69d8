import Forwarding.Text.Basic

/-! Splitting a text at the separators outside its brackets.

Parentheses, square brackets and braces nest; angle brackets do not, so `Pair<int, int>` has two
pieces. A closing bracket that does not match the innermost open one is an ordinary character.
-/

set_option autoImplicit false

namespace Forwarding.Spelling

open Text

def isOpener (c : Char) : Bool := c == '(' || c == '[' || c == '\x7b'

def closes (opener close : Char) : Bool :=
  (opener == '(' && close == ')') || (opener == '[' && close == ']') ||
    (opener == '\x7b' && close == '\x7d')

def nest (brackets : List Char) (c : Char) : List Char :=
  if isOpener c then c :: brackets
  else match brackets with
    | [] => []
    | opener :: outer => if closes opener c then outer else opener :: outer

/-- The first piece and the others, read inside some open brackets. -/
def splitFrom (separator : Text) (brackets : List Char) : Text → Text × List Text
  | [] => ([], [])
  | c :: t =>
    let brackets := nest brackets c
    let (piece, more) := splitFrom separator brackets t
    if [c] == separator && brackets.isEmpty then ([], piece :: more) else (c :: piece, more)

/-- The pieces between the separators outside brackets, each stripped. Only a single character can
separate. -/
def split (separator t : Text) : List Text :=
  let (piece, more) := splitFrom separator [] t
  (piece :: more).map strip

def arguments (t : Text) : List Text := split [','] t

/-- Whether a comma stands outside all brackets. -/
def isComposite (t : Text) : Bool := (arguments t).length > 1

/-- Whether `<` and `>` pair up from left to right, whatever stands between them. -/
def anglesPair : Nat → Text → Bool
  | depth, [] => depth == 0
  | depth, c :: t =>
    if c == '<' then anglesPair (depth + 1) t
    else if c == '>' then
      match depth with
      | 0 => false
      | depth + 1 => anglesPair depth t
    else anglesPair depth t

def anglesBalanced (t : Text) : Bool := anglesPair 0 t

end Forwarding.Spelling
