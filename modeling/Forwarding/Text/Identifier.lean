import Forwarding.Text.Basic
import Forwarding.Text.Alphanumeric

/-! Identifiers, as a name and as tokens inside a longer text.

A name is checked strictly, in unaccented letters, digits and underscores, but one line feed after it
is let pass. Tokens are looser: they may go on with any word character.
-/

set_option autoImplicit false

namespace Forwarding.Text

def isIdentifierStart (c : Char) : Bool := c.isAlpha || c == '_'

def isIdentifierRest (c : Char) : Bool := c.isAlphanum || c == '_'

def dropNewline (t : Text) : Text :=
  if t.getLast? == some '\n' then t.dropLast else t

/-- A letter or underscore, then letters, digits and underscores. -/
def isIdentifierCore : Text → Bool
  | [] => false
  | c :: t => isIdentifierStart c && t.all isIdentifierRest

def isIdentifier (t : Text) : Bool := isIdentifierCore (dropNewline t)

/-- The identifier tokens of a text. A token may start inside a word, after a digit for instance. -/
def identifiers (t : Text) : List Text := runs isIdentifierStart isWordChar t

/-- Whether `word` occurs in a text with no word character next to it; `before` is what precedes. -/
def hasWordAfter (word : Text) (previous : Option Char) : Text → Bool
  | [] => false
  | c :: t =>
    (word.isPrefixOf (c :: t) && !(previous.any isWordChar) &&
        !(((c :: t).drop word.length).head?.any isWordChar)) ||
      hasWordAfter word (some c) t

def hasWord (word t : Text) : Bool := hasWordAfter word none t

end Forwarding.Text
