import Forwarding.Text.Basic

/-! Words of a command line: reading them with quotes and escapes, and quoting one.

Blanks separate words. Single quotes keep everything, double quotes all but a backslash before a
backslash or a double quote, and outside quotes a backslash keeps the next character.
-/

set_option autoImplicit false

namespace Forwarding.Text.ShellWords

/-- Why a line has no words: it ends inside quotes, or after a backslash. -/
inductive Unfinished where
  | quotation
  | escape
  deriving Repr, DecidableEq

def Unfinished.message : Unfinished → Text
  | .quotation => "No closing quotation"
  | .escape => "No escaped character"

/-- Where reading stands: outside quotes, inside a pair of them, or after a backslash. -/
inductive Mode where
  | plain
  | quotes (mark : Char)
  | escape (inside : Option Char)
  deriving Repr, DecidableEq

def isSeparator (c : Char) : Bool := c == ' ' || c == '\t' || c == '\r' || c == '\n'

def isMark (c : Char) : Bool := c == '"' || c == '\x27'

/-- Adds characters to the word being read, which starts with them if there is none yet. -/
def extend (word : Option Text) (more : Text) : Option Text := some (word.getD [] ++ more)

/-- Reads on in a mode; `word` is what has been read of the current word, if one has begun. -/
def readFrom (mode : Mode) (word : Option Text) : Text → Except Unfinished (List Text)
  | [] =>
    match mode with
    | .plain => .ok word.toList
    | .quotes _ => .error .quotation
    | .escape _ => .error .escape
  | c :: t =>
    match mode with
    | .plain =>
      if isSeparator c then (readFrom .plain none t).map (word.toList ++ ·)
      else if isMark c then readFrom (.quotes c) (extend word []) t
      else if c == '\\' then readFrom (.escape none) (extend word []) t
      else readFrom .plain (extend word [c]) t
    | .quotes mark =>
      if c == mark then readFrom .plain word t
      else if c == '\\' && mark == '"' then readFrom (.escape (some mark)) word t
      else readFrom (.quotes mark) (extend word [c]) t
    | .escape none => readFrom .plain (extend word [c]) t
    | .escape (some mark) =>
      let kept : Text := if c == '\\' || c == mark then [c] else ['\\', c]
      readFrom (.quotes mark) (extend word kept) t

def read (t : Text) : Except Unfinished (List Text) := readFrom .plain none t

def isSafe (c : Char) : Bool :=
  c.isAlphanum || "_@%+=:,./-".toList.contains c

/-- A word as a command line has it: in single quotes if it is empty or some character needs them. -/
def write (word : Text) : Text :=
  if word.isEmpty then ['\x27', '\x27']
  else if word.all isSafe then word
  else ['\x27'] ++ replace ['\x27'] ['\x27', '"', '\x27', '"', '\x27'] word ++ ['\x27']

end Forwarding.Text.ShellWords
