import Forwarding.Text.Quoted

/-! Forwarding functions of a script, and the lines that define them.

A function takes a subject and its parameters, and passes some of them on to a single call of a method
of the subject. A method whose name is a word of the language is looked up by that name.
-/

set_option autoImplicit false

namespace Forwarding.Script

open Text

/-- The words of the language that cannot follow a dot, in the order of the alphabet. -/
def reservedWords : List Text :=
  ["False", "None", "True", "and", "as", "assert", "async", "await", "break", "class", "continue",
    "def", "del", "elif", "else", "except", "finally", "for", "from", "global", "if", "import",
    "in", "is", "lambda", "nonlocal", "not", "or", "pass", "raise", "return", "try", "while", "with",
    "yield"].map String.toList

structure Function where
  symbol : Text
  /-- The parameters after the subject. -/
  parameters : List Text
  document : Text
  method : Text
  /-- The names that are passed on. -/
  passed : List Text
  deriving Repr, DecidableEq

/-- Three double quotes, which open and close a document string. -/
def documentMark : Text := ['"', '"', '"']

def access (method : Text) : Text :=
  if reservedWords.contains method then "getattr(subject, " ++ quoted method ++ ")"
  else "subject." ++ method

def Function.lines (f : Function) : List Text :=
  [[], [],
    "def " ++ f.symbol ++ "(" ++ join ", " ("subject" :: f.parameters) ++ "):",
    "    " ++ documentMark ++ f.document ++ documentMark,
    "    return " ++ access f.method ++ "(" ++ join ", " f.passed ++ ")"]

def symbolLines (symbols : List Text) : List Text :=
  let listed : List Text := symbols.map fun symbol => "    \"" ++ symbol ++ "\","
  [] :: [] :: "__all__ = [".toList :: listed ++ [[']']]

end Forwarding.Script
