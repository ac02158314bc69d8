import Forwarding.Script.Literal
import Forwarding.Script.Tree
import Forwarding.Text.NameCharacter

/-! The words of a script, cut from its text.

Indentation at the start of a line is told by tokens of its own, except inside brackets and on lines
without words. A line can go on behind a backslash. Where the text cannot be cut, the cutting stops
with an interruption; some interruptions only matter to a reader that gets so far.
-/

set_option autoImplicit false

namespace Forwarding.Script

open Text

/-- Where the cutting of a text stops before its end. -/
structure Interruption where
  fault : Fault
  /-- Whether the fault counts even if the tokens before it cannot be put together. -/
  isDecisive : Bool
  /-- The open brackets with their lines, the innermost first. -/
  opened : List (Char × Nat)
  deriving Repr, DecidableEq

structure Tokens where
  tokens : Array Token
  interruption : Option Interruption

/-- What is left of a text, and what is known where it starts. -/
structure Lexer where
  rest : Text
  line : Nat
  /-- The widths of the open indentations, the innermost first: with a tab up to the next multiple
  of eight columns, and with a tab as one column. -/
  margins : List (Nat × Nat) := []
  /-- The open brackets with their lines, the innermost first. -/
  opened : List (Char × Nat) := []
  isLineStart : Bool := true
  /-- Whether the line has no words. -/
  isBlank : Bool := false
  tokens : Array Token := #[]

namespace Lexer

/-- How far a line is indented. -/
structure Margin where
  wide : Nat := 0
  narrow : Nat := 0
  /-- The first width before a backslash at the end of a line, if it is not zero. -/
  kept : Nat := 0
  /-- The number of such backslashes. -/
  lines : Nat := 0

def Margin.read (m : Margin) : Text → Margin × Text
  | ' ' :: t => Margin.read { m with wide := m.wide + 1, narrow := m.narrow + 1 } t
  | '\t' :: t => Margin.read { m with wide := (m.wide / 8 + 1) * 8, narrow := m.narrow + 1 } t
  | '\x0c' :: t => Margin.read { m with wide := 0, narrow := 0 } t
  | '\\' :: '\n' :: t =>
    Margin.read { m with kept := if m.kept == 0 then m.wide else m.kept, lines := m.lines + 1 } t
  | t => (m, t)

def Margin.widths (m : Margin) : Nat × Nat :=
  if m.kept == 0 then (m.wide, m.narrow) else (m.kept, m.kept)

def marginLimit : Nat := 98

def bracketLimit : Nat := 200

variable (s : Lexer)

def interrupt {α : Type} (reason : Fault.Reason) (isDecisive : Bool := true) :
    Except Interruption α :=
  .error ⟨⟨reason, s.line⟩, isDecisive, s.opened⟩

/-- Adds a token that starts on this line, with the text that is left behind it. -/
def push (kind : Token.Kind) (text rest : Text) : Lexer :=
  { s with rest, tokens := s.tokens.push ⟨kind, text, s.line, s.opened.length⟩ }

def dedent (wide : Nat) : Lexer :=
  let (closed, margins) := s.margins.span fun margin => wide < margin.1
  let after := closed.foldl (fun s _ => s.push .dedent [] s.rest) s
  { after with margins }

def indent (widths : Nat × Nat) : Except Interruption Lexer :=
  let current := s.margins.head?.getD (0, 0)
  if current.1 < widths.1 then
    if marginLimit ≤ s.margins.length then s.interrupt (.mistake .tooIndented) false
    else if widths.2 ≤ current.2 then s.interrupt (.mistake .mixedTabs) false
    else .ok { s.push .indent [] s.rest with margins := widths :: s.margins }
  else
    let after := s.dedent widths.1
    let current := after.margins.head?.getD (0, 0)
    if current.1 != widths.1 then s.interrupt (.mistake .unevenIndentation) false
    else if current.2 != widths.2 then s.interrupt (.mistake .mixedTabs) false
    else .ok after

def lineStart : Except Interruption Lexer :=
  let (margin, rest) := Margin.read {} s.rest
  let s := { s with rest, line := s.line + margin.lines, isLineStart := false }
  match rest with
  | '\\' :: _ => s.interrupt (.mistake .backslash) false
  | '#' :: _ | '\n' :: _ => .ok { s with isBlank := true }
  | _ =>
    let s := { s with isBlank := false }
    if s.opened.isEmpty then s.indent margin.widths else .ok s

def name : Except Interruption Lexer :=
  let text := s.rest.takeWhile Number.isJoining
  let strange := match text with
    | c :: t => if !isNameStart c then some c else t.find? fun c => !isNameRest c
    | [] => none
  match strange with
  | some c => s.interrupt (.strangeCharacter c)
  | none => .ok (s.push .name text (s.rest.drop text.length))

def literal (before : Text) (d : Delimiter) : Except Interruption Lexer :=
  let inside := s.rest.drop (before.length + d.text.length)
  match closed? d inside with
  | some (_, rest) =>
    let text := s.rest.take (s.rest.length - rest.length)
    .ok { s.push .literal text rest with line := s.line + text.count '\n' }
  | none =>
    s.interrupt <|
      if d.isTriple then .openLiteral (s.line - 1 + s.rest.count '\n')
      else .openLine (s.line + openLines inside)

def number : Except Interruption Lexer :=
  match Number.rest s.rest with
  | .error reason => s.interrupt reason
  | .ok rest => .ok (s.push .number (s.rest.take (s.rest.length - rest.length)) rest)

def partner (closing : Char) : Char :=
  if closing == ')' then '(' else if closing == ']' then '[' else '\x7b'

def longMarks : List Text :=
  ["**=", "//=", ">>=", "<<=", "...", "!=", "%=", "&=", "**", "*=", "+=", "-=", "->", "//", "/=",
    ":=", "<<", "<=", "<>", "==", ">=", ">>", "@=", "^=", "|="].map String.toList

def mark (c : Char) (rest : Text) : Except Interruption Lexer :=
  match longMarks.find? fun m => m.isPrefixOf (c :: rest) with
  | some m => .ok (s.push .mark m ((c :: rest).drop m.length))
  | none =>
    if c == '(' || c == '[' || c == '\x7b' then
      if bracketLimit ≤ s.opened.length then s.interrupt (.mistake .tooNested)
      else .ok (({ s with opened := (c, s.line) :: s.opened }).push .mark [c] rest)
    else if c == ')' || c == ']' || c == '\x7d' then
      match s.opened with
      | [] => s.interrupt (.unmatched c)
      | (opening, line) :: outer =>
        if opening == partner c then .ok (({ s with opened := outer }).push .mark [c] rest)
        else s.interrupt (.mismatched c opening (if line == s.line then none else some line))
    else if !isPrintable c then s.interrupt (.strangeCharacter c)
    else .ok (s.push .mark [c] rest)

def isSpace (c : Char) : Bool := c == ' ' || c == '\t' || c == '\x0c'

def step : Except Interruption Lexer :=
  if s.isLineStart then s.lineStart
  else
    let here := s.rest.dropWhile isSpace
    let s := { s with rest := if here.head? == some '#' then here.dropWhile (· != '\n') else here }
    match s.rest with
    | [] =>
      match s.opened with
      | (opening, line) :: _ => .error ⟨⟨.neverClosed opening, line⟩, false, s.opened⟩
      | [] => .ok (s.push .finish [] [])
    | '\n' :: rest =>
      let after := if s.isBlank || !s.opened.isEmpty then { s with rest } else s.push .newline [] rest
      .ok { after with line := if rest.isEmpty then s.line else s.line + 1, isLineStart := true }
    | '\\' :: rest =>
      match rest with
      | '\n' :: rest => .ok { s with rest, line := s.line + 1 }
      | _ => s.interrupt (.mistake .backslash) false
    | c :: rest =>
      match Literal.opening? s.rest with
      | some (before, d) => s.literal before d
      | none =>
        if c.isDigit || (c == '.' && rest.head?.any Char.isDigit) then s.number
        else if Number.isJoining c then s.name
        else s.mark c rest

def isFinished : Bool := s.tokens.back?.any fun t => t.kind == .finish

/-- Reads on to the end; the count bounds the number of steps. -/
def run : Nat → Lexer → Tokens
  | 0, s => ⟨s.tokens, none⟩
  | count + 1, s =>
    if s.isFinished then ⟨s.tokens, none⟩
    else
      match s.step with
      | .ok s => run count s
      | .error interruption => ⟨s.tokens, some interruption⟩

end Lexer

def Tokens.ofText (t : Text) (line : Nat := 1) : Tokens :=
  Lexer.run (2 * t.length + 4) { rest := t, line }

end Forwarding.Script
