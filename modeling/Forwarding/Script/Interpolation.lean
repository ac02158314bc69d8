import Forwarding.Script.Literal
import Forwarding.Script.Tree

/-! Strings that follow each other, and the expressions inside them.

Strings without a mark between them make one string. In an interpolated string, braces hold an
expression, which may be followed by a conversion and by a format that can hold braces once more; a
doubled brace is a brace. An expression may not contain a backslash or a comment.
-/

set_option autoImplicit false

namespace Forwarding.Script.Interpolation

open Text

/-- Text up to a brace that holds an expression, or to the end; then what is left, and whether text goes
on behind a doubled brace. -/
structure Piece where
  text : Text
  rest : Text
  goesOn : Bool

def Piece.after (before : Text) (p : Piece) : Piece := { p with text := before ++ p.text }

def isBrace (c : Char) : Bool := c == '\x7b' || c == '\x7d'

/-- A brace and what it does: doubled braces and lone closing ones are told apart at the top level only. -/
def brace (isNested : Bool) (c : Char) (rest : Text) : Except Fault.Reason Piece :=
  if isNested then .ok ⟨[], c :: rest, false⟩
  else if rest.head? == some c then .ok ⟨[c], rest.drop 1, true⟩
  else if c == '\x7d' then .error (.interpolated (.mistake .singleBrace))
  else .ok ⟨[], c :: rest, false⟩

/-- The piece that a text starts with. The count bounds the number of steps. -/
def piece (isRaw isNested : Bool) : Nat → Text → Except Fault.Reason Piece
  | 0, t => .ok ⟨[], t, false⟩
  | _, [] => .ok ⟨[], [], false⟩
  | count + 1, '\\' :: c :: rest =>
    if isRaw then (piece isRaw isNested count (c :: rest)).map (Piece.after ['\\'])
    else if c == 'N' then
      let (name, rest) := match rest with
        | '\x7b' :: t =>
          let name := t.takeWhile (· != '\x7d')
          let behind := t.drop name.length
          ('\x7b' :: name ++ behind.take 1, behind.drop 1)
        | t => (t.take 1, t.drop 1)
      (piece isRaw isNested count rest).map (Piece.after ('\\' :: c :: name))
    else if isBrace c then (brace isNested c rest).map (Piece.after ['\\'])
    else (piece isRaw isNested count rest).map (Piece.after ['\\', c])
  | count + 1, c :: rest =>
    if isBrace c then brace isNested c rest
    else (piece isRaw isNested count rest).map (Piece.after [c])

def isOpening (c : Char) : Bool := c == '(' || c == '[' || c == '\x7b'

def isClosing (c : Char) : Bool := c == ')' || c == ']' || c == '\x7d'

def partner (closing : Char) : Char :=
  if closing == ')' then '(' else if closing == ']' then '[' else '\x7b'

/-- Whether a character ends an expression outside brackets, given what follows it. -/
def endsExpression (c : Char) (rest : Text) : Bool :=
  ("!:\x7d=".toList.contains c) && !((c == '!' || c == '=') && rest.head? == some '=')

/-- The text of an expression and what is left behind it. The quote is that of a string inside the
expression, with a flag for three of them; the brackets are the open ones. -/
def expression (quote : Option Delimiter) (opened : List Char) :
    Nat → Text → Except Fault.Reason (Text × Text)
  | 0, t => .ok ([], t)
  | _, [] =>
    match quote, opened with
    | some _, _ => .error (.interpolated (.mistake .openInside))
    | none, opening :: _ => .error (.interpolated (.unmatched opening))
    | none, [] => .ok ([], [])
  | count + 1, c :: rest =>
    let go (quote : Option Delimiter) (opened : List Char) (taken : Text) (left : Text) :=
      (expression quote opened count left).map fun (text, behind) => (taken ++ text, behind)
    if c == '\\' then .error (.mistake .backslashInside)
    else
      match quote with
      | some d =>
        if d.text.isPrefixOf (c :: rest) then go none opened d.text ((c :: rest).drop d.text.length)
        else go quote opened [c] rest
      | none =>
        if c == '"' || c == '\x27' then
          let d : Delimiter := ⟨c, (List.replicate 2 c).isPrefixOf rest⟩
          go (some d) opened d.text ((c :: rest).drop d.text.length)
        else if isOpening c then
          if 200 ≤ opened.length then .error (.interpolated (.mistake .tooNestedInside))
          else go none (c :: opened) [c] rest
        else if c == '#' then .error (.mistake .commentInside)
        else if opened.isEmpty && endsExpression c rest then .ok ([], c :: rest)
        else if opened.isEmpty && "!=<>".toList.contains c && rest.head? == some '=' then
          go none opened [c, '='] (rest.drop 1)
        else if isClosing c then
          match opened with
          | [] => .error (.interpolated (.unmatched c))
          | opening :: outer =>
            if opening == partner c then go none outer [c] rest
            else .error (.interpolated (.mismatched c opening none))
        else go none opened [c] rest

def isEmpty (t : Text) : Bool := t.all fun c => c == ' ' || c == '\t' || c == '\n' || c == '\x0c'

/-- What an interpolated string is read with. -/
structure Surroundings where
  isRaw : Bool
  /-- The line of the furthest word of the script that has been seen. -/
  line : Nat
  /-- The line of a place inside the string, by what is left of it. -/
  lineOf : Text → Nat
  /-- How the reasons of faults are told. -/
  telling : Fault.Reason → Fault.Reason
  /-- Reads the tree of an expression, whose text starts on a line. -/
  read : Text → Nat → Except Fault Tree

variable (around : Surroundings)

def fail {α : Type} (reason : Fault.Reason) : Except Fault α :=
  .error ⟨around.telling reason, around.line⟩

def expectBrace {α : Type} : Except Fault α :=
  fail around (.interpolated (.expecting "'\x7d'"))

def constant (t : Text) : Except Fault (List Tree) :=
  if t.isEmpty then .ok []
  else if around.isRaw then .ok [.constant around.line (.text t)]
  else
    match unescape t with
    | .ok value => .ok [.constant around.line (.text value)]
    | .error fault => fail around (.escape fault)

mutual

/-- The parts of an interpolated string and what is left of it: nothing, or from a closing brace on in
a format. The first number bounds the steps. -/
def parts (level : Nat) : Nat → Text → Except Fault (List Tree × Text)
  | 0, t => .ok ([], t)
  | count + 1, t => do
    let p ← match piece around.isRaw (level != 0) t.length t with
      | .ok p => pure p
      | .error reason => fail around reason
    let before ← constant around p.text
    if p.goesOn then
      let (more, rest) ← parts level count p.rest
      return (before ++ more, rest)
    else
      match p.rest with
      | '\x7b' :: rest =>
        let (field, rest) ← field level count rest
        let (more, rest) ← parts level count rest
        return (before ++ field :: more, rest)
      | rest => return (before, rest)

/-- What stands behind an opening brace, up to the brace that closes it. -/
def field (level : Nat) : Nat → Text → Except Fault (Tree × Text)
  | 0, _ => expectBrace around
  | count + 1, t => do
    if 2 ≤ level then fail around (.interpolated (.mistake .nestedInside))
    else
      let (text, rest) ← match expression none [] (t.length + 1) t with
        | .ok found => pure found
        | .error reason => fail around reason
      if rest.isEmpty then expectBrace around
      else if isEmpty text then
        fail around <| .interpolated <|
          match rest.head? with
          | some '\x7d' | none => .mistake .emptyInside
          | some mark => .emptyBefore mark
      else
        let line := around.lineOf t
        let value ← around.read ('(' :: text ++ [')', '\n']) line
        let (isShown, rest) := match rest with
          | '=' :: rest => (true, rest.dropWhile fun c => c == ' ' || ('\t' ≤ c && c ≤ '\r'))
          | rest => (false, rest)
        let shownText := t.take (t.length - rest.length)
        if isShown && rest.isEmpty then expectBrace around
        else
          let (conversion, rest) ← match rest with
            | '!' :: conversion :: rest =>
              if "sra".toList.contains conversion then pure ([conversion], rest)
              else fail around (.interpolated (.mistake .conversion))
            | ['!'] => expectBrace around
            | rest => pure ([], rest)
          let (format, rest) ← match rest with
            | [':'] => expectBrace around
            | ':' :: rest => do
              let (format, rest) ← parts (level + 1) count rest
              if rest.head? != some '\x7d' then expectBrace around else pure (format, rest)
            | rest => pure ([], rest)
          match rest with
          | '\x7d' :: rest =>
            let how := if isShown && conversion.isEmpty && format.isEmpty then ['r'] else conversion
            let label := if isShown then [.constant line (.text shownText)] else []
            return (.group (label ++ [.node .field line [value, .constant line (.text how),
              .group format]]), rest)
          | _ => expectBrace around

end

end Interpolation

/-- The tree of strings that follow each other. Expressions inside are read by `read`, reasons of faults
are told by `telling`, and `line` is that of the furthest word seen. -/
def joinStrings (read : Text → Nat → Except Fault Tree) (telling : Fault.Reason → Fault.Reason)
    (tokens : List Token) (line : Nat) : Except Fault Tree := do
  let literals := tokens.filterMap fun token => (Literal.of? token.text).map fun l => (token, l.1)
  let isBytes := (literals.head?.map fun l => l.2.isBytes).getD false
  let pieces ← literals.mapM fun (token, l) => do
    let value ← if l.isInterpolated then pure []
      else if l.isBytes && l.body.any (fun c => 128 ≤ c.toNat) then
        .error ⟨telling (.mistake .wideBytes), token.line⟩
      else l.value.mapError fun reason => ⟨telling reason, line⟩
    if l.isBytes != isBytes then .error ⟨telling (.mistake .mixedStrings), line⟩
    else if !l.isInterpolated then pure [Tree.constant token.line (.text value)]
    else do
      let around : Interpolation.Surroundings := {
        isRaw := l.isRaw
        line
        lineOf := fun rest => token.line + (l.body.take (l.body.length - rest.length)).count '\n'
        telling
        read }
      return (← Interpolation.parts around 0 (l.body.length + 1) l.body).1
  let start := (tokens.head?.map (·.line)).getD line
  if literals.any fun l => l.2.isInterpolated then return .node .joined start pieces.flatten
  else
    let texts := pieces.flatten.filterMap fun
      | .constant _ (.text t) => some t
      | _ => none
    return .constant start (if isBytes then .bytes texts.flatten else .text texts.flatten)

end Forwarding.Script
