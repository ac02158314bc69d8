import Forwarding.Fault
import Forwarding.Table.Basic
import Forwarding.Spelling.Split

/-! The lines of a table text, one by one.

A line is told by how it starts, after its blanks are stripped: `//` opens a comment, which may be a
section heading or a note, `#` a preprocessor line, of which includes are kept, `using` an alias, and
`PROXY(` or `PROXY_OVERLOAD(` a row. Outside full-line comments and preprocessor lines, what follows
`//` is ignored.
-/

set_option autoImplicit false

namespace Forwarding

open Text

/-- What a line of a table says. -/
inductive Line where
  | blank
  | comment
  | heading (name : Text)
  | note (kind : Note.Kind) (text : Text)
  | includes (header : Text)
  | ignored (text : Text)
  | defines (name underlying : Text)
  | row (form : RowForm) (text : Text)
  | unrecognized (text : Text)
  deriving Repr, DecidableEq

namespace Line

def withoutComment (t : Text) : Text :=
  if occurs "//" t then stripEnd (before "//" t) else t

/-- The text after a directive's name: no word character follows, one colon and blanks are skipped. -/
def directive? (name t : Text) : Option Text := do
  let rest ← after? name t
  if rest.head?.any isWordChar then none
  else
    let rest := stripStart rest
    return strip (match rest with
      | ':' :: rest => rest
      | rest => rest)

def ofComment (t : Text) : Line :=
  match stripStart (t.drop 2) with
  | '@' :: t =>
    match directive? "section" t, directive? "skip" t, directive? "todo" t with
    | some name, _, _ => .heading name
    | none, some text, _ => .note .skip text
    | none, none, some text => .note .todo text
    | none, none, none => .comment
  | _ => .comment

/-- A header in angle brackets or quotes. The opening and the closing mark need not match. -/
def isHeader (t : Text) : Bool :=
  let opens := fun c => c == '<' || c == '"'
  let closes := fun c => c == '>' || c == '"'
  t.length ≥ 3 && t.head?.any opens && t.getLast?.any closes

def afterBlanks? (t : Text) : Option Text :=
  if t.head?.any isBlank then some (stripStart t) else none

def header? (t : Text) : Option Text := do
  let rest ← after? "include" (stripStart (t.drop 1))
  let header ← afterBlanks? rest
  if isHeader header then some header else none

/-- The type of an alias: all but one semicolon at the end, unless nothing else is left. -/
def underlying (t : Text) : Text :=
  if t.getLast? == some ';' then
    let core := stripEnd t.dropLast
    if core.isEmpty then t else core
  else t

def alias? (t : Text) : Option (Text × Text) := do
  let rest ← after? "using" t
  let rest ← afterBlanks? rest
  match rest with
  | [] => none
  | c :: tail =>
    if !isIdentifierStart c then none
    else
      let name := c :: tail.takeWhile isWordChar
      match stripStart (tail.dropWhile isWordChar) with
      | '=' :: type =>
        let type := stripStart type
        if type.isEmpty then none else some (name, underlying type)
      | _ => none

def opensRow (form : RowForm) (t : Text) : Bool :=
  match after? form.word t with
  | none => false
  | some rest => (stripStart rest).head? == some '('

def ofText (raw : Text) : Line :=
  let t := strip raw
  if t.isEmpty then .blank
  else if "//".toList.isPrefixOf t then ofComment t
  else if t.head? == some '#' then
    match header? t with
    | some header => .includes header
    | none => .ignored t
  else
    let t := withoutComment t
    match alias? t with
    | some (name, type) => .defines name type
    | none =>
      if opensRow .overload t then .row .overload t
      else if opensRow .plain t then .row .plain t
      else .unrecognized t

end Line

end Forwarding
