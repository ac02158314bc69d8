import Forwarding.Log.Event
import Forwarding.Table.Basic
import Forwarding.Table.Line
import Forwarding.Text.Lines

/-! Reading a table from its text.

The lines are read one after the other. A row whose parentheses are still open at the end of its line
goes on with the next lines, joined by spaces, until they are closed; its place is its first line.
Notes and rows stand under the last heading before them.
-/

set_option autoImplicit false

namespace Forwarding

open Text

namespace Declaration

def afterParenthesis (t : Text) : Text := (t.dropWhile (· != '(')).drop 1

/-- The row that some arguments make. One empty argument after the leading ones means that there are
no parameters. -/
def ofArguments (form : RowForm) (arguments : List Text) : Except Cause Declaration :=
  match form, arguments with
  | .plain, subject :: result :: method :: types => make subject result method [] types
  | .overload, subject :: result :: method :: tag :: types => make subject result method tag types
  | form, arguments => .error (.tooFewArguments form arguments.length)
where
  make (subject result method tag : Text) (types : List Text) : Except Cause Declaration :=
    let types := if types == [[]] then [] else types
    if subject.isEmpty then .error (.emptyPart form .subject)
    else if result.isEmpty then .error (.emptyPart form .result)
    else if method.isEmpty then .error (.emptyPart form .method)
    else if types.any List.isEmpty then .error (.emptyPart form .parameter)
    else .ok { subject, result, method, tag, parameters := types }

/-- Reads a row that starts with its form and an opening parenthesis. Only a semicolon may follow the
closing one. -/
def ofText (form : RowForm) (t : Text) : Except Cause Declaration :=
  match enclosed 1 (afterParenthesis t) with
  | none => .error (.unbalancedRow form)
  | some (inside, rest) =>
    let rest := strip rest
    if rest.isEmpty || rest == [';'] then ofArguments form (Spelling.arguments inside)
    else .error (.textAfterRow form rest)

end Declaration

/-- A row that is not complete yet: its form, its text so far, and the line it starts on. -/
structure Pending where
  form : RowForm
  text : Text
  start : Nat
  deriving Repr, DecidableEq

/-- What has been read of a table. -/
structure Reader where
  source : Text
  table : Table
  heading : Text := []
  pending : Option Pending := none
  deriving Repr, DecidableEq

namespace Reader

def start (source : Text) : Reader := { source, table := { sources := [source] } }

variable (r : Reader)

def place (number : Nat) : Text := r.source ++ ":" ++ decimal number

def fault (cause : Cause) (number : Nat) : Fault := ⟨cause, some (r.place number)⟩

/-- Whether more parentheses are opened than closed. -/
def isOpen (t : Text) : Bool := t.count ')' < t.count '('

def addRow (form : RowForm) (t : Text) (number : Nat) : Except Fault Reader :=
  match Declaration.ofText form t with
  | .error cause => .error (r.fault cause number)
  | .ok d =>
    .ok { r with
      table := r.table.declare { d with heading := r.heading, origin := some (r.place number) }
      pending := none }

def step (number : Nat) (raw : Text) : Except Fault Reader :=
  match r.pending with
  | some p =>
    let text := p.text ++ " " ++ Line.withoutComment (strip raw)
    if isOpen text then .ok { r with pending := some { p with text } }
    else r.addRow p.form text p.start
  | none =>
    match Line.ofText raw with
    | .blank | .comment | .ignored _ => .ok r
    | .heading [] => .error (r.fault .unnamedSection number)
    | .heading name => .ok { r with heading := name }
    | .note kind text =>
      let note := ⟨kind, text, r.heading, some (r.place number)⟩
      .ok { r with table := r.table.addNote note }
    | .includes header => .ok { r with table := r.table.addInclude header }
    | .defines name underlying =>
      (r.table.register name underlying (some (r.place number))).map fun table => { r with table }
    | .row form text =>
      if isOpen text then .ok { r with pending := some ⟨form, text, number⟩ }
      else r.addRow form text number
    | .unrecognized text => .error (r.fault (.unrecognizedLine text) number)

def run : Reader → Nat → List Text → Except Fault Reader
  | r, _, [] => .ok r
  | r, number, raw :: rest => do run (← r.step number raw) (number + 1) rest

/-- The table, unless a row is still open. -/
def finish : Except Fault Table :=
  match r.pending with
  | some p => .error (r.fault .unterminatedRow p.start)
  | none => .ok r.table

end Reader

namespace Table

/-- The table that a text describes. It need not be valid. -/
def read (source t : Text) : Except Fault Table := do
  (← (Reader.start source).run 1 (lines t)).finish

end Table

def Alias.event (a : Alias) : Event :=
  .debug .table ("Registered alias " ++ a.name ++ " = " ++ a.underlying)

namespace Reader

/-- What is logged when a line has been read without a fault. -/
def stepEvents (r next : Reader) (number : Nat) (raw : Text) : List Event :=
  match r.pending, Line.ofText raw with
  | none, .ignored text =>
    [.debug .reader ("Ignoring preprocessor line at " ++ r.place number ++ ": " ++ text)]
  | none, .defines _ _ =>
    (next.table.aliases.getLast?.map Alias.event).toList
  | _, _ => []

/-- What is logged while lines are read, up to the first fault. -/
def runEvents : Reader → Nat → List Text → List Event
  | r, _, [] =>
    match r.finish with
    | .error _ => []
    | .ok t =>
      [.debug .reader ("Read " ++ decimal t.rows.length ++ " declaration(s), " ++
        decimal t.aliases.length ++ " alias(es) and " ++ decimal t.notes.length ++
        " exclusion note(s) from " ++ r.source)]
  | r, number, raw :: rest =>
    match r.step number raw with
    | .error _ => []
    | .ok next => r.stepEvents next number raw ++ runEvents next (number + 1) rest

end Reader

def Table.readEvents (source t : Text) : List Event := (Reader.start source).runEvents 1 (lines t)

end Forwarding
