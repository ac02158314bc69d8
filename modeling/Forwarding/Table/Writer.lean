import Forwarding.Table.Basic
import Forwarding.Text.Lines

/-! Writing a table as text.

Includes come first, then the aliases, then the rows in order, with a heading line wherever the
heading changes. The notes of a heading follow its first group of rows; notes under headings without
rows come last, grouped by heading.
-/

set_option autoImplicit false

namespace Forwarding

open Text

def Declaration.write (d : Declaration) : Text :=
  let names := [d.subject, d.result, d.method]
  if d.tag.isEmpty then RowForm.plain.word ++ "(" ++ join ", " (names ++ d.parameters) ++ ");"
  else RowForm.overload.word ++ "(" ++ join ", " (names ++ [d.tag] ++ d.parameters) ++ ");"

def Note.write (n : Note) : Text :=
  "// @" ++ n.kind.word ++ (if n.text.isEmpty then [] else ": " ++ n.text : Text)

namespace Table

/-- The line that opens a section; the section without a name has none. -/
def headingLines (heading : Text) : List Text :=
  if heading.isEmpty then [] else ["// @section " ++ heading]

def noteLines (heading : Text) (notes : List Note) : List Text :=
  (notes.filter fun n => n.heading == heading).map Note.write

def otherNotes (heading : Text) (notes : List Note) : List Note :=
  notes.filter fun n => n.heading != heading

def rowLines (current : Text) (notes : List Note) : List Declaration → List Text × List Note
  | [] => (noteLines current notes, otherNotes current notes)
  | d :: rest =>
    if d.heading == current then
      let (lines, left) := rowLines current notes rest
      (d.write :: lines, left)
    else
      let (lines, left) := rowLines d.heading (otherNotes current notes) rest
      (noteLines current notes ++ [[]] ++ headingLines d.heading ++ d.write :: lines, left)

def bodyLines (notes : List Note) : List Declaration → List Text × List Note
  | [] => ([], notes)
  | d :: rest =>
    let (lines, left) := rowLines d.heading notes rest
    (headingLines d.heading ++ d.write :: lines, left)

def leftoverLines (notes : List Note) : List Text :=
  ((notes.map Note.heading).eraseDups).flatMap fun heading =>
    [] :: headingLines heading ++ noteLines heading notes

/-- Lines with an empty one behind them, unless there are none. -/
def spaced (lines : List Text) : List Text := if lines.isEmpty then [] else lines ++ [[]]

def commentLines (comment : Text) : List Text :=
  (lines comment).map fun line => if line.isEmpty then "//" else "// " ++ line

/-- The text of a table under a comment; an empty comment is left out. -/
def write (t : Table) (comment : Text) : Text :=
  let (body, left) := bodyLines t.notes t.rows
  let opening := if comment.isEmpty then [] else commentLines comment ++ [[]]
  let all := opening ++ spaced (t.includes.map fun header => "#include " ++ header) ++
    spaced (t.aliases.map Alias.definition) ++ body ++ leftoverLines left
  stripEnd (join "\n" all) ++ "\n"

end Table

end Forwarding
