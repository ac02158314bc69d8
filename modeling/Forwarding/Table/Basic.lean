import Forwarding.Declaration
import Forwarding.Text.Identifier

/-! Signature tables, what they are made of besides rows, and the operations that build them.

A table is collected first and validated afterwards. Rows, notes and sources are kept in the order in
which they are added; aliases too, and an alias name is bound only once; an include is kept once.
-/

set_option autoImplicit false

namespace Forwarding

open Text

/-! ### Notes: what a table says about methods that it leaves out on purpose -/

/-- A method can be left out for good, or not be exposed yet. -/
inductive Note.Kind where
  | skip
  | todo
  deriving Repr, DecidableEq

def Note.Kind.word : Note.Kind → Text
  | .skip => "skip"
  | .todo => "todo"

/-- A remark that names methods or classes in free text. -/
structure Note where
  kind : Note.Kind
  text : Text := []
  heading : Text := []
  origin : Option Text := none
  deriving Repr, DecidableEq

/-- The methods and classes that a note mentions. -/
def Note.names (n : Note) : List Text := identifiers n.text

/-! ### Type aliases: names of one token for composite types -/

/-- A name bound to a type. The position is the number of rows that stand before it in its table, so
that a row at a lower index uses the name too early. -/
structure Alias where
  name : Text
  underlying : Text
  position : Nat := 0
  origin : Option Text := none
  deriving Repr, DecidableEq

namespace Alias

def shift (count : Nat) (a : Alias) : Alias := { a with position := a.position + count }

/-- The alias as a line, in a table and in a source unit alike. -/
def definition (a : Alias) : Text := "using " ++ a.name ++ " = " ++ a.underlying ++ ";"

/-- A word as part of a name: only its first letter is upper case if all its letters were, and the
first letter is upper case in any case. A single letter stays. -/
def capitalized (word : Text) : Text :=
  let word :=
    if word.any Char.isUpper && !word.any Char.isLower && word.length > 1 then
      word.map Char.toLower
    else word
  match word with
  | [] => []
  | c :: rest => c.toUpper :: rest

/-- The name that a type suggests: its words without `const` and `std`, capitalized and joined. -/
def suggestedName (spelling : Text) : Text :=
  let words := (runs Char.isAlphanum Char.isAlphanum spelling).filter fun word =>
    word != "const".toList && word != "std".toList
  match words.flatMap capitalized with
  | [] => "Alias"
  | name => name

end Alias

/-! ### Tables -/

/-- The rows to expose, and the aliases, includes and notes that travel with them. -/
structure Table where
  rows : List Declaration := []
  aliases : List Alias := []
  includes : List Text := []
  notes : List Note := []
  sources : List Text := []
  deriving Repr, DecidableEq

namespace Table

variable (t : Table)

def alias? (name : Text) : Option Alias := t.aliases.find? fun a => a.name == name

/-- Binds a name to a type from the next row on. -/
def register (name underlying : Text) (origin : Option Text) : Except Fault Table :=
  if !isIdentifier name then .error ⟨.invalidAliasName name, origin⟩
  else match t.alias? name with
    | some first => .error ⟨.aliasRedefined name first.origin, origin⟩
    | none =>
      .ok { t with aliases := t.aliases ++ [⟨name, squeeze underlying, t.rows.length, origin⟩] }

def declare (d : Declaration) : Table := { t with rows := t.rows ++ [d] }

def addInclude (header : Text) : Table :=
  if t.includes.contains header then t else { t with includes := t.includes ++ [header] }

def addNote (n : Note) : Table := { t with notes := t.notes ++ [n] }

def addSource (source : Text) : Table := { t with sources := t.sources ++ [source] }

/-- Adds aliases in order behind `count` rows, up to the first one whose name is taken. -/
def addAliases (count : Nat) : Table → List Alias → Table × Option Fault
  | t, [] => (t, none)
  | t, a :: rest =>
    if (t.alias? a.name).isSome then (t, some ⟨.aliasRedefined a.name none, a.origin⟩)
    else addAliases count { t with aliases := t.aliases ++ [a.shift count] } rest

/-- Appends another table. When an alias name is taken, the aliases before it have been added and
nothing else, and the fault tells the place of the second one. -/
def merge (other : Table) : Table × Option Fault :=
  match addAliases t.rows.length t other.aliases with
  | (added, some fault) => (added, some fault)
  | (added, none) =>
    let included := other.includes.foldl addInclude { added with rows := added.rows ++ other.rows }
    ({ included with
        notes := included.notes ++ other.notes
        sources := included.sources ++ other.sources }, none)

def ofParts (aliases : List (Text × Text)) (rows : List Declaration) : Except Fault Table := do
  let t ← aliases.foldlM (fun (t : Table) (name, underlying) => t.register name underlying none) {}
  return rows.foldl declare t

/-- The classes of the rows, each once, in order of appearance. -/
def subjects : List Text := (t.rows.map Declaration.subjectName).eraseDups

end Table

end Forwarding
