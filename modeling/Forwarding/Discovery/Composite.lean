import Forwarding.Table.Basic
import Forwarding.Bindings
import Forwarding.Declaration
import Forwarding.Failure
import Forwarding.Spelling.Split

/-! Aliases for the composite types of declarations.

A type with a comma outside brackets is written as a name, and `const` before it and the declarators
after it stay outside the alias. A type that has an alias already keeps it; otherwise a name is made
from the words of the type, with a number behind it if the name is taken.
-/

set_option autoImplicit false

namespace Forwarding

open Text
open Spelling (isDeclarator)

namespace Composite

/-- A composite spelling in three parts: `const` with the blanks after it, the type to be named, and
the declarators. -/
structure Parts where
  lead : Text
  core : Text
  tail : Text
  deriving Repr, DecidableEq

def splitLead (t : Text) : Text × Text :=
  let rest := t.drop 5
  let blanks := rest.takeWhile isBlank
  if "const".toList.isPrefixOf t && !blanks.isEmpty then
    ("const" ++ blanks, rest.dropWhile isBlank)
  else ([], t)

/-- The declarators that a text consists of, if it is nothing else but blanks before them and perhaps
a line feed after them. -/
def tail? (t : Text) : Option Text :=
  let marks := stripStart t
  let rest := marks.dropWhile isDeclarator
  if t.isEmpty || t == ['\n'] then some []
  else if (marks.takeWhile isDeclarator).isEmpty then none
  else if rest.isEmpty || rest == ['\n'] then some (marks.takeWhile isDeclarator)
  else none

/-- The shortest beginning with declarators behind it; a line feed ends the search. -/
def splitTail : Text → Option (Text × Text)
  | [] => some ([], [])
  | c :: t =>
    match tail? (c :: t) with
    | some tail => some ([], tail)
    | none => if c == '\n' then none else (splitTail t).map fun (core, tail) => (c :: core, tail)

/-- The parts of a spelling; there are none if it goes over several lines. -/
def parts? (spelling : Text) : Option Parts :=
  let (lead, rest) := splitLead spelling
  (splitTail rest).map fun (core, tail) => ⟨lead, core, tail⟩

/-- A name that is not taken: the base itself, or the base with the first free number from two on. -/
def freeName (used : List Text) (base : Text) : Text :=
  let candidates := base :: (List.range (used.length + 1)).map fun i => base ++ decimal (i + 2)
  (candidates.find? fun name => !used.contains name).getD base

/-- The names in use: those of types, and all that must not be used again. -/
structure Naming where
  names : Bindings Text Text
  used : List Text
  created : List Alias := []
  deriving Repr, DecidableEq

/-- Existing aliases; of two for one type the last one counts. -/
def Naming.ofAliases (aliases : List Alias) : Naming :=
  let names : Bindings Text Text := .ofList (aliases.map fun a => (a.underlying, a.name))
  { names, used := names.map (·.2) }

def Naming.name (n : Naming) (type : Text) : Naming × Text :=
  match n.names.get? type with
  | some name => (n, name)
  | none =>
    let name := freeName n.used (Alias.suggestedName type)
    ({ names := n.names.set type name
       used := n.used ++ [name]
       created := n.created ++ [{ name, underlying := type }] }, name)

/-- Writes a type with its alias if it is composite. -/
def spell (n : Naming) (spelling : Text) : Except Failure (Naming × Text) :=
  if !Spelling.isComposite spelling then .ok (n, spelling)
  else match parts? spelling with
    | none => .error .brokenSpelling
    | some parts =>
      let (n, name) := n.name parts.core
      .ok (n, parts.lead ++ name ++ parts.tail)

def spellAll : Naming → List Text → Except Failure (Naming × List Text)
  | n, [] => .ok (n, [])
  | n, type :: rest => do
    let (n, type) ← spell n type
    let (n, rest) ← spellAll n rest
    return (n, type :: rest)

/-- Writes the types of a row, the result first. -/
def spellRow (n : Naming) (d : Declaration) : Except Failure (Naming × Declaration) := do
  let (n, result) ← spell n d.result
  let (n, parameters) ← spellAll n d.parameters
  return (n, { d with result, parameters })

def spellRows : Naming → List Declaration → Except Failure (Naming × List Declaration)
  | n, [] => .ok (n, [])
  | n, d :: rest => do
    let (n, d) ← spellRow n d
    let (n, rest) ← spellRows n rest
    return (n, d :: rest)

def aliases (rows : List Declaration) (existing : List Alias) :
    Except Failure (List Alias × List Declaration) := do
  let (n, rows) ← spellRows (.ofAliases existing) rows
  return (n.created, rows)

end Composite

end Forwarding
