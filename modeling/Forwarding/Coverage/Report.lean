import Forwarding.Bindings
import Forwarding.Log.Event
import Forwarding.Rounding
import Forwarding.Spelling.Form
import Forwarding.Table.Basic

/-! How much of what headers declare a table exposes, and first the share of a whole, to four decimals.

The quotient is first rounded to 53 significant bits, the precision of ordinary floating-point
numbers, and the result to ten-thousandths.
-/

set_option autoImplicit false

namespace Forwarding.Coverage

open Rounding

/-- How often a quotient below one has to be doubled to have 53 bits before the point. -/
def scaleOf (numerator denominator : Nat) : Nat :=
  let scale := 53 + Nat.log2 denominator - Nat.log2 numerator
  if numerator * 2 ^ scale < denominator * 2 ^ 53 then scale else scale - 1

/-- A part of a whole in ten-thousandths; nothing of nothing is all of it. -/
def tenThousandths (part whole : Nat) : Nat :=
  if whole == 0 then 10000
  else if part == 0 then 0
  else
    let scale := scaleOf part whole
    nearest (nearest (part * 2 ^ scale) whole * 10000) (2 ^ scale)

end Forwarding.Coverage

/-! ### Reports

A discovered method is covered when some row has its class, its name and its parameters, where
spellings are compared in normal form and a spelling that the table has an alias for may be written
in full. What is not covered is classified by the table's notes. A row is stale when its class has
been discovered and the row's method has not.
-/

namespace Forwarding

open Text

namespace Coverage

/-- What discovered methods and rows are matched by. -/
structure MatchKey where
  subject : Text
  method : Text
  parameters : List Text
  deriving Repr, DecidableEq

def keyOf (d : Declaration) : MatchKey :=
  ⟨d.subjectName, d.method, d.parameters.map Spelling.normal⟩

/-- The types that have names, in normal form: those of the table, then others. -/
def named (t : Table) (others : Bindings Text Text) : Bindings Text Text :=
  .ofList ((t.aliases.map fun a => (Spelling.normal a.underlying, a.name)) ++
    others.map fun (type, name) => (Spelling.normal type, name))

/-- Writes the names of types instead of the types, one type after the other. -/
def applyNames (names : Bindings Text Text) (spelling : Text) : Text :=
  names.foldl (fun s (type, name) => if occurs type s then replace type name s else s) spelling

def discoveredKey (names : Bindings Text Text) (d : Declaration) : MatchKey :=
  let key := keyOf d
  { key with parameters := key.parameters.map (applyNames names) }

def declared (t : Table) : Bindings MatchKey Declaration :=
  .ofList (t.rows.map fun d => (keyOf d, d))

inductive Status where
  | missing
  | pending
  | excluded
  deriving Repr, DecidableEq

def Status.word : Status → Text
  | .missing => "missing"
  | .pending => "pending"
  | .excluded => "excluded"

/-- The note for a method: the first that names it, or else the first that names its class. -/
def noteFor (notes : List Note) (d : Declaration) : Option Note :=
  match notes.find? fun n => n.names.contains d.method with
  | some n => some n
  | none => notes.find? fun n => n.names.contains d.subjectName

def statusOf : Option Note → Status
  | none => .missing
  | some n =>
    match n.kind with
    | .todo => .pending
    | .skip => .excluded

/-- A method that no row declares. -/
structure Uncovered where
  declaration : Declaration
  note : Option Note
  deriving Repr, DecidableEq

def Uncovered.status (u : Uncovered) : Status := statusOf u.note

end Coverage

/-- The result of comparing discovered methods with a table. -/
structure Coverage where
  discovered : Nat
  covered : Nat
  uncovered : List Coverage.Uncovered
  stale : List Declaration
  deriving Repr, DecidableEq

namespace Coverage

/-- How many uncovered methods have a status. -/
def count (c : Coverage) (status : Status) : Nat :=
  (c.uncovered.filter fun u => u.status == status).length

/-- The methods that are neither declared nor left out on purpose. -/
def missing (c : Coverage) : List Declaration :=
  (c.uncovered.filter fun u => u.status == .missing).map Uncovered.declaration

/-- Compares discovered methods with a table; `others` are further names for types. -/
def compute (t : Table) (discovered : List Declaration) (others : Bindings Text Text) : Coverage :=
  let names := named t others
  let rows := declared t
  let keyed := discovered.map fun d => (discoveredKey names d, d)
  let isDeclared := fun (key : MatchKey) => rows.any fun row => row.1 == key
  let (covered, uncovered) := keyed.partition fun entry => isDeclared entry.1
  let matched := covered.map (·.1)
  let subjects := uncovered.map (fun entry => entry.2.subjectName) ++ matched.map (·.subject)
  { discovered := discovered.length
    covered := covered.length
    uncovered := uncovered.map fun entry => ⟨entry.2, noteFor t.notes entry.2⟩
    stale := (rows.filter fun row =>
      !matched.contains row.1 && subjects.contains row.2.subjectName).map (·.2) }

def events (c : Coverage) : List Event :=
  .info .coverage ("Coverage: " ++ decimal c.covered ++ "/" ++ decimal c.discovered ++
    " discovered method(s) declared (" ++ decimal (c.count .missing) ++ " missing, " ++
    decimal (c.count .pending) ++ " pending, " ++ decimal (c.count .excluded) ++ " excluded)") ::
  c.stale.map fun d => .debug .coverage ("Declared but not discovered: " ++ d.signature)

end Coverage

end Forwarding
