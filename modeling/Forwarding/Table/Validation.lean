import Forwarding.Parameters
import Forwarding.Spelling.Form
import Forwarding.Table.Basic

/-! Which tables can be turned into forwarding functions.

Validation reads the rows in order and reports the first violation. A row is checked against the
rows before it and against the aliases of the table: its names are identifiers, its types are single
types, aliases are defined before it, and its key and its symbol are new.
-/

set_option autoImplicit false

namespace Forwarding

open Text

namespace Table

def checkAlias (t : Table) (index : Nat) (d : Declaration) (name : Text) : Except Fault Unit :=
  match t.alias? name with
  | none => .ok ()
  | some a =>
    if a.position > index then
      .error (d.fault (.aliasUsedEarly name d.symbol a.origin))
    else .ok ()

def checkType (t : Table) (index : Nat) (d : Declaration) (type : Text) : Except Fault Unit := do
  Parameters.checkSpelling type d.origin
  (TypeForm.ofSpelling type).identifiers.forM (t.checkAlias index d)

/-- A row that has been checked, with its key and its symbol. -/
structure Checked where
  key : Key
  symbol : Text
  row : Declaration

def Checked.ofRow (d : Declaration) : Checked := ⟨d.key, d.symbol, d⟩

/-- The fault of a row whose key or symbol an earlier row has. -/
def duplicate (first : Checked) (d : Checked) : Fault :=
  ⟨.duplicateSymbol d.symbol (first.key, first.row.origin) (d.key, d.row.origin), none⟩

/-- Refuses a row whose key or symbol an earlier row has. -/
def checkNew (before : List Checked) (d : Checked) : Except Fault Unit :=
  match before.find? fun checked => checked.key == d.key with
  | some first => .error (duplicate first d)
  | none =>
    match before.find? fun checked => checked.symbol == d.symbol with
    | some first => .error (duplicate first d)
    | none => .ok ()

def checkRow (t : Table) (before : List Checked) (d : Declaration) : Except Fault Unit := do
  d.checkNames
  let _ ← Parameters.count d.parameters d.origin
  (d.result :: d.parameters).forM (t.checkType before.length d)
  checkNew before (.ofRow d)

def checkRows (t : Table) : List Checked → List Declaration → Except Fault Unit
  | _, [] => .ok ()
  | before, d :: rest => do
    t.checkRow before d
    checkRows t (before ++ [.ofRow d]) rest

def validate (t : Table) : Except Fault Unit := t.checkRows [] t.rows

end Table

end Forwarding
