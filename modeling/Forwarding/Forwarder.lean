import Forwarding.Log.Event
import Forwarding.Spelling.Form
import Forwarding.Table.Validation

/-! Forwarding functions: what an emitter needs to know of each.

A forwarder takes its subject first and passes the other parameters on, unchanged and in order, to a
single call of the method. A table yields one for each row, or none at all if it is not valid.
-/

set_option autoImplicit false

namespace Forwarding

open Text

/-- A row with its parameters named. -/
structure Forwarder where
  row : Declaration
  parameters : Parameters
  deriving Repr, DecidableEq

namespace Forwarder

def symbol (f : Forwarder) : Text := f.row.symbol

def arity (f : Forwarder) : Nat := f.parameters.arity

def result (f : Forwarder) : TypeForm := .ofSpelling f.row.result

def ofRow (d : Declaration) : Except Fault Forwarder := do
  d.checkNames
  let parameters ← Parameters.ofTypes d.parameters d.origin
  if parameters.arity == d.parameters.length then return ⟨d, parameters⟩
  else throw (d.fault (.unequalCount d.symbol parameters.arity d.parameters.length))

end Forwarder

namespace Table

def forwarders (t : Table) : Except Fault (List Forwarder) := do
  t.validate
  t.rows.mapM Forwarder.ofRow

def validatedEvent (t : Table) : Event :=
  .debug .table ("Validated " ++ decimal t.rows.length ++ " declaration(s) and " ++
    decimal t.aliases.length ++ " alias(es)")

def synthesizedEvent (t : Table) (count : Nat) : Event :=
  .info .forwarders ("Synthesized " ++ decimal count ++ " trampoline(s) for " ++
    decimal t.subjects.length ++ " subject type(s)")

def forwarderEvents (t : Table) : List Event :=
  match t.validate with
  | .error _ => []
  | .ok () =>
    match t.rows.mapM Forwarder.ofRow with
    | .error _ => [t.validatedEvent]
    | .ok made => [t.validatedEvent, t.synthesizedEvent made.length]

end Table

end Forwarding
