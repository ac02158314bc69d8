import Forwarding.Failure
import Forwarding.Rendition.Template
import Forwarding.Script.Basic
import Forwarding.Script.Machine.Source

/-! Loading a script module from its text.

A module of regular form is known by its text. Any other text is read by the grammar of the language,
checked, and run: a type spelled with quotes or backslashes can make a rendered module say something
else than what it was meant to say.
-/

set_option autoImplicit false

namespace Forwarding

open Text

namespace Script

def ofScript (t : Text) : Except Failure Script :=
  match checkedTree t with
  | .error fault => .error (.unloadable fault)
  | .ok tree => (ofTemplate (Template.ofScript false tree)).mapError .stopped

def read (t : Text) : Except Failure Script :=
  let t := unixNewlines t
  match Regular.ofText? t with
  | some m => .ok (ofRegular m)
  | none => ofScript t

end Script

def Table.load (t : Table) (forwarders : List Forwarder) : Except Failure Script := do
  Script.read (← t.render {} none { outputDir := .ofText [] } Target.module.templateName forwarders)

end Forwarding
