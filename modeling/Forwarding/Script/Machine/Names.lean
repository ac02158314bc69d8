import Forwarding.Script.Machine.Attribute

/-! The names of a running script. -/

set_option autoImplicit false

namespace Forwarding.Script

open Text

namespace Kind

def functions : List Text := words <|
  "abs aiter all anext any ascii bin breakpoint callable chr compile delattr dir divmod eval exec exit " ++
  "format getattr globals hasattr hash help hex id input isinstance issubclass iter len locals max min " ++
  "next oct open ord pow print quit repr round setattr sorted sum vars __import__ __build_class__"

def known? (name : Text) : Option Value :=
  match ofName? name with
  | some kind => some (.kind kind)
  | none =>
    if functions.contains name then some (.builtin name)
    else
      match String.ofList name with
      | "NotImplemented" => some .inapplicable
      | "Ellipsis" => some .ellipsis
      | "__debug__" => some (.truth true)
      | "__name__" => some (.text "builtins")
      | "__doc__" | "__package__" | "__loader__" | "__spec__" => some .nothing
      | _ => none

end Kind

namespace Act

def changeFrame (f : Frame → Frame) : Act Unit := modify fun s =>
  match s with
  | ⟨heap, frame, below, depth, calls, libraries, given⟩ =>
    ⟨heap, f frame, below, depth, calls, libraries, given⟩

def undefinedName {α : Type} (name : Text) : Act α := do
  let e ← make "NameError"
    (.error [.text ("name '" ++ name ++ "' is not defined")] .nothing .nothing false)
  match e with
  | .object place => setField place "name" (.text name)
  | _ => pure ()
  throw (.raised e)

/-- The error of a name without a value that belongs to the block itself, or to one around. -/
def unsetName {α : Type} (name : Text) (isOwn : Bool) : Act α :=
  if isOwn then
    fail "UnboundLocalError" ("cannot access local variable '" ++ name ++
      "' where it is not associated with a value")
  else
    fail "NameError" ("cannot access free variable '" ++ name ++
      "' where it is not associated with a value in enclosing scope")

def sharedName (name : Text) : Act Value := do
  match (← dictionaryAt (← get).frame.shared).getText? name with
  | some v => return v
  | none =>
    match Kind.known? name with
    | some v => return v
    | none => undefinedName name

def loadFrom (a : Address) : Act Value := do
  match a with
  | .shared name => sharedName name
  | .slot out index name => do
    let place ← scopeAround (← get).frame.scope out
    match ← valueInScope place index with
    | some v => return v
    | none => unsetName name (out == 0)
  | .named name around => do
    let frame := (← get).frame
    let own : Option Value ← match frame.names with
      | some names =>
        match (← objectAt names).body with
        | .dictionary d =>
          match d.getText? name with
          | some v => pure (some v)
          | none =>
            match (← objectAt names).kind with
            | .object _ =>
              rescue "KeyError" (return some (← callBuiltin "operator.getitem" [.object names, .text name]))
                fun _ => return none
            | _ => pure none
        | _ =>
          rescue "KeyError" (return some (← callBuiltin "operator.getitem" [.object names, .text name]))
            fun _ => return none
      | none => pure none
    match own, around with
    | some v, _ => return v
    | none, some (out, index) => do
      let place ← scopeAround frame.scope out
      match ← valueInScope place index with
      | some v => return v
      | none => unsetName name false
    | none, none => sharedName name

def storeTo (a : Address) (v : Value) : Act Unit := do
  match a with
  | .shared name => do
    let shared := (← get).frame.shared
    changeDictionary shared fun d => d.insertText name v
  | .slot out index _ => do
    let place ← scopeAround (← get).frame.scope out
    setInScope place index (some v)
  | .named name _ => do
    let frame := (← get).frame
    let names := frame.names.getD frame.shared
    match (← objectAt names).kind with
    | .object _ => do
      let _ ← callBuiltin "operator.setitem" [.object names, .text name, v]
    | _ => changeDictionary names fun d => d.insertText name v

def eraseFrom (a : Address) : Act Unit := do
  match a with
  | .shared name => do
    let shared := (← get).frame.shared
    if ((← dictionaryAt shared).getText? name).isNone then undefinedName name
    else changeDictionary shared fun d => d.eraseText name
  | .slot out index name => do
    let place ← scopeAround (← get).frame.scope out
    if (← valueInScope place index).isNone then unsetName name (out == 0)
    else setInScope place index none
  | .named name _ => do
    let frame := (← get).frame
    let names := frame.names.getD frame.shared
    if ((← dictionaryAt names).getText? name).isNone then undefinedName name
    else changeDictionary names fun d => d.eraseText name

end Act

end Forwarding.Script
