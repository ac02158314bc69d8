import Forwarding.Script.Machine.Kind
import Forwarding.Script.Machine.Object

/-! What a running script can do: read and change its objects, and end with an error.

Operations that have to run code of the script, or an operation on values inside a value, ask for it: how
such a request is answered is part of what operations are given, so that none of them depends on the
machine.
-/

set_option autoImplicit false

namespace Forwarding.Script

open Text

/-- Why a script does not go on. -/
inductive Halt where
  | raised (error : Value)
  /-- The script has been followed as far as it is followed. -/
  | exhausted

abbrev Run := EStateM Halt State

/-- What an operation can ask the machine for. -/
inductive Request where
  | call (f : Value) (placed : List Value) (named : List (Text × Value))
  /-- Goes on with a generator, with a value or an error where it waits. -/
  | resume (place : Nat) (input : Exit)
  /-- Runs a block. -/
  | block (frame : Frame)

/-- What operations are given. -/
structure Surroundings where
  subject : Subject
  perform : Request → Run Value

abbrev Act := ReaderT Surroundings Run

namespace Act

def allocate (o : Object) : Act Value :=
  modifyGet fun s => (.object s.heap.size, { s with heap := s.heap.push o })

def objectAt (place : Nat) : Act Object := return (← get).heap.getD place default

def changeObject (place : Nat) (f : Object → Object) : Act Unit :=
  modify fun s => { s with heap := s.heap.modify place f }

def changeBody (place : Nat) (f : Body → Body) : Act Unit :=
  changeObject place fun o =>
    match o with
    | ⟨kind, fields, body⟩ => ⟨kind, fields, f body⟩

def setBody (place : Nat) (body : Body) : Act Unit := changeBody place fun _ => body

/-- What an object is; a value that is no object has nothing of the kind. -/
def bodyOf (v : Value) : Act Body := do
  match v with
  | .object place => return (← objectAt place).body
  | _ => return .plain

def make (kind : Text) (body : Body) : Act Value := allocate ⟨.kind kind, none, body⟩

def newList (items : List Value) : Act Value := make "list" (.list items.toArray)

def newDictionary (d : Dictionary) : Act Value := make "dict" (.dictionary d)

def newIterator (kind : Text) (i : Iterator) : Act Value := make kind (.iterator i)

def iteratorOver (items : List Value) (kind : Text := "tuple_iterator") : Act Value :=
  newIterator kind (.items items)

def dictionaryAt (place : Nat) : Act Dictionary := do
  match (← objectAt place).body with
  | .dictionary d => return d
  | _ => return {}

def changeDictionary (place : Nat) (f : Dictionary → Dictionary) : Act Unit :=
  changeBody place fun body =>
    match body with
    | .dictionary d => .dictionary (f d)
    | other => other

def scopeAround (place : Nat) : Nat → Act Nat
  | 0 => return place
  | out + 1 => do
    match (← objectAt place).body with
    | .scope _ _ (some around) => scopeAround around out
    | _ => return place

def valueInScope (place index : Nat) : Act (Option Value) := do
  match (← objectAt place).body with
  | .scope values _ _ => return values.getD index none
  | _ => return none

def setInScope (place index : Nat) (v : Option Value) : Act Unit :=
  changeBody place fun body =>
    match body with
    | .scope values names around =>
      .scope (if index < values.size then values.set! index v
        else (values ++ (List.replicate (index - values.size) none).toArray).push v) names around
    | other => other

def failWith {α : Type} (kind : Text) (arguments : List Value) : Act α := do
  throw (.raised (← make kind (.error arguments .nothing .nothing false)))

def fail {α : Type} (kind : String) (words : Text) : Act α := failWith kind [.text words]

def typeError {α : Type} (words : Text) : Act α := fail "TypeError" words

def valueError {α : Type} (words : Text) : Act α := fail "ValueError" words

def failRaised {α : Type} (error : Raised) : Act α := fail (String.ofList error.kind) error.message

def kindOf (v : Value) : Act Value := do
  match v with
  | .object place => return (← objectAt place).kind
  | other => return .kind other.kindName

/-- The classes that a class takes its attributes from, itself first. -/
def lineOf (kind : Value) : Act (List Value) := do
  match kind with
  | .kind name => return (Kind.line name).map .kind
  | .object place =>
    match (← objectAt place).body with
    | .class_ c => return c.line
    | _ => return []
  | _ => return []

def className (kind : Value) : Act Text := do
  match kind with
  | .kind name => return name
  | .object place =>
    match (← objectAt place).body with
    | .class_ c => return c.name
    | _ => return []
  | _ => return []

def classPath (kind : Value) : Act Text := do
  match ← bodyOf kind with
  | .class_ c => return c.path
  | _ => className kind

def kindName (v : Value) : Act Text := do
  match v with
  | .object _ => className (← kindOf v)
  | other => return other.kindName

end Act

/-- Whether two values are one. Equal values that cannot change count as one. -/
def Value.isSame : Value → Value → Bool
  | .nothing, .nothing | .ellipsis, .ellipsis | .inapplicable, .inapplicable => true
  | .subject, .subject => true
  | .truth a, .truth b => a == b
  | .integer a, .integer b => a == b
  | .real x, .real y => x.toBits == y.toBits
  | .complex x y, .complex z w => x.toBits == z.toBits && y.toBits == w.toBits
  | .text s, .text t => s == t
  | .bytes s, .bytes t => s == t
  | .tuple items, .tuple others => areSame items others
  | .forwarding f, .forwarding g => f == g
  | .kind a, .kind b | .builtin a, .builtin b => a == b
  | .unbound k a, .unbound l b => k == l && a == b
  | .object p, .object q => p == q
  | _, _ => false
where
  areSame : List Value → List Value → Bool
    | [], [] => true
    | a :: more, b :: others => isSame a b && areSame more others
    | _, _ => false

namespace Act

def isBelow (kind above : Value) : Act Bool := return (← lineOf kind).any (Value.isSame above)

def isOf (v kind : Value) : Act Bool := do isBelow (← kindOf v) kind

def isOfKind (v : Value) (kind : String) : Act Bool := isOf v (.kind kind)

def isClass (v : Value) : Act Bool := do
  match v with
  | .kind _ => return true
  | .object place =>
    match (← objectAt place).body with
    | .class_ _ => return true
    | _ => return false
  | _ => return false

def plain (v : Value) : Act Value := do
  match v with
  | .object place =>
    match (← objectAt place).body with
    | .boxed inside => return inside
    | _ => return v
  | other => return other

/-- What another operation gives, or what is done about an error of a class. -/
def rescue {α : Type} (kind : String) (action : Act α) (instead : Value → Act α) : Act α :=
  tryCatch action fun halt => do
    match halt with
    | .raised error => if ← isOfKind error kind then instead error else throw halt
    | .exhausted => throw halt

def perform (r : Request) : Act Value := do (← read).perform r

def call (f : Value) (arguments : List Value) (named : List (Text × Value) := []) : Act Value :=
  perform (.call f arguments named)

def callBuiltin (name : String) (arguments : List Value) : Act Value :=
  call (.builtin name) arguments

end Act

end Forwarding.Script
