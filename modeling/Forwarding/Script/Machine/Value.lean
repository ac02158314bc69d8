import Forwarding.Script.Function

/-! The values of running scripts.

A value that cannot change stands for itself. What can change, or has an identity, is an object, and its
value is the place where it is kept.
-/

set_option autoImplicit false

namespace Forwarding.Script

open Text

inductive Value where
  | nothing
  | ellipsis
  /-- What an operator gives for operands that it is not meant for. -/
  | inapplicable
  | truth (b : Bool)
  | integer (n : Int)
  | real (x : Float)
  | complex (x y : Float)
  | text (t : Text)
  /-- Bytes, as characters below 256. -/
  | bytes (t : Text)
  | tuple (items : List Value)
  | range (first stop step : Int)
  | slice (first stop step : Value)
  /-- The subject of a call. -/
  | subject
  | forwarding (f : Function)
  /-- A class of the language, by its name. -/
  | kind (name : Text)
  /-- A function of the language. -/
  | builtin (name : Text)
  /-- A method of a value, of a class of the language. -/
  | method (owner : Value) (name : Text)
  /-- A method of a class of the language, without a value that it belongs to. -/
  | unbound (kind name : Text)
  | object (place : Nat)
  deriving Repr

instance : Inhabited Value := ⟨.nothing⟩

namespace Value

def ofOption (value : Option Value) : Value := value.getD .nothing

def integer? : Value → Option Int
  | .integer n => some n
  | .truth b => some (if b then 1 else 0)
  | _ => none

def text? : Value → Option Text
  | .text t => some t
  | _ => none

def isNothing : Value → Bool
  | .nothing => true
  | _ => false

def texts (ts : List Text) : List Value := ts.map .text

end Value

end Forwarding.Script
