import Forwarding.Script.Machine.Code
import Forwarding.Script.Machine.Dictionary
import Forwarding.Script.Machine.Value
import Forwarding.Script.Fault

/-! Subjects of calls, and the objects and blocks of a running script. -/

set_option autoImplicit false

namespace Forwarding.Script

open Text

/-- A call of a method of the subject: its name and its arguments. -/
abbrev MethodCall := Text × List Value

/-- The methods a subject has, and what each of them does with arguments. -/
structure Subject where
  has : Text → Bool
  respond : Text → List Value → Except Raised Value

namespace Subject

def call (s : Subject) (method : Text) (arguments : List Value) :
    Except Raised Value × List MethodCall :=
  if !s.has method then (.error (.noMethod method), [])
  else (s.respond method arguments, [(method, arguments)])

end Subject

namespace Function

def passedValues (f : Function) (arguments : List Value) : List Value :=
  f.passed.filterMap fun name => (f.parameters.zip arguments).lookup name

def call (f : Function) (s : Subject) (arguments : List Value) :
    Except Raised Value × List MethodCall :=
  if f.parameters.length < arguments.length then
    (.error (.tooMany f.symbol (f.parameters.length + 1) (arguments.length + 1)), [])
  else if arguments.length < f.parameters.length then
    (.error (.missing f.symbol (f.parameters.drop arguments.length)), [])
  else s.call f.method (f.passedValues arguments)

end Function

/-! What a running script keeps: its objects, and the blocks that are being run. -/

/-- How a block is left before its end. -/
inductive Exit where
  | raising (error : Value)
  | giving (v : Value)
  | leaving
  | skipping

/-- What is to be done when the code that runs comes to its end. A height is the number of values on the
stack that stay when the code is left early. -/
inductive Task where
  | code (code : Code)
  /-- A loop with a test. -/
  | again (test body otherwise : Code) (height : Nat)
  /-- The body of such a loop, once the test has been made. -/
  | tested (test body otherwise : Code) (height : Nat)
  /-- A loop over an iterator on top of the stack. -/
  | each (body otherwise : Code) (height : Nat)
  | guard (handler otherwise : Code) (height : Nat)
  /-- Code that is run however the code above it is left, or only if that is not by an error. -/
  | always (last : Code) (height : Nat) (onErrors : Bool)
  /-- A context, whose method for leaving it is on top of the stack. -/
  | within (height : Nat)
  /-- An error is being handled up to here. -/
  | handled
  /-- Goes on with leaving a block. -/
  | resume (exit : Exit)

/-- A block that is being run. -/
structure Frame where
  code : Code
  tasks : List Task := []
  stack : List Value := []
  /-- Where the names of the block are kept. -/
  scope : Nat
  /-- The collection of names that names without a place of their own belong to. -/
  names : Option Nat := none
  /-- The names of the script that the block is part of. -/
  shared : Nat
  /-- What is being run. -/
  template : Template
  /-- The errors that are being handled, the latest first. -/
  handling : List Value := []
  /-- The names of the block in a dictionary, once they have been asked for. -/
  listed : Option Nat := none
  /-- The generator that the block belongs to. -/
  generator : Option Nat := none
  /-- Whether the machine stops when the block ends. -/
  isBase : Bool := false

/-- What is iterated over in a dictionary. -/
inductive Side where
  | keys | items | pairs
  deriving Repr, DecidableEq

inductive Iterator where
  | items (left : List Value)
  | list (place index : Nat)
  | listBackward (place count : Nat)
  | entries (place index size : Nat) (side : Side)
  | entriesBackward (place index size : Nat) (side : Side)
  /-- The members of a set, from a place of its table on. -/
  | members (place index size : Nat)
  | counting (next stop step : Int)
  | zip (sources : List Value) (isStrict : Bool)
  | map (f : Value) (sources : List Value)
  | filter (f source : Value)
  | enumerate (source : Value) (index : Int)
  | calling (f last : Value)
  | indexed (owner : Value) (index : Int)
  | indexedBackward (owner : Value) (index : Int)
  | finished

structure Routine where
  template : Template
  defaults : List Value := []
  namedDefaults : List (Text × Value) := []
  scope : Nat
  shared : Nat
  /-- A collection of names instead of that of the script, for code that is run with one. -/
  names : Option Nat := none

inductive Generator where
  /-- A generator that has not ended; nothing has been run of it as long as it is fresh. -/
  | waiting (frame : Frame) (isFresh : Bool)
  | running
  | ended

/-- A class that a script has made. -/
structure Class where
  name : Text
  path : Text
  bases : List Value
  /-- The class itself, and the classes that it takes its attributes from, in their order. -/
  line : List Value

inductive Body where
  | plain
  | list (items : Array Value)
  | dictionary (d : Dictionary)
  | set (d : Dictionary)
  /-- A value that cannot change, with a class of its own. -/
  | boxed (v : Value)
  | bytes (t : Text)
  | error (arguments : List Value) (cause context : Value) (hidesContext : Bool)
  | class_ (c : Class)
  | routine (r : Routine)
  /-- A function with its first argument. -/
  | bound (f owner : Value)
  | generator (g : Generator)
  | iterator (i : Iterator)
  | scope (values : Array (Option Value)) (names : List Text) (around : Option Nat)
  | module
  | property (getter setter eraser : Value)
  | staticMethod (f : Value)
  | classMethod (f : Value)
  | view (place : Nat) (side : Side)
  /-- The attributes that an owner has from the classes behind one of its own. -/
  | above (start owner : Value)
  | template (t : Template)
  /-- A value that an asynchronous generator gives, other than one that it waits for. -/
  | given (v : Value)
  /-- A name that a function takes from a block around. -/
  | cell (scope index : Nat)

structure Object where
  /-- The class of the object. -/
  kind : Value
  /-- Where its own attributes are kept. -/
  fields : Option Nat := none
  body : Body := .plain

instance : Inhabited Object := ⟨⟨.nothing, none, .plain⟩⟩

/-- A running script. -/
structure State where
  heap : Array Object := #[]
  frame : Frame
  below : List Frame := []
  /-- How many blocks are being run. -/
  depth : Nat := 0
  /-- The calls of the subject's methods, the latest first. -/
  calls : List MethodCall := []
  /-- The libraries that have been imported, and where they are kept. -/
  libraries : List (Text × Nat) := []
  /-- Where the attributes are kept that a script has given to the subject. -/
  given : Option Nat := none

end Forwarding.Script
