import Forwarding.Script.Machine.Value
import Forwarding.Text.Basic

/-! The code of scripts, and first their operators, with the marks that they are written with and the
methods behind them. -/

set_option autoImplicit false

namespace Forwarding.Script

open Text

/-- Operators that make a value of two. -/
inductive Operator where
  | add | subtract | multiply | multiplyMatrix | divide | divideDown | remainder | power
  | shiftLeft | shiftRight | conjoin | disjoin | exclude
  deriving Repr, DecidableEq

namespace Operator

/-- The operators with their marks and with the words in the names of their methods. -/
def table : List (Operator × String × String) := [
  (.add, "+", "add"), (.subtract, "-", "sub"), (.multiply, "*", "mul"),
  (.multiplyMatrix, "@", "matmul"), (.divide, "/", "truediv"), (.divideDown, "//", "floordiv"),
  (.remainder, "%", "mod"), (.power, "**", "pow"), (.shiftLeft, "<<", "lshift"),
  (.shiftRight, ">>", "rshift"), (.conjoin, "&", "and"), (.disjoin, "|", "or"),
  (.exclude, "^", "xor")]

def ofMark? (mark : Text) : Option Operator :=
  (table.find? fun row => row.2.1.toList == mark).map Prod.fst

def row (o : Operator) : String × String := (table.lookup o).getD ("", "")

def mark (o : Operator) : Text := o.row.1.toList

def shownMark (o : Operator) : Text := if o == .power then "** or pow()" else o.mark

def methodName (o : Operator) : Text := "__" ++ o.row.2 ++ "__"

def reflectedName (o : Operator) : Text := "__r" ++ o.row.2 ++ "__"

def changingName (o : Operator) : Text := "__i" ++ o.row.2 ++ "__"

end Operator

/-- Operators in front of a value. -/
inductive Sign where
  | plus | minus | complement
  deriving Repr, DecidableEq

namespace Sign

def mark : Sign → Char
  | .plus => '+'
  | .minus => '-'
  | .complement => '~'

def ofMark? (mark : Text) : Option Sign :=
  [Sign.plus, .minus, .complement].find? fun s => [s.mark] == mark

def methodName : Sign → Text
  | .plus => "__pos__"
  | .minus => "__neg__"
  | .complement => "__invert__"

end Sign

/-- Relations by size. -/
inductive Order where
  | equal | unequal | less | atMost | greater | atLeast
  deriving Repr, DecidableEq

namespace Order

def mark : Order → Text
  | .equal => "=="
  | .unequal => "!="
  | .less => "<"
  | .atMost => "<="
  | .greater => ">"
  | .atLeast => ">="

def all : List Order := [.equal, .unequal, .less, .atMost, .greater, .atLeast]

def ofMark? (mark : Text) : Option Order := all.find? fun o => o.mark == mark

def methodName : Order → Text
  | .equal => "__eq__"
  | .unequal => "__ne__"
  | .less => "__lt__"
  | .atMost => "__le__"
  | .greater => "__gt__"
  | .atLeast => "__ge__"

def reflected : Order → Order
  | .less => .greater
  | .atMost => .atLeast
  | .greater => .less
  | .atLeast => .atMost
  | other => other

/-- Whether two things are in a relation that compare in some way. -/
def holds (o : Order) (found : Ordering) : Bool :=
  match o with
  | .equal => found == .eq
  | .unequal => found != .eq
  | .less => found == .lt
  | .atMost => found != .gt
  | .greater => found == .gt
  | .atLeast => found != .lt

end Order

/-- Relations between two values. -/
inductive Relation where
  | order (o : Order)
  | same (isSame : Bool)
  | member (isMember : Bool)
  deriving Repr, DecidableEq

def Relation.ofMark? (mark : Text) : Option Relation :=
  match String.ofList mark with
  | "is" => some (.same true)
  | "isnot" => some (.same false)
  | "in" => some (.member true)
  | "notin" => some (.member false)
  | _ => (Order.ofMark? mark).map .order

/-! What scripts are turned into before they are run.

Code is a list of instructions that take values from a stack and leave others there. Loops, branches and
handlers hold code of their own, so that no instruction refers to another one by its number. Names have
been resolved: a name belongs to the block itself, to a block around, to the whole script, or to a
collection of names that is looked through when the script is run.
-/

/-- Where the value of a name is kept. -/
inductive Address where
  /-- A name of a function: how many blocks further out, and which of the names there. -/
  | slot (out index : Nat) (name : Text)
  /-- A name of the whole script. -/
  | shared (name : Text)
  /-- A name of a class, or else one that a block around has. -/
  | named (name : Text) (around : Option (Nat × Nat))
  deriving Repr

def Address.name : Address → Text
  | .slot _ _ name | .shared name | .named name _ => name

/-- The parameters of a function. -/
structure Signature where
  /-- The parameters that take arguments by their place. -/
  placed : List Text := []
  /-- How many of them cannot be named. -/
  onlyPlaced : Nat := 0
  /-- The parameters that have to be named. -/
  onlyNamed : List Text := []
  /-- Takes the other arguments by place. -/
  rest : Option Text := none
  /-- Takes the other arguments with names. -/
  namedRest : Option Text := none
  deriving Repr, DecidableEq

/-- All parameters, in the order in which their values are kept. -/
def Signature.all (s : Signature) : List Text :=
  s.placed ++ s.onlyNamed ++ s.rest.toList ++ s.namedRest.toList

inductive CasePattern.Value where
  | constant (v : Script.Value)
  /-- A name and attributes of it. -/
  | path (first : Address) (members : List Text)
  deriving Repr

/-- What a subject is compared with. -/
inductive CasePattern where
  | anything
  | capture (name : Text)
  /-- Something equal to a value. -/
  | equal (v : CasePattern.Value)
  /-- One of the values that there is only one of. -/
  | same (v : Script.Value)
  | either (patterns : List CasePattern)
  | named (pattern : CasePattern) (name : Text)
  /-- A sequence: patterns, a rest with its name or without one, and patterns behind it. -/
  | sequence (first : List CasePattern) (rest : Option (Option Text)) (last : List CasePattern)
  | mapping (keys : List CasePattern.Value) (patterns : List CasePattern) (rest : Option Text)
  | ofClass (kind : CasePattern.Value) (placed : List CasePattern) (names : List Text)
      (named : List CasePattern)
  deriving Repr

/-- What running a function gives. -/
inductive Template.Kind where
  | function | generator | coroutine
  /-- A generator that waits for others between its values. -/
  | asyncGenerator
  /-- A comprehension, or a body of a class. -/
  | block
  deriving Repr, DecidableEq

/-- What a generator gets when it goes on. -/
inductive Advance where
  | sending | throwing
  /-- It gets an error that it is to end with. -/
  | closing
  /-- It goes on after such an error, because it waits for something. -/
  | ending
  deriving Repr, DecidableEq

def Advance.next : Advance → Advance
  | .sending | .throwing => .sending
  | .closing | .ending => .ending

mutual

inductive Instruction where
  | constant (v : Value)
  | load (a : Address)
  | store (a : Address)
  | erase (a : Address)
  | drop
  /-- Leaves a second copy of a value that is so many values below the top. -/
  | copy (depth : Nat)
  /-- Moves a value from below to the top. -/
  | lift (depth : Nat)
  | sign (s : Sign)
  | opposite
  | operate (o : Operator)
  | augment (o : Operator)
  | relate (r : Relation)
  | member (name : Text)
  | storeMember (name : Text)
  | eraseMember (name : Text)
  | item
  | storeItem
  | eraseItem
  | slice
  | tuple (count : Nat)
  | list (count : Nat)
  | set (count : Nat)
  /-- A set of more than two constants. -/
  | constantSet (count : Nat)
  | dictionary (count : Nat)
  | joined (count : Nat)
  /-- The text of a value, converted in some way and laid out by a format on top of it. -/
  | written (how : Option Char)
  /-- Adds a value to a list, to a set or, with a key, to a dictionary below. -/
  | append (depth : Nat)
  | insert (depth : Nat)
  | put (depth : Nat)
  /-- Adds all items of a value to the collection below. -/
  | extend
  | unite
  | merge
  /-- The same for the named arguments of a call; the function is below. -/
  | mergeNamed
  | tupleOfList
  /-- Calls a function with so many values and with named ones. -/
  | call (placed : Nat) (names : List Text)
  /-- Calls a function with the items of a value and those of a dictionary. -/
  | callSpread (isAlone hasNamed : Bool)
  | iterator
  | branch (yes no : List Instruction)
  /-- Keeps a value that decides, or goes on with other code. -/
  | choose (decisive : Bool) (other : List Instruction)
  | repeating (test body otherwise : List Instruction)
  | each (body otherwise : List Instruction)
  | leave
  | skip
  | give
  | yield
  | yieldFrom
  /-- What is waited for when a coroutine waits for a value, and which method has given the value. -/
  | awaited (method : Option Text)
  /-- Goes on with the generator below the top, until it gives a value of its own. -/
  | advance (how : Advance)
  /-- The iterator whose values are waited for, and what is waited for when it gives the next one. -/
  | asyncIterator
  | asyncNext
  /-- Enters a context that is waited for: its method for leaving it, and what is waited for first. -/
  | enterAsync
  | unpack (count : Nat)
  | unpackAround (before after : Nat)
  | raise (hasCause : Bool)
  | raiseAgain
  | guard (body handler otherwise : List Instruction)
  /-- Whether the error on top belongs to a class, which is taken away. -/
  | handles
  /-- Takes from the error on the stack what belongs to classes on top of it; that part comes on top. -/
  | splits
  /-- Runs code while the value on top is the error that is being handled. -/
  | handling (body : List Instruction)
  /-- The error that is left of one when parts of it have been handled. -/
  | regroup
  /-- Runs code however the code before it is left, or only if that is not by an error. -/
  | always (body last : List Instruction) (onErrors : Bool)
  | within (body : List Instruction)
  | define (t : Template) (defaults : Nat) (named notes : List Text)
  | defineClass (name : Text) (body : Template) (hasBases : Bool)
  | library (path : List Text) (isWhole : Bool)
  | importFrom (name : Text)
  | importAll
  /-- Compares the subject on top with a pattern; its names get their values. -/
  | fit (pattern : CasePattern)
  deriving Repr

inductive Template where
  | mk (name path : Text) (line : Nat) (signature : Signature) (document : Option Text)
      (slots : List Text) (kind : Template.Kind) (code : List Instruction)
  deriving Repr

end

abbrev Code := List Instruction

namespace Template

def name : Template → Text
  | .mk name _ _ _ _ _ _ _ => name

def path : Template → Text
  | .mk _ path _ _ _ _ _ _ => path

def withName (name : Text) : Template → Template
  | .mk _ path line signature document slots kind code =>
    .mk name path line signature document slots kind code

def withPath (path : Text) : Template → Template
  | .mk name _ line signature document slots kind code =>
    .mk name path line signature document slots kind code

def line : Template → Nat
  | .mk _ _ line _ _ _ _ _ => line

def signature : Template → Signature
  | .mk _ _ _ signature _ _ _ _ => signature

def document : Template → Option Text
  | .mk _ _ _ _ document _ _ _ => document

def slots : Template → List Text
  | .mk _ _ _ _ _ slots _ _ => slots

def kind : Template → Template.Kind
  | .mk _ _ _ _ _ _ kind _ => kind

def code : Template → Code
  | .mk _ _ _ _ _ _ _ code => code

end Template

mutual

def CasePattern.names : CasePattern → List Text
  | .anything | .equal _ | .same _ => []
  | .capture name => [name]
  | .either patterns => CasePattern.namesOfFirst patterns
  | .named pattern name => pattern.names ++ [name]
  | .sequence first rest last =>
    CasePattern.namesOfAll first ++ (rest.bind id).toList ++ CasePattern.namesOfAll last
  | .mapping _ patterns rest => CasePattern.namesOfAll patterns ++ rest.toList
  | .ofClass _ placed _ others => CasePattern.namesOfAll placed ++ CasePattern.namesOfAll others

def CasePattern.namesOfAll : List CasePattern → List Text
  | [] => []
  | p :: more => p.names ++ CasePattern.namesOfAll more

/-- The names of the first of several patterns; the others have the same. -/
def CasePattern.namesOfFirst : List CasePattern → List Text
  | [] => []
  | p :: _ => p.names

end

/-! The names that code takes from the blocks around it.

A function is kept together with the names of the functions around that its code, or the code of a
function inside it, refers to.
-/

/-- A name of a block around: how many blocks further out, and which of the names there. -/
structure Enclosed where
  out : Nat
  index : Nat
  name : Text
  deriving Repr, DecidableEq

/-- The name that an address leads to, if it is one of a block around so many blocks. -/
def Address.beyond (a : Address) (level : Nat) : List Enclosed :=
  match a with
  | .slot out index name | .named name (some (out, index)) =>
    if level ≤ out then [⟨out - level, index, name⟩] else []
  | .shared _ | .named _ none => []

def CasePattern.Value.beyond (v : CasePattern.Value) (level : Nat) : List Enclosed :=
  match v with
  | .path first _ => first.beyond level
  | .constant _ => []

mutual

/-- The names of blocks around that the values of a pattern refer to. -/
def CasePattern.beyond (level : Nat) : CasePattern → List Enclosed
  | .anything | .same _ | .capture _ => []
  | .equal v => v.beyond level
  | .either patterns => CasePattern.beyondAll level patterns
  | .named pattern _ => pattern.beyond level
  | .sequence first _ last => CasePattern.beyondAll level first ++ CasePattern.beyondAll level last
  | .mapping keys patterns _ =>
    keys.flatMap (fun key => key.beyond level) ++ CasePattern.beyondAll level patterns
  | .ofClass kind placed _ others =>
    kind.beyond level ++ CasePattern.beyondAll level placed ++ CasePattern.beyondAll level others

def CasePattern.beyondAll (level : Nat) : List CasePattern → List Enclosed
  | [] => []
  | p :: more => p.beyond level ++ CasePattern.beyondAll level more

end

mutual

/-- The names that an instruction refers to and that belong to a block so many blocks around or further; those
that it refers to itself count only if they are wanted. -/
def Instruction.beyond (level : Nat) (direct : Bool) : Instruction → List Enclosed
  | .load a | .store a | .erase a => if direct then a.beyond level else []
  | .branch yes no => Instruction.beyondAll level direct yes ++ Instruction.beyondAll level direct no
  | .choose _ other => Instruction.beyondAll level direct other
  | .repeating test body otherwise =>
    Instruction.beyondAll level direct test ++ Instruction.beyondAll level direct body ++
      Instruction.beyondAll level direct otherwise
  | .each body otherwise =>
    Instruction.beyondAll level direct body ++ Instruction.beyondAll level direct otherwise
  | .guard body handler otherwise =>
    Instruction.beyondAll level direct body ++ Instruction.beyondAll level direct handler ++
      Instruction.beyondAll level direct otherwise
  | .always body last _ =>
    Instruction.beyondAll level direct body ++ Instruction.beyondAll level direct last
  | .within body | .handling body => Instruction.beyondAll level direct body
  | .define t _ _ _ | .defineClass _ t _ => t.beyond (level + 1)
  | .fit pattern => if direct then pattern.beyond level else []
  | _ => []

def Instruction.beyondAll (level : Nat) (direct : Bool) : List Instruction → List Enclosed
  | [] => []
  | i :: more => i.beyond level direct ++ Instruction.beyondAll level direct more

def Template.beyond (level : Nat) : Template → List Enclosed
  | .mk _ _ _ _ _ _ _ code => Instruction.beyondAll level true code

end

namespace Template

def arranged (names : List Enclosed) : List Enclosed :=
  names.eraseDups.mergeSort fun a b => String.ofList a.name ≤ String.ofList b.name

def enclosed (t : Template) : List Enclosed := arranged (t.beyond 1)

/-- The names of a block that blocks inside take from it. -/
def lent (t : Template) : List Text :=
  (arranged ((Instruction.beyondAll 0 false t.code).filter fun e => e.out == 0)).map Enclosed.name

end Template

end Forwarding.Script
