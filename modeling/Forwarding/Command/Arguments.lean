import Forwarding.Command.Options
import Forwarding.Text.Quoted

/-! Reading the arguments of a command line.

First every argument is classified: it is a value, or it names a switch, perhaps by the beginning of
its name, and may bring a value behind an equals sign. Then the switches take effect from left to
right, each with its value. Letters of short switches may be put together in one argument. What no
switch takes is refused at the end.
-/

set_option autoImplicit false

namespace Forwarding

open Text

namespace Command

/-- Why arguments are refused. -/
inductive UsageFault where
  | ambiguous (argument : Text) (names : List Text)
  | unusedValue (names : List Text) (value : Text)
  | noValue (names : List Text)
  | invalidChoice (names : List Text) (value : Text) (choices : List Text)
  | unrecognized (arguments : List Text)
  deriving Repr, DecidableEq

namespace UsageFault

def about (names : List Text) (words : Text) : Text :=
  "argument " ++ join "/" names ++ ": " ++ words

def message : UsageFault → Text
  | .ambiguous argument names =>
    "ambiguous option: " ++ argument ++ " could match " ++ join ", " names
  | .unusedValue names value => about names ("ignored explicit argument " ++ quoted value)
  | .noValue names => about names "expected one argument"
  | .invalidChoice names value choices =>
    about names ("invalid choice: " ++ quoted value ++ " (choose from " ++
      join ", " (choices.map quoted) ++ ")")
  | .unrecognized arguments => "unrecognized arguments: " ++ join " " arguments

end UsageFault

/-- A switch that an argument names, the name, and a value in the same argument: behind an equals
sign, or directly behind a short name. -/
structure Given where
  switch : Switch
  name : Text
  attached : Option Text

/-- What an argument is taken for. -/
inductive Role where
  | value
  /-- Everything behind it is a value that no switch takes. -/
  | divider
  | given (g : Given)
  | unknown

def isNegativeNumber (t : Text) : Bool :=
  match t with
  | '-' :: digits =>
    let digits := if digits.getLast? == some '\n' then digits.dropLast else digits
    let fraction := (digits.dropWhile isDecimalDigit).drop 1
    (!digits.isEmpty && digits.all isDecimalDigit) ||
      ((digits.dropWhile isDecimalDigit).head? == some '.' && !fraction.isEmpty &&
        fraction.all isDecimalDigit)
  | _ => false

/-- The text before the first equals sign, and what is behind it if there is one. -/
def parted (t : Text) : Text × Option Text :=
  (t.takeWhile (· != '='),
    match t.dropWhile (· != '=') with
    | [] => none
    | _ :: value => some value)

/-- The switches that an argument can mean when it is no full name. -/
def candidates (t : Text) : List Given :=
  match t with
  | '-' :: '-' :: _ =>
    let (start, attached) := parted t
    (named.filter fun (name, _) => start.isPrefixOf name).map fun (name, switch) =>
      { switch, name, attached }
  | _ =>
    named.filterMap fun (name, switch) =>
      if name == t.take 2 then some { switch, name, attached := some (t.drop 2) }
      else if t.isPrefixOf name then some { switch, name, attached := none }
      else none

def roleOf (t : Text) : Except UsageFault Role :=
  if t.head? != some '-' || t.length == 1 then .ok .value
  else match switch? t, parted t with
    | some switch, _ => .ok (.given { switch, name := t, attached := none })
    | none, (name, attached) =>
      match attached, switch? name with
      | some _, some switch => .ok (.given { switch, name, attached })
      | _, _ =>
        match candidates t with
        | [only] => .ok (.given only)
        | [] => .ok (if isNegativeNumber t || t.contains ' ' then .value else .unknown)
        | many => .error (.ambiguous t (many.map Given.name))

def roles : List Text → Except UsageFault (List (Text × Role))
  | [] => .ok []
  | t :: rest =>
    if t == ['-', '-'] then .ok ((t, .divider) :: rest.map fun value => (value, .value))
    else do
      let role ← roleOf t
      return (t, role) :: (← roles rest)

/-- What a command line asks for. -/
inductive Request where
  | help
  | run (options : Options)
  deriving Repr, DecidableEq

/-- The options so far, and the arguments that no switch has taken. -/
structure Reading where
  options : Options := {}
  extra : List Text := []
  deriving Repr, DecidableEq

/-- The switches that are put together behind a short one. Each letter has to name one. -/
def cluster (s : Switch) : Text → Except UsageFault (List Switch)
  | [] => .error (.unusedValue s.names [])
  | c :: rest =>
    match switch? ['-', c], rest with
    | none, _ => .error (.unusedValue s.names (c :: rest))
    | some next, [] => .ok [s, next]
    | some next, _ => (cluster next rest).map (s :: ·)

/-- Lets switches that take no value take effect. The answer is nothing if one of them asks for
help. -/
def applyAll (options : Options) : List Switch → Option Options
  | [] => some options
  | s :: rest =>
    match s.effect with
    | .help => none
    | .change apply => applyAll (apply options) rest
    | .take _ _ => applyAll options rest

/-- Lets a switch take a value. Choices bind a text only. -/
def applyValue (s : Switch) (apply : Operand → Options → Options) (choices : List Text)
    (value : Operand) (options : Options) : Except UsageFault Options :=
  match value with
  | .nothing => .ok (apply .nothing options)
  | .text t =>
    if choices.isEmpty || choices.contains t then .ok (apply value options)
    else .error (.invalidChoice s.names t choices)

def readFrom (r : Reading) : List (Text × Role) → Except UsageFault Request
  | [] => if r.extra.isEmpty then .ok (.run r.options) else .error (.unrecognized r.extra)
  | (t, .value) :: rest | (t, .divider) :: rest | (t, .unknown) :: rest =>
    readFrom { r with extra := r.extra ++ [t] } rest
  | (_, .given g) :: rest =>
    match g.switch.effect, g.attached with
    | .take apply choices, some attached => do
      let options ← applyValue g.switch apply choices (.ofAttached attached) r.options
      readFrom { r with options } rest
    | .take apply choices, none =>
      match rest with
      | (value, .value) :: rest => do
        let options ← applyValue g.switch apply choices value r.options
        readFrom { r with options } rest
      | _ => .error (.noValue g.switch.names)
    | _, none =>
      match applyAll r.options [g.switch] with
      | none => .ok .help
      | some options => readFrom { r with options } rest
    | _, some attached =>
      if "--".toList.isPrefixOf g.name then
        .error (.unusedValue g.switch.names attached)
      else do
        match applyAll r.options (← cluster g.switch attached) with
        | none => return .help
        | some options => readFrom { r with options } rest

def read (arguments : List Text) : Except UsageFault Request := do
  readFrom {} (← roles arguments)

end Command

end Forwarding
