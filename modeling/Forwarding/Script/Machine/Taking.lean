import Forwarding.Script.Machine.Comparison

/-! How many arguments the functions of the language take, and how errors about that are worded. -/

set_option autoImplicit false

namespace Forwarding.Script

open Text

abbrev Named := List (Text × Value)

inductive Taking where
  | nothing
  | single
  /-- So many arguments, as a sequence of values counts them. -/
  | between (fewest most : Nat)
  /-- So many arguments, as a pattern of parameters counts them. -/
  | counted (fewest most : Nat)
  /-- Parameters with names. -/
  | free
  deriving Repr, DecidableEq

namespace Act

def boundWords (fewest most given : Nat) : Text × Nat :=
  if fewest == most then ([], fewest)
  else if given < fewest then ("at least ", fewest)
  else ("at most ", most)

def wasGiven (given : Nat) : Text := " (" ++ decimal given ++ " given)"

/-- Refuses a call with too many or too few arguments. A function has a full name and one without that of
its class. -/
def checkCount (t : Taking) (fullName name : Text) (given : Nat) : Act Unit := do
  match t with
  | .nothing =>
    if given != 0 then typeError (fullName ++ "() takes no arguments" ++ wasGiven given)
  | .single =>
    if given != 1 then typeError (fullName ++ "() takes exactly one argument" ++ wasGiven given)
  | .between fewest most =>
    if given < fewest || most < given then
      let (words, count) := boundWords fewest most given
      typeError (name ++ " expected " ++ words ++ decimal count ++ " argument" ++
        (if count == 1 then [] else ['s']) ++ ", got " ++ decimal given)
  | .counted fewest most =>
    if given < fewest || most < given then
      let (words, count) := boundWords fewest most given
      let words := if words.isEmpty then "exactly ".toList else words
      typeError (name ++ "() takes " ++ words ++ decimal count ++ " argument" ++
        (if count == 1 then [] else ['s']) ++ wasGiven given)
  | .free => return ()

def refuseNames (fullName : Text) (named : Named) : Act Unit := do
  if !named.isEmpty then typeError (fullName ++ "() takes no keyword arguments")

def takingIn (table : List (Taking × List Text)) (name : Text) : Taking :=
  ((table.find? fun row => row.2.contains name).map Prod.fst).getD .free

/-- Refuses arguments that a function does not take; the flag says whether it knows names of arguments. -/
def checkCall (t : Taking) (isNaming : Bool) (fullName name : Text) (arguments : List Value)
    (named : Named) : Act Unit := do
  if !isNaming then refuseNames fullName named
  checkCount t fullName name arguments.length

/-- The parameters of a function of the language: some take arguments by their place only, the last ones
may have to be named. -/
structure Parametric where
  names : List Text
  onlyPlaced : Nat := 0
  required : Nat := 0
  /-- How many take arguments by their place. -/
  placed : Nat

def pluralMark (count : Nat) : Text := if count == 1 then [] else ['s']

def parametersOf (function : Text) (p : Parametric) (placed : List Value) (named : Named) :
    Act (List (Option Value)) := do
  let given := placed.length
  let all := p.names.length
  let shown := function ++ "()"
  if all < given + named.length then
    typeError (shown ++ " takes at most " ++ decimal all ++ (if given == 0 then " keyword".toList else []) ++
      " argument" ++ pluralMark all ++ wasGiven (given + named.length))
  else if p.placed < given then
    if p.placed == 0 then typeError (shown ++ " takes no positional arguments")
    else
      typeError (shown ++ " takes " ++ (if p.required < p.placed then "at most " else "exactly ") ++
        decimal p.placed ++ " positional argument" ++ pluralMark p.placed ++ wasGiven given)
  else if given < min p.onlyPlaced p.required then
    let fewest := min p.onlyPlaced p.required
    typeError (shown ++ " takes " ++ (if fewest < p.placed then "at least " else "exactly ") ++
      decimal fewest ++ " positional argument" ++ pluralMark fewest ++ wasGiven given)
  else
    let slots := placed.map some ++ (p.names.zipIdx.drop given).map fun (name, index) =>
      if index < p.onlyPlaced then none else named.lookup name
    match (slots.zip p.names).zipIdx.find? fun ((slot, _), index) => slot.isNone && index < p.required with
    | some ((_, name), index) =>
      typeError (shown ++ " missing required argument '" ++ name ++ "' (pos " ++
        decimal (index + 1) ++ ")")
    | none =>
      match named.find? fun entry => !(p.names.drop p.onlyPlaced).contains entry.1 with
      | some (name, _) =>
        typeError (['\x27'] ++ name ++ "' is an invalid keyword argument for " ++ shown)
      | none =>
        match (p.names.take given).zipIdx.find? fun (name, index) =>
            p.onlyPlaced ≤ index && (named.lookup name).isSome with
        | some (name, index) =>
          typeError ("argument for " ++ shown ++ " given by name ('" ++ name ++ "') and position (" ++
            decimal (index + 1) ++ ")")
        | none => return slots

/-- Parameters that are written as words. A slash ends those without names, a star begins those that have
to be named. -/
def parametric (required : Nat) (spelled : String) : Parametric :=
  let all := words spelled.toList
  let names := all.filter fun word => word != ['/'] && word != ['*']
  { names, required
    onlyPlaced := (all.idxOf? ['/']).getD 0
    placed := ((all.filter (· != ['/'])).idxOf? ['*']).getD names.length }

def argument (arguments : List Value) (index : Nat) : Value := arguments.getD index .nothing

def slotOr (slots : List (Option Value)) (index : Nat) (instead : Value) : Value :=
  (slots.getD index none).getD instead

end Act

end Forwarding.Script
