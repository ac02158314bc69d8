import Forwarding.Script.Machine.Attribute
import Forwarding.Script.Machine.Library

/-! Calls: how the arguments get to the parameters of a function, and what calling a value gives. -/

set_option autoImplicit false

namespace Forwarding.Script.Act

open Text

def tooManyWords (s : Signature) (defaults given namedGiven : Nat) : Text :=
  let taken := s.placed.length
  let counted : Text :=
    if defaults == 0 then decimal taken
    else "from " ++ decimal (taken - defaults) ++ " to " ++ decimal taken
  let isPlural := defaults != 0 || taken != 1
  let others : Text :=
    if namedGiven == 0 then []
    else
      " positional argument" ++ (if given != 1 then ['s'] else []) ++ " (and " ++ decimal namedGiven ++
        " keyword-only argument" ++ (if namedGiven != 1 then ['s'] else []) ++ [')']
  "() takes " ++ counted ++ " positional argument" ++ (if isPlural then ['s'] else []) ++ " but " ++
    decimal given ++ others ++ " " ++ (if given == 1 && namedGiven == 0 then "was".toList else "were") ++
    " given"

def missingWords (kind : String) (names : List Text) : Text :=
  "() missing " ++ decimal names.length ++ " required " ++ kind.toList ++ " argument" ++
    (if names.length == 1 then [] else ['s']) ++ ": " ++ Raised.listed names

/-- Gives the parameters that are named their arguments; arguments that no parameter takes are left. -/
def nameArguments (path : Text) (s : Signature) (named : List (Text × Value))
    (slots : Array (Option Value)) : Act (Array (Option Value) × List (Text × Value)) := do
  let names := s.placed ++ s.onlyNamed
  let (slots, left) ← named.foldlM (fun (slots, left) (name, value) => do
    match (names.drop s.onlyPlaced).idxOf? name with
    | none =>
      if s.namedRest.isSome then return (slots, (name, value) :: left)
      else
        let wrong := (s.placed.take s.onlyPlaced).filter fun other => named.any fun entry => entry.1 == other
        if !wrong.isEmpty then
          typeError (path ++ "() got some positional-only arguments passed as keyword arguments: '" ++
            join ", " wrong ++ ['\x27'])
        else typeError (path ++ "() got an unexpected keyword argument '" ++ name ++ ['\x27'])
    | some index =>
      let index := index + s.onlyPlaced
      if (slots.getD index none).isSome then
        typeError (path ++ "() got multiple values for argument '" ++ name ++ ['\x27'])
      else return (slots.set! index (some value), left)) (slots, [])
  return (slots, left.reverse)

/-- What the parameters of a function get from the arguments of a call, in the order of its slots. -/
def passed (r : Routine) (placed : List Value) (named : List (Text × Value)) :
    Act (Array (Option Value)) := do
  let s := r.template.signature
  let path := r.template.path
  let taken := s.placed.length
  let slots : Array (Option Value) :=
    ((placed.take taken).map some).toArray ++
      (List.replicate (r.template.slots.length - min taken placed.length) none).toArray
  let given := placed.length
  let isPlain := named.isEmpty && s.onlyNamed.isEmpty && s.rest.isNone && s.namedRest.isNone
  if isPlain && given == taken then return slots
  else
    let restIndex := taken + s.onlyNamed.length
    let slots := if s.rest.isSome then slots.set! restIndex (some (.tuple (placed.drop taken))) else slots
    let (slots, left) ← nameArguments path s named slots
    if taken < given && s.rest.isNone then
      let namedGiven := (List.range s.onlyNamed.length).countP fun k => (slots.getD (taken + k) none).isSome
      typeError (path ++ tooManyWords s r.defaults.length given namedGiven)
    else
      let required := taken - r.defaults.length
      let missing := ((List.range required).filter fun k => (slots.getD k none).isNone).map fun k =>
        s.placed.getD k []
      if !missing.isEmpty then typeError (path ++ missingWords "positional" missing)
      else
        let slots := r.defaults.zipIdx.foldl (fun slots (value, k) =>
          if (slots.getD (required + k) none).isSome then slots
          else slots.set! (required + k) (some value)) slots
        let slots := s.onlyNamed.zipIdx.foldl (fun slots (name, k) =>
          if (slots.getD (taken + k) none).isSome then slots
          else slots.set! (taken + k) (r.namedDefaults.lookup name)) slots
        let missing := (s.onlyNamed.zipIdx.filter fun (_, k) =>
          (slots.getD (taken + k) none).isNone).map Prod.fst
        if !missing.isEmpty then typeError (path ++ missingWords "keyword-only" missing)
        else if s.namedRest.isSome then
          let index := restIndex + (if s.rest.isSome then 1 else 0)
          return slots.set! index (some (← newDictionary (Dictionary.ofTexts left)))
        else return slots

def frameFor (r : Routine) (slots : Array (Option Value)) : Act Frame := do
  let place := (← get).heap.size
  let _ ← make "scope" (.scope slots r.template.slots (some r.scope))
  return { code := r.template.code, scope := place, names := r.names, shared := r.shared,
           template := r.template }

/-! ### Calling values -/

/-- Calls a method of the subject; the call is remembered. -/
def callSubject (method : Text) (arguments : List Value) : Act Value := do
  let (outcome, calls) := (← read).subject.call method arguments
  modify fun s => { s with calls := calls.reverse ++ s.calls }
  match outcome with
  | .ok v => return v
  | .error error => failRaised error

/-- The function that a forwarding function is: its parameters and a call of a method. -/
def forwardingRoutine (f : Function) : Routine :=
  let names := "subject".toList :: f.parameters
  let place (name : Text) : Instruction := .load (.slot 0 ((names.idxOf? name).getD 0) name)
  let code : Code := place "subject" :: .member f.method :: f.passed.map place ++
    [.call f.passed.length [], .give]
  { template := .mk f.symbol f.symbol 1 { placed := names } (some f.spoken) names .function code
    scope := 0, shared := 0 }

/-- Starts a function: the frame of its block. -/
def started (r : Routine) (placed : List Value) (named : Named) : Act Frame := do
  frameFor r (← passed r placed named)

def newGenerator (r : Routine) (frame : Frame) : Act Value := do
  let kind : Text := match r.template.kind with
    | .coroutine => "coroutine"
    | .asyncGenerator => "async_generator"
    | _ => "generator"
  let place := (← get).heap.size
  let v ← make kind (.generator .ended)
  setBody place (.generator (.waiting { frame with generator := some place } true))
  setField place "__name__" (.text r.template.name)
  setField place "__qualname__" (.text r.template.path)
  return v

def isGenerating (r : Routine) : Bool :=
  match r.template.kind with
  | .generator | .coroutine | .asyncGenerator => true
  | .function | .block => false

def uncallable {α : Type} (v : Value) : Act α := do
  typeError ("'" ++ (← kindName v) ++ "' object is not callable")

def callType (arguments : List Value) (named : Named) : Act Value := do
  match arguments with
  | [v] => do
    refuseNames "type" named
    kindOf v
  | [_, _, _] => classFrom (.kind "type") arguments named
  | _ => typeError "type() takes 1 or 3 arguments"

def callValue (f : Value) (placed : List Value) (named : Named) : Act Value := do
  match f with
  | .kind ['t', 'y', 'p', 'e'] => callType placed named
  | .kind ['s', 'u', 'p', 'e', 'r'] => do
    refuseNames "super" named
    above placed
  | .kind k => construct k placed named
  | .builtin name =>
    if name.contains '.' then libraryFunction name placed named else builtinFunction name placed named
  | .method .subject name => callSubject name placed
  | .method owner name => nativeMethod owner name placed named
  | .unbound k name => unboundMethod k name placed named
  | .forwarding g =>
    match placed, named with
    | .subject :: arguments, [] => do
      let (outcome, calls) := g.call (← read).subject arguments
      modify fun s => { s with calls := calls.reverse ++ s.calls }
      match outcome with
      | .ok v => return v
      | .error error => failRaised error
    | _, _ => do
      let r := forwardingRoutine g
      let frame ← started r placed named
      perform (.block { frame with shared := (← get).frame.shared })
  | .object place => do
    let o ← objectAt place
    match o.body with
    | .routine r => do
      let frame ← started r placed named
      if isGenerating r then newGenerator r frame else perform (.block frame)
    | .bound g owner => call g (owner :: placed) named
    | .class_ _ => instantiate f placed named
    | .staticMethod g => call g placed named
    | .boxed (.tuple (origin :: _)) =>
      if o.kind.isSame (.kind "GenericAlias") then call origin placed named else special
    | _ => special
  | _ => uncallable f
where
  special : Act Value := do
    match ← special? f "__call__" with
    | some g => call g placed named
    | none => uncallable f

end Forwarding.Script.Act
