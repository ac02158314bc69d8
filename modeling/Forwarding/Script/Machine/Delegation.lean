import Forwarding.Script.Machine.Calling
import Forwarding.Script.Machine.Names

/-! The stack of the block that is being run, contexts, and what generators leave to others. -/

set_option autoImplicit false

namespace Forwarding.Script.Act

def push (v : Value) : Act Unit := changeFrame fun frame => { frame with stack := v :: frame.stack }

def pop : Act Value :=
  modifyGet fun s =>
    match s.frame.stack with
    | v :: rest => (v, { s with frame := { s.frame with stack := rest } })
    | [] => (.nothing, s)

/-- Takes several values away; the one that was put first comes first. -/
def popMany (count : Nat) : Act (List Value) :=
  modifyGet fun s =>
    ((s.frame.stack.take count).reverse,
      { s with frame := { s.frame with stack := s.frame.stack.drop count } })

def peek (depth : Nat) : Act Value := return (← get).frame.stack.getD depth .nothing

def height : Act Nat := return (← get).frame.stack.length

def cutTo (height : Nat) : Act Unit := changeFrame fun frame =>
  { frame with stack := frame.stack.drop (frame.stack.length - height) }

def enter (code : Code) : Act Unit := changeFrame fun frame =>
  if frame.code.isEmpty then { frame with code }
  else { frame with code, tasks := .code frame.code :: frame.tasks }

def enterUnder (task : Task) (code : Code) : Act Unit := changeFrame fun frame =>
  if frame.code.isEmpty then { frame with code, tasks := task :: frame.tasks }
  else { frame with code, tasks := task :: .code frame.code :: frame.tasks }

def goOn (code : Code) (tasks : List Task) : Act Unit := changeFrame fun frame =>
  { frame with code, tasks }

def handledError? : Act (Option Value) := do
  let s ← get
  return (s.frame :: s.below).findSome? fun frame => frame.handling.head?

end Forwarding.Script.Act

/-! Contexts, and what generators and coroutines leave to others: the values that they take from them, and
what they wait for. -/

namespace Forwarding.Script

open Text

/-- What an instruction leaves to the machine. -/
inductive Effect where
  | goes
  /-- Runs a block, whose value is left on the stack. -/
  | enters (frame : Frame)
  | leaves (exit : Exit)
  /-- A generator gives a value and waits. -/
  | waits (v : Value)

namespace Act

/-! ### Contexts -/

/-- Enters a context: its method for leaving it, and what entering it gives. -/
def entered (v : Value) : Act (Value × Value) := do
  match ← methodOf? v "__enter__", ← methodOf? v "__exit__" with
  | some enter, some exit => return (exit, ← call enter [])
  | some _, none =>
    typeError ("'" ++ (← kindName v) ++ "' object does not support the context manager protocol" ++
      " (missed __exit__ method)")
  | none, _ =>
    typeError ("'" ++ (← kindName v) ++ "' object does not support the context manager protocol")

/-! ### Generators inside others -/

def delegate : Act Effect := do
  let sent ← pop
  let it ← peek 0
  let outcome : Except Value Value ← do
    match it with
    | .object place =>
      match (← objectAt place).body with
      | .generator _ => finishing (resume place (.giving sent))
      | _ =>
        if sent.isNothing then
          match ← special? it "__next__" with
          | some f => finishing (call f [])
          | none =>
            match ← next? it with
            | some v => pure (.ok v)
            | none => pure (.error .nothing)
        else finishing (do call (← readMember it "send") [sent])
    | _ => typeError ("'" ++ (← kindName it) ++ "' object is not an iterator")
  match outcome with
  | .ok v => return .waits v
  | .error result => do
    let _ ← pop
    push result
    return .goes
where
  finishing (action : Act Value) : Act (Except Value Value) :=
    rescue "StopIteration" (return .ok (← action)) fun error => return .error (← stopValue error)

/-- Whether a value is a coroutine, or what an asynchronous generator is waited for with. -/
def isAwaitable (v : Value) : Act Bool := do
  match ← bodyOf v with
  | .generator _ => do
    let kind ← kindName v
    return kind == "coroutine" || kind == "async_generator_asend" || kind == "async_generator_athrow"
  | _ => return false

def waitedFor (method : Option Text) (v : Value) : Act Value := do
  if ← isAwaitable v then return v
  else
    match ← special? v "__await__" with
    | some f => do
      let found ← call f []
      if ← isAwaitable found then typeError "__await__() returned a coroutine"
      else if ← isIterator found then return found
      else typeError ("__await__() returned non-iterator of type '" ++ (← kindName found) ++ ['\x27'])
    | none =>
      match method with
      | some name =>
        typeError ("'async with' received an object from " ++ name ++
          " that does not implement __await__: " ++ (← kindName v))
      | none => typeError ("object " ++ (← kindName v) ++ " can't be used in 'await' expression")

/-! ### Asynchronous generators -/

/-- Goes on with the asynchronous generator below the top. What it waits for is waited for outside, and a
value of its own ends what has been waited for. -/
def advance (how : Advance) : Act Effect := do
  let input ← pop
  match ← peek 0 with
  | .object place =>
    match how with
    | .sending => goesOn (perform (.resume place (.giving input)))
    | .throwing => goesOn (perform (.resume place (.raising input)))
    | .ending => ends (perform (.resume place (.giving input)))
    | .closing =>
      match (← objectAt place).body with
      | .generator (.waiting _ false) => do
        let error ← make "GeneratorExit" (.error [] .nothing .nothing false)
        ends (perform (.resume place (.raising error)))
      | _ => do
        setBody place (.generator .ended)
        return .leaves (.giving .nothing)
  | _ => return .goes
where
  goesOn (action : Act Value) : Act Effect := do
    let found ← action
    match ← bodyOf found with
    | .given v => return .leaves (.giving v)
    | _ => return .waits found
  ends (action : Act Value) : Act Effect := do
    let ended (_ : Value) : Act (Option Value) := return none
    match ← rescue "StopAsyncIteration" (rescue "GeneratorExit" (return some (← action)) ended) ended with
    | none => return .leaves (.giving .nothing)
    | some found =>
      match ← bodyOf found with
      | .given _ => fail "RuntimeError" "async generator ignored GeneratorExit"
      | _ => return .waits found

def asyncIterator (v : Value) : Act Value := do
  match ← methodOf? v "__aiter__" with
  | none =>
    typeError ("'async for' requires an object with __aiter__ method, got " ++ (← kindName v))
  | some f => do
    let found ← call f []
    match ← methodOf? found "__anext__" with
    | some _ => return found
    | none =>
      typeError ("'async for' received an object from __aiter__ that does not implement __anext__: " ++
        (← kindName found))

def asyncNext (v : Value) : Act Value := do
  match ← methodOf? v "__anext__" with
  | none =>
    typeError ("'async for' requires an iterator with __anext__ method, got " ++ (← kindName v))
  | some f => do
    let found ← call f []
    rescue "TypeError" (waitedFor none found) fun _ => do
      typeError ("'async for' received an invalid object from __anext__: " ++ (← kindName found))

/-- Enters a context that is waited for: its method for leaving it, and what is waited for first. -/
def enteredAsync (v : Value) : Act (Value × Value) := do
  let refused : Text :=
    "'" ++ (← kindName v) ++ "' object does not support the asynchronous context manager protocol"
  match ← methodOf? v "__aenter__", ← methodOf? v "__aexit__" with
  | some enter, some exit => return (exit, ← waitedFor (some "__aenter__") (← call enter []))
  | some _, none => typeError (refused ++ " (missed __aexit__ method)")
  | none, _ => typeError refused

end Act

end Forwarding.Script
