import Forwarding.Script.Machine.Execution

/-! The steps of a running script.

A step does the next instruction of the block that is being run, or, where its code has come to an end,
what its tasks say. A block that is left early is unwound: its tasks say what is done on the way.
-/

set_option autoImplicit false

namespace Forwarding.Script

open Text

/-- How running a block has ended. -/
inductive Ending where
  | ended (v : Value)
  | failed (error : Value)
  /-- A generator has given a value and waits. -/
  | waiting (v : Value)

/-- What a step leads to. -/
inductive Progress where
  | more
  | done (outcome : Ending)

namespace Act

def blockLimit : Nat := 980

def setFrames (frame : Frame) (below : List Frame) (depth : Nat) : Act Unit := modify fun s =>
  match s with
  | ⟨heap, _, _, _, calls, libraries, given⟩ => ⟨heap, frame, below, depth, calls, libraries, given⟩

def enterFrame (frame : Frame) : Act Unit := do
  let s ← get
  if blockLimit ≤ s.depth then tooDeep
  else setFrames frame (s.frame :: s.below) (s.depth + 1)

def leaveFrame : Act Unit := do
  let s ← get
  match s.below with
  | frame :: below => setFrames frame below (s.depth - 1)
  | [] => pure ()

def setContext (error : Value) : Act Unit := do
  match error, ← handledError? with
  | .object place, some handled =>
    if !error.isSame handled then
      changeBody place fun body =>
        match body with
        | .error arguments cause .nothing hides => .error arguments cause handled hides
        | other => other
  | _, _ => pure ()

def attempt {α : Type} (action : Act α) : Act (Except Value α) :=
  tryCatch (return .ok (← action)) fun halt => do
    match halt with
    | .raised error => do
      setContext error
      return .error error
    | .exhausted => throw halt

def finish (outcome : Except Value Value) : Act Progress := do
  if (← get).frame.isBase then
    match outcome with
    | .ok v => return .done (.ended v)
    | .error error => return .done (.failed error)
  else do
    leaveFrame
    match outcome with
    | .ok v => push v
    | .error error => changeFrame fun frame =>
      { frame with code := [], tasks := .resume (.raising error) :: frame.tasks }
    return .more

def handle (error : Value) (code : Code) (tasks : List Task) : Act Unit := changeFrame fun frame =>
  { frame with code, tasks, handling := error :: frame.handling }

def handled : Act Unit := changeFrame fun frame => { frame with handling := frame.handling.drop 1 }

/-- Calls the method for leaving a context with an error, and whether it takes care of it. -/
def leaveContext (exit error : Value) : Act (Except Value Bool) := do
  changeFrame fun frame => { frame with handling := error :: frame.handling }
  let outcome ← attempt do truth (← call exit [← kindOf error, error, .nothing])
  handled
  return outcome

def leave (exit : Exit) : List Task → Act Progress
  | [] => do
    match exit with
    | .raising error => finish (.error error)
    | .giving v => finish (.ok v)
    | .leaving | .skipping => finish (.ok .nothing)
  | task :: tasks => do
    match task, exit with
    | .again _ _ _ height, .leaving => do
      cutTo height
      goOn [] tasks
      return .more
    | .again test body otherwise height, .skipping => do
      cutTo height
      goOn test (.tested test body otherwise height :: tasks)
      return .more
    | .each _ _ height, .leaving => do
      cutTo (height - 1)
      goOn [] tasks
      return .more
    | .each _ _ height, .skipping => do
      cutTo height
      goOn [] (task :: tasks)
      return .more
    | .guard handler _ height, .raising error => do
      cutTo height
      push error
      handle error handler (.handled :: tasks)
      return .more
    | .always _ _ false, .raising _ => leave exit tasks
    | .always last height true, .raising error => do
      cutTo height
      handle error last (.handled :: .resume exit :: tasks)
      return .more
    | .always last height _, _ => do
      cutTo height
      goOn last (.resume exit :: tasks)
      return .more
    | .within height, .raising error => do
      cutTo height
      match ← leaveContext (← pop) error with
      | .ok true => do
        goOn [] tasks
        return .more
      | .ok false => leave exit tasks
      | .error other => leave (.raising other) tasks
    | .within height, _ => do
      cutTo height
      let method ← pop
      match ← attempt (call method [.nothing, .nothing, .nothing]) with
      | .ok _ => leave exit tasks
      | .error other => leave (.raising other) tasks
    | .handled, _ => do
      handled
      leave exit tasks
    | _, _ => leave exit tasks

def goOnWith (task : Task) (tasks : List Task) : Act Progress := do
  match task with
  | .code code => do
    goOn code tasks
    return .more
  | .again test body otherwise height => do
    goOn test (.tested test body otherwise height :: tasks)
    return .more
  | .tested test body otherwise height => do
    goOn [] tasks
    let goes ← truth (← pop)
    if goes then goOn body (.again test body otherwise height :: tasks) else goOn otherwise tasks
    return .more
  | .each body otherwise _ => do
    goOn [] tasks
    match ← next? (← peek 0) with
    | some v => do
      push v
      goOn body (task :: tasks)
    | none => do
      let _ ← pop
      goOn otherwise tasks
    return .more
  | .guard _ otherwise _ => do
    goOn otherwise tasks
    return .more
  | .always last _ _ => do
    goOn last tasks
    return .more
  | .within _ => do
    goOn [] tasks
    let _ ← call (← pop) [.nothing, .nothing, .nothing]
    return .more
  | .handled => do
    handled
    goOn [] tasks
    return .more
  | .resume exit => leave exit tasks

def wait (code : Code) (v : Value) : Act Progress := do
  let frame := (← get).frame
  match frame.generator with
  | some place => setBody place (.generator (.waiting { frame with code } false))
  | none => pure ()
  return .done (.waiting v)

def apply (i : Instruction) (effect : Effect) : Act Progress := do
  match effect with
  | .goes => return .more
  | .enters frame => do
    enterFrame frame
    return .more
  | .leaves exit => do
    match exit with
    | .raising error => setContext error
    | _ => pure ()
    leave exit (← get).frame.tasks
  | .waits v => do
    let code := (← get).frame.code
    match i with
    | .yieldFrom => wait (i :: code) v
    | .advance how => wait (.advance how.next :: code) v
    | _ => wait code v

def plainStep : Act Progress := do
  let frame := (← get).frame
  match frame.code, frame.tasks with
  | i :: code, tasks => do
    goOn code tasks
    apply i (← execute i)
  | [], task :: tasks => goOnWith task tasks
  | [], [] => finish (.ok .nothing)

def step : Act Progress := do
  match ← attempt plainStep with
  | .ok progress => return progress
  | .error error => leave (.raising error) (← get).frame.tasks

end Act

/-! Running scripts: blocks are followed to their end, and requests of operations are answered. -/

namespace Act

def stepLimit : Nat := 1000000000000

/-- Makes steps until the block that was entered first ends. -/
def follow : Nat → Act Ending
  | 0 => throw .exhausted
  | count + 1 => do
    match ← step with
    | .more => follow count
    | .done outcome => return outcome

/-- Runs a block by itself, and goes back to where it was called. -/
def runFrame (frame : Frame) : Act Ending := do
  let s ← get
  let (before, below, depth) := (s.frame, s.below, s.depth)
  enterFrame { frame with isBase := true }
  let outcome ← follow stepLimit
  setFrames before below depth
  return outcome

def runBlock (frame : Frame) : Act Value := do
  match ← runFrame frame with
  | .ended v | .waiting v => return v
  | .failed error => throw (.raised error)

/-! ### Generators -/

def endOf {α : Type} (kind : Text) (v : Value) : Act α :=
  if kind == "async_generator" then failWith "StopAsyncIteration" []
  else failWith "StopIteration" (if v.isNothing then [] else [v])

def spokenKind (kind : Text) : Text :=
  if kind == "async_generator" then "async generator".toList
  else if kind == "async_generator_asend" || kind == "async_generator_athrow" then "generator".toList
  else kind

/-- The error that a generator ends with instead of one that would look like its end. -/
def shielded (kind : Text) (error : Value) : Act Value := do
  let instead (name : Text) : Act Value :=
    make "RuntimeError" (.error [.text (spokenKind kind ++ " raised " ++ name)] error error true)
  if ← isOfKind error "StopIteration" then instead "StopIteration"
  else if kind == "async_generator" then do
    if ← isOfKind error "StopAsyncIteration" then instead "StopAsyncIteration" else return error
  else return error

def runGenerator (place : Nat) (kind : Text) (frame : Frame) : Act Value := do
  setBody place (.generator .running)
  match ← runFrame frame with
  | .waiting v => return v
  | .ended v => do
    setBody place (.generator .ended)
    endOf kind v
  | .failed error => do
    setBody place (.generator .ended)
    throw (.raised (← shielded kind error))

def raisingFrame (frame : Frame) (error : Value) : Frame :=
  { frame with code := [], tasks := .resume (.raising error) :: frame.tasks }

/-- Goes on with an error in a generator that takes its values from another one: that one gets the error
first. -/
def throwInside (place : Nat) (kind : Text) (frame : Frame) (inner error : Value) : Act Value := do
  if ← isOfKind error "GeneratorExit" then
    let closed ← match ← readMember? inner "close" with
      | some close => attempt (call close [])
      | none => pure (.ok .nothing)
    match closed with
    | .ok _ => runGenerator place kind (raisingFrame frame error)
    | .error other => runGenerator place kind (raisingFrame frame other)
  else
    match ← readMember? inner "throw" with
    | none => runGenerator place kind (raisingFrame frame error)
    | some f => do
      setBody place (.generator .running)
      match ← attempt (call f [error]) with
      | .ok v => do
        setBody place (.generator (.waiting frame false))
        return v
      | .error other =>
        if ← isOfKind other "StopIteration" then
          let result ← stopValue other
          runGenerator place kind
            { frame with code := frame.code.drop 1, stack := result :: frame.stack.drop 1 }
        else runGenerator place kind (raisingFrame frame other)

def resumed (place : Nat) (input : Exit) : Act Value := do
  let kind ← kindName (.object place)
  match (← objectAt place).body with
  | .generator .running => valueError (spokenKind kind ++ " already executing")
  | .generator (.waiting frame true) =>
    match input with
    | .raising error => do
      setBody place (.generator .ended)
      throw (.raised error)
    | .giving .nothing => runGenerator place kind frame
    | _ => typeError ("can't send non-None value to a just-started " ++ spokenKind kind)
  | .generator (.waiting frame false) =>
    match input, frame.code, frame.stack with
    | .raising error, .yieldFrom :: _, inner :: _ => throwInside place kind frame inner error
    | .raising error, .advance _ :: code, stack =>
      runGenerator place kind { frame with code := .advance .throwing :: code, stack := error :: stack }
    | .raising error, _, _ => runGenerator place kind (raisingFrame frame error)
    | .giving v, _, stack => runGenerator place kind { frame with stack := v :: stack }
    | _, _, _ => runGenerator place kind frame
  | _ =>
    match input with
    | .raising error => throw (.raised error)
    | _ =>
      if kind == "coroutine" then fail "RuntimeError" "cannot reuse already awaited coroutine"
      else endOf kind .nothing

def answer (r : Request) : Act Value := do
  match r with
  | .call f placed named => callValue f placed named
  | .resume place input => resumed place input
  | .block frame => runBlock frame

end Act

def requestLimit : Nat := 1500

/-- Answers the requests of operations. The number bounds how deep they are made inside each other. -/
def answers (subject : Subject) : Nat → Request → Run Value
  | 0, _ => (Act.tooDeep : Act Value).run ⟨subject, fun _ => throw .exhausted⟩
  | depth + 1, r => (Act.answer r).run ⟨subject, answers subject depth⟩

def Act.runWith {α : Type} (subject : Subject) (action : Act α) : Run α :=
  action.run ⟨subject, answers subject requestLimit⟩

end Forwarding.Script
