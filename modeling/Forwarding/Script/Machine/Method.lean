import Forwarding.Script.Machine.Comparison
import Forwarding.Script.Machine.SpecialMethod

/-! Groups of errors, and the methods of the classes of the language. -/

set_option autoImplicit false

namespace Forwarding.Script.Act

open Text

def groupKind (items : List Value) : Act Value := do
  let allPlain ← items.allM fun item => isOfKind item "Exception"
  return .kind (if allPlain then "ExceptionGroup" else "BaseExceptionGroup")

/-- The group of the errors of another one that have been chosen; none if there are none. -/
def regrouped (e : Value) (items : List Value) : Act (Option Value) := do
  match e, items, ← bodyOf e with
  | .object place, _ :: _, .error (words :: _) cause context hides => do
    let o ← objectAt place
    let kind ← match o.kind with
      | .kind _ => groupKind items
      | other => pure other
    let inner ← newList items
    return some (← allocate ⟨kind, o.fields, .error [words, inner] cause context hides⟩)
  | _, _, _ => return none

def splitGroup (test : Value → Act Bool) : Nat → Value → Act (Option Value × Option Value)
  | 0, e => return (none, some e)
  | depth + 1, e => do
    if ← test e then return (some e, none)
    else
      match ← isOfKind e "BaseExceptionGroup", ← bodyOf e with
      | true, .error [_, inner] _ _ _ => do
        let parts ← (← itemsOf inner).mapM (splitGroup test depth)
        return (← regrouped e (parts.filterMap Prod.fst), ← regrouped e (parts.filterMap Prod.snd))
      | _, _ => return (none, some e)

def groupTest (condition : Value) : Value → Act Bool := fun e => do
  let isKind ← isClass condition
  match isKind, condition with
  | true, _ => isOf e condition
  | false, .tuple kinds => kinds.anyM fun k => isOf e k
  | false, f => do truth (← call f [e])

def leaves : Nat → Value → Act (List Value)
  | 0, e => return [e]
  | depth + 1, e => do
    match ← isOfKind e "BaseExceptionGroup", ← bodyOf e with
    | true, .error [_, inner] _ _ _ => return (← (← itemsOf inner).mapM (leaves depth)).flatten
    | _, _ => return [e]

def groupOptions (kinds : Value) : Act (List Value) := do
  let options := match kinds with
    | .tuple items => items
    | other => [other]
  options.forM fun k => do
    let isFit ← if ← isClass k then isBelow k (.kind "BaseException") else pure false
    if !isFit then
      typeError "catching classes that do not inherit from BaseException is not allowed"
    else if ← isBelow k (.kind "BaseExceptionGroup") then
      typeError "catching ExceptionGroup with except* is not allowed. Use except instead."
  return options

/-- The part of an error, as a group, that belongs to some classes, and what is left of it. -/
def partHandled (error kinds : Value) : Act (Value × Value) := do
  let options ← groupOptions kinds
  if error.isNothing then return (.nothing, .nothing)
  else
    let fits (e : Value) : Act Bool := options.anyM fun k => isOf e k
    let isGroup ← isOfKind error "BaseExceptionGroup"
    if ← fits error then
      if isGroup then return (error, .nothing)
      else
        let kind ← groupKind [error]
        let group ← allocate
          ⟨kind, none, .error [.text [], .tuple [error]] .nothing .nothing false⟩
        return (group, .nothing)
    else if isGroup then do
      let (yes, no) ← splitGroup fits depthLimit error
      return (Value.ofOption yes, Value.ofOption no)
    else return (.nothing, error)

def isRaisedAgain (error first : Value) : Act Bool := do
  match ← bodyOf error, ← bodyOf first with
  | .error _ cause context _, .error _ otherCause otherContext _ =>
    return cause.isSame otherCause && context.isSame otherContext
  | _, _ => return false

/-- The error that is left when parts of an error have been handled: those that handlers have ended with,
and what no handler was for. -/
def remaining (first : Value) (errors : List Value) : Act Value := do
  let errors := errors.filter fun e => !e.isNothing
  if !(← isOfKind first "BaseExceptionGroup") then return errors.headD .nothing
  else
    let again ← errors.filterM fun e => isRaisedAgain e first
    let raised ← errors.filterM fun e => return !(← isRaisedAgain e first)
    let kept := (← again.mapM (leaves depthLimit)).flatten
    let (rest, _) ← splitGroup (fun e => return kept.any e.isSame) depthLimit first
    match raised, rest with
    | [], _ => return Value.ofOption rest
    | [e], none => return e
    | _, _ => do
      let inner := raised ++ rest.toList
      allocate ⟨← groupKind inner, none, .error [.text [], ← newList inner] .nothing .nothing false⟩

/-! ### Methods of classes -/

/-- The error that arguments for raising describe: a class or a value, and what it is made with. -/
def errorOf (v : Value) : Act Value := do
  if ← isClass v then
    if ← isBelow v (.kind "BaseException") then
      let made ← call v []
      if ← isOfKind made "BaseException" then return made
      else
        typeError ("calling " ++ (← shown v) ++ " should have returned an instance of BaseException, not " ++
          (← shown (← kindOf made)))
    else typeError "exceptions must derive from BaseException"
  else if ← isOfKind v "BaseException" then return v
  else typeError "exceptions must derive from BaseException"

def raiseValue {α : Type} (error : Value) : Act α := throw (.raised error)

def resume (place : Nat) (input : Exit) : Act Value := perform (.resume place input)

def thrownError (arguments : List Value) : Act Value := do
  match arguments with
  | [v] => do
    if ← isClass v then
      if ← isBelow v (.kind "BaseException") then call v []
      else typeError ("exceptions must be classes or instances deriving from BaseException, not type")
    else if ← isOfKind v "BaseException" then return v
    else
      typeError ("exceptions must be classes or instances deriving from BaseException, not " ++
        (← kindName v))
  | kind :: v :: _ => do
    if ← isOf v kind then return v
    else if v.isNothing then call kind []
    else
      match ← plain v with
      | .tuple items => call kind items
      | _ => call kind [v]
  | [] => return .nothing

def closeGenerator (place : Nat) : Act Value := do
  match (← objectAt place).body with
  | .generator .ended => return .nothing
  | .generator (.waiting _ true) => do
    setBody place (.generator .ended)
    return .nothing
  | _ => do
    let error ← make "GeneratorExit" (.error [] .nothing .nothing false)
    let outcome ← rescue "GeneratorExit" (rescue "StopIteration" (do
      let _ ← resume place (.raising error)
      return true) fun _ => return false) fun _ => return false
    if outcome then fail "RuntimeError" "generator ignored GeneratorExit" else return .nothing

def awaitable (generator : Nat) (kind : Text) (how : Advance) (input : Value) : Act Value := do
  let place := (← get).heap.size
  let v ← make kind (.generator .ended)
  let frame : Frame := {
    code := [.advance how, .give]
    stack := [input, .object generator]
    scope := 0
    shared := (← get).frame.shared
    template := .mk kind kind 1 {} none [] .generator []
    generator := some place }
  setBody place (.generator (.waiting frame true))
  return v

def asyncMethod (place : Nat) (name : Text) (arguments : List Value) : Act Value := do
  match String.ofList name with
  | "__aiter__" => return .object place
  | "__anext__" => awaitable place "async_generator_asend" .sending .nothing
  | "asend" => do
    checkCount .single "async_generator.asend" name arguments.length
    awaitable place "async_generator_asend" .sending (argument arguments 0)
  | "athrow" => do
    checkCount (.between 1 3) "athrow" name arguments.length
    awaitable place "async_generator_athrow" .throwing (← thrownError arguments)
  | "aclose" => awaitable place "async_generator_athrow" .closing .nothing
  | _ => specialMethod (.object place) "async_generator" name arguments []

def generatorMethod (place : Nat) (name : Text) (arguments : List Value) : Act Value := do
  match String.ofList name with
  | "send" => do
    checkCount .single "generator.send" name arguments.length
    resume place (.giving (argument arguments 0))
  | "throw" => do
    checkCount (.between 1 3) "generator.throw" name arguments.length
    resume place (.raising (← thrownError arguments))
  | "close" => closeGenerator place
  | "__next__" => do
    checkSpecial "generator" name arguments []
    resume place (.giving .nothing)
  | _ => specialMethod (.object place) "generator" name arguments []

def errorMethod (place : Nat) (name : Text) (arguments : List Value) (named : Named) : Act Value := do
  let v := Value.object place
  checkCall .single false ("BaseException." ++ name) name arguments named
  match String.ofList name with
  | "with_traceback" =>
    if (argument arguments 0).isNothing then return v
    else typeError "__traceback__ must be a traceback or None"
  | "add_note" => do
    let note := argument arguments 0
    match ← plain note with
    | .text _ => do
      match ← field? place "__notes__" with
      | some (.object notes) =>
        changeBody notes fun body =>
          match body with
          | .list items => .list (items.push note)
          | other => other
      | _ => do setField place "__notes__" (← newList [note])
      return .nothing
    | _ => typeError ("note must be a str, not '" ++ (← kindName note) ++ ['\x27'])
  | "split" => do
    let (yes, no) ← splitGroup (groupTest (argument arguments 0)) depthLimit v
    return .tuple [Value.ofOption yes, Value.ofOption no]
  | "subgroup" => do
    let (yes, _) ← splitGroup (groupTest (argument arguments 0)) depthLimit v
    return Value.ofOption yes
  | "derive" => do
    match (← objectAt place).body with
    | .error (words :: _) _ _ _ => makeError "ExceptionGroup" [words, argument arguments 0] []
    | _ => return .nothing
  | _ => noAttribute v name

def sliceIndices (first stop step : Value) (length : Value) : Act Value := do
  let n ← index length
  if n < 0 then valueError "length should not be negative"
  else
    let b ← boundsOf first stop step n.toNat
    return .tuple [.integer b.first, .integer b.last, .integer b.step]

def changedProperty (place : Nat) (name : Text) (f : Value) : Act Value := do
  match (← objectAt place).body with
  | .property getter setter eraser => do
    let body := match String.ofList name with
      | "getter" => Body.property f setter eraser
      | "setter" => .property getter f eraser
      | _ => .property getter setter f
    let o ← objectAt place
    allocate ⟨o.kind, o.fields, body⟩
  | _ => return .nothing

def classMethodOf? (kind : Value) (form name : Text) (arguments : List Value) (named : Named) :
    Act (Option Value) := do
  match String.ofList form, String.ofList name with
  | "dict", "fromkeys" => return some (← fromKeys kind arguments named)
  | "int", "from_bytes" => do
    let made ← integerFromBytes arguments named
    match kind with
    | .kind ['i', 'n', 't'] => return some made
    | _ => return some (← call kind [made])
  | "float", "fromhex" => do
    checkCall .single false "float.fromhex" name arguments named
    match ← plain (argument arguments 0) with
    | .text t =>
      match ofHexadecimalText? t with
      | some x => return some (.real x)
      | none => valueError "invalid hexadecimal floating-point string"
    | _ => typeError "bad argument type for built-in operation"
  | "float", "__getformat__" => do
    checkCall .single false "float.__getformat__" name arguments named
    return some (.text "IEEE, little-endian")
  | "bytes", "fromhex" | "bytearray", "fromhex" =>
    return some (← bytesMethod .nothing form [] name arguments named)
  | "str", "maketrans" => return some (← textMethod [] name arguments named)
  | "bytes", "maketrans" | "bytearray", "maketrans" =>
    return some (← bytesMethod .nothing form [] name arguments named)
  | "type", "mro" => return some (← newList (← lineOf kind))
  | _, _ => return none

def nativeMethod (v : Value) (name : Text) (arguments : List Value) (named : Named) : Act Value := do
  let isAboutClass ← isClass v
  if isAboutClass then
    let found ← (← lineOf v).findSomeM? fun c => do
      match c with
      | .kind k => if Kind.hasMember k name then classMethodOf? v k name arguments named else return none
      | _ => return none
    match found with
    | some made => return made
    | none => do
      match ← classMethodOf? v "type" name arguments named with
      | some made => return made
      | none => specialMethod v "type" name arguments named
  else
    let kind := ((← nativeKind? (← kindOf v) name).getD [])
    if name.take 2 == ['_', '_'] then
      match v with
      | .object place =>
        match (← objectAt place).body with
        | .generator _ => do
          if (← kindName v) == "async_generator" then asyncMethod place name arguments
          else generatorMethod place name arguments
        | _ => specialMethod v kind name arguments named
      | _ => specialMethod v kind name arguments named
    else
      match ← plain v with
      | .text t => textMethod t name arguments named
      | .bytes t => bytesMethod v "bytes" t name arguments named
      | .tuple items => tupleMethod items name arguments named
      | .range first stop step => rangeMethod first stop step name arguments named
      | .slice first stop step => do
        checkCall .single false "slice.indices" name arguments named
        sliceIndices first stop step (argument arguments 0)
      | .integer n => integerMethod n "int" name arguments named
      | .truth b => integerMethod (if b then 1 else 0) "int" name arguments named
      | .real x => floatingMethod x name arguments named
      | .complex x y => complexMethod x y name arguments named
      | .object place =>
        match (← objectAt place).body with
        | .list items => listMethod place items name arguments named
        | .dictionary _ => dictionaryMethod place name arguments named
        | .set d => do setMethod v place d (← setKind v) name arguments named
        | .bytes t => bytesMethod v "bytearray" t name arguments named
        | .view source _ => viewMethod v source name arguments
        | .generator _ => do
          if (← kindName v) == "async_generator" then asyncMethod place name arguments
          else generatorMethod place name arguments
        | .error _ _ _ _ => errorMethod place name arguments named
        | .property _ _ _ => changedProperty place name (argument arguments 0)
        | .above _ owner => nativeAbove owner
        | _ => noAttribute v name
      | _ => noAttribute v name
where
  nativeAbove (owner : Value) : Act Value := noAttribute owner name

/-- What a method of a class of the language gives that has not been tied to a value. -/
def unboundMethod (kind name : Text) (arguments : List Value) (named : Named) : Act Value := do
  if name == "__new__" then
    match arguments with
    | c :: rest => do
      if !(← isClass c) then
        typeError (kind ++ ".__new__(X): X is not a type object (" ++ (← kindName c) ++ ")")
      else if !(← isBelow c (.kind kind)) then
        let shownKind ← className c
        typeError (kind ++ ".__new__(" ++ shownKind ++ "): " ++ shownKind ++ " is not a subtype of " ++ kind)
      else newValue c kind false rest named
    | [] => typeError (kind ++ ".__new__(): not enough arguments")
  else if Kind.isFreeMethod kind name || Kind.isClassMethod kind name then
    match ← classMethodOf? (.kind kind) kind name arguments named with
    | some found => return found
    | none => specialMethod (.kind kind) kind name arguments named
  else
    let isSpecial := name.take 2 == ['_', '_']
    match arguments with
    | [] =>
      if isSpecial then
        typeError ("descriptor '" ++ name ++ "' of '" ++ kind ++ "' object needs an argument")
      else typeError ("unbound method " ++ kind ++ ['.'] ++ name ++ "() needs an argument")
    | v :: rest => do
      if ← isOfKind v (String.ofList kind) then
        if isSpecial then
          match v with
          | .object place =>
            match (← objectAt place).body with
            | .generator _ => nativeMethod v name rest named
            | _ => specialMethod v kind name rest named
          | _ => specialMethod v kind name rest named
        else nativeMethod v name rest named
      else if isSpecial then
        typeError ("descriptor '" ++ name ++ "' requires a '" ++ kind ++ "' object but received a '" ++
          (← kindName v) ++ ['\x27'])
      else
        typeError ("descriptor '" ++ name ++ "' for '" ++ kind ++ "' objects doesn't apply to a '" ++
          (← kindName v) ++ "' object")

end Forwarding.Script.Act
