import Forwarding.Script.Machine.Delegation
import Forwarding.Script.Machine.Matching

/-! What each instruction does. -/

set_option autoImplicit false

namespace Forwarding.Script

open Text

namespace Act

def related (r : Relation) (a b : Value) : Act Value := do
  match r with
  | .order o => compareBy o a b
  | .same isSame => return .truth (a.isSame b == isSame)
  | .member isMember => return .truth ((← contains b a) == isMember)

/-! ### Taking values apart -/

def unpackWords (expected : Nat) (isAtLeast : Bool) (found : Nat) : Text :=
  "not enough values to unpack (expected " ++ (if isAtLeast then "at least ".toList else []) ++
    decimal expected ++ ", got " ++ decimal found ++ ")"

def unpackable (v : Value) : Act Value :=
  iteratorOr v fun kind => return "cannot unpack non-iterable " ++ kind ++ " object"

def takeNext (it : Value) : Nat → Act (List Value)
  | 0 => return []
  | count + 1 => do
    match ← next? it with
    | some v => return v :: (← takeNext it count)
    | none => return []

def unpacked (v : Value) (count : Nat) : Act (List Value) := do
  match ← readyItems? v with
  | some items =>
    if items.length == count then return items
    else if items.length < count then valueError (unpackWords count false items.length)
    else valueError ("too many values to unpack (expected " ++ decimal count ++ ")")
  | none => do
    let it ← unpackable v
    let items ← takeNext it count
    if items.length < count then valueError (unpackWords count false items.length)
    else
      match ← next? it with
      | none => return items
      | some _ => valueError ("too many values to unpack (expected " ++ decimal count ++ ")")

def unpackedAround (v : Value) (before after : Nat) : Act (List Value) := do
  let items ← match ← readyItems? v with
    | some items => pure items
    | none => do rest (← unpackable v) itemLimit #[]
  let least := before + after
  if items.length < least then valueError (unpackWords least (after != 0 || before != 0) items.length)
  else
    let middle := (items.drop before).take (items.length - least)
    return items.take before ++ [← newList middle] ++ items.drop (items.length - after)

/-! ### Calls -/

def callName (f : Value) : Act Text := do
  match ← readMember? f "__qualname__", ← readMember? f "__module__" with
  | some (.text path), some (.text m) =>
    return (if m == "builtins" then [] else m ++ ['.']) ++ path ++ "()"
  | some (.text path), _ => return path ++ "()"
  | _, _ => shown f

def namedEntries (f v : Value) : Act (List (Value × Value)) := do
  let isMapping : Bool ← match ← bodyOf v with
    | .dictionary _ => pure true
    | _ => pure (← readMember? v "keys").isSome
  if isMapping then entriesOf v
  else
    typeError ((← callName f) ++ " argument after ** must be a mapping, not " ++ (← kindName v))

def mergeArguments (place : Nat) (f v : Value) : Act Unit := do
  (← namedEntries f v).forM fun (key, item) => do
    let code ← codeIn (← dictionaryAt place) key
    if (← dictionaryAt place).contains code then
      match key with
      | .text name =>
        typeError ((← callName f) ++ " got multiple values for keyword argument '" ++ name ++ ['\x27'])
      | _ => typeError "keywords must be strings"
    else changeDictionary place fun d => d.insert code key item

/-- Calls a value: blocks of the script are left to the machine. -/
def startCall (f : Value) (placed : List Value) (named : Named) : Act Effect := do
  match f with
  | .object place => do
    match (← objectAt place).body with
    | .routine r => run r placed named
    | .bound (.object g) owner =>
      match (← objectAt g).body with
      | .routine r => run r (owner :: placed) named
      | _ => native
    | _ => native
  | _ => native
where
  native : Act Effect := do
    push (← callValue f placed named)
    return .goes
  run (r : Routine) (placed : List Value) (named : Named) : Act Effect := do
    let frame ← started r placed named
    if isGenerating r then
      push (← newGenerator r frame)
      return .goes
    else return .enters frame

def argumentNames (d : Dictionary) : Act Named :=
  d.toList.mapM fun e =>
    match e.key with
    | .text name => return (name, e.item)
    | _ => typeError "keywords must be strings"

/-! ### Errors -/

def raised (v : Value) (cause : Option Value) : Act Value := do
  let error ← errorOf v
  match cause with
  | none => return error
  | some c => do
    let cause ←
      if c.isNothing then pure .nothing
      else if ← isClass c then
        if ← isBelow c (.kind "BaseException") then call c []
        else typeError "exception causes must derive from BaseException"
      else if ← isOfKind c "BaseException" then pure c
      else typeError "exception causes must derive from BaseException"
    match error with
    | .object place =>
      changeBody place fun body =>
        match body with
        | .error arguments _ context _ => .error arguments cause context true
        | other => other
    | _ => pure ()
    return error

def isHandledBy (error kinds : Value) : Act Bool := do
  let options ← match kinds with
    | .tuple items => pure items
    | other => pure [other]
  options.forM fun k => do
    let isFit ← if ← isClass k then isBelow k (.kind "BaseException") else pure false
    if !isFit then
      typeError "catching classes that do not inherit from BaseException is not allowed"
  options.anyM fun k => isOf error k

/-! ### Definitions -/

def defined (t : Template) (defaults : List Value) (named : Named) (notes : Named) : Act Value := do
  let frame := (← get).frame
  let v ← make "function"
    (.routine { template := t, defaults, namedDefaults := named, scope := frame.scope, shared := frame.shared })
  match v, notes with
  | .object place, _ :: _ => setField place "__annotations__" (← newDictionary (Dictionary.ofTexts notes))
  | _, _ => pure ()
  return v

/-! ### All instructions -/

def execute (i : Instruction) : Act Effect := do
  match i with
  | .constant v => gives v
  | .load a => do gives (← loadFrom a)
  | .store a => do
    storeTo a (← pop)
    return .goes
  | .erase a => do
    eraseFrom a
    return .goes
  | .drop => do
    let _ ← pop
    return .goes
  | .copy depth => do gives (← peek depth)
  | .lift depth => do
    changeFrame fun frame =>
      match frame.stack[depth]? with
      | some v => { frame with stack := v :: frame.stack.eraseIdx depth }
      | none => frame
    return .goes
  | .sign s => do gives (← sign s (← pop))
  | .opposite => do gives (.truth !(← truth (← pop)))
  | .operate o => do
    let b ← pop
    let a ← pop
    gives (← operate o a b)
  | .augment o => do
    let b ← pop
    let a ← pop
    gives (← augment o a b)
  | .relate r => do
    let b ← pop
    let a ← pop
    gives (← related r a b)
  | .member name => do gives (← readMember (← pop) name)
  | .storeMember name => do
    let owner ← pop
    storeMember owner name (← pop)
    return .goes
  | .eraseMember name => do
    eraseMember (← pop) name
    return .goes
  | .item => do
    let index ← pop
    let owner ← pop
    gives (← item owner index)
  | .storeItem => do
    let index ← pop
    let owner ← pop
    storeItem owner index (← pop)
    return .goes
  | .eraseItem => do
    let index ← pop
    let owner ← pop
    eraseItem owner index
    return .goes
  | .slice => do
    let step ← pop
    let stop ← pop
    let first ← pop
    gives (.slice first stop step)
  | .tuple count => do gives (.tuple (← popMany count))
  | .list count => do gives (← newList (← popMany count))
  | .set count => do
    let items ← popMany count
    gives (← make "set" (.set (← setOf items)))
  | .constantSet count => do
    let items ← popMany count
    gives (← make "set" (.set (Dictionary.ofConstants (← setOf items))))
  | .dictionary count => do
    let items ← popMany (2 * count)
    gives (← newDictionary (← dictionaryOf (pairs items)))
  | .joined count => do
    let parts ← popMany count
    let texts ← parts.mapM printedText
    gives (.text texts.flatten)
  | .written how => do
    let layout ← pop
    let v ← converted (← pop) how
    gives (.text (← laidOut v (← printedText layout)))
  | .append depth => do
    let v ← pop
    match ← peek depth with
    | .object place =>
      changeBody place fun body =>
        match body with
        | .list items => .list (items.push v)
        | other => other
    | _ => pure ()
    return .goes
  | .insert depth => do
    let v ← pop
    match ← peek depth with
    | .object place =>
      match (← objectAt place).body with
      | .set d => do
        let e ← keyEntry d v
        changeBody place fun body =>
          match body with
          | .set d => .set (d.addKey e)
          | other => other
      | _ => pure ()
    | _ => pure ()
    return .goes
  | .put depth => do
    let v ← pop
    let key ← pop
    match ← peek depth with
    | .object place => do
      let code ← codeIn (← dictionaryAt place) key
      changeDictionary place fun d => d.insert code key v
    | _ => pure ()
    return .goes
  | .extend => do
    let v ← pop
    let items ← match ← readyItems? v with
      | some items => pure items
      | none => do
        let it ← iteratorOr v fun kind => return "Value after * must be an iterable, not " ++ kind
        rest it itemLimit #[]
    match ← peek 0 with
    | .object place =>
      changeBody place fun body =>
        match body with
        | .list found => .list (found ++ items.toArray)
        | other => other
    | _ => pure ()
    return .goes
  | .unite => do
    let v ← pop
    match ← peek 0 with
    | .object place =>
      match (← objectAt place).body with
      | .set d => do setBody place (.set (← uniteWith d v))
      | _ => pure ()
    | _ => pure ()
    return .goes
  | .merge => do
    let v ← pop
    let isMapping : Bool ← match ← bodyOf v with
      | .dictionary _ => pure true
      | _ => pure (← readMember? v "keys").isSome
    if !isMapping then typeError ("'" ++ (← kindName v) ++ "' object is not a mapping")
    match ← peek 0 with
    | .object place => putEntries place (← entriesOf v)
    | _ => pure ()
    return .goes
  | .mergeNamed => do
    let v ← pop
    match ← peek 0 with
    | .object place => do mergeArguments place (← peek 2) v
    | _ => pure ()
    return .goes
  | .tupleOfList => do
    let v ← pop
    gives (.tuple (← itemsOf v))
  | .call placed names => do
    let values ← popMany (placed + names.length)
    let f ← pop
    startCall f (values.take placed) (names.zip (values.drop placed))
  | .callSpread isAlone hasNamed => do
    let named ← if hasNamed then do
        match ← bodyOf (← pop) with
        | .dictionary d => argumentNames d
        | _ => pure []
      else pure []
    let source ← pop
    let f ← pop
    let placed ← match ← readyItems? source with
      | some items => pure items
      | none =>
        if isAlone then do
          let it ← iteratorOr source fun kind =>
            return (← callName f) ++ " argument after * must be an iterable, not " ++ kind
          rest it itemLimit #[]
        else itemsOf source
    startCall f placed named
  | .iterator => do gives (← iterator (← pop))
  | .branch yes no => do
    let test ← truth (← pop)
    enter (if test then yes else no)
    return .goes
  | .choose decisive other => do
    let test ← truth (← peek 0)
    if test != decisive then
      let _ ← pop
      enter other
    return .goes
  | .repeating test body otherwise => do
    enterUnder (.tested test body otherwise (← height)) test
    return .goes
  | .each body otherwise => do
    enterUnder (.each body otherwise (← height)) []
    return .goes
  | .leave => return .leaves .leaving
  | .skip => return .leaves .skipping
  | .give => return .leaves (.giving (← pop))
  | .yield => do
    let v ← pop
    if (← get).frame.template.kind == .asyncGenerator then
      return .waits (← make "async_generator_wrapped_value" (.given v))
    else return .waits v
  | .yieldFrom => delegate
  | .awaited method => do gives (← waitedFor method (← pop))
  | .advance how => advance how
  | .asyncIterator => do gives (← asyncIterator (← pop))
  | .asyncNext => do gives (← asyncNext (← pop))
  | .enterAsync => do
    let (exit, source) ← enteredAsync (← pop)
    push exit
    gives source
  | .unpack count => do
    let items ← unpacked (← pop) count
    items.reverse.forM push
    return .goes
  | .unpackAround before after => do
    let items ← unpackedAround (← pop) before after
    items.reverse.forM push
    return .goes
  | .raise hasCause => do
    let cause ← if hasCause then do pure (some (← pop)) else pure none
    return .leaves (.raising (← raised (← pop) cause))
  | .raiseAgain => do
    match ← handledError? with
    | some error => return .leaves (.raising error)
    | none => fail "RuntimeError" "No active exception to reraise"
  | .guard body handler otherwise => do
    enterUnder (.guard handler otherwise (← height)) body
    return .goes
  | .handles => do
    let kinds ← pop
    gives (.truth (← isHandledBy (← peek 0) kinds))
  | .splits => do
    let kinds ← pop
    let (part, rest) ← partHandled (← pop) kinds
    push rest
    gives part
  | .handling body => do
    let error ← peek 0
    enterUnder .handled body
    changeFrame fun frame => { frame with handling := error :: frame.handling }
    return .goes
  | .regroup => do
    let rest ← pop
    let errors ← itemsOf (← pop)
    gives (← remaining (← pop) (errors ++ [rest]))
  | .always body last onErrors => do
    enterUnder (.always last (← height) onErrors) body
    return .goes
  | .within body => do
    let (exit, v) ← entered (← pop)
    push exit
    enterUnder (.within (← height)) body
    push v
    return .goes
  | .define t defaults named notes => do
    let noteValues ← popMany notes.length
    let namedValues ← popMany named.length
    let defaultValues ← popMany defaults
    gives (← defined t defaultValues (named.zip namedValues) (notes.zip noteValues))
  | .defineClass name body hasBases => do
    let named ← if hasBases then do
        match ← bodyOf (← pop) with
        | .dictionary d => argumentNames d
        | _ => pure []
      else pure []
    let bases ← if hasBases then do itemsOf (← pop) else pure []
    if hasBases then
      let _ ← pop
    gives (← defineClass name body bases named)
  | .library path isWhole => do gives (← importLibrary path isWhole)
  | .importFrom name => do gives (← importName (← peek 0) name)
  | .importAll => do
    let names ← importAll (← pop)
    let frame := (← get).frame
    names.forM fun (name, v) =>
      changeDictionary (frame.names.getD frame.shared) fun d => d.insertText name v
    return .goes
  | .fit p => do
    match ← fits (← pop) p with
    | some found => do
      found.reverse.forM push
      gives (.truth true)
    | none => gives (.truth false)
where
  gives (v : Value) : Act Effect := do
    push v
    return .goes
  printedText (v : Value) : Act Text := do
    match v with
    | .text t => return t
    | other => printed other
  pairs : List Value → List (Value × Value)
    | key :: v :: more => (key, v) :: pairs more
    | _ => []

end Act

end Forwarding.Script
