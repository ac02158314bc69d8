import Forwarding.Script.Literal
import Forwarding.Script.Machine.Act
import Forwarding.Script.Machine.Code
import Forwarding.Script.Machine.Documents
import Forwarding.Script.Machine.Members
import Forwarding.Script.Machine.MethodDocuments

/-! Attributes of values: their own, those of their classes, and how a function of a class becomes a method.

A class is looked through together with the classes that it belongs to. What is found there may say itself
what it gives for a value: a property calls a function, a function is tied to the value.
-/

set_option autoImplicit false

namespace Forwarding.Script.Act

open Text

/-- Where the own attributes of an object are kept; a place is made if there is none. -/
def fieldsOf (place : Nat) : Act Nat := do
  match (← objectAt place).fields with
  | some fields => return fields
  | none =>
    let fields := (← get).heap.size
    let _ ← newDictionary {}
    changeObject place fun o => { o with fields := some fields }
    return fields

def field? (place : Nat) (name : Text) : Act (Option Value) := do
  match (← objectAt place).fields with
  | some fields => return (← dictionaryAt fields).getText? name
  | none => return none

def setField (place : Nat) (name : Text) (v : Value) : Act Unit := do
  let fields ← fieldsOf place
  changeDictionary fields fun d => d.insertText name v

def memberIn? (line : List Value) (name : Text) : Act (Option Value) := do
  match line with
  | [] => return none
  | .kind k :: more =>
    if name == "__hash__" && Kind.isUnhashable k then return some .nothing
    else if Kind.hasMember k name then return some (.unbound k name)
    else memberIn? more name
  | .object place :: more =>
    match ← field? place name with
    | some v => return some v
    | none => memberIn? more name
  | _ :: more => memberIn? more name

/-- What a class, or the first class that it belongs to, has as an attribute. -/
def member? (kind : Value) (name : Text) : Act (Option Value) := do memberIn? (← lineOf kind) name

def isNative : Option Value → Bool
  | none | some (.unbound _ _) => true
  | _ => false

def nativeKind? (kind : Value) (name : Text) : Act (Option Text) := do
  return (← lineOf kind).findSome? fun
    | .kind k => if Kind.hasMember k name then some k else none
    | _ => none

def documentIn (t : List (String × String)) (name : Text) : Value :=
  match t.lookup (String.ofList name) with
  | some words => .text words
  | none => .nothing

def methodDocument (kind name : Text) : Value :=
  match documentIn Documents.methods (kind ++ '.' :: name) with
  | .nothing => documentIn Documents.shared name
  | found => found

def classDocument (kind : Value) : Act Value := do
  match kind with
  | .kind k => return documentIn Documents.kinds k
  | .object place => return Value.ofOption (← field? place "__doc__")
  | _ => return .nothing

def afterDot (name : Text) : Text :=
  match (pieces_ name).getLast? with
  | some last => last
  | none => name
where
  pieces_ (t : Text) : List Text := runs (· != '.') (· != '.') t

def routineField? (r : Routine) (place : Nat) (name : String) : Act (Option Value) := do
  match ← field? place name with
  | some v => return some v
  | none =>
    match name with
    | "__name__" => return some (.text r.template.name)
    | "__qualname__" => return some (.text r.template.path)
    | "__doc__" => return some (Value.ofOption (r.template.document.map .text))
    | "__module__" => do
      return some (Value.ofOption ((← dictionaryAt r.shared).getText? "__name__"))
    | "__defaults__" => return some (if r.defaults.isEmpty then .nothing else .tuple r.defaults)
    | "__kwdefaults__" =>
      if r.namedDefaults.isEmpty then return some .nothing
      else return some (← newDictionary (Dictionary.ofTexts r.namedDefaults))
    | "__code__" => return some (← make "code" (.template r.template))
    | "__globals__" => return some (.object r.shared)
    | "__closure__" =>
      match r.template.enclosed with
      | [] => return some .nothing
      | names => do
        let cells ← names.mapM fun e => do
          make "cell" (.cell (← scopeAround r.scope e.out) e.index)
        return some (.tuple cells)
    | "__dict__" => return some (.object (← fieldsOf place))
    | "__annotations__" => do
      let v ← newDictionary {}
      setField place "__annotations__" v
      return some v
    | _ => return none

def codeField? (t : Template) (name : String) : Option Value :=
  let s := t.signature
  let own := t.slots.filter fun slot => s.all.contains slot || !t.lent.contains slot
  match name with
  | "co_name" => some (.text t.name)
  | "co_qualname" => some (.text t.path)
  | "co_argcount" => some (.integer s.placed.length)
  | "co_posonlyargcount" => some (.integer s.onlyPlaced)
  | "co_kwonlyargcount" => some (.integer s.onlyNamed.length)
  | "co_nlocals" => some (.integer own.length)
  | "co_varnames" => some (.tuple (Value.texts own))
  | "co_filename" => some (.text "<proxies>")
  | "co_firstlineno" => some (.integer t.line)
  | "co_freevars" => some (.tuple (Value.texts (t.enclosed.map Enclosed.name)))
  | "co_cellvars" => some (.tuple (Value.texts t.lent))
  | "co_flags" =>
    some (.integer (3 + (if s.rest.isSome then 4 else 0) + (if s.namedRest.isSome then 8 else 0) +
      (if t.kind == .generator then 32 else 0) + (if t.kind == .coroutine then 128 else 0)))
  | _ => none

def errorField? (place : Nat) (arguments : List Value) (cause context : Value) (hidesContext : Bool)
    (kind name : String) : Act (Option Value) := do
  match ← field? place name with
  | some v => return some v
  | none =>
    match name with
    | "args" => return some (.tuple arguments)
    | "__cause__" => return some cause
    | "__context__" => return some context
    | "__suppress_context__" => return some (.truth hidesContext)
    | "__traceback__" => return some .nothing
    | "__dict__" => return some (.object (← fieldsOf place))
    | "value" | "code" => return some (Value.ofOption arguments.head?)
    | "name" | "path" | "obj" | "print_file_and_line" | "characters_written" | "filename2" => return some .nothing
    | "msg" => return some (Value.ofOption arguments.head?)
    | "message" => return some (arguments.getD 0 .nothing)
    | "exceptions" =>
      match arguments.getD 1 .nothing with
      | .object inner =>
        match (← objectAt inner).body with
        | .list items => return some (.tuple items.toList)
        | _ => return some (.object inner)
      | other => return some other
    | "errno" => return some (if 2 ≤ arguments.length then arguments.getD 0 .nothing else .nothing)
    | "strerror" => return some (if 2 ≤ arguments.length then arguments.getD 1 .nothing else .nothing)
    | "filename" => return some (arguments.getD 2 .nothing)
    | "encoding" => return some (arguments.getD 0 .nothing)
    | "object" => return some (arguments.getD 1 .nothing)
    | "start" => return some (arguments.getD 2 .nothing)
    | "end" => return some (arguments.getD 3 .nothing)
    | "reason" => return some (arguments.getD (if kind == "UnicodeTranslateError" then 3 else 4) .nothing)
    | "lineno" | "offset" | "text" | "end_lineno" | "end_offset" => return some .nothing
    | _ => return none

/-- What an attribute of a class of the language, which is no method, gives for a value. -/
def computed? (v : Value) (kind name : Text) : Act (Option Value) := do
  let name := String.ofList name
  match name with
  | "__class__" => return some (← kindOf v)
  | _ =>
    match ← plain v with
    | .integer n =>
      match name with
      | "real" | "numerator" => return some (.integer n)
      | "imag" => return some (.integer 0)
      | "denominator" => return some (.integer 1)
      | _ => general name
    | .truth b =>
      match name with
      | "real" | "numerator" => return some (.integer (if b then 1 else 0))
      | "imag" => return some (.integer 0)
      | "denominator" => return some (.integer 1)
      | _ => general name
    | .real x =>
      match name with
      | "real" => return some (.real x)
      | "imag" => return some (.real 0.0)
      | _ => general name
    | .complex x y =>
      match name with
      | "real" => return some (.real x)
      | "imag" => return some (.real y)
      | _ => general name
    | .range first stop step =>
      match name with
      | "start" => return some (.integer first)
      | "stop" => return some (.integer stop)
      | "step" => return some (.integer step)
      | _ => general name
    | .slice first stop step =>
      match name with
      | "start" => return some first
      | "stop" => return some stop
      | "step" => return some step
      | _ => general name
    | .builtin f =>
      match name with
      | "__name__" | "__qualname__" => return some (.text (afterDot f))
      | "__module__" => return some (.text "builtins")
      | "__self__" => return some .nothing
      | "__doc__" => return some (documentIn Documents.functions f)
      | _ => general name
    | .method owner f =>
      match name with
      | "__name__" => return some (.text f)
      | "__qualname__" => return some (.text ((← kindName owner) ++ ['.'] ++ f))
      | "__self__" => return some owner
      | "__module__" => return some .nothing
      | "__doc__" => do
        let ofClass ← if ← isClass owner then nativeKind? owner f else pure none
        let ofValue ← nativeKind? (← kindOf owner) f
        return some (methodDocument ((ofValue <|> ofClass).getD []) f)
      | _ => general name
    | .unbound k f =>
      match name with
      | "__name__" => return some (.text f)
      | "__qualname__" => return some (.text (k ++ ['.'] ++ f))
      | "__objclass__" => return some (.kind k)
      | "__doc__" => return some (methodDocument k f)
      | _ => general name
    | .forwarding f =>
      match name with
      | "__name__" | "__qualname__" => return some (.text f.symbol)
      | "__doc__" => return some (.text f.spoken)
      | "__module__" => return some (.text "proxies")
      | _ => general name
    | .object place =>
      match (← objectAt place).body with
      | .routine r => do
        match ← routineField? r place name with
        | some found => return some found
        | none => general name
      | .error arguments cause context hidesContext => do
        match ← errorField? place arguments cause context hidesContext (String.ofList kind) name with
        | some found => return if isMethodOf name then none else some found
        | none => general name
      | .bound f owner =>
        match name with
        | "__self__" => return some owner
        | "__func__" => return some f
        | _ => general name
      | .cell scope index =>
        if name != "cell_contents" then return none
        else
          match ← valueInScope scope index with
          | some v => return some v
          | none => valueError "Cell is empty"
      | .template t =>
        match codeField? t name with
        | some found => return some found
        | none => general name
      | .property getter setter eraser =>
        match name with
        | "fget" => return some getter
        | "fset" => return some setter
        | "fdel" => return some eraser
        | "__doc__" => do
          match getter with
          | .object f => do
            match (← objectAt f).body with
            | .routine r => routineField? r f "__doc__"
            | _ => return some .nothing
          | _ => return some .nothing
        | _ => general name
      | .staticMethod f | .classMethod f =>
        match name with
        | "__func__" | "__wrapped__" => return some f
        | "__doc__" | "__name__" | "__qualname__" | "__module__" =>
          match f, ← bodyOf f with
          | .object inner, .routine r => routineField? r inner name
          | _, _ => general name
        | _ => general name
      | .generator g =>
        match name with
        | "gi_frame" | "cr_frame" | "ag_frame" | "cr_origin" => return some .nothing
        | "gi_yieldfrom" | "cr_await" | "ag_await" =>
          match g with
          | .waiting frame false =>
            match frame.code with
            | .yieldFrom :: _ => return some (frame.stack.headD .nothing)
            | _ => return some .nothing
          | _ => return some .nothing
        | "gi_code" | "cr_code" | "ag_code" =>
          match g with
          | .waiting frame _ => return some (← make "code" (.template frame.template))
          | _ => return some .nothing
        | "gi_running" | "cr_running" | "ag_running" => return some (.truth (g matches .running))
        | "gi_suspended" | "cr_suspended" => return some (.truth (g matches .waiting _ false))
        | _ => general name
      | .above start owner =>
        match name with
        | "__self__" => return some owner
        | "__thisclass__" => return some start
        | "__self_class__" => return some (← kindOf owner)
        | _ => general name
      | _ => general name
    | _ => general name
where
  isMethodOf (name : String) : Bool :=
    ["with_traceback", "add_note", "__init__", "__new__", "__str__", "__repr__", "__reduce__",
      "__setstate__", "__setattr__", "__getattribute__", "__delattr__"].contains name
  general (name : String) : Act (Option Value) := do
    match name with
    | "__doc__" => return some (← classDocument (← kindOf v))
    | "__dict__" =>
      match v, ← kindOf v with
      | .object place, .object _ | .object place, .kind ['m', 'o', 'd', 'u', 'l', 'e'] =>
        return some (.object (← fieldsOf place))
      | _, _ => return none
    | _ => return none

def tied (found v kind : Value) : Act Value := do
  match found with
  | .unbound k name =>
    match ← computed? v k name with
    | some inside => return inside
    | none =>
      if Kind.isFreeMethod k name then return found
      else if Kind.isClassMethod k name then return .method kind name
      else return .method v name
  | .forwarding _ => make "method" (.bound found v)
  | .object place =>
    match (← objectAt place).body with
    | .routine _ => make "method" (.bound found v)
    | .staticMethod f => return f
    | .classMethod f => make "method" (.bound f kind)
    | .property getter _ _ =>
      if getter.isNothing then
        fail "AttributeError" ("property of '" ++ (← classPath kind) ++ "' object has no getter")
      else call getter [v]
    | .plain | .boxed _ => do
      match ← member? (← kindOf found) "__get__" with
      | some getter =>
        if isNative (some getter) then return found else call getter [found, v, kind]
      | none => return found
    | _ => return found
  | other => return other

def methodOf? (v : Value) (name : Text) : Act (Option Value) := do
  match ← member? (← kindOf v) name with
  | some found => return some (← tied found v (← kindOf v))
  | none => return none

def comesFirst (found : Value) : Act Bool := do
  match found with
  | .unbound _ name =>
    return ["__class__", "__dict__", "args", "__cause__", "__context__"].any fun (word : String) => name == word.toList
  | .object place =>
    match (← objectAt place).body with
    | .property _ _ _ => return true
    | .plain => return (← member? (← kindOf found) "__set__").isSome
    | _ => return false
  | _ => return false

/-- A method of the script that a class has for a purpose of the language, without a value. -/
def scripted? (kind : Value) (name : Text) : Act (Option Value) := do
  match kind with
  | .object _ => do
    let found ← member? kind name
    return if isNative found then none else found
  | _ => return none

def special? (v : Value) (name : Text) : Act (Option Value) := do
  match v with
  | .object place =>
    match (← objectAt place).kind with
    | .object _ => do
      let kind := (← objectAt place).kind
      match ← member? kind name with
      | some found =>
        if isNative (some found) then return none else return some (← tied found v kind)
      | none => return none
    | _ => return none
  | _ => return none

def callSpecial? (v : Value) (name : Text) (arguments : List Value) : Act (Option Value) := do
  match ← special? v name with
  | some f => return some (← call f arguments)
  | none => return none

def plainAttribute? (v : Value) (name : Text) : Act (Option Value) := do
  let kind ← kindOf v
  let found ← member? kind name
  let first ← match found with
    | some m => comesFirst m
    | none => pure false
  match v, found with
  | .object place, some m =>
    if first then return some (← tied m v kind)
    else
      match ← field? place name with
      | some own => return some own
      | none => return some (← tied m v kind)
  | .object place, none => do
    match ← field? place name with
    | some own => return some own
    | none => computed? v [] name
  | _, some m => return some (← tied m v kind)
  | _, none => computed? v [] name

def classField? (c : Value) (name : String) : Act (Option Value) := do
  let line ← lineOf c
  match name with
  | "__name__" => return some (.text (afterDot (← className c)))
  | "__qualname__" => do
    match c with
    | .object place =>
      match (← objectAt place).body with
      | .class_ k => return some (.text k.path)
      | _ => return none
    | _ => return some (.text (← className c))
  | "__class__" => return some (← kindOf c)
  | "__mro__" => return some (.tuple line)
  | "__bases__" => do
    match c with
    | .object place =>
      match (← objectAt place).body with
      | .class_ k => return some (.tuple k.bases)
      | _ => return none
    | _ => return some (.tuple (line.drop 1 |>.take 1))
  | "__base__" => return some (Value.ofOption ((line.drop 1).head?))
  | "__dict__" => do
    match c with
    | .object place => return some (.object (← fieldsOf place))
    | _ => return some (← newDictionary {})
  | "__doc__" => return some (← classDocument c)
  | "__module__" => do
    match c with
    | .object place => return ← field? place "__module__"
    | _ => return some (.text "builtins")
  | _ => return none

def tiedToClass (found c : Value) : Act Value := do
  match found with
  | .unbound k name => if Kind.isClassMethod k name then return .method c name else return found
  | .object place =>
    match (← objectAt place).body with
    | .staticMethod f => return f
    | .classMethod f => make "method" (.bound f c)
    | .plain => do
      match ← member? (← kindOf found) "__get__" with
      | some getter =>
        if isNative (some getter) then return found else call getter [found, .nothing, c]
      | none => return found
    | _ => return found
  | other => return other

def classAttribute? (c : Value) (name : Text) : Act (Option Value) := do
  let own : Option Value ← match c with
    | .object place => field? place name
    | _ => pure none
  match own, ← classField? c (String.ofList name) with
  | none, some v => return some v
  | _, _ =>
    match ← member? c name with
    | some found => return some (← tiedToClass found c)
    | none => do
      let meta_ ← kindOf c
      match ← member? meta_ name with
      | some (.unbound _ _) => return some (.method c name)
      | some found => return some (← tied found c meta_)
      | none => return none

def ownAttribute? (v : Value) (name : Text) : Act (Option Value) := do
  let s := (← read).subject
  match v with
  | .subject =>
    let given ← match (← get).given with
      | some fields => dictionaryAt fields
      | none => pure {}
    if name == "__class__" then return some (.kind "Subject")
    else if let some found := given.getText? name then return some found
    else if s.has name then return some (.method .subject name)
    else failRaised (.noMethod name)
  | .kind _ => classAttribute? v name
  | .object place =>
    match (← objectAt place).body with
    | .class_ _ => classAttribute? v name
    | .above start owner => do
      let isAboutClass ← do if ← isClass owner then isBelow owner start else pure false
      let kind ← if isAboutClass then pure owner else kindOf owner
      let line ← lineOf kind
      let behind := (line.dropWhile fun c => !c.isSame start).drop 1
      match ← memberIn? behind name with
      | some found =>
        if isAboutClass then return some (← tiedToClass found owner)
        else return some (← tied found owner kind)
      | none => return none
    | .bound f _ => do
      match ← plainAttribute? v name with
      | some found =>
        if name == "__doc__" then plainAttribute? f name else return some found
      | none => plainAttribute? f name
    | _ => plainAttribute? v name
  | _ => plainAttribute? v name

def noAttribute {α : Type} (v : Value) (name : Text) : Act α := do
  let words ← match v with
    | .object place =>
      match (← objectAt place).body with
      | .class_ c => pure ("type object '" ++ c.name ++ ['\x27'])
      | .module => do
        match ← field? place "__name__" with
        | some (.text t) => pure ("module '" ++ t ++ ['\x27'])
        | _ => pure "module".toList
      | _ => do pure ("'" ++ (← kindName v) ++ "' object")
    | .kind k => pure ("type object '" ++ k ++ ['\x27'])
    | _ => do pure ("'" ++ (← kindName v) ++ "' object")
  let e ← make "AttributeError"
    (.error [.text (words ++ " has no attribute '" ++ name ++ ['\x27'])] .nothing .nothing false)
  match e with
  | .object place => do
    setField place "name" (.text name)
    setField place "obj" v
  | _ => pure ()
  throw (.raised e)

def fallback? (v : Value) : Act (Option Value) := do
  match v with
  | .object place => do
    match (← objectAt place).body with
    | .module => field? place "__getattr__"
    | .class_ _ => do
      match ← scripted? (← kindOf v) "__getattr__" with
      | some f => return some (← make "method" (.bound f v))
      | none => return none
    | _ => special? v "__getattr__"
  | _ => return none

def readMember (v : Value) (name : Text) : Act Value := do
  let own : Act (Option Value) := do
    match ← special? v "__getattribute__" with
    | some f => return some (← call f [.text name])
    | none => ownAttribute? v name
  match ← fallback? v with
  | none => do
    match ← own with
    | some found => return found
    | none => noAttribute v name
  | some f => do
    match ← rescue "AttributeError" own fun _ => return none with
    | some found => return found
    | none => call f [.text name]

def readMember? (v : Value) (name : Text) : Act (Option Value) :=
  rescue "AttributeError" (return some (← readMember v name)) fun _ => return none

end Forwarding.Script.Act
