import Forwarding.Script.Machine.Method
import Forwarding.Script.Machine.Names
import Forwarding.Script.Machine.Source

/-! The functions that a script can call without defining or importing them. -/

set_option autoImplicit false

namespace Forwarding.Script.Act

open Text

def builtinTakings : List (Taking × List Text) := [
  (.nothing, words "globals locals"),
  (.single, words "abs all any ascii bin callable chr hash hex id len oct ord repr aiter"),
  (.between 2 2, words "delattr divmod hasattr isinstance issubclass"),
  (.between 3 3, words "setattr"),
  (.between 2 3, words "getattr"),
  (.between 1 2, words "format iter next"),
  (.between 1 3, words "eval"),
  (.between 0 1, words "dir vars")]

def namingBuiltins : List Text := words "max min sorted sum round pow print open exec compile __import__ input"

/-! ### Classes -/

/-- Whether a value belongs to one of the classes that another one stands for. The number bounds how deep
these are. -/
def isOneOf (test : Value → Act Bool) (words : Text) : Nat → Value → Act Bool
  | 0, _ => typeError words
  | depth + 1, kinds => do
    match ← kindOf kinds, ← plain kinds with
    | .kind ['U', 'n', 'i', 'o', 'n', 'T', 'y', 'p', 'e'], .tuple items =>
      items.anyM fun k =>
        if k.isNothing then test (.kind "NoneType") else isOneOf test words depth k
    | .kind ['G', 'e', 'n', 'e', 'r', 'i', 'c', 'A', 'l', 'i', 'a', 's'], _ =>
      typeError ((words.takeWhile (· != ' ')) ++ " argument 2 cannot be a parameterized generic")
    | _, .tuple items => items.anyM (isOneOf test words depth)
    | _, _ => if ← isClass kinds then test kinds else typeError words

def isInstance (v kinds : Value) : Act Bool :=
  isOneOf (fun k => do
    if (← kindOf v).isSame k then return true
    else
      match ← scripted? (← kindOf k) "__instancecheck__" with
      | some f => truth (← call f [k, v])
      | none => isOf v k) "isinstance() arg 2 must be a type, a tuple of types, or a union" 100 kinds

/-- Whether a class belongs to another one or to one of several. -/
def isSubclass (c kinds : Value) : Act Bool := do
  isOneOf (fun k => do
    match ← scripted? (← kindOf k) "__subclasscheck__" with
    | some f => truth (← call f [k, c])
    | none =>
      if ← isClass c then isBelow c k else typeError "issubclass() arg 1 must be a class")
    "issubclass() arg 2 must be a class, a tuple of classes, or a union" 100 kinds

def isCallable (v : Value) : Act Bool := do
  match v with
  | .kind _ | .builtin _ | .method _ _ | .unbound _ _ | .forwarding _ => return true
  | .object place =>
    match (← objectAt place).body with
    | .class_ _ | .routine _ | .bound _ _ | .staticMethod _ => return true
    | .boxed (.tuple _) =>
      return (← objectAt place).kind.isSame (.kind "GenericAlias")
    | _ => return (← special? v "__call__").isSome
  | _ => return false

/-! ### Numbers -/

def absolute (v : Value) : Act Value := do
  match ← callSpecial? v "__abs__" [] with
  | some found => return found
  | none =>
    match ← plain v with
    | .integer n => return .integer n.natAbs
    | .truth b => return .integer (if b then 1 else 0)
    | .real x => return .real (Floating.absolute x)
    | .complex x y => return .real (Floating.Complex.size (x, y))
    | _ => typeError ("bad operand type for abs(): '" ++ (← kindName v) ++ ['\x27'])

def inBase (base : Nat) (mark : String) (v : Value) : Act Value := do
  let n ← index v
  return .text ((if n < 0 then ['-'] else []) ++ mark.toList ++ Nat.toDigits base n.natAbs)

def divided (a b : Value) : Act Value := do
  let scripted : Option Value ← do
    match ← callSpecial? a "__divmod__" [b] with
    | some .inapplicable | none => do
      match ← callSpecial? b "__rdivmod__" [a] with
      | some .inapplicable | none => pure none
      | some found => pure (some found)
    | some found => pure (some found)
  match scripted with
  | some found => return found
  | none =>
    match (← plain a).numeral?, (← plain b).numeral? with
    | some (.whole m), some (.whole n) =>
      if n == 0 then noDivision "integer division or modulo by zero"
      else return .tuple [.integer (m.fdiv n), .integer (m.fmod n)]
    | some (.real x), some (.whole n) => do real x (← toFloating n)
    | some (.whole m), some (.real y) => do real (← toFloating m) y
    | some (.real x), some (.real y) => real x y
    | _, _ => unsupported "divmod()" a b
where
  real (x y : Float) : Act Value := do
    if y == 0.0 then noDivision "float divmod()"
    else
      let (quotient, rest) := Floating.quotientAndRest x y
      return .tuple [.real quotient, .real rest]

def powered (slots : List (Option Value)) : Act Value := do
  let a := slotOr slots 0 .nothing
  let b := slotOr slots 1 .nothing
  match slotOr slots 2 .nothing with
  | .nothing => operateAs "** or pow()" .power a b
  | m => do
    match ← callSpecial? a "__pow__" [b, m] with
    | some found => return found
    | none =>
      match (← plain a).integer?, (← plain b).integer?, (← plain m).integer? with
      | some x, some y, some z => powerModulo x y z
      | _, _, _ =>
        let isNumber (v : Value) : Act Bool := return (← plain v).numeral?.isSome
        if (← isNumber a) && (← isNumber b) && (← isNumber m) then
          typeError "pow() 3rd argument not allowed unless all arguments are integers"
        else
          typeError ("unsupported operand type(s) for ** or pow(): '" ++ (← kindName a) ++ "', '" ++
            (← kindName b) ++ "', '" ++ (← kindName m) ++ ['\x27'])

def total (slots : List (Option Value)) : Act Value := do
  let it ← iterator (slotOr slots 0 .nothing)
  let start := slotOr slots 1 (.integer 0)
  match ← plain start with
  | .text _ => typeError "sum() can't sum strings [use ''.join(seq) instead]"
  | .bytes _ => typeError "sum() can't sum bytes [use b''.join(seq) instead]"
  | other => do
    if (← bodyOf other) matches .bytes _ then
      typeError "sum() can't sum bytearray [use b''.join(seq) instead]"
    (← rest it itemLimit #[]).foldlM (fun found v => operateAs ['+'] .add found v) start

def extreme (name : Text) (order : Order) (arguments : List Value) (named : Named) : Act Value := do
  checkCount (.between 1 1000000) name name arguments.length
  match named.find? fun entry => entry.1 != "key".toList && entry.1 != "default".toList with
  | some (word, _) =>
    typeError (['\x27'] ++ word ++ "' is an invalid keyword argument for " ++ name ++ "()")
  | none => do
    let key := (named.lookup "key".toList).getD .nothing
    let instead := named.lookup "default".toList
    if 1 < arguments.length && instead.isSome then
      typeError ("Cannot specify a default for " ++ name ++ "() with multiple positional arguments")
    else
      let items ← match arguments with
        | [v] => do rest (← iterator v) itemLimit #[]
        | several => pure several
      let keyed (v : Value) : Act Value := if key.isNothing then return v else call key [v]
      match items with
      | [] =>
        match instead with
        | some v => return v
        | none => valueError (name ++ "() arg is an empty sequence")
      | first :: more => do
        let start ← keyed first
        let (found, _) ← more.foldlM (fun (best, bestKey) v => do
          let k ← keyed v
          if ← isOrdered order k bestKey then return (v, k) else return (best, bestKey)) (first, start)
        return found

/-! ### Names -/

def ownNames : Act Value := do
  let frame := (← get).frame
  match frame.names with
  | some names => return .object names
  | none =>
    match (← objectAt frame.scope).body with
    | .scope values names (some _) => do
      let lent := frame.template.lent
      let isLent (name : Text) : Bool :=
        lent.contains name && !frame.template.signature.all.contains name
      let own := (names.zip values.toList).filter fun entry => entry.1.head? != some '.'
      let own := own.filter (fun entry => !isLent entry.1) ++
        lent.filterMap fun name => if isLent name then own.find? fun entry => entry.1 == name else none
      let around ← frame.template.enclosed.mapM fun e => do
        return (e.name, ← valueInScope (← scopeAround frame.scope (e.out + 1)) e.index)
      let place ← match frame.listed with
        | some place => pure place
        | none => do
          let place := (← get).heap.size
          let _ ← newDictionary {}
          changeFrame fun frame => { frame with listed := some place }
          pure place
      changeDictionary place fun d => (own ++ around).foldl (fun d (name, v) =>
        match v with
        | some v => d.insertText name v
        | none => d.eraseText name) d
      return .object place
    | _ => return .object frame.shared

/-- The value that `super` without arguments means: the class around, and the first parameter. -/
def aboveHere : Act Value := do
  let frame := (← get).frame
  match (← objectAt frame.scope).body with
  | .scope _ _ none => fail "RuntimeError" "super(): no arguments"
  | .scope values _ (some around) => do
    if frame.template.signature.placed.isEmpty && frame.template.signature.rest.isNone then
      fail "RuntimeError" "super(): no arguments"
    else
      match ← classAround depthLimit around with
      | none => fail "RuntimeError" "super(): __class__ cell not found"
      | some none => fail "RuntimeError" "super(): empty __class__ cell"
      | some (some c) =>
        match values.getD 0 none with
        | some owner => make "super" (.above c owner)
        | none => fail "RuntimeError" "super(): arg[0] deleted"
  | _ => fail "RuntimeError" "super(): no arguments"
where
  classAround : Nat → Nat → Act (Option (Option Value))
    | 0, _ => return none
    | depth + 1, place => do
      match (← objectAt place).body with
      | .scope values names around =>
        match names.idxOf? Block.ownName, around with
        | some index, _ => return some (values.getD index none)
        | none, some around => classAround depth around
        | none, none => return none
      | _ => return none

def above (arguments : List Value) : Act Value := do
  match arguments with
  | [] => aboveHere
  | [c] => do
    if ← isClass c then make "super" (.above c .nothing)
    else typeError ("super() argument 1 must be a type, not " ++ (← kindName c))
  | c :: owner :: _ => do
    if !(← isClass c) then typeError ("super() argument 1 must be a type, not " ++ (← kindName c))
    else
      let fits ← do
        if ← isOf owner c then pure true
        else if ← isClass owner then isBelow owner c
        else pure false
      if fits then make "super" (.above c owner)
      else typeError "super(type, obj): obj must be an instance or subtype of type"

/-! ### Running texts -/

def runnable (v : Value) (isExpression : Bool) : Act Template := do
  match ← bodyOf v, ← plain v with
  | .template t, _ => return t
  | _, .text t => codeOf t isExpression
  | _, .bytes t => do codeOf (← decoded t "utf-8" "strict") isExpression
  | _, _ =>
    typeError ((if isExpression then "eval".toList else "exec") ++
      "() arg 1 must be a string, bytes or code object")

def runText (t : Template) (globals locals : Value) : Act Value := do
  let frame := (← get).frame
  let shared ← match globals with
    | .object place =>
      match (← objectAt place).body with
      | .dictionary _ => pure place
      | _ => typeError "globals must be a dict"
    | .nothing => pure frame.shared
    | _ => typeError "globals must be a dict"
  let names ← match locals, globals with
    | .object place, _ => pure place
    | _, .object _ => pure shared
    | _, _ => do
      match ← ownNames with
      | .object place => pure place
      | _ => pure shared
  let scope := (← get).heap.size
  let _ ← make "scope" (.scope #[] [] none)
  perform (.block { code := t.code, scope, names := some names, shared, template := t })

/-! ### All functions -/

def builtinFunction (name : Text) (arguments : List Value) (named : Named) : Act Value := do
  checkCall (takingIn builtinTakings name) (namingBuiltins.contains name) name name arguments named
  let first := argument arguments 0
  let second := argument arguments 1
  match String.ofList name with
  | "abs" => absolute first
  | "all" => do
    let it ← iterator first
    search it false itemLimit
  | "any" => do
    let it ← iterator first
    search it true itemLimit
  | "ascii" => return .text (asciiOnly (← shown first))
  | "bin" => inBase 2 "0b" first
  | "oct" => inBase 8 "0o" first
  | "hex" => inBase 16 "0x" first
  | "callable" => return .truth (← isCallable first)
  | "chr" => do
    let n ← index first
    if 2 ^ 63 ≤ n || n < -(2 ^ 63) then overflow "Python int too large to convert to C int"
    else if 2 ^ 31 ≤ n then overflow "signed integer is greater than maximum"
    else if n < -(2 ^ 31) then overflow "signed integer is less than minimum"
    else if 0 ≤ n && n < 0x110000 then return .text [Char.ofNat n.toNat]
    else valueError "chr() arg not in range(0x110000)"
  | "ord" => do
    match ← plain first with
    | .text [c] | .bytes [c] => return .integer c.toNat
    | .text t | .bytes t =>
      typeError ("ord() expected a character, but string of length " ++ decimal t.length ++ " found")
    | _ =>
      match ← bodyOf first with
      | .bytes [c] => return .integer c.toNat
      | .bytes t =>
        typeError ("ord() expected a character, but string of length " ++ decimal t.length ++ " found")
      | _ => typeError ("ord() expected string of length 1, but " ++ (← kindName first) ++ " found")
  | "len" => do
    match ← size? first with
    | some n => return .integer n
    | none => typeError ("object of type '" ++ (← kindName first) ++ "' has no len()")
  | "hash" => return .integer (← hash first)
  | "id" =>
    match first with
    | .object place => return .integer (139637976727552 + 16 * place)
    | other => do
      let key ← rescue "TypeError" (hash other) fun _ => return 0
      return .integer (94000000000000 + key)
  | "repr" => return .text (← shown first)
  | "format" => do
    let layout ← match arguments[1]? with
      | none => pure []
      | some v => textArgument v fun kind => "format() argument 2 must be str, not " ++ kind
    return .text (← laidOut first layout)
  | "divmod" => divided first second
  | "pow" => do powered (← parametersOf "pow" (parametric 2 "base exp mod") arguments named)
  | "round" => do
    let slots ← parametersOf "round" (parametric 1 "number ndigits") arguments named
    let v := slotOr slots 0 .nothing
    let places := slotOr slots 1 .nothing
    match ← special? v "__round__" with
    | some f => call f (if places.isNothing then [] else [places])
    | none => rounded v places
  | "sum" => do total (← parametersOf "sum" (parametric 1 "iterable / start") arguments named)
  | "max" => extreme name .greater arguments named
  | "min" => extreme name .less arguments named
  | "sorted" => do
    checkCount (.between 1 1) name name arguments.length
    let items ← itemsOf first
    let slots ← parametersOf "sort" (parametric 0 "* key reverse") [] named
    newList (← sorted items (slotOr slots 0 .nothing) (← truth (slotOr slots 1 (.truth false))))
  | "iter" => do
    match arguments with
    | [v] => iterator v
    | _ =>
      if ← isCallable first then newIterator "callable_iterator" (.calling first second)
      else typeError "iter(v, w): v must be callable"
  | "next" => do
    match first, arguments[1]? with
    | .object place, none =>
      match (← objectAt place).body with
      | .generator _ => resume place (.giving .nothing)
      | _ => do
        match ← special? first "__next__" with
        | some f => call f []
        | none => do
          match ← next? first with
          | some v => return v
          | none => failWith "StopIteration" []
    | _, instead => do
      match ← next? first, instead with
      | some v, _ => return v
      | none, some v => return v
      | none, none => failWith "StopIteration" []
  | "isinstance" => return .truth (← isInstance first second)
  | "issubclass" => return .truth (← isSubclass first second)
  | "getattr" => do
    let t ← memberName second
    match arguments[2]? with
    | some instead => return (← readMember? first t).getD instead
    | none => readMember first t
  | "hasattr" => return .truth (← readMember? first (← memberName second)).isSome
  | "setattr" => do
    storeMember first (← memberName second) (argument arguments 2)
    return .nothing
  | "delattr" => do
    eraseMember first (← memberName second)
    return .nothing
  | "globals" => return .object (← get).frame.shared
  | "locals" => ownNames
  | "vars" => do
    match arguments with
    | [] => ownNames
    | v :: _ =>
      match ← readMember? v "__dict__" with
      | some found => return found
      | none => typeError "vars() argument must have __dict__ attribute"
  | "dir" => do
    match arguments with
    | [] => do
      match ← bodyOf (← ownNames) with
      | .dictionary d => newList (Value.texts ((d.texts.map Prod.fst).mergeSort le))
      | _ => newList []
    | v :: _ => do
      match ← callSpecial? v "__dir__" [] with
      | some found => newList (← sorted (← itemsOf found) .nothing false)
      | none => newList (Value.texts (← memberNames v))
  | "eval" => do runText (← runnable first true) second (argument arguments 2)
  | "exec" => do
    let slots ← parametersOf "exec" (parametric 1 "source globals locals / closure") arguments named
    let _ ← runText (← runnable (slotOr slots 0 .nothing) false) (slotOr slots 1 .nothing)
      (slotOr slots 2 .nothing)
    return .nothing
  | "compile" => do
    let slots ← parametersOf "compile"
      (parametric 3 "source filename mode flags dont_inherit optimize") arguments named
    let isExpression := (slotOr slots 2 .nothing).text? == some "eval".toList
    make "code" (.template (← runnable (slotOr slots 0 .nothing) isExpression))
  | "print" => do
    match named.find? fun entry => !(words "sep end file flush").contains entry.1 with
    | some (word, _) => typeError (['\x27'] ++ word ++ "' is an invalid keyword argument for print()")
    | none => do
      let mark (word instead : String) : Act Text := do
        match named.lookup word.toList with
        | none | some .nothing => return instead.toList
        | some v => textArgument v fun kind => word.toList ++ " must be None or a string, not " ++ kind
      let sep ← mark "sep" " "
      let last ← mark "end" "\n"
      let parts ← arguments.mapM printed
      match named.lookup "file".toList with
      | none | some .nothing => return .nothing
      | some file => do
        let _ ← call (← readMember file "write") [.text (join sep parts ++ last)]
        return .nothing
  | "input" => fail "EOFError" "EOF when reading a line"
  | "open" => do
    let slots ← parametersOf "open"
      (parametric 1 "file mode buffering encoding errors newline closefd opener") arguments named
    failWith "FileNotFoundError" [.integer 2, .text "No such file or directory",
      slotOr slots 0 .nothing]
  | "exit" | "quit" => failWith "SystemExit" arguments
  | "__import__" => do
    let slots ← parametersOf "__import__" (parametric 1 "name globals locals fromlist level") arguments
      named
    let isWhole ← truth (slotOr slots 3 .nothing)
    let path ← textArgument (slotOr slots 0 .nothing) fun _ => "module name must be a string"
    call (.builtin "importlib.load") [.text path, .truth isWhole]
  | "aiter" => do
    match ← methodOf? first "__aiter__" with
    | some f => do
      let found ← call f []
      if (← methodOf? found "__anext__").isSome then return found
      else
        typeError ("aiter() returned not an async iterator of type '" ++ (← kindName found) ++ ['\x27'])
    | none => typeError ("'" ++ (← kindName first) ++ "' object is not an async iterable")
  | "anext" => do
    match ← methodOf? first "__anext__" with
    | some f => call f []
    | none => typeError ("'" ++ (← kindName first) ++ "' object is not an async iterator")
  | _ => return .nothing
where
  search (it : Value) (wanted : Bool) : Nat → Act Value
    | 0 => return .nothing
    | count + 1 => do
      match ← next? it with
      | none => return .truth !wanted
      | some v => if (← truth v) == wanted then return .truth wanted else search it wanted count

end Forwarding.Script.Act
