import Forwarding.Floating.Digits
import Forwarding.Script.Machine.CollectionMethod
import Forwarding.Script.Machine.NumberMethod

/-! Making values of the classes of the language. -/

set_option autoImplicit false

namespace Forwarding.Script.Act

open Text

/-! ### Numbers -/

def decimalValue? (c : Char) : Option Nat :=
  (zeros.find? fun first => first ≤ c.toNat && c.toNat < first + 10).map fun first => c.toNat - first

def digitIn? (base : Nat) (c : Char) : Option Nat :=
  let found := match decimalValue? c with
    | some n => some n
    | none =>
      let c := c.toLower
      if 'a' ≤ c && c ≤ 'z' then some (c.toNat - 'a'.toNat + 10) else none
  found.filter (· < base)

/-- The number that digits spell; underscores may stand between two of them. -/
def digitsValue? (base : Nat) : Option Char → Nat → Text → Option Nat
  | last, n, [] => if last.isNone || last == some '_' then none else some n
  | last, n, c :: t =>
    if c == '_' then
      if last == some '_' || last.isNone then none else digitsValue? base (some '_') n t
    else
      match digitIn? base c with
      | some d => digitsValue? base (some c) (n * base + d) t
      | none => none

/-- The base that a text says with its first letters, and what is left of it. -/
def basePart (t : Text) : Nat × Text :=
  match t with
  | '0' :: 'x' :: t | '0' :: 'X' :: t => (16, t)
  | '0' :: 'o' :: t | '0' :: 'O' :: t => (8, t)
  | '0' :: 'b' :: t | '0' :: 'B' :: t => (2, t)
  | t => (10, t)

/-- The whole number that a text spells in a base; zero stands for the base that the text says. -/
def integerOf? (base : Nat) (t : Text) : Option Int :=
  let t := strip t
  let (isNegative, t) := match t with
    | '-' :: t => (true, t)
    | '+' :: t => (false, t)
    | t => (false, t)
  let (said, rest) := basePart t
  let hasMark := rest.length != t.length
  let rest := if hasMark && rest.head? == some '_' then rest.drop 1 else rest
  let found : Option Nat :=
    if base == 0 then
      if said == 10 && t.head? == some '0' then
        match digitsValue? 10 none 0 t with
        | some 0 => some 0
        | _ => none
      else digitsValue? said none 0 rest
    else if said == base && hasMark then digitsValue? base none 0 rest
    else digitsValue? base none 0 t
  found.map fun n => if isNegative then -(n : Int) else n

def specialNumber? (v : Value) (name : Text) : Act (Option Int) := do
  match ← callSpecial? v name [] with
  | some found =>
    match ← plain found with
    | .integer n => return some n
    | .truth b => return some (if b then 1 else 0)
    | _ => typeError (name ++ " returned non-int (type " ++ (← kindName found) ++ [')'])
  | none => return none

def literal (v : Value) : Act Value := do
  match ← bodyOf v with
  | .bytes t => return .bytes t
  | _ => return v

def integerFrom (v : Value) : Act Int := do
  match ← specialNumber? v "__int__" with
  | some n => return n
  | none =>
    match ← specialNumber? v "__index__" with
    | some n => return n
    | none =>
      match ← specialNumber? v "__trunc__" with
      | some n => return n
      | none =>
        match ← plain v with
        | .integer n => return n
        | .truth b => return if b then 1 else 0
        | .real x => truncated x
        | .text t => spelled t
        | _ => do
          match ← bytes? v with
          | some t => spelled t
          | none =>
            typeError ("int() argument must be a string, a bytes-like object or a real number, not '" ++
              (← kindName v) ++ ['\x27'])
where
  spelled (t : Text) : Act Int := do
    let digits := (t.filter fun c => (decimalValue? c).isSome).length
    if digitLimit < digits then
      valueError ("Exceeds the limit (4300 digits) for integer string conversion: value has " ++
        decimal digits ++ " digits; use sys.set_int_max_str_digits() to increase the limit")
    else
      match integerOf? 10 t with
      | some n => return n
      | none => valueError ("invalid literal for int() with base 10: " ++ (← shown (← literal v)))

def integerIn (v base : Value) : Act Int := do
  match ← index? base with
  | none => typeError ("'" ++ (← kindName base) ++ "' object cannot be interpreted as an integer")
  | some b =>
    if b != 0 && (b < 2 || 36 < b) then valueError "int() base must be >= 2 and <= 36, or 0"
    else
      let t ← match ← plain v with
        | .text t => pure t
        | _ =>
          match ← bytes? v with
          | some t => pure t
          | none => typeError "int() can't convert non-string with explicit base"
      match integerOf? b.toNat t with
      | some n => return n
      | none =>
        valueError ("invalid literal for int() with base " ++ integerText b ++ ": " ++
          (← shown (← literal v)))

def spelledFloating? (t : Text) : Option Float :=
  Floating.ofText? ((strip t).map fun c =>
    match decimalValue? c with
    | some n => Nat.digitChar n
    | none => c)

def floatingFrom (v : Value) : Act Float := do
  match ← callSpecial? v "__float__" [] with
  | some found =>
    match ← plain found with
    | .real x => return x
    | _ =>
      typeError ((← kindName v) ++ ".__float__ returned non-float (type " ++ (← kindName found) ++ [')'])
  | none =>
    match ← plain v with
    | .real x => return x
    | .integer n => toFloating n
    | .truth b => return if b then 1.0 else 0.0
    | .text t => spelled t
    | other => do
      match ← bytes? v with
      | some t => spelled t
      | none =>
        match ← callSpecial? other "__index__" [] with
        | some found => do toFloating (← index found)
        | none =>
          typeError ("float() argument must be a string or a real number, not '" ++ (← kindName v) ++
            ['\x27'])
where
  spelled (t : Text) : Act Float := do
    match spelledFloating? t with
    | some x => return x
    | none => valueError ("could not convert string to float: " ++ (← shown v))

def complexOf? (t : Text) : Option (Float × Float) :=
  let t := strip t
  let t := match t, t.getLast? with
    | '(' :: inside, some ')' => strip inside.dropLast
    | _, _ => t
  match t.getLast? with
  | some 'j' | some 'J' =>
    let body := t.dropLast
    let place := (List.range body.length).reverse.find? fun k =>
      let c := body.getD k ' '
      let before := if k == 0 then ' ' else body.getD (k - 1) ' '
      (c == '+' || c == '-') && before != 'e' && before != 'E'
    let imaginary (t : Text) : Option Float :=
      if t.isEmpty || t == ['+'] then some 1.0
      else if t == ['-'] then some (-1.0)
      else Floating.ofText? t
    match place with
    | none => (imaginary body).map fun y => (0.0, y)
    | some 0 => (imaginary body).map fun y => (0.0, y)
    | some k =>
      match Floating.ofText? (body.take k), imaginary (body.drop k) with
      | some x, some y => some (x, y)
      | _, _ => none
  | _ => (Floating.ofText? t).map fun x => (x, 0.0)

def complexPart (v : Value) (which : Text) : Act (Float × Float) := do
  match ← callSpecial? v "__complex__" [] with
  | some (.complex x y) => return (x, y)
  | some _ | none => do
    match complex? (← plain v) with
    | some found => return found
    | none =>
      match ← callSpecial? v "__float__" [] with
      | some (.real x) => return (x, 0.0)
      | _ =>
        typeError ("complex() " ++ which ++ " argument must be a " ++
          (if which == "second" then "number".toList else "string or a number") ++ ", not '" ++
          (← kindName v) ++ ['\x27'])

def makeComplex (arguments : List Value) (named : Named) : Act Value := do
  let slots ← parametersOf "complex" (parametric 0 "real imag") arguments named
  match slots.getD 0 none, slots.getD 1 none with
  | none, none => return .complex 0.0 0.0
  | some v, none => do
    match ← plain v with
    | .text t =>
      match complexOf? t with
      | some (x, y) => return .complex x y
      | none => valueError "complex() arg is a malformed string"
    | _ => do
      let (x, y) ← complexPart v "first"
      return .complex x y
  | a, some b => do
    if (← plain (Value.ofOption a)) matches .text _ then
      typeError "complex() can't take second arg if first is a string"
    else if (← plain b) matches .text _ then typeError "complex() second arg can't be a string"
    else
      let (x, y) ← match a with
        | some a => complexPart a "first"
        | none => pure (0.0, 0.0)
      let (z, w) ← complexPart b "second"
      let isComplex (v : Value) : Act Bool := return (← plain v) matches .complex _ _
      return .complex (if ← isComplex b then x - w else x)
        (if ← isComplex (Value.ofOption a) then y + z else z)

/-! ### Texts and bytes -/

def makeText (arguments : List Value) (named : Named) : Act Value := do
  let slots ← parametersOf "str" (parametric 0 "object encoding errors") arguments named
  match slots with
  | [none, none, none] => return .text []
  | [some v, none, none] => return .text (← printed v)
  | _ => do
    let v := slotOr slots 0 (.bytes [])
    let encoding ← textArgument (slotOr slots 1 (.text "utf-8")) fun kind =>
      "str() argument 'encoding' must be str, not " ++ kind
    let handler ← textArgument (slotOr slots 2 (.text "strict")) fun kind =>
      "str() argument 'errors' must be str, not " ++ kind
    match ← bytes? v with
    | some t => return .text (← decoded t encoding handler)
    | none =>
      match ← plain v with
      | .text _ => typeError "decoding str is not supported"
      | _ =>
        typeError ("decoding to str: need a bytes-like object, " ++ (← kindName v) ++ " found")

def bytesFrom (kind : Text) (arguments : List Value) (named : Named) : Act Text := do
  let slots ← parametersOf kind (parametric 0 "source encoding errors") arguments named
  let word (what : String) (v : Value) : Act Text :=
    textArgument v fun found => kind ++ "() argument '" ++ what.toList ++ "' must be str, not " ++ found
  let encoding ← (slots.getD 1 none).mapM (word "encoding")
  let errors ← (slots.getD 2 none).mapM (word "errors")
  match slots.getD 0 none with
  | none =>
    if encoding.isSome then typeError "encoding without a string argument"
    else if errors.isSome then typeError "errors without a string argument"
    else return []
  | some v =>
    match ← plain v with
    | .text t =>
      match encoding with
      | none => typeError "string argument without an encoding"
      | some e => encoded t e (errors.getD "strict".toList)
    | inside =>
      if encoding.isSome then typeError "encoding without a string argument"
      else if errors.isSome then typeError "errors without a string argument"
      else
        match ← bytes? v with
        | some t => return t
        | none =>
          match ← callSpecial? v "__bytes__" [] with
          | some found =>
            match ← bytes? found with
            | some t => return t
            | none => typeError ("__bytes__ returned non-bytes (type " ++ (← kindName found) ++ [')'])
          | none =>
            match inside with
            | .integer n => zeroBytes n
            | .truth b => zeroBytes (if b then 1 else 0)
            | _ => do
              let items ← match ← readyItems? v with
                | some items => pure items
                | none => do
                  match ← index? v with
                  | some n => return ← zeroBytes n
                  | none => do
                    let it ← rescue "TypeError" (iterator v) fun _ => do
                      typeError ("cannot convert '" ++ (← kindName v) ++ "' object to " ++ kind)
                    rest it itemLimit #[]
              items.mapM fun item => do
                let n ← index item
                if 0 ≤ n && n < 256 then return Char.ofNat n.toNat
                else valueError ((if kind == "bytes" then "bytes".toList else "byte") ++
                  " must be in range(0, 256)")
where
  zeroBytes (n : Int) : Act Text := do
    if 2 ^ 63 ≤ n || n < -(2 ^ 63) then overflow "cannot fit 'int' into an index-sized integer"
    else if n < 0 then valueError "negative count"
    else if 100000000 < n then fail "MemoryError" []
    else return List.replicate n.toNat '\x00'

/-! ### Iterators -/

def makeRange (arguments : List Value) : Act Value := do
  checkCount (.between 1 3) "range" "range" arguments.length
  match ← arguments.mapM index with
  | [stop] => return .range 0 stop 1
  | [first, stop] => return .range first stop 1
  | [first, stop, step] =>
    if step == 0 then valueError "range() arg 3 must not be zero" else return .range first stop step
  | _ => return .nothing

def makeReversed (v : Value) : Act Value := do
  match ← callSpecial? v "__reversed__" [] with
  | some found => return found
  | none =>
    match ← plain v with
    | .text t => iteratorOver (t.reverse.map fun c => .text [c]) "reversed"
    | .bytes t => iteratorOver (t.reverse.map fun c => .integer c.toNat) "reversed"
    | .tuple items => iteratorOver items.reverse "reversed"
    | .range first stop step =>
      let length := rangeLength first stop step
      newIterator "range_iterator"
        (.counting (first + ((length : Int) - 1) * step) (first - step) (-step))
    | .object place =>
      match (← objectAt place).body with
      | .list items => newIterator "list_reverseiterator" (.listBackward place items.size)
      | .dictionary d => backward place d .keys "dict_reversekeyiterator"
      | .view source side => do
        backward source (← dictionaryAt source) side "dict_reversekeyiterator"
      | .bytes t => iteratorOver (t.reverse.map fun c => .integer c.toNat) "reversed"
      | _ => do
        match ← special? v "__getitem__", ← special? v "__len__" with
        | some _, some _ => do
          let n := (← size? v).getD 0
          newIterator "reversed" (.indexedBackward v ((n : Int) - 1))
        | _, _ => refuse
    | _ => refuse
where
  backward (place : Nat) (d : Dictionary) (side : Side) (kind : String) : Act Value :=
    newIterator kind.toList (.entriesBackward place d.entries.size d.size side)
  refuse : Act Value := do typeError ("'" ++ (← kindName v) ++ "' object is not reversible")

/-- The iterators of several values; one without is told by its place. -/
def sourcesOf (arguments : List Value) : Act (List Value) := arguments.mapM iterator

def makeEnumerate (arguments : List Value) (named : Named) : Act Value := do
  let given := arguments.length + named.length
  let names := ["iterable", "start"].map String.toList
  match named.find? fun entry => !(names.drop arguments.length).contains entry.1 with
  | some (name, _) =>
    if 2 < given then tooMany given
    else typeError (['\x27'] ++ name ++ "' is an invalid keyword argument for enumerate()")
  | none =>
    if 2 < given then tooMany given
    else
      let slot (place : Nat) : Option Value :=
        (arguments[place]?).or (named.lookup (names.getD place []))
      match slot 0 with
      | none => typeError "enumerate() missing required argument 'iterable'"
      | some source => do
        let start ← index ((slot 1).getD (.integer 0))
        newIterator "enumerate" (.enumerate (← iterator source) start)
where
  tooMany (given : Nat) : Act Value := do
    typeError ("enumerate() takes at most 2 arguments" ++ wasGiven given)

def makeZip (arguments : List Value) (named : Named) : Act Value := do
  match named.find? fun entry => entry.1 != "strict".toList with
  | some (name, _) => typeError (['\x27'] ++ name ++ "' is an invalid keyword argument for zip()")
  | none => do
    let isStrict ← truth ((named.lookup "strict".toList).getD (.truth false))
    newIterator "zip" (.zip (← sourcesOf arguments) isStrict)

/-! ### Errors -/

def systemError (code : Int) : Option String :=
  [(1, "PermissionError"), (2, "FileNotFoundError"), (3, "ProcessLookupError"), (4, "InterruptedError"),
    (10, "ChildProcessError"), (11, "BlockingIOError"), (13, "PermissionError"),
    (17, "FileExistsError"), (20, "NotADirectoryError"), (21, "IsADirectoryError"),
    (32, "BrokenPipeError"), (103, "ConnectionAbortedError"), (104, "ConnectionResetError"),
    (110, "TimeoutError"), (111, "ConnectionRefusedError")].lookup code

def errorNames (kind : Text) : List Text :=
  if kind == "ImportError" || kind == "ModuleNotFoundError" then ["name", "path"].map String.toList
  else if kind == "AttributeError" then ["name", "obj"].map String.toList
  else if kind == "NameError" || kind == "UnboundLocalError" then ["name".toList]
  else []

def makeError (kind : Text) (arguments : List Value) (named : Named) : Act Value := do
  let allowed := errorNames kind
  match named.find? fun entry => !allowed.contains entry.1 with
  | some (name, _) =>
    if allowed.isEmpty then typeError (kind ++ "() takes no keyword arguments")
    else typeError (['\x27'] ++ name ++ "' is an invalid keyword argument for " ++ kind ++ "()")
  | none => do
    let kind : Text := match kind == "OSError", arguments with
      | true, code :: _ :: _ =>
        ((code.integer?.bind systemError).map String.toList).getD kind
      | _, _ => kind
    let wanted : Nat := match String.ofList kind with
      | "UnicodeDecodeError" | "UnicodeEncodeError" => 5
      | "UnicodeTranslateError" => 4
      | _ => 0
    if wanted != 0 && arguments.length != wanted then
      typeError ("function takes exactly " ++ decimal wanted ++ " arguments (" ++
        decimal arguments.length ++ " given)")
    else if kind == "ExceptionGroup" || kind == "BaseExceptionGroup" then group kind
    else
      let e ← make kind (.error arguments .nothing .nothing false)
      match e with
      | .object place => named.forM fun (name, v) => setField place name v
      | _ => pure ()
      return e
where
  group (kind : Text) : Act Value := do
    match arguments with
    | [words, inner] => do
      match ← plain words with
      | .text _ => pure ()
      | _ => typeError ("argument 1 must be str, not " ++ (← kindName words))
      let isSequence ← match inner with
        | .tuple _ => pure true
        | .object place => do
          match (← objectAt place).body with
          | .list _ => pure true
          | _ => pure false
        | _ => pure false
      if !isSequence then typeError "second argument (exceptions) must be a sequence"
      else
        let items ← itemsOf inner
        if items.isEmpty then valueError "second argument (exceptions) must be a non-empty sequence"
        else
          items.zipIdx.forM fun (item, place) => do
            if !(← isOfKind item "BaseException") then
              valueError ("Item " ++ decimal place ++ " of second argument (exceptions) is not an exception")
          let allPlain ← items.allM fun item => isOfKind item "Exception"
          if kind == "ExceptionGroup" && !allPlain then
            typeError "Cannot nest BaseExceptions in an ExceptionGroup"
          else
            let kind : Text := if allPlain then "ExceptionGroup" else kind
            make kind (.error [words, inner] .nothing .nothing false)
    | _ =>
      typeError ("BaseExceptionGroup.__new__() takes exactly 2 arguments (" ++
        decimal arguments.length ++ " given)")

/-! ### All classes -/

def isNameless (kind : Text) : Bool :=
  ["bool", "float", "list", "tuple", "set", "frozenset", "range", "slice", "filter", "map",
    "reversed", "staticmethod", "classmethod"].any fun (k : String) => kind == k.toList

def construct (kind : Text) (arguments : List Value) (named : Named) : Act Value := do
  if isNameless kind then refuseNames kind named
  let count := arguments.length
  let first := argument arguments 0
  let single : Act Unit := checkCount (.between 0 1) kind kind count
  match String.ofList kind with
  | "object" =>
    if count != 0 || !named.isEmpty then typeError "object() takes no arguments" else make "object" .plain
  | "bool" => do
    single
    return .truth (← truth (arguments.headD (.truth false)))
  | "int" => do
    let slots ← parametersOf "int" (parametric 0 "x / base") arguments named
    match slots.getD 0 none, slots.getD 1 none with
    | none, none => return .integer 0
    | some v, none => return .integer (← integerFrom v)
    | some v, some base => return .integer (← integerIn v base)
    | none, some _ => typeError "int() missing string argument"
  | "float" => do
    single
    match arguments with
    | [] => return .real 0.0
    | v :: _ => return .real (← floatingFrom v)
  | "complex" => makeComplex arguments named
  | "str" => makeText arguments named
  | "bytes" => return .bytes (← bytesFrom kind arguments named)
  | "bytearray" => do make "bytearray" (.bytes (← bytesFrom kind arguments named))
  | "list" => do
    single
    newList (← sourceItems)
  | "tuple" => do
    single
    match first with
    | .tuple items => return .tuple items
    | _ => return .tuple (← sourceItems)
  | "dict" => do
    single
    let made ← newDictionary {}
    match made with
    | .object place => updateDictionary place arguments named
    | _ => pure ()
    return made
  | "set" => do
    single
    make "set" (.set (← collected))
  | "frozenset" => do
    single
    match ← kindOf first, count with
    | .kind ['f', 'r', 'o', 'z', 'e', 'n', 's', 'e', 't'], 1 => return first
    | _, _ => make "frozenset" (.set (← collected))
  | "range" => makeRange arguments
  | "slice" => do
    checkCount (.between 1 3) kind kind count
    match arguments with
    | [stop] => return .slice .nothing stop .nothing
    | _ => return .slice first (argument arguments 1) (argument arguments 2)
  | "enumerate" => makeEnumerate arguments named
  | "zip" => makeZip arguments named
  | "map" =>
    if count < 2 then typeError "map() must have at least two arguments."
    else do newIterator "map" (.map first (← sourcesOf (arguments.drop 1)))
  | "filter" => do
    checkCount (.between 2 2) kind kind count
    newIterator "filter" (.filter first (← iterator (argument arguments 1)))
  | "reversed" => do
    checkCount (.between 1 1) kind kind count
    makeReversed first
  | "property" => do
    let slots ← parametersOf "property" (parametric 0 "fget fset fdel doc") arguments named
    let made ← make "property" (.property (slotOr slots 0 .nothing) (slotOr slots 1 .nothing)
      (slotOr slots 2 .nothing))
    match made, slots.getD 3 none with
    | .object place, some words => setField place "__doc__" words
    | _, _ => pure ()
    return made
  | "staticmethod" => do
    checkCount (.between 1 1) kind kind count
    make kind (.staticMethod first)
  | "classmethod" => do
    checkCount (.between 1 1) kind kind count
    make kind (.classMethod first)
  | "NoneType" => return .nothing
  | "module" => do
    let made ← make "module" .module
    match made with
    | .object place => do
      setField place "__name__" first
      setField place "__doc__" (argument arguments 1)
    | _ => pure ()
    return made
  | "memoryview" => do
    match ← bytes? first with
    | some t => return .bytes t
    | none => typeError ("memoryview: a bytes-like object is required, not '" ++ (← kindName first) ++ ['\x27'])
  | _ =>
    if Kind.isError kind then makeError kind arguments named
    else typeError ("cannot create '" ++ kind ++ "' instances")
where
  sourceItems : Act (List Value) := do
    match arguments with
    | [] => return []
    | v :: _ => itemsOf v
  collected : Act Dictionary := do
    match arguments with
    | [] => return {}
    | v :: _ => uniteWith {} v

def setUp (v : Value) (kind : Text) (arguments : List Value) (named : Named) : Act Unit := do
  match v with
  | .object place =>
    match (← objectAt place).body with
    | .list _ => do
      refuseNames "list" named
      checkCount (.between 0 1) "list" "list" arguments.length
      let items ← if arguments.isEmpty then pure [] else itemsOf (argument arguments 0)
      setBody place (.list items.toArray)
    | .dictionary _ => do
      checkCount (.between 0 1) "dict" "dict" arguments.length
      updateDictionary place arguments named
    | .set _ =>
      if (← isOfKind v "frozenset") then return ()
      else
        checkCount (.between 0 1) "set" "set" arguments.length
        setBody place (.set (← (arguments.take 1).foldlM uniteWith {}))
    | .bytes _ => do setBody place (.bytes (← bytesFrom "bytearray" arguments named))
    | .error _ cause context hides =>
      if kind == "object" then return ()
      else do
        match named.find? fun entry => !(errorNames kind).contains entry.1 with
        | some _ => typeError ((← kindName v) ++ "() takes no keyword arguments")
        | none => do
          setBody place (.error arguments cause context hides)
          named.forM fun (name, x) => setField place name x
    | .property _ _ _ => do
      let slots ← parametersOf "property" (parametric 0 "fget fset fdel doc") arguments named
      setBody place (.property (slotOr slots 0 .nothing) (slotOr slots 1 .nothing)
        (slotOr slots 2 .nothing))
    | .module => do
      setField place "__name__" (argument arguments 0)
      setField place "__doc__" (argument arguments 1)
    | _ => return ()
  | _ => return ()

end Forwarding.Script.Act
