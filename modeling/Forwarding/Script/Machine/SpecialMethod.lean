import Forwarding.Script.Machine.Making

/-! The methods that operators and other means of the language stand for, called by their names. -/

set_option autoImplicit false

namespace Forwarding.Script.Act

open Text

/-- The operator that a name stands for, and whether its values are the other way round. -/
def operatorOf? (name : Text) : Option (Operator × Bool) :=
  (Operator.table.map Prod.fst).findSome? fun o =>
    if o.methodName == name then some (o, false)
    else if o.reflectedName == name then some (o, true)
    else none

def changeOf? (name : Text) : Option Operator :=
  (Operator.table.map Prod.fst).find? fun o => o.changingName == name

def orderOf? (name : Text) : Option Order := Order.all.find? fun o => o.methodName == name

def signOf? (name : Text) : Option Sign :=
  [Sign.plus, .minus, .complement].find? fun s => s.methodName == name

/-- How far a number is from being whole: an operator of a class takes no numbers of a wider one. -/
def width : Value → Nat
  | .truth _ | .integer _ => 1
  | .real _ => 2
  | .complex _ _ => 3
  | _ => 0

def isNarrow (v other : Value) : Bool := width v != 0 && width v < width other

/-- Special methods that count their arguments as other methods do, with the classes that have them. -/
def specialTakings : List (Taking × String × String) := [
  (.nothing, "__alloc__", "bytearray"), (.nothing, "__bytes__", "bytes"),
  (.nothing, "__ceil__ __floor__ __trunc__", "float int"), (.nothing, "__complex__", "complex"),
  (.nothing, "__dir__", "object type"), (.nothing, "__enter__", "memoryview"),
  (.nothing, "__getnewargs__", "bytes complex float int str tuple"),
  (.nothing, "__getstate__ __reduce__ __sizeof__", "object"),
  (.nothing, "__length_hint__",
    "list_iterator list_reverseiterator tuple_iterator str_iterator range_iterator set_iterator " ++
    "dict_keyiterator dict_valueiterator dict_itemiterator bytes_iterator"),
  (.nothing, "__reversed__", "dict dict_items dict_keys dict_values list range"),
  (.nothing, "__subclasses__", "type"),
  (.single, "__contains__", "dict frozenset set"),
  (.single, "__format__", "complex float int object str"), (.single, "__getitem__", "dict list"),
  (.single, "__instancecheck__ __subclasscheck__", "type"), (.single, "__reduce_ex__", "object"),
  (.single, "__class_getitem__", "dict enumerate frozenset list set tuple type"),
  (.between 0 1, "__round__", "float int")]

def specialTaking? (kind name : Text) : Option Taking :=
  (specialTakings.find? fun (_, names, kinds) =>
    (words names.toList).contains name && (words kinds.toList).contains kind).map Prod.fst

/-- How many arguments the other special methods take, and whether they are counted by a pattern. -/
def specialBounds? (kind name : Text) : Option (Nat × Nat × Bool) :=
  let isRepetition := (words "__mul__ __rmul__ __imul__").contains name &&
    (words "str bytes bytearray list tuple").contains kind
  if isRepetition then some (1, 1, true)
  else if (words ("__abs__ __bool__ __del__ __float__ __hash__ __index__ __int__ __iter__ __len__ " ++
      "__next__ __repr__ __str__")).contains name then some (0, 0, false)
  else if (words "__setitem__ __setattr__ __set__").contains name then some (2, 2, true)
  else if (words "__pow__ __rpow__ __get__").contains name then some (1, 2, true)
  else if (words ("__contains__ __delattr__ __delete__ __delitem__ __divmod__ __rdivmod__ " ++
      "__getattribute__ __getitem__")).contains name then some (1, 1, false)
  else if (operatorOf? name).isSome || (changeOf? name).isSome || (orderOf? name).isSome then
    some (1, 1, false)
  else if (signOf? name).isSome then some (0, 0, false)
  else none

def checkSpecial (kind name : Text) (arguments : List Value) (named : Named) : Act Unit := do
  match specialTaking? kind name, specialBounds? kind name with
  | some t, _ => checkCall t false (kind ++ '.' :: name) name arguments named
  | none, some (fewest, most, isPattern) => do
    let given := arguments.length
    if !named.isEmpty then typeError ("wrapper " ++ name ++ "() takes no keyword arguments")
    else if given < fewest || most < given then
      let (words, count) := boundWords fewest most given
      typeError ((if isPattern then [' '] else []) ++ "expected " ++ words ++ decimal count ++ " argument" ++
        pluralMark count ++ ", got " ++ decimal given)
  | none, none => return ()

def memberNames (v : Value) : Act (List Text) := do
  let own : List Text ← match v with
    | .object place =>
      match (← objectAt place).fields with
      | some fields => pure ((← dictionaryAt fields).texts.map Prod.fst)
      | none => pure []
    | _ => pure []
  let isModule ← match v with
    | .object place => pure ((← objectAt place).body matches .module)
    | _ => pure false
  let isAboutClass ← isClass v
  let line ← if isModule then pure [] else if isAboutClass then lineOf v else lineOf (← kindOf v)
  let theirs ← line.mapM fun c => do
    match c with
    | .kind k => return Kind.membersOf k
    | .object place =>
      match (← objectAt place).fields with
      | some fields => return (← dictionaryAt fields).texts.map Prod.fst
      | none => return []
    | _ => return []
  let dictionaryName : List Text :=
    if !isAboutClass && !isModule && (line.any fun c => c matches .object _) then
      ["__dict__", "__weakref__"].map String.toList else []
  let all := own ++ theirs.flatten ++ dictionaryName
  return (all.mergeSort le).foldr (fun name found =>
    if found.head? == some name then found else name :: found) []

def specialMethod (v : Value) (kind name : Text) (arguments : List Value) (named : Named) :
    Act Value := do
  checkSpecial kind name arguments named
  let first := argument arguments 0
  let second := argument arguments 1
  let inside ← plain v
  match operatorOf? name, changeOf? name, orderOf? name, signOf? name with
  | some (o, isReflected), _, _, _ => do
    let other ← plain first
    let isForeign := width inside != 0 && (width other == 0 || width inside < width other)
    let isSpelling := match inside with
      | .text _ | .bytes _ => o == .remainder && isReflected
      | _ => false
    if o == .power && arguments.length == 2 && !second.isNothing then
      if isForeign && width inside == 1 then return .inapplicable
      else call (.builtin "pow") (if isReflected then [first, inside, second] else [inside, first, second])
    else if isForeign then return .inapplicable
    else if isSpelling && inside.kindName != other.kindName then return .inapplicable
    else
      if o == .multiply && width inside == 0 then
        let _ ← index first
      let found ← if isReflected then nativeOperation? o first v else nativeOperation? o v first
      return found.getD .inapplicable
  | _, some o, _, _ => do
    return (← nativeChange? o v first).getD .inapplicable
  | _, _, some o, _ => do
    if kind == "object" then
      match o with
      | .equal => return if v.isSame first then .truth true else .inapplicable
      | .unequal => do
        match ← callSpecial? v "__eq__" [first] with
        | some .inapplicable => return .inapplicable
        | some found => return .truth !(← truth found)
        | none => return if v.isSame first then .truth false else .inapplicable
      | _ => return .inapplicable
    else if isNarrow inside (← plain first) then return .inapplicable
    else
      match ← nativeComparison depthLimit o inside (← plain first) with
      | some found => return .truth found
      | none =>
        match o with
        | .equal => return if v.isSame first then .truth true else .inapplicable
        | .unequal => return if v.isSame first then .truth false else .inapplicable
        | _ => return .inapplicable
  | _, _, _, some s => do
    sign s inside
  | _, _, _, _ =>
    match String.ofList name with
    | "__len__" => return .integer ((← nativeSize? v).getD 0)
    | "__getitem__" => do
      nativeItem v first
    | "__setitem__" => do
      storeNativeItem v first second
      return .nothing
    | "__delitem__" => do
      eraseNativeItem v first
      return .nothing
    | "__contains__" => do
      return .truth (← nativeContains v first)
    | "__iter__" => do
      match ← nativeIterator? 4 v with
      | some found => return found
      | none => noAttribute v name
    | "__next__" => do
      match ← next? v with
      | some found => return found
      | none => failWith "StopIteration" []
    | "__reversed__" => makeReversed inside
    | "__length_hint__" => do
      match ← bodyOf v with
      | .iterator (.items left) => return .integer left.length
      | .iterator (.list place index) => do
        return .integer (((← nativeSize? (.object place)).getD 0) - index : Nat)
      | _ => return .integer 0
    | "__hash__" =>
      match v with
      | .object place => do
        match (← objectAt place).body with
        | .boxed inside => return .integer (← hash inside)
        | .list _ | .dictionary _ | .bytes _ => unhashable v
        | .plain => return .integer place
        | _ => return .integer (← hash v)
      | _ => return .integer (← hash v)
    | "__repr__" =>
      match v with
      | .object place => return .text (← objectText depthLimit [] place)
      | _ => return .text (← shown v)
    | "__str__" =>
      if kind == "object" then return .text (← shown v) else return .text (← printedPlain v)
    | "__format__" => do
      let layout ← textArgument first fun found => "__format__() argument must be str, not " ++ found
      return .text (← laidOutPlain v layout)
    | "__bool__" => return .truth (← truth inside)
    | "__abs__" => call (.builtin "abs") [inside]
    | "__int__" | "__trunc__" => return .integer (← integerFrom inside)
    | "__index__" => return .integer (← index inside)
    | "__float__" => return .real (← floatingFrom inside)
    | "__floor__" | "__ceil__" =>
      match inside with
      | .real x =>
        match (if name == "__floor__" then Floating.floor? x else Floating.ceiling? x) with
        | some n => return .integer n
        | none => return .integer (← truncated x)
      | other => return .integer (← index other)
    | "__round__" => do
      let places ← match arguments with
        | [] => pure Value.nothing
        | v :: _ => do
          match inside with
          | .real _ => pure v
          | _ => pure (.integer (← index v))
      rounded inside places
    | "__divmod__" | "__rdivmod__" => do
      let other ← plain first
      if width other == 0 || width inside < width other then return .inapplicable
      else call (.builtin "divmod") (if name == "__divmod__" then [inside, first] else [first, inside])
    | "__getnewargs__" =>
      match inside with
      | .complex x y => return .tuple [.real x, .real y]
      | .truth b => return .tuple [.integer (if b then 1 else 0)]
      | _ => return .tuple [inside]
    | "__complex__" =>
      match complex? inside with
      | some (x, y) => return .complex x y
      | none => return .inapplicable
    | "__bytes__" => return inside
    | "__getattribute__" => do
      let t ← memberName first
      match ← ownAttribute? v t with
      | some found => return found
      | none => noAttribute v t
    | "__setattr__" => do
      let t ← memberName first
      storePlain v t second
      return .nothing
    | "__delattr__" => do
      let t ← memberName first
      erasePlain v t
      return .nothing
    | "__dir__" => newList (Value.texts (← memberNames v))
    | "__init__" => do
      if kind == "object" && (!arguments.isEmpty || !named.isEmpty) then
        if (← scripted? (← kindOf v) "__init__").isSome then
          typeError "object.__init__() takes exactly one argument (the instance to initialize)"
        else if (← scripted? (← kindOf v) "__new__").isNone && (← formOf (← kindOf v)) == "object" then
          typeError ((← kindName v) ++
            ".__init__() takes exactly one argument (the instance to initialize)")
      setUp v kind arguments named
      return .nothing
    | "__call__" => do
      if kind == "type" then valueOf v arguments named else call v arguments named
    | "__get__" => do
      if first.isNothing then return v
      else
        match ← bodyOf v with
        | .routine _ => make "method" (.bound v first)
        | _ => tied v first (← kindOf first)
    | "__set__" => do
      match ← bodyOf v with
      | .property _ setter _ =>
        if setter.isNothing then
          fail "AttributeError" ("property of '" ++ (← classPath (← kindOf first)) ++ "' object has no setter")
        else call setter [first, second]
      | _ => return .nothing
    | "__delete__" => do
      match ← bodyOf v with
      | .property _ _ eraser =>
        if eraser.isNothing then
          fail "AttributeError" ("property of '" ++ (← classPath (← kindOf first)) ++ "' object has no deleter")
        else call eraser [first]
      | _ => return .nothing
    | "__instancecheck__" => return .truth (← isOf first v)
    | "__subclasscheck__" => return .truth (← isBelow first v)
    | "__init_subclass__" => do
      if !named.isEmpty then
        typeError ((← classPath v) ++ ".__init_subclass__() takes no keyword arguments")
      return .nothing
    | "__subclasshook__" => return .inapplicable
    | "__prepare__" => newDictionary {}
    | "__class_getitem__" => do
      let c ← if ← isClass v then pure v else kindOf v
      make "GenericAlias" (.boxed (.tuple (c :: (match first with
        | .tuple items => items
        | other => [other]))))
    | "__subclasses__" => do
      let found := (← get).heap.toList.zipIdx.filterMap fun (o, place) =>
        match o.body with
        | .class_ c => if c.bases.any v.isSame then some (Value.object place) else none
        | _ => none
      newList found
    | "__sizeof__" => return .integer 48
    | "__enter__" => return v
    | "__getstate__" => do
      match v with
      | .object place =>
        match (← objectAt place).fields with
        | some fields => return .object fields
        | none => return .nothing
      | _ => return .nothing
    | "__await__" => return v
    | "__del__" | "__set_name__" => return .nothing
    | _ => noAttribute v name

end Forwarding.Script.Act
