import Forwarding.Script.Machine.Attribute
import Forwarding.Script.Machine.Construction

/-! Giving attributes values, and taking them away. -/

set_option autoImplicit false

namespace Forwarding.Script.Act

open Text

/-- The names that a class allows for the attributes of its values, if it does not allow all. -/
def slotsOf? (kind : Value) : Act (Option (List Text)) := do
  let line ← lineOf kind
  line.foldlM (fun found c => do
    match c, found with
    | .object place, some names => do
      match ← field? place "__slots__" with
      | none => return none
      | some (.text t) => return some (t :: names)
      | some (.tuple items) => return some (items.filterMap Value.text? ++ names)
      | some (.object list) =>
        match (← objectAt list).body with
        | .list items => return some (items.toList.filterMap Value.text? ++ names)
        | .dictionary d => return some (d.keys.filterMap Value.text? ++ names)
        | _ => return some names
      | some _ => return some names
    | .kind name, some names =>
      return if name == "object" || !Kind.isError name && name != "type" then some names else none
    | _, _ => return none) (some [])

def noSetting {α : Type} (v : Value) (name : Text) : Act α := do
  let kind ← kindName v
  match ← member? (← kindOf v) name with
  | some _ =>
    fail "AttributeError" ("'" ++ kind ++ "' object attribute '" ++ name ++ "' is read-only")
  | none => fail "AttributeError" ("'" ++ kind ++ "' object has no attribute '" ++ name ++ ['\x27'])

/-- Whether the values of a class have attributes of their own. -/
def hasFields (o : Object) : Bool :=
  match o.kind, o.body with
  | .object _, _ => true
  | _, .routine _ | _, .error _ _ _ _ | _, .module | _, .class_ _ => true
  | _, .staticMethod _ | _, .classMethod _ => true
  | _, _ => false

def storePlain (v : Value) (name : Text) (x : Value) : Act Unit := do
  let kind ← kindOf v
  let found ← member? kind name
  let setter? : Option Value ← match found with
    | some (.object place) =>
      match (← objectAt place).body with
      | .property _ setter _ =>
        if setter.isNothing then
          fail "AttributeError" ("property '" ++ name ++ "' of '" ++ (← classPath kind) ++
            "' object has no setter")
        else pure (some setter)
      | .plain => do
        match ← member? (← kindOf (.object place)) "__set__" with
        | some setter => pure (some (← make "method" (.bound setter (.object place))))
        | none => pure none
      | _ => pure none
    | _ => pure none
  match setter?, v with
  | some setter, _ => do
    let _ ← call setter [v, x]
  | none, .object place => do
    let o ← objectAt place
    if !hasFields o && !(o.body matches .cell _ _) then noSetting v name
    else
      match o.body, String.ofList name with
      | .error _ cause context hides, "args" => do
        setBody place (.error (← argumentsIn x) cause context hides)
      | .error arguments _ context _, "__cause__" => setBody place (.error arguments x context true)
      | .error arguments cause _ hides, "__context__" => setBody place (.error arguments cause x hides)
      | .error arguments cause context _, "__suppress_context__" =>
        setBody place (.error arguments cause context (x matches .truth true))
      | .class_ c, "__name__" => setBody place (.class_ { c with name := x.text?.getD c.name })
      | .class_ c, "__qualname__" => setBody place (.class_ { c with path := x.text?.getD c.path })
      | .routine r, "__name__" => do
        setBody place (.routine { r with template := r.template.withName (← nameIn x name) })
      | .routine r, "__qualname__" => do
        setBody place (.routine { r with template := r.template.withPath (← nameIn x name) })
      | .routine r, "__defaults__" => do
        setBody place (.routine { r with defaults := ← argumentsIn x })
      | .cell scope index, "cell_contents" => setInScope scope index (some x)
      | .plain, "__class__" => changeObject place fun o => { o with kind := x }
      | .class_ _, _ | .routine _, _ | .error _ _ _ _, _ | .module, _ => setField place name x
      | _, "__dict__" =>
        match x with
        | .object fields => changeObject place fun o => { o with fields := some fields }
        | _ => typeError ("__dict__ must be set to a dictionary, not a '" ++ (← kindName x) ++ ['\x27'])
      | _, _ => do
        match ← slotsOf? kind with
        | some names =>
          if names.contains name || names.contains "__dict__".toList then setField place name x
          else if found.isSome then
            fail "AttributeError" ("'" ++ (← className kind) ++ "' object attribute '" ++ name ++
              "' is read-only")
          else noSetting v name
        | none => setField place name x
  | none, .kind k =>
    typeError ("cannot set '" ++ name ++ "' attribute of immutable type '" ++ k ++ ['\x27'])
  | none, .subject => do
    let fields ← match (← get).given with
      | some fields => pure fields
      | none => do
        let fields := (← get).heap.size
        let _ ← newDictionary {}
        modify fun s => { s with given := some fields }
        pure fields
    changeDictionary fields fun d => d.insertText name x
  | none, _ => noSetting v name
where
  nameIn (x : Value) (name : Text) : Act Text := do
    match x with
    | .text t => return t
    | _ => typeError (name ++ " must be set to a string object")
  argumentsIn (x : Value) : Act (List Value) := do
    match x with
    | .tuple items => return items
    | .object place =>
      match (← objectAt place).body with
      | .list items => return items.toList
      | _ => return []
    | _ => return []

def storeMember (v : Value) (name : Text) (x : Value) : Act Unit := do
  match ← special? v "__setattr__" with
  | some f => do
    let _ ← call f [.text name, x]
  | none => storePlain v name x

/-- Takes an attribute away, whatever function the script has for that. -/
def erasePlain (v : Value) (name : Text) : Act Unit := do
  let kind ← kindOf v
  let eraser? : Option Value ← match ← member? kind name with
    | some (.object place) =>
      match (← objectAt place).body with
      | .property _ _ eraser =>
        if eraser.isNothing then
          fail "AttributeError" ("property '" ++ name ++ "' of '" ++ (← classPath kind) ++
            "' object has no deleter")
        else pure (some eraser)
      | .plain => do
        match ← member? (← kindOf (.object place)) "__delete__" with
        | some f => pure (some (← make "method" (.bound f (.object place))))
        | none => pure none
      | _ => pure none
    | _ => pure none
  match eraser?, v with
  | some eraser, _ => do
    let _ ← call eraser [v]
  | none, .object place => do
    match (← objectAt place).fields with
    | some fields =>
      if (← dictionaryAt fields).contains (Dictionary.textCode name) then
        changeDictionary fields fun d => d.eraseText name
      else noAttribute v name
    | none => if hasFields (← objectAt place) then noAttribute v name else noSetting v name
  | none, .kind k =>
    typeError ("cannot set '" ++ name ++ "' attribute of immutable type '" ++ k ++ ['\x27'])
  | none, .subject => do
    match (← get).given with
    | some fields =>
      if (← dictionaryAt fields).contains (Dictionary.textCode name) then
        changeDictionary fields fun d => d.eraseText name
      else fail "AttributeError" name
    | none => fail "AttributeError" name
  | none, _ => noSetting v name

def eraseMember (v : Value) (name : Text) : Act Unit := do
  match ← special? v "__delattr__" with
  | some f => do
    let _ ← call f [.text name]
  | none => erasePlain v name

/-! Classes of the script, and their values. -/

/-! ### The order in which attributes are looked for -/

/-- Lists merged so that the order of each is kept; none if that cannot be. The number bounds how long the
result gets. -/
def mergeLines : Nat → List (List Value) → Except (List Value) (List Value)
  | 0, lines => .error (lines.filterMap List.head?)
  | fuel + 1, lines =>
    let lines := lines.filter fun line => !line.isEmpty
    if lines.isEmpty then .ok []
    else
      let heads := lines.filterMap List.head?
      let isBehind (c : Value) : Bool := lines.any fun line => (line.drop 1).any c.isSame
      match heads.find? fun c => !isBehind c with
      | none => .error heads
      | some next =>
        let rest := lines.map fun line =>
          match line with
          | c :: more => if c.isSame next then more else line
          | [] => []
        (mergeLines fuel rest).map (next :: ·)

def lineBehind (bases : List Value) : Act (List Value) := do
  let lines ← bases.mapM lineOf
  let total := lines.foldl (fun total line => total + line.length) bases.length
  match mergeLines (total + 1) (lines ++ [bases]) with
  | .ok line => return line
  | .error heads => do
    let heads := heads.foldl (fun found c => if found.any c.isSame then found else found ++ [c]) []
    let names ← heads.mapM className
    typeError ("Cannot create a consistent method resolution\norder (MRO) for bases " ++ join ", " names)

/-! ### What a class is built on -/

def fullerErrors : List Text := words <|
  "OSError SyntaxError StopIteration SystemExit ImportError UnicodeDecodeError UnicodeEncodeError " ++
  "UnicodeTranslateError AttributeError NameError BaseExceptionGroup"

def formOf (kind : Value) : Act Text := do
  let line ← lineOf kind
  let found := line.findSome? fun
    | .kind k =>
      if k == "object" then none
      else if Kind.isError k then
        if fullerErrors.contains k || k == "BaseException" then some k else none
      else some k
    | _ => none
  return found.getD "object"

def checkBases (bases : List Value) : Act Unit := do
  bases.forM fun base => do
    match base with
    | .kind k =>
      if Kind.closed.contains k then
        typeError ("type '" ++ k ++ "' is not an acceptable base type")
    | _ => pure ()
  let forms ← bases.mapM formOf
  let forms := forms.filter fun form => form != "object".toList
  let clash := forms.any fun form => forms.any fun other =>
    form != other && !(Kind.line form).contains other && !(Kind.line other).contains form
  if clash then typeError "multiple bases have instance lay-out conflict"
  match duplicate? bases with
  | some c => typeError ("duplicate base class " ++ (← className c))
  | none => pure ()
where
  duplicate? : List Value → Option Value
    | [] => none
    | c :: more => if more.any c.isSame then some c else duplicate? more

def classOfClass (asked : Value) (bases : List Value) : Act Value :=
  bases.foldlM (fun winner base => do
    let kind ← kindOf base
    if ← isBelow winner kind then return winner
    else if ← isBelow kind winner then return kind
    else
      typeError ("metaclass conflict: the metaclass of a derived class must be a (non-strict) subclass " ++
        "of the metaclasses of all its bases")) asked

/-- Wraps functions of a class that are no methods of its values. -/
def prepared (d : Dictionary) : Act Dictionary := do
  let wrap (d : Dictionary) (name : Text) (kind : Text) (wrapped : Value → Body) : Act Dictionary := do
    match d.getText? name with
    | some f =>
      match ← bodyOf f with
      | .routine _ => return d.insertText name (← make kind (wrapped f))
      | _ => return d
    | none => return d
  let d ← wrap d "__new__" "staticmethod" .staticMethod
  let d ← wrap d "__init_subclass__" "classmethod" .classMethod
  let d ← wrap d "__class_getitem__" "classmethod" .classMethod
  if (d.getText? "__eq__").isSome && (d.getText? "__hash__").isNone then
    return d.insertText "__hash__" .nothing
  else return d

def tellNames (made : Value) (d : Dictionary) : Act Unit :=
  d.texts.forM fun (name, v) => do
    match v with
    | .object _ => do
      match ← special? v "__set_name__" with
      | some f => do
        let outcome ← tryCatch (do
          let _ ← call f [made, .text name]
          return none) fun halt => do
            match halt with
            | .raised e => return some e
            | .exhausted => throw halt
        match outcome with
        | none => pure ()
        | some e => do
          let words := "Error calling __set_name__ on '" ++ (← kindName v) ++ "' instance " ++
            (← shown (.text name)) ++ " in '" ++ (← className made) ++ ['\x27']
          let error ← make "RuntimeError" (.error [.text words] e e true)
          throw (.raised error)
      | none => pure ()
    | _ => pure ()

def newClass (meta_ : Value) (name : Text) (bases : List Value) (d : Dictionary) (named : Named) :
    Act Value := do
  let bases := if bases.isEmpty then [.kind "object"] else bases
  let wrong ← bases.findM? fun base => return !(← isClass base)
  if wrong.isSome then typeError "bases must be types"
  checkBases bases
  let path := ((d.getText? "__qualname__").bind Value.text?).getD name
  let d ← prepared (d.eraseText "__qualname__")
  let behind ← lineBehind bases
  let fields := (← get).heap.size
  let _ ← newDictionary d
  let place := (← get).heap.size
  let made ← allocate ⟨meta_, some fields, .class_ ⟨name, path, bases, .object place :: behind⟩⟩
  if (d.getText? "__module__").isNone then
    match (← dictionaryAt (← get).frame.shared).getText? "__name__" with
    | some m => setField place "__module__" m
    | none => pure ()
  tellNames made d
  match ← memberIn? behind "__init_subclass__" with
  | some (.unbound _ _) | none =>
    if !named.isEmpty then typeError (path ++ ".__init_subclass__() takes no keyword arguments")
  | some found => do
    let _ ← call (← tiedToClass found made) [] named
  return made

def classFrom (meta_ : Value) (arguments : List Value) (named : Named) : Act Value := do
  match arguments with
  | [name, bases, d] => do
    let name ← match ← plain name with
      | .text t => pure t
      | _ => typeError ("type.__new__() argument 1 must be str, not " ++ (← kindName name))
    let bases ← match ← plain bases with
      | .tuple items => pure items
      | _ => typeError ("type.__new__() argument 2 must be tuple, not " ++ (← kindName bases))
    let d ← match ← bodyOf d with
      | .dictionary d => pure d
      | _ => typeError ("type.__new__() argument 3 must be dict, not " ++ (← kindName d))
    newClass (← classOfClass meta_ bases) name bases d named
  | _ =>
    typeError ("type.__new__() takes exactly 3 arguments (" ++ decimal arguments.length ++ " given)")

/-! ### Values of classes -/

/-- The methods that a class wants its values to have and that it does not say. -/
def abstractNames (kind : Value) : Act (List Text) := do
  match kind with
  | .object place => do
    match ← field? place "__abstractmethods__" with
    | some v => return (← itemsOf v).filterMap Value.text?
    | none => return []
  | _ => return []

/-- A new value of a class, made as a class of the language makes it. The flag says whether the class has
no way of its own to make values. -/
def newValue (kind : Value) (form : Text) (isPlain : Bool) (arguments : List Value) (named : Named) :
    Act Value := do
  match kind with
  | .kind k =>
    if k == "type" then classFrom kind arguments named
    else construct (if form == "object" then k else form) arguments named
  | _ => do
    let form ← if form == "object" then formOf kind else pure form
    if form == "object" then
      if !arguments.isEmpty || !named.isEmpty then
        if !isPlain then
          typeError "object.__new__() takes exactly one argument (the type to instantiate)"
        else if (← scripted? kind "__init__").isNone then
          typeError ((← className kind) ++ "() takes no arguments")
      let missing ← abstractNames kind
      if missing.isEmpty then allocate ⟨kind, none, .plain⟩
      else
        typeError ("Can't instantiate abstract class " ++ (← className kind) ++
          " with abstract method" ++ (if missing.length == 1 then [] else ['s']) ++ " " ++
          join ", " (missing.mergeSort le))
    else if form == "type" then classFrom kind arguments named
    else
      let isEmptied := ["list", "dict", "set", "bytearray", "property"].any fun (k : String) =>
        form == k.toList
      let isError := Kind.isError form
      let line ← lineOf kind
      let base := (line.findSome? fun
        | .kind k => some k
        | _ => none).getD form
      let hasInit := (← scripted? kind "__init__").isSome
      let inside ←
        if isEmptied then construct form [] []
        else if isError then construct base arguments (if hasInit then [] else named)
        else construct form arguments (if hasInit && form != "int" && form != "str" then [] else named)
      match inside with
      | .object place => do
        match (← objectAt place).kind with
        | .kind _ => do
          let o ← objectAt place
          allocate ⟨kind, o.fields, o.body⟩
        | _ => allocate ⟨kind, none, .boxed inside⟩
      | other => allocate ⟨kind, none, .boxed other⟩

def setUpValue (v kind : Value) (arguments : List Value) (named : Named) : Act Unit := do
  match ← member? kind "__init__" with
  | some (.unbound k _) => setUp v k arguments named
  | some found => do
    let given ← call (← tied found v kind) arguments named
    if !given.isNothing then
      typeError ("__init__() should return None, not '" ++ (← kindName given) ++ ['\x27'])
  | none => return ()

/-- What calling a class gives, whatever its own class says. -/
def valueOf (kind : Value) (arguments : List Value) (named : Named) : Act Value := do
  match kind with
  | .kind k => construct k arguments named
  | _ => do
    let made ← match ← member? kind "__new__" with
      | some (.unbound k _) => newValue kind k true arguments named
      | some found => do
        let f ← match ← bodyOf found with
          | .staticMethod f => pure f
          | _ => tiedToClass found kind
        call f (kind :: arguments) named
      | none => newValue kind "object" true arguments named
    if ← isOf made kind then setUpValue made (← kindOf made) arguments named
    return made

def instantiate (kind : Value) (arguments : List Value) (named : Named) : Act Value := do
  match ← scripted? (← kindOf kind) "__call__" with
  | some f => call f (kind :: arguments) named
  | none => valueOf kind arguments named

def realBases (bases : List Value) : Act (List Value × Bool) := do
  let found ← bases.mapM fun base => do
    if ← isClass base then return ([base], false)
    else
      match ← kindOf base, ← plain base with
      | .kind ['G', 'e', 'n', 'e', 'r', 'i', 'c', 'A', 'l', 'i', 'a', 's'], .tuple (origin :: _) =>
        return ([origin], true)
      | _, _ => do
        match ← special? base "__mro_entries__" with
        | some f => do
          match ← call f [.tuple bases] with
          | .tuple items => return (items, true)
          | _ => typeError "__mro_entries__ must return a tuple"
        | none => return ([base], false)
  return ((found.map Prod.fst).flatten, found.any Prod.snd)

def defineClass (name : Text) (t : Template) (bases : List Value) (named : Named) : Act Value := do
  let frame := (← get).frame
  let (real, isChanged) ← realBases bases
  let asked := named.lookup "metaclass".toList
  let named := named.filter fun entry => entry.1 != "metaclass".toList
  let first : Value ← match asked, real with
    | some m, _ => pure m
    | none, base :: _ => kindOf base
    | none, [] => pure (.kind "type")
  let meta_ ← if ← isClass first then
      if ← isBelow first (.kind "type") then classOfClass first real else pure first
    else pure first
  let names ← match ← readMember? meta_ "__prepare__" with
    | some f =>
      if (← scripted? meta_ "__prepare__").isSome then call f [.text name, .tuple real] named
      else newDictionary {}
    | none => newDictionary {}
  let namesPlace ← match names with
    | .object place => pure place
    | _ => typeError ((← className meta_) ++ ".__prepare__() must return a mapping, not " ++ (← kindName names))
  let put (word : Text) (v : Value) : Act Unit := storeItem names (.text word) v
  put "__module__" (Value.ofOption ((← dictionaryAt frame.shared).getText? "__name__"))
  put "__qualname__" (.text t.path)
  let scope := (← get).heap.size
  let _ ← make "scope" (.scope #[none] t.slots (some frame.scope))
  let _ ← perform (.block { code := t.code, scope, names := some namesPlace, shared := frame.shared,
                            template := t })
  if isChanged then put "__orig_bases__" (.tuple bases)
  let made ← call meta_ [.text name, .tuple real, names] named
  changeBody scope fun body =>
    match body with
    | .scope values names around => .scope (values.set! 0 (some made)) names around
    | other => other
  return made

end Forwarding.Script.Act
