import Forwarding.Script.Machine.Item
import Forwarding.Script.Machine.Shown
import Forwarding.Script.Machine.Taking

/-! Sorting, and the methods of lists. -/

set_option autoImplicit false

namespace Forwarding.Script.Act

open Text

/-! ### Sorting

Values are sorted by asking whether one is less than another. A run at the start that is in order already
is found first, and the others are put into it one after the other; long lists are sorted by halves. -/

abbrev Keyed := Value × Value

def isBelowKey (a b : Keyed) : Act Bool := isOrdered .less a.1 b.1

/-- How many values behind the first are in order with the one before each, going up or down. -/
def runLength (isDown : Bool) (before : Keyed) : List Keyed → Act Nat
  | [] => return 0
  | next :: more => do
    if (← isBelowKey next before) == isDown then return (← runLength isDown next more) + 1
    else return 0

/-- The place between two others where a value belongs among values in order. -/
def seatFor (items : Array Keyed) (pivot : Keyed) : Nat → Nat → Nat → Act Nat
  | 0, first, _ => return first
  | fuel + 1, first, last =>
    if first < last then do
      let middle := first + (last - first) / 2
      match items[middle]? with
      | some other =>
        if ← isBelowKey pivot other then seatFor items pivot fuel first middle
        else seatFor items pivot fuel (middle + 1) last
      | none => return first
    else return first

def insertAll (items : Array Keyed) : List Keyed → Act (Array Keyed)
  | [] => return items
  | next :: more => do
    let place ← seatFor items next (items.size + 1) 0 items.size
    insertAll (items.insertIdx! place next) more

/-- Two lists in order as one; of equal values those of the first come first. -/
def merged : Nat → List Keyed → List Keyed → Array Keyed → Act (Array Keyed)
  | _, [], others, found => return found ++ others.toArray
  | _, items, [], found => return found ++ items.toArray
  | 0, _, _, found => return found
  | fuel + 1, a :: more, b :: others, found => do
    if ← isBelowKey b a then merged fuel (a :: more) others (found.push b)
    else merged fuel more (b :: others) (found.push a)

def sortedShort (items : List Keyed) : Act (Array Keyed) := do
  match items with
  | first :: second :: more => do
    let isDown ← isBelowKey second first
    let count := (← runLength isDown second more) + 2
    let start := items.take count
    insertAll (if isDown then start.reverse else start).toArray (items.drop count)
  | short => return short.toArray

/-- A list in order. The number bounds how often it is halved. -/
def sortedBy : Nat → List Keyed → Act (Array Keyed)
  | 0, items => return items.toArray
  | depth + 1, items => do
    let length := items.length
    if length < 64 then sortedShort items
    else
      let half := length / 2
      let first ← sortedBy depth (items.take half)
      let second ← sortedBy depth (items.drop half)
      merged length first.toList second.toList #[]

/-- Values in the order of what a function makes of them, forward or backward. -/
def sorted (items : List Value) (key : Value) (isReversed : Bool) : Act (List Value) := do
  let keys ← if key.isNothing then pure items else items.mapM fun item => call key [item]
  let keyed := keys.zip items
  let found ← sortedBy 64 (if isReversed then keyed.reverse else keyed)
  let found := (found.toList).map Prod.snd
  return if isReversed then found.reverse else found

/-! ### Methods -/

def listTakings : List (Taking × List Text) := [
  (.nothing, words "clear copy reverse"),
  (.single, words "append count extend remove"),
  (.between 0 1, words "pop"),
  (.between 1 3, words "index"),
  (.between 2 2, words "insert")]

def placeOfValue (items : List Value) (arguments : List Value) : Act (Option Nat) := do
  let clip (v : Option Value) (instead : Nat) : Act Nat := do
    match v with
    | none => return instead
    | some v =>
      match ← index? v with
      | none => typeError "slice indices must be integers or have an __index__ method"
      | some n => return (max 0 (if n < 0 then n + items.length else n)).toNat
  let first ← clip arguments[1]? 0
  let last ← clip arguments[2]? items.length
  let found ← ((items.zipIdx.take last).drop first).findM? fun (item, _) =>
    isEqual item (argument arguments 0)
  return found.map Prod.snd

def listMethod (place : Nat) (items : Array Value) (name : Text) (arguments : List Value)
    (named : Named) : Act Value := do
  let full : Text := "list." ++ name
  checkCall (takingIn listTakings name) (name == "sort") full name arguments named
  let first := argument arguments 0
  let change (items : Array Value) : Act Value := do
    setBody place (.list items)
    return .nothing
  match String.ofList name with
  | "append" => do
    changeBody place fun body =>
      match body with
      | .list items => .list (items.push first)
      | other => other
    return .nothing
  | "clear" => change #[]
  | "copy" => newList items.toList
  | "reverse" => change items.reverse
  | "count" => return .integer (← items.toList.filterM fun item => isEqual item first).length
  | "extend" => do
    let more ← itemsOf first
    changeBody place fun body =>
      match body with
      | .list items => .list (items ++ more.toArray)
      | other => other
    return .nothing
  | "remove" => do
    match ← placeOfValue items.toList [first] with
    | some at_ => change (items.eraseIdx! at_)
    | none => valueError "list.remove(x): x not in list"
  | "pop" => do
    let n ← match arguments with
      | [] => pure (-1)
      | v :: _ => index v
    if items.isEmpty then fail "IndexError" "pop from empty list"
    else
      match placeOf n items.size with
      | none => fail "IndexError" "pop index out of range"
      | some at_ => do
        let found := items.getD at_ .nothing
        setBody place .plain
        setBody place (.list (if at_ + 1 == items.size then items.pop else items.eraseIdx! at_))
        return found
  | "index" => do
    match ← placeOfValue items.toList arguments with
    | some at_ => return .integer at_
    | none => valueError ((← shown first) ++ " is not in list")
  | "insert" => do
    let n ← index first
    let at_ := (max 0 (min (if n < 0 then n + items.size else n) items.size)).toNat
    change (items.insertIdx! at_ (argument arguments 1))
  | "sort" => do
    let slots ← parametersOf "sort" (parametric 0 "* key reverse") arguments named
    let isReversed ← truth (slotOr slots 1 (.truth false))
    let found ← sorted items.toList (slotOr slots 0 .nothing) isReversed
    change found.toArray
  | _ => noAttribute (.object place) name

def tupleMethod (items : List Value) (name : Text) (arguments : List Value) (named : Named) :
    Act Value := do
  let full : Text := "tuple." ++ name
  checkCall (takingIn listTakings name) false full name arguments named
  match String.ofList name with
  | "count" =>
    return .integer (← items.filterM fun item => isEqual item (argument arguments 0)).length
  | "index" => do
    match ← placeOfValue items arguments with
    | some at_ => return .integer at_
    | none => valueError "tuple.index(x): x not in tuple"
  | "__getnewargs__" => return .tuple [.tuple items]
  | _ => noAttribute (.tuple items) name

def rangeMethod (first stop step : Int) (name : Text) (arguments : List Value) (named : Named) :
    Act Value := do
  let full : Text := "range." ++ name
  checkCall .single false full name arguments named
  let v := argument arguments 0
  let isIn ← contains (.range first stop step) v
  match String.ofList name with
  | "count" => return .integer (if isIn then 1 else 0)
  | "index" =>
    match isIn, v.integer? with
    | true, some n => return .integer ((n - first) / step)
    | _, _ => valueError ((← shown v) ++ " is not in range")
  | _ => noAttribute (.range first stop step) name

/-! The methods of dictionaries, of what shows one side of them, and of sets. -/

def dictionaryTakings : List (Taking × List Text) := [
  (.nothing, words "clear copy items keys popitem values"),
  (.between 0 1, words "update"),
  (.between 1 2, words "fromkeys get pop setdefault")]

def putEntries (place : Nat) (entries : List (Value × Value)) : Act Unit :=
  entries.forM fun (key, item) => do
    let code ← codeIn (← dictionaryAt place) key
    changeDictionary place fun d => d.insert code key item

def entryOf (v : Value) (place : Nat) : Act (Value × Value) := do
  let items ← rescue "TypeError" (itemsOf v) fun _ =>
    typeError ("cannot convert dictionary update sequence element #" ++ decimal place ++
      " to a sequence")
  match items with
  | [key, item] => return (key, item)
  | _ =>
    valueError ("dictionary update sequence element #" ++ decimal place ++ " has length " ++
      decimal items.length ++ "; 2 is required")

def entriesOf (v : Value) : Act (List (Value × Value)) := do
  let isOwn : Bool ← match v with
    | .object place =>
      match (← objectAt place).body with
      | .dictionary _ => pure true
      | _ => pure false
    | _ => pure false
  if isOwn then
    match ← bodyOf v with
    | .dictionary d => return d.toList.map fun e => (e.key, e.item)
    | _ => return []
  else
    match ← readMember? v "keys" with
    | some keys => do
      let found ← call keys []
      let names ← match ← readyItems? found with
        | some names => pure names
        | none => do
          let it ← iteratorOr found fun kind =>
            return (← kindName v) ++ ".keys() returned a non-iterable (type " ++ kind ++ [')']
          rest it itemLimit #[]
      names.mapM fun name => return (name, ← item v name)
    | none => do
      let items ← itemsOf v
      items.zipIdx.mapM fun (entry, place) => entryOf entry place

def updateDictionary (place : Nat) (arguments : List Value) (named : Named) : Act Unit := do
  match arguments with
  | v :: _ => do putEntries place (← entriesOf v)
  | [] => pure ()
  putEntries place (named.map fun (name, v) => (.text name, v))

def dictionaryMethod (place : Nat) (name : Text) (arguments : List Value) (named : Named) :
    Act Value := do
  let full : Text := "dict." ++ name
  checkCall (takingIn dictionaryTakings name) (name == "update") full name arguments named
  let first := argument arguments 0
  match String.ofList name with
  | "clear" => do
    setBody place (.dictionary {})
    return .nothing
  | "copy" => newDictionary (← dictionaryAt place)
  | "keys" => make "dict_keys" (.view place .keys)
  | "values" => make "dict_values" (.view place .items)
  | "items" => make "dict_items" (.view place .pairs)
  | "get" => do
    let d ← dictionaryAt place
    return (d.get? (← codeIn d first)).getD (argument arguments 1)
  | "setdefault" => do
    let d ← dictionaryAt place
    let code ← codeIn d first
    match d.get? code with
    | some found => return found
    | none => do
      let instead := argument arguments 1
      changeDictionary place fun d => d.insert code first instead
      return instead
  | "pop" => do
    let d ← dictionaryAt place
    let code ← if d.isEmpty then pure "" else codeIn d first
    match d.get? code, arguments[1]? with
    | some found, _ => do
      changeDictionary place fun d => d.erase code
      return found
    | none, some instead => return instead
    | none, none => failWith "KeyError" [first]
  | "popitem" => do
    match (← dictionaryAt place).last? with
    | some e => do
      changeDictionary place fun d => d.erase e.code
      return .tuple [e.key, e.item]
    | none => failWith "KeyError" [.text "popitem(): dictionary is empty"]
  | "update" => do
    updateDictionary place arguments named
    return .nothing
  | _ => noAttribute (.object place) name

/-- A dictionary with the same item for several keys, in the class that it is asked of. -/
def fromKeys (kind : Value) (arguments : List Value) (named : Named) : Act Value := do
  checkCall (.between 1 2) false "dict.fromkeys" "fromkeys" arguments named
  let keys ← itemsOf (argument arguments 0)
  let instead := argument arguments 1
  match kind with
  | .kind _ => newDictionary (← dictionaryOf (keys.map fun key => (key, instead)))
  | _ => do
    let made ← call kind []
    keys.forM fun key => storeItem made key instead
    return made

def viewMethod (owner : Value) (source : Nat) (name : Text) (arguments : List Value) : Act Value := do
  match String.ofList name with
  | "isdisjoint" => do
    let others ← itemsOf (argument arguments 0)
    let found ← others.findM? fun v => contains owner v
    return .truth found.isNone
  | "mapping" => return .object source
  | _ => noAttribute owner name

/-! ### Sets -/

def setTakings : List (Taking × List Text) := [
  (.nothing, words "clear copy pop"),
  (.single, words <|
    "add discard isdisjoint issubset issuperset remove symmetric_difference " ++
    "symmetric_difference_update")]

def keysOf (v : Value) : Act Dictionary := do
  match ← bodyOf v with
  | .set d => return d
  | _ => do setOf (← itemsOf v)

def uniteWith (d : Dictionary) (v : Value) : Act Dictionary := do
  match ← bodyOf v with
  | .set other => return d.uniteKeys other
  | .dictionary other => (d.widened other.size |> other.keys.foldlM withKey)
  | _ => do (← itemsOf v).foldlM withKey d

def withoutThose (d : Dictionary) (v : Value) : Act Dictionary := do
  match ← bodyOf v with
  | .set other => return d.withoutKeys other
  | .dictionary other => return d.withoutKeys (← setOf other.keys)
  | _ => return d.copied.lessKeys (← keysOf v)

def sharedWith (d : Dictionary) (v : Value) : Act Dictionary := do
  match ← bodyOf v with
  | .set other => return d.sharedKeys other
  | _ => do
    let entries ← (← itemsOf v).mapM (keyEntry d)
    return Dictionary.ofKeys (entries.filter fun e => d.contains e.code)

/-- The code of a key in a set; a set is looked for as one that cannot change. -/
def codeInSet (d : Dictionary) (v : Value) : Act String :=
  rescue "TypeError" (codeIn d v) fun error => do
    match ← bodyOf v with
    | .set inner =>
      return joinCodes "z" (inner.toList.map Entry.code |>.mergeSort fun a b => a ≤ b)
    | _ => throw (.raised error)

def setMethod (owner : Value) (place : Nat) (d : Dictionary) (kind name : Text)
    (arguments : List Value) (named : Named) : Act Value := do
  let full : Text := kind ++ '.' :: name
  checkCall (takingIn setTakings name) false full name arguments named
  let first := argument arguments 0
  let change (d : Dictionary) : Act Value := do
    setBody place (.set d)
    return .nothing
  let made (d : Dictionary) : Act Value := make kind (.set d)
  let copied : Dictionary := d.copied
  let isOwn (v : Value) : Bool := v.isSame owner
  let sharing (d : Dictionary) (v : Value) : Act Dictionary :=
    if isOwn v then return d.copied else sharedWith d v
  match String.ofList name with
  | "add" => do
    let e ← keyEntry d first
    changeBody place fun body =>
      match body with
      | .set d => .set (d.addKey e)
      | other => other
    return .nothing
  | "clear" => change {}
  | "copy" => if kind == "frozenset" then return owner else made copied
  | "discard" => do
    let code ← codeInSet d first
    change (d.takeKey code)
  | "remove" => do
    let code ← codeInSet d first
    if d.contains code then change (d.takeKey code) else failWith "KeyError" [first]
  | "pop" =>
    match d.takeAny? with
    | some (e, d) => do
      setBody place (.set d)
      return e.key
    | none => failWith "KeyError" [.text "pop from an empty set"]
  | "union" => do made (← (arguments.filter fun v => !isOwn v).foldlM uniteWith d.copied)
  | "intersection" => do
    if arguments.isEmpty then made copied else made (← arguments.foldlM sharing d)
  | "difference" => do
    match arguments with
    | [] => made copied
    | v :: more => do
      let d ← withoutThose d v
      made (← more.foldlM (fun d v => return d.lessKeys (← keysOf v)) d)
  | "symmetric_difference" => do
    match ← bodyOf first with
    | .set other => made (d.separateKeys other)
    | _ => made ((← uniteWith {} first).toggleKeys d)
  | "update" => do change (← (arguments.filter fun v => !isOwn v).foldlM uniteWith d)
  | "intersection_update" => do change (← arguments.foldlM sharing d)
  | "difference_update" => do
    change (← arguments.foldlM (fun d v =>
      if isOwn v then return {} else return d.lessKeys (← keysOf v)) d)
  | "symmetric_difference_update" => do
    match ← bodyOf first with
    | .dictionary other => change (d.toggled (← other.keys.mapM (keyEntry d)))
    | .set other => if isOwn first then change {} else change (d.toggleKeys other)
    | _ => change (d.toggleKeys (← uniteWith {} first))
  | "isdisjoint" => do
    let other ← keysOf first
    return .truth (other.toList.all fun e => !d.contains e.code)
  | "issubset" => do
    let other ← keysOf first
    return .truth (d.toList.all fun e => other.contains e.code)
  | "issuperset" => do
    let other ← keysOf first
    return .truth (other.toList.all fun e => d.contains e.code)
  | _ => noAttribute owner name

end Forwarding.Script.Act
