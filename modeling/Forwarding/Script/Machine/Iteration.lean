import Forwarding.Script.Machine.Attribute

/-! Going through the items of values. -/

set_option autoImplicit false

namespace Forwarding.Script.Act

open Text

def depthLimit : Nat := 1000

def itemLimit : Nat := 100000000

def tooDeep {α : Type} (place : Text := []) : Act α :=
  fail "RecursionError" ("maximum recursion depth exceeded" ++ place)

def rangeLength (first stop step : Int) : Nat :=
  if step < 0 then ((first - stop + (-step) - 1) / (-step)).toNat
  else ((stop - first + step - 1) / step).toNat

def rangeItems (first stop step : Int) : List Value :=
  (List.range (rangeLength first stop step)).map fun (k : Nat) => .integer (first + k * step)

def entryIterator (place : Nat) (d : Dictionary) (side : Side) : Act Value :=
  let kind : String := match side with
    | .keys => "dict_keyiterator"
    | .items => "dict_valueiterator"
    | .pairs => "dict_itemiterator"
  newIterator kind.toList (.entries place 0 d.size side)

def notIterable {α : Type} (v : Value) : Act α := do
  typeError ("'" ++ (← kindName v) ++ "' object is not iterable")

def isIterator (v : Value) : Act Bool := do
  match v with
  | .object place =>
    match (← objectAt place).body with
    | .iterator _ => return true
    | .generator _ => do
      let kind ← kindName v
      return kind != "coroutine" && kind != "async_generator"
    | _ => return (← special? v "__next__").isSome
  | _ => return false

/-- The iterator of a value, whatever its class of the script says; none if it has none. The number bounds
how deep a value is kept in others. -/
def nativeIterator? : Nat → Value → Act (Option Value)
  | 0, _ => return none
  | depth + 1, v => do
    match v with
    | .text t =>
      let kind : String := if t.all fun c => c.toNat < 128 then "str_ascii_iterator" else "str_iterator"
      return some (← iteratorOver (t.map fun c => .text [c]) kind.toList)
    | .bytes t => return some (← iteratorOver (t.map fun c => .integer c.toNat) "bytes_iterator")
    | .tuple items => return some (← iteratorOver items "tuple_iterator")
    | .range first stop step =>
      return some (← newIterator "range_iterator" (.counting first stop step))
    | .object place =>
      match (← objectAt place).body with
      | .list _ => return some (← newIterator "list_iterator" (.list place 0))
      | .dictionary d => return some (← entryIterator place d .keys)
      | .set d => return some (← newIterator "set_iterator" (.members place 0 d.size))
      | .boxed inside => nativeIterator? depth inside
      | .bytes t => return some (← iteratorOver (t.map fun c => .integer c.toNat) "bytearray_iterator")
      | .iterator _ => return some v
      | .generator _ =>
        let kind ← kindName v
        return if kind == "coroutine" || kind == "async_generator" then none else some v
      | .view source side => return some (← entryIterator source (← dictionaryAt source) side)
      | _ => return none
    | _ => return none

def iterator (v : Value) : Act Value := do
  match ← special? v "__iter__" with
  | some .nothing => notIterable v
  | some f => do
    let found ← call f []
    if ← isIterator found then return found
    else typeError ("iter() returned non-iterator of type '" ++ (← kindName found) ++ ['\x27'])
  | none =>
    match ← nativeIterator? 4 v with
    | some found => return found
    | none => do
      match ← special? v "__getitem__" with
      | some _ => newIterator "iterator" (.indexed v 0)
      | none => notIterable v

/-- The iterator of a value; one that has none is told so in words of its own about its class. -/
def iteratorOr (v : Value) (words : Text → Act Text) : Act Value := do
  if (← special? v "__iter__").isSome || (← special? v "__getitem__").isSome then iterator v
  else
    match ← nativeIterator? 4 v with
    | some found => return found
    | none => typeError (← words (← kindName v))

def stopValue (error : Value) : Act Value := do
  match ← bodyOf error with
  | .error (v :: _) _ _ _ => return v
  | _ => return .nothing

def sideOf (side : Side) (e : Entry) : Value :=
  match side with
  | .keys => e.key
  | .items => e.item
  | .pairs => .tuple [e.key, e.item]

def nextsBy (next : Value → Act (Option Value)) : List Value → Act (Except Nat (List Value))
  | [] => return .ok []
  | source :: more => do
    match ← next source with
    | none => return .error 0
    | some v => do
      match ← nextsBy next more with
      | .ok items => return .ok (v :: items)
      | .error index => return .error (index + 1)

def longerBy (next : Value → Act (Option Value)) : Nat → List Value → Act (Option Nat)
  | _, [] => return none
  | index, source :: more => do
    match ← next source with
    | some _ => return some index
    | none => longerBy next (index + 1) more

def nextPassing (next : Act (Option Value)) (f : Value) : Nat → Act (Option Value)
  | 0 => return none
  | count + 1 => do
    match ← next with
    | none => return none
    | some v => do
      let test ← if f.isNothing then pure v else call f [v]
      if (← callBuiltin "operator.truth" [test]) matches .truth true then return some v
      else nextPassing next f count

mutual

/-- The next value of an iterator, none at its end. The number bounds how deep iterators are kept in each
other. -/
def nextAt : Nat → Value → Act (Option Value)
  | 0, _ => tooDeep
  | depth + 1, v => do
    match v with
    | .object place =>
      match (← objectAt place).body with
      | .iterator i => stepAt depth place i
      | .generator _ => do
        let kind ← kindName v
        if kind == "coroutine" || kind == "async_generator" then
          typeError ("'" ++ kind ++ "' object is not an iterator")
        rescue "StopIteration" (return some (← perform (.resume place (.giving .nothing)))) fun _ =>
          return none
      | _ => do
        match ← special? v "__next__" with
        | some f => rescue "StopIteration" (return some (← call f [])) fun _ => return none
        | none => typeError ("'" ++ (← kindName v) ++ "' object is not an iterator")
    | _ => typeError ("'" ++ (← kindName v) ++ "' object is not an iterator")

/-- What an iterator gives next; how far it has got is kept at its place. -/
def stepAt : Nat → Nat → Iterator → Act (Option Value)
  | 0, _, _ => tooDeep
  | depth + 1, place, i => do
    let go (i : Iterator) : Act Unit := setBody place (.iterator i)
    match i with
    | .finished => return none
    | .items [] => do
      go .finished
      return none
    | .items (v :: more) => do
      go (.items more)
      return some v
    | .list source index => do
      match (← objectAt source).body with
      | .list items =>
        match items[index]? with
        | some v => do
          go (.list source (index + 1))
          return some v
        | none => do
          go .finished
          return none
      | _ => return none
    | .listBackward source count => do
      match (← objectAt source).body, count with
      | .list items, index + 1 =>
        match items[index]? with
        | some v => do
          go (.listBackward source index)
          return some v
        | none => do
          go .finished
          return none
      | _, _ => do
        go .finished
        return none
    | .entries source index size side => do
      let d ← dictionaryAt source
      if d.size != size then
        go (.entries source index (size + 1000000000) side)
        fail "RuntimeError" "dictionary changed size during iteration"
      else
        match d.from? index with
        | some (e, next) => do
          go (.entries source next size side)
          return some (sideOf side e)
        | none => do
          go .finished
          return none
    | .entriesBackward source index size side => do
      let d ← dictionaryAt source
      if d.size != size then fail "RuntimeError" "dictionary changed size during iteration"
      else
        match d.below? index with
        | some (e, next) => do
          go (.entriesBackward source next size side)
          return some (sideOf side e)
        | none => do
          go .finished
          return none
    | .members source index size => do
      match (← objectAt source).body with
      | .set d =>
        if d.size != size then do
          go (.members source index (size + 1000000000))
          fail "RuntimeError" "Set changed size during iteration"
        else
          match d.from? index with
          | some (e, next) => do
            go (.members source next size)
            return some e.key
          | none => do
            go .finished
            return none
      | _ => return none
    | .counting n stop step =>
      if (0 < step && n < stop) || (step < 0 && stop < n) then do
        go (.counting (n + step) stop step)
        return some (.integer n)
      else do
        go .finished
        return none
    | .zip sources isStrict =>
      if sources.isEmpty then return none
      else do
        match ← nextsBy (nextAt depth) sources with
        | .ok items => return some (.tuple items)
        | .error index =>
          if isStrict then
            let behind (k : Nat) : Text :=
              if k == 1 then "argument 1" else "arguments 1-" ++ decimal k
            if 0 < index then
              valueError ("zip() argument " ++ decimal (index + 1) ++ " is shorter than " ++ behind index)
            else
              match ← longerBy (nextAt depth) 1 (sources.drop 1) with
              | some k =>
                valueError ("zip() argument " ++ decimal (k + 1) ++ " is longer than " ++ behind k)
              | none => return none
          else return none
    | .map f sources => do
      match ← nextsBy (nextAt depth) sources with
      | .ok items => return some (← call f items)
      | .error _ => return none
    | .filter f source => nextPassing (nextAt depth source) f itemLimit
    | .enumerate source index => do
      match ← nextAt depth source with
      | some v => do
        go (.enumerate source (index + 1))
        return some (.tuple [.integer index, v])
      | none => return none
    | .calling f last => do
      let found ← rescue "StopIteration" (return some (← call f [])) fun _ => return none
      match found with
      | none => do
        go .finished
        return none
      | some v =>
        if (← callBuiltin "operator.eq" [v, last]) matches .truth true then do
          go .finished
          return none
        else return some v
    | .indexed owner index => do
      let found ← rescue "IndexError"
        (rescue "StopIteration" (return some (← callBuiltin "operator.getitem" [owner, .integer index]))
          fun _ => return none) fun _ => return none
      match found with
      | some v => do
        go (.indexed owner (index + 1))
        return some v
      | none => do
        go .finished
        return none
    | .indexedBackward owner index =>
      if index < 0 then do
        go .finished
        return none
      else do
        go (.indexedBackward owner (index - 1))
        return some (← callBuiltin "operator.getitem" [owner, .integer index])

end

def next? (v : Value) : Act (Option Value) := nextAt depthLimit v

def rest (iterator : Value) : Nat → Array Value → Act (List Value)
  | 0, _ => fail "MemoryError" []
  | count + 1, found => do
    match ← next? iterator with
    | some v => rest iterator count (found.push v)
    | none => return found.toList

def readyItems? (v : Value) : Act (Option (List Value)) := do
  match v with
  | .text t => return some (t.map fun c => .text [c])
  | .bytes t => return some (t.map fun c => .integer c.toNat)
  | .tuple items => return some items
  | .range first stop step => return some (rangeItems first stop step)
  | .object place => do
    let o ← objectAt place
    match o.kind with
    | .kind _ =>
      match o.body with
      | .list items => return some items.toList
      | .dictionary d => return some d.keys
      | .set d => return some d.keys
      | _ => return none
    | _ => return none
  | _ => return none

def itemsOf (v : Value) : Act (List Value) := do
  match ← readyItems? v with
  | some items => return items
  | none => rest (← iterator v) itemLimit #[]

end Forwarding.Script.Act
