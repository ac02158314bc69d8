import Forwarding.Script.Machine.Arithmetic

/-! Items of values and slices: reading, replacing and taking them away. -/

set_option autoImplicit false

namespace Forwarding.Script

open Text

def placeOf (index : Int) (length : Nat) : Option Nat :=
  let index := if index < 0 then index + length else index
  if 0 ≤ index && index < length then some index.toNat else none

/-- The bounds and the step of a slice. -/
structure Bounds where
  first : Int
  last : Int
  step : Int

def Bounds.of (start stop : Option Int) (step : Int) (length : Nat) : Bounds :=
  let size : Int := length
  let low : Int := if step < 0 then -1 else 0
  let high : Int := if step < 0 then size - 1 else size
  let clip (n : Int) : Int := max low (min high (if n < 0 then n + size else n))
  { first := (start.map clip).getD (if step < 0 then high else low)
    last := (stop.map clip).getD (if step < 0 then low else high)
    step }

def Bounds.count (b : Bounds) : Nat :=
  (if b.step < 0 then (b.first - b.last + (-b.step) - 1) / (-b.step)
    else (b.last - b.first + b.step - 1) / b.step).toNat

def Bounds.places (b : Bounds) : List Nat :=
  (List.range b.count).map fun (k : Nat) => (b.first + (k : Int) * b.step).toNat

def Bounds.items {α : Type} (b : Bounds) (items : Array α) : List α :=
  b.places.filterMap fun place => items[place]?

namespace Act

def bound (v : Value) : Act (Option Int) := do
  match v with
  | .nothing => return none
  | _ =>
    match ← index? v with
    | some n => return some n
    | none => typeError "slice indices must be integers or None or have an __index__ method"

def boundsOf (first stop step : Value) (length : Nat) : Act Bounds := do
  let step := (← bound step).getD 1
  if step == 0 then valueError "slice step cannot be zero"
  else
    let first ← bound first
    let stop ← bound stop
    return .of first stop step length

def indexWords (kind : Text) (index : Value) : Act Text := do
  let found ← kindName index
  return if kind == "str" then "string indices must be integers, not '" ++ found ++ ['\x27']
    else
      (if kind == "bytes" then ("byte" : Text) else kind) ++ " indices must be integers or slices, not " ++ found

def placeFor (kind : Text) (length : Nat) (index : Value) (words : Text) : Act Nat := do
  match ← index? index with
  | some n =>
    match placeOf n length with
    | some place => return place
    | none =>
      if 2 ^ 63 ≤ n.natAbs then fail "IndexError" "cannot fit 'int' into an index-sized integer"
      else fail "IndexError" words
  | none => typeError (← indexWords kind index)

def lookup (v : Value) (d : Dictionary) (key : Value) : Act Value := do
  match d.get? (← codeIn d key) with
  | some found => return found
  | none =>
    match ← callSpecial? v "__missing__" [key] with
    | some found => return found
    | none => failWith "KeyError" [key]

def nativeItem (v index : Value) : Act Value := do
  let kind ← kindName v
  match ← plain v with
  | .text t =>
    match index with
    | .slice a b c => do
      let items := t.toArray
      return .text ((← boundsOf a b c items.size).items items)
    | _ => do
      let place ← placeFor "str" t.length index "string index out of range"
      return .text (t[place]?).toList
  | .bytes t =>
    match index with
    | .slice a b c => do
      let items := t.toArray
      return .bytes ((← boundsOf a b c items.size).items items)
    | _ => do
      let place ← placeFor "bytes" t.length index "index out of range"
      return .integer ((t[place]?).getD ' ').toNat
  | .tuple items =>
    match index with
    | .slice a b c => do
      let items := items.toArray
      return .tuple ((← boundsOf a b c items.size).items items)
    | _ => do
      let place ← placeFor "tuple" items.length index "tuple index out of range"
      return items.getD place .nothing
  | .range first stop step => do
    let length := rangeLength first stop step
    match index with
    | .slice a b c => do
      let bounds ← boundsOf a b c length
      return .range (first + bounds.first * step) (first + bounds.last * step) (step * bounds.step)
    | _ => do
      let place ← placeFor "range" length index "range object index out of range"
      return .integer (first + place * step)
  | .object place => do
    match (← objectAt place).body with
    | .list items =>
      match index with
      | .slice a b c => do newList ((← boundsOf a b c items.size).items items)
      | _ => do
        let at_ ← placeFor "list" items.size index "list index out of range"
        return items.getD at_ .nothing
    | .dictionary d => lookup v d index
    | .bytes t =>
      match index with
      | .slice a b c => do
        let items := t.toArray
        make "bytearray" (.bytes ((← boundsOf a b c items.size).items items))
      | _ => do
        let at_ ← placeFor "bytearray" t.length index "bytearray index out of range"
        return .integer ((t[at_]?).getD ' ').toNat
    | .class_ c => do
      match ← member? v "__class_getitem__" with
      | some (.unbound _ _) => parametrised v index
      | some found => call (← tiedToClass found v) [index]
      | none => typeError ("type '" ++ c.name ++ "' is not subscriptable")
    | _ => typeError ("'" ++ kind ++ "' object is not subscriptable")
  | .kind k =>
    if (["list", "dict", "tuple", "set", "frozenset", "type", "enumerate"].any fun (word : String) =>
        k == word.toList) then parametrised v index
    else typeError ("type '" ++ k ++ "' is not subscriptable")
  | _ => typeError ("'" ++ kind ++ "' object is not subscriptable")
where
  parametrised (v index : Value) : Act Value :=
    make "GenericAlias" (.boxed (.tuple (v :: (match index with
      | .tuple items => items
      | other => [other]))))

def item (v index : Value) : Act Value := do
  match v with
  | .object place => do
    let o ← objectAt place
    match o.body, index with
    | .list items, .integer n =>
      match o.kind with
      | .kind _ =>
        match placeOf n items.size with
        | some at_ => return items.getD at_ .nothing
        | none => slow
      | _ => slow
    | _, _ => slow
  | _ => nativeItem v index
where
  slow : Act Value := do
    match ← callSpecial? v "__getitem__" [index] with
    | some found => return found
    | none => nativeItem v index

def assignable (x : Value) : Act (List Value) := do
  match ← readyItems? x with
  | some items => return items
  | none => do
    let it ← rescue "TypeError" (iterator x) fun _ => typeError "can only assign an iterable"
    rest it itemLimit #[]

def withSlice {α : Type} (items : Array α) (b : Bounds) (new : List α) : Act (Array α) := do
  if b.step == 1 then
    let first := b.first.toNat
    let last := max first b.last.toNat
    return items.extract 0 first ++ new.toArray ++ items.extract last items.size
  else if new.length != b.count then
    valueError ("attempt to assign sequence of size " ++ decimal new.length ++
      " to extended slice of size " ++ decimal b.count)
  else return (b.places.zip new).foldl (fun items (place, x) => items.set! place x) items

def withoutSlice {α : Type} (items : Array α) (b : Bounds) : Array α :=
  let places := b.places
  (items.toList.zipIdx.filter fun (_, place) => !places.contains place).map Prod.fst |>.toArray

def byteOf (v : Value) : Act Char := do
  let n ← index v
  if 0 ≤ n && n < 256 then return Char.ofNat n.toNat
  else valueError "byte must be in range(0, 256)"

def storeNativeItem (v index x : Value) : Act Unit := do
  match v with
  | .object place => do
    match (← objectAt place).body with
    | .list items =>
      match index with
      | .slice a b c => do
        let bounds ← boundsOf a b c items.size
        let new ← assignable x
        setBody place (.list (← withSlice items bounds new))
      | _ => do
        let at_ ← placeFor "list" items.size index "list assignment index out of range"
        changeBody place fun body =>
          match body with
          | .list items => .list (items.set! at_ x)
          | other => other
    | .dictionary d => do
      let code ← codeIn d index
      changeDictionary place fun d => d.insert code index x
    | .bytes t =>
      match index with
      | .slice a b c => do
        let items := t.toArray
        let bounds ← boundsOf a b c items.size
        let new ← match ← bytes? x with
          | some t => pure t
          | none => do (← itemsOf x).mapM byteOf
        setBody place (.bytes (← withSlice items bounds new).toList)
      | _ => do
        let at_ ← placeFor "bytearray" t.length index "bytearray index out of range"
        setBody place (.bytes (t.set at_ (← byteOf x)))
    | _ => refuse
  | _ => refuse
where
  refuse : Act Unit := do
    typeError ("'" ++ (← kindName v) ++ "' object does not support item assignment")

def storeItem (v index x : Value) : Act Unit := do
  match ← callSpecial? v "__setitem__" [index, x] with
  | some _ => return ()
  | none => storeNativeItem v index x

def eraseNativeItem (v index : Value) : Act Unit := do
  match v with
  | .object place => do
    match (← objectAt place).body with
    | .list items =>
      match index with
      | .slice a b c => do
        let bounds ← boundsOf a b c items.size
        setBody place (.list (withoutSlice items bounds))
      | _ => do
        let at_ ← placeFor "list" items.size index "list assignment index out of range"
        setBody place (.list (items.extract 0 at_ ++ items.extract (at_ + 1) items.size))
    | .dictionary d => do
      let code ← codeIn d index
      if d.contains code then changeDictionary place fun d => d.erase code
      else failWith "KeyError" [index]
    | .bytes t =>
      match index with
      | .slice a b c => do
        let items := t.toArray
        let bounds ← boundsOf a b c items.size
        setBody place (.bytes (withoutSlice items bounds).toList)
      | _ => do
        let at_ ← placeFor "bytearray" t.length index "bytearray index out of range"
        setBody place (.bytes (t.eraseIdx at_))
    | _ => refuse
  | _ => refuse
where
  /-- Sequences refuse a number in other words than they and all other values refuse what is no number. -/
  refuse : Act Unit := do
    let isSequence ← match v with
      | .text _ | .bytes _ | .tuple _ | .range _ _ _ => pure true
      | .object place =>
        match (← objectAt place).kind, (← objectAt place).body with
        | .object _, _ => pure true
        | _, .set _ | _, .view _ _ => pure true
        | _, _ => pure false
      | _ => pure false
    let isIndex := (← index? index).isSome
    let refusal : Text := if isSequence && isIndex then "doesn't" else "does not"
    typeError ("'" ++ (← kindName v) ++ "' object " ++ refusal ++ " support item deletion")

def eraseItem (v index : Value) : Act Unit := do
  match ← callSpecial? v "__delitem__" [index] with
  | some _ => return ()
  | none => eraseNativeItem v index

end Act

end Forwarding.Script
