import Forwarding.Script.Machine.Hash

/-! Truth, length, and comparing values. -/

set_option autoImplicit false

namespace Forwarding.Script.Act

open Text

def index? (v : Value) : Act (Option Int) := do
  match ← plain v with
  | .integer n => return some n
  | .truth b => return some (if b then 1 else 0)
  | other => do
    match ← callSpecial? other "__index__" [] with
    | some found =>
      match ← plain found with
      | .integer n => return some n
      | .truth b => return some (if b then 1 else 0)
      | _ => typeError ("__index__ returned non-int (type " ++ (← kindName found) ++ ")")
    | none => return none

def index (v : Value) : Act Int := do
  match ← index? v with
  | some n => return n
  | none => typeError ("'" ++ (← kindName v) ++ "' object cannot be interpreted as an integer")

def nativeSize? (v : Value) : Act (Option Nat) := do
  match ← plain v with
  | .text t | .bytes t => return some t.length
  | .tuple items => return some items.length
  | .range first stop step => return some (rangeLength first stop step)
  | .object place =>
    match (← objectAt place).body with
    | .list items => return some items.size
    | .dictionary d | .set d => return some d.size
    | .bytes t => return some t.length
    | .view source _ => return some (← dictionaryAt source).size
    | _ => return none
  | _ => return none

def size? (v : Value) : Act (Option Nat) := do
  match ← callSpecial? v "__len__" [] with
  | some found => do
    let n ← index found
    if n < 0 then valueError "__len__() should return >= 0" else return some n.toNat
  | none => nativeSize? v

def truth (v : Value) : Act Bool := do
  match v with
  | .nothing => return false
  | .truth b => return b
  | .integer n => return n != 0
  | .text t => return !t.isEmpty
  | .object _ => do
    match ← callSpecial? v "__bool__" [] with
    | some (.truth b) => return b
    | some other => typeError ("__bool__ should return bool, returned " ++ (← kindName other))
    | none => do
      match ← plain v with
      | .real x => return x != 0.0
      | .integer n => return n != 0
      | other => return ((← size? (if other.isSame v then v else other)).map (· != 0)).getD true
  | .real x => return x != 0.0
  | .complex x y => return x != 0.0 || y != 0.0
  | other => return ((← size? other).map (· != 0)).getD true

/-- How two numbers compare: none unless both are numbers with an order. -/
def compareNumbers? (a b : Value) : Option (Option Ordering) :=
  match a, b with
  | .real x, .real y =>
    some (if x == y then some .eq else if x < y then some .lt else if y < x then some .gt else none)
  | .real x, other => other.integer?.map fun n => Floating.compareInteger x n
  | other, .real y => other.integer?.map fun n => (Floating.compareInteger y n).map Ordering.swap
  | a, b =>
    match a.integer?, b.integer? with
    | some m, some n => some (some (compare m n))
    | _, _ => none

/-- A relation between two numbers, of which what is no number is in none but inequality. -/
def Order.holdsFor (o : Order) (found : Option Ordering) : Bool :=
  match found with
  | some found => o.holds found
  | none => o == .unequal

def compareTexts (s t : Text) : Ordering := if s == t then .eq else if le s t then .lt else .gt

/-- The parts of a number that may have an imaginary one. -/
def complex? (v : Value) : Option (Float × Float) :=
  match v with
  | .complex x y => some (x, y)
  | .real x => some (x, 0.0)
  | other => other.integer?.map fun n => (Floating.ofInteger n, 0.0)

/-- What the methods of the script say about two values in a relation, if they apply. -/
def scriptedComparison? (o : Order) (a b : Value) : Act (Option Value) := do
  let try_ (v other : Value) (o : Order) : Act (Option Value) := do
    match ← callSpecial? v o.methodName [other] with
    | some .inapplicable => return none
    | some found => return some found
    | none =>
      if o == .unequal then
        match ← callSpecial? v "__eq__" [other] with
        | some .inapplicable | none => return none
        | some found => return some (.truth !(← truth found))
      else return none
  match a, b with
  | .object _, _ | _, .object _ => do
    let k ← kindOf a
    let l ← kindOf b
    let isReflectedFirst := !k.isSame l && (← isBelow l k)
    if isReflectedFirst then
      match ← try_ b a o.reflected with
      | some found => return some found
      | none => try_ a b o
    else
      match ← try_ a b o with
      | some found => return some found
      | none => try_ b a o.reflected
  | _, _ => return none

def setKeys? (v : Value) : Act (Option Dictionary) := do
  match v with
  | .object place =>
    match (← objectAt place).body with
    | .set d => return some d
    | .view source .keys => return some (← setOf (← dictionaryAt source).keys)
    | .view source .pairs => return some (← setOf ((← dictionaryAt source).toList.map (sideOf .pairs)))
    | _ => return none
  | _ => return none

mutual

/-- What a relation between two values gives. The number bounds how deep they are. -/
def compareAt : Nat → Order → Value → Value → Act Value
  | 0, _, _, _ => tooDeep " in comparison"
  | depth + 1, o, a, b => do
    match ← scriptedComparison? o a b with
    | some found => return found
    | none =>
      match ← nativeComparison depth o (← plain a) (← plain b) with
      | some found => return .truth found
      | none =>
        match o with
        | .equal => return .truth (a.isSame b)
        | .unequal => return .truth !(a.isSame b)
        | _ =>
          typeError ("'" ++ o.mark ++ "' not supported between instances of '" ++ (← kindName a) ++
            "' and '" ++ (← kindName b) ++ ['\x27'])

/-- Whether a relation holds between two values, if the language has a meaning for it. -/
def nativeComparison : Nat → Order → Value → Value → Act (Option Bool)
  | 0, _, _, _ => tooDeep " in comparison"
  | depth + 1, o, a, b => do
    match compareNumbers? a b with
    | some found => return some (Order.holdsFor o found)
    | none =>
      match a, b with
      | .text s, .text t | .bytes s, .bytes t => return some (o.holds (compareTexts s t))
      | .tuple items, .tuple others => sequences depth o items others
      | .complex x y, other | other, .complex x y =>
        match complex? other, o with
        | some (z, w), .equal => return some (x == z && y == w)
        | some (z, w), .unequal => return some !(x == z && y == w)
        | _, _ => return none
      | .range f s t, .range g r u =>
        let n := rangeLength f s t
        let same := n == rangeLength g r u && (n == 0 || f == g && (n == 1 || t == u))
        match o with
        | .equal => return some same
        | .unequal => return some !same
        | _ => return none
      | .slice f s t, .slice g r u => sequences depth o [f, s, t] [g, r, u]
      | .method owner f, .method other g =>
        match o with
        | .equal => return some (owner.isSame other && f == g)
        | .unequal => return some !(owner.isSame other && f == g)
        | _ => return none
      | .object place, .object place2 => do
        match (← objectAt place).body, (← objectAt place2).body with
        | .list items, .list others => sequences depth o items.toList others.toList
        | .bytes s, .bytes t => return some (o.holds (compareTexts s t))
        | .dictionary d, .dictionary e =>
          match o with
          | .equal => return some (← dictionaries depth d e)
          | .unequal => return some !(← dictionaries depth d e)
          | _ => return none
        | .bound f v, .bound g w =>
          match o with
          | .equal => return some (f.isSame g && v.isSame w)
          | .unequal => return some !(f.isSame g && v.isSame w)
          | _ => return none
        | _, _ => do
          match ← setKeys? a, ← setKeys? b with
          | some d, some e => return some (sets o d e)
          | _, _ => return none
      | .object place, .bytes t => do
        match (← objectAt place).body with
        | .bytes s => return some (o.holds (compareTexts s t))
        | _ => return none
      | .bytes s, .object place => do
        match (← objectAt place).body with
        | .bytes t => return some (o.holds (compareTexts s t))
        | _ => return none
      | _, _ => return none

/-- The same for two sequences, where the first items that differ decide. -/
def sequences : Nat → Order → List Value → List Value → Act (Option Bool)
  | 0, _, _, _ => tooDeep " in comparison"
  | depth + 1, o, items, others => do
    if items.length != others.length && o == .equal then return some false
    else if items.length != others.length && o == .unequal then return some true
    else
      let pairs := items.zip others
      let first? ← pairs.findM? fun (a, b) => do
        if a.isSame b then return false
        else return !(← truth (← compareAt depth .equal a b))
      match first?, o with
      | none, _ => return some (o.holds (compare items.length others.length))
      | some _, .equal => return some false
      | some _, .unequal => return some true
      | some (a, b), _ => return some (← truth (← compareAt depth o a b))

/-- Whether two dictionaries have the same keys with equal values. -/
def dictionaries : Nat → Dictionary → Dictionary → Act Bool
  | 0, _, _ => tooDeep " in comparison"
  | depth + 1, d, e =>
    if d.size != e.size then return false
    else
      d.toList.allM fun entry => do
        match e.get? entry.code with
        | none => return false
        | some other =>
          if entry.item.isSame other then return true
          else truth (← compareAt depth .equal entry.item other)

def sets (o : Order) (d e : Dictionary) : Bool :=
  let within (d e : Dictionary) : Bool := d.toList.all fun entry => e.contains entry.code
  match o with
  | .equal => d.size == e.size && within d e
  | .unequal => !(d.size == e.size && within d e)
  | .less => d.size < e.size && within d e
  | .atMost => within d e
  | .greater => e.size < d.size && within e d
  | .atLeast => within e d

end

def compareBy (o : Order) (a b : Value) : Act Value := compareAt depthLimit o a b

def isEqual (a b : Value) : Act Bool := do
  if a.isSame b then return true else truth (← compareBy .equal a b)

def isOrdered (o : Order) (a b : Value) : Act Bool := do truth (← compareBy o a b)

def nativeContains (collection v : Value) : Act Bool := do
  match ← plain collection with
  | .text t => do
    match ← plain v with
    | .text part => return occurs part t
    | _ =>
      typeError ("'in <string>' requires string as left operand, not " ++ (← kindName v))
  | .bytes t => inBytes t
  | .range first stop step => do
    match v.integer? with
    | some n =>
      return (if 0 < step then first ≤ n && n < stop else stop < n && n ≤ first) &&
        (n - first) % step == 0
    | none => (rangeItems first stop step).anyM fun item => isEqual item v
  | .object place => do
    match (← objectAt place).body with
    | .list items => items.toList.anyM fun item => isEqual item v
    | .dictionary d => return d.contains (← codeIn d v)
    | .set d => do
      let found ← rescue "TypeError" (return some (← codeIn d v)) fun error => do
        match ← setKeys? v with
        | some inner =>
          return some (joinCodes "z" (inner.toList.map Entry.code |>.mergeSort fun a b => a ≤ b))
        | none => throw (.raised error)
      return (found.map d.contains).getD false
    | .view source .keys => do
      let d ← dictionaryAt source
      return d.contains (← codeIn d v)
    | .bytes t => inBytes t
    | _ => among place
  | .tuple items => items.anyM fun item => isEqual item v
  | other =>
    typeError ("argument of type '" ++ (← kindName other) ++ "' is not iterable")
where
  inBytes (t : Text) : Act Bool := do
    match ← bodyOf v, ← plain v with
    | .bytes part, _ | _, .bytes part => return occurs part t
    | _, other => do
      match ← index? other with
      | some n =>
        if 0 ≤ n && n < 256 then return t.contains (Char.ofNat n.toNat)
        else valueError "byte must be in range(0, 256)"
      | none => typeError ("a bytes-like object is required, not '" ++ (← kindName v) ++ ['\x27'])
  among (place : Nat) : Act Bool := do
    match ← readyItems? (.object place) with
    | some items => items.anyM fun item => isEqual item v
    | none => do
      let it ← rescue "TypeError" (iterator collection) fun _ => do
        typeError ("argument of type '" ++ (← kindName collection) ++ "' is not iterable")
      search it itemLimit
  search (it : Value) : Nat → Act Bool
    | 0 => return false
    | count + 1 => do
      match ← next? it with
      | none => return false
      | some item => if ← isEqual item v then return true else search it count

def contains (collection v : Value) : Act Bool := do
  match ← callSpecial? collection "__contains__" [v] with
  | some found => truth found
  | none => nativeContains collection v

end Forwarding.Script.Act
