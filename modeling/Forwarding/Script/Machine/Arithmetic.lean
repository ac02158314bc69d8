import Forwarding.Floating.Complex
import Forwarding.Floating.Digits
import Forwarding.Script.Machine.Format
import Forwarding.Whole

/-! The operators between numbers. Whole numbers are exact; a quotient of two is the nearest floating-point
number. -/

set_option autoImplicit false

namespace Forwarding.Script

open Text

/-- Numbers, by what is known of them. -/
inductive Numeral where
  | whole (n : Int)
  | real (x : Float)
  | complex (x y : Float)

def Value.numeral? : Value → Option Numeral
  | .integer n => some (.whole n)
  | .truth b => some (.whole (if b then 1 else 0))
  | .real x => some (.real x)
  | .complex x y => some (.complex x y)
  | _ => none

namespace Act

def noDivision {α : Type} (words : Text) : Act α := fail "ZeroDivisionError" words

def overflow {α : Type} (words : Text) : Act α := fail "OverflowError" words

def toFloating (n : Int) : Act Float :=
  let x := Floating.ofInteger n
  if Floating.isFinite x then return x else overflow "int too large to convert to float"

/-- The quotient of two whole numbers as the nearest floating-point number. -/
def quotient (a b : Int) : Act Value :=
  if b == 0 then noDivision "division by zero"
  else
    let x := Floating.ofRatio ((a < 0) != (b < 0)) a.natAbs b.natAbs
    if Floating.isFinite x then return .real x
    else overflow "integer division result too large for a float"

def shiftLimit : Int := 100000000

def floatingPower (x y : Float) : Act Value := do
  if x == 0.0 && y < 0.0 then noDivision "0.0 cannot be raised to a negative power"
  else if x < 0.0 && Floating.isFinite x && Floating.isFinite y && !Floating.isWhole y then
    match Floating.Complex.power? (x, 0.0) (y, 0.0) with
    | some (z, w) => return .complex z w
    | none => return .real Floating.undefined
  else
    let found := if y == 0.0 || x == 1.0 then 1.0 else Float.pow x y
    if Floating.isInfinite found && Floating.isFinite x && Floating.isFinite y then
      failWith "OverflowError" [.integer 34, .text "Numerical result out of range"]
    else return .real found

def powerLimit : Nat := 2 ^ 34

def wholePower (a : Int) (exponent : Nat) : Act Value := do
  if a.natAbs ≤ 1 then
    return .integer (if exponent == 0 then 1 else if a == -1 && exponent % 2 == 0 then 1 else a)
  else if powerLimit < Whole.bitLength a.natAbs * exponent then failWith "MemoryError" []
  else return .integer (a ^ exponent)

def wholeOperation (o : Operator) (a b : Int) : Act (Option Value) := do
  match o with
  | .add => return some (.integer (a + b))
  | .subtract => return some (.integer (a - b))
  | .multiply => return some (.integer (a * b))
  | .divide => return some (← quotient a b)
  | .divideDown =>
    if b == 0 then noDivision "integer division or modulo by zero"
    else return some (.integer (Int.fdiv a b))
  | .remainder =>
    if b == 0 then noDivision "integer modulo by zero" else return some (.integer (Int.fmod a b))
  | .power =>
    if 0 ≤ b then return some (← wholePower a b.toNat)
    else return some (← floatingPower (← toFloating a) (← toFloating b))
  | .shiftLeft =>
    if b < 0 then valueError "negative shift count"
    else if a == 0 then return some (.integer 0)
    else if shiftLimit < b then overflow "too many digits in integer"
    else return some (.integer (a * 2 ^ b.toNat))
  | .shiftRight =>
    if b < 0 then valueError "negative shift count"
    else if shiftLimit < b then return some (.integer (if a < 0 then -1 else 0))
    else return some (.integer (Int.fdiv a (2 ^ b.toNat)))
  | .conjoin => return some (.integer (Whole.conjunction a b))
  | .disjoin => return some (.integer (Whole.disjunction a b))
  | .exclude => return some (.integer (Whole.exclusion a b))
  | .multiplyMatrix => return none

def floatingOperation (o : Operator) (x y : Float) : Act (Option Value) := do
  match o with
  | .add => return some (.real (x + y))
  | .subtract => return some (.real (x - y))
  | .multiply => return some (.real (x * y))
  | .divide => if y == 0.0 then noDivision "float division by zero" else return some (.real (x / y))
  | .divideDown =>
    if y == 0.0 then noDivision "float floor division by zero"
    else return some (.real (Floating.quotientAndRest x y).1)
  | .remainder =>
    if y == 0.0 then noDivision "float modulo"
    else return some (.real (Floating.quotientAndRest x y).2)
  | .power => return some (← floatingPower x y)
  | _ => return none

def complexOperation (o : Operator) (a b : Float × Float) : Act (Option Value) := do
  let found (p : Float × Float) : Act (Option Value) := return some (.complex p.1 p.2)
  match o with
  | .add => found (a.1 + b.1, a.2 + b.2)
  | .subtract => found (a.1 - b.1, a.2 - b.2)
  | .multiply => found (Floating.Complex.times a b)
  | .divide =>
    match Floating.Complex.over? a b with
    | some p => found p
    | none => noDivision "complex division by zero"
  | .power =>
    match Floating.Complex.power? a b with
    | some p =>
      if Floating.isInfinite p.1 || Floating.isInfinite p.2 then overflow "complex exponentiation"
      else found p
    | none => noDivision "0.0 to a negative or complex power"
  | _ => return none

def numberOperation (o : Operator) (a b : Numeral) : Act (Option Value) := do
  match a, b with
  | .whole m, .whole n => wholeOperation o m n
  | .whole m, .real y => floatingWith o (fun x => (x, y)) m
  | .real x, .whole n => floatingWith o (fun y => (x, y)) n
  | .real x, .real y => floatingOperation o x y
  | _, _ => do complexOperation o (← pair a) (← pair b)
where
  floatingWith (o : Operator) (f : Float → Float × Float) (n : Int) : Act (Option Value) := do
    match o with
    | .add | .subtract | .multiply | .divide | .divideDown | .remainder | .power => do
      let (x, y) := f (← toFloating n)
      floatingOperation o x y
    | _ => return none
  pair (n : Numeral) : Act (Float × Float) := do
    match n with
    | .whole n => return (← toFloating n, 0.0)
    | .real x => return (x, 0.0)
    | .complex x y => return (x, y)

def powerModulo (a b m : Int) : Act Value := do
  if m == 0 then valueError "pow() 3rd argument cannot be 0"
  else
    let base? := if b < 0 then Whole.inverse? a m.natAbs else some (Int.emod a m.natAbs).toNat
    match base? with
    | none => valueError "base is not invertible for the given modulus"
    | some base =>
      let found : Int := Whole.powerModulo m.natAbs base b.natAbs
      return .integer (if m < 0 && found != 0 then found + m else found)

def signed? (s : Sign) (n : Numeral) : Option Value :=
  match s, n with
  | .plus, .whole n => some (.integer n)
  | .minus, .whole n => some (.integer (-n))
  | .complement, .whole n => some (.integer (Whole.complement n))
  | .plus, .real x => some (.real x)
  | .minus, .real x => some (.real (Floating.negate x))
  | .plus, .complex x y => some (.complex x y)
  | .minus, .complex x y => some (.complex (Floating.negate x) (Floating.negate y))
  | .complement, _ => none

end Act

end Forwarding.Script

/-! The operators that make a value of two others, or change the first of them.

A class of the script can say what an operator does; where neither side says anything, the operators of the
language apply.
-/

namespace Forwarding.Script.Act

open Text

def unsupported {α : Type} (mark : Text) (a b : Value) : Act α := do
  typeError ("unsupported operand type(s) for " ++ mark ++ ": '" ++ (← kindName a) ++ "' and '" ++
    (← kindName b) ++ ['\x27'])

def repetitions (length : Nat) (n : Int) : Act Nat := do
  if 2 ^ 63 ≤ n || n < -(2 ^ 63) then overflow "cannot fit 'int' into an index-sized integer"
  else if 200000000 < length * n.toNat then fail "MemoryError" []
  else return n.toNat

def repeated {α : Type} (items : List α) (count : Nat) : List α := (List.replicate count items).flatten

def timesSequence? (v other : Value) : Act (Option Value) := do
  let count (length : Nat) : Act Nat := do
    match ← index? other with
    | some n => repetitions length n
    | none => typeError ("can't multiply sequence by non-int of type '" ++ (← kindName other) ++ ['\x27'])
  match ← plain v with
  | .text t => return some (.text (repeated t (← count t.length)))
  | .bytes t => return some (.bytes (repeated t (← count t.length)))
  | .tuple items => return some (.tuple (repeated items (← count items.length)))
  | .object place =>
    match (← objectAt place).body with
    | .list items => return some (← newList (repeated items.toList (← count items.size)))
    | .bytes t => return some (← make "bytearray" (.bytes (repeated t (← count t.length))))
    | _ => return none
  | _ => return none

def bytes? (v : Value) : Act (Option Text) := do
  match ← plain v with
  | .bytes t => return some t
  | .object place =>
    match (← objectAt place).body with
    | .bytes t => return some t
    | _ => return none
  | _ => return none

def concatenated? (a b : Value) : Act (Option Value) := do
  let refuse (kind : Text) : Act (Option Value) := do
    typeError ("can only concatenate " ++ kind ++ " (not \"" ++ (← kindName b) ++ "\") to " ++ kind)
  match ← plain a with
  | .text s => do
    match ← plain b with
    | .text t => return some (.text (s ++ t))
    | _ => refuse "str"
  | .tuple items => do
    match ← plain b with
    | .tuple others => return some (.tuple (items ++ others))
    | _ => refuse "tuple"
  | .bytes s => do
    match ← bytes? b with
    | some t => return some (.bytes (s ++ t))
    | none => typeError ("can't concat " ++ (← kindName b) ++ " to bytes")
  | .object place =>
    match (← objectAt place).body with
    | .list items => do
      match ← bodyOf b with
      | .list others => return some (← newList (items ++ others).toList)
      | _ => refuse "list"
    | .bytes s => do
      match ← bytes? b with
      | some t => return some (← make "bytearray" (.bytes (s ++ t)))
      | none => typeError ("can't concat " ++ (← kindName b) ++ " to bytearray")
    | _ => return none
  | _ => return none

def setOperation? (o : Operator) (d e : Dictionary) (isSame : Bool) : Option Dictionary :=
  match o with
  | .conjoin => some (if isSame then d.copied else d.sharedKeys e)
  | .disjoin => some (if isSame then d.copied else d.copied.uniteKeys e)
  | .subtract => some (d.withoutKeys e)
  | .exclude => some (d.separateKeys e)
  | _ => none

def setChange? (o : Operator) (d e : Dictionary) (isSame : Bool) : Option Dictionary :=
  match o with
  | .disjoin => some (if isSame then d else d.uniteKeys e)
  | .subtract => some (if isSame then {} else d.lessKeys e)
  | .exclude => some (if isSame then {} else d.toggleKeys e)
  | _ => setOperation? o d e isSame

/-- What an operator makes of two values of which one is a view of a dictionary: a set of all that both give
when they are gone through. -/
def viewOperation? (o : Operator) (a b : Value) : Act (Option Value) := do
  let isView (v : Value) : Act Bool := do
    match ← bodyOf v with
    | .view _ .keys | .view _ .pairs => return true
    | _ => return false
  let found (d : Dictionary) : Act (Option Value) := return some (← make "set" (.set d))
  if !((← isView a) || (← isView b)) then return none
  else
    match o with
    | .subtract => do
      let d ← setOf (← itemsOf a)
      let e ← setOf (← itemsOf b)
      found (d.lessKeys e)
    | .disjoin => do
      let d ← setOf (← itemsOf a)
      found (d.uniteKeys (← setOf (← itemsOf b)))
    | .exclude => do
      let d ← setOf (← itemsOf a)
      let e ← setOf (← itemsOf b)
      found (d.toggleKeys e)
    | .conjoin => do
      let (v, other) := if ← isView a then (a, b) else (b, a)
      let d ← setOf (← itemsOf v)
      let e ← setOf (← itemsOf other)
      let isSet := (← kindOf other).isSame (.kind "set")
      let isSwapped := (isSet && d.size ≤ e.size) || ((← isView other) && d.size < e.size)
      let (inside, gone) := if isSwapped then (e, d) else (d, e)
      found ((gone.toList.filter fun entry => inside.contains entry.code).foldl Dictionary.addKey {})
    | _ => return none

def setKind (v : Value) : Act Text := do
  return if ← isOfKind v "frozenset" then "frozenset" else "set"

def isAlternative (v : Value) : Act Bool := do
  match v with
  | .nothing => return true
  | .object place => do
    match (← objectAt place).kind with
    | .kind ['U', 'n', 'i', 'o', 'n', 'T', 'y', 'p', 'e'] => return true
    | _ => isClass v
  | _ => isClass v

def alternatives (v : Value) : Act (List Value) := do
  match ← plain v with
  | .tuple kinds => return kinds
  | other => return [other]

/-- What an operator makes of two sets, dictionaries or classes. -/
def combination? (o : Operator) (a b : Value) : Act (Option Value) := do
  match ← setKeys? a, ← setKeys? b with
  | some d, some e => do
    match setOperation? o d e (a.isSame b) with
    | some found => return some (← make (← setKind a) (.set found))
    | none => return none
  | _, _ =>
    match o, ← bodyOf a, ← bodyOf b with
    | .disjoin, .dictionary d, .dictionary e =>
      let found := e.toList.foldl (fun d entry => d.insert entry.code entry.key entry.item) d
      return some (← newDictionary found)
    | .disjoin, _, _ => do
      if (← isAlternative a) && (← isAlternative b) && !(a.isNothing && b.isNothing) then
        let kinds := (← alternatives a) ++ (← alternatives b)
        let kinds := kinds.foldl (fun found k => if found.any k.isSame then found else found ++ [k]) []
        match kinds with
        | [only] => return some only
        | _ => return some (← make "UnionType" (.boxed (.tuple kinds)))
      else return none
    | _, _, _ => return none

def nativeOperation? (o : Operator) (a b : Value) : Act (Option Value) := do
  let x ← plain a
  let y ← plain b
  match x, y, o with
  | .truth p, .truth q, .conjoin => return some (.truth (p && q))
  | .truth p, .truth q, .disjoin => return some (.truth (p || q))
  | .truth p, .truth q, .exclude => return some (.truth (p != q))
  | _, _, _ =>
    match x.numeral?, y.numeral? with
    | some m, some n => numberOperation o m n
    | _, _ =>
      match o with
      | .add => concatenated? a b
      | .multiply => do
        match ← timesSequence? a b with
        | some found => return some found
        | none => timesSequence? b a
      | .remainder =>
        match x with
        | .text t => return some (.text (← filledPercent false t b))
        | .bytes t => return some (.bytes (← filledPercent true t b))
        | _ =>
          match ← bodyOf x with
          | .bytes t => return some (← make "bytearray" (.bytes (← filledPercent true t b)))
          | _ => return none
      | .conjoin | .disjoin | .subtract | .exclude => do
        match ← viewOperation? o a b with
        | some found => return some found
        | none => combination? o a b
      | _ => return none

def scriptedOperation? (o : Operator) (a b : Value) : Act (Option Value) := do
  let try_ (v other : Value) (name : Text) : Act (Option Value) := do
    match ← callSpecial? v name [other] with
    | some .inapplicable | none => return none
    | some found => return some found
  match a, b with
  | .object _, _ | _, .object _ => do
    let k ← kindOf a
    let l ← kindOf b
    let isSame := k.isSame l
    let isReflectedFirst ←
      if isSame then pure false
      else if ← isBelow l k then do
        match ← scripted? l o.reflectedName, ← scripted? k o.reflectedName with
        | some f, some g => pure !(f.isSame g)
        | some _, none => pure true
        | none, _ => pure false
      else pure false
    if isReflectedFirst then
      match ← try_ b a o.reflectedName with
      | some found => return some found
      | none => try_ a b o.methodName
    else
      match ← try_ a b o.methodName with
      | some found => return some found
      | none => if isSame then return none else try_ b a o.reflectedName
  | _, _ => return none

/-- What an operator makes of two values; errors show it by a mark. -/
def operateAs (mark : Text) (o : Operator) (a b : Value) : Act Value := do
  match ← scriptedOperation? o a b with
  | some found => return found
  | none =>
    match ← nativeOperation? o a b with
    | some found => return found
    | none => unsupported mark a b

def operate (o : Operator) (a b : Value) : Act Value :=
  match a, b with
  | .integer m, .integer n =>
    match o with
    | .add => return .integer (m + n)
    | .subtract => return .integer (m - n)
    | .multiply => return .integer (m * n)
    | _ => operateAs o.shownMark o a b
  | _, _ => operateAs o.shownMark o a b

def nativeChange? (o : Operator) (a b : Value) : Act (Option Value) := do
  match a with
  | .object place => do
    match (← objectAt place).body, o with
    | .list _, .add => do
      let more ← itemsOf b
      changeBody place fun body =>
        match body with
        | .list items => .list (items ++ more.toArray)
        | other => other
      return some a
    | .list items, .multiply => do
      match ← index? b with
      | some n => do
        let count ← repetitions items.size n
        setBody place (.list (repeated items.toList count).toArray)
        return some a
      | none => return none
    | .dictionary _, .disjoin => do
      match ← bodyOf b with
      | .dictionary e =>
        changeDictionary place fun d =>
          e.toList.foldl (fun d entry => d.insert entry.code entry.key entry.item) d
        return some a
      | _ => do
        let _ ← call (.method a "update") [b]
        return some a
    | .set d, _ => do
      if ← isOfKind a "frozenset" then return none
      else
        match ← setKeys? b with
        | some e =>
          match setChange? o d e (a.isSame b) with
          | some found => do
            setBody place (.set found)
            return some a
          | none => return none
        | none => return none
    | .bytes s, .add => do
      match ← bytes? b with
      | some t => do
        setBody place (.bytes (s ++ t))
        return some a
      | none => typeError ("can't concat " ++ (← kindName b) ++ " to bytearray")
    | .bytes s, .multiply => do
      match ← index? b with
      | some n => do
        setBody place (.bytes (repeated s (← repetitions s.length n)))
        return some a
      | none => return none
    | _, _ => return none
  | _ => return none

/-- Whether a value is a collection that cannot be repeated, so that it does not become the number of times
that another one is repeated either. -/
def isUnrepeatable (v : Value) : Act Bool := do
  match v with
  | .object place => do
    let o ← objectAt place
    match o.body, o.kind with
    | .dictionary _, _ | .set _, _ | .view _ _, _ => return true
    | .plain, .object _ => return true
    | _, _ => return false
  | _ => return false

def augment (o : Operator) (a b : Value) : Act Value := do
  let scripted : Option Value ← do
    match ← callSpecial? a o.changingName [b] with
    | some .inapplicable | none => pure none
    | some found => pure (some found)
  match scripted with
  | some found => return found
  | none =>
    match ← nativeChange? o a b with
    | some found => return found
    | none => do
      let mark := o.mark ++ ['=']
      if o == .multiply then
        if ← isUnrepeatable a then
          match ← scriptedOperation? o a b with
          | some found => return found
          | none => unsupported mark a b
        else operateAs mark o a b
      else operateAs mark o a b

def sign (s : Sign) (v : Value) : Act Value := do
  match ← callSpecial? v s.methodName [] with
  | some found => return found
  | none =>
    match ((← plain v).numeral?).bind (signed? s) with
    | some found => return found
    | none =>
      typeError ("bad operand type for unary " ++ [s.mark] ++ ": '" ++ (← kindName v) ++ ['\x27'])

end Forwarding.Script.Act
