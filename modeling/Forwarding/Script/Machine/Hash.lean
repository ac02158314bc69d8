import Forwarding.Script.Machine.Constant
import Forwarding.Script.Machine.Dictionary
import Forwarding.Script.Machine.Iteration

/-! Values as keys: two values are the same key if they are equal.

A key has a code, so that equal values have one code. Numbers are equal whatever their class. A value whose
class says itself what it is equal to is compared with the keys that have the same number.
-/

set_option autoImplicit false

namespace Forwarding.Script

open Text

namespace Hash

def modulus : Nat := 2 ^ 61 - 1

def spared (n : Int) : Int := if n == -1 then -2 else n

def ofInteger (n : Int) : Int :=
  let size : Int := (n.natAbs % modulus : Nat)
  spared (if n < 0 then -size else size)

def powerModulo (base : Nat) (modulus : Nat) : Nat → Nat → Nat
  | 0, _ => 1 % modulus
  | fuel + 1, exponent =>
    if exponent == 0 then 1 % modulus
    else
      let half := powerModulo (base * base % modulus) modulus fuel (exponent / 2)
      if exponent % 2 == 1 then base * half % modulus else half

def ofFloating (x : Float) : Int :=
  match Floating.parts? x with
  | none => if x == Floating.infinity then 314159 else if x == Floating.negativeInfinity then -314159 else 0
  | some p =>
    let power : Nat := (p.exponent % 61).toNat
    let size : Int := (p.mantissa * 2 ^ power % modulus : Nat)
    spared (if p.isNegative then -size else size)

def word : Nat := 2 ^ 64

def unsigned (n : Int) : Nat := (n % (word : Int)).toNat

def signed (n : Nat) : Int := if n < 2 ^ 63 then n else (n : Int) - (word : Int)

def ofTuple (hashes : List Int) : Int :=
  let first := 11400714785074694791
  let second := 14029467366897019727
  let last := 2870177450012600261
  let found := hashes.foldl (fun found h =>
    let sum := (found + unsigned h * second) % word
    let turned := (sum * 2 ^ 31 + sum / 2 ^ 33) % word
    turned * first % word) last
  let found := (found + Nat.xor hashes.length (Nat.xor last 3527539)) % word
  if found == word - 1 then 1546275796 else signed found

def ofSet (hashes : List Int) : Int :=
  let shuffled (n : Nat) : Nat := Nat.xor (Nat.xor n 89869747) (n * 2 ^ 16 % word) * 3644798167 % word
  let found := hashes.foldl (fun found h => Nat.xor found (shuffled (unsigned h))) 0
  let found := Nat.xor found ((hashes.length + 1) * 1927868237 % word)
  let found := Nat.xor found (Nat.xor (found / 2 ^ 11) (found / 2 ^ 25))
  let found := (found * 69069 + 907133923) % word
  if found == word - 1 then 590923713 else signed found

def ofText (t : Text) : Int :=
  signed (t.foldl (fun found c => (found * 1000003 + c.toNat * 8191 + 97) % word) 5381)

end Hash

namespace Act

def unhashable {α : Type} (v : Value) : Act α := do
  typeError ("unhashable type: '" ++ (← kindName v) ++ ['\x27'])

def joinCodes (mark : String) (codes : List String) : String :=
  codes.foldl (fun found c => found ++ toString c.length ++ ":" ++ c) mark

/-- The code of a value as a key; none for one whose class says itself what it is equal to. -/
def codeAt? : Nat → Value → Act (Option String)
  | 0, _ => tooDeep
  | depth + 1, v => do
    match v with
    | .inapplicable => return some "a"
    | .subject => return some "s"
    | .tuple items => do
      let codes ← items.mapM (codeAt? depth)
      return (codes.mapM id).map (joinCodes "(")
    | .range first stop step =>
      return some (joinCodes "g" [toString (rangeLength first stop step), toString first, toString step])
    | .slice _ _ _ => unhashable v
    | .nothing | .ellipsis | .truth _ | .integer _ | .real _ | .complex _ _ | .text _ | .bytes _ =>
      return v.constantCode?
    | .forwarding f => return some ("f" ++ String.ofList f.symbol)
    | .kind k => return some ("k" ++ String.ofList k)
    | .builtin f => return some ("l" ++ String.ofList f)
    | .unbound k f => return some ("u" ++ String.ofList k ++ "." ++ String.ofList f)
    | .method owner f => do
      match owner with
      | .object place => return some ("m" ++ toString place ++ "." ++ String.ofList f)
      | other => return (← codeAt? depth other).map fun code => "m" ++ code ++ "." ++ String.ofList f
    | .object place => do
      match ← special? v "__hash__" with
      | some .nothing => unhashable v
      | some _ => return none
      | none =>
        match (← objectAt place).body with
        | .list _ | .dictionary _ | .bytes _ | .view _ .keys | .view _ .pairs => unhashable v
        | .set d => do
          if ← isOfKind v "frozenset" then
            return some (joinCodes "z" (d.toList.map Entry.code |>.mergeSort fun a b => a ≤ b))
          else unhashable v
        | .boxed inside => codeAt? depth inside
        | .bound (.object f) (.object owner) => return some ("w" ++ toString f ++ "." ++ toString owner)
        | _ => return some ("o" ++ toString place)

def hashAt : Nat → Value → Act Int
  | 0, _ => tooDeep
  | depth + 1, v => do
    match v with
    | .truth b => return if b then 1 else 0
    | .integer n => return Hash.ofInteger n
    | .real x => return Hash.ofFloating x
    | .complex x y =>
      return Hash.spared (Hash.signed (Hash.unsigned (Hash.ofFloating x + 1000003 * Hash.ofFloating y)))
    | .tuple items => return Hash.ofTuple (← items.mapM (hashAt depth))
    | .range first stop step => do
      let length := rangeLength first stop step
      let parts : List Value := [.integer length,
        if length == 0 then .nothing else .integer first, if length < 2 then .nothing else .integer step]
      return Hash.ofTuple (← parts.mapM (hashAt depth))
    | .object place => do
      match ← special? v "__hash__" with
      | some .nothing => unhashable v
      | some f => do
        match ← plain (← call f []) with
        | .integer n =>
          if n == -1 then return -2
          else return if -2 ^ 63 ≤ n && n < 2 ^ 63 then n else Hash.ofInteger n
        | .truth b => return if b then 1 else 0
        | _ => typeError "__hash__ method should return an integer"
      | none =>
        match (← objectAt place).body with
        | .boxed inside => hashAt depth inside
        | .set d => do
          if ← isOfKind v "frozenset" then
            let hashes ← d.toList.mapM fun e => hashAt depth e.key
            return Hash.ofSet hashes
          else unhashable v
        | _ => do
          match ← codeAt? depth v with
          | some code => return Hash.ofText code.toList
          | none => return place
    | _ => do
      match ← codeAt? depth v with
      | some code => return Hash.ofText code.toList
      | none => return 0

def hash (v : Value) : Act Int := hashAt depthLimit v

/-- The code of the key of a dictionary that is equal to a value, or else one that no key has. -/
def probe (d : Dictionary) (v : Value) (start : String) : Nat → Nat → Act String
  | 0, turn => return start ++ toString turn
  | count + 1, turn => do
    let code := start ++ toString turn
    match d.entry? code with
    | none => return code
    | some e =>
      if e.key.isSame v then return code
      else if (← callBuiltin "operator.eq" [e.key, v]) matches .truth true then return code
      else probe d v start count (turn + 1)

def codeIn (d : Dictionary) (v : Value) : Act String := do
  match v with
  | .text t => return Dictionary.textCode t
  | .integer n => return "i" ++ toString n
  | _ => do
    match ← codeAt? depthLimit v with
    | some code => return code
    | none => probe d v ("h" ++ toString (← hash v) ++ ":") (d.size + 1) 0

def withEntry (d : Dictionary) (key item : Value) : Act Dictionary := do
  let code ← codeIn d key
  return d.insert code key item

def dictionaryOf (entries : List (Value × Value)) : Act Dictionary :=
  entries.foldlM (fun d (key, item) => withEntry d key item) {}

def keyEntry (d : Dictionary) (v : Value) : Act Entry := do
  return ⟨← codeIn d v, v, .integer (← hash v)⟩

def withKey (d : Dictionary) (v : Value) : Act Dictionary := return d.addKey (← keyEntry d v)

def setOf (items : List Value) : Act Dictionary := items.foldlM withKey {}

end Act

end Forwarding.Script
