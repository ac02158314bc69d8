import Forwarding.Script.Machine.Comparison
import Forwarding.Script.Machine.Constant

/-! Values as text: as they are written in a script, and as they are printed. -/

set_option autoImplicit false

namespace Forwarding.Script

open Text

def digitLimit : Nat := 4300

def asciiOnly (t : Text) : Text :=
  t.flatMap fun c =>
    if c.toNat < 128 then [c]
    else if c.toNat < 0x100 then "\\x" ++ hexadecimal 2 c.toNat
    else if c.toNat < 0x10000 then "\\u" ++ hexadecimal 4 c.toNat
    else "\\U" ++ hexadecimal 8 c.toNat

namespace Act

def addressText (place : Nat) : Text :=
  "0x" ++ hexadecimal 12 (0x7F0000000000 + 16 * place)

def fullName (kind : Value) : Act Text := do
  match kind with
  | .kind name => return name
  | .object place =>
    match (← objectAt place).body with
    | .class_ c => do
      match ← field? place "__module__" with
      | some (.text m) => return if m == "builtins" then c.path else m ++ ['.'] ++ c.path
      | _ => return c.path
    | _ => return []
  | _ => return []

def digitsOf (n : Int) : Act Text := do
  let t := integerText n
  if digitLimit + 1 < t.length || (digitLimit < t.length && 0 ≤ n) then
    valueError "Exceeds the limit (4300 digits) for integer string conversion"
  else return t

def textResult (v : Value) (method : Text) : Act Text := do
  match ← plain v with
  | .text t => return t
  | _ => typeError (method ++ " returned non-string (type " ++ (← kindName v) ++ ")")

mutual

/-- A value as it is written in a script. The first number bounds how deep it is; the places are those of
the objects around. -/
def shownAt : Nat → List Nat → Value → Act Text
  | 0, _, _ => tooDeep " while getting the repr of an object"
  | depth + 1, around, v => do
    match v with
    | .nothing => return "None"
    | .ellipsis => return "Ellipsis"
    | .inapplicable => return "NotImplemented"
    | .truth b => return if b then "True" else "False"
    | .integer n => digitsOf n
    | .real x => return Floating.shown x
    | .complex x y => return complexText x y
    | .text t => return quoted t
    | .bytes t => return quotedBytes t
    | .tuple [item] => return ['('] ++ (← shownAt depth around item) ++ [',', ')']
    | .tuple items =>
      return ['('] ++ join ", " (← items.mapM (shownAt depth around)) ++ [')']
    | .range first stop step =>
      return "range(" ++ integerText first ++ ", " ++ integerText stop ++
        (if step == 1 then [')'] else ", " ++ integerText step ++ [')'])
    | .slice first stop step =>
      return "slice(" ++ join ", " (← [first, stop, step].mapM (shownAt depth around)) ++ [')']
    | .subject => return "<subject>"
    | .forwarding f => return "<function " ++ f.symbol ++ " at " ++ addressText 0 ++ ['>']
    | .kind name => return "<class '" ++ name ++ "'>"
    | .builtin name => return "<built-in function " ++ afterDot name ++ ['>']
    | .method owner name =>
      return "<built-in method " ++ name ++ " of " ++ (← kindName owner) ++ " object at " ++
        addressText 0 ++ ['>']
    | .unbound kind name =>
      if Kind.isOperation kind name then
        return "<slot wrapper '" ++ name ++ "' of '" ++ kind ++ "' objects>"
      else return "<method '" ++ name ++ "' of '" ++ kind ++ "' objects>"
    | .object place => do
      match ← special? v "__repr__" with
      | some f => textResult (← call f []) "__repr__"
      | none => objectText depth around place

def objectText : Nat → List Nat → Nat → Act Text
  | 0, _, _ => tooDeep " while getting the repr of an object"
  | depth + 1, around, place => do
    let o ← objectAt place
    let isInside := around.contains place
    let around := place :: around
    let object : Act Text := return "<" ++ (← fullName o.kind) ++ " object at " ++ addressText place ++ ['>']
    match o.body with
    | .list items =>
      if isInside then return "[...]"
      else return ['['] ++ join ", " (← items.toList.mapM (shownAt depth around)) ++ [']']
    | .dictionary d =>
      if isInside then return "\x7b...\x7d"
      else
        let entries ← d.toList.mapM fun e => do
          return (← shownAt depth around e.key) ++ [':', ' '] ++ (← shownAt depth around e.item)
        return ['\x7b'] ++ join ", " entries ++ ['\x7d']
    | .set d => do
      let name ← className o.kind
      if isInside then return name ++ "(...)"
      else if d.isEmpty then return name ++ "()"
      else
        let items ← d.toList.mapM fun e => shownAt depth around e.key
        let inner := ['\x7b'] ++ join ", " items ++ ['\x7d']
        return if name == "set" then inner else name ++ ['('] ++ inner ++ [')']
    | .boxed inside =>
      match o.kind, inside with
      | .kind ['U', 'n', 'i', 'o', 'n', 'T', 'y', 'p', 'e'], .tuple kinds => do
        return join " | " (← kinds.mapM fun k => do
          if k.isNothing then return "None" else if ← isClass k then fullName k else shownAt depth around k)
      | .kind ['G', 'e', 'n', 'e', 'r', 'i', 'c', 'A', 'l', 'i', 'a', 's'], .tuple (origin :: parts) => do
        let named (v : Value) : Act Text := do
          if v matches .ellipsis then return "..."
          else if ← isClass v then fullName v
          else shownAt depth around v
        let parts ← parts.mapM named
        return (← named origin) ++ ['['] ++ (if parts.isEmpty then "()".toList else join ", " parts) ++ [']']
      | _, _ => shownAt depth around inside
    | .bytes t => return "bytearray(" ++ quotedBytes t ++ ")"
    | .error arguments _ _ _ =>
      return afterDot (← className o.kind) ++ ['('] ++
        join ", " (← arguments.mapM (shownAt depth around)) ++ [')']
    | .class_ _ => return "<class '" ++ (← fullName (.object place)) ++ "'>"
    | .routine r => return "<function " ++ r.template.path ++ " at " ++ addressText place ++ ['>']
    | .bound f owner => do
      let name ← match ← plainAttribute? f "__qualname__" with
        | some (.text t) => pure t
        | _ => pure ['?']
      return "<bound method " ++ name ++ " of " ++ (← shownAt depth around owner) ++ ['>']
    | .generator _ => do
      let name ← match ← field? place "__qualname__" with
        | some (.text t) => pure t
        | _ => pure []
      return "<" ++ (← className o.kind) ++ " object " ++ name ++ " at " ++ addressText place ++ ['>']
    | .module => do
      match ← field? place "__name__" with
      | some (.text t) => return "<module '" ++ t ++ "' (built-in)>"
      | _ => return "<module>"
    | .view source side => do
      let d ← dictionaryAt source
      let items ← d.toList.mapM fun e => shownAt depth around (sideOf side e)
      let name : Text := match side with
        | .keys => "dict_keys"
        | .items => "dict_values"
        | .pairs => "dict_items"
      return name ++ "([" ++ join ", " items ++ "])"
    | .above start owner => do
      return "<super: <class '" ++ (← className start) ++ "'>, <" ++ (← kindName owner) ++ " object>>"
    | .staticMethod f => return "<staticmethod(" ++ (← shownAt depth around f) ++ ")>"
    | .classMethod f => return "<classmethod(" ++ (← shownAt depth around f) ++ ")>"
    | .cell scope index => do
      let inside : Text ← match ← valueInScope scope index with
        | some v => do
          let there : Text := match v with
            | .object p => addressText p
            | _ => addressText 0
          pure ((← kindName v) ++ " object at " ++ there)
        | none => pure "empty".toList
      return "<cell at " ++ addressText place ++ ": " ++ inside ++ ['>']
    | .template t => return "<code object " ++ t.name ++ " at " ++ addressText place ++ ", file \"<proxies>\", line " ++ decimal t.line ++ ">"
    | _ => object

end

def shown (v : Value) : Act Text := shownAt depthLimit [] v

def errorText (kind : Value) (arguments : List Value) : Act Text := do
  let line ← lineOf kind
  let belongs (name : String) : Bool := line.any (Value.isSame (.kind name.toList))
  match arguments with
  | [] => return []
  | [argument] =>
    if belongs "KeyError" then shown argument
    else textOf argument
  | [code, words] =>
    if belongs "OSError" then
      return "[Errno " ++ (← textOf code) ++ "] " ++ (← textOf words)
    else if belongs "BaseExceptionGroup" then
      let count := (← itemsOf words).length
      return (← textOf code) ++ " (" ++ decimal count ++ " sub-exception" ++
        (if count == 1 then [] else ['s']) ++ ")"
    else shown (.tuple arguments)
  | code :: words :: file :: _ =>
    if belongs "OSError" then
      return "[Errno " ++ (← textOf code) ++ "] " ++ (← textOf words) ++ ": " ++ (← shown file)
    else if belongs "UnicodeDecodeError" || belongs "UnicodeEncodeError" then
      codecText arguments
    else shown (.tuple arguments)
where
  textOf (v : Value) : Act Text := do
    match v with
    | .text t => return t
    | _ => do
      match ← call (.kind "str") [v] with
      | .text t => return t
      | _ => return []
  codecText (arguments : List Value) : Act Text := do
    match arguments with
    | [.text codec, object, .integer first, .integer last, .text reason] => do
      let place : Text := if last == first + 1 then "position " ++ integerText first
        else "position " ++ integerText first ++ "-" ++ integerText (last - 1)
      match object with
      | .bytes t =>
        let byte := (t[first.toNat]?).getD ' '
        return "'" ++ codec ++ "' codec can't decode " ++
          (if last == first + 1 then "byte 0x" ++ hexadecimal 2 byte.toNat ++ " in " else "bytes in ") ++
          place ++ ": " ++ reason
      | .text t =>
        let c := (t[first.toNat]?).getD ' '
        return "'" ++ codec ++ "' codec can't encode " ++
          (if last == first + 1 then
            "character '" ++ escapedCode c ++ "' in " else "characters in ") ++
          place ++ ": " ++ reason
      | _ => return reason
    | _ => shown (.tuple arguments)
  escapedCode (c : Char) : Text :=
    if c.toNat < 0x100 then "\\x" ++ hexadecimal 2 c.toNat
    else if c.toNat < 0x10000 then "\\u" ++ hexadecimal 4 c.toNat
    else "\\U" ++ hexadecimal 8 c.toNat

def printedPlain (v : Value) : Act Text := do
  match v with
  | .text t => return t
  | .object place => do
    let o ← objectAt place
    match o.body with
    | .error arguments _ _ _ => errorText o.kind arguments
    | .boxed (.text t) => return t
    | _ => shown v
  | other => shown other

def printed (v : Value) : Act Text := do
  match v with
  | .text t => return t
  | .object _ => do
    match ← special? v "__str__" with
    | some f => textResult (← call f []) "__str__"
    | none => printedPlain v
  | other => shown other

end Act

end Forwarding.Script
