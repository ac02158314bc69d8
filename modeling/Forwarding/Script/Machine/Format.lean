import Forwarding.Script.Machine.Layout
import Forwarding.Script.Machine.Shown

/-! Filling texts with values: a value by a layout, and texts with places in braces. -/

set_option autoImplicit false

namespace Forwarding.Script.Act

open Text

/-- What a pure operation gives, or the error that it ends with. -/
def lift {α : Type} (outcome : Except Raised α) : Act α :=
  match outcome with
  | .ok found => return found
  | .error error => failRaised error

def laidOutPlain (v : Value) (layout : Text) : Act Text := do
  if layout.isEmpty then printed v
  else
    let kind ← kindName v
    match ← plain v with
    | .integer n => lift ((Layout.read layout kind '>' none).bind fun l => l.integer kind n)
    | .truth b =>
      lift ((Layout.read layout kind '>' none).bind fun l => l.integer kind (if b then 1 else 0))
    | .real x => lift ((Layout.read layout kind '>' none).bind fun l => l.floating kind x)
    | .text t => lift ((Layout.read layout kind '<' (some 's')).bind fun l => l.textual kind t)
    | .complex x y => do
      let l ← lift (Layout.read layout kind '>' none)
      let part (x : Float) (sign : Option Char) : Act Text :=
        lift ({ l with width := 0, sign }.floating kind x)
      let inside := (← part x l.sign) ++ (← part y (some '+')) ++ ['j']
      return l.filled [] (if l.letter.isNone then ['('] ++ inside ++ [')'] else inside)
    | _ => typeError ("unsupported format string passed to " ++ kind ++ ".__format__")

def laidOut (v : Value) (layout : Text) : Act Text := do
  match ← callSpecial? v "__format__" [.text layout] with
  | some found =>
    match ← plain found with
    | .text t => return t
    | _ => typeError ("__format__ must return a str, not " ++ (← kindName found))
  | none => laidOutPlain v layout

def converted (v : Value) (how : Option Char) : Act Value := do
  match how with
  | none => return v
  | some 'r' => return .text (← shown v)
  | some 's' => return .text (← printed v)
  | some 'a' => return .text (asciiOnly (← shown v))
  | some c =>
    if 32 < c.toNat && c.toNat < 127 then
      valueError ("Unknown conversion specifier " ++ [c])
    else valueError ("Unknown conversion specifier \\x" ++ (Nat.toDigits 16 c.toNat))

/-! ### Places in braces -/

/-- How the places of a text are numbered: not yet, one after the other, or by themselves. -/
inductive Numbering where
  | open_ | automatic (next : Nat) | manual
  deriving Repr

/-- What fills the places. -/
structure Filling where
  placed : Option (List Value)
  named : Text → Act Value

/-- A place: its name, how its value is converted, and its layout. -/
structure Slot where
  name : Text
  how : Option Char
  layout : Text

def slotName : Text → Except Raised (Text × Option Char × Text)
  | [] => .ok ([], none, [])
  | c :: rest =>
    if c == '\x7b' then .error (.of "ValueError" "unexpected '\x7b' in field name")
    else if c == '\x7d' || c == ':' || c == '!' then .ok ([], some c, rest)
    else if c == '[' then (indexed rest).map fun (name, mark, behind) => (c :: name, mark, behind)
    else (slotName rest).map fun (name, mark, behind) => (c :: name, mark, behind)
where
  indexed : Text → Except Raised (Text × Option Char × Text)
    | [] => .ok ([], none, [])
    | c :: rest =>
      (if c == ']' then slotName rest else indexed rest).map fun (name, mark, behind) =>
        (c :: name, mark, behind)

/-- The text up to the brace that closes the one opened `depth` times, and the text behind it. -/
def slotLayout : Nat → Text → Option (Text × Text)
  | _, [] => none
  | depth, c :: rest =>
    if c == '\x7d' && depth == 1 then some ([], rest)
    else
      let depth := if c == '\x7b' then depth + 1 else if c == '\x7d' then depth - 1 else depth
      (slotLayout depth rest).map fun (inside, behind) => (c :: inside, behind)

def slotAt (t : Text) : Except Raised (Slot × Text) := do
  let (name, mark, rest) ← slotName t
  let laid (how : Option Char) (rest : Text) : Except Raised (Slot × Text) :=
    match slotLayout 1 rest with
    | some (layout, behind) => .ok (⟨name, how, layout⟩, behind)
    | none => .error (.of "ValueError" "unmatched '\x7b' in format spec")
  match mark, rest with
  | some '\x7d', _ => return (⟨name, none, []⟩, rest)
  | some ':', _ => laid none rest
  | some '!', [] =>
    .error (.of "ValueError" "end of string while looking for conversion specifier")
  | some '!', c :: '\x7d' :: behind => return (⟨name, some c, []⟩, behind)
  | some '!', c :: ':' :: behind => laid (some c) behind
  | some '!', [c] => laid (some c) []
  | some '!', _ => .error (.of "ValueError" "expected ':' after conversion specifier")
  | _, _ => .error (.of "ValueError" "expected '\x7d' before end of string")

/-- A part of the name of a place behind the first: an attribute or an index. -/
inductive Step where
  | member (name : Text)
  | item (index : Text)

/-- The parts of a name. The number bounds them. -/
def stepsOf : Nat → Text → Except Raised (List Step)
  | 0, _ | _, [] => .ok []
  | count + 1, '.' :: rest => do
    let name := rest.takeWhile fun c => c != '.' && c != '['
    if name.isEmpty then .error (.of "ValueError" "Empty attribute in format string")
    else return .member name :: (← stepsOf count (rest.drop name.length))
  | count + 1, '[' :: rest => do
    let index := rest.takeWhile (· != ']')
    match rest.drop index.length with
    | [] => .error (.of "ValueError" "Missing ']' in format string")
    | _ :: behind =>
      if index.isEmpty then .error (.of "ValueError" "Empty attribute in format string")
      else return .item index :: (← stepsOf count behind)
  | _, _ => .error (.of "ValueError" "Only '.' or '[' may follow ']' in format field specifier")

def isNumeral (t : Text) : Bool := !t.isEmpty && t.all Char.isDigit

def numeral (t : Text) : Nat := t.foldl (fun n c => n * 10 + (c.toNat - '0'.toNat)) 0

def slotValue (filling : Filling) (numbering : Numbering) (name : Text) : Act (Value × Numbering) := do
  let first := name.takeWhile fun c => c != '.' && c != '['
  let steps ← lift (stepsOf name.length (name.drop first.length))
  let number (numbering : Numbering) : Act (Option Nat × Numbering) :=
    if first.isEmpty then
      match numbering with
      | .open_ => return (some 0, .automatic 1)
      | .automatic n => return (some n, .automatic (n + 1))
      | .manual =>
        valueError "cannot switch from manual field specification to automatic field numbering"
    else if isNumeral first then
      match numbering with
      | .automatic _ =>
        valueError "cannot switch from automatic field numbering to manual field specification"
      | _ => return (some (numeral first), .manual)
    else return (none, numbering)
  let (index, numbering) ← number numbering
  let start ← match index with
    | none => filling.named first
    | some n =>
      match filling.placed with
      | none => valueError "Format string contains positional fields"
      | some values =>
        match values[n]? with
        | some v => pure v
        | none =>
          fail "IndexError" ("Replacement index " ++ decimal n ++
            " out of range for positional args tuple")
  let found ← steps.foldlM (fun v step =>
    match step with
    | .member name => readMember v name
    | .item index =>
      callBuiltin "operator.getitem"
        [v, if isNumeral index then .integer (numeral index) else .text index]) start
  return (found, numbering)

/-- The text up to the next brace that opens a place; doubled braces are single ones. -/
def untilSlot : Text → Except Raised (Text × Option Text)
  | [] => .ok ([], none)
  | ['\x7b'] => .error (.of "ValueError" "Single '\x7b' encountered in format string")
  | '\x7b' :: '\x7b' :: rest => (untilSlot rest).map fun (t, behind) => ('\x7b' :: t, behind)
  | '\x7b' :: rest => .ok ([], some rest)
  | '\x7d' :: '\x7d' :: rest => (untilSlot rest).map fun (t, behind) => ('\x7d' :: t, behind)
  | '\x7d' :: _ => .error (.of "ValueError" "Single '\x7d' encountered in format string")
  | c :: rest => (untilSlot rest).map fun (t, behind) => (c :: t, behind)

/-- A text with its places filled. The numbers bound how deep places are in each other and how many there
are. -/
def filledBraces (filling : Filling) :
    Nat → Nat → Numbering → Text → Act (Text × Numbering)
  | _, 0, numbering, _ => return ([], numbering)
  | 0, _, _, _ => valueError "Max string recursion exceeded"
  | depth + 1, count + 1, numbering, t => do
    let (before, behind) ← lift (untilSlot t)
    match behind with
    | none => return (before, numbering)
    | some rest => do
      let (slot, rest) ← lift (slotAt rest)
      let (v, numbering) ← slotValue filling numbering slot.name
      let v ← converted v slot.how
      let (layout, numbering) ←
        if slot.layout.contains '\x7b' then
          filledBraces filling depth (slot.layout.length + 1) numbering slot.layout
        else pure (slot.layout, numbering)
      let shown ← laidOut v layout
      let (more, numbering) ← filledBraces filling (depth + 1) count numbering rest
      return (before ++ shown ++ more, numbering)

def formatted (t : Text) (placed : List Value) (named : List (Text × Value)) : Act Text := do
  let byName (name : Text) : Act Value :=
    match named.lookup name with
    | some v => return v
    | none => failWith "KeyError" [.text name]
  return (← filledBraces ⟨some placed, byName⟩ 2 (t.length + 1) .open_ t).1

def formattedBy (t : Text) (mapping : Value) : Act Text := do
  let byName (name : Text) : Act Value := callBuiltin "operator.getitem" [mapping, .text name]
  return (← filledBraces ⟨none, byName⟩ 2 (t.length + 1) .open_ t).1

/-! Filling a text with values, in places that start with a percent sign.

A place may have a key in parentheses, flags, a width and a precision, and ends in a letter that says how
the value is written. Values are taken in their order, or by their keys; all of them have to be used,
unless they can have keys.
-/

/-- The values that are still to be used. -/
structure Supply where
  left : List Value
  /-- The value whose items keys stand for. -/
  mapping : Option Value
  /-- Whether the places are filled with bytes. -/
  isBytes : Bool := false

structure Place where
  isLeft : Bool := false
  plus : Bool := false
  blank : Bool := false
  isAlternate : Bool := false
  zero : Bool := false
  width : Nat := 0
  precision : Option Nat := none

def flagsAt (p : Place) : Text → Place × Text
  | '-' :: rest => flagsAt { p with isLeft := true } rest
  | '+' :: rest => flagsAt { p with plus := true } rest
  | ' ' :: rest => flagsAt { p with blank := true } rest
  | '#' :: rest => flagsAt { p with isAlternate := true } rest
  | '0' :: rest => flagsAt { p with zero := true } rest
  | t => (p, t)

def takeValue (s : Supply) : Act (Value × Supply) :=
  match s.left with
  | v :: left => return (v, { s with left })
  | [] => typeError "not enough arguments for format string"

def numberOr (s : Supply) (what : Text) (limit : Nat) (t : Text) :
    Act (Option Int × Supply × Text) := do
  match t with
  | '*' :: rest => do
    let (v, s) ← takeValue s
    match ← plain v with
    | .integer n => return (some n, s, rest)
    | .truth b => return (some (if b then 1 else 0), s, rest)
    | _ => typeError "* wants int"
  | _ =>
    let digits := t.takeWhile Char.isDigit
    if digits.isEmpty then return (none, s, t)
    else
      let n := numeral digits
      if limit < n then valueError (what ++ " too big")
      else return (some n, s, t.drop digits.length)

/-- A text filled up to the width; zeros go behind a sign. -/
def fillPlace (p : Place) (isNumber : Bool) (before t : Text) : Text :=
  let count := p.width - before.length - t.length
  if p.isLeft then before ++ t ++ List.replicate count ' '
  else if p.zero && isNumber then before ++ List.replicate count '0' ++ t
  else List.replicate count ' ' ++ before ++ t

def placeSign (p : Place) (isNegative : Bool) : Text :=
  if isNegative then ['-'] else if p.plus then ['+'] else if p.blank then [' '] else []

def wholeFor (letter : Char) (v : Value) : Act Int := do
  match ← plain v with
  | .integer n => return n
  | .truth b => return if b then 1 else 0
  | .real x =>
    if letter == 'd' then
      match Floating.truncated? x with
      | some n => return n
      | none =>
        if Floating.isInfinite x then
          fail "OverflowError" "cannot convert float infinity to integer"
        else valueError "cannot convert float NaN to integer"
    else refuse
  | _ => do
    match ← index? v with
    | some n => return n
    | none =>
      if letter == 'd' then
        match ← callSpecial? v "__int__" [] with
        | some (.integer n) => return n
        | _ => refuse
      else refuse
where
  refuse : Act Int := do
    typeError ("%" ++ [letter] ++ " format: " ++
      (if letter == 'd' then "a real number" else "an integer") ++ " is required, not " ++ (← kindName v))

def floatingFor (v : Value) : Act Float := do
  match ← plain v with
  | .real x => return x
  | .integer n => finite (Floating.ofInteger n)
  | .truth b => return if b then 1.0 else 0.0
  | _ => do
    match ← callSpecial? v "__float__" [] with
    | some (.real x) => return x
    | _ => do
      match ← index? v with
      | some n => finite (Floating.ofInteger n)
      | none => typeError ("must be real number, not " ++ (← kindName v))
where
  finite (x : Float) : Act Float :=
    if Floating.isFinite x then return x
    else fail "OverflowError" "int too large to convert to float"

def bytesFor (v : Value) : Act Text := do
  match ← plain v with
  | .bytes t => return t
  | .object place =>
    match (← objectAt place).body with
    | .bytes t => return t
    | _ => refuse
  | _ => refuse
where
  refuse : Act Text := do
    match ← callSpecial? v "__bytes__" [] with
    | some (.bytes t) => return t
    | _ =>
      typeError ("%b requires a bytes-like object, or an object that implements __bytes__, not '" ++
        (← kindName v) ++ ['\x27'])

def written (p : Place) (isBytes : Bool) (letter : Char) (position : Nat) (v : Value) : Act Text := do
  let cut (t : Text) : Text := fillPlace p false [] (t.take (p.precision.getD t.length))
  let inBase (letter : Char) (base : Nat) (before : Text) : Act Text := do
    let n ← wholeFor letter v
    let digits := Floating.zeroPadded (p.precision.getD 0) (Layout.digitsIn base (letter == 'X') n.natAbs)
    return fillPlace p true (placeSign p (n < 0) ++ if p.isAlternate then before else []) digits
  let floating (layout : Floating.Layout) : Act Text := do
    let x ← floatingFor v
    let t := Floating.written layout (p.precision.getD 6) p.isAlternate 'e' (Floating.absolute x)
    let t := if letter.isUpper then t.map Char.toUpper else t
    return fillPlace p true (placeSign p (Floating.isNegative x && x == x)) t
  match letter with
  | 's' => if isBytes then return cut (← bytesFor v) else return cut (← printed v)
  | 'b' => if isBytes then return cut (← bytesFor v) else unsupported
  | 'r' => do
    let t ← shown v
    return cut (if isBytes then asciiOnly t else t)
  | 'a' => return cut (asciiOnly (← shown v))
  | 'd' | 'i' | 'u' => inBase 'd' 10 []
  | 'o' => inBase 'o' 8 "0o"
  | 'x' => inBase 'x' 16 "0x"
  | 'X' => inBase 'X' 16 "0X"
  | 'e' | 'E' => floating .scientific
  | 'f' | 'F' => floating .fixed
  | 'g' | 'G' => floating .general
  | 'c' => do
    match ← plain v with
    | .text [c] => return fillPlace p false [] [c]
    | .text _ => typeError "%c requires int or char"
    | .bytes [c] =>
      if isBytes then return fillPlace p false [] [c] else typeError "%c requires int or char"
    | other =>
      match other.integer? with
      | some n =>
        if n < 0 || 0x10FFFF < n then fail "OverflowError" "%c arg not in range(0x110000)"
        else return fillPlace p false [] [Char.ofNat n.toNat]
      | none => typeError "%c requires int or char"
  | _ => unsupported
where
  unsupported : Act Text :=
    let shown := if 31 < letter.toNat && letter.toNat < 127 then letter else '?'
    valueError ("unsupported format character '" ++ [shown] ++ "' (0x" ++
      Nat.toDigits 16 letter.toNat ++ ") at index " ++ decimal position)

/-- The text inside parentheses, of which `depth` are open, and the text behind them. -/
def placeKey : Nat → Text → Option (Text × Text)
  | _, [] => none
  | depth, c :: rest =>
    if c == ')' && depth == 1 then some ([], rest)
    else
      let depth := if c == '(' then depth + 1 else if c == ')' then depth - 1 else depth
      (placeKey depth rest).map fun (key, behind) => (c :: key, behind)

def placeAt (length : Nat) (s : Supply) (t : Text) : Act (Text × Supply × Text) := do
  let (s, t) ← match t with
    | '(' :: rest =>
      match s.mapping with
      | none => typeError "format requires a mapping"
      | some mapping =>
        match placeKey 1 rest with
        | none => valueError "incomplete format key"
        | some (key, behind) => do
          let key : Value := if s.isBytes then .bytes key else .text key
          let v ← callBuiltin "operator.getitem" [mapping, key]
          pure ({ s with left := [v] }, behind)
    | _ => pure (s, t)
  let (p, t) := flagsAt {} t
  let (width, s, t) ← numberOr s "width" (2 ^ 63 - 1) t
  let p := match width with
    | some n => { p with width := n.natAbs, isLeft := p.isLeft || n < 0 }
    | none => p
  let (p, s, t) ← match t with
    | '.' :: rest => do
      let (precision, s, rest) ← numberOr s "precision" (2 ^ 31 - 1) rest
      pure ({ p with precision := some (precision.getD 0).toNat }, s, rest)
    | _ => pure (p, s, t)
  let t := match t with
    | c :: rest => if c == 'h' || c == 'l' || c == 'L' then rest else t
    | [] => t
  match t with
  | [] => valueError "incomplete format"
  | '%' :: rest => do
    let (_, s) ← takeValue s
    return (['%'], s, rest)
  | letter :: rest => do
    let (v, s) ← takeValue s
    let shown ← written p s.isBytes letter (length - t.length) v
    return (shown, s, rest)

/-- A text with its places filled, and the values that are left. The number bounds the places. -/
def percentFrom (length : Nat) : Nat → Supply → Text → Act (Text × Supply)
  | 0, s, t => return (t, s)
  | count + 1, s, t => do
    let before := t.takeWhile (· != '%')
    match t.drop before.length with
    | [] => return (before, s)
    | _ :: '%' :: rest => do
      let (more, s) ← percentFrom length count s rest
      return (before ++ ['%'] ++ more, s)
    | _ :: rest => do
      let (shown, s, rest) ← placeAt length s rest
      let (more, s) ← percentFrom length count s rest
      return (before ++ shown ++ more, s)

/-- Whether the items of a value can be taken by keys. Bytes are no such value among bytes. -/
def hasKeys (isBytes : Bool) (v : Value) : Act Bool := do
  match v with
  | .object place =>
    match (← objectAt place).body with
    | .list _ | .dictionary _ => return true
    | .bytes _ => return !isBytes
    | .boxed _ => return false
    | _ => return (← special? v "__getitem__").isSome
  | .bytes _ => return !isBytes
  | .range _ _ _ => return true
  | _ => return false

def filledPercent (isBytes : Bool) (t : Text) (v : Value) : Act Text := do
  let (left, mapping) ← match ← plain v with
    | .tuple items => pure (items, none)
    | _ => do pure ([v], if ← hasKeys isBytes v then some v else none)
  let (shown, s) ← percentFrom t.length (t.length + 1) { left, mapping, isBytes } t
  if !s.left.isEmpty && mapping.isNone then
    typeError ("not all arguments converted during " ++ (if isBytes then "bytes" else "string") ++
      " formatting")
  else return shown

end Forwarding.Script.Act
