import Forwarding.Script.Fault
import Forwarding.Script.Function
import Forwarding.Script.Number
import Forwarding.Text.CharacterName

/-! Strings of a script module: text between quotes, with escapes.

A string is between triple quotes or between single ones, and in the second case it ends with its
line. Letters before it say whether it stands for bytes, whether escapes are left alone, and whether
braces hold expressions. A backslash and the character after it belong together, so an escaped quote
does not close the string. An escape is a line feed, which vanishes, a letter or mark for a control or
a quote, up to three octal digits, a letter with hexadecimal digits, or a name in braces; any other
backslash stands for itself. Positions count one for each ASCII character and ten for each other one.
-/

set_option autoImplicit false

namespace Forwarding.Script

open Text

/-- What a string is put between: a quote, or three of them. -/
structure Delimiter where
  mark : Char
  isTriple : Bool
  deriving Repr, DecidableEq

def Delimiter.text (d : Delimiter) : Text := List.replicate (if d.isTriple then 3 else 1) d.mark

def Delimiter.of? (t : Text) : Option Delimiter :=
  ([⟨'"', true⟩, ⟨'\x27', true⟩, ⟨'"', false⟩, ⟨'\x27', false⟩] : List Delimiter).find? fun d =>
    d.text.isPrefixOf t

def closed? (d : Delimiter) : Text → Option (Text × Text)
  | [] => none
  | ['\\'] => none
  | '\\' :: c :: rest => (closed? d rest).map fun (body, rest) => ('\\' :: c :: body, rest)
  | c :: rest =>
    if d.text.isPrefixOf (c :: rest) then some ([], (c :: rest).drop d.text.length)
    else if c == '\n' && !d.isTriple then none
    else (closed? d rest).map fun (body, rest) => (c :: body, rest)

/-- How many lines a string goes on over that its first line without a backslash at the end breaks. -/
def openLines : Text → Nat
  | '\\' :: c :: rest => openLines rest + if c == '\n' then 1 else 0
  | c :: rest => if c == '\n' then 0 else openLines rest
  | [] => 0

structure Literal where
  isRaw : Bool
  isBytes : Bool
  /-- Braces hold expressions. -/
  isInterpolated : Bool
  delimiter : Delimiter
  /-- What is between the delimiters. -/
  body : Text
  deriving Repr, DecidableEq

namespace Literal

def letters : List Text := ["", "r", "b", "u", "f", "rb", "br", "rf", "fr"].map String.toList

/-- The letters before a string and its delimiter, if a text starts with a string. -/
def opening? (t : Text) : Option (Text × Delimiter) :=
  [0, 1, 2].findSome? fun count =>
    let before := (t.take count).map Char.toLower
    if before.length == count && letters.contains before then
      (Delimiter.of? (t.drop count)).map fun d => (before, d)
    else none

def of? (t : Text) : Option (Literal × Text) := do
  let (before, delimiter) ← opening? t
  let (body, rest) ← closed? delimiter (t.drop (before.length + delimiter.text.length))
  return ({
    isRaw := before.contains 'r'
    isBytes := before.contains 'b'
    isInterpolated := before.contains 'f'
    delimiter
    body }, rest)

end Literal

def width (c : Char) : Nat := if c.toNat < 128 then 1 else 10

def widthOf (t : Text) : Nat := t.foldl (fun total c => total + width c) 0

def simple? (c : Char) : Option Text :=
  match c with
  | '\n' => some []
  | '\\' | '\x27' | '"' => some [c]
  | 'a' => some ['\x07']
  | 'b' => some ['\x08']
  | 'f' => some ['\x0c']
  | 'n' => some ['\n']
  | 'r' => some ['\r']
  | 't' => some ['\t']
  | 'v' => some ['\x0b']
  | _ => none

def digitCount? (c : Char) : Option Nat :=
  match c with
  | 'x' => some 2
  | 'u' => some 4
  | 'U' => some 8
  | _ => none

def formOf (letter : Char) (count : Nat) : Text := letter :: List.replicate count 'X'

/-- The character with the name in braces that a text starts with, the width of the name with its
braces, and the text behind it. The position is that of the backslash. -/
def named (position : Nat) (t : Text) : Except EscapeFault (Char × Nat × Text) :=
  match t with
  | '\x7b' :: rest =>
    let name := rest.takeWhile (· != '\x7d')
    let last := position + 2 + widthOf name
    match name, rest.dropWhile (· != '\x7d') with
    | _ :: _, _ :: after =>
      match CharacterName.code? name with
      | some code => .ok (Char.ofNat code, widthOf name + 2, after)
      | none => .error ⟨.unknownName, position, last + 1⟩
    | [], _ :: _ => .error ⟨.malformedName, position, last⟩
    | _, [] => .error ⟨.malformedName, position, last⟩
  | _ => .error ⟨.malformedName, position, position + 1⟩

/-- The text that the inside of a string stands for; `position` is that of its first character. The
count bounds the number of steps. -/
def unescapeFrom (count position : Nat) (t : Text) : Except EscapeFault Text :=
  match count, t with
  | 0, _ | _, [] => .ok []
  | count + 1, '\\' :: c :: rest =>
    if 128 ≤ c.toNat then (unescapeFrom count (position + 16) rest).map ('\\' :: c :: ·)
    else if c == 'N' then
      match named position rest with
      | .error fault => .error fault
      | .ok (found, taken, after) =>
        (unescapeFrom count (position + 2 + taken) after).map (found :: ·)
    else if Number.isOctal c then
      let digits := (rest.take 2).takeWhile Number.isOctal
      (unescapeFrom count (position + 2 + digits.length) (rest.drop digits.length)).map
        (Char.ofNat (Number.numeral 8 (c :: digits)) :: ·)
    else match digitCount? c with
      | some places =>
        let digits := (rest.take places).takeWhile Number.isHexadecimal
        let value := Number.numeral 16 digits
        let last := position + 1 + digits.length
        if digits.length < places then .error ⟨.tooShort (formOf c places), position, last⟩
        else if 0x10FFFF < value then .error ⟨.tooLarge, position, last⟩
        else (unescapeFrom count (last + 1) (rest.drop places)).map (Char.ofNat value :: ·)
      | none => (unescapeFrom count (position + 2) rest).map ((simple? c).getD ['\\', c] ++ ·)
  | count + 1, c :: rest => (unescapeFrom count (position + width c) rest).map (c :: ·)

def unescape (t : Text) : Except EscapeFault Text := unescapeFrom t.length 0 t

/-- The bytes, as characters, that the inside of a string of bytes stands for. The fault is the
position of an escape with too few digits. -/
def unescapeBytesFrom (count position : Nat) (t : Text) : Except Nat Text :=
  match count, t with
  | 0, _ | _, [] => .ok []
  | count + 1, '\\' :: c :: rest =>
    if Number.isOctal c then
      let digits := (rest.take 2).takeWhile Number.isOctal
      (unescapeBytesFrom count (position + 2 + digits.length) (rest.drop digits.length)).map
        (Char.ofNat (Number.numeral 8 (c :: digits) % 256) :: ·)
    else if c == 'x' then
      let digits := (rest.take 2).takeWhile Number.isHexadecimal
      if digits.length < 2 then .error position
      else
        (unescapeBytesFrom count (position + 4) (rest.drop 2)).map
          (Char.ofNat (Number.numeral 16 digits) :: ·)
    else (unescapeBytesFrom count (position + 2) rest).map ((simple? c).getD ['\\', c] ++ ·)
  | count + 1, c :: rest => (unescapeBytesFrom count (position + 1) rest).map (c :: ·)

def unescapeBytes (t : Text) : Except Nat Text := unescapeBytesFrom t.length 0 t

namespace Literal

def value (l : Literal) : Except Fault.Reason Text :=
  if l.isRaw then .ok l.body
  else if l.isBytes then (unescapeBytes l.body).mapError .byteEscape
  else (unescape l.body).mapError .escape

end Literal

end Forwarding.Script

/-! The document strings of functions, and what they say.

A document is put between triple quotes as it is. Its escapes are read with the rest of the script, so that it can
say something else than what was put there.
-/

namespace Forwarding.Script

open Text

/-- Whether a text can be put between triple quotes: none before the last ones close it, and its escapes stand for
characters. A null must not be there, nor an escape for one: the code of half a character is read as a null too. -/
def isWritten (t : Text) : Bool :=
  !t.contains '\x00' && closed? ⟨'"', true⟩ (t ++ documentMark) == some (t, []) &&
    match unescape t with
    | .ok said => !said.contains '\x00'
    | .error _ => false

def Function.spoken (f : Function) : Text := (unescape f.document).toOption.getD f.document

end Forwarding.Script
