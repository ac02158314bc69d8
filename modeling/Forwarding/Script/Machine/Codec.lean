import Forwarding.Script.Machine.Format
import Forwarding.Text.Bytes
import Forwarding.Text.Letter

/-! Texts as bytes and bytes as texts, by the name of an encoding.

A place that cannot be converted is an error, is left out, or is replaced, as a second name says.
-/

set_option autoImplicit false

namespace Forwarding.Script

open Text

inductive Encoding where
  | utf8 (hasMark : Bool)
  | ascii | latin
  /-- Units of some bytes, with the first one first or last, and with a mark in front or without. -/
  | units (size : Nat) (isLittle hasMark : Bool)
  deriving Repr, DecidableEq

namespace Encoding

def ofName? (name : Text) : Option Encoding :=
  let name := (lowerCase name).map fun c => if c == '_' || c == ' ' then '-' else c
  match String.ofList name with
  | "utf-8" | "utf8" | "u8" | "utf" | "cp65001" => some (.utf8 false)
  | "utf-8-sig" => some (.utf8 true)
  | "ascii" | "us-ascii" | "646" => some .ascii
  | "latin-1" | "latin1" | "iso-8859-1" | "iso8859-1" | "8859" | "l1" | "latin" => some .latin
  | "utf-16" | "utf16" | "u16" => some (.units 2 true true)
  | "utf-16-le" | "utf-16le" => some (.units 2 true false)
  | "utf-16-be" | "utf-16be" => some (.units 2 false false)
  | "utf-32" | "utf32" | "u32" => some (.units 4 true true)
  | "utf-32-le" | "utf-32le" => some (.units 4 true false)
  | "utf-32-be" | "utf-32be" => some (.units 4 false false)
  | _ => none

def bytesOf (size : Nat) (isLittle : Bool) (n : Nat) : Text :=
  let bytes := (List.range size).map fun k => Char.ofNat (n / 256 ^ k % 256)
  if isLittle then bytes else bytes.reverse

def pair (isLittle : Bool) (n : Nat) : Text :=
  if n < 0x10000 then bytesOf 2 isLittle n
  else
    bytesOf 2 isLittle (0xD800 + (n - 0x10000) / 1024) ++
      bytesOf 2 isLittle (0xDC00 + (n - 0x10000) % 1024)

def inUtf8 (t : Text) : Text := (Bytes.ofText t).map fun b => Char.ofNat b.toNat

end Encoding

namespace Act

def encodingInstead (handler : Text) (c : Char) : Act (Option Text) := do
  match String.ofList handler with
  | "ignore" => return some []
  | "replace" => return some ['?']
  | "backslashreplace" => return some (escapedAs c)
  | "xmlcharrefreplace" => return some ("&#" ++ decimal c.toNat ++ [';'])
  | "strict" => return none
  | "surrogateescape" | "surrogatepass" => return none
  | _ => fail "LookupError" ("unknown error handler name '" ++ handler ++ ['\x27'])
where
  escapedAs (c : Char) : Text :=
    if c.toNat < 0x100 then "\\x" ++ hexadecimal 2 c.toNat
    else if c.toNat < 0x10000 then "\\u" ++ hexadecimal 4 c.toNat
    else "\\U" ++ hexadecimal 8 c.toNat

def encodedBelow (limit : Nat) (name whole handler : Text) (place : Nat) (found : Array Char) :
    Text → Act Text
  | [] => return found.toList
  | c :: t => do
    if c.toNat < limit then encodedBelow limit name whole handler (place + 1) (found.push c) t
    else
      match ← encodingInstead handler c with
      | some instead =>
        encodedBelow limit name whole handler (place + 1) (found ++ instead.toArray) t
      | none =>
        let count := 1 + (t.takeWhile fun c => limit ≤ c.toNat).length
        failWith "UnicodeEncodeError" [.text name, .text whole, .integer place,
          .integer (place + count), .text ("ordinal not in range(" ++ decimal limit ++ [')'])]

def encoded (t encoding handler : Text) : Act Text := do
  match Encoding.ofName? encoding with
  | none => fail "LookupError" ("unknown encoding: " ++ encoding)
  | some (.utf8 hasMark) =>
    return (if hasMark then ['\xef', '\xbb', '\xbf'] else []) ++ Encoding.inUtf8 t
  | some .ascii => encodedBelow 128 "ascii" t handler 0 #[] t
  | some .latin => encodedBelow 256 "latin-1" t handler 0 #[] t
  | some (.units size isLittle hasMark) =>
    let mark := if hasMark then Encoding.bytesOf size isLittle 0xFEFF else []
    return mark ++ t.flatMap fun c =>
      if size == 2 then Encoding.pair isLittle c.toNat else Encoding.bytesOf size isLittle c.toNat

def decodingInstead (handler bytes : Text) : Act (Option Text) := do
  match String.ofList handler with
  | "ignore" => return some []
  | "replace" => return some [Char.ofNat 0xFFFD]
  | "backslashreplace" => return some (bytes.flatMap fun c => "\\x" ++ hexadecimal 2 c.toNat)
  | "strict" | "surrogateescape" | "surrogatepass" => return none
  | _ => fail "LookupError" ("unknown error handler name '" ++ handler ++ ['\x27'])

/-- What a text in UTF-8 begins with: a character, or why it has none, and how many bytes that is. -/
def firstOfUtf8 (t : Text) : (Char ⊕ String) × Nat :=
  match t with
  | [] => (.inr "unexpected end of data", 0)
  | c :: rest =>
    match Bytes.announced c.toNat.toUInt8 with
    | none => (.inr "invalid start byte", 1)
    | some (value, ranges) => go value 1 ranges rest
where
  go (value count : Nat) : List (Nat × Nat) → Text → (Char ⊕ String) × Nat
    | [], _ => (.inl (Char.ofNat value), count)
    | _ :: _, [] => (.inr "unexpected end of data", count)
    | (low, high) :: more, c :: rest =>
      if low ≤ c.toNat && c.toNat ≤ high then go (value * 64 + (c.toNat - 0x80)) (count + 1) more rest
      else (.inr "invalid continuation byte", count)

/-- The text of bytes in UTF-8. The number bounds how many there are. -/
def decodedUtf8 (whole handler : Text) : Nat → Nat → Array Char → Text → Act Text
  | 0, _, found, _ => return found.toList
  | _, _, found, [] => return found.toList
  | left + 1, place, found, t => do
    match firstOfUtf8 t with
    | (.inl c, count) => decodedUtf8 whole handler left (place + count) (found.push c) (t.drop count)
    | (.inr reason, count) =>
      match ← decodingInstead handler (t.take count) with
      | some instead =>
        decodedUtf8 whole handler left (place + count) (found ++ instead.toArray) (t.drop count)
      | none =>
        failWith "UnicodeDecodeError" [.text "utf-8", .bytes whole, .integer place,
          .integer (place + count), .text reason]

def decodedAscii (whole handler : Text) (place : Nat) (found : Array Char) : Text → Act Text
  | [] => return found.toList
  | c :: t => do
    if c.toNat < 128 then decodedAscii whole handler (place + 1) (found.push c) t
    else
      match ← decodingInstead handler [c] with
      | some instead => decodedAscii whole handler (place + 1) (found ++ instead.toArray) t
      | none =>
        failWith "UnicodeDecodeError" [.text "ascii", .bytes whole, .integer place,
          .integer (place + 1), .text "ordinal not in range(128)"]

def unitsOf (size : Nat) (isLittle : Bool) : Nat → Text → List Nat
  | 0, _ => []
  | count + 1, t =>
    let unit := t.take size
    if unit.length < size then []
    else
      let bytes := if isLittle then unit.reverse else unit
      bytes.foldl (fun n c => n * 256 + c.toNat) 0 :: unitsOf size isLittle count (t.drop size)

def joinPairs : List Nat → Text
  | [] => []
  | high :: low :: more =>
    if 0xD800 ≤ high && high < 0xDC00 && 0xDC00 ≤ low && low < 0xE000 then
      Char.ofNat (0x10000 + (high - 0xD800) * 1024 + (low - 0xDC00)) :: joinPairs more
    else Char.ofNat high :: joinPairs (low :: more)
  | [n] => [Char.ofNat n]

def decoded (t encoding handler : Text) : Act Text := do
  match Encoding.ofName? encoding with
  | none =>
    if t.isEmpty then return [] else fail "LookupError" ("unknown encoding: " ++ encoding)
  | some (.utf8 hasMark) =>
    let t := if hasMark && ['\xef', '\xbb', '\xbf'].isPrefixOf t then t.drop 3 else t
    decodedUtf8 t handler (t.length + 1) 0 #[] t
  | some .ascii => decodedAscii t handler 0 #[] t
  | some .latin => return t
  | some (.units size isLittle hasMark) =>
    let isMarked (little : Bool) : Bool := (Encoding.bytesOf size little 0xFEFF).isPrefixOf t
    let isBig := hasMark && isMarked false
    let rest := if hasMark && (isMarked true || isBig) then t.drop size else t
    let units := unitsOf size (isLittle && !isBig) rest.length rest
    return if size == 2 then joinPairs units else units.map Char.ofNat

end Act

end Forwarding.Script
