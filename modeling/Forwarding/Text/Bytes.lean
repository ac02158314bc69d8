import Forwarding.Text.Quoted

/-! Texts as bytes in UTF-8.

Decoding is strict: an overlong form, a surrogate, a value above U+10FFFF, a stray continuation byte
and a cut off sequence are refused. A refusal names the bytes that cannot be read: one for a byte
that starts nothing, the bytes up to the one that does not continue the sequence, or all that is
left when the input ends inside it.
-/

set_option autoImplicit false

namespace Forwarding

abbrev Bytes := List UInt8

/-- Why bytes are not UTF-8. The positions count from the start of the input. -/
inductive DecodeFault where
  | invalidStart (byte : UInt8) (position : Nat)
  | invalidContinuation (byte : UInt8) (position count : Nat)
  | unexpectedEnd (byte : UInt8) (position count : Nat)
  deriving Repr, DecidableEq

namespace DecodeFault

def place (byte : UInt8) (position count : Nat) : Text :=
  if count ≤ 1 then
    "byte 0x" ++ Text.hexadecimal 2 byte.toNat ++ " in position " ++ Text.decimal position
  else
    "bytes in position " ++ Text.decimal position ++ "-" ++ Text.decimal (position + count - 1)

def message (fault : DecodeFault) : Text :=
  match fault with
  | .invalidStart byte position => phrase (place byte position 1) "invalid start byte"
  | .invalidContinuation byte position count =>
    phrase (place byte position count) "invalid continuation byte"
  | .unexpectedEnd byte position count =>
    phrase (place byte position count) "unexpected end of data"
where
  phrase (place reason : Text) : Text :=
    "'utf-8' codec can't decode " ++ place ++ ": " ++ reason

end DecodeFault

namespace Bytes

def ofText (t : Text) : Bytes := t.flatMap String.utf8EncodeChar

/-- What a first byte announces: the value bits it brings and the ranges of the bytes after it. -/
def announced (byte : UInt8) : Option (Nat × List (Nat × Nat)) :=
  let b := byte.toNat
  let any := (0x80, 0xBF)
  if b < 0x80 then some (b, [])
  else if b < 0xC2 then none
  else if b < 0xE0 then some (b - 0xC0, [any])
  else if b == 0xE0 then some (0, [(0xA0, 0xBF), any])
  else if b == 0xED then some (0xD, [(0x80, 0x9F), any])
  else if b < 0xF0 then some (b - 0xE0, [any, any])
  else if b == 0xF0 then some (0, [(0x90, 0xBF), any, any])
  else if b < 0xF4 then some (b - 0xF0, [any, any, any])
  else if b == 0xF4 then some (4, [(0x80, 0x8F), any, any])
  else none

/-- A sequence that has begun: its first byte and where that stands, the value so far, and the ranges
of the bytes still to come. -/
structure Begun where
  byte : UInt8
  position : Nat
  value : Nat
  next : Nat × Nat
  later : List (Nat × Nat)

/-- Reads on at a position; `read` is the text so far, last character first. -/
def textFrom (read : Text) (position : Nat) : Option Begun → Bytes → Except DecodeFault Text
  | none, [] => .ok read.reverse
  | some begun, [] => .error (.unexpectedEnd begun.byte begun.position (position - begun.position))
  | none, byte :: more =>
    match announced byte with
    | none => .error (.invalidStart byte position)
    | some (value, []) => textFrom (Char.ofNat value :: read) (position + 1) none more
    | some (value, next :: later) =>
      textFrom read (position + 1) (some ⟨byte, position, value, next, later⟩) more
  | some begun, byte :: more =>
    if begun.next.1 ≤ byte.toNat && byte.toNat ≤ begun.next.2 then
      let value := begun.value * 64 + (byte.toNat - 0x80)
      match begun.later with
      | [] => textFrom (Char.ofNat value :: read) (position + 1) none more
      | next :: later =>
        textFrom read (position + 1) (some ⟨begun.byte, begun.position, value, next, later⟩) more
    else
      .error (.invalidContinuation begun.byte begun.position (position - begun.position))

def toText (bytes : Bytes) : Except DecodeFault Text := textFrom [] 0 none bytes

end Bytes

end Forwarding
