import Forwarding.Text.Bytes

/-! The secure hash algorithm with 160 bits, of which twelve hexadecimal digits make a fingerprint.

The message is padded to whole blocks of 64 bytes, its length in bits last. Each block is stretched
to eighty words, and eighty rounds over them mix it into the five words of the state.
-/

set_option autoImplicit false

namespace Forwarding.Digest

/-- A number as bytes, the most significant first. -/
def bigEndian : Nat → Nat → Bytes
  | 0, _ => []
  | count + 1, n => bigEndian count (n / 256) ++ [UInt8.ofNat (n % 256)]

/-- A one bit, zeros, and the length in bits, up to a multiple of 64 bytes. -/
def padded (message : Bytes) : Bytes :=
  message ++ [0x80] ++ List.replicate ((119 - message.length % 64) % 64) 0 ++
    bigEndian 8 (8 * message.length)

def rotate (word : UInt32) (count : UInt32) : UInt32 :=
  (word <<< count) ||| (word >>> (32 - count))

structure State where
  a : UInt32
  b : UInt32
  c : UInt32
  d : UInt32
  e : UInt32

def State.start : State := ⟨0x67452301, 0xEFCDAB89, 0x98BADCFE, 0x10325476, 0xC3D2E1F0⟩

def State.add (s t : State) : State := ⟨s.a + t.a, s.b + t.b, s.c + t.c, s.d + t.d, s.e + t.e⟩

def words : Bytes → List UInt32
  | a :: b :: c :: d :: rest =>
    (a.toUInt32 <<< 24 ||| b.toUInt32 <<< 16 ||| c.toUInt32 <<< 8 ||| d.toUInt32) :: words rest
  | _ => []

/-- One more word of the schedule; the words so far stand last first. -/
def extend (schedule : List UInt32) : List UInt32 :=
  rotate (schedule.getD 2 0 ^^^ schedule.getD 7 0 ^^^ schedule.getD 13 0 ^^^ schedule.getD 15 0) 1 ::
    schedule

/-- The eighty words that a block is stretched to. -/
def schedule (block : Bytes) : List UInt32 :=
  ((List.range 64).foldl (fun s _ => extend s) (words block).reverse).reverse

def mix (round : Nat) (b c d : UInt32) : UInt32 × UInt32 :=
  if round < 20 then ((b &&& c) ||| (~~~b &&& d), 0x5A827999)
  else if round < 40 then (b ^^^ c ^^^ d, 0x6ED9EBA1)
  else if round < 60 then ((b &&& c) ||| (b &&& d) ||| (c &&& d), 0x8F1BBCDC)
  else (b ^^^ c ^^^ d, 0xCA62C1D6)

def step (s : State) (round : Nat) (word : UInt32) : State :=
  let (f, k) := mix round s.b s.c s.d
  ⟨rotate s.a 5 + f + s.e + k + word, s.a, rotate s.b 30, s.c, s.d⟩

def absorb (s : State) (block : Bytes) : State :=
  s.add (((List.range 80).zip (schedule block)).foldl (fun t r => step t r.1 r.2) s)

/-- Absorbs the whole blocks of a message. -/
def absorbAll : Nat → State → Bytes → State
  | 0, s, _ => s
  | count + 1, s, message => absorbAll count (absorb s (message.take 64)) (message.drop 64)

def digits (message : Bytes) : Text :=
  let blocks := padded message
  let s := absorbAll (blocks.length / 64) .start blocks
  [s.a, s.b, s.c, s.d, s.e].flatMap fun word => Text.hexadecimal 8 word.toNat

/-- The first twelve digits of the hash of a text. -/
def short (t : Text) : Text := (digits (Bytes.ofText t)).take 12

end Forwarding.Digest
