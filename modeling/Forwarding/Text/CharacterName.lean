import Forwarding.Text.Basic
import Forwarding.Text.CharacterName.Ancient
import Forwarding.Text.CharacterName.Forms
import Forwarding.Text.CharacterName.Letters
import Forwarding.Text.CharacterName.Pictures
import Forwarding.Text.CharacterName.Symbols

/-! Characters by their names in Unicode 14.

Most names stand in tables, and case does not matter there. Ideographs and the like are named by their
code points, and a syllable of Hangul by the sounds that it is made of.
-/

set_option autoImplicit false

namespace Forwarding.Text.CharacterName

def entries (t : Text) : List Text := runs (· != '|') (· != '|') t

def expand (previous : List Text) (entry : Text) : List Text :=
  match entry with
  | c :: rest =>
    if c.isDigit then previous.take (c.toNat - '0'.toNat) ++ words rest else words entry
  | [] => []

def placeIn (name : List Text) (previous : List Text) (place : Nat) : List Text → Option Nat
  | [] => none
  | entry :: more =>
    let current := expand previous entry
    if current == name then some place else placeIn name current (place + 1) more

/-- Characters that are named by a word and their code points. -/
structure Numbered where
  word : Text
  /-- Whether the word and the digits have to be in upper case. -/
  exact : Bool
  ranges : List (Nat × Nat)

def numbered : List Numbered := [
  ⟨"CJK UNIFIED IDEOGRAPH-", true,
    [(0x3400, 0x4DBF), (0x4E00, 0x9FFF), (0x20000, 0x2A6DF), (0x2A700, 0x2B738),
      (0x2B740, 0x2B81D), (0x2B820, 0x2CEA1), (0x2CEB0, 0x2EBE0), (0x30000, 0x3134A)]⟩,
  ⟨"CJK COMPATIBILITY IDEOGRAPH-", false, [(0xF900, 0xFA6D), (0xFA70, 0xFAD9), (0x2F800, 0x2FA1D)]⟩,
  ⟨"NUSHU CHARACTER-", false, [(0x1B170, 0x1B2FB)]⟩,
  ⟨"KHITAN SMALL SCRIPT CHARACTER-", false, [(0x18B00, 0x18CD5)]⟩]

def digit? (c : Char) : Option Nat :=
  if c.isDigit then some (c.toNat - '0'.toNat)
  else if 'A' ≤ c && c ≤ 'F' then some (c.toNat - 'A'.toNat + 10) else none

/-- The code point that a name ends with, behind a word for such characters. A unified ideograph may
have a needless zero in front. -/
def Numbered.code? (n : Numbered) (name : Text) : Option Nat := do
  let digits ← (← after? n.word (if n.exact then name else name.map Char.toUpper)).mapM digit?
  let code := digits.foldl (fun value d => value * 16 + d) 0
  let fits := digits.length == (if code < 0x10000 then 4 else 5) || (n.exact && digits.length == 5)
  if fits && n.ranges.any (fun r => r.1 ≤ code && code ≤ r.2) then some code else none

/-- The sounds that a syllable of Hangul can begin with, have in its middle, and end with. -/
def initials : List Text :=
  ["G", "GG", "N", "D", "DD", "R", "M", "B", "BB", "S", "SS", "", "J", "JJ", "C", "K", "T", "P", "H"]

def medials : List Text :=
  ["A", "AE", "YA", "YAE", "EO", "E", "YEO", "YE", "O", "WA", "WAE", "OE", "YO", "U", "WEO", "WE", "WI",
    "YU", "EU", "YI", "I"]

def finals : List Text :=
  ["", "G", "GG", "GS", "N", "NJ", "NH", "D", "L", "LG", "LM", "LB", "LS", "LT", "LP", "LH", "M", "B",
    "BS", "S", "SS", "NG", "J", "C", "K", "T", "P", "H"]

def sound? (sounds : List Text) (t : Text) : Option (Nat × Text) :=
  let fitting := (sounds.zipIdx).filter fun (sound, _) => sound.isPrefixOf t
  let longest := fitting.foldl (fun (best : Option (Text × Nat)) entry =>
    match best with
    | some (sound, _) => if sound.length < entry.1.length then some entry else best
    | none => some entry) none
  longest.map fun (sound, place) => (place, t.drop sound.length)

def syllable? (name : Text) : Option Nat := do
  let rest ← after? "HANGUL SYLLABLE " name
  let (initial, rest) ← sound? initials rest
  let (medial, rest) ← sound? medials rest
  let (final, rest) ← sound? finals rest
  if rest.isEmpty then
    some (0xAC00 + (initial * medials.length + medial) * finals.length + final)
  else none

def selector? (name : Text) : Option Nat := do
  let digits ← after? "VS" name
  let values ← digits.mapM fun c => if c.isDigit then some (c.toNat - '0'.toNat) else none
  let number := values.foldl (fun value d => value * 10 + d) 0
  if digits.head? == some '0' || number == 0 || number > 256 then none
  else if number ≤ 16 then some (0xFE00 + number - 1)
  else some (0xE0100 + number - 17)

def codeIn (name : List Text) (rows : List (Nat × List String)) : Option Nat :=
  rows.findSome? fun (first, pieces) =>
    placeIn name [] first (pieces.flatMap fun piece => entries piece.toList)

def tables : List (List (Nat × List String)) :=
  [letters, scripts, symbols, forms, ancient, glyphs, scores, pictures]

def code? (name : Text) : Option Nat :=
  let shown := name.map Char.toUpper
  let parts := words shown
  (numbered.findSome? fun n => n.code? name) <|> syllable? name <|>
    if join [' '] parts != shown then none
    else
      (controls.find? fun entry => entry.1.toList == shown).map (·.2) <|> selector? shown <|>
        tables.findSome? (codeIn parts)

end Forwarding.Text.CharacterName
