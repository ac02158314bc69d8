import Forwarding.Script.Machine.Value
import Std.Data.HashMap

/-! Collections of values by keys, in the order in which the keys came.

Two keys are the same where their codes are. An entry that is taken away leaves a gap, so that places of
the others stay as they are.
-/

set_option autoImplicit false

namespace Forwarding.Script

open Text

structure Entry where
  code : String
  key : Value
  item : Value
  deriving Repr, Inhabited

structure Dictionary where
  entries : Array (Option Entry) := #[]
  /-- Where the entry with a code is. -/
  places : Std.HashMap String Nat := {}
  /-- Places of a table by hashes that an entry has been taken from. -/
  vacated : List Nat := []
  /-- The place of such a table from which on an entry is looked for that may be any. -/
  cursor : Nat := 0

namespace Dictionary

def textCode (t : Text) : String := "t" ++ String.ofList t

def size (d : Dictionary) : Nat := d.places.size

def isEmpty (d : Dictionary) : Bool := d.places.isEmpty

def toList (d : Dictionary) : List Entry := d.entries.toList.filterMap id

def keys (d : Dictionary) : List Value := d.toList.map Entry.key

def items (d : Dictionary) : List Value := d.toList.map Entry.item

def entry? (d : Dictionary) (code : String) : Option Entry :=
  match d.places[code]? with
  | some place => (d.entries[place]?).join
  | none => none

def get? (d : Dictionary) (code : String) : Option Value := (d.entry? code).map Entry.item

def contains (d : Dictionary) (code : String) : Bool := d.places.contains code

/-- Gives a key a value; a key that is there stays at its place. -/
def insert (d : Dictionary) (code : String) (key item : Value) : Dictionary :=
  match d with
  | ⟨entries, places, vacated, cursor⟩ =>
    match places[code]? with
    | some place =>
      ⟨entries.modify place fun e => e.map fun e => { e with item }, places, vacated, cursor⟩
    | none =>
      let place := entries.size
      ⟨entries.push (some ⟨code, key, item⟩), places.insert code place, vacated, cursor⟩

def erase (d : Dictionary) (code : String) : Dictionary :=
  match d with
  | ⟨entries, places, vacated, cursor⟩ =>
    match places[code]? with
    | some place => ⟨entries.modify place fun _ => none, places.erase code, vacated, cursor⟩
    | none => ⟨entries, places, vacated, cursor⟩

def from? (d : Dictionary) (place : Nat) : Option (Entry × Nat) :=
  let rec go : Nat → Nat → Option (Entry × Nat)
    | 0, _ => none
    | count + 1, place =>
      match d.entries[place]? with
      | some (some e) => some (e, place + 1)
      | some none => go count (place + 1)
      | none => none
  go (d.entries.size - place) place

def below? (d : Dictionary) : Nat → Option (Entry × Nat)
  | 0 => none
  | place + 1 =>
    match d.entries[place]? with
    | some (some e) => some (e, place)
    | _ => below? d place

def last? (d : Dictionary) : Option Entry := (d.below? d.entries.size).map Prod.fst

def getText? (d : Dictionary) (name : Text) : Option Value := d.get? (textCode name)

def insertText (d : Dictionary) (name : Text) (item : Value) : Dictionary :=
  d.insert (textCode name) (.text name) item

def eraseText (d : Dictionary) (name : Text) : Dictionary := d.erase (textCode name)

def ofTexts (entries : List (Text × Value)) : Dictionary :=
  entries.foldl (fun d entry => d.insertText entry.1 entry.2) {}

def texts (d : Dictionary) : List (Text × Value) :=
  d.toList.filterMap fun e => e.key.text?.map fun name => (name, e.item)

end Dictionary

end Forwarding.Script

/-! Sets of keys, kept in a table by their hashes.

The entries of a set stand where their hashes lead to, and a set is gone through in that order. A table has
a power of two of places and grows before three fifths of them are taken. The item of an entry is its
hash.
-/

namespace Forwarding.Script.Dictionary

def room (d : Dictionary) : Nat := max 8 d.entries.size

/-- How many places next to each other are tried before another one is chosen. -/
def neighbours : Nat := 9

/-- The first free place in a row of some places, if there is one, and the last one before it that an entry
has been taken from. -/
def freeFrom (entries : Array (Option Entry)) (vacated : List Nat) (place : Nat) (last : Option Nat) :
    Nat → Option Nat × Option Nat
  | 0 => (none, last)
  | count + 1 =>
    match entries[place]? with
    | some none =>
      if vacated.contains place then freeFrom entries vacated (place + 1) (some place) count
      else (some place, last)
    | some (some _) => freeFrom entries vacated (place + 1) last count
    | none => (none, last)

/-- The place that a hash leads to: the last one on the way to a free place that an entry has been taken from,
or else the free place. The first number bounds how often another place is chosen. -/
def seat (entries : Array (Option Entry)) (vacated : List Nat) (mask : Nat) :
    Nat → Nat → Nat → Option Nat → Nat
  | 0, place, _, _ => place
  | count + 1, place, rest, last =>
    let reach := if place + neighbours ≤ mask then neighbours + 1 else 1
    match freeFrom entries vacated place last reach with
    | (some found, last) => last.getD found
    | (none, last) =>
      let rest := rest / 32
      seat entries vacated mask count ((place * 5 + 1 + rest) % (mask + 1)) rest last

def startOf (e : Entry) : Nat :=
  match e.item with
  | .integer h => (h % 18446744073709551616).toNat
  | _ => 0

/-- The set with an entry that is not in it, in a table with enough places. -/
def settle (d : Dictionary) (e : Entry) : Dictionary :=
  match d with
  | ⟨entries, places, vacated, cursor⟩ =>
    let entries := if entries.isEmpty then (List.replicate 8 none).toArray else entries
    let mask := entries.size - 1
    let start := startOf e
    let place := seat entries vacated mask (mask + 100) (start % (mask + 1)) start none
    ⟨entries.set! place (some e), places.insert e.code place, vacated.erase place, cursor⟩

def filled (d : Dictionary) : Nat := d.size + d.vacated.length

def roomFor (count : Nat) : Nat → Nat → Nat
  | 0, size => size
  | left + 1, size => if size ≤ count then roomFor count left (2 * size) else size

def resized (d : Dictionary) (count : Nat) : Dictionary :=
  let size := roomFor count 64 8
  d.toList.foldl settle ⟨(List.replicate size none).toArray, {}, [], d.cursor⟩

def roomier (d : Dictionary) : Dictionary := d.resized (if 50000 < d.size then d.size * 2 else d.size * 4)

def isCrowded (room filled : Nat) : Bool := (room - 1) * 3 ≤ filled * 5

def addKey (d : Dictionary) (e : Entry) : Dictionary :=
  if d.contains e.code then d
  else
    let filled := d.filled
    let d := d.settle e
    if filled < d.filled && isCrowded d.room d.filled then d.roomier else d

def takeKey (d : Dictionary) (code : String) : Dictionary :=
  match d with
  | ⟨entries, places, vacated, cursor⟩ =>
    match places[code]? with
    | some place => ⟨entries.modify place fun _ => none, places.erase code, place :: vacated, cursor⟩
    | none => ⟨entries, places, vacated, cursor⟩

/-- The entry that is taken from a set when any would do, and the set without it. -/
def takeAny? (d : Dictionary) : Option (Entry × Dictionary) :=
  let found := match d.from? (d.cursor % d.room) with
    | some found => some found
    | none => d.from? 0
  found.map fun (e, behind) => (e, { d.takeKey e.code with cursor := behind })

def widened (d : Dictionary) (count : Nat) : Dictionary :=
  if isCrowded d.room (d.filled + count) then d.resized ((d.size + count) * 2) else d

def uniteKeys (d other : Dictionary) : Dictionary :=
  if other.isEmpty then d
  else
    let d := d.widened other.size
    if d.filled == 0 && d.room == other.room && other.vacated.isEmpty then { other with cursor := d.cursor }
    else other.toList.foldl addKey d

def ofKeys (entries : List Entry) : Dictionary := entries.foldl addKey {}

/-- A set with the keys of another one, in a table of its own. -/
def copied (d : Dictionary) : Dictionary := uniteKeys {} d

/-- The set of keys that a script lists as constants: it is filled from one that has been made before. -/
def ofConstants (d : Dictionary) : Dictionary := (ofKeys d.toList).copied

def lessKeys (d other : Dictionary) : Dictionary :=
  let d := other.toList.foldl (fun d e => d.takeKey e.code) d
  if (d.room - 1) / 4 < d.vacated.length then d.roomier else d

def withoutKeys (d other : Dictionary) : Dictionary :=
  if other.size < d.size / 4 then d.copied.lessKeys other
  else ofKeys (d.toList.filter fun e => !other.contains e.code)

def sharedKeys (d other : Dictionary) : Dictionary :=
  let (less, more) := if d.size < other.size then (d, other) else (other, d)
  ofKeys (less.toList.filter fun e => more.contains e.code)

/-- The set with some keys that are not in it, and without those that are. -/
def toggled (d : Dictionary) (entries : List Entry) : Dictionary :=
  entries.foldl (fun d e => if d.contains e.code then d.takeKey e.code else d.addKey e) d

/-- The set with the keys of another one that are not in it, and without those that are. -/
def toggleKeys (d other : Dictionary) : Dictionary := d.toggled other.toList

def separateKeys (d other : Dictionary) : Dictionary := other.copied.toggleKeys d

end Forwarding.Script.Dictionary
