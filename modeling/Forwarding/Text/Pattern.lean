import Forwarding.Text.Letter

/-! Regular expressions, and where they match.

A pattern is followed from left to right; where it leaves a choice, the ways are tried in their order, and
the first that lets the rest match is taken. So each part is given what is to be done behind it.
-/

set_option autoImplicit false

namespace Forwarding.Text

namespace Pattern

/-- Kinds of characters. -/
inductive Kind where
  | digit
  | blank
  | word
  deriving Repr, DecidableEq

/-- Whether capital and small letters are told apart. -/
inductive Casing where
  | exact
  /-- Only the letters of ASCII count as the same in both cases. -/
  | ascii
  | ignored
  deriving Repr, DecidableEq

/-- What a set of characters is made of. -/
inductive Item where
  | range (low high : Char)
  | kind (k : Kind) (isAscii isNegated : Bool)
  deriving Repr, DecidableEq

/-- Places between characters. -/
inductive Edge where
  | textStart
  | lineStart
  /-- The end, or the place before a line feed that ends the text. -/
  | finish
  | lineFinish
  | textEnd
  /-- Between a character of a word and one that is none. An empty text has neither such places nor
  others. -/
  | boundary (isAscii isNegated : Bool)
  deriving Repr, DecidableEq

/-- Which numbers of repetitions are tried first; what is seized is not given back. -/
inductive Greed where
  | most
  | fewest
  | seized
  deriving Repr, DecidableEq

end Pattern

open Pattern in
inductive Pattern where
  | empty
  | char (c : Char) (casing : Casing)
  /-- Any character; a line feed counts only if all do. -/
  | any (all : Bool)
  | set (isNegated : Bool) (casing : Casing) (items : List Item)
  | edge (e : Edge)
  | seq (first second : Pattern)
  | alt (first second : Pattern)
  | group (number : Nat) (inside : Pattern)
  /-- What a group has matched. -/
  | again (number : Nat) (casing : Casing)
  | times (least : Nat) (most : Option Nat) (greed : Greed) (repeated : Pattern)
  | ahead (isNegated : Bool) (inside : Pattern)
  | behind (width : Nat) (isNegated : Bool) (inside : Pattern)
  /-- One of two patterns, by whether a group has matched. -/
  | choice (number : Nat) (yes no : Pattern)
  /-- A pattern whose first match is not given back. -/
  | seized (inside : Pattern)
  deriving Repr, DecidableEq

namespace Pattern

def Kind.holds (k : Kind) (isAscii : Bool) (c : Char) : Bool :=
  match k, isAscii with
  | .digit, true => c.isDigit
  | .digit, false => isDecimalDigit c
  | .blank, true => c == ' ' || (9 ≤ c.toNat && c.toNat ≤ 13)
  | .blank, false => isBlank c
  | .word, true => c.isAlphanum || c == '_'
  | .word, false => isWordChar c

def Casing.variants (casing : Casing) (c : Char) : List Char :=
  let single : Text → List Char
    | [d] => [d]
    | _ => []
  match casing with
  | .exact => [c]
  | .ascii => [c, c.toLower, c.toUpper]
  | .ignored => c :: single (Letter.lower c) ++ single (Letter.upper c)

def Casing.agrees (casing : Casing) (c d : Char) : Bool :=
  match casing with
  | .exact => c == d
  | .ascii => c.toLower == d.toLower
  | .ignored => c == d || Letter.lower c == Letter.lower d || Letter.upper c == Letter.upper d

def Item.holds (c : Char) : Item → Bool
  | .range low high => low ≤ c && c ≤ high
  | .kind k isAscii isNegated => k.holds isAscii c != isNegated

def setHolds (casing : Casing) (items : List Item) (c : Char) : Bool :=
  (casing.variants c).any fun d => items.any (Item.holds d)

/-- A text that is searched, as far as it counts. -/
structure Scene where
  chars : Array Char
  finish : Nat

namespace Scene

def ofText (t : Text) : Scene := ⟨t.toArray, t.length⟩

def at? (s : Scene) (place : Nat) : Option Char :=
  if place < s.finish then s.chars[place]? else none

def before? (s : Scene) (place : Nat) : Option Char :=
  match place with
  | 0 => none
  | n + 1 => s.chars[n]?

def isEdge (s : Scene) (place : Nat) : Edge → Bool
  | .textStart => place == 0
  | .lineStart => place == 0 || s.before? place == some '\n'
  | .finish =>
    s.finish ≤ place || (place + 1 == s.finish && s.at? place == some '\n')
  | .lineFinish => s.finish ≤ place || s.at? place == some '\n'
  | .textEnd => s.finish ≤ place
  | .boundary isAscii isNegated =>
    let isWord (c : Option Char) : Bool := (c.map (Kind.holds .word isAscii)).getD false
    s.finish != 0 && (isWord (s.before? place) != isWord (s.at? place)) != isNegated

def between (s : Scene) (first last : Nat) : Text := (s.chars.extract first last).toList

end Scene

/-- How far a match has come: its place, the stretches of its groups, and the group that has ended last. -/
structure Found where
  place : Nat
  groups : List (Nat × Nat × Nat) := []
  last : Option Nat := none
  deriving Repr, DecidableEq

abbrev Next := Found → Option Found

def Found.step (f : Found) (count : Nat) : Found := { f with place := f.place + count }

def orElse (first : Option Found) (second : Unit → Option Found) : Option Found :=
  match first with
  | some f => some f
  | none => second ()

/-- Follows a part as often as possible. A repetition that has not got on is the last one. The first number
bounds the repetitions. -/
def mostTimes (body : Next → Next) (least : Nat) (most : Option Nat) (next : Next) :
    Nat → Nat → Option Nat → Next
  | 0, _, _, f => next f
  | fuel + 1, count, before, f =>
    if count < least then body (mostTimes body least most next fuel (count + 1) before) f
    else if before != some f.place && most.all (fun bound => count < bound) then
      orElse (body (mostTimes body least most next fuel (count + 1) (some f.place)) f) fun _ => next f
    else next f

def fewestTimes (body : Next → Next) (least : Nat) (most : Option Nat) (next : Next) :
    Nat → Nat → Option Nat → Next
  | 0, _, _, f => next f
  | fuel + 1, count, before, f =>
    if count < least then body (fewestTimes body least most next fuel (count + 1) before) f
    else
      orElse (next f) fun _ =>
        if before != some f.place && most.all (fun bound => count < bound) then
          body (fewestTimes body least most next fuel (count + 1) (some f.place)) f
        else none

def follow (s : Scene) : Pattern → Next → Next
  | empty, next, f => next f
  | char c casing, next, f =>
    match s.at? f.place with
    | some d => if casing.agrees c d then next (f.step 1) else none
    | none => none
  | any all, next, f =>
    match s.at? f.place with
    | some d => if all || d != '\n' then next (f.step 1) else none
    | none => none
  | set isNegated casing items, next, f =>
    match s.at? f.place with
    | some d => if setHolds casing items d != isNegated then next (f.step 1) else none
    | none => none
  | edge e, next, f => if s.isEdge f.place e then next f else none
  | seq first second, next, f => follow s first (follow s second next) f
  | alt first second, next, f => orElse (follow s first next f) fun _ => follow s second next f
  | group number inside, next, f =>
    follow s inside (fun g => next { g with
      groups := (number, f.place, g.place) :: g.groups.filter (·.1 != number)
      last := some number }) f
  | again number casing, next, f =>
    match f.groups.lookup number with
    | none => none
    | some (first, last) =>
      let size := last - first
      let here := s.between f.place (f.place + size)
      if f.place + size ≤ s.finish &&
          ((s.between first last).zip here).all (fun (c, d) => casing.agrees c d) then
        next (f.step size)
      else none
  | times least most greed repeated, next, f =>
    let fuel := least + (s.finish - f.place) + 2
    match greed with
    | .most => mostTimes (follow s repeated) least most next fuel 0 none f
    | .fewest => fewestTimes (follow s repeated) least most next fuel 0 none f
    | .seized =>
      match mostTimes (follow s repeated) least most some fuel 0 none f with
      | some g => next g
      | none => none
  | ahead isNegated inside, next, f =>
    match follow s inside some f, isNegated with
    | some g, false => next { g with place := f.place }
    | none, true => next f
    | _, _ => none
  | behind width isNegated inside, next, f =>
    let found := if f.place < width then none
      else follow s inside some { f with place := f.place - width }
    match found, isNegated with
    | some g, false => next { g with place := f.place }
    | none, true => next f
    | _, _ => none
  | choice number yes no, next, f =>
    if (f.groups.lookup number).isSome then follow s yes next f else follow s no next f
  | seized inside, next, f =>
    match follow s inside some f with
    | some g => next g
    | none => none

def matchAt? (p : Pattern) (s : Scene) (place : Nat) (accepts : Found → Bool) : Option Found :=
  follow s p (fun f => if accepts f then some f else none) { place }

def search? (p : Pattern) (s : Scene) (place : Nat) (accepts : Found → Bool) : Option (Nat × Found) :=
  (List.range (s.finish + 1 - place)).findSome? fun offset =>
    (matchAt? p s (place + offset) accepts).map fun f => (place + offset, f)

/-- The matches from a place on, of which none lies over another, behind `count` others; as many as are
`wanted`, or all if none is. If the first has to be new, it is not the empty one at the place; what follows an
empty match has to be new. The first number bounds the matches. -/
def allFrom (p : Pattern) (s : Scene) (wanted : Nat) : Nat → Nat → Nat → Bool → List (Nat × Found)
  | 0, _, _, _ => []
  | fuel + 1, count, place, isNew =>
    if wanted != 0 && wanted ≤ count then []
    else
      match search? p s place fun f => !isNew || f.place != place with
      | none => []
      | some (start, f) =>
        (start, f) :: allFrom p s wanted fuel (count + 1) f.place (f.place == start)

/-- The matches from a place on. Of two that follow each other at most one is empty, or else the place moves
on; so there are not more than two for each place. -/
def all (p : Pattern) (s : Scene) (wanted place : Nat) (isNew : Bool) : List (Nat × Found) :=
  allFrom p s wanted (2 * (s.finish + 1 - place)) 0 place isNew

def occurs (p : Pattern) (t : Text) : Bool := (search? p (.ofText t) 0 fun _ => true).isSome

/-- The fewest and the most characters that a pattern matches, given those of its groups. What has no bound
is bounded by `limit`. -/
def widths (limit : Nat) (known : List (Nat × Nat × Nat)) : Pattern → Nat × Nat
  | empty | edge _ | ahead _ _ | behind _ _ _ => (0, 0)
  | char _ _ | any _ | set _ _ _ => (1, 1)
  | seq first second =>
    let (a, b) := widths limit known first
    let (c, d) := widths limit known second
    (min (a + c) limit, min (b + d) limit)
  | alt first second | choice _ first second =>
    let (a, b) := widths limit known first
    let (c, d) := widths limit known second
    (min a c, max b d)
  | group _ inside | seized inside => widths limit known inside
  | again number _ => (known.lookup number).getD (0, limit)
  | times least most _ repeated =>
    let (a, b) := widths limit known repeated
    (min (a * least) limit, min (b * most.getD limit) limit)

end Pattern

end Forwarding.Text
