import Forwarding.Text.Basic

/-! Where a text occurs in another one, and cutting a text into parts.

A limit says how often a text is cut at most; without one it is cut wherever it can be.
-/

set_option autoImplicit false

namespace Forwarding.Text

def indexFrom (part : Text) (place : Nat) : Text → Option Nat
  | [] => if part.isEmpty then some place else none
  | c :: t => if part.isPrefixOf (c :: t) then some place else indexFrom part (place + 1) t

def firstPlace? (part t : Text) : Option Nat := indexFrom part 0 t

def lastPlace? (part t : Text) : Option Nat :=
  (firstPlace? part.reverse t.reverse).map fun place => t.length - place - part.length

/-- How often a text occurs without overlap; the counter says how much of an occurrence is left. -/
def countFrom (part : Text) : Nat → Text → Nat
  | _, [] => 0
  | left + 1, _ :: t => countFrom part left t
  | 0, c :: t =>
    if part.isPrefixOf (c :: t) then 1 + countFrom part (part.length - 1) t else countFrom part 0 t

def occurrences (part t : Text) : Nat :=
  if part.isEmpty then t.length + 1 else countFrom part 0 t

/-- The pieces between the occurrences of a separator. The number bounds how often the text is cut. -/
def cut (separator : Text) : Nat → Text → List Text
  | 0, t => [t]
  | limit + 1, t =>
    match firstPlace? separator t with
    | some place => t.take place :: cut separator limit (t.drop (place + separator.length))
    | none => [t]

def cutFromEnd (separator : Text) (limit : Nat) (t : Text) : List Text :=
  ((cut separator.reverse limit t.reverse).map List.reverse).reverse

/-- The words of a text; when it has been cut often enough, the rest is one word. -/
def cutWords (isSpace : Char → Bool) : Nat → Text → List Text
  | 0, t =>
    let t := t.dropWhile isSpace
    if t.isEmpty then [] else [t]
  | limit + 1, t =>
    let t := t.dropWhile isSpace
    let word := t.takeWhile fun c => !isSpace c
    if word.isEmpty then [] else word :: cutWords isSpace limit (t.drop word.length)

def cutWordsFromEnd (isSpace : Char → Bool) (limit : Nat) (t : Text) : List Text :=
  ((cutWords isSpace limit t.reverse).map List.reverse).reverse

/-- The first occurrences of a text replaced by another one. The empty text occurs at both ends and between
every two characters. -/
def replaceSome (old new : Text) (limit : Nat) (t : Text) : Text :=
  if old.isEmpty then
    let count := min limit (t.length + 1)
    (t.take (count - 1)).foldl (fun found c => found ++ [c] ++ new) (if count == 0 then [] else new) ++
      t.drop (count - 1)
  else join new (cut old limit t)

def cutLines (isBreak : Char → Bool) (keeps : Bool) : Text → List Text
  | [] => []
  | '\r' :: '\n' :: t => (if keeps then ['\r', '\n'] else []) :: cutLines isBreak keeps t
  | c :: t =>
    if isBreak c then (if keeps then [c] else []) :: cutLines isBreak keeps t
    else
      match t, cutLines isBreak keeps t with
      | [], _ => [[c]]
      | _, first :: more => (c :: first) :: more
      | _, [] => [[c]]

/-- The text with tabs replaced by spaces up to the next column that is a multiple of some size. -/
def expandTabs (size : Nat) : Nat → Text → Text
  | _, [] => []
  | column, c :: t =>
    if c == '\t' then
      let width := if size == 0 then 0 else size - column % size
      List.replicate width ' ' ++ expandTabs size (column + width) t
    else if c == '\n' || c == '\r' then c :: expandTabs size 0 t
    else c :: expandTabs size (column + 1) t

def around? (separator t : Text) : Option (Text × Text) :=
  (firstPlace? separator t).map fun place => (t.take place, t.drop (place + separator.length))

def aroundLast? (separator t : Text) : Option (Text × Text) :=
  (lastPlace? separator t).map fun place => (t.take place, t.drop (place + separator.length))

/-- The text filled up on both sides to a width; with an odd number of places the left gets one more if the
width is odd. -/
def centered (width : Nat) (fill : Char) (t : Text) : Text :=
  let places := width - t.length
  let left := places / 2 + (if places % 2 == 1 && width % 2 == 1 then 1 else 0)
  List.replicate left fill ++ t ++ List.replicate (places - left) fill

end Forwarding.Text
